import RelayPay.Scenario
import RelayPay.Statements.Reconciliation

/-! Reconciliation runs: imports, claims under a lease, and the transaction that writes the results. -/

namespace RelayPay.Statements

open ReadCommitted Txn

/-- The rows of statements and runs. `world` is everything else, which other transactions change at
any time; `past` is not a column but the worlds there were before. -/
structure RunState where
  now : Time
  world : World
  past : List World
  books : ImportBooks
  matchRows : List ReconciliationMatch
  mismatchRows : List ReconciliationMismatch

inductive RunKey where
  | run (r : String)
  | source (r : String)
  deriving DecidableEq

abbrev RunTx (α : Type) := Txn RunState RunKey Empty Error α

namespace RunState

def run (s : RunState) (r : String) : Option ReconciliationRun := s.books.runs.get r

def statement (s : RunState) (r : String) : Option StatementImport := s.books.imports.get r

def matchesOf (s : RunState) (r : String) : List ReconciliationMatch := s.matchRows.filter fun m => m.run = r

def mismatchesOf (s : RunState) (r : String) : List ReconciliationMismatch :=
  s.mismatchRows.filter fun m => m.run = r

def worlds (s : RunState) : List World := s.world :: s.past

def putRun (r : String) (run : ReconciliationRun) (s : RunState) : RunState :=
  { s with books := { s.books with runs := s.books.runs.put r run } }

def addImport (r : String) (statement : StatementImport) (run : ReconciliationRun) (s : RunState) : RunState :=
  { s with books := { s.books with
      imports := s.books.imports.put r statement, runs := s.books.runs.put r run } }

def addResults (result : Review) (s : RunState) : RunState :=
  { s with
    matchRows := s.matchRows ++ result.matched, mismatchRows := s.mismatchRows ++ result.mismatched }

end RunState

def importTransaction (lib : Library) (req : ImportRequest) : RunTx Unit := do
  acquire (.source req.sourceReference)
  let books ← query RunState.books
  match importStatement lib books req with
  | .error e => raise e
  | .ok (_, result) =>
    if result.created then
      modify (RunState.addImport req.sourceReference result.statementImport result.reconciliationRun)
    else done ()

def claimable (now : Time) (run : ReconciliationRun) : Bool :=
  run.status = .pending || run.status = .running && run.leaseExpiresAt.any fun t => t ≤ now

def ReconciliationRun.claim (run : ReconciliationRun) (now : Time) (token : Token) (leaseSeconds : ℕ) :
    ReconciliationRun :=
  { run with
    status := .running
    attemptCount := run.attemptCount + 1
    leaseToken := some token
    leaseExpiresAt := some (now + seconds leaseSeconds)
    startedAt := some (run.startedAt.getD now)
    completedAt := none
    safeErrorCode := none }

def claimReconciliationRun (leaseSeconds : ℕ) (r : String) (token : Token) : RunTx Bool := do
  let now ← query RunState.now
  let free ← attempt (.run r)
  if free then
    let row ← query fun s => (s.run r).filter (claimable now)
    match row with
    | none => done false
    | some run =>
      modify (RunState.putRun r (run.claim now token leaseSeconds))
      done true
  else done false

def heldRun (s : RunState) (r : String) (token : Token) : Option ReconciliationRun :=
  (s.run r).filter fun run => run.status = .running && run.leaseToken = some token

def ReconciliationRun.complete (run : ReconciliationRun) (now : Time) : ReconciliationRun :=
  { run with
    status := .completed
    leaseToken := none
    leaseExpiresAt := none
    completedAt := some now
    safeErrorCode := none }

def readEvidence : RunTx Evidence := do
  let operations ← query fun s => s.world.operations
  let authorizations ← query fun s => s.world.payments
  let captures ← query fun s => s.world.payments
  let voids ← query fun s => s.world.payments
  let refunds ← query fun s => s.world.payments
  done ⟨operations, ⟨authorizations, captures, voids, refunds⟩⟩

def completeReconciliation (r : String) (token : Token) : RunTx Bool := do
  acquire (.run r)
  let row ← query fun s => heldRun s r token
  match row with
  | none => done false
  | some run =>
    let found ← query fun s => s.statement r
    let statement ← require found (.runtime "reconciliation run has no statement import")
    let ev ← readEvidence
    modify (RunState.addResults (review r statement ev))
    let now ← query RunState.now
    modify (RunState.putRun r (run.complete now))
    done true

def ReconciliationRun.fail (run : ReconciliationRun) (now : Time) : ReconciliationRun :=
  { run with
    status := .failed
    leaseToken := none
    leaseExpiresAt := none
    completedAt := some now
    safeErrorCode := some "RECONCILIATION_FAILED" }

def failReconciliation (r : String) (token : Token) : RunTx Unit := do
  acquire (.run r)
  let row ← query fun s => heldRun s r token
  match row with
  | none => done ()
  | some run =>
    let now ← query RunState.now
    modify (RunState.putRun r (run.fail now))

inductive RunProcess where
  | importing (req : ImportRequest)
  | claiming (r : String) (token : Token)
  | claimed (r : String) (token : Token)
  | failing (r : String) (token : Token)
  | finished

def reconciliation (lib : Library) (leaseSeconds : ℕ) : System RunState RunKey Empty Error RunProcess where
  txn
    | .importing req => some do
        importTransaction lib req
        done .finished
    | .claiming r token => some do
        let taken ← claimReconciliationRun leaseSeconds r token
        done (if taken then .claimed r token else .finished)
    | .claimed r token => some do
        let _ ← completeReconciliation r token
        done .finished
    | .failing r token => some do
        failReconciliation r token
        done .finished
    | .finished => none
  fire := nofun
  handler
    | .claimed r token, _ => .failing r token
    | _, _ => .finished
  dbError _ := True
  act _ _ _ _ := False
  env s s' := ∃ world now, s.now ≤ now ∧
    s' = { s with now := now, world := world, past := s.world :: s.past }
  spawn
    | .importing _ => True
    | .claiming _ _ => True
    | _ => False

section Updates

variable (s : RunState) (r r' : String) (row : ReconciliationRun) (statement : StatementImport) (result : Review)

@[simp] lemma run_putRun : (s.putRun r row).run r' = if r' = r then some row else s.run r' :=
  Table.get_put _ _ _ _

@[simp] lemma statement_putRun : (s.putRun r row).statement r' = s.statement r' := rfl

@[simp] lemma matchesOf_putRun : (s.putRun r row).matchesOf r' = s.matchesOf r' := rfl

@[simp] lemma mismatchesOf_putRun : (s.putRun r row).mismatchesOf r' = s.mismatchesOf r' := rfl

@[simp] lemma worlds_putRun : (s.putRun r row).worlds = s.worlds := rfl

@[simp] lemma run_addImport : (s.addImport r statement row).run r' = if r' = r then some row else s.run r' :=
  Table.get_put _ _ _ _

@[simp] lemma statement_addImport :
    (s.addImport r statement row).statement r' = if r' = r then some statement else s.statement r' :=
  Table.get_put _ _ _ _

@[simp] lemma matchesOf_addImport : (s.addImport r statement row).matchesOf r' = s.matchesOf r' := rfl

@[simp] lemma mismatchesOf_addImport : (s.addImport r statement row).mismatchesOf r' = s.mismatchesOf r' := rfl

@[simp] lemma worlds_addImport : (s.addImport r statement row).worlds = s.worlds := rfl

@[simp] lemma run_addResults : (s.addResults result).run r' = s.run r' := rfl

@[simp] lemma statement_addResults : (s.addResults result).statement r' = s.statement r' := rfl

@[simp] lemma worlds_addResults : (s.addResults result).worlds = s.worlds := rfl

@[simp] lemma matchesOf_addResults : (s.addResults result).matchesOf r' =
    s.matchesOf r' ++ result.matched.filter fun m => m.run = r' :=
  List.filter_append ..

@[simp] lemma mismatchesOf_addResults : (s.addResults result).mismatchesOf r' =
    s.mismatchesOf r' ++ result.mismatched.filter fun m => m.run = r' :=
  List.filter_append ..

end Updates

def ReconciliationRun.ended (run : ReconciliationRun) : Prop := run.status = .completed ∨ run.status = .failed

structure SameResults (r : String) (s s' : RunState) : Prop where
  matched : s'.matchesOf r = s.matchesOf r
  mismatched : s'.mismatchesOf r = s.mismatchesOf r

structure RunEvolves (s s' : RunState) : Prop where
  now : s.now ≤ s'.now
  worlds : s.worlds ⊆ s'.worlds
  statements : ∀ r statement, s.statement r = some statement → s'.statement r = some statement
  ended : ∀ r run, s.run r = some run → run.ended → s'.run r = some run ∧ SameResults r s s'

-- a row that is not there yet can be locked by nobody, and an import may insert it
def RunFrame : RunKey → RunState → RunState → Prop
  | .run r, s, s' => (∀ run, s.run r = some run → s'.run r = some run) ∧ SameResults r s s'
  | .source r, s, s' => s'.statement r = s.statement r

lemma SameResults.trans {r : String} {s s' s'' : RunState} (h : SameResults r s s') (h' : SameResults r s' s'') :
    SameResults r s s'' :=
  ⟨h'.matched.trans h.matched, h'.mismatched.trans h.mismatched⟩

def runLocks : Discipline RunState RunKey where
  frame := RunFrame
  evolves := RunEvolves
  frame_refl k s := by
    cases k with
    | run r => exact ⟨fun _ h => h, rfl, rfl⟩
    | source r => rfl
  frame_trans k s₁ s₂ s₃ h h' := by
    cases k with
    | run r => exact ⟨fun run hrun => h'.1 run (h.1 run hrun), h.2.trans h'.2⟩
    | source r => exact Eq.trans h' h
  evolves_refl s := ⟨le_rfl, fun _ h => h, fun _ _ h => h, fun _ _ h _ => ⟨h, rfl, rfl⟩⟩
  evolves_trans s₁ s₂ s₃ h h' := by
    refine ⟨h.now.trans h'.now, List.Subset.trans h.worlds h'.worlds, ?_, ?_⟩
    · intro r statement hst
      exact h'.statements r statement (h.statements r statement hst)
    · intro r run hrun hended
      obtain ⟨hrun', hsame⟩ := h.ended r run hrun hended
      obtain ⟨hrun'', hsame'⟩ := h'.ended r run hrun' hended
      exact ⟨hrun'', hsame.trans hsame'⟩

def Evidence.Seen (worlds : List World) (ev : Evidence) : Prop :=
  ∃ w₀ ∈ worlds, ∃ w₁ ∈ worlds, ∃ w₂ ∈ worlds, ∃ w₃ ∈ worlds, ∃ w₄ ∈ worlds,
    ev = ⟨w₀.operations, w₁.payments, w₂.payments, w₃.payments, w₄.payments⟩

inductive RunStep (s : RunState) : RunKey → RunState → Prop
  | imported {r statement} : s.statement r = none →
      (statement.items.map StatementItem.providerItemId).Nodup →
      RunStep s (.source r) (s.addImport r statement pendingRun)
  | moved {r run run'} : s.run r = some run → ¬run.ended → run'.status ≠ .completed →
      RunStep s (.run r) (s.putRun r run')
  | completed {r run run' statement ev} : s.run r = some run → ¬run.ended →
      s.statement r = some statement → ev.Seen s.worlds → run'.status = .completed →
      RunStep s (.run r) ((s.addResults (review r statement ev)).putRun r run')

def Outcome (s : RunState) (y : Running RunState RunKey Empty) : Prop :=
  y.state = s ∨ ∃ k ∈ y.held, RunStep s k y.state

section Respects

variable {held : List RunKey} {r : String}

lemma respects_putRun (hheld : .run r ∈ held) (run : ReconciliationRun) :
    runLocks.Respects held (RunState.putRun r run) := by
  intro s₀ s hview
  have hsame : SameResults r s₀ s := (hview.2 _ hheld).2
  refine ⟨⟨hview.1.now, hview.1.worlds, hview.1.statements, ?_⟩, ?_⟩
  · intro r' run' hrun' hended
    rw [run_putRun] at hrun' ⊢
    split at hrun'
    · next hr =>
      subst hr
      exact ⟨by rw [if_pos rfl]; exact hrun', hsame.matched, hsame.mismatched⟩
    · next hr =>
      obtain ⟨hkept, hresults⟩ := hview.1.ended r' run' hrun' hended
      exact ⟨by rw [if_neg hr]; exact hkept, hresults.matched, hresults.mismatched⟩
  · intro k hk
    cases k with
    | source r' => exact hk
    | run r' =>
      refine ⟨fun run' hrun' => ?_, hk.2.matched, hk.2.mismatched⟩
      rw [run_putRun] at hrun' ⊢
      split at hrun'
      · next hr =>
        rw [if_pos hr]
        exact hrun'
      · next hr =>
        rw [if_neg hr]
        exact hk.1 run' hrun'

lemma SameResults.addResults {s s' : RunState} (h : SameResults r s s') (result : Review) :
    SameResults r (s.addResults result) (s'.addResults result) :=
  ⟨by simp only [matchesOf_addResults, h.matched], by simp only [mismatchesOf_addResults, h.mismatched]⟩

lemma respects_addResults (result : Review) : runLocks.Respects held (RunState.addResults result) := by
  intro s₀ s hview
  refine ⟨⟨hview.1.now, hview.1.worlds, hview.1.statements, ?_⟩, ?_⟩
  · intro r run hrun hended
    obtain ⟨hkept, hresults⟩ := hview.1.ended r run hrun hended
    exact ⟨hkept, hresults.addResults result⟩
  · intro k hk
    cases k with
    | source r => exact hk
    | run r => exact ⟨hk.1, SameResults.addResults hk.2 result⟩

lemma respects_addImport (statement : StatementImport) :
    runLocks.Respects held (RunState.addImport r statement pendingRun) := by
  intro s₀ s hview
  refine ⟨⟨hview.1.now, hview.1.worlds, ?_, ?_⟩, ?_⟩
  · intro r' statement' hst
    rw [statement_addImport] at hst ⊢
    split at hst
    · next hr =>
      rw [if_pos hr]
      exact hst
    · next hr =>
      rw [if_neg hr]
      exact hview.1.statements r' statement' hst
  · intro r' run hrun hended
    rw [run_addImport] at hrun ⊢
    split at hrun
    · cases hrun
      rcases hended with h | h <;> cases h
    · next hr =>
      obtain ⟨hkept, hresults⟩ := hview.1.ended r' run hrun hended
      exact ⟨by rw [if_neg hr]; exact hkept, hresults.matched, hresults.mismatched⟩
  · intro k hk
    cases k with
    | source r' =>
      change (s.addImport r statement pendingRun).statement r' = (s₀.addImport r statement pendingRun).statement r'
      rw [statement_addImport, statement_addImport]
      split
      · rfl
      · exact hk
    | run r' =>
      refine ⟨fun run hrun => ?_, hk.2.matched, hk.2.mismatched⟩
      rw [run_addImport] at hrun ⊢
      split at hrun
      · next hr =>
        rw [if_pos hr]
        exact hrun
      · next hr =>
        rw [if_neg hr]
        exact hk.1 run hrun

end Respects

section Specs

variable {s : RunState} {r : String} {token : Token}

lemma claimable_not_ended {now : Time} {run : ReconciliationRun} (h : claimable now run = true) : ¬run.ended := by
  rintro (hended | hended) <;> simp [claimable, hended] at h

lemma heldRun_eq_some {run : ReconciliationRun} (h : heldRun s r token = some run) :
    s.run r = some run ∧ ¬run.ended := by
  obtain ⟨hrun, hheld⟩ := Option.filter_eq_some_iff.1 h
  refine ⟨hrun, ?_⟩
  rintro (hended | hended) <;> simp [hended] at hheld

lemma import_spec (lib : Library) (req : ImportRequest) :
    (importTransaction lib req).Wp runLocks (fun _ => True) (fun _ y => Outcome s y) ⟨s, [], []⟩ := by
  simp only [importTransaction, wp_bind, wp_acquire, wp_query]
  intro s₀ hview
  split
  · trivial
  · next books' result himport =>
    split
    · next hcreated =>
      obtain ⟨hnone, hpending, hids⟩ := importStatement_created himport hcreated
      rw [hpending, wp_modify]
      refine ⟨respects_addImport _, .inr ⟨.source req.sourceReference, List.mem_cons_self, .imported ?_ hids⟩⟩
      exact Eq.trans (hview.2 (.source req.sourceReference) List.mem_cons_self) hnone
    · exact .inl rfl

lemma claim_spec (leaseSeconds : ℕ) :
    (claimReconciliationRun leaseSeconds r token).Wp runLocks (fun _ => True) (fun _ y => Outcome s y)
      ⟨s, [], []⟩ := by
  simp only [claimReconciliationRun, wp_bind, wp_query, wp_attempt]
  intro s₀ hview
  constructor
  · simp only [if_true, wp_bind, wp_query]
    intro s₁ hview₁
    split
    · exact .inl rfl
    · next run hrow =>
      obtain ⟨hrun, hclaim⟩ := Option.filter_eq_some_iff.1 hrow
      have hkept : s.run r = some run := (hview₁.2 (.run r) List.mem_cons_self).1 run hrun
      simp only [wp_bind, wp_modify, wp_done]
      refine ⟨respects_putRun List.mem_cons_self _, .inr ⟨.run r, List.mem_cons_self, ?_⟩⟩
      exact .moved hkept (claimable_not_ended hclaim) (by simp [ReconciliationRun.claim])
  · exact .inl rfl

lemma fail_spec : (failReconciliation r token).Wp runLocks (fun _ => True) (fun _ y => Outcome s y) ⟨s, [], []⟩ := by
  simp only [failReconciliation, wp_bind, wp_acquire, wp_query]
  intro s₀ hview
  split
  · exact .inl rfl
  · next run hrow =>
    obtain ⟨hrun, hopen⟩ := heldRun_eq_some hrow
    have hkept : s.run r = some run := (hview.2 (.run r) List.mem_cons_self).1 run hrun
    simp only [wp_bind, wp_query, wp_modify]
    intro s₁ _
    refine ⟨respects_putRun List.mem_cons_self _, .inr ⟨.run r, List.mem_cons_self, ?_⟩⟩
    exact .moved hkept hopen (by simp [ReconciliationRun.fail])

lemma readEvidence_spec {x : Running RunState RunKey Empty} :
    readEvidence.Wp runLocks (fun _ => True) (fun ev y => y = x ∧ ev.Seen x.state.worlds) x := by
  have hseen : ∀ {s₀ : RunState}, runLocks.view x.held s₀ x.state → s₀.world ∈ x.state.worlds :=
    fun hview => hview.1.worlds List.mem_cons_self
  simp only [readEvidence, wp_bind, wp_query, wp_done]
  intro s₀ h₀ s₁ h₁ s₂ h₂ s₃ h₃ s₄ h₄
  exact ⟨trivial, _, hseen h₀, _, hseen h₁, _, hseen h₂, _, hseen h₃, _, hseen h₄, rfl⟩

lemma complete_spec :
    (completeReconciliation r token).Wp runLocks (fun _ => True) (fun _ y => Outcome s y) ⟨s, [], []⟩ := by
  simp only [completeReconciliation, wp_bind, wp_acquire, wp_query]
  intro s₀ hview
  split
  · exact .inl rfl
  · next run hrow =>
    obtain ⟨hrun, hopen⟩ := heldRun_eq_some hrow
    have hkept : s.run r = some run := (hview.2 (.run r) List.mem_cons_self).1 run hrun
    simp only [wp_bind, wp_query, wp_require]
    intro s₁ hview₁
    refine ⟨fun statement hst => ?_, fun _ => trivial⟩
    have hst' : s.statement r = some statement := hview₁.1.statements r statement hst
    refine readEvidence_spec.imp ?_
    rintro ev y ⟨rfl, hev⟩
    simp only [wp_modify, wp_done]
    refine ⟨respects_addResults _, fun s₂ _ => ⟨respects_putRun List.mem_cons_self _, ?_⟩⟩
    exact .inr ⟨.run r, List.mem_cons_self, .completed hkept hopen hst' hev rfl⟩

end Specs

structure RunState.Sound (s : RunState) : Prop where
  ids : ∀ r statement, s.statement r = some statement →
    (statement.items.map StatementItem.providerItemId).Nodup
  imported : ∀ r run, s.run r = some run → ∃ statement, s.statement r = some statement
  unwritten : ∀ r, (∀ run, s.run r = some run → run.status ≠ .completed) →
    s.matchesOf r = [] ∧ s.mismatchesOf r = []
  written : ∀ r run, s.run r = some run → run.status = .completed →
    ∃ statement ev, s.statement r = some statement ∧ ev.Seen s.worlds ∧
      s.matchesOf r = (review r statement ev).matched ∧ s.mismatchesOf r = (review r statement ev).mismatched

section Steps

variable {s s' : RunState} {k : RunKey} {r r' : String} {statement : StatementImport} {ev : Evidence}

lemma filter_review (h : r' ≠ r) : ((review r statement ev).matched.filter fun m => m.run = r') = [] ∧
      ((review r statement ev).mismatched.filter fun m => m.run = r') = [] := by
  constructor
  · rw [List.filter_eq_nil_iff]
    intro m hm
    simp [review_run.1 m hm, Ne.symm h]
  · rw [List.filter_eq_nil_iff]
    intro m hm
    simp [review_run.2 m hm, Ne.symm h]

lemma filter_review_self :
    ((review r statement ev).matched.filter fun m => m.run = r) = (review r statement ev).matched ∧
      ((review r statement ev).mismatched.filter fun m => m.run = r) = (review r statement ev).mismatched := by
  constructor
  · rw [List.filter_eq_self]
    intro m hm
    simp [review_run.1 m hm]
  · rw [List.filter_eq_self]
    intro m hm
    simp [review_run.2 m hm]

lemma sameResults_addResults (h : r' ≠ r) : SameResults r' s (s.addResults (review r statement ev)) :=
  ⟨by rw [matchesOf_addResults, (filter_review h).1, List.append_nil],
    by rw [mismatchesOf_addResults, (filter_review h).2, List.append_nil]⟩

lemma Evidence.Seen.mono {worlds worlds' : List World} (h : ev.Seen worlds) (hsub : worlds ⊆ worlds') :
    ev.Seen worlds' := by
  obtain ⟨w₀, h₀, w₁, h₁, w₂, h₂, w₃, h₃, w₄, h₄, rfl⟩ := h
  exact ⟨w₀, hsub h₀, w₁, hsub h₁, w₂, hsub h₂, w₃, hsub h₃, w₄, hsub h₄, rfl⟩

lemma RunStep.other (h : RunStep s k s') (hk : k ≠ .run r) (hs : s.Sound) :
    (∀ run, s.run r = some run → s'.run r = some run) ∧ SameResults r s s' := by
  cases h with
  | @imported r₀ statement hnone _ =>
    refine ⟨fun run hrun => ?_, rfl, rfl⟩
    obtain ⟨statement', hst⟩ := hs.imported r run hrun
    have hne : r ≠ r₀ := by
      rintro rfl
      rw [hnone] at hst
      cases hst
    rw [run_addImport, if_neg hne]
    exact hrun
  | @moved r₀ run₀ run' _ _ _ =>
    have hne : r ≠ r₀ := fun h => hk (h ▸ rfl)
    exact ⟨fun run hrun => by rw [run_putRun, if_neg hne]; exact hrun, rfl, rfl⟩
  | @completed r₀ run₀ run' statement ev _ _ _ _ _ =>
    have hne : r ≠ r₀ := fun h => hk (h ▸ rfl)
    have hsame : SameResults r s (s.addResults (review r₀ statement ev)) := sameResults_addResults hne
    exact ⟨fun run hrun => by rw [run_putRun, if_neg hne]; exact hrun, hsame.matched, hsame.mismatched⟩

lemma RunStep.open_run (h : RunStep s (.run r) s') : ∃ run, s.run r = some run ∧ ¬run.ended := by
  cases h with
  | moved hrun hopen _ => exact ⟨_, hrun, hopen⟩
  | completed hrun hopen _ _ _ => exact ⟨_, hrun, hopen⟩

lemma RunStep.statements (h : RunStep s k s')
    (hst : s.statement r = some statement) : s'.statement r = some statement := by
  cases h with
  | @imported r₀ statement₀ hnone _ =>
    have hne : r ≠ r₀ := by
      rintro rfl
      rw [hnone] at hst
      cases hst
    rw [statement_addImport, if_neg hne]
    exact hst
  | moved _ _ _ => exact hst
  | completed _ _ _ _ _ => exact hst

lemma RunStep.worlds (h : RunStep s k s') : s'.worlds = s.worlds ∧ s'.now = s.now := by
  cases h <;> exact ⟨rfl, rfl⟩

lemma RunStep.keeps (h : RunStep s k s') (hs : s.Sound) : runLocks.Keeps [k] s s' := by
  have hended : ∀ r run, s.run r = some run → run.ended → k ≠ .run r := by
    rintro r run hrun hended rfl
    obtain ⟨run', hrun', hopen⟩ := h.open_run
    rw [hrun] at hrun'
    cases hrun'
    exact hopen hended
  refine ⟨⟨h.worlds.2.ge, h.worlds.1 ▸ List.Subset.refl _, fun _ _ => h.statements, ?_⟩, ?_⟩
  · intro r run hrun hend
    obtain ⟨hkept, hsame⟩ := h.other (hended r run hrun hend) hs
    exact ⟨hkept run hrun, hsame⟩
  · intro k' hk'
    have hne : k ≠ k' := fun heq => hk' (heq ▸ List.mem_cons_self)
    cases k' with
    | run r => exact h.other hne hs
    | source r =>
      cases h with
      | @imported r₀ statement _ _ =>
        have hr : r ≠ r₀ := fun heq => hne (heq ▸ rfl)
        change (s.addImport r₀ statement pendingRun).statement r = s.statement r
        rw [statement_addImport, if_neg hr]
      | moved _ _ _ => rfl
      | completed _ _ _ _ _ => rfl

lemma ReconciliationRun.not_completed {run : ReconciliationRun} (h : ¬run.ended) : run.status ≠ .completed :=
  fun hstatus => h (.inl hstatus)

lemma RunState.Sound.addImport (hs : s.Sound) (hnone : s.statement r = none)
    (hids : (statement.items.map StatementItem.providerItemId).Nodup) : (s.addImport r statement pendingRun).Sound := by
  have hrun : s.run r = none := by
    cases hrun : s.run r with
    | none => rfl
    | some run =>
      obtain ⟨statement', hst⟩ := hs.imported r run hrun
      rw [hnone] at hst
      cases hst
  refine ⟨?_, ?_, ?_, ?_⟩
  · intro r' statement' hst
    rw [statement_addImport] at hst
    split at hst
    · cases hst
      exact hids
    · exact hs.ids r' statement' hst
  · intro r' run hrun'
    rw [run_addImport] at hrun'
    rw [statement_addImport]
    split at hrun'
    · next hr => exact ⟨statement, if_pos hr⟩
    · next hr =>
      rw [if_neg hr]
      exact hs.imported r' run hrun'
  · intro r' hopen
    refine hs.unwritten r' fun run hrun' => hopen run ?_
    have hne : r' ≠ r := by
      rintro rfl
      rw [hrun] at hrun'
      cases hrun'
    rw [run_addImport, if_neg hne]
    exact hrun'
  · intro r' run hrun' hcompleted
    rw [run_addImport] at hrun'
    split at hrun'
    · cases hrun'
      cases hcompleted
    · next hr =>
      obtain ⟨statement', ev', hst, hrest⟩ := hs.written r' run hrun' hcompleted
      exact ⟨statement', ev', by rw [statement_addImport, if_neg hr]; exact hst, hrest⟩

lemma RunState.Sound.putRun (hs : s.Sound) {run run' : ReconciliationRun} (hrun : s.run r = some run)
    (hopen : ¬run.ended) (hstatus : run'.status ≠ .completed) : (s.putRun r run').Sound := by
  refine ⟨hs.ids, ?_, ?_, ?_⟩
  · intro r' run₁ hrun₁
    rw [run_putRun] at hrun₁
    split at hrun₁
    · next hr => exact hr ▸ hs.imported r run hrun
    · exact hs.imported r' run₁ hrun₁
  · intro r' hall
    refine hs.unwritten r' fun run₁ hrun₁ => ?_
    by_cases hr : r' = r
    · subst hr
      rw [hrun] at hrun₁
      cases hrun₁
      exact ReconciliationRun.not_completed hopen
    · exact hall run₁ (by rw [run_putRun, if_neg hr]; exact hrun₁)
  · intro r' run₁ hrun₁ hcompleted
    rw [run_putRun] at hrun₁
    split at hrun₁
    · cases hrun₁
      exact absurd hcompleted hstatus
    · exact hs.written r' run₁ hrun₁ hcompleted

lemma RunState.Sound.complete (hs : s.Sound) {run run' : ReconciliationRun} (hrun : s.run r = some run)
    (hopen : ¬run.ended) (hst : s.statement r = some statement) (hev : ev.Seen s.worlds)
    (hstatus : run'.status = .completed) : ((s.addResults (review r statement ev)).putRun r run').Sound := by
  -- the run had no results before, and the new ones are all its own
  have hnone : s.matchesOf r = [] ∧ s.mismatchesOf r = [] := by
    apply hs.unwritten r
    intro run₁ hrun₁
    rw [hrun] at hrun₁
    cases hrun₁
    exact ReconciliationRun.not_completed hopen
  have hsame : ∀ {r'}, r' ≠ r → SameResults r' s (s.addResults (review r statement ev)) :=
    sameResults_addResults
  refine ⟨hs.ids, ?_, ?_, ?_⟩
  · intro r' run₁ hrun₁
    rw [run_putRun] at hrun₁
    split at hrun₁
    · next hr => exact ⟨statement, hr ▸ hst⟩
    · exact hs.imported r' run₁ hrun₁
  · intro r' hall
    have hr : r' ≠ r := by
      rintro rfl
      exact hall run' (by rw [run_putRun, if_pos rfl]) hstatus
    obtain ⟨hmatched, hmismatched⟩ := hs.unwritten r' fun run₁ hrun₁ =>
      hall run₁ (by rw [run_putRun, if_neg hr]; exact hrun₁)
    exact ⟨(hsame hr).matched.trans hmatched, (hsame hr).mismatched.trans hmismatched⟩
  · intro r' run₁ hrun₁ hcompleted
    rw [run_putRun] at hrun₁
    split at hrun₁
    · next hr =>
      subst hr
      refine ⟨statement, ev, hst, hev, ?_, ?_⟩
      · rw [matchesOf_putRun, matchesOf_addResults, hnone.1, filter_review_self.1, List.nil_append]
      · rw [mismatchesOf_putRun, mismatchesOf_addResults, hnone.2, filter_review_self.2, List.nil_append]
    · next hr =>
      obtain ⟨statement', ev', hst', hev', hmatched, hmismatched⟩ := hs.written r' run₁ hrun₁ hcompleted
      exact ⟨statement', ev', hst', hev', (hsame hr).matched.trans hmatched, (hsame hr).mismatched.trans hmismatched⟩

lemma RunStep.sound (h : RunStep s k s') (hs : s.Sound) : s'.Sound := by
  cases h with
  | imported hnone hids => exact hs.addImport hnone hids
  | moved hrun hopen hstatus => exact hs.putRun hrun hopen hstatus
  | completed hrun hopen hst hev hstatus => exact hs.complete hrun hopen hst hev hstatus

lemma Outcome.keeps {y : Running RunState RunKey Empty} (h : Outcome s y) (hs : s.Sound) :
    runLocks.Keeps y.held s y.state ∧ y.state.Sound := by
  rcases h with hsame | ⟨k, hk, hstep⟩
  · rw [hsame]
    exact ⟨⟨runLocks.evolves_refl s, fun k _ => runLocks.frame_refl k s⟩, hs⟩
  · obtain ⟨hevolves, hframe⟩ := hstep.keeps hs
    refine ⟨⟨hevolves, fun k' hk' => hframe k' ?_⟩, hstep.sound hs⟩
    rw [List.mem_singleton]
    rintro rfl
    exact hk' hk

end Steps

section System

variable {lib : Library} {leaseSeconds : ℕ}

lemma process_spec {l : RunProcess} {t : RunTx RunProcess} (s : RunState)
    (ht : (reconciliation lib leaseSeconds).txn l = some t) :
    t.Wp runLocks (fun _ => True) (fun _ y => Outcome s y) ⟨s, [], []⟩ := by
  cases l with
  | importing req =>
    cases ht
    rw [wp_bind]
    exact import_spec lib req
  | claiming r token =>
    cases ht
    rw [wp_bind]
    exact claim_spec leaseSeconds
  | claimed r token =>
    cases ht
    rw [wp_bind]
    exact complete_spec
  | failing r token =>
    cases ht
    rw [wp_bind]
    exact fail_spec
  | finished => cases ht

lemma reconciliation_disciplined : Disciplined runLocks (reconciliation lib leaseSeconds) RunState.Sound where
  commit {s} {l} {t} {l'} {y} hs ht he :=
    Outcome.keeps ((he.commits_plain (process_spec s ht)).1 l' rfl) hs
  act _ h := h.elim
  env := by
    rintro s _ hs ⟨world, now, hnow, rfl⟩
    have hworlds : s.worlds ⊆ world :: s.worlds := List.subset_cons_self _ _
    refine ⟨⟨⟨hnow, hworlds, fun _ _ h => h, fun _ _ h _ => ⟨h, rfl, rfl⟩⟩, ?_⟩, hs.ids, hs.imported, hs.unwritten, ?_⟩
    · intro k _
      cases k with
      | run r => exact ⟨fun _ h => h, rfl, rfl⟩
      | source r => rfl
    · intro r run hrun hcompleted
      obtain ⟨statement, ev, hst, hev, hresults⟩ := hs.written r run hrun hcompleted
      exact ⟨statement, ev, hst, hev.mono hworlds, hresults⟩

def RunState.start (now : Time) (world : World) : RunState := ⟨now, world, [], ⟨true, .empty, .empty⟩, [], []⟩

lemma start_sound (now : Time) (world : World) : (RunState.start now world).Sound where
  ids _ _ h := nomatch h
  imported _ _ h := nomatch h
  unwritten _ _ := ⟨rfl, rfl⟩
  written _ _ h := nomatch h

/-- A run that is not completed has no results, and a completed one has those of one review of its statement, for good.
-/
theorem run_reviewed_once {now : Time} {world : World} {c : Config RunState RunKey Error RunProcess}
    (h : Reach (reconciliation lib leaseSeconds) (.idle (.start now world)) c) (r : String) :
    ((∀ run, c.shared.run r = some run → run.status ≠ .completed) →
      c.shared.matchesOf r = [] ∧ c.shared.mismatchesOf r = []) ∧
    ∀ run, c.shared.run r = some run → run.status = .completed →
      ∃ statement ev, c.shared.statement r = some statement ∧ ev.Seen c.shared.worlds ∧
        c.shared.matchesOf r = (review r statement ev).matched ∧
        c.shared.mismatchesOf r = (review r statement ev).mismatched ∧
        Reviewed statement ev (c.shared.matchesOf r) (c.shared.mismatchesOf r) ∧
        ∀ c', Reach (reconciliation lib leaseSeconds) c c' →
          c'.shared.run r = some run ∧ c'.shared.statement r = some statement ∧
          SameResults r c.shared c'.shared := by
  have hstart := start_sound now world
  have hs : c.shared.Sound :=
    (Reach.atomic reconciliation_disciplined hstart h).invariant reconciliation_disciplined hstart
  refine ⟨hs.unwritten r, fun run hrun hcompleted => ?_⟩
  obtain ⟨statement, ev, hst, hev, hmatched, hmismatched⟩ := hs.written r run hrun hcompleted
  refine ⟨statement, ev, hst, hev, hmatched, hmismatched, ?_, fun c' hlater => ?_⟩
  · rw [hmatched, hmismatched]
    exact review_reviewed (hs.ids r statement hst)
  · have hevolves := (Reach.atomic_from reconciliation_disciplined hstart h hlater).evolves
      reconciliation_disciplined hs
    obtain ⟨hkept, hsame⟩ := hevolves.ended r run hrun (.inl hcompleted)
    exact ⟨hkept, hevolves.statements r statement hst, hsame⟩

end System

def clock (lib : Library) (leaseSeconds : ℕ) : Player (reconciliation lib leaseSeconds) Empty ℕ where
  spawn
    | .importing _ => true
    | .claiming _ _ => true
    | _ => false
  act := nofun
  env n s := some { s with now := s.now + n, past := s.world :: s.past }
  spawn_sound := by
    intro l h
    cases l with
    | importing req => trivial
    | claiming r token => trivial
    | claimed r token => cases h
    | failing r token => cases h
    | finished => cases h
  act_sound := by
    intro a
    exact a.elim
  env_sound := by
    intro n s s' h
    cases h
    exact ⟨s.world, s.now + n, Nat.le_add_right _ _, rfl⟩

def reclaimed : List (Move RunProcess Empty ℕ) :=
  [.spawn (.importing (handOn "psp-1" 0 10 lateResult)), .run 0,
    .spawn (.claiming "psp-1" 1), .run 1, .env 1, .spawn (.claiming "psp-1" 2), .run 2, .run 1, .run 2]

def runSummary (r : String) (s : RunState) : Option (RunStatus × ℕ × ℕ × ℕ) :=
  (s.run r).map fun run => (run.status, run.attemptCount, (s.matchesOf r).length, (s.mismatchesOf r).length)

theorem run_reviewed_once_reclaimed : ∃ c run, Reach (reconciliation (lateLibrary 9) 0)
    (.idle (.start 0 shopWorld)) c ∧ c.shared.run "psp-1" = some run ∧ run.attemptCount = 2 ∧
    ∃ statement ev, c.shared.statement "psp-1" = some statement ∧ c.shared.matchesOf "psp-1" = [] ∧
      (c.shared.mismatchesOf "psp-1").length = 1 ∧
      Reviewed statement ev (c.shared.matchesOf "psp-1") (c.shared.mismatchesOf "psp-1") := by
  have hresult : ((clock (lateLibrary 9) 0).play reclaimed (.start 0 shopWorld, [])).bind
      (fun x => runSummary "psp-1" x.1) = some (.completed, 2, 0, 1) := by decide +kernel
  obtain ⟨hreach, hend⟩ := Player.final_result hresult
  obtain ⟨run, hrun, hfound⟩ := Option.map_eq_some_iff.1 hend
  simp only [Prod.mk.injEq, List.length_eq_zero_iff] at hfound
  obtain ⟨hstatus, hcount, hmatched, hmismatched⟩ := hfound
  obtain ⟨statement, ev, hst, -, -, -, hreviewed, -⟩ := (run_reviewed_once hreach "psp-1").2 run hrun hstatus
  exact ⟨_, run, hreach, hrun, hcount, statement, ev, hst, hmatched, hmismatched, hreviewed⟩

end RelayPay.Statements
