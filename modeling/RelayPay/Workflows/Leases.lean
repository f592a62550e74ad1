import RelayPay.ReadCommitted.Undisturbed
import RelayPay.Workflows.Steps

/-! Leases and budgets of workflow steps: a claim locks its rows, a completion or failure reads without a lock. -/

namespace RelayPay.Workflows

open ReadCommitted Txn

structure Grows (s s' : WorkflowState) : Prop where
  runs : ∀ r run, s.runs.get r = some run → ∃ run', s'.runs.get r = some run' ∧
    run'.tokenBudget = run.tokenBudget ∧ run'.costBudgetUsdMicros = run.costBudgetUsdMicros
  steps : ∀ k row, s.steps.get k = some row → ∃ row', s'.steps.get k = some row' ∧ row'.run = row.run

namespace Grows

variable {s s' s'' : WorkflowState}

lemma refl (s : WorkflowState) : Grows s s :=
  ⟨fun _ run hrun => ⟨run, hrun, rfl, rfl⟩, fun _ row hrow => ⟨row, hrow, rfl⟩⟩

lemma trans (h : Grows s s') (h' : Grows s' s'') : Grows s s'' := by
  constructor
  · intro r run hrun
    obtain ⟨run', hrun', htokens, hcost⟩ := h.runs r run hrun
    obtain ⟨run'', hrun'', htokens', hcost'⟩ := h'.runs r run' hrun'
    exact ⟨run'', hrun'', htokens'.trans htokens, hcost'.trans hcost⟩
  · intro k row hrow
    obtain ⟨row', hrow', hrun⟩ := h.steps k row hrow
    obtain ⟨row'', hrow'', hrun'⟩ := h'.steps k row' hrow'
    exact ⟨row'', hrow'', hrun'.trans hrun⟩

end Grows

def Frame : WorkflowKey → WorkflowState → WorkflowState → Prop
  | .run r, s, s' => ∀ run, s.runs.get r = some run → s'.runs.get r = some run
  | .step k, s, s' => ∀ row, s.steps.get k = some row → s'.steps.get k = some row

def rowLocks : Discipline WorkflowState WorkflowKey where
  frame := Frame
  evolves := Grows
  frame_refl k s := by
    cases k with
    | run r => exact fun _ h => h
    | step k => exact fun _ h => h
  frame_trans k s₁ s₂ s₃ h h' := by
    cases k with
    | run r => exact fun run hrun => h' run (h run hrun)
    | step k => exact fun row hrow => h' row (h row hrow)
  evolves_refl := Grows.refl
  evolves_trans _ _ _ h h' := h.trans h'

def WorkflowState.flushed (s : WorkflowState) (r : RunId) (loaded new : WorkflowRun) : WorkflowState :=
  if new = loaded then s else s.updateRun r (WorkflowRun.patch loaded new)

def WorkflowState.closed (s : WorkflowState) (lease : StepLease) (loaded new : WorkflowStep)
    (rest : WorkflowStep → WorkflowStep) : WorkflowState :=
  s.updateStep lease.step fun row => rest ((WorkflowStep.patch loaded new row).note lease.token)

inductive Completes (run : WorkflowRun) (row : WorkflowStep) (output : Json) (usage : Usage) (now : Time) :
    WorkflowRun → WorkflowStep → (WorkflowStep → WorkflowStep) → Prop
  | exhausted : Completes run row output usage now { run with status := .requiresReview } row.exhausted id
  | succeeded : run.exceeds usage = false →
      Completes run row output usage now (run.spend usage) (row.succeed now) fun row => row.result output usage

section Effect

variable (D : Discipline WorkflowState WorkflowKey) (s : WorkflowState)

def Held (lease : StepLease) (row : WorkflowStep) : Prop :=
  D.Saw [] s fun s₀ => s₀.steps.get lease.step = some row ∧ row.leaseToken = some lease.token

inductive Effect : Worker → List WorkflowKey → WorkflowState → Prop
  | same {l locks} : Effect l locks s
  | claimed {now leaseSeconds scope token k row locks} : .step k ∈ locks → s.steps.get k = some row →
      row.status ≠ .succeeded → .claimed token ∉ row.log →
      Effect (.claiming now leaseSeconds scope token) locks (s.putStep k (row.lease token now leaseSeconds))
  | completed {lease output usage now row run new newRow rest locks} : .step lease.step ∈ locks →
      (new ≠ run → .run row.run ∈ locks) → Held D s lease row →
      D.Saw [] s (fun s₀ => s₀.runs.get row.run = some run) → Completes run row output usage now new newRow rest →
      Effect (.completing lease output usage now) locks ((s.flushed row.run run new).closed lease row newRow rest)
  | failed {lease reasonCode retryable now row locks} (firstByte : Digest → ℕ) (buried : List DeadLetter) :
      .step lease.step ∈ locks → Held D s lease row →
      Effect (.failing lease reasonCode retryable now) locks
        { s.closed lease row (row.fail firstByte reasonCode retryable now) id with
          deadLetters := s.deadLetters ++ buried }

def Commits (l : Worker) (t : WorkflowTx Worker) : Prop :=
  t.Closes D (fun _ => True) s (fun _ y => Effect D s l y.held (y.own s)) .init

end Effect

section Specs

variable {K : Stillness WorkflowState Worker} {l : Worker} {s : WorkflowState} {firstByte : Digest → ℕ}

lemma joined_eq_some {k : StepId} {row : WorkflowStep} {run : WorkflowRun} :
    s.joined k = some (row, run) ↔ s.steps.get k = some row ∧ s.runs.get row.run = some run := by
  simp only [WorkflowState.joined, Option.bind_eq_bind, Option.bind_eq_some_iff, Option.some.injEq, Prod.mk.injEq]
  constructor
  · rintro ⟨row', hrow, run', hrun, rfl, rfl⟩
    exact ⟨hrow, hrun⟩
  · rintro ⟨hrow, hrun⟩
    exact ⟨row, hrow, run, hrun, rfl, rfl⟩

lemma claimable_status {scope : Scope} {now : Time} {run : WorkflowRun} {row : WorkflowStep}
    (h : claimable scope now run row = true) : row.status ≠ .succeeded := by
  intro hstatus
  simp [claimable, hstatus] at h

lemma closes_firstDue (scope : Scope) (now : Time) (ks : List StepId) :
    ∀ held, (firstDue scope now ks).Closes (rowLocks.still K l) (fun _ => True) s
      (fun found y => y.own = id ∧ ∀ k row, found = some (k, row) → .step k ∈ y.held ∧
        s.steps.get k = some row ∧ row.status ≠ .succeeded) ⟨id, held, []⟩ := by
  induction ks with
  | nil =>
    intro held
    refine ⟨rfl, ?_⟩
    rintro k row ⟨⟩
  | cons k rest ih =>
    intro held
    simp only [firstDue, closes_bind, closes_query]
    intro s₀ _
    cases hjoined : s₀.joined k with
    | none => simpa [hjoined] using ih held
    | some e =>
      obtain ⟨loaded, run⟩ := e
      simp only [id_eq, hjoined, closes_bind, closes_attempt, if_true, Bool.false_eq_true, if_false]
      refine ⟨⟨?_, ih _⟩, ih held⟩
      intro s₁ hview
      cases hfound : (s₁.joined k).filter fun e => claimable scope now e.2 e.1 with
      | none =>
        simp only [Pending.hold, id_eq, hfound]
        exact ih _
      | some e =>
        obtain ⟨row, run'⟩ := e
        obtain ⟨hrow, hclaimable⟩ := Option.filter_eq_some_iff.1 hfound
        simp only [Pending.hold, id_eq, hfound]
        refine ⟨rfl, ?_⟩
        rintro k' row' ⟨⟩
        have hlocked : WorkflowKey.step k ∈ WorkflowKey.run loaded.run :: WorkflowKey.step k :: held := by simp
        exact ⟨hlocked, hview.2 (.step k) hlocked row (joined_eq_some.1 hrow).1, claimable_status hclaimable⟩

lemma claim_commits (now : Time) (leaseSeconds : ℕ) (scope : Scope) (token : Token) :
    Commits (rowLocks.still K l) s (.claiming now leaseSeconds scope token) (do
      let lease ← claimStep now leaseSeconds scope token
      done (lease.elim .finished .working)) := by
  simp only [Commits, claimStep, closes_bind, closes_query]
  intro s₀ _
  refine (closes_firstDue scope now _ []).imp ?_
  rintro found y ⟨hown, hfound⟩
  cases found with
  | none =>
    rw [closes_done, closes_done, hown]
    exact .same
  | some e =>
    obtain ⟨k, row⟩ := e
    obtain ⟨hlock, hrow, hstatus⟩ := hfound k row rfl
    simp only [closes_bind, closes_ensure, closes_modify, closes_done, implies_true, and_true]
    intro hfresh
    simp only [Pending.apply, hown, Function.comp_id]
    exact .claimed hlock hrow hstatus hfresh

lemma closes_heldStep {lease : StepLease} {Q : WorkflowStep → Pending WorkflowState WorkflowKey Empty → Prop}
    (h : ∀ row, Held (rowLocks.still K l) s lease row → Q row .init) :
    (heldStep lease).Closes (rowLocks.still K l) (fun _ => True) s Q .init := by
  simp only [heldStep, closes_bind, closes_query, closes_require, implies_true, and_true]
  intro s₀ hview row hrow
  obtain ⟨hget, htoken⟩ := Option.filter_eq_some_iff.1 hrow
  exact h row ⟨s₀, hview, hget, of_decide_eq_true htoken⟩

lemma closes_flush {D : Discipline WorkflowState WorkflowKey} {lease : StepLease} {row newRow : WorkflowStep}
    {run new : WorkflowRun} {rest : WorkflowStep → WorkflowStep} {Q : Unit → Pending WorkflowState WorkflowKey Empty → Prop}
    (h : ∀ y, .step lease.step ∈ y.held → (new ≠ run → .run row.run ∈ y.held) →
      y.own s = (s.flushed row.run run new).closed lease row newRow rest → Q () y) :
    (flushRun row.run run new >>= fun _ => flushStep lease row newRow rest).Closes D (fun _ => True) s Q .init := by
  rw [closes_bind, flushRun, closes_ite]
  constructor
  · intro hsame
    refine h _ List.mem_cons_self (fun hne => absurd hsame hne) ?_
    rw [WorkflowState.flushed, if_pos hsame]
    rfl
  · intro hne
    refine h _ List.mem_cons_self (fun _ => List.mem_cons_of_mem _ List.mem_cons_self) ?_
    rw [WorkflowState.flushed, if_neg hne]
    rfl

lemma complete_commits (lease : StepLease) (output : Json) (usage : Usage) (now : Time) :
    Commits (rowLocks.still K l) s (.completing lease output usage now) (do
      completeStep lease output usage now
      done .finished) := by
  simp only [Commits, completeStep, closes_bind]
  refine closes_heldStep fun row hrow => ?_
  simp only [closes_query, closes_require, implies_true, and_true]
  intro s₀ hview run hrun
  have hsaw : (rowLocks.still K l).Saw [] s fun s₀ => s₀.runs.get row.run = some run := ⟨s₀, hview, hrun⟩
  rw [closes_ite]
  constructor
  · intro _
    refine closes_flush fun y hstep hlock hown => ?_
    rw [closes_done, hown]
    exact .completed hstep hlock hrow hsaw .exhausted
  · intro hfits
    refine closes_flush fun y hstep hlock hown => ?_
    rw [closes_done, hown]
    exact .completed hstep hlock hrow hsaw (.succeeded (Bool.eq_false_iff.2 hfits))

lemma fail_commits (lease : StepLease) (reasonCode : String) (retryable : Bool) (now : Time) :
    Commits (rowLocks.still K l) s (.failing lease reasonCode retryable now) (do
      failStep firstByte lease reasonCode retryable now
      done .finished) := by
  simp only [Commits, failStep, closes_bind]
  refine closes_heldStep fun row hrow => ?_
  simp only [flushStep, closes_bind, closes_acquire, closes_modify]
  rw [closes_ite]
  constructor
  · intro _
    rw [closes_done, closes_done]
    have heffect : Effect (rowLocks.still K l) s (.failing lease reasonCode retryable now) [.step lease.step]
        { s.closed lease row (row.fail firstByte reasonCode retryable now) id with
          deadLetters := s.deadLetters ++ [] } := .failed firstByte [] (List.mem_singleton_self _) hrow
    rw [List.append_nil] at heffect
    exact heffect
  · intro _
    rw [closes_modify, closes_done]
    exact .failed firstByte _ (List.mem_singleton_self _) hrow

end Specs

namespace WorkflowState

variable {s : WorkflowState} {r : RunId} {k : StepId} {loaded new : WorkflowRun} {lease : StepLease}
  {row newRow : WorkflowStep} {rest : WorkflowStep → WorkflowStep}

lemma patch_same (run loaded : WorkflowRun) : WorkflowRun.patch loaded loaded run = run := by
  simp [WorkflowRun.patch]

lemma flushed_runs (s : WorkflowState) (r r' : RunId) (loaded new : WorkflowRun) :
    (s.flushed r loaded new).runs.get r' =
      if r' = r then (s.runs.get r).map (WorkflowRun.patch loaded new) else s.runs.get r' := by
  unfold flushed
  split
  · next hsame =>
    subst hsame
    split
    · next hr =>
      have hid : WorkflowRun.patch new new = id := funext fun run => patch_same run new
      rw [hr, hid, Option.map_id_fun]
      rfl
    · rfl
  · exact Table.get_update _ _ _ _

@[simp] lemma flushed_steps : (s.flushed r loaded new).steps = s.steps := by
  unfold flushed
  split <;> rfl

@[simp] lemma closed_runs : (s.closed lease row newRow rest).runs = s.runs := rfl

end WorkflowState

structure Quiet (rest : WorkflowStep → WorkflowStep) : Prop where
  run : ∀ row, (rest row).run = row.run
  log : ∀ row, (rest row).log = row.log
  attemptCount : ∀ row, (rest row).attemptCount = row.attemptCount
  maxAttempts : ∀ row, (rest row).maxAttempts = row.maxAttempts
  leaseToken : ∀ row, (rest row).leaseToken = row.leaseToken
  status : ∀ row, (rest row).status = row.status

lemma quiet_id : Quiet id := ⟨fun _ => rfl, fun _ => rfl, fun _ => rfl, fun _ => rfl, fun _ => rfl, fun _ => rfl⟩

section Keeps

variable {D : Discipline WorkflowState WorkflowKey} {s s' : WorkflowState} {l : Worker} {locks : List WorkflowKey}

lemma Completes.quiet {run new : WorkflowRun} {row newRow : WorkflowStep} {output : Json} {usage : Usage} {now : Time}
    {rest : WorkflowStep → WorkflowStep} (h : Completes run row output usage now new newRow rest) : Quiet rest := by
  cases h with
  | exhausted => exact quiet_id
  | succeeded => exact ⟨fun _ => rfl, fun _ => rfl, fun _ => rfl, fun _ => rfl, fun _ => rfl, fun _ => rfl⟩

inductive StepFrom (D : Discipline WorkflowState WorkflowKey) (s : WorkflowState) (l : Worker) (k : StepId) :
    WorkflowStep → WorkflowStep → Prop
  | same {row} : StepFrom D s l k row row
  | claimed {now leaseSeconds scope token row} : l = .claiming now leaseSeconds scope token →
      row.status ≠ .succeeded → .claimed token ∉ row.log → StepFrom D s l k row (row.lease token now leaseSeconds)
  | completed {lease output usage now loaded run new newRow rest row} : l = .completing lease output usage now →
      k = lease.step → Held D s lease loaded → D.Saw [] s (fun s₀ => s₀.runs.get loaded.run = some run) →
      Completes run loaded output usage now new newRow rest →
      StepFrom D s l k row (rest ((WorkflowStep.patch loaded newRow row).note lease.token))
  | failed {lease reasonCode retryable now loaded row} (firstByte : Digest → ℕ) :
      l = .failing lease reasonCode retryable now → k = lease.step → Held D s lease loaded →
      StepFrom D s l k row
        ((WorkflowStep.patch loaded (loaded.fail firstByte reasonCode retryable now) row).note lease.token)

lemma Effect.steps (h : Effect D s l locks s') (k : StepId) :
    Option.Rel (fun row row' => StepFrom D s l k row row' ∧ (.step k ∉ locks → row' = row)) (s.steps.get k)
      (s'.steps.get k) := by
  have hsame : ∀ row, StepFrom D s l k row row ∧ (.step k ∉ locks → row = row) := fun _ => ⟨.same, fun _ => rfl⟩
  cases h with
  | same => exact Table.rel_self hsame _
  | claimed hlock hrow hstatus hfresh =>
    exact Table.rel_put hsame hrow fun hk => ⟨.claimed rfl hstatus hfresh, fun hno => absurd (hk ▸ hlock) hno⟩
  | completed hlock _ hheld hrun hcompletes =>
    rw [WorkflowState.closed, WorkflowState.updateStep, WorkflowState.flushed_steps]
    exact Table.rel_update hsame fun _ hk =>
      ⟨.completed rfl hk hheld hrun hcompletes, fun hno => absurd (hk ▸ hlock) hno⟩
  | failed firstByte buried hlock hheld =>
    exact Table.rel_update hsame fun _ hk => ⟨.failed firstByte rfl hk hheld, fun hno => absurd (hk ▸ hlock) hno⟩

lemma StepFrom.run {k : StepId} {row row' : WorkflowStep} (h : StepFrom D s l k row row') : row'.run = row.run := by
  cases h with
  | same => rfl
  | claimed => rfl
  | completed _ _ _ _ hcompletes => exact hcompletes.quiet.run _
  | failed => rfl

inductive RunFrom (D : Discipline WorkflowState WorkflowKey) (s : WorkflowState) (l : Worker) (r : RunId) :
    WorkflowRun → WorkflowRun → Prop
  | same {run} : RunFrom D s l r run run
  | completed {lease output usage now loaded seen new newRow rest run} : l = .completing lease output usage now →
      r = loaded.run → Held D s lease loaded → D.Saw [] s (fun s₀ => s₀.runs.get loaded.run = some seen) →
      Completes seen loaded output usage now new newRow rest → RunFrom D s l r run (WorkflowRun.patch seen new run)

lemma Effect.runs (h : Effect D s l locks s') (r : RunId) :
    Option.Rel (fun run run' => RunFrom D s l r run run' ∧ (.run r ∉ locks → run' = run)) (s.runs.get r)
      (s'.runs.get r) := by
  have hsame : ∀ run, RunFrom D s l r run run ∧ (.run r ∉ locks → run = run) := fun _ => ⟨.same, fun _ => rfl⟩
  cases h with
  | completed _ hlock hheld hrun hcompletes =>
    rw [WorkflowState.closed_runs, WorkflowState.flushed]
    split
    · exact Table.rel_self hsame _
    · next hne =>
      exact Table.rel_update hsame fun _ hr =>
        ⟨.completed rfl hr hheld hrun hcompletes, fun hno => absurd (hr ▸ hlock hne) hno⟩
  | _ => exact Table.rel_self hsame _

lemma RunFrom.budgets {r : RunId} {run run' : WorkflowRun} (h : RunFrom D s l r run run') :
    run'.tokenBudget = run.tokenBudget ∧ run'.costBudgetUsdMicros = run.costBudgetUsdMicros := by
  cases h with
  | same => exact ⟨rfl, rfl⟩
  | completed => exact ⟨rfl, rfl⟩

lemma Effect.keeps (h : Effect D s l locks s') : rowLocks.Keeps locks s s' := by
  refine ⟨⟨fun r run hrun => ?_, fun k row hrow => ?_⟩, fun key hkey => ?_⟩
  · obtain ⟨run', hrun', hfrom, -⟩ := Table.rel_left (h.runs r) hrun
    exact ⟨run', hrun', hfrom.budgets⟩
  · obtain ⟨row', hrow', hfrom, -⟩ := Table.rel_left (h.steps k) hrow
    exact ⟨row', hrow', hfrom.run⟩
  · cases key with
    | run r =>
      intro run hrun
      obtain ⟨run', hrun', -, hsame⟩ := Table.rel_left (h.runs r) hrun
      rw [hrun', hsame hkey]
    | step k =>
      intro row hrow
      obtain ⟨row', hrow', -, hsame⟩ := Table.rel_left (h.steps k) hrow
      rw [hrow', hsame hkey]

end Keeps

variable {K : Stillness WorkflowState Worker} {firstByte : Digest → ℕ}

lemma workflows_effect {s : WorkflowState}
    {l l' : Worker} {t : WorkflowTx Worker} {y : Pending WorkflowState WorkflowKey Empty}
    (ht : (workflows firstByte).txn l = some t)
    (h : Eval (rowLocks.still K l) s (t.atCommit (workflows firstByte).fire []) .init (.ok l') y) :
    Effect (rowLocks.still K l) s l y.held (y.own s) := by
  have hcommits : Commits (rowLocks.still K l) s l t := by
    cases l with
    | claiming now leaseSeconds scope token =>
      cases ht
      exact claim_commits now leaseSeconds scope token
    | completing lease output usage now =>
      cases ht
      exact complete_commits lease output usage now
    | failing lease reasonCode retryable now =>
      cases ht
      exact fail_commits lease reasonCode retryable now
    | working => cases ht
    | finished => cases ht
  exact (h.closes (closes_atCommit hcommits)).1 l' rfl

lemma Environment.keeps {s s' : WorkflowState} (h : Environment s s') : rowLocks.Keeps [] s s' := by
  cases h with
  | startRun hnone =>
    refine ⟨⟨fun r run hrun => ⟨run, Table.get_put_new _ hnone hrun, rfl, rfl⟩, fun k row hrow => ⟨row, hrow, rfl⟩⟩, ?_⟩
    rintro (r | k) -
    · exact fun run hrun => Table.get_put_new _ hnone hrun
    · exact fun row hrow => hrow
  | addStep hnone =>
    refine ⟨⟨fun r run hrun => ⟨run, hrun, rfl, rfl⟩, fun k row hrow => ⟨row, Table.get_put_new _ hnone hrow, rfl⟩⟩, ?_⟩
    rintro (r | k) -
    · exact fun run hrun => hrun
    · exact fun row hrow => Table.get_put_new _ hnone hrow

variable {A : WorkflowState → WorkflowState → Prop}

lemma isolates
    {J : WorkflowState → Prop}
    (heffect : ∀ {s l locks s'}, J s → Effect (rowLocks.still K l) s l locks s' → A s s' → J s')
    (henv : ∀ {s s'}, J s → Environment s s' → J s') : Isolates K A rowLocks (workflows firstByte) J where
  commit hJ ht he hA := by
    have h := workflows_effect ht he
    exact ⟨h.keeps, heffect hJ h hA⟩
  act hJ ha _ := by
    cases ha
    · exact ⟨⟨.refl _, fun k _ => rowLocks.frame_refl k _⟩, hJ⟩
    · exact ⟨⟨.refl _, fun k _ => rowLocks.frame_refl k _⟩, hJ⟩
  env hJ he _ := ⟨he.keeps, henv hJ he⟩

def EveryStep (P : WorkflowStep → Prop) (s : WorkflowState) : Prop := ∀ k row, s.steps.get k = some row → P row

section Rows

variable {D : Discipline WorkflowState WorkflowKey} {s s' : WorkflowState} {l : Worker} {locks : List WorkflowKey}
  {P : WorkflowStep → Prop}

lemma EveryStep.effect (hs : EveryStep P s) (h : Effect D s l locks s')
    (hstep : ∀ k row row', s.steps.get k = some row → s'.steps.get k = some row' → StepFrom D s l k row row' →
      P row → P row') : EveryStep P s' := by
  intro k row' hrow'
  obtain ⟨row, hrow, hfrom, -⟩ := Table.rel_right (h.steps k) hrow'
  exact hstep k row row' hrow hrow' hfrom (hs k row hrow)

lemma EveryStep.env (hs : EveryStep P s) (h : Environment s s')
    (hnew : ∀ row : WorkflowStep, row.status = .queued → row.attemptCount = 0 → row.leaseToken = none →
      row.log = [] → P row) : EveryStep P s' := by
  cases h with
  | startRun => exact hs
  | addStep _ _ hstatus hcount _ htoken hlog => exact Table.forall_put hs (hnew _ hstatus hcount htoken hlog)

end Rows

def StepEntry.isClaim : StepEntry → Bool
  | .claimed _ => true
  | .closed _ => false

def WorkflowStep.claims (row : WorkflowStep) : ℕ := row.log.countP StepEntry.isClaim

def WorkflowStep.Counted (row : WorkflowStep) : Prop := row.attemptCount = row.claims

def attemptsLeft (s s' : WorkflowState) : Prop :=
  ∀ k row row', s.steps.get k = some row → s'.steps.get k = some row' → row.attemptCount < row'.attemptCount →
    row.attemptCount < row.maxAttempts

section Attempts

variable {D : Discipline WorkflowState WorkflowKey} {s : WorkflowState} {l : Worker} {k : StepId}
  {row row' : WorkflowStep}

lemma StepFrom.attempts (h : StepFrom D s l k row row') : row'.maxAttempts = row.maxAttempts ∧
    (row'.attemptCount = row.attemptCount ∧ row'.claims = row.claims ∨
      row'.attemptCount = row.attemptCount + 1 ∧ row'.claims = row.claims + 1) := by
  cases h with
  | same => exact ⟨rfl, .inl ⟨rfl, rfl⟩⟩
  | claimed =>
    refine ⟨rfl, .inr ⟨rfl, ?_⟩⟩
    exact List.countP_cons_of_pos rfl
  | completed _ _ _ _ hcompletes =>
    have hq := hcompletes.quiet
    refine ⟨hq.maxAttempts _, .inl ⟨hq.attemptCount _, ?_⟩⟩
    rw [WorkflowStep.claims, hq.log]
    exact List.countP_cons_of_neg Bool.false_ne_true
  | failed =>
    refine ⟨rfl, .inl ⟨rfl, ?_⟩⟩
    exact List.countP_cons_of_neg Bool.false_ne_true

lemma StepFrom.counted (h : StepFrom D s l k row row') (hrow : row.Counted) : row'.Counted := by
  unfold WorkflowStep.Counted at hrow ⊢
  rcases h.attempts.2 with ⟨hcount, hclaims⟩ | ⟨hcount, hclaims⟩ <;> omega

end Attempts

lemma counted_isolates
    (firstByte : Digest → ℕ) : Isolates K A rowLocks (workflows firstByte) (EveryStep WorkflowStep.Counted) := by
  apply isolates
  · intro s l locks s' hs h _
    exact hs.effect h fun k row row' _ _ hfrom => hfrom.counted
  · intro s s' hs h
    refine hs.env h fun row _ hcount _ hlog => ?_
    rw [WorkflowStep.Counted, hcount, WorkflowStep.claims, hlog]
    rfl

lemma bounded_isolates (firstByte : Digest → ℕ) : Isolates .none attemptsLeft rowLocks (workflows firstByte)
    (EveryStep fun row => row.attemptCount ≤ row.maxAttempts) := by
  apply isolates
  · intro s l locks s' hs h hleft
    refine hs.effect h fun k row row' hrow hrow' hfrom hbound => ?_
    obtain ⟨hmax, ⟨hcount, -⟩ | ⟨hcount, -⟩⟩ := hfrom.attempts
    · omega
    · have hroom := hleft k row row' hrow hrow' (by omega)
      omega
  · intro s s' hs h
    exact hs.env h fun row _ hcount _ _ => by omega

def holder : List StepEntry → Option Token
  | .claimed t :: _ => some t
  | _ => none

def Orderly : List StepEntry → Prop
  | [] => True
  | .claimed t :: rest => .claimed t ∉ rest ∧ Orderly rest
  | .closed t :: rest => holder rest = some t ∧ Orderly rest

variable {log : List StepEntry}

lemma eq_cons_of_holder {t : Token} (h : holder log = some t) : ∃ rest, log = .claimed t :: rest := by
  cases log with
  | nil => cases h
  | cons e rest =>
    cases e with
    | claimed t' =>
      cases h
      exact ⟨rest, rfl⟩
    | closed t' => cases h

lemma Orderly.not_closed {t : Token} (h : Orderly log) (ht : .claimed t ∉ log) : .closed t ∉ log := by
  induction log with
  | nil => exact List.not_mem_nil
  | cons e rest ih =>
    have hrest : StepEntry.claimed t ∉ rest := fun hmem => ht (List.mem_cons_of_mem _ hmem)
    cases e with
    | claimed t' =>
      rw [List.mem_cons, not_or]
      exact ⟨fun heq => StepEntry.noConfusion heq, ih h.2 hrest⟩
    | closed t' =>
      rw [List.mem_cons, not_or]
      refine ⟨?_, ih h.2 hrest⟩
      rintro ⟨⟩
      obtain ⟨rest', rfl⟩ := eq_cons_of_holder h.1
      exact hrest List.mem_cons_self

lemma Orderly.count_closed (h : Orderly log) (t : Token) : log.count (.closed t) ≤ 1 := by
  induction log with
  | nil => exact Nat.zero_le _
  | cons e rest ih =>
    cases e with
    | claimed t' =>
      rw [List.count_cons_of_ne fun heq => StepEntry.noConfusion heq]
      exact ih h.2
    | closed t' =>
      by_cases ht : t' = t
      · subst ht
        obtain ⟨rest', rfl⟩ := eq_cons_of_holder h.1
        have hnone : StepEntry.closed t' ∉ rest' := Orderly.not_closed h.2.2 h.2.1
        rw [List.count_cons_self, List.count_cons_of_ne fun heq => StepEntry.noConfusion heq,
          List.count_eq_zero.2 hnone]
      · rw [List.count_cons_of_ne]
        · exact ih h.2
        · rintro ⟨⟩
          exact ht rfl

def Worker.lease? : Worker → Option StepLease
  | .completing lease _ _ _ => some lease
  | .failing lease _ _ _ => some lease
  | _ => none

def stepStill : Stillness WorkflowState Worker where
  keep l s s' := ∀ lease, l.lease? = some lease → s'.steps.get lease.step = s.steps.get lease.step
  refl _ _ _ _ := rfl
  trans h h' lease hl := (h' lease hl).trans (h lease hl)

lemma Held.current {s : WorkflowState} {l : Worker} {lease : StepLease}
    {row : WorkflowStep} (h : Held (rowLocks.still K l) s lease row) (hl : l.lease? = some lease)
    (hK : ∀ s₀ s, K.keep l s₀ s → stepStill.keep l s₀ s) :
    s.steps.get lease.step = some row ∧ row.leaseToken = some lease.token := by
  obtain ⟨s₀, hview, hget, htoken⟩ := h
  exact ⟨(hK s₀ s hview.1.2 lease hl).trans hget, htoken⟩

def WorkflowStep.Leased (row : WorkflowStep) : Prop := row.leaseToken = holder row.log ∧ Orderly row.log

lemma released_token {run new : WorkflowRun} {row newRow : WorkflowStep} {output : Json} {usage : Usage} {now : Time}
    {rest : WorkflowStep → WorkflowStep} (h : Completes run row output usage now new newRow rest) :
    newRow.leaseToken = none := by
  cases h <;> rfl

lemma failed_token (row : WorkflowStep) (firstByte : Digest → ℕ) (reasonCode : String) (retryable : Bool) (now : Time) :
    (row.fail firstByte reasonCode retryable now).leaseToken = none := by
  unfold WorkflowStep.fail
  dsimp only
  split <;> rfl

lemma failed_status (row : WorkflowStep) (firstByte : Digest → ℕ) (reasonCode : String) (retryable : Bool)
    (now : Time) : (row.fail firstByte reasonCode retryable now).status ≠ .succeeded := by
  unfold WorkflowStep.fail
  dsimp only
  split <;> exact fun h => WorkflowStatus.noConfusion h

lemma leased_isolates (firstByte : Digest → ℕ) : Isolates stepStill (fun _ _ => True) rowLocks (workflows firstByte)
    (EveryStep WorkflowStep.Leased) := by
  apply isolates
  · intro s l locks s' hs h _
    refine hs.effect h fun k row row' hrow _ hfrom hleased => ?_
    cases hfrom with
    | same => exact hleased
    | claimed _ _ hfresh => exact ⟨rfl, hfresh, hleased.2⟩
    | completed hl hk hheld _ hcompletes =>
      obtain ⟨hget, htoken⟩ := hheld.current (by rw [hl]; rfl) fun _ _ hkeep => hkeep
      rw [hk, hget, Option.some.injEq] at hrow
      subst hrow
      have hq := hcompletes.quiet
      refine ⟨?_, ?_⟩
      · rw [hq.leaseToken, hq.log]
        exact (patched_current _ _).trans (released_token hcompletes)
      · rw [hq.log]
        exact ⟨hleased.1.symm.trans htoken, hleased.2⟩
    | failed firstByte hl hk hheld =>
      obtain ⟨hget, htoken⟩ := hheld.current (by rw [hl]; rfl) fun _ _ hkeep => hkeep
      rw [hk, hget, Option.some.injEq] at hrow
      subst hrow
      exact ⟨(patched_current _ _).trans (failed_token _ _ _ _ _), hleased.1.symm.trans htoken, hleased.2⟩
  · intro s s' hs h
    refine hs.env h fun row _ _ htoken hlog => ?_
    rw [WorkflowStep.Leased, htoken, hlog]
    exact ⟨rfl, trivial⟩

def Within (run : WorkflowRun) : Prop :=
  run.tokensUsed ≤ run.tokenBudget ∧ run.costUsedUsdMicros ≤ run.costBudgetUsdMicros

lemma not_exceeds {run : WorkflowRun} {usage : Usage} (h : run.exceeds usage = false) : Within (run.spend usage) := by
  simp only [WorkflowRun.exceeds, Bool.or_eq_false_iff, decide_eq_false_iff_not, not_lt] at h
  exact h

lemma within_patch {loaded new run : WorkflowRun} (hrun : Within run) (hnew : Within new)
    (htokens : new.tokenBudget = run.tokenBudget) (hcost : new.costBudgetUsdMicros = run.costBudgetUsdMicros) :
    Within (WorkflowRun.patch loaded new run) := by
  unfold Within at hrun hnew ⊢
  rw [htokens, hcost] at hnew
  constructor
  · rcases patched_or loaded.tokensUsed new.tokensUsed run.tokensUsed with h | h
    · exact h.trans_le hrun.1
    · exact h.trans_le hnew.1
  · rcases patched_or loaded.costUsedUsdMicros new.costUsedUsdMicros run.costUsedUsdMicros with h | h
    · exact h.trans_le hrun.2
    · exact h.trans_le hnew.2

lemma within_isolates (firstByte : Digest → ℕ) : Isolates .none (fun _ _ => True) rowLocks (workflows firstByte)
    (fun s => ∀ r run, s.runs.get r = some run → Within run) := by
  apply isolates
  · intro s l locks s' hs h _ r run' hrun'
    obtain ⟨run, hrun, hfrom, -⟩ := Table.rel_right (h.runs r) hrun'
    have hwithin := hs r run hrun
    cases hfrom with
    | same => exact hwithin
    | @completed _ _ _ _ loaded seen _ _ _ _ _ hr _ hseen hcompletes =>
      obtain ⟨s₀, hview, hget⟩ := hseen
      obtain ⟨run₁, hrun₁, htokens, hcost⟩ := hview.1.1.runs loaded.run seen hget
      rw [← hr, hrun, Option.some.injEq] at hrun₁
      subst hrun₁
      cases hcompletes with
      | exhausted =>
        have hsame : WorkflowRun.patch seen { seen with status := .requiresReview } run =
            { run with status := patched seen.status .requiresReview run.status } := by
          simp [WorkflowRun.patch]
        rw [hsame]
        exact hwithin
      | succeeded hfits => exact within_patch hwithin (not_exceeds hfits) htokens.symm hcost.symm
  · intro s s' hs h
    cases h with
    | startRun hnone htokens hcost htokenBudget hcostBudget =>
      exact Table.forall_put hs ⟨htokens.trans_le htokenBudget, hcost.trans_le hcostBudget⟩
    | addStep => exact hs

def WorkflowRun.used (run : WorkflowRun) : Usage := ⟨run.tokensUsed, run.costUsedUsdMicros⟩

def share (u : Usage → ℤ) (r : RunId) (row : WorkflowStep) : ℤ :=
  if row.run = r ∧ row.status = .succeeded then u row.reported else 0

def WorkflowState.reported (s : WorkflowState) (u : Usage → ℤ) (r : RunId) : ℤ :=
  s.steps.total fun _ row => share u r row

def rowsStill : Stillness WorkflowState Worker where
  keep l s s' := stepStill.keep l s s' ∧ ∀ lease output usage now, l = .completing lease output usage now →
    ∀ row, s.steps.get lease.step = some row → s'.runs.get row.run = s.runs.get row.run
  refl l s := ⟨stepStill.refl l s, fun _ _ _ _ _ _ _ => rfl⟩
  trans h h' := by
    refine ⟨stepStill.trans h.1 h'.1, fun lease output usage now hl row hrow => ?_⟩
    have hstep := h.1 lease (by rw [hl]; rfl)
    exact (h'.2 lease output usage now hl row (hstep.trans hrow)).trans (h.2 lease output usage now hl row hrow)

structure Accounted (s : WorkflowState) : Prop where
  owned : ∀ k row, s.steps.get k = some row → (s.runs.get row.run).isSome = true
  leased : EveryStep (fun row => row.leaseToken.isSome = true → row.status = .running) s
  used : ∀ u ∈ [Usage.tokens, Usage.costUsdMicros], ∀ r run, s.runs.get r = some run → u run.used = s.reported u r

section Accounts

variable {s s' : WorkflowState} {l : Worker} {locks : List WorkflowKey} {u : Usage → ℤ} {r : RunId}
  {run new : WorkflowRun} {row newRow : WorkflowStep} {output : Json} {usage : Usage} {now : Time}
  {rest : WorkflowStep → WorkflowStep}

lemma share_eq_zero (h : row.status ≠ .succeeded) : share u r row = 0 := if_neg fun hrow => h hrow.2

lemma patch_used (run new : WorkflowRun) : (WorkflowRun.patch run new run).used = new.used := by
  simp [WorkflowRun.patch, WorkflowRun.used]

lemma Completes.share (h : Completes run row output usage now new newRow rest)
    (hu : u ∈ [Usage.tokens, Usage.costUsdMicros]) (t : Token) (r : RunId) :
    share u r (rest ((WorkflowStep.patch row newRow row).note t)) =
      if r = row.run then u new.used - u run.used else 0 := by
  cases h with
  | exhausted =>
    have hstatus : ((WorkflowStep.patch row row.exhausted row).note t).status ≠ .succeeded := by
      simp [WorkflowStep.patch, WorkflowStep.note, WorkflowStep.exhausted, WorkflowStep.released]
    have hused : ({ run with status := .requiresReview } : WorkflowRun).used = run.used := rfl
    rw [id_eq, share_eq_zero hstatus, hused, sub_self, ite_self]
  | succeeded =>
    have hstatus : (((WorkflowStep.patch row (row.succeed now) row).note t).result output usage).status =
        .succeeded := by
      simp [WorkflowStep.patch, WorkflowStep.note, WorkflowStep.succeed, WorkflowStep.released, WorkflowStep.result]
    have hadds : u (run.spend usage).used - u run.used = u usage := by
      simp only [List.mem_cons, List.not_mem_nil, or_false] at hu
      rcases hu with rfl | rfl <;> simp [WorkflowRun.used, WorkflowRun.spend]
    rw [Workflows.share, hadds]
    by_cases hr : r = row.run
    · rw [if_pos ⟨hr.symm, hstatus⟩, if_pos hr]
      rfl
    · rw [if_neg fun h => hr h.1.symm, if_neg hr]

lemma reported_put {k : StepId} (hrow : s.steps.get k = some row) (row' : WorkflowStep) :
    (s.putStep k row').reported u r = s.reported u r + share u r row' - share u r row := by
  rw [WorkflowState.reported, WorkflowState.putStep, Table.total_put, hrow]
  rfl

lemma closed_eq_put {lease : StepLease} (hrow : s.steps.get lease.step = some row) (loaded : WorkflowStep) :
    (s.closed lease loaded newRow rest).steps =
      (s.putStep lease.step (rest ((WorkflowStep.patch loaded newRow row).note lease.token))).steps :=
  Table.update_eq hrow _

lemma reported_congr (h : s'.steps = s.steps) : s'.reported u r = s.reported u r := by
  rw [WorkflowState.reported, h]
  rfl

lemma Accounted.effect (hs : Accounted s) (h : Effect (rowLocks.still rowsStill l) s l locks s') : Accounted s' := by
  have hstill : ∀ s₀ s, rowsStill.keep l s₀ s → stepStill.keep l s₀ s := fun _ _ hkeep => hkeep.1
  refine ⟨fun k row' hrow' => ?_, ?_, fun u hu r run' hrun' => ?_⟩
  · obtain ⟨row, hrow, hfrom, -⟩ := Table.rel_right (h.steps k) hrow'
    obtain ⟨run, hrun⟩ := Option.isSome_iff_exists.1 (hs.owned k row hrow)
    obtain ⟨run', hrun', -⟩ := Table.rel_left (h.runs row.run) hrun
    rw [hfrom.run, hrun']
    rfl
  · refine hs.leased.effect h fun k row row' hrow _ hfrom hrunning htoken => ?_
    cases hfrom with
    | same => exact hrunning htoken
    | claimed => rfl
    | completed hl hk hheld _ hcompletes =>
      obtain ⟨hget, -⟩ := hheld.current (by rw [hl]; rfl) hstill
      rw [hk, hget, Option.some.injEq] at hrow
      subst hrow
      rw [hcompletes.quiet.leaseToken, WorkflowStep.note, WorkflowStep.patch] at htoken
      simp [released_token hcompletes] at htoken
    | failed firstByte hl hk hheld =>
      obtain ⟨hget, -⟩ := hheld.current (by rw [hl]; rfl) hstill
      rw [hk, hget, Option.some.injEq] at hrow
      subst hrow
      rw [WorkflowStep.note, WorkflowStep.patch] at htoken
      simp [failed_token] at htoken
  · cases h with
    | same => exact hs.used u hu r run' hrun'
    | claimed _ hrow hstatus =>
      rw [reported_put hrow, share_eq_zero hstatus, share_eq_zero (by simp [WorkflowStep.lease]), sub_zero, add_zero]
      exact hs.used u hu r run' hrun'
    | @completed lease output usage now row run new newRow rest _ _ _ hheld hseen hcompletes =>
      obtain ⟨hrow, htoken⟩ := hheld.current rfl hstill
      obtain ⟨s₀, hview, hget⟩ := hseen
      have hrow₀ : s₀.steps.get lease.step = some row := (hview.1.2.1 lease rfl).symm.trans hrow
      have hrun : s.runs.get row.run = some run := (hview.1.2.2 lease output usage now rfl row hrow₀).trans hget
      have hrunning : row.status = .running := hs.leased _ row hrow (by rw [htoken]; rfl)
      have hsteps : ((s.flushed row.run run new).closed lease row newRow rest).steps =
          (s.putStep lease.step (rest ((WorkflowStep.patch row newRow row).note lease.token))).steps := by
        rw [closed_eq_put (by rw [WorkflowState.flushed_steps, hrow]), WorkflowState.putStep, WorkflowState.flushed_steps]
        rfl
      have hold : share u r row = 0 := share_eq_zero (by rw [hrunning]; decide)
      rw [reported_congr hsteps, reported_put hrow, hcompletes.share hu, hold, sub_zero]
      rw [WorkflowState.closed_runs, WorkflowState.flushed_runs] at hrun'
      split at hrun'
      · next hr =>
        rw [hrun] at hrun'
        cases hrun'
        rw [if_pos hr, patch_used, hr, ← hs.used u hu row.run run hrun]
        ring
      · next hr =>
        rw [if_neg hr, add_zero]
        exact hs.used u hu r run' hrun'
    | @failed lease reasonCode retryable now row _ firstByte buried _ hheld =>
      obtain ⟨hrow, htoken⟩ := hheld.current rfl hstill
      have hrunning : row.status = .running := hs.leased _ row hrow (by rw [htoken]; rfl)
      have hfailed : ((WorkflowStep.patch row (row.fail firstByte reasonCode retryable now) row).note lease.token).status ≠
          .succeeded := by
        rw [WorkflowStep.note, WorkflowStep.patch]
        simp only [patched_current]
        exact failed_status row firstByte reasonCode retryable now
      have hsteps : (s.closed lease row (row.fail firstByte reasonCode retryable now) id).steps =
          (s.putStep lease.step ((WorkflowStep.patch row (row.fail firstByte reasonCode retryable now) row).note
            lease.token)).steps := closed_eq_put hrow row
      have hold : share u r row = 0 := share_eq_zero (by rw [hrunning]; decide)
      refine (hs.used u hu r run' hrun').trans (Eq.symm ((reported_congr hsteps).trans ?_))
      rw [reported_put hrow, share_eq_zero hfailed, hold, sub_zero, add_zero]

lemma reported_eq_zero (hs : ∀ k row, s.steps.get k = some row → row.run ≠ r) : s.reported u r = 0 := by
  apply List.sum_eq_zero
  intro x hx
  obtain ⟨e, he, rfl⟩ := List.mem_map.1 hx
  exact if_neg fun h => hs e.1 e.2 (Table.mem_rows.1 he) h.1

lemma Accounted.env (hs : Accounted s) (h : Environment s s') : Accounted s' := by
  have hleased := hs.leased.env h fun row _ _ htoken _ hsome => by simp [htoken] at hsome
  cases h with
  | @startRun r₀ run₀ hnone htokens hcost =>
    have hget : ∀ r, (s.putRun r₀ run₀).runs.get r = if r = r₀ then some run₀ else s.runs.get r :=
      fun r => Table.get_put _ _ _ _
    refine ⟨fun k row hrow => ?_, hleased, fun u hu r run hrun => ?_⟩
    · rw [hget]
      split
      · rfl
      · exact hs.owned k row hrow
    · rw [hget] at hrun
      split at hrun
      · next hr =>
        cases hrun
        have hempty : s.reported u r = 0 := by
          refine reported_eq_zero fun k row hrow heq => ?_
          have hsome := hs.owned k row hrow
          rw [heq, hr, hnone] at hsome
          cases hsome
        have hzero : u run₀.used = 0 := by
          simp only [List.mem_cons, List.not_mem_nil, or_false] at hu
          rcases hu with rfl | rfl
          · exact htokens
          · exact hcost
        exact hzero.trans hempty.symm
      · exact hs.used u hu r run hrun
  | @addStep k₀ row₀ hnone howned hstatus _ _ htoken =>
    refine ⟨Table.forall_put hs.owned howned, hleased, fun u hu r run hrun => ?_⟩
    · have hnew : share u r row₀ = 0 := share_eq_zero (by rw [hstatus]; decide)
      have hsum : (s.putStep k₀ row₀).reported u r = s.reported u r := by
        rw [WorkflowState.reported, WorkflowState.putStep, Table.total_put_new _ hnone, hnew, add_zero]
        rfl
      rw [hsum]
      exact hs.used u hu r run hrun

end Accounts

lemma accounted_isolates (firstByte : Digest → ℕ) : Isolates rowsStill (fun _ _ => True) rowLocks (workflows firstByte)
    Accounted :=
  isolates (fun hs h _ => hs.effect h) fun hs h => hs.env h

lemma accounted_start : Accounted .start where
  owned k row hrow := by cases hrow
  leased k row hrow := by cases hrow
  used u _ r run hrun := by cases hrun

inductive Ending where
  | completes (output : Json) (usage : Usage) (now : Time)
  | fails (reasonCode : String) (retryable : Bool) (now : Time)

def Ending.worker (lease : StepLease) : Ending → Worker
  | .completes output usage now => .completing lease output usage now
  | .fails reasonCode retryable now => .failing lease reasonCode retryable now

inductive Arrival where
  | newRun (r : RunId) (run : WorkflowRun)
  | newStep (k : StepId) (row : WorkflowStep)

def Arrival.apply (s : WorkflowState) : Arrival → Option WorkflowState
  | .newRun r run =>
    if s.runs.get r = none ∧ run.tokensUsed = 0 ∧ run.costUsedUsdMicros = 0 ∧ 0 ≤ run.tokenBudget ∧
        0 ≤ run.costBudgetUsdMicros then some (s.putRun r run)
    else none
  | .newStep k row =>
    if (s.steps.get k).isNone = true ∧ (s.runs.get row.run).isSome = true ∧ row.status = .queued ∧
        row.attemptCount = 0 ∧ 0 < row.maxAttempts ∧ row.leaseToken = none ∧ row.log = [] then some (s.putStep k row)
    else none

lemma Arrival.apply_sound {a : Arrival} {s s' : WorkflowState} (h : a.apply s = some s') : Environment s s' := by
  cases a with
  | newRun r run =>
    simp only [Arrival.apply] at h
    split at h
    · next hnew =>
      obtain ⟨hnone, htokens, hcost, htokenBudget, hcostBudget⟩ := hnew
      cases h
      exact .startRun hnone htokens hcost htokenBudget hcostBudget
    · cases h
  | newStep k row =>
    simp only [Arrival.apply] at h
    split at h
    · next hnew =>
      obtain ⟨hnone, hrun, hstatus, hcount, hmax, htoken, hlog⟩ := hnew
      cases h
      exact .addStep (Option.isNone_iff_eq_none.1 hnone) hrun hstatus hcount hmax htoken hlog
    · cases h

def player (firstByte : Digest → ℕ) : Player (workflows firstByte) Ending Arrival where
  spawn _ := true
  act
    | e, .working lease, s => some (e.worker lease, s)
    | _, _, _ => none
  env a s := a.apply s
  spawn_sound _ := trivial
  act_sound := by
    intro e l s l' s' h
    cases l with
    | working lease =>
      cases h
      cases e with
      | completes output usage now => exact .completes
      | fails reasonCode retryable now => exact .fails
    | _ => cases h
  env_sound := Arrival.apply_sound

namespace Desk

def run : WorkflowRun := ⟨1, 1, .running, 100, 100, 0, 0, none⟩

def step (publicId : String) : WorkflowStep :=
  ⟨publicId, 1, .null, .queued, 0, 1, 0, 0, none, none, none, none, none, ⟨0, 0⟩, []⟩

def claim (now : Time) (token : Token) : Worker := .claiming now 60 ⟨none, none⟩ token

def opened : List (Tick Worker Ending Arrival) := [.env (.newRun 1 run), .env (.newStep 1 (step "wfs_1"))]

def claims (i : ℕ) (now : Time) (token : Token) : List (Tick Worker Ending Arrival) :=
  [.spawn (claim now token), .start i] ++ List.replicate 6 (.statement i) ++ [.finish i]

def completes : Ending := .completes .null ⟨10, 10⟩ (seconds 61)

def reclaimed : List (Tick Worker Ending Arrival) :=
  opened ++ claims 0 0 7 ++ [.crash 0] ++ claims 0 (seconds 60) 8

def overtaken : List (Tick Worker Ending Arrival) :=
  opened ++ claims 0 0 7 ++ [.act 0 completes, .start 0, .statement 0] ++ claims 1 (seconds 60) 8 ++
    List.replicate 5 (.statement 0) ++ [.finish 0]

def together : List (Tick Worker Ending Arrival) :=
  opened ++ [.env (.newStep 2 (step "wfs_2"))] ++ claims 0 0 7 ++ claims 1 0 8 ++
    [.act 0 completes, .act 1 completes, .start 0, .statement 0, .statement 0, .start 1, .statement 1, .statement 1] ++
    List.replicate 4 (.statement 0) ++ [.finish 0] ++ List.replicate 4 (.statement 1) ++ [.finish 1]

def attempts (s : WorkflowState) : Option (ℕ × ℕ) := (s.steps.get 1).map fun row => (row.maxAttempts, row.claims)

def leases (s : WorkflowState) : Option (WorkflowStatus × List StepEntry) :=
  (s.steps.get 1).map fun row => (row.status, row.log)

def tally (s : WorkflowState) : Option (ℤ × ℤ) :=
  (s.runs.get 1).map fun run => (run.tokensUsed, s.reported Usage.tokens 1)

end Desk

namespace Desk

def claimsLeft (s s' : WorkflowState) : Bool :=
  s.steps.rows.all fun e => decide (e.2.attemptCount < e.2.maxAttempts) ||
    (s'.steps.get e.1).all fun row => row.attemptCount ≤ e.2.attemptCount

lemma attemptsLeft_of_claimsLeft {s s' : WorkflowState} (h : claimsLeft s s' = true) : attemptsLeft s s' := by
  intro k row row' hrow hrow' hclaim
  have htest := List.all_eq_true.1 h (k, row) (Table.mem_rows.2 hrow)
  simp only [hrow', Option.all_some, Bool.or_eq_true, decide_eq_true_eq] at htest
  rcases htest with hleft | hsame
  · exact hleft
  · exact absurd hclaim (not_lt.2 hsame)

def apart : List (Move Worker Ending Arrival) :=
  [.env (.newRun 1 run), .env (.newStep 1 (step "wfs_1")), .env (.newStep 2 (step "wfs_2")), .spawn (claim 0 7), .run 0,
    .spawn (claim 0 8), .run 1, .act 0 completes, .run 0, .act 1 (.fails "PROVIDER_DOWN" false 5), .run 1]

end Desk

end RelayPay.Workflows
