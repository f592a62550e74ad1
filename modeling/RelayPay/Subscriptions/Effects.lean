import RelayPay.Subscriptions.Recovery

/-! What each transaction of subscription recovery can do, whatever the others did meanwhile. -/

namespace RelayPay.Subscriptions

open ReadCommitted Txn

namespace RecoveryState

variable (s : RecoveryState)

def storeAction (a : ActionId) (loaded new : ScheduledRecoveryAction) : RecoveryState :=
  { s with actions := if new = loaded then s.actions else (s.patchAction a loaded new).actions }

def storeCase (k : CaseId) (loaded new : RecoveryCase) : RecoveryState :=
  { s with cases := if new = loaded then s.cases else (s.patchCase k loaded new).cases }

def storeRecord (a : ActionId) (loaded new : CommunicationRecord) : RecoveryState :=
  { s with records := if new = loaded then s.records else (s.patchRecord a loaded new).records }

def storeInvoice (i : InvoiceId) (loaded new : SubscriptionInvoice) : RecoveryState :=
  { s with invoices := if new = loaded then s.invoices else (s.patchInvoice i loaded new).invoices }

def cancelAll (ids : List ActionId) : RecoveryState :=
  { s with actions := ids.foldl (fun t a => t.update a fun row => { row with status := .cancelled }) s.actions }

def OpenAt (a : ActionId) : Prop := ∃ row, s.actions.get a = some row ∧ row.status.isOpen = true

def onto (o : RecoveryState) : RecoveryState :=
  { o with
    invoices := s.invoices
    attempts := s.attempts
    cases := s.cases
    actions := s.actions
    records := s.records
    sends := s.sends }

variable {s}

lemma get_stored {κ ρ : Type} [DecidableEq κ] [DecidableEq ρ] (t : Table κ ρ) (k j : κ)
    (patch : ρ → ρ → ρ → ρ) (loaded new : ρ) (hself : ∀ row, patch loaded loaded row = row) :
    (if new = loaded then t else t.update k (patch loaded new)).get j =
      if j = k then (t.get k).map (patch loaded new) else t.get j := by
  by_cases h : new = loaded
  · rw [h, funext hself, Option.map_id', if_pos rfl]
    by_cases hj : j = k <;> simp [hj]
  · rw [if_neg h, Table.get_update]

lemma get_storeAction (a b : ActionId) (loaded new : ScheduledRecoveryAction) :
    (s.storeAction a loaded new).actions.get b =
      if b = a then (s.actions.get a).map (ScheduledRecoveryAction.patch loaded new) else s.actions.get b :=
  get_stored _ _ _ _ _ _ fun row => by simp [ScheduledRecoveryAction.patch]

lemma get_storeCase (k j : CaseId) (loaded new : RecoveryCase) : (s.storeCase k loaded new).cases.get j =
      if j = k then (s.cases.get k).map (RecoveryCase.patch loaded new) else s.cases.get j :=
  get_stored _ _ _ _ _ _ fun row => by simp [RecoveryCase.patch]

lemma get_storeRecord (a b : ActionId) (loaded new : CommunicationRecord) : (s.storeRecord a loaded new).records.get b =
      if b = a then (s.records.get a).map (CommunicationRecord.patch loaded new) else s.records.get b :=
  get_stored _ _ _ _ _ _ fun row => by simp [CommunicationRecord.patch]

lemma get_storeInvoice (i j : InvoiceId) (loaded new : SubscriptionInvoice) :
    (s.storeInvoice i loaded new).invoices.get j =
      if j = i then (s.invoices.get i).map (SubscriptionInvoice.patch loaded new) else s.invoices.get j :=
  get_stored _ _ _ _ _ _ fun row => by simp [SubscriptionInvoice.patch]

lemma get_cancelAll (ids : List ActionId) (b : ActionId) : (s.cancelAll ids).actions.get b =
      if b ∈ ids then (s.actions.get b).map fun row => { row with status := .cancelled } else s.actions.get b := by
  change (ids.foldl _ s.actions).get b = _
  generalize s.actions = t
  induction ids generalizing t with
  | nil => simp
  | cons a ids ih =>
    rw [List.foldl_cons, ih, Table.get_update]
    by_cases hb : b = a
    · subst hb
      by_cases hmem : b ∈ ids <;> simp [hmem, Function.comp_def]
    · simp [hb]

lemma cancelAll_concat (ids : List ActionId) (a : ActionId) :
    (s.cancelAll ids).cancelAction a = s.cancelAll (ids ++ [a]) := by
  simp [cancelAll, cancelAction]

lemma get_schedule (k : CaseId) (proposed : List ProposedAction) (b : ActionId) :
    (s.schedule k proposed).actions.get b = s.actions.get b ∨
      b.1 = k ∧ ∃ p ∈ proposed, (s.schedule k proposed).actions.get b = some (scheduledAction p) := by
  suffices h : ∀ (l : List (ProposedAction × ℕ)) (t : Table ActionId ScheduledRecoveryAction),
      (∀ e ∈ l, e.1 ∈ proposed) →
      (l.foldl (fun t e => t.put (k, e.2 + 1) (scheduledAction e.1)) t).get b = t.get b ∨
        b.1 = k ∧ ∃ p ∈ proposed,
          (l.foldl (fun t e => t.put (k, e.2 + 1) (scheduledAction e.1)) t).get b = some (scheduledAction p) by
    apply h
    intro e he
    exact (List.mem_zipIdx' he).2 ▸ List.getElem_mem _
  intro l
  induction l with
  | nil => exact fun t _ => .inl rfl
  | cons e l ih =>
    intro t hl
    rw [List.foldl_cons]
    rcases ih (t.put (k, e.2 + 1) (scheduledAction e.1)) fun e' he' => hl e' (List.mem_cons_of_mem _ he') with
      hsame | hnew
    · rw [hsame, Table.get_put]
      by_cases hb : b = (k, e.2 + 1)
      · exact .inr ⟨by rw [hb], e.1, hl e List.mem_cons_self, if_pos hb⟩
      · exact .inl (if_neg hb)
    · exact .inr hnew

end RecoveryState

structure Rows (D : Discipline RecoveryState RecoveryKey) : Prop where
  action : ∀ {a s s' row}, D.frame (.action a) s s' → s.actions.get a = some row → s'.actions.get a = some row
  recoveryCase : ∀ {k s s'}, D.frame (.recoveryCase k) s s' → s'.cases.get k = s.cases.get k
  record : ∀ {a s s'}, D.frame (.record a) s s' → s'.records.get a = s.records.get a

abbrev RecoveryPending := Pending RecoveryState RecoveryKey Empty

def Pointwise (own : RecoveryState → RecoveryState) : Prop :=
  ∀ b, ∃ f : ScheduledRecoveryAction → ScheduledRecoveryAction, ∀ s, (own s).actions.get b = (s.actions.get b).map f

section Flush

variable {D : Discipline RecoveryState RecoveryKey} {E : Error → Prop} {s : RecoveryState}
  {Q : Unit → RecoveryPending → Prop} {x : RecoveryPending}

lemma closes_flush {ρ : Type} [DecidableEq ρ] {key : RecoveryKey} {loaded new : ρ}
    {patch : RecoveryState → RecoveryState} (h : ∀ locks, x.held ⊆ locks → (new ≠ loaded → key ∈ locks) →
      Q () ⟨fun s => if new = loaded then x.own s else patch (x.own s), locks, x.queue⟩) :
    (flush key loaded new patch).Closes D E s Q x := by
  rw [flush, closes_ite]
  constructor
  · intro heq
    have hQ := h x.held (List.Subset.refl _) fun hne => absurd heq hne
    simp only [heq, if_true] at hQ
    exact hQ
  · intro hne
    have hQ := h (key :: x.held) (List.subset_cons_self _ _) fun _ => List.mem_cons_self
    simp only [hne, if_false] at hQ
    exact hQ

lemma closes_flushAction {a : ActionId} {loaded new : ScheduledRecoveryAction}
    (h : ∀ locks, x.held ⊆ locks → (new ≠ loaded → .action a ∈ locks) →
      Q () ⟨fun s => (x.own s).storeAction a loaded new, locks, x.queue⟩) :
    (flushAction a loaded new).Closes D E s Q x := by
  apply closes_flush
  intro locks hsub hkey
  convert h locks hsub hkey using 3
  split <;> simp [RecoveryState.storeAction, RecoveryState.patchAction, *]

lemma closes_flushRecord {a : ActionId} {loaded new : CommunicationRecord}
    (h : ∀ locks, x.held ⊆ locks → (new ≠ loaded → .record a ∈ locks) →
      Q () ⟨fun s => (x.own s).storeRecord a loaded new, locks, x.queue⟩) :
    (flushRecord a loaded new).Closes D E s Q x := by
  apply closes_flush
  intro locks hsub hkey
  convert h locks hsub hkey using 3
  split <;> simp [RecoveryState.storeRecord, RecoveryState.patchRecord, *]

lemma closes_flushInvoice {i : InvoiceId} {loaded new : SubscriptionInvoice}
    (h : ∀ locks, x.held ⊆ locks → Q () ⟨fun s => (x.own s).storeInvoice i loaded new, locks, x.queue⟩) :
    (flushInvoice i loaded new).Closes D E s Q x := by
  apply closes_flush
  intro locks hsub _
  convert h locks hsub using 3
  split <;> simp [RecoveryState.storeInvoice, RecoveryState.patchInvoice, *]

lemma closes_flushCase {k : CaseId} {loaded new : RecoveryCase} (h : ∀ locks, x.held ⊆ locks →
      (new ≠ loaded → .recoveryCase k ∈ locks ∧ new.paymentRetryCount ≤ 3 ∧ new.messageCount ≤ 3) →
      Q () ⟨fun s => (x.own s).storeCase k loaded new, locks, x.queue⟩)
    (hE : ∀ e, E e) : (flushCase k loaded new).Closes D E s Q x := by
  rw [flushCase, closes_ite]
  constructor
  · intro heq
    have hQ := h x.held (List.Subset.refl _) fun hne => absurd heq hne
    simpa only [RecoveryState.storeCase, heq, if_true, closes_done] using hQ
  · intro hne
    simp only [closes_bind, closes_acquire, closes_ensure, closes_modify]
    refine ⟨fun hcheck => ?_, fun _ => hE _⟩
    have hQ := h (.recoveryCase k :: x.held) (List.subset_cons_self _ _) fun _ => ⟨List.mem_cons_self, hcheck⟩
    simp only [RecoveryState.storeCase, hne, if_false] at hQ
    exact hQ

lemma closes_flushSubscription {u : SubscriptionId} {loaded new : SubscriptionStatus}
    (h : ∀ locks (f : RecoveryState → Table SubscriptionId Subscription), x.held ⊆ locks →
      Q () ⟨fun s => { x.own s with subscriptions := f s }, locks, x.queue⟩) :
    (flushSubscription u loaded new).Closes D E s Q x := by
  apply closes_flush
  intro locks hsub _
  convert h locks (fun s => if new = loaded then (x.own s).subscriptions
    else ((x.own s).setSubscription u new).subscriptions) hsub using 3
  split <;> simp [RecoveryState.setSubscription]

end Flush

namespace RecoveryState

variable {s : RecoveryState} {a : ActionId}

lemma openAt_iff : (s.actions.get a).any (fun row => row.status.isOpen) = true ↔ s.OpenAt a := by
  simp [OpenAt, Option.any_eq_true]

lemma mem_openActions {k : CaseId} : a ∈ openActions k s ↔ a.1 = k ∧ s.OpenAt a := by
  simp only [openActions, List.mem_map, List.mem_filter, Bool.and_eq_true, decide_eq_true_eq]
  constructor
  · rintro ⟨⟨b, row⟩, ⟨hmem, hk, hopen⟩, rfl⟩
    exact ⟨hk, row, Table.mem_rows.1 hmem, hopen⟩
  · rintro ⟨hk, row, hget, hopen⟩
    exact ⟨(a, row), ⟨Table.mem_rows.2 hget, hk, hopen⟩, rfl⟩

lemma openAt_cancelAll {ids : List ActionId} : (s.cancelAll ids).OpenAt a ↔ a ∉ ids ∧ s.OpenAt a := by
  unfold OpenAt
  rw [get_cancelAll]
  by_cases h : a ∈ ids
  · simp [h, ActionStatus.isOpen]
  · simp [h]

end RecoveryState

structure Closing (D : Discipline RecoveryState RecoveryKey) (s : RecoveryState) (x : RecoveryPending)
    (k : CaseId) (ids : List ActionId) (locks : List RecoveryKey) : Prop where
  held : x.held ⊆ locks
  closing : .closing k ∈ locks
  row : .recoveryCase k ∈ locks
  cancelled : ∀ b ∈ ids, b.1 = k ∧ .action b ∈ locks ∧ (x.own s).OpenAt b
  complete : ∀ b, b.1 = k → b ∉ ids →
    D.Saw (.closing k :: .recoveryCase k :: x.held) s fun s₁ => ¬(x.own s₁).OpenAt b

section Terminate

variable {D : Discipline RecoveryState RecoveryKey} {s : RecoveryState} {x : RecoveryPending}

lemma Rows.openAt (hD : Rows D) (hown : Pointwise x.own) {s₁ : RecoveryState} {a : ActionId}
    (hframe : D.frame (.action a) s₁ s) (h : (x.own s₁).OpenAt a) : (x.own s).OpenAt a := by
  obtain ⟨f, hf⟩ := hown a
  obtain ⟨row, hget, hopen⟩ := h
  rw [hf] at hget
  obtain ⟨row₁, hrow₁, rfl⟩ := Option.map_eq_some_iff.1 hget
  refine ⟨f row₁, ?_, hopen⟩
  rw [hf, hD.action hframe hrow₁, Option.map_some]

variable {Q : Unit → RecoveryPending → Prop}

lemma closes_cancel (hD : Rows D) (hown : Pointwise x.own) {ids : List ActionId}
    (h : ∀ c locks, x.held ⊆ locks → (∀ b ∈ c, b ∈ ids ∧ .action b ∈ locks ∧ (x.own s).OpenAt b) →
      (∀ b ∈ ids, b ∉ c → D.Saw x.held s fun s₁ => ¬(x.own s₁).OpenAt b) →
      Q () ⟨fun s => (x.own s).cancelAll c, locks, x.queue⟩) :
    (forEach cancelIfOpen ids).Closes D (fun _ => True) s Q x := by
  -- the actions done with are cancelled or were seen closed, the others are still to come
  let I (rest : List ActionId) (y : RecoveryPending) : Prop := ∃ c locks,
    y = ⟨fun s => (x.own s).cancelAll c, locks, x.queue⟩ ∧ x.held ⊆ locks ∧ rest ⊆ ids ∧
    (∀ b ∈ c, b ∈ ids ∧ .action b ∈ locks ∧ (x.own s).OpenAt b) ∧
    ∀ b ∈ ids, b ∉ c → b ∈ rest ∨ D.Saw x.held s fun s₁ => ¬(x.own s₁).OpenAt b
  have hstep : ∀ b bs y, I (b :: bs) y → (cancelIfOpen b).Closes D (fun _ => True) s (fun _ y' => I bs y') y := by
    rintro b bs _ ⟨c, locks, rfl, hsub, hrest, hdone, hleft⟩
    simp only [cancelIfOpen, closes_bind, closes_acquire, closes_query]
    intro s₁ hview
    have hlocks : x.held ⊆ .action b :: locks := List.Subset.trans hsub (List.subset_cons_self _ _)
    have hdone' : ∀ b' ∈ c, b' ∈ ids ∧ .action b' ∈ RecoveryKey.action b :: locks ∧ (x.own s).OpenAt b' :=
      fun b' hb' => ⟨(hdone b' hb').1, List.mem_cons_of_mem _ (hdone b' hb').2.1, (hdone b' hb').2.2⟩
    refine (closes_ite _ _ _).2 ⟨?_, ?_⟩
    · intro hhit
      obtain ⟨-, hopen⟩ := RecoveryState.openAt_cancelAll.1 (RecoveryState.openAt_iff.1 hhit)
      have hopen' : (x.own s).OpenAt b := hD.openAt hown (hview.2 _ List.mem_cons_self) hopen
      refine ⟨c ++ [b], .action b :: locks, ?_, hlocks, List.Subset.trans (List.subset_cons_self _ _) hrest, ?_, ?_⟩
      · simp only [Pending.apply, Pending.hold, Pending.mk.injEq, and_true]
        funext s
        exact RecoveryState.cancelAll_concat c b
      · intro b' hb'
        rcases List.mem_append.1 hb' with hc | hb
        · exact hdone' b' hc
        · obtain rfl := List.mem_singleton.1 hb
          exact ⟨hrest List.mem_cons_self, List.mem_cons_self, hopen'⟩
      · intro b' hb' hnot
        simp only [List.mem_append, List.mem_singleton, not_or] at hnot
        rcases hleft b' hb' hnot.1 with hmem | hsaw
        · exact .inl ((List.mem_cons.1 hmem).resolve_left hnot.2)
        · exact .inr hsaw
    · intro hmiss
      refine ⟨c, .action b :: locks, rfl, hlocks, List.Subset.trans (List.subset_cons_self _ _) hrest, hdone', ?_⟩
      intro b' hb' hnot
      rcases hleft b' hb' hnot with hmem | hsaw
      · rcases List.mem_cons.1 hmem with rfl | hmem
        · refine .inr ⟨s₁, hview.anti fun k hk => hlocks hk, fun hopen => hmiss ?_⟩
          exact RecoveryState.openAt_iff.2 (RecoveryState.openAt_cancelAll.2 ⟨hnot, hopen⟩)
        · exact .inl hmem
      · exact .inr hsaw
  have hinit : I ids x := ⟨[], x.held, rfl, List.Subset.refl _, List.Subset.refl _, by simp, fun b hb _ => .inl hb⟩
  refine (closes_forEach I hstep ids x hinit).imp ?_
  rintro ⟨⟩ _ ⟨c, locks, rfl, hsub, -, hdone, hleft⟩
  apply h c locks hsub hdone
  intro b hb hnot
  exact (hleft b hb hnot).resolve_left List.not_mem_nil

lemma terminate_ne {loaded : RecoveryCase} (h : loaded.status.terminal = false) (reason : String) (now : Time)
    (recovered : Bool) : (loaded.terminate reason now recovered).status ≠ loaded.status := by
  intro heq
  rw [← heq] at h
  cases recovered <;> simp [RecoveryCase.terminate, CaseStatus.terminal] at h

lemma closes_markRecovered {u : SubscriptionId}
    (h : ∀ locks (f : RecoveryState → Table SubscriptionId Subscription), x.held ⊆ locks →
      Q () ⟨fun s => { x.own s with subscriptions := f s }, locks, x.queue⟩) :
    (markRecovered u).Closes D (fun _ => True) s Q x := by
  simp only [markRecovered, closes_bind, closes_query]
  intro s₁ _
  split
  · exact closes_flushSubscription h
  · exact h x.held (fun s => (x.own s).subscriptions) (List.Subset.refl _)

lemma closes_terminate (hD : Rows D) (hown : Pointwise x.own) {k : CaseId} {loaded : RecoveryCase}
    {reason : String} {now : Time} {recovered : Bool} {Q : RecoveryCase → RecoveryPending → Prop}
    (hleft : loaded.status.terminal = true → Q loaded x)
    (hclosed : loaded.status.terminal = false → ∀ ids locks (f : RecoveryState → Table SubscriptionId Subscription),
      Closing D s x k ids locks →
      Q (loaded.terminate reason now recovered)
        ⟨fun s => { ((x.own s).storeCase k loaded (loaded.terminate reason now recovered)).cancelAll ids with
          subscriptions := f s }, locks, x.queue⟩) :
    (terminateCase k loaded reason now recovered).Closes D (fun _ => True) s Q x := by
  rw [terminateCase, closes_ite]
  refine ⟨hleft, fun hopen => ?_⟩
  have hopen : loaded.status.terminal = false := by simpa using hopen
  have hne : loaded.terminate reason now recovered ≠ loaded :=
    fun heq => terminate_ne hopen reason now recovered (congrArg RecoveryCase.status heq)
  simp only [closes_bind]
  refine closes_flushCase ?_ fun _ => trivial
  intro locks₁ hsub₁ hrow
  obtain ⟨hrow, -⟩ := hrow hne
  simp only [closes_acquire, closes_query]
  intro s₁ hview
  have hheld : .closing k :: .recoveryCase k :: x.held ⊆ .closing k :: locks₁ := by
    apply List.cons_subset_cons
    exact List.cons_subset.2 ⟨hrow, hsub₁⟩
  refine closes_cancel hD (by exact fun b => hown b) ?_
  intro c locks hsub hdone hseen
  have hsub' : .closing k :: locks₁ ⊆ locks := hsub
  have hclosing : Closing D s x k c locks := by
    refine ⟨?_, hsub' List.mem_cons_self, hsub' (List.mem_cons_of_mem _ hrow), ?_, ?_⟩
    · exact fun key hkey => hsub' (List.mem_cons_of_mem _ (hsub₁ hkey))
    · intro b hb
      obtain ⟨hid, hlock, hopen⟩ := hdone b hb
      exact ⟨(RecoveryState.mem_openActions.1 hid).1, hlock, hopen⟩
    · intro b hk hb
      by_cases hid : b ∈ openActions k (((x.own s₁).storeCase k loaded (loaded.terminate reason now recovered)))
      · exact (hseen b hid hb).anti hheld
      · refine ⟨s₁, hview.anti fun key hkey => hheld hkey, fun hopen => hid ?_⟩
        exact RecoveryState.mem_openActions.2 ⟨hk, hopen⟩
  simp only [closes_ite, closes_bind, closes_done]
  refine ⟨fun _ => closes_markRecovered ?_, fun _ => ?_⟩
  · intro locks' f hsub''
    exact hclosed hopen c locks' f ⟨List.Subset.trans hclosing.held hsub'', hsub'' hclosing.closing, hsub'' hclosing.row,
      fun b hb => ⟨(hclosing.cancelled b hb).1, hsub'' (hclosing.cancelled b hb).2.1,
        (hclosing.cancelled b hb).2.2⟩, hclosing.complete⟩
  · exact hclosed hopen c locks (fun s => (x.own s).subscriptions) hclosing

end Terminate

def Worker.flight : Worker → Option ActionId
  | .calling x _ => some x.action
  | .recording x _ => some x.action
  | _ => none

@[simp] lemma flight_next (x : Execution) : x.next.flight = none := by
  unfold Execution.next
  split <;> rfl

@[simp] lemma flight_failed (x : Execution) (e : Error) : (x.failed e).flight = none := by
  unfold Execution.failed
  split
  · exact flight_next x
  · rfl

lemma flight_handler (texts : Texts) (l : Worker) (e : Error) : ((recovery texts).handler l e).flight = none := by
  cases l with
  | preparing x => exact flight_failed x e
  | recording x obs => exact flight_failed x e
  | _ => rfl

lemma flight_spawn {texts : Texts} {l : Worker} (h : (recovery texts).spawn l) : l.flight = none := by
  cases l with
  | calling x prepared => cases h
  | recording x obs => cases h
  | _ => rfl

section Effect

variable (D : Discipline RecoveryState RecoveryKey) (s : RecoveryState)

inductive Ends (x : RecoveryPending) (k : CaseId) : List RecoveryKey → RecoveryState → Prop
  | left {locks} : x.held ⊆ locks → Ends x k locks (x.own s)
  | closed {ids locks cases} (f : RecoveryCase → RecoveryCase) : Closing D s x k ids locks →
      (∀ row, (f row).status.terminal = true ∧ (f row).paymentRetryCount = row.paymentRetryCount ∧
        (f row).messageCount = row.messageCount) →
      (∀ j, cases.get j = if j = k then ((x.own s).cases.get k).map f else (x.own s).cases.get j) →
      Ends x k locks { (x.own s).cancelAll ids with cases := cases }

inductive Reports : RecoveryState → Prop
  | no : Reports s
  | new {t invoice invoice'} : D.Saw [] s (fun s₀ => s₀.invoices.get t.invoice = some invoice) →
      t.retryOf = none → invoice'.status = (if t.outcome = .verifiedSucceeded then .paid else .failed) →
      Reports ((s.addAttempt t).storeInvoice t.invoice invoice invoice')

inductive Opens (locks : List RecoveryKey) (i : InvoiceId) : RecoveryState → Prop
  | no : Opens locks i s
  | new {row proposed} : .recoveryCase i ∈ locks → s.cases.get i = none → row.paymentRetryCount = 0 →
      row.messageCount = 0 → (row.status.terminal = true → proposed = []) →
      Opens locks i ((s.putCase i row).schedule i proposed)

structure Prepares (x : Execution) (prepared : PreparedAction) (locks : List RecoveryKey)
    (row : ScheduledRecoveryAction) : Prop where
  locked : .action x.action ∈ locks
  row_eq : s.actions.get x.action = some row
  isOpen : row.status.isOpen = true
  mode : prepared.mode = if row.status = .scheduled then .send else .lookup

structure Loads (x : Execution) (obs : RecoveryNetworkObservation) (locks : List RecoveryKey)
    (action : ScheduledRecoveryAction) (recovery counted : RecoveryCase) : Prop where
  action_eq : D.Saw [] s fun s₀ => s₀.actions.get x.action = some action
  case_eq : D.Saw [] s fun s₀ => s₀.cases.get x.action.1 = some recovery
  action_locked : action.observe obs x.timestamp ≠ action → .action x.action ∈ locks
  case_locked : counted ≠ recovery →
    .recoveryCase x.action.1 ∈ locks ∧ counted.paymentRetryCount ≤ 3 ∧ counted.messageCount ≤ 3

def retryWrites (x : Execution) (obs : RecoveryNetworkObservation) (action : ScheduledRecoveryAction)
    (recovery : RecoveryCase) (t : RecurringPaymentAttempt) (invoice invoice' : SubscriptionInvoice)
    (s : RecoveryState) : RecoveryState :=
  (((s.storeCase x.action.1 recovery recovery.countRetry).storeAction x.action action
    (action.observe obs x.timestamp)).addAttempt t).storeInvoice x.action.1 invoice invoice'

structure Retries (x : Execution) (obs : RecoveryNetworkObservation) (t : RecurringPaymentAttempt)
    (invoice invoice' : SubscriptionInvoice) : Prop where
  invoice_eq : D.Saw [] s fun s₀ => s₀.invoices.get x.action.1 = some invoice
  of_invoice : t.invoice = x.action.1
  retryOf : t.retryOf = some x.action
  failed : t.outcome ≠ .verifiedSucceeded → invoice' = invoice
  succeeded : t.outcome = .verifiedSucceeded → invoice'.status = .paid

inductive Effect : Worker → Worker → List RecoveryKey → RecoveryState → Prop
  | same {l l' locks} : l'.flight = none → Effect l l' locks s
  | prepared {x p locks row} : Prepares s x p locks row →
      (x.actionType = .message → D.Saw [] s fun s₀ => (s₀.records.get x.action).isSome = true) →
      Effect (.preparing x) (.calling x p) locks (s.storeAction x.action row { row with status := .executing })
  | sent {x p locks row r} : Prepares s x p locks row → .record x.action ∈ locks →
      s.records.get x.action = none → r.status = .sent →
      Effect (.preparing x) (.calling x p) locks
        ((s.storeAction x.action row { row with status := .executing }).putRecord x.action r)
  | noted {x obs locks action recovery row} : x.actionType = .message →
      Loads D s x obs locks action recovery (recovery.countMessage obs) →
      D.Saw [] s (fun s₀ => s₀.records.get x.action = some row) → (row.observe obs ≠ row → .record x.action ∈ locks) →
      Effect (.recording x obs) x.next locks
        (((s.storeCase x.action.1 recovery (recovery.countMessage obs)).storeAction x.action action
          (action.observe obs x.timestamp)).storeRecord x.action row (row.observe obs))
  | unknown {x obs locks action recovery} : x.actionType = .paymentRetry → obs.status = .unknown →
      Loads D s x obs locks action recovery recovery →
      Effect (.recording x obs) x.next locks (s.storeAction x.action action (action.observe obs x.timestamp))
  | retried {x obs locks locks' action recovery t invoice invoice' s'} : x.actionType = .paymentRetry →
      obs.status ≠ .unknown → Loads D s x obs locks action recovery recovery.countRetry →
      Retries D s x obs t invoice invoice' →
      Ends D s ⟨retryWrites x obs action recovery t invoice invoice', locks, []⟩ x.action.1 locks' s' →
      Effect (.recording x obs) x.next locks' s'
  | ended {l l' k locks locks' row s'} : l'.flight = none → .recoveryCase k ∈ locks → s.cases.get k = some row →
      Ends D s ⟨id, locks, []⟩ k locks' s' → Effect l l' locks' s'
  | reported {l locks i s₁ s₂} : Reports D s s₁ → Opens s₁ locks i s₂ → Effect l .finished locks s₂

def Commits (l : Worker) (t : RecoveryTx Worker) : Prop :=
  t.Closes D (fun _ => True) s (fun l' y => ∃ s₁, Effect D s l l' y.held s₁ ∧ y.own s = s₁.onto (y.own s)) .init

end Effect

section Specs

variable {D : Discipline RecoveryState RecoveryKey} {s : RecoveryState}

lemma preparedMode_ne (row : ScheduledRecoveryAction) :
    (if row.status = .scheduled then Mode.send else .lookup) ≠ .complete := by
  split <;> simp

lemma prepareAction_commits (hD : Rows D) (x : Execution) :
    Commits D s (.preparing x) (do
      let prepared ← prepareAction x.timestamp x.action x.actionType
      done (x.prepared prepared)) := by
  simp only [Commits, prepareAction, closes_bind, closes_acquire, closes_query, closes_require, closes_ensure,
    implies_true, and_true]
  intro s₁ hview₁ action haction _ _ _ recovery _ _ _ _ _ subscription _ invoice _ _ _ _
  have hrow : s.actions.get x.action = some action := hD.action (hview₁.2 _ List.mem_cons_self) haction
  refine (closes_ite _ _ _).2 ⟨fun hopen => ?_, fun _ => ?_⟩
  · simp only [closes_bind]
    apply closes_flushAction
    intro locks hsub _
    have hlocked : .action x.action ∈ locks := hsub List.mem_cons_self
    cases hkind : x.actionType with
    | paymentRetry =>
      simp only [closes_done, Execution.prepared, preparedMode_ne, if_false]
      refine ⟨_, .prepared ⟨hlocked, hrow, hopen, rfl⟩ fun hmessage => ?_, rfl⟩
      rw [hkind] at hmessage
      cases hmessage
    | message =>
      simp only [prepareMessage, closes_bind, closes_require, implies_true, and_true]
      intro channel _
      split
      · trivial
      · simp only [closes_bind, closes_query]
        intro s₂ hview₂
        split
        · next found =>
          simp only [closes_done, Execution.prepared, preparedMode_ne, if_false]
          refine ⟨_, .prepared ⟨hlocked, hrow, hopen, rfl⟩ fun _ => ⟨s₂, hview₂.anti (by simp), ?_⟩, rfl⟩
          exact Option.isSome_iff_exists.2 ⟨_, found⟩
        · simp only [insertRecord, closes_bind, closes_ensure, closes_acquire, closes_query, closes_modify,
            closes_done, implies_true, and_true, Execution.prepared, preparedMode_ne, if_false]
          intro _ s₃ hview₃ hfree
          have hfree' : s.records.get x.action = none := by
            rw [hD.record (hview₃.2 _ List.mem_cons_self)]
            exact Option.isSome_eq_false_iff.1 hfree |> Option.isNone_iff_eq_none.1
          exact ⟨_, .sent ⟨List.mem_cons_of_mem _ hlocked, hrow, hopen, rfl⟩ List.mem_cons_self hfree' rfl, rfl⟩
  · simp only [closes_done]
    refine ⟨s, .same ?_, rfl⟩
    simp [Execution.prepared]

lemma recordMessage_commits (x : Execution) (obs : RecoveryNetworkObservation) (hkind : x.actionType = .message) :
    Commits D s (.recording x obs) (do
      recordMessage x.timestamp x.action obs
      done x.next) := by
  simp only [Commits, recordMessage, closes_bind, closes_query, closes_require, implies_true, and_true]
  intro s₁ hview₁ s₂ hview₂ action haction recovery hrecovery s₃ hview₃ row hrow
  refine closes_flushCase ?_ fun _ => trivial
  intro locks₁ _ hcase
  apply closes_flushAction
  intro locks₂ hsub₂ haction'
  apply closes_flushRecord
  intro locks₃ hsub₃ hrecord
  have hloads : Loads D s x obs locks₃ action recovery (recovery.countMessage obs) :=
    ⟨⟨s₁, hview₁, haction⟩, ⟨s₂, hview₂, hrecovery⟩, fun hne => hsub₃ (haction' hne),
      fun hne => ⟨hsub₃ (hsub₂ (hcase hne).1), (hcase hne).2⟩⟩
  exact ⟨_, .noted hkind hloads ⟨s₃, hview₃, hrow⟩ hrecord, rfl⟩

lemma Closing.ends {x : RecoveryPending} {k : CaseId} {ids : List ActionId} {locks : List RecoveryKey}
    {loaded : RecoveryCase} (h : Closing D s x k ids locks) (hopen : loaded.status.terminal = false)
    (reason : String) (now : Time) (recovered : Bool) :
    Ends D s x k locks (((x.own s).storeCase k loaded (loaded.terminate reason now recovered)).cancelAll ids) := by
  refine .closed (RecoveryCase.patch loaded (loaded.terminate reason now recovered)) h ?_ ?_
  · intro row
    refine ⟨?_, ?_, ?_⟩
    · simp only [RecoveryCase.patch, patched_of_ne (terminate_ne hopen reason now recovered)]
      cases recovered <;> rfl
    · simp [RecoveryCase.patch, RecoveryCase.terminate]
    · simp [RecoveryCase.patch, RecoveryCase.terminate]
  · exact fun j => RecoveryState.get_storeCase k j loaded _

lemma pointwise_retryWrites (x : Execution) (obs : RecoveryNetworkObservation) (action : ScheduledRecoveryAction)
    (recovery : RecoveryCase) (t : RecurringPaymentAttempt) (invoice invoice' : SubscriptionInvoice) :
    Pointwise (retryWrites x obs action recovery t invoice invoice') := by
  intro b
  have hget := fun s : RecoveryState => RecoveryState.get_storeAction
    (s := s.storeCase x.action.1 recovery recovery.countRetry) x.action b action (action.observe obs x.timestamp)
  by_cases hb : b = x.action
  · subst hb
    exact ⟨_, fun s => (hget s).trans (if_pos rfl)⟩
  · refine ⟨id, fun s => ?_⟩
    rw [Option.map_id]
    exact (hget s).trans (if_neg hb)

variable {Q : Unit → RecoveryPending → Prop} {t : RecurringPaymentAttempt}

lemma closes_insertAttempt {x : RecoveryPending}
    (h : ∀ locks, x.held ⊆ locks → Q () ⟨fun s => (x.own s).addAttempt t, locks, x.queue⟩) :
    (insertAttempt t).Closes D (fun _ => True) s Q x := by
  simp only [insertAttempt, closes_bind, closes_acquire, closes_query, closes_ensure, closes_modify,
    implies_true, and_true]
  intro _ _ _ _ _ _
  exact h _ (List.Subset.trans (List.subset_cons_self _ _) (List.subset_cons_self _ _))

lemma Loads.mono {x : Execution} {obs : RecoveryNetworkObservation} {locks locks' : List RecoveryKey}
    {action : ScheduledRecoveryAction} {recovery counted : RecoveryCase}
    (h : Loads D s x obs locks action recovery counted) (hsub : locks ⊆ locks') :
    Loads D s x obs locks' action recovery counted :=
  ⟨h.action_eq, h.case_eq, fun hne => hsub (h.action_locked hne),
    fun hne => ⟨hsub (h.case_locked hne).1, (h.case_locked hne).2⟩⟩

section Retry

variable {x : Execution} {obs : RecoveryNetworkObservation} {locks : List RecoveryKey}
  {action : ScheduledRecoveryAction} {recovery : RecoveryCase} {t : RecurringPaymentAttempt}
  {invoice invoice' : SubscriptionInvoice}

lemma terminateRetry_commits (hD : Rows D) (hkind : x.actionType = .paymentRetry) (hverified : obs.status ≠ .unknown)
    (hloads : Loads D s x obs locks action recovery recovery.countRetry)
    (hretries : Retries D s x obs t invoice invoice') (reason : String) (recovered : Bool) :
    (terminateCase x.action.1 recovery.countRetry reason x.timestamp recovered).Closes D (fun _ => True) s
      (fun _ y => ∃ s₁, Effect D s (.recording x obs) x.next y.held s₁ ∧ y.own s = s₁.onto (y.own s))
      ⟨retryWrites x obs action recovery t invoice invoice', locks, []⟩ := by
  refine closes_terminate hD (pointwise_retryWrites x obs action recovery t invoice invoice') ?_ ?_
  · intro _
    exact ⟨_, .retried hkind hverified hloads hretries (.left (List.Subset.refl _)), rfl⟩
  · intro hopen ids locks' f hclosing
    refine ⟨_, .retried hkind hverified hloads hretries
      (hclosing.ends hopen reason x.timestamp recovered), rfl⟩

lemma retryWrites_self (x : Execution) (obs : RecoveryNetworkObservation) (action : ScheduledRecoveryAction)
    (recovery : RecoveryCase) (t : RecurringPaymentAttempt) (invoice : SubscriptionInvoice) :
    retryWrites x obs action recovery t invoice invoice = fun s =>
      ((s.storeCase x.action.1 recovery recovery.countRetry).storeAction x.action action
        (action.observe obs x.timestamp)).addAttempt t := by
  funext s
  simp [retryWrites, RecoveryState.storeInvoice]

lemma settleRetry_commits (hD : Rows D) (number : ℕ) (classification : Option FailureClassification)
    (hkind : x.actionType = .paymentRetry) (hverified : obs.status ≠ .unknown)
    (hloads : Loads D s x obs locks action recovery recovery.countRetry)
    (hinvoice : D.Saw [] s fun s₀ => s₀.invoices.get x.action.1 = some invoice) :
    (settleRetry x.timestamp x.action obs classification recovery.countRetry invoice).Closes D (fun _ => True) s
      (fun _ y => ∃ s₁, Effect D s (.recording x obs) x.next y.held s₁ ∧ y.own s = s₁.onto (y.own s))
      ⟨fun s => ((s.storeCase x.action.1 recovery recovery.countRetry).storeAction x.action action
        (action.observe obs x.timestamp)).addAttempt (retryAttempt x.timestamp x.action obs number classification),
        locks, []⟩ := by
  rw [settleRetry, closes_ite]
  constructor
  · intro hsucceeded
    have hretries : Retries D s x obs (retryAttempt x.timestamp x.action obs number classification) invoice
        { invoice with status := .paid, paidAt := some x.timestamp } :=
      ⟨hinvoice, rfl, rfl, fun hne => absurd (if_pos hsucceeded) hne, fun _ => rfl⟩
    simp only [closes_bind]
    apply closes_flushInvoice
    intro locks' hsub
    exact terminateRetry_commits hD hkind hverified (hloads.mono hsub) hretries _ _
  · intro hfailed
    have hretries : Retries D s x obs (retryAttempt x.timestamp x.action obs number classification) invoice invoice :=
      ⟨hinvoice, rfl, rfl, fun _ => rfl, fun heq => by simp [retryAttempt, hfailed] at heq⟩
    rw [← retryWrites_self x obs action recovery _ invoice]
    simp only [closes_ite, closes_bind, closes_done]
    refine ⟨fun _ => ?_, fun _ => ⟨fun _ => ?_, fun _ => ?_⟩⟩
    · exact terminateRetry_commits hD hkind hverified hloads hretries _ _
    · exact terminateRetry_commits hD hkind hverified hloads hretries _ _
    · exact ⟨_, .retried hkind hverified hloads hretries (.left (List.Subset.refl _)), rfl⟩

end Retry

lemma recordPayment_commits (hD : Rows D) (x : Execution) (obs : RecoveryNetworkObservation)
    (hkind : x.actionType = .paymentRetry) :
    Commits D s (.recording x obs) (do
      recordPayment x.timestamp x.action obs
      done x.next) := by
  simp only [Commits, recordPayment, closes_bind, closes_query, closes_require, implies_true, and_true]
  intro s₁ hview₁ s₂ hview₂ action haction recovery hrecovery s₃ hview₃ invoice hinvoice
  refine (closes_ite _ _ _).2 ⟨fun hunknown => ?_, fun hverified => ?_⟩
  · apply closes_flushAction
    intro locks _ hlocked
    exact ⟨_, .unknown hkind hunknown ⟨⟨s₁, hview₁, haction⟩, ⟨s₂, hview₂, hrecovery⟩, hlocked,
      fun hne => absurd rfl hne⟩, rfl⟩
  · have hrest : ∀ classification, ((do
        flushCase x.action.1 recovery recovery.countRetry
        flushAction x.action action (action.observe obs x.timestamp)
        let previous ← query fun s => s.lastAttempt x.action.1
        insertAttempt (retryAttempt x.timestamp x.action obs (previous + 1) classification)
        settleRetry x.timestamp x.action obs classification recovery.countRetry invoice) :
          RecoveryTx Unit).Closes D (fun _ => True) s
        (fun _ y => ∃ s₁, Effect D s (.recording x obs) x.next y.held s₁ ∧ y.own s = s₁.onto (y.own s)) .init := by
      intro classification
      simp only [closes_bind]
      refine closes_flushCase ?_ fun _ => trivial
      intro locks₁ _ hcase
      apply closes_flushAction
      intro locks₂ hsub₂ hlocked
      rw [closes_query]
      intro s₄ _
      apply closes_insertAttempt
      intro locks₃ hsub₃
      apply settleRetry_commits hD _ _ hkind hverified _ ⟨s₃, hview₃, hinvoice⟩
      exact ⟨⟨s₁, hview₁, haction⟩, ⟨s₂, hview₂, hrecovery⟩, fun hne => hsub₃ (hlocked hne),
        fun hne => ⟨hsub₃ (hsub₂ (hcase hne).1), (hcase hne).2⟩⟩
    simp only [closes_bind] at hrest
    simp only [retryClassification, closes_bind, closes_ite, closes_done, closes_require, implies_true, and_true]
    exact ⟨fun _ => hrest none, fun _ classification _ => hrest (some classification)⟩

lemma pointwise_id : Pointwise id := fun b => ⟨id, fun s => by simp⟩

lemma recordOptOut_commits (hD : Rows D) (k : CaseId) (e : String) (channel : OptOutChannel) :
    Commits D s (.optingOut k e channel) (do
      recordOptOut k e channel
      done .finished) := by
  simp only [Commits, recordOptOut, closes_bind, closes_acquire, closes_query, closes_require, implies_true, and_true]
  intro s₁ hview₁ recovery hrecovery s₂ _
  have hrow : s.cases.get k = some recovery := (hD.recoveryCase (hview₁.2 _ List.mem_cons_self)).trans hrecovery
  split
  · exact ⟨s, .same rfl, rfl⟩
  · simp only [closes_bind, closes_acquire, closes_query, closes_ensure, closes_modify, closes_done,
      implies_true, and_true]
    intro s₃ _ s₄ _ _
    let held : List RecoveryKey := [.optOut e, .recoveryCase k]
    have hheld : .recoveryCase k ∈ held := by simp [held]
    refine closes_terminate hD (by exact pointwise_id) (fun _ => ?_) ?_
    · exact ⟨s, .ended rfl hheld hrow (.left (List.Subset.refl held)), rfl⟩
    · intro hopen ids locks f hclosing
      have hclosing' : Closing D s ⟨id, held, []⟩ k ids locks :=
        ⟨hclosing.held, hclosing.closing, hclosing.row, hclosing.cancelled, hclosing.complete⟩
      exact ⟨_, .ended rfl hheld hrow (hclosing'.ends hopen _ _ _), rfl⟩

lemma dueAction_eq_some {timestamp : Time} {a : ActionId} {action : ScheduledRecoveryAction}
    {recovery : RecoveryCase} (h : dueAction timestamp s a = some (action, recovery)) :
    s.cases.get a.1 = some recovery ∧ recovery.status.terminal = false := by
  simp only [dueAction, Option.bind_eq_bind, Option.bind_eq_some_iff] at h
  obtain ⟨action', -, recovery', hcase, h⟩ := h
  split at h
  · next hdue =>
    cases h
    simp only [Bool.and_eq_true, Bool.not_eq_true'] at hdue
    exact ⟨hcase, hdue.2⟩
  · cases h

lemma closes_firstDue (hD : Rows D) (timestamp : Time) (ids : List ActionId) : ∀ held,
    (firstDue timestamp ids).Closes D (fun _ => True) s
      (fun found y => ∃ locks, y = ⟨id, locks, []⟩ ∧ ∀ a action recovery, found = some (a, action, recovery) →
        .recoveryCase a.1 ∈ locks ∧ s.cases.get a.1 = some recovery ∧ recovery.status.terminal = false)
      ⟨id, held, []⟩ := by
  induction ids with
  | nil =>
    intro held
    exact ⟨held, rfl, fun _ _ _ h => nomatch h⟩
  | cons a rest ih =>
    intro held
    simp only [firstDue, closes_bind, closes_attempt, if_true, Bool.false_eq_true, if_false, closes_done]
    refine ⟨⟨?_, ih _⟩, ih held⟩
    rw [closes_query]
    intro s₁ hview
    split
    · next action recovery hdue =>
      obtain ⟨hcase, hopen⟩ := dueAction_eq_some hdue
      refine ⟨_, rfl, ?_⟩
      rintro _ _ _ ⟨⟩
      exact ⟨List.mem_cons_self, (hD.recoveryCase (hview.2 _ List.mem_cons_self)).trans hcase, hopen⟩
    · exact ih _

lemma selectAction_commits (hD : Rows D) (timestamp : Time) (left : ℕ) (l : Worker) :
    Commits D s l (do
      let selection ← selectAction timestamp
      done (selected timestamp left selection)) := by
  simp only [Commits, selectAction, closes_bind, closes_query]
  intro s₁ _
  refine (closes_firstDue hD timestamp _ []).imp ?_
  rintro found _ ⟨held, rfl, hfound⟩
  cases found with
  | none => exact ⟨s, .same rfl, rfl⟩
  | some e =>
    obtain ⟨a, action, recovery⟩ := e
    obtain ⟨hheld, hrow, hopen⟩ := hfound a action recovery rfl
    refine (closes_ite _ _ _).2 ⟨fun _ => ?_, fun _ => ⟨s, .same rfl, rfl⟩⟩
    simp only [closes_bind]
    refine closes_terminate hD pointwise_id (fun hclosed => ?_) ?_
    · rw [hopen] at hclosed
      cases hclosed
    · intro _ ids locks f hclosing
      refine closes_flushCase ?_ fun _ => trivial
      intro locks' hsub _
      let ended := recovery.terminate "POLICY_EXPIRED" timestamp false
      have hclosing' : Closing D s ⟨id, held, []⟩ a.1 ids locks' :=
        ⟨List.Subset.trans hclosing.held hsub, hsub hclosing.closing, hsub hclosing.row,
          fun b hb => ⟨(hclosing.cancelled b hb).1, hsub (hclosing.cancelled b hb).2.1,
            (hclosing.cancelled b hb).2.2⟩, hclosing.complete⟩
      have hends : Ends D s ⟨id, held, []⟩ a.1 locks'
          { s.cancelAll ids with
            cases := ((s.storeCase a.1 recovery ended).storeCase a.1 ended { ended with status := .expired }).cases } := by
        refine .closed (fun row => RecoveryCase.patch ended { ended with status := .expired }
          (RecoveryCase.patch recovery ended row)) hclosing' ?_ ?_
        · intro row
          refine ⟨?_, ?_, ?_⟩
          · rfl
          · simp [RecoveryCase.patch, ended, RecoveryCase.terminate]
          · simp [RecoveryCase.patch, ended, RecoveryCase.terminate]
        · intro j
          rw [RecoveryState.get_storeCase, RecoveryState.get_storeCase, RecoveryState.get_storeCase]
          by_cases hj : j = a.1 <;> simp [hj, Function.comp_def]
      exact ⟨_, .ended rfl hheld hrow hends, rfl⟩

section Events

variable {x : RecoveryPending}

lemma closes_recordConsumption {e : String} {digest : Digest} {Q : Bool → RecoveryPending → Prop}
    (h : ∀ first locks (f : RecoveryState → Table String Digest), x.held ⊆ locks →
      Q first ⟨fun s => { x.own s with consumed := f s }, locks, x.queue⟩) :
    (recordConsumption e digest).Closes D (fun _ => True) s Q x := by
  simp only [recordConsumption, closes_bind, closes_query]
  intro s₁ _
  split
  · simp only [closes_bind, closes_ensure, closes_done, implies_true, and_true]
    exact fun _ => h false x.held (fun s => (x.own s).consumed) (List.Subset.refl _)
  · simp only [closes_bind, closes_acquire, closes_query]
    intro s₂ _
    split
    · simp only [closes_bind, closes_ensure, closes_done, implies_true, and_true]
      exact fun _ => h false (.consumed e :: x.held) (fun s => (x.own s).consumed) (List.subset_cons_self _ _)
    · exact h true (.consumed e :: x.held) (fun s => (x.own s).consumed.put e digest) (List.subset_cons_self _ _)

lemma closes_recordPaymentAttempt {i : InvoiceId} {invoice : SubscriptionInvoice} {p code : String}
    {outcome : AttemptOutcome} {occurredAt : Time} {evidence : Json}
    {Q : RecurringPaymentAttempt → RecoveryPending → Prop} (hold : ∀ t, Q t x)
    (hnew : ∀ t invoice' locks, x.held ⊆ locks → t.invoice = i → t.retryOf = none →
      invoice'.status = (if t.outcome = .verifiedSucceeded then .paid else .failed) →
      Q t ⟨fun s => ((x.own s).addAttempt t).storeInvoice i invoice invoice', locks, x.queue⟩) :
    (recordPaymentAttempt i invoice p code outcome occurredAt evidence).Closes D (fun _ => True) s Q x := by
  simp only [recordPaymentAttempt, closes_bind, closes_query]
  intro s₁ _
  split
  · simp only [closes_bind, closes_ensure, closes_done, implies_true, and_true]
    exact fun _ => hold _
  · simp only [closes_bind, closes_require, closes_query, implies_true, and_true]
    intro classification _ s₂ _
    apply closes_insertAttempt
    intro locks hsub
    apply closes_flushInvoice
    intro locks' hsub'
    refine hnew _ _ locks' (List.Subset.trans hsub hsub') rfl rfl ?_
    by_cases houtcome : outcome = .verifiedSucceeded <;> simp [houtcome]

lemma openedCase_terminal {u : SubscriptionId} {classification : FailureClassification} {policy : PolicyDefinition}
    {now : Time} {proposed : List ProposedAction}
    (h : (openedCase u classification policy now proposed).status.terminal = true) : proposed = [] := by
  cases proposed with
  | nil => rfl
  | cons p rest => cases h

lemma closes_openRecoveryCase (hD : Rows D) (hcases : ∀ s, (x.own s).cases = s.cases) {u : SubscriptionId}
    {subscription : Subscription} {i : InvoiceId} {policy : PolicyDefinition}
    {now : Time} (hno : Q () x)
    (hnew : ∀ row proposed locks (f : RecoveryState → Table SubscriptionId Subscription), x.held ⊆ locks →
      .recoveryCase i ∈ locks → s.cases.get i = none → row.paymentRetryCount = 0 → row.messageCount = 0 →
      (row.status.terminal = true → proposed = []) →
      Q () ⟨fun s => { ((x.own s).putCase i row).schedule i proposed with subscriptions := f s }, locks, x.queue⟩) :
    (openRecoveryCase u subscription i t policy now).Closes D (fun _ => True) s Q x := by
  simp only [openRecoveryCase, closes_bind, closes_query]
  intro s₁ _
  refine (closes_ite _ _ _).2 ⟨fun _ => hno, fun _ => ?_⟩
  simp only [closes_bind, closes_ensure, closes_require, closes_acquire, closes_query, implies_true, and_true]
  intro _ _ classification _ s₂ hview hfree
  have hfree' : s.cases.get i = none := by
    rw [hD.recoveryCase (hview.2 _ List.mem_cons_self), ← hcases]
    exact Option.isSome_eq_false_iff.1 hfree |> Option.isNone_iff_eq_none.1
  split
  · trivial
  · simp only [closes_bind, closes_modify]
    apply closes_flushSubscription
    intro locks f hsub
    exact hnew _ _ locks f (List.Subset.trans (List.subset_cons_self _ _) hsub) (hsub List.mem_cons_self) hfree'
      rfl rfl openedCase_terminal

lemma openCaseFor_commits (hD : Rows D) (base : RecoveryState → RecoveryState) {f : RecoveryState → Table String Digest}
    {locks : List RecoveryKey} (hcases : ∀ s, (base s).cases = s.cases) (hreports : Reports D s (base s))
    (event : RecurringPaymentFailed) (subscription : Subscription) (t : RecurringPaymentAttempt) (l : Worker) :
    (openCaseFor event subscription t).Closes D (fun _ => True) s
      (fun _ y => ∃ s₁, Effect D s l .finished y.held s₁ ∧ y.own s = s₁.onto (y.own s))
      ⟨fun s => { base s with consumed := f s }, locks, []⟩ := by
  simp only [openCaseFor, closes_bind, closes_query, closes_ensure, closes_modify, implies_true, and_true]
  intro s₁ _ _ s₂ _
  refine closes_openRecoveryCase hD (by exact hcases) ?_ ?_
  · exact ⟨base s, .reported (i := event.invoice) hreports .no, rfl⟩
  · intro row proposed locks' g _ hlocked hfree hretries hmessages hterminal
    rw [← hcases s] at hfree
    exact ⟨_, .reported hreports (.new hlocked hfree hretries hmessages hterminal), rfl⟩

lemma consume_commits (hD : Rows D) (texts : Texts) (event : RecurringPaymentFailed) :
    Commits D s (.consuming event) (do
      consumeRecurringPaymentFailed texts event
      done .finished) := by
  simp only [Commits, consumeRecurringPaymentFailed, closes_bind, closes_ensure, implies_true, and_true]
  intro _ _
  split
  · trivial
  · simp only [closes_bind, closes_query, closes_ensure, closes_require, implies_true, and_true]
    intro _ s₁ _ subscription _ s₂ hview invoice hinvoice
    have hsaw : D.Saw [] s fun s₀ => s₀.invoices.get event.invoice = some invoice :=
      ⟨s₂, hview, (Option.filter_eq_some_iff.1 hinvoice).1⟩
    apply closes_recordConsumption
    intro first locks f _
    refine (closes_ite _ _ _).2 ⟨fun _ => ?_, fun _ => ?_⟩
    · simp only [closes_bind]
      apply closes_recordPaymentAttempt
      · intro t
        split
        · exact ⟨s, .same rfl, rfl⟩
        · exact openCaseFor_commits hD id (fun _ => rfl) .no event subscription t _
      · rintro t invoice' locks' _ hinvoice' hretry hstatus
        have hreports : Reports D s ((s.addAttempt t).storeInvoice t.invoice invoice invoice') :=
          .new (by rwa [hinvoice']) hretry hstatus
        split
        · exact ⟨_, .reported (i := event.invoice) hreports .no, by rw [hinvoice']; rfl⟩
        · rw [← hinvoice']
          exact openCaseFor_commits hD (fun s => (s.addAttempt t).storeInvoice t.invoice invoice invoice')
            (fun _ => rfl) hreports event subscription t _
    · simp only [closes_bind, closes_query, closes_ensure, closes_done, implies_true, and_true]
      intro _ _ _
      exact ⟨s, .same rfl, rfl⟩

lemma reportAttempt_commits (report : AttemptReport) :
    Commits D s (.reporting report) (do
      reportAttempt report
      done .finished) := by
  simp only [Commits, reportAttempt, closes_bind, closes_query, closes_require, implies_true, and_true]
  intro s₁ hview invoice hinvoice
  apply closes_recordPaymentAttempt
  · exact fun t => ⟨s, .same rfl, rfl⟩
  · rintro t invoice' locks' _ hinvoice' hretry hstatus
    have hreports : Reports D s ((s.addAttempt t).storeInvoice t.invoice invoice invoice') :=
      .new ⟨s₁, hview, by rw [hinvoice']; exact hinvoice⟩ hretry hstatus
    exact ⟨_, .reported (i := report.invoice) hreports .no, by rw [hinvoice']; rfl⟩

end Events

theorem recovery_commits (hD : Rows D) {texts : Texts} {l : Worker} {t : RecoveryTx Worker}
    (h : (recovery texts).txn l = some t) : Commits D s l t := by
  cases l with
  | selecting timestamp left =>
    cases left with
    | zero => cases h
    | succ left =>
      cases h
      exact selectAction_commits hD timestamp left _
  | preparing x =>
    cases h
    exact prepareAction_commits hD x
  | calling x prepared => cases h
  | recording x obs =>
    cases h
    cases hkind : x.actionType with
    | message => exact recordMessage_commits x obs hkind
    | paymentRetry => exact recordPayment_commits hD x obs hkind
  | optingOut k e channel =>
    cases h
    exact recordOptOut_commits hD k e channel
  | consuming event =>
    cases h
    exact consume_commits hD texts event
  | reporting report =>
    cases h
    exact reportAttempt_commits report
  | finished => cases h

end Specs

end RelayPay.Subscriptions
