import RelayPay.Subscriptions.Sends
import RelayPay.Subscriptions.Suppression

namespace RelayPay.Subscriptions

open ReadCommitted Txn

namespace RecoveryState

def delivered (s : RecoveryState) (k : CaseId) : ℕ :=
  s.records.count fun a r => decide (a.1 = k ∧ r.status = .delivered)

def retries (s : RecoveryState) (k : CaseId) : ℕ := s.attempts.countP fun t => t.retryOf.any fun a => decide (a.1 = k)

end RecoveryState

structure Counted (s : RecoveryState) : Prop where
  owned : Owned s
  messages : ∀ k row, s.cases.get k = some row → row.messageCount = s.delivered k
  retries : ∀ k row, s.cases.get k = some row → row.paymentRetryCount = s.retries k
  recorded : ∀ a r, s.records.get a = some r →
    ∃ row, s.actions.get a = some row ∧ row.status ≠ .scheduled ∧ (r.status = .delivered → row.status.isOpen = false)
  attempted : ∀ t ∈ s.attempts, ∀ a, t.retryOf = some a → ∃ row, s.cases.get a.1 = some row

def SameCounts (k : CaseId) (s s' : RecoveryState) : Prop :=
  (s'.cases.get k).map (fun row => (row.paymentRetryCount, row.messageCount)) =
    (s.cases.get k).map fun row => (row.paymentRetryCount, row.messageCount)

def KeepsRecords (s s' : RecoveryState) : Prop :=
  ∀ a r, s.records.get a = some r → ∃ r', s'.records.get a = some r'

lemma KeepsRecords.trans {s s' s'' : RecoveryState} (h : KeepsRecords s s') (h' : KeepsRecords s' s'') :
    KeepsRecords s s'' := by
  intro a r hr
  obtain ⟨r', hr'⟩ := h a r hr
  exact h' a r' hr'

def counting (l : Worker) : Discipline RecoveryState RecoveryKey :=
  rowsAnd (fun s s' => KeepsRecords s s' ∧ ∀ a, l.flight = some a → SameCounts a.1 s s') (fun _ _ _ => True)
    (fun _ => ⟨fun _ r hr => ⟨r, hr⟩, fun _ _ => rfl⟩)
    (fun _ _ _ h h' => ⟨h.1.trans h'.1, fun a ha => (h'.2 a ha).trans (h.2 a ha)⟩)
    (fun _ _ => trivial) (fun _ _ _ _ _ _ => trivial)

def alone : Setting RecoveryState RecoveryKey Worker where
  beside l _ m _ := ∀ a b, l.flight = some a → m.flight = some b → a.1 ≠ b.1
  allowed _ _ := True

structure Underway (x : Execution) (s : RecoveryState) : Prop where
  row : ∃ row, s.actions.get x.action = some row ∧ (row.status = .executing ∨ row.status = .cancelled)
  undelivered : ∀ r, s.records.get x.action = some r → r.status ≠ .delivered
  record : x.actionType = .message → ∃ r, s.records.get x.action = some r

lemma Underway.congr {x : Execution} {s s' : RecoveryState} (h : Underway x s)
    (hactions : s'.actions.get x.action = s.actions.get x.action)
    (hrecords : s'.records.get x.action = s.records.get x.action) : Underway x s' := by
  refine ⟨?_, ?_, ?_⟩
  · rw [hactions]
    exact h.row
  · rw [hrecords]
    exact h.undelivered
  · rw [hrecords]
    exact h.record

def Airborne : Worker → RecoveryState → Prop
  | .calling x _, s => Underway x s
  | .recording x _, s => Underway x s
  | _, _ => True

lemma Airborne.of_none {l : Worker} {s : RecoveryState} (h : l.flight = none) : Airborne l s := by
  cases l with
  | calling x prepared => cases h
  | recording x obs => cases h
  | _ => trivial

lemma Airborne.of_eq {l : Worker} {s s' : RecoveryState} (h : Airborne l s) (hactions : s'.actions = s.actions)
    (hrecords : s'.records = s.records) : Airborne l s' := by
  cases l with
  | calling x prepared => exact Underway.congr h (by rw [hactions]) (by rw [hrecords])
  | recording x obs => exact Underway.congr h (by rw [hactions]) (by rw [hrecords])
  | _ => trivial

structure Tallies (P : CaseId → Prop) (s s' : RecoveryState) : Prop where
  counted : Counted s'
  records : KeepsRecords s s'
  counts : ∀ k row, ¬P k → s.cases.get k = some row → SameCounts k s s'
  underway : ∀ x : Execution, ¬P x.action.1 → Underway x s → Underway x s'

namespace Tallies

variable {P : CaseId → Prop} {s s' s'' : RecoveryState}

lemma refl (hs : Counted s) : Tallies P s s :=
  ⟨hs, fun _ r hr => ⟨r, hr⟩, fun _ _ _ _ => rfl, fun _ _ h => h⟩

lemma trans (h : Tallies P s s') (h' : Tallies P s' s'') (hcases : ∀ k row, s.cases.get k = some row →
    ∃ row', s'.cases.get k = some row') : Tallies P s s'' := by
  refine ⟨h'.counted, h.records.trans h'.records, ?_, fun x hx hu => h'.underway x hx (h.underway x hx hu)⟩
  intro k row hk hrow
  obtain ⟨row', hrow'⟩ := hcases k row hrow
  exact (h'.counts k row' hk hrow').trans (h.counts k row hk hrow)

lemma of_eq (h : Tallies P s s') (hcases : s''.cases = s'.cases) (hactions : s''.actions = s'.actions)
    (hrecords : s''.records = s'.records) (hattempts : s''.attempts = s'.attempts) : Tallies P s s'' := by
  obtain ⟨hs, hkeeps, hcounts, hunderway⟩ := h
  have hdelivered : s''.delivered = s'.delivered := by
    unfold RecoveryState.delivered
    rw [hrecords]
  have hretries : s''.retries = s'.retries := by
    unfold RecoveryState.retries
    rw [hattempts]
  refine ⟨⟨?_, ?_, ?_, ?_, ?_⟩, ?_, ?_, ?_⟩
  · unfold Owned
    rw [hactions, hcases]
    exact hs.owned
  · rw [hcases, hdelivered]
    exact hs.messages
  · rw [hcases, hretries]
    exact hs.retries
  · rw [hactions, hrecords]
    exact hs.recorded
  · rw [hattempts, hcases]
    exact hs.attempted
  · unfold KeepsRecords
    rw [hrecords]
    exact hkeeps
  · unfold SameCounts
    rw [hcases]
    exact hcounts
  · exact fun x hx hu => (hunderway x hx hu).congr (by rw [hactions]) (by rw [hrecords])

end Tallies

section Counts

variable {s : RecoveryState}

lemma delivered_storeRecord {a : ActionId} {r : CommunicationRecord} (h : s.records.get a = some r)
    (loaded new : CommunicationRecord) (k : CaseId) : (s.storeRecord a loaded new).delivered k +
        (if a.1 = k ∧ r.status = .delivered then 1 else 0) =
      s.delivered k + if a.1 = k ∧ (CommunicationRecord.patch loaded new r).status = .delivered then 1 else 0 := by
  by_cases hsame : new = loaded
  · simp [RecoveryState.storeRecord, hsame, RecoveryState.delivered, CommunicationRecord.patch]
  · have hput : (s.storeRecord a loaded new).records = s.records.put a (CommunicationRecord.patch loaded new r) := by
      simp only [RecoveryState.storeRecord, hsame, if_false, RecoveryState.patchRecord]
      exact Table.update_eq h _
    have hcount := s.records.count_put (fun a r => decide (a.1 = k ∧ r.status = .delivered)) a
      (CommunicationRecord.patch loaded new r)
    rw [h] at hcount
    simp only [Option.any_some, decide_eq_true_eq] at hcount
    rw [RecoveryState.delivered, hput]
    exact hcount

lemma delivered_putRecord {a : ActionId} {r : CommunicationRecord} (h : s.records.get a = none)
    (hr : r.status ≠ .delivered) (k : CaseId) : (s.putRecord a r).delivered k = s.delivered k := by
  have hcount := s.records.count_put (fun a r => decide (a.1 = k ∧ r.status = .delivered)) a r
  rw [h] at hcount
  simp only [Option.any_none, Bool.false_eq_true, if_false, decide_eq_true_eq, hr, and_false, Nat.add_zero] at hcount
  exact hcount

lemma retries_addAttempt (t : RecurringPaymentAttempt) (k : CaseId) : (s.addAttempt t).retries k =
    s.retries k + if t.retryOf.any (fun a => decide (a.1 = k)) = true then 1 else 0 := by
  simp only [RecoveryState.retries, RecoveryState.addAttempt, List.countP_append, List.countP_singleton]

end Counts

section Effects

variable {D : Discipline RecoveryState RecoveryKey} {locks : List RecoveryKey} {s s' : RecoveryState}

variable {P : CaseId → Prop}

lemma Ends.tallies {x : RecoveryPending} {k : CaseId} (h : Ends D s x k locks s')
    (hs : Counted (x.own s)) : Tallies P (x.own s) s' := by
  have hframed := h.framed
  cases h with
  | left _ => exact .refl hs
  | @closed ids _ cases f hclosing hf hcases =>
    have hget := fun b => RecoveryState.get_cancelAll (s := x.own s) ids b
    -- the counters are those of the row before
    have hcase : ∀ j row', cases.get j = some row' → ∃ row, (x.own s).cases.get j = some row ∧
        row'.paymentRetryCount = row.paymentRetryCount ∧ row'.messageCount = row.messageCount := by
      intro j row' hrow'
      rw [hcases] at hrow'
      split at hrow'
      · next hj =>
        obtain ⟨row, hrow, rfl⟩ := Option.map_eq_some_iff.1 hrow'
        exact ⟨row, by rw [hj, hrow], (hf row).2⟩
      · exact ⟨row', hrow', rfl, rfl⟩
    refine ⟨⟨hframed.keeps_owned hs.owned, ?_, ?_, ?_, ?_⟩, fun _ r hr => ⟨r, hr⟩, ?_, ?_⟩
    · intro j row' hrow'
      obtain ⟨row, hrow, -, hmessages⟩ := hcase j row' hrow'
      rw [hmessages]
      exact hs.messages j row hrow
    · intro j row' hrow'
      obtain ⟨row, hrow, hretries, -⟩ := hcase j row' hrow'
      rw [hretries]
      exact hs.retries j row hrow
    · intro b r hr
      obtain ⟨row, hrow, hnew, hdone⟩ := hs.recorded b r hr
      by_cases hmem : b ∈ ids
      · refine ⟨_, (hget b).trans (by rw [if_pos hmem, hrow, Option.map_some]), ?_, fun _ => rfl⟩
        exact ActionStatus.noConfusion
      · exact ⟨row, (hget b).trans (by rw [if_neg hmem, hrow]), hnew, hdone⟩
    · intro t ht a ha
      obtain ⟨row, hrow⟩ := hs.attempted t ht a ha
      exact hframed.cases _ row hrow
    · intro j row _ hrow
      change (cases.get j).map _ = _
      rw [hcases]
      split
      · next hj =>
        rw [← hj, hrow]
        simp [hf]
      · rfl
    · intro x' _ hu
      obtain ⟨row, hrow, hstatus⟩ := hu.row
      refine ⟨?_, hu.undelivered, hu.record⟩
      by_cases hmem : x'.action ∈ ids
      · exact ⟨_, (hget _).trans (by rw [if_pos hmem, hrow, Option.map_some]), .inr rfl⟩
      · exact ⟨row, (hget _).trans (by rw [if_neg hmem, hrow]), hstatus⟩

lemma Reports.tallies (h : Reports D s s') (hs : Counted s) : Tallies P s s' := by
  cases h with
  | no => exact .refl hs
  | @new t _ _ _ hretry _ =>
    have hretries : ∀ k, (s.addAttempt t).retries k = s.retries k := by
      intro k
      rw [retries_addAttempt, hretry]
      rfl
    refine ⟨⟨hs.owned, hs.messages, ?_, hs.recorded, ?_⟩, fun _ r hr => ⟨r, hr⟩, fun _ _ _ _ => rfl,
      fun _ _ hu => ⟨hu.row, hu.undelivered, hu.record⟩⟩
    · intro k row hrow
      exact (hs.retries k row hrow).trans (hretries k).symm
    · intro t' ht' a ha
      rcases List.mem_append.1 ht' with hold | hnew
      · exact hs.attempted t' hold a ha
      · obtain rfl := List.mem_singleton.1 hnew
        rw [hretry] at ha
        cases ha

lemma Opens.tallies {i : InvoiceId} (h : Opens s locks i s') (hs : Counted s) : Tallies P s s' := by
  have hframed := h.framed hs.owned
  cases h with
  | no => exact .refl hs
  | @new row proposed hlock hfree hretries hmessages _ =>
    have hcase : ∀ j, ((s.putCase i row).schedule i proposed).cases.get j = if j = i then some row else s.cases.get j :=
      fun j => Table.get_put _ _ _ _
    have hne : ∀ k row', s.cases.get k = some row' → k ≠ i := by
      rintro k row' hrow' rfl
      rw [hfree] at hrow'
      cases hrow'
    have hnone : s.delivered i = 0 := by
      apply Table.count_eq_zero
      intro a r hr
      obtain ⟨action, haction, -⟩ := hs.recorded a r hr
      obtain ⟨recovery, hrecovery⟩ := hs.owned a action haction
      simp [hne _ _ hrecovery]
    have hzero : s.retries i = 0 := by
      apply List.countP_eq_zero.2
      intro t ht hmine
      obtain ⟨a, ha, hai⟩ := Option.any_eq_true _ _ |>.1 hmine
      obtain ⟨recovery, hrecovery⟩ := hs.attempted t ht a ha
      exact hne _ _ hrecovery (by simpa using hai)
    have hget := RecoveryState.get_schedule (s := s.putCase i row) i proposed
    refine ⟨⟨hframed.keeps_owned hs.owned, ?_, ?_, ?_, ?_⟩, fun _ r hr => ⟨r, hr⟩, ?_, ?_⟩
    · intro j row' hrow'
      rw [hcase] at hrow'
      split at hrow'
      · next hj =>
        cases hrow'
        rw [hmessages, hj]
        exact hnone.symm
      · exact hs.messages j row' hrow'
    · intro j row' hrow'
      rw [hcase] at hrow'
      split at hrow'
      · next hj =>
        cases hrow'
        rw [hretries, hj]
        exact hzero.symm
      · exact hs.retries j row' hrow'
    · intro a r hr
      obtain ⟨action, haction, hstatus⟩ := hs.recorded a r hr
      exact ⟨action, (opened_get hs.owned hfree haction).2, hstatus⟩
    · intro t ht a ha
      obtain ⟨recovery, hrecovery⟩ := hs.attempted t ht a ha
      exact hframed.cases _ _ hrecovery
    · intro k row' _ hrow'
      unfold SameCounts
      rw [hcase, if_neg (hne k row' hrow')]
    · intro x _ hu
      obtain ⟨action, haction, hstatus⟩ := hu.row
      exact ⟨⟨action, (opened_get hs.owned hfree haction).2, hstatus⟩, hu.undelivered, hu.record⟩

structure Noted (a : ActionId) (s s' : RecoveryState) : Prop where
  cases : ∀ j, j ≠ a.1 → s'.cases.get j = s.cases.get j
  delivered : ∀ j, j ≠ a.1 → s'.delivered j = s.delivered j
  retries : ∀ j, j ≠ a.1 → s'.retries j = s.retries j
  counters : ∀ row, s'.cases.get a.1 = some row →
    row.messageCount = s'.delivered a.1 ∧ row.paymentRetryCount = s'.retries a.1
  actions : ∀ b, b ≠ a → s'.actions.get b = s.actions.get b
  records : ∀ b, b ≠ a → s'.records.get b = s.records.get b
  action : ∃ row, s'.actions.get a = some row ∧ row.status ≠ .scheduled ∧
    ∀ r, s'.records.get a = some r → r.status = .delivered → row.status.isOpen = false
  keeps : ∀ r, s.records.get a = some r → ∃ r', s'.records.get a = some r'
  attempts : ∀ t ∈ s'.attempts, t ∈ s.attempts ∨ t.retryOf = some a

lemma Noted.tallies {a : ActionId} (h : Noted a s s') (hs : Counted s) (hframed : Framed locks s s')
    (hcase : ∃ row, s.cases.get a.1 = some row) : Tallies (fun k => k = a.1) s s' := by
  obtain ⟨action, haction, hstatus, hdelivered⟩ := h.action
  refine ⟨⟨hframed.keeps_owned hs.owned, ?_, ?_, ?_, ?_⟩, ?_, ?_, ?_⟩
  · intro j row hrow
    by_cases hj : j = a.1
    · subst hj
      exact (h.counters row hrow).1
    · rw [h.cases j hj] at hrow
      rw [h.delivered j hj]
      exact hs.messages j row hrow
  · intro j row hrow
    by_cases hj : j = a.1
    · subst hj
      exact (h.counters row hrow).2
    · rw [h.cases j hj] at hrow
      rw [h.retries j hj]
      exact hs.retries j row hrow
  · intro b r hr
    by_cases hba : b = a
    · subst hba
      exact ⟨action, haction, hstatus, hdelivered r hr⟩
    · rw [h.records b hba] at hr
      rw [h.actions b hba]
      exact hs.recorded b r hr
  · intro t ht b hb
    rcases h.attempts t ht with hold | hnew
    · obtain ⟨row, hrow⟩ := hs.attempted t hold b hb
      exact hframed.cases _ _ hrow
    · rw [hnew] at hb
      cases hb
      obtain ⟨row, hrow⟩ := hcase
      exact hframed.cases _ _ hrow
  · intro b r hr
    by_cases hba : b = a
    · subst hba
      exact h.keeps r hr
    · exact ⟨r, by rw [h.records b hba, hr]⟩
  · intro j row hj hrow
    unfold SameCounts
    rw [h.cases j hj]
  · intro x hx hu
    have hne : x.action ≠ a := fun heq => hx (by rw [heq])
    exact hu.congr (h.actions _ hne) (h.records _ hne)

lemma Noted.putRecord {a : ActionId} {r : CommunicationRecord} (h : Noted a s s') (hfree : s'.records.get a = none)
    (hr : r.status = .sent) : Noted a s (s'.putRecord a r) := by
  have hne : r.status ≠ .delivered := by
    rw [hr]
    exact RecordStatus.noConfusion
  have hcount := delivered_putRecord hfree hne
  obtain ⟨row, hrow, hstatus, -⟩ := h.action
  refine ⟨h.cases, fun j hj => (hcount j).trans (h.delivered j hj), h.retries, ?_, h.actions,
    fun b hb => (Table.get_put_ne _ _ hb).trans (h.records b hb), ⟨row, hrow, hstatus, ?_⟩,
    fun _ _ => ⟨r, Table.get_put_self _ _ _⟩, h.attempts⟩
  · rw [hcount]
    exact h.counters
  · intro r' hr' hdelivered
    cases (Table.get_put_self _ _ _).symm.trans hr'
    exact absurd hdelivered hne

lemma executing_status (row : ScheduledRecoveryAction) :
    (ScheduledRecoveryAction.patch row { row with status := .executing } row).status = .executing := by
  simp only [ScheduledRecoveryAction.patch, patched]
  split
  · next h => exact h.symm
  · rfl

lemma observed_status {action : ScheduledRecoveryAction} (row : ScheduledRecoveryAction)
    {obs : RecoveryNetworkObservation} {timestamp : Time}
    (h : action.status = .executing ∨ action.status = .cancelled) :
    (ScheduledRecoveryAction.patch action (action.observe obs timestamp) row).status =
      if obs.status = .unknown then .ambiguous else .executed := by
  have hne : (action.observe obs timestamp).status ≠ action.status := by
    simp only [ScheduledRecoveryAction.observe]
    rcases h with h | h <;> rw [h] <;> split <;> simp
  exact patched_of_ne hne row.status

variable {row : ScheduledRecoveryAction}

lemma Prepares.undelivered {x : Execution} {p : PreparedAction} (h : Prepares s x p locks row) (hs : Counted s) :
    ∀ r, s.records.get x.action = some r → r.status ≠ .delivered := by
  intro r hr hdelivered
  obtain ⟨row', hrow', -, hdone⟩ := hs.recorded x.action r hr
  rw [h.row_eq] at hrow'
  cases hrow'
  have hclosed := hdone hdelivered
  rw [h.isOpen] at hclosed
  cases hclosed

lemma Prepares.noted {x : Execution} {p : PreparedAction} (h : Prepares s x p locks row) (hs : Counted s) :
    Noted x.action s (s.storeAction x.action row { row with status := .executing }) := by
  refine ⟨fun _ _ => rfl, fun _ _ => rfl, fun _ _ => rfl, ?_, ?_, fun _ _ => rfl, ?_, fun r hr => ⟨r, hr⟩,
    fun _ ht => .inl ht⟩
  · intro recovery hrecovery
    exact ⟨hs.messages _ _ hrecovery, hs.retries _ _ hrecovery⟩
  · intro b hb
    rw [RecoveryState.get_storeAction, if_neg hb]
  · refine ⟨ScheduledRecoveryAction.patch row { row with status := .executing } row, ?_, ?_, ?_⟩
    · rw [RecoveryState.get_storeAction, if_pos rfl, h.row_eq, Option.map_some]
    · rw [executing_status]
      exact ActionStatus.noConfusion
    · exact fun r hr hdelivered => absurd hdelivered (h.undelivered hs r hr)

lemma Prepares.airborne {x : Execution} {p : PreparedAction} (h : Prepares s x p locks row) (hs : Counted s)
    (hrecord : x.actionType = .message → ∃ r, s.records.get x.action = some r) :
    Airborne (.calling x p) (s.storeAction x.action row { row with status := .executing }) := by
  refine ⟨⟨_, ?_, .inl (executing_status row)⟩, h.undelivered hs, hrecord⟩
  rw [RecoveryState.get_storeAction, if_pos rfl, h.row_eq, Option.map_some]

section Recording

variable {x : Execution} {obs : RecoveryNetworkObservation} {action : ScheduledRecoveryAction}
  {recovery counted : RecoveryCase}

abbrev recordingView (x : Execution) (obs : RecoveryNetworkObservation) : Discipline RecoveryState RecoveryKey :=
  (counting (.recording x obs)).assuming fun s => Counted s ∧ Airborne (.recording x obs) s

lemma Loads.status (h : Loads (recordingView x obs) s x obs locks action recovery counted) (hs : Counted s)
    (hl : Underway x s) : action.status = .executing ∨ action.status = .cancelled := by
  obtain ⟨s₀, hview, haction⟩ := h.action_eq
  obtain ⟨-, hu⟩ := hview.1.2 ⟨hs, hl⟩
  obtain ⟨row, hrow, hstatus⟩ := Underway.row hu
  rw [haction] at hrow
  cases hrow
  exact hstatus

lemma Loads.counters (h : Loads (recordingView x obs) s x obs locks action recovery counted) :
    ∃ row, s.cases.get x.action.1 = some row ∧ recovery.paymentRetryCount = row.paymentRetryCount ∧
      recovery.messageCount = row.messageCount := by
  obtain ⟨s₀, hview, hrecovery⟩ := h.case_eq
  have hsame : SameCounts x.action.1 s₀ s := hview.1.1.2 x.action rfl
  unfold SameCounts at hsame
  rw [hrecovery, Option.map_some, Option.map_eq_some_iff] at hsame
  obtain ⟨row, hrow, hcounts⟩ := hsame
  exact ⟨row, hrow, (congrArg Prod.fst hcounts).symm, (congrArg Prod.snd hcounts).symm⟩

lemma Loads.action_row (h : Loads (recordingView x obs) s x obs locks action recovery counted) (hs : Counted s)
    (hl : Underway x s) (s₁ : RecoveryState) (hsame : s₁.actions = s.actions) :
    ∃ row, (s₁.storeAction x.action action (action.observe obs x.timestamp)).actions.get x.action = some row ∧
      row.status = if obs.status = .unknown then .ambiguous else .executed := by
  obtain ⟨row, hrow, -⟩ := hl.row
  refine ⟨ScheduledRecoveryAction.patch action (action.observe obs x.timestamp) row, ?_,
    observed_status row (h.status hs hl)⟩
  rw [RecoveryState.get_storeAction, if_pos rfl, hsame, hrow, Option.map_some]

lemma observed_ne (obs : RecoveryNetworkObservation) :
    (if obs.status = .unknown then ActionStatus.ambiguous else .executed) ≠ .scheduled := by
  split <;> simp

lemma unknown_noted (h : Loads (recordingView x obs) s x obs locks action recovery counted) (hs : Counted s)
    (hl : Underway x s) : Noted x.action s (s.storeAction x.action action (action.observe obs x.timestamp)) := by
  obtain ⟨row, hrow, hstatus⟩ := h.action_row hs hl s rfl
  refine ⟨fun _ _ => rfl, fun _ _ => rfl, fun _ _ => rfl, ?_, ?_, fun _ _ => rfl, ⟨row, hrow, ?_, ?_⟩,
    fun r hr => ⟨r, hr⟩, fun _ ht => .inl ht⟩
  · intro recovery hrecovery
    exact ⟨hs.messages _ _ hrecovery, hs.retries _ _ hrecovery⟩
  · intro b hb
    rw [RecoveryState.get_storeAction, if_neg hb]
  · rw [hstatus]
    exact observed_ne obs
  · exact fun r hr hdelivered => absurd hdelivered (hl.undelivered r hr)

lemma retryWrites_noted (h : Loads (recordingView x obs) s x obs locks action recovery recovery.countRetry)
    (hs : Counted s) (hl : Underway x s) {t : RecurringPaymentAttempt} (ht : t.retryOf = some x.action)
    (invoice invoice' : SubscriptionInvoice) :
    Noted x.action s (retryWrites x obs action recovery t invoice invoice' s) := by
  obtain ⟨row, hrow, hstatus⟩ := h.action_row hs hl (s.storeCase x.action.1 recovery recovery.countRetry) rfl
  obtain ⟨current, hcurrent, hretries, -⟩ := h.counters
  have hcase : ∀ j, (retryWrites x obs action recovery t invoice invoice' s).cases.get j =
      if j = x.action.1 then (s.cases.get x.action.1).map (RecoveryCase.patch recovery recovery.countRetry)
      else s.cases.get j := fun j => RecoveryState.get_storeCase _ _ _ _
  have hcount : ∀ j, (retryWrites x obs action recovery t invoice invoice' s).retries j =
      s.retries j + if x.action.1 = j then 1 else 0 := by
    intro j
    refine (retries_addAttempt (s := s) t j).trans ?_
    simp [ht]
  refine ⟨?_, fun _ _ => rfl, ?_, ?_, ?_, fun _ _ => rfl, ⟨row, hrow, ?_, ?_⟩, fun r hr => ⟨r, hr⟩, ?_⟩
  · intro j hj
    rw [hcase, if_neg hj]
  · intro j hj
    rw [hcount, if_neg (Ne.symm hj), Nat.add_zero]
  · intro row' hrow'
    rw [hcase, if_pos rfl, hcurrent] at hrow'
    cases hrow'
    have hnew : (RecoveryCase.patch recovery recovery.countRetry current).paymentRetryCount =
        recovery.paymentRetryCount + 1 :=
      patched_of_ne (by simp [RecoveryCase.countRetry]) _
    have hmessages : (RecoveryCase.patch recovery recovery.countRetry current).messageCount = current.messageCount := by
      simp [RecoveryCase.patch, RecoveryCase.countRetry]
    rw [hnew, hmessages, hcount, if_pos rfl, hretries]
    exact ⟨hs.messages _ _ hcurrent, by rw [hs.retries _ _ hcurrent]⟩
  · intro b hb
    exact (RecoveryState.get_storeAction _ _ _ _).trans (if_neg hb)
  · rw [hstatus]
    exact observed_ne obs
  · exact fun r hr hdelivered => absurd hdelivered (hl.undelivered r hr)
  · intro t' ht'
    rcases List.mem_append.1 ht' with hold | hnew
    · exact .inl hold
    · obtain rfl := List.mem_singleton.1 hnew
      exact .inr ht

lemma observed_record (obs : RecoveryNetworkObservation) {row r : CommunicationRecord} (hrow : row.status ≠ .delivered) (hr : r.status ≠ .delivered) :
    (CommunicationRecord.patch row (row.observe obs) r).status = .delivered ↔ obs.status = .succeeded := by
  change patched row.status (.observed obs.status) r.status = .delivered ↔ _
  constructor
  · intro h
    rcases patched_or row.status (.observed obs.status) r.status with hold | hnew
    · exact absurd (hold.symm.trans h) hr
    · rw [hnew] at h
      cases hobs : obs.status with
      | succeeded => rfl
      | failed =>
        rw [hobs] at h
        cases h
      | unknown =>
        rw [hobs] at h
        cases h
  · intro h
    rw [h]
    exact patched_of_ne (Ne.symm hrow) _

lemma message_noted (h : Loads (recordingView x obs) s x obs locks action recovery (recovery.countMessage obs))
    (hs : Counted s) (hl : Underway x s) {row : CommunicationRecord}
    (hrecord : (recordingView x obs).Saw [] s fun s₀ => s₀.records.get x.action = some row) :
    Noted x.action s (((s.storeCase x.action.1 recovery (recovery.countMessage obs)).storeAction x.action action
      (action.observe obs x.timestamp)).storeRecord x.action row (row.observe obs)) := by
  obtain ⟨after, hafter, hstatus⟩ :=
    h.action_row hs hl (s.storeCase x.action.1 recovery (recovery.countMessage obs)) rfl
  obtain ⟨current, hcurrent, -, hmessages⟩ := h.counters
  -- the record as it was loaded, and as it is
  obtain ⟨s₀, hview, hloaded⟩ := hrecord
  have hundelivered : row.status ≠ .delivered := Underway.undelivered (hview.1.2 ⟨hs, hl⟩).2 row hloaded
  obtain ⟨r, hr⟩ : ∃ r, s.records.get x.action = some r := hview.1.1.1 _ _ hloaded
  have hrecord := observed_record obs hundelivered (hl.undelivered r hr)
  have hget := RecoveryState.get_storeRecord (s := s) x.action x.action row (row.observe obs)
  rw [if_pos rfl, hr, Option.map_some] at hget
  have hcase : ∀ j, (s.storeCase x.action.1 recovery (recovery.countMessage obs)).cases.get j =
      if j = x.action.1 then (s.cases.get x.action.1).map (RecoveryCase.patch recovery (recovery.countMessage obs))
      else s.cases.get j := fun j => RecoveryState.get_storeCase _ _ _ _
  have hcount : ∀ j, (s.storeRecord x.action row (row.observe obs)).delivered j =
      s.delivered j + if x.action.1 = j ∧ obs.status = .succeeded then 1 else 0 := by
    intro j
    have hdelivered := delivered_storeRecord hr row (row.observe obs) j
    simpa only [hl.undelivered r hr, and_false, if_false, Nat.add_zero, hrecord] using hdelivered
  refine ⟨?_, ?_, fun _ _ => rfl, ?_, ?_, ?_, ⟨after, hafter, ?_, ?_⟩, fun _ _ => ⟨_, hget⟩, fun _ ht => .inl ht⟩
  · intro j hj
    exact (hcase j).trans (if_neg hj)
  · intro j hj
    refine (hcount j).trans ?_
    rw [if_neg fun hand => hj hand.1.symm, Nat.add_zero]
  · intro row' hrow'
    have hrow'' := (hcase x.action.1).symm.trans hrow'
    rw [if_pos rfl, hcurrent] at hrow''
    cases hrow''
    have hretries : (RecoveryCase.patch recovery (recovery.countMessage obs) current).paymentRetryCount =
        current.paymentRetryCount := by simp [RecoveryCase.patch, RecoveryCase.countMessage]
    have hdelivered := hcount x.action.1
    have hmatch := hs.messages _ _ hcurrent
    refine ⟨?_, hretries.trans (hs.retries _ _ hcurrent)⟩
    refine Eq.trans ?_ hdelivered.symm
    by_cases hsucceeded : obs.status = .succeeded
    · have hnew : (RecoveryCase.patch recovery (recovery.countMessage obs) current).messageCount =
          recovery.messageCount + 1 := by simp [RecoveryCase.patch, RecoveryCase.countMessage, hsucceeded, patched]
      simp only [hnew, hsucceeded, and_self, if_true]
      omega
    · have hold : (RecoveryCase.patch recovery (recovery.countMessage obs) current).messageCount =
          current.messageCount := by simp [RecoveryCase.patch, RecoveryCase.countMessage, hsucceeded]
      simp only [hold, hsucceeded, and_false, if_false]
      omega
  · intro b hb
    exact (RecoveryState.get_storeAction _ _ _ _).trans (if_neg hb)
  · intro b hb
    exact (RecoveryState.get_storeRecord _ _ _ _).trans (if_neg hb)
  · rw [hstatus]
    exact observed_ne obs
  · intro r' hr' hdelivered
    have heq := hget.symm.trans hr'
    cases heq
    rw [hstatus, hrecord.1 hdelivered]
    rfl

end Recording

lemma Tallies.mono {Q : CaseId → Prop} (h : Tallies P s s') (hPQ : ∀ k, P k → Q k) : Tallies Q s s' :=
  ⟨h.counted, h.records, fun k row hk => h.counts k row fun hp => hk (hPQ k hp),
    fun x hx => h.underway x fun hp => hx (hPQ _ hp)⟩

def Flies (l l' : Worker) (k : CaseId) : Prop := ∃ a, (l.flight = some a ∨ l'.flight = some a) ∧ a.1 = k

lemma not_flies {l l' m : Worker} (hl : ∀ a b, l.flight = some a → m.flight = some b → a.1 ≠ b.1)
    (hl' : ∀ a b, l'.flight = some a → m.flight = some b → a.1 ≠ b.1) {b : ActionId} (hb : m.flight = some b) :
    ¬Flies l l' b.1 := by
  rintro ⟨a, ha | ha, hab⟩
  · exact hl a b ha hb hab
  · exact hl' a b ha hb hab

theorem Effect.tallies {l l' : Worker} (hs : Counted s) (hl : Airborne l s)
    (h : Effect ((counting l).assuming fun s => Counted s ∧ Airborne l s) s l l' locks s') :
    Tallies (Flies l l') s s' ∧ Airborne l' s' := by
  have hframed := h.framed hs.owned
  cases h with
  | same hflight => exact ⟨.refl hs, .of_none hflight⟩
  | @prepared x p _ row hprepares hrecord =>
    have htallies := (hprepares.noted hs).tallies hs hframed (hs.owned _ _ hprepares.row_eq)
    refine ⟨htallies.mono fun k hk => ⟨x.action, .inr rfl, hk.symm⟩, hprepares.airborne hs fun hmessage => ?_⟩
    obtain ⟨s₀, hview, hsome⟩ := hrecord hmessage
    obtain ⟨r, hr⟩ := Option.isSome_iff_exists.1 hsome
    exact hview.1.1.1 _ _ hr
  | @sent x p _ row r hprepares hlock hfree hr =>
    have htallies := ((hprepares.noted hs).putRecord hfree hr).tallies hs hframed (hs.owned _ _ hprepares.row_eq)
    have hget : ((s.storeAction x.action row { row with status := .executing }).putRecord x.action r).records.get
        x.action = some r := Table.get_put_self _ _ _
    refine ⟨htallies.mono fun k hk => ⟨x.action, .inr rfl, hk.symm⟩, ⟨_, ?_, .inl (executing_status row)⟩, ?_, ?_⟩
    · refine (RecoveryState.get_storeAction _ _ _ _).trans ?_
      rw [if_pos rfl, hprepares.row_eq, Option.map_some]
    · intro r' hr'
      rw [hget] at hr'
      cases hr'
      rw [hr]
      exact RecordStatus.noConfusion
    · exact fun _ => ⟨r, hget⟩
  | @noted x obs _ action recovery row _ hloads hrecord _ =>
    obtain ⟨current, hcurrent, -⟩ := hloads.counters
    have htallies := (message_noted hloads hs hl hrecord).tallies hs hframed ⟨current, hcurrent⟩
    exact ⟨htallies.mono fun k hk => ⟨x.action, .inl rfl, hk.symm⟩, .of_none (flight_next x)⟩
  | @unknown x obs _ action recovery _ _ hloads =>
    obtain ⟨current, hcurrent, -⟩ := hloads.counters
    have htallies := (unknown_noted hloads hs hl).tallies hs hframed ⟨current, hcurrent⟩
    exact ⟨htallies.mono fun k hk => ⟨x.action, .inl rfl, hk.symm⟩, .of_none (flight_next x)⟩
  | @retried x obs _ _ action recovery t invoice invoice' _ _ _ hloads hretries hends =>
    obtain ⟨current, hcurrent, -⟩ := hloads.counters
    have hwrites : Framed locks s (retryWrites x obs action recovery t invoice invoice' s) :=
      (hloads.framed_retryWrites t invoice invoice').mono hends.held
    have htallies := (retryWrites_noted hloads hs hl hretries.retryOf invoice invoice').tallies hs hwrites
      ⟨current, hcurrent⟩
    exact ⟨(htallies.trans (hends.tallies htallies.counted) hwrites.cases).mono
      fun k hk => ⟨x.action, .inl rfl, hk.symm⟩, .of_none (flight_next x)⟩
  | ended hflight _ _ hends => exact ⟨hends.tallies hs, .of_none hflight⟩
  | reported hreports hopens =>
    have htallies : Tallies (Flies l .finished) s _ := hreports.tallies hs
    have hreported : Framed locks s _ := hreports.framed
    exact ⟨htallies.trans (hopens.tallies htallies.counted) hreported.cases, trivial⟩

end Effects

lemma Tallies.airborne {l l' m : Worker} {s s' : RecoveryState} (h : Tallies (Flies l l') s s')
    (hl : ∀ a b, l.flight = some a → m.flight = some b → a.1 ≠ b.1)
    (hl' : ∀ a b, l'.flight = some a → m.flight = some b → a.1 ≠ b.1) (hm : Airborne m s) : Airborne m s' := by
  cases m with
  | calling x prepared => exact h.underway x (not_flies hl hl' rfl) hm
  | recording x obs => exact h.underway x (not_flies hl hl' rfl) hm
  | _ => trivial

lemma Airborne.case_eq {l : Worker} {s : RecoveryState} (h : Airborne l s) (hs : Owned s) {a : ActionId}
    (ha : l.flight = some a) : ∃ row, s.cases.get a.1 = some row := by
  cases l with
  | calling x prepared =>
    cases ha
    obtain ⟨row, hrow, -⟩ := Underway.row h
    exact hs _ _ hrow
  | recording x obs =>
    cases ha
    obtain ⟨row, hrow, -⟩ := Underway.row h
    exact hs _ _ hrow
  | _ => cases ha

lemma Tallies.guarantees {l l' : Worker} {locks : List RecoveryKey} {s s' : RecoveryState}
    (h : Tallies (Flies l l') s s') (hs : Owned s) (hframed : Framed locks s s') :
    Guarantees alone counting Airborne l locks l' s s' := by
  intro m hm hother hother' hair
  refine ⟨hframed.view rfl hother.locks ⟨h.records, fun b hb => ?_⟩ fun _ _ => trivial,
    h.airborne hother.left hother'.left hair⟩
  obtain ⟨row, hrow⟩ := hair.case_eq hs hb
  exact h.counts b.1 row (not_flies hother.left hother'.left hb) hrow

theorem counting_relies (texts : Texts) :
    Relies alone counting (recovery texts) (fun _ _ => True) Counted Airborne where
  grows_refl _ := trivial
  grows_trans _ _ := trivial
  spawn _ hl := .of_none (flight_spawn hl)
  commit {s l t l' y} hs hl ht he _ := by
    obtain ⟨s₁, heffect, hown⟩ := commit_effect (rows_of_frame (fun _ _ _ => True) rfl) ht he
    obtain ⟨htallies, hair⟩ := heffect.tallies hs hl
    have htallies' : Tallies (Flies l l') s (y.own s) := by
      rw [hown]
      exact htallies.of_eq rfl rfl rfl rfl
    have hframed : Framed y.held s (y.own s) := by
      rw [hown]
      exact (heffect.framed hs.owned).onto _
    refine ⟨trivial, htallies'.counted, ?_, htallies'.guarantees hs.owned hframed⟩
    rw [hown]
    exact hair.of_eq rfl rfl
  fail _ _ := .of_none (flight_handler texts _ _)
  act {s l l' s'} hs hl ha _ := by
    cases ha with
    | @send x prepared _ obs _ =>
      have htallies : Tallies (Flies .finished .finished) s (s.addSend x.action) := (Tallies.refl hs).of_eq rfl rfl rfl rfl
      have hframed : Framed [] s (s.addSend x.action) := .of_eq rfl rfl rfl
      refine ⟨trivial, htallies.counted, Airborne.of_eq (l := .recording x obs) hl rfl rfl, fun m held _ _ hair => ?_⟩
      exact ⟨hframed.view rfl (fun _ _ => List.not_mem_nil) ⟨htallies.records, fun _ _ => rfl⟩ fun _ _ => trivial,
        hair.of_eq rfl rfl⟩
    | lookup obs _ =>
      exact ⟨trivial, hs, hl, fun m held _ _ hair => ⟨(counting m).view_refl held _, hair⟩⟩
  env {s s'} hs he _ := by
    obtain ⟨hcases, hactions, hrecords, hattempts, -⟩ := he.same
    have htallies : Tallies (Flies .finished .finished) s s' :=
      (Tallies.refl hs).of_eq hcases hactions hrecords hattempts
    have hframed : Framed [] s s' := .of_eq hactions hcases hrecords
    refine ⟨trivial, htallies.counted, fun m held hair => ⟨?_, hair.of_eq hactions hrecords⟩⟩
    refine hframed.view rfl (fun _ _ => List.not_mem_nil) ⟨htallies.records, fun a _ => ?_⟩ fun _ _ => trivial
    unfold SameCounts
    rw [hcases]

lemma counted_start (now : Time) : Counted (.start now) := by
  refine ⟨?_, ?_, ?_, ?_, ?_⟩
  · rintro a row ⟨⟩
  · rintro k row ⟨⟩
  · rintro k row ⟨⟩
  · rintro a r ⟨⟩
  · rintro t ⟨⟩

theorem recovery_counters_exact (texts : Texts) (now : Time) (c : Config RecoveryState RecoveryKey Error Worker) :
    (Reach (recovery texts) (.idle (.start now)) c → (∀ a, c.shared.sends.count a ≤ 1) ∧
      ∀ k row, c.shared.cases.get k = some row → row.messageCount ≤ 3 ∧ row.paymentRetryCount ≤ 3) ∧
    (ReachIn alone (recovery texts) (.idle (.start now)) c → ∀ k row, c.shared.cases.get k = some row →
      row.messageCount = c.shared.delivered k ∧ row.paymentRetryCount = c.shared.retries k) := by
  refine ⟨fun h => ⟨sent_at_most_once h, counters_bounded h⟩, fun h k row hrow => ?_⟩
  obtain ⟨hcounted, -⟩ := (counting_relies texts).reach (counted_start now) h
  exact ⟨hcounted.messages k row hrow, hcounted.retries k row hrow⟩

namespace Sample

def answered : RecoveryNetworkObservation := ⟨.succeeded, "ACCEPTED", []⟩

def twice : List (Move Worker RecoveryNetworkObservation Arrival) :=
  opening ++ [.spawn (.selecting 0 1), .run 1, .run 1, .spawn (.selecting 0 1), .run 2, .run 2,
    .act 1 answered, .act 2 answered, .run 1, .run 2]

def inTurn : List (Move Worker RecoveryNetworkObservation Arrival) :=
  opening ++ [.spawn (.selecting (hours 24) 2), .run 1, .run 1, .act 1 answered, .run 1, .run 1, .run 1,
    .act 1 answered, .run 1]

def tally (s : RecoveryState) : Option (ℕ × ℕ × ℕ × ℕ × ℕ) := do
  let recovery ← s.cases.get 1
  some (recovery.messageCount, s.delivered 1, recovery.paymentRetryCount, s.retries 1, s.sends.count (1, 1))

def soloist : Referee alone where
  runs l m := (l.flight.map Prod.fst).all fun k => decide (m.flight.map Prod.fst ≠ some k)
  rests l m := (l.flight.map Prod.fst).all fun k => decide (m.flight.map Prod.fst ≠ some k)
  allows _ _ := true
  runs_sound {l m} h held := by
    have hne : ∀ a b, l.flight = some a → m.flight = some b → a.1 ≠ b.1 := by
      intro a b ha hb heq
      simp [ha, hb, heq] at h
    exact ⟨hne, fun a b ha hb heq => hne b a hb ha heq.symm⟩
  rests_sound {l m} h := by
    intro a b ha hb heq
    simp [ha, hb, heq] at h
  allows_sound _ := trivial

end Sample

section Samples

open Sample

theorem message_counted_twice : ∃ c : Config RecoveryState RecoveryKey Error Worker,
    Reach (recovery texts) (.idle (.start 0)) c ∧ tally c.shared = some (2, 1, 0, 0, 1) := by
  obtain ⟨c, -, h, -, hc, -⟩ := Referee.free.stages (player texts) (.start 0) twice [] tally tally
    (2, 1, 0, 0, 1) (2, 1, 0, 0, 1) (by decide +kernel)
  exact ⟨c, h.reach, hc⟩

theorem recovery_counters_exact_inTurn : ∃ c : Config RecoveryState RecoveryKey Error Worker,
    ReachIn alone (recovery texts) (.idle (.start 0)) c ∧ tally c.shared = some (1, 1, 1, 1, 1) ∧
    (∀ a, c.shared.sends.count a ≤ 1) ∧
    (∀ k row, c.shared.cases.get k = some row → row.messageCount ≤ 3 ∧ row.paymentRetryCount ≤ 3) ∧
    ∀ k row, c.shared.cases.get k = some row →
      row.messageCount = c.shared.delivered k ∧ row.paymentRetryCount = c.shared.retries k := by
  obtain ⟨c, -, h, -, hc, -⟩ := soloist.stages (player texts) (.start 0) inTurn [] tally tally
    (1, 1, 1, 1, 1) (1, 1, 1, 1, 1) (by decide +kernel)
  obtain ⟨hbounds, hexact⟩ := recovery_counters_exact texts 0 c
  exact ⟨c, h, hc, (hbounds h.reach).1, (hbounds h.reach).2, hexact h⟩

end Samples

end RelayPay.Subscriptions
