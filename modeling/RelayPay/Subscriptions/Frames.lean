import RelayPay.Subscriptions.Effects

namespace RelayPay.Subscriptions

open ReadCommitted Txn

def Owned (s : RecoveryState) : Prop :=
  ∀ a row, s.actions.get a = some row → ∃ recovery, s.cases.get a.1 = some recovery

structure Framed (locks : List RecoveryKey) (s s' : RecoveryState) : Prop where
  action : ∀ a row, .action a ∉ locks → s.actions.get a = some row → s'.actions.get a = some row
  recoveryCase : ∀ k, .recoveryCase k ∉ locks → s'.cases.get k = s.cases.get k
  record : ∀ a, .record a ∉ locks → s'.records.get a = s.records.get a
  cases : ∀ k row, s.cases.get k = some row → ∃ row', s'.cases.get k = some row'
  actions : ∀ a row, s.actions.get a = some row → ∃ row', s'.actions.get a = some row'
  owned : ∀ a row, s'.actions.get a = some row →
    (∃ row', s.actions.get a = some row') ∨ ∃ recovery, s'.cases.get a.1 = some recovery

namespace Framed

variable {locks : List RecoveryKey} {s s' s'' : RecoveryState}

lemma of_eq (hactions : s'.actions = s.actions) (hcases : s'.cases = s.cases) (hrecords : s'.records = s.records) :
    Framed locks s s' := by
  refine ⟨?_, ?_, ?_, ?_, ?_, ?_⟩
  · intro a row _ h
    rw [hactions, h]
  · intro k _
    rw [hcases]
  · intro a _
    rw [hrecords]
  · intro k row h
    exact ⟨row, by rw [hcases, h]⟩
  · intro a row h
    exact ⟨row, by rw [hactions, h]⟩
  · intro a row h
    rw [hactions] at h
    exact .inl ⟨row, h⟩

lemma trans (h : Framed locks s s') (h' : Framed locks s' s'') : Framed locks s s'' := by
  refine ⟨?_, ?_, ?_, ?_, ?_, ?_⟩
  · exact fun a row ha hrow => h'.action a row ha (h.action a row ha hrow)
  · exact fun k hk => (h'.recoveryCase k hk).trans (h.recoveryCase k hk)
  · exact fun a ha => (h'.record a ha).trans (h.record a ha)
  · intro k row hrow
    obtain ⟨row', hrow'⟩ := h.cases k row hrow
    exact h'.cases k row' hrow'
  · intro a row hrow
    obtain ⟨row', hrow'⟩ := h.actions a row hrow
    exact h'.actions a row' hrow'
  · intro a row hrow
    rcases h'.owned a row hrow with ⟨row', hrow'⟩ | hcase
    · rcases h.owned a row' hrow' with hold | ⟨recovery, hcase⟩
      · exact .inl hold
      · exact .inr (h'.cases _ _ hcase)
    · exact .inr hcase

lemma keeps_owned (h : Framed locks s s') (hs : Owned s) : Owned s' := by
  intro a row hrow
  rcases h.owned a row hrow with ⟨row', hrow'⟩ | hcase
  · obtain ⟨recovery, hrecovery⟩ := hs a row' hrow'
    exact h.cases _ _ hrecovery
  · exact hcase

lemma storeAction {a : ActionId} {loaded new : ScheduledRecoveryAction} (hlock : new ≠ loaded → .action a ∈ locks) :
    Framed locks s (s.storeAction a loaded new) := by
  have hget := fun b => RecoveryState.get_storeAction (s := s) a b loaded new
  refine ⟨?_, fun _ _ => rfl, fun _ _ => rfl, fun _ row h => ⟨row, h⟩, ?_, ?_⟩
  · intro b row hb hrow
    rw [hget]
    by_cases hba : b = a
    · subst hba
      obtain rfl : new = loaded := by
        by_contra hne
        exact hb (hlock hne)
      simp [hrow, ScheduledRecoveryAction.patch]
    · rw [if_neg hba, hrow]
  · intro b row hrow
    rw [hget]
    by_cases hba : b = a
    · subst hba
      exact ⟨_, by rw [if_pos rfl, hrow, Option.map_some]⟩
    · exact ⟨row, by rw [if_neg hba, hrow]⟩
  · intro b row hrow
    rw [hget] at hrow
    by_cases hba : b = a
    · subst hba
      rw [if_pos rfl] at hrow
      obtain ⟨row', hrow', -⟩ := Option.map_eq_some_iff.1 hrow
      exact .inl ⟨row', hrow'⟩
    · rw [if_neg hba] at hrow
      exact .inl ⟨row, hrow⟩

lemma storeCase {k : CaseId} {loaded new : RecoveryCase} (hlock : new ≠ loaded → .recoveryCase k ∈ locks) :
    Framed locks s (s.storeCase k loaded new) := by
  have hget := fun j => RecoveryState.get_storeCase (s := s) k j loaded new
  refine ⟨fun _ _ _ h => h, ?_, fun _ _ => rfl, ?_, fun _ row h => ⟨row, h⟩, fun _ row h => .inl ⟨row, h⟩⟩
  · intro j hj
    rw [hget]
    by_cases hjk : j = k
    · subst hjk
      obtain rfl : new = loaded := by
        by_contra hne
        exact hj (hlock hne)
      have hid : RecoveryCase.patch new new = id := by
        funext row
        simp [RecoveryCase.patch]
      rw [if_pos rfl, hid, Option.map_id, id]
    · rw [if_neg hjk]
  · intro j row hrow
    rw [hget]
    by_cases hjk : j = k
    · subst hjk
      exact ⟨_, by rw [if_pos rfl, hrow, Option.map_some]⟩
    · exact ⟨row, by rw [if_neg hjk, hrow]⟩

lemma storeRecord {a : ActionId} {loaded new : CommunicationRecord} (hlock : new ≠ loaded → .record a ∈ locks) :
    Framed locks s (s.storeRecord a loaded new) := by
  refine ⟨fun _ _ _ h => h, fun _ _ => rfl, ?_, fun _ row h => ⟨row, h⟩, fun _ row h => ⟨row, h⟩,
    fun _ row h => .inl ⟨row, h⟩⟩
  intro b hb
  rw [RecoveryState.get_storeRecord]
  by_cases hba : b = a
  · subst hba
    obtain rfl : new = loaded := by
      by_contra hne
      exact hb (hlock hne)
    have hid : CommunicationRecord.patch new new = id := by
      funext row
      simp [CommunicationRecord.patch]
    rw [if_pos rfl, hid, Option.map_id, id]
  · rw [if_neg hba]

lemma putRecord {a : ActionId} {r : CommunicationRecord} (hlock : .record a ∈ locks) :
    Framed locks s (s.putRecord a r) := by
  refine ⟨fun _ _ _ h => h, fun _ _ => rfl, ?_, fun _ row h => ⟨row, h⟩, fun _ row h => ⟨row, h⟩,
    fun _ row h => .inl ⟨row, h⟩⟩
  intro b hb
  apply Table.get_put_ne
  rintro rfl
  exact hb hlock

end Framed

variable {D : Discipline RecoveryState RecoveryKey} {s s' : RecoveryState} {locks : List RecoveryKey}

lemma Ends.framed {x : RecoveryPending} {k : CaseId} (h : Ends D s x k locks s') : Framed locks (x.own s) s' := by
  cases h with
  | left _ => exact .of_eq rfl rfl rfl
  | @closed ids _ cases f hclosing _ hcases =>
    have hget := fun b => RecoveryState.get_cancelAll (s := x.own s) ids b
    refine ⟨?_, ?_, fun _ _ => rfl, ?_, ?_, ?_⟩
    · intro b row hb hrow
      refine (hget b).trans ?_
      rw [if_neg fun hmem => hb (hclosing.cancelled b hmem).2.1, hrow]
    · intro j hj
      refine (hcases j).trans (if_neg ?_)
      rintro rfl
      exact hj hclosing.row
    · intro j row hrow
      by_cases hjk : j = k
      · subst hjk
        exact ⟨f row, (hcases j).trans (by rw [if_pos rfl, hrow, Option.map_some])⟩
      · exact ⟨row, (hcases j).trans (by rw [if_neg hjk, hrow])⟩
    · intro b row hrow
      by_cases hb : b ∈ ids
      · exact ⟨_, (hget b).trans (by rw [if_pos hb, hrow, Option.map_some])⟩
      · exact ⟨row, (hget b).trans (by rw [if_neg hb, hrow])⟩
    · intro b row hrow
      left
      have hrow' := (hget b).symm.trans hrow
      by_cases hb : b ∈ ids
      · rw [if_pos hb] at hrow'
        obtain ⟨row', hrow'', -⟩ := Option.map_eq_some_iff.1 hrow'
        exact ⟨row', hrow''⟩
      · rw [if_neg hb] at hrow'
        exact ⟨row, hrow'⟩

lemma Reports.framed (h : Reports D s s') : Framed locks s s' := by
  cases h with
  | no => exact .of_eq rfl rfl rfl
  | new _ _ _ => exact .of_eq rfl rfl rfl

lemma opened_get {i : InvoiceId} {row : RecoveryCase} {proposed : List ProposedAction} (hs : Owned s)
    (hfree : s.cases.get i = none) {a : ActionId} {action : ScheduledRecoveryAction}
    (h : s.actions.get a = some action) :
    a.1 ≠ i ∧ ((s.putCase i row).schedule i proposed).actions.get a = some action := by
  have hne : a.1 ≠ i := by
    rintro rfl
    obtain ⟨recovery, hrecovery⟩ := hs a action h
    rw [hfree] at hrecovery
    cases hrecovery
  refine ⟨hne, ?_⟩
  rcases RecoveryState.get_schedule (s := s.putCase i row) i proposed a with hsame | ⟨hi, -⟩
  · exact hsame.trans h
  · exact absurd hi hne

lemma Opens.framed {i : InvoiceId} (hs : Owned s) (h : Opens s locks i s') : Framed locks s s' := by
  cases h with
  | no => exact .of_eq rfl rfl rfl
  | @new row proposed hlock hfree _ _ _ =>
    have hcase : ∀ j, ((s.putCase i row).schedule i proposed).cases.get j = if j = i then some row else s.cases.get j :=
      fun j => Table.get_put _ _ _ _
    refine ⟨?_, ?_, fun _ _ => rfl, ?_, ?_, ?_⟩
    · exact fun a action _ h => (opened_get hs hfree h).2
    · intro j hj
      refine (hcase j).trans (if_neg ?_)
      rintro rfl
      exact hj hlock
    · intro j row' hrow'
      by_cases hj : j = i
      · exact ⟨row, (hcase j).trans (if_pos hj)⟩
      · exact ⟨row', (hcase j).trans (by rw [if_neg hj, hrow'])⟩
    · exact fun a action h => ⟨action, (opened_get hs hfree h).2⟩
    · intro a action h
      rcases RecoveryState.get_schedule (s := s.putCase i row) i proposed a with hsame | ⟨hi, -⟩
      · exact .inl ⟨action, hsame.symm.trans h⟩
      · exact .inr ⟨row, (hcase a.1).trans (if_pos hi)⟩

lemma Framed.mono {locks' : List RecoveryKey} (h : Framed locks s s') (hsub : locks ⊆ locks') : Framed locks' s s' :=
  ⟨fun a row ha => h.action a row fun hmem => ha (hsub hmem), fun k hk => h.recoveryCase k fun hmem => hk (hsub hmem),
    fun a ha => h.record a fun hmem => ha (hsub hmem), h.cases, h.actions, h.owned⟩

lemma Ends.held {x : RecoveryPending} {k : CaseId} (h : Ends D s x k locks s') : x.held ⊆ locks := by
  cases h with
  | left hsub => exact hsub
  | closed f hclosing _ _ => exact hclosing.held

lemma Loads.framed_retryWrites {x : Execution} {obs : RecoveryNetworkObservation} {action : ScheduledRecoveryAction}
    {recovery : RecoveryCase} (h : Loads D s x obs locks action recovery recovery.countRetry)
    (t : RecurringPaymentAttempt) (invoice invoice' : SubscriptionInvoice) :
    Framed locks s (retryWrites x obs action recovery t invoice invoice' s) := by
  have hcase : Framed locks s (s.storeCase x.action.1 recovery recovery.countRetry) :=
    .storeCase fun hne => (h.case_locked hne).1
  exact (hcase.trans (.storeAction h.action_locked)).trans (.of_eq rfl rfl rfl)

theorem Effect.framed {l l' : Worker} (hs : Owned s) (h : Effect D s l l' locks s') : Framed locks s s' := by
  cases h with
  | same _ => exact .of_eq rfl rfl rfl
  | prepared hprepares _ => exact .storeAction fun _ => hprepares.locked
  | @sent x _ _ row _ hprepares hrecord _ _ =>
    have haction : Framed locks s (s.storeAction x.action row { row with status := .executing }) :=
      .storeAction fun _ => hprepares.locked
    exact haction.trans (.putRecord hrecord)
  | @noted x obs _ action recovery row _ hloads _ hrecord =>
    have hcase : Framed locks s (s.storeCase x.action.1 recovery (recovery.countMessage obs)) :=
      .storeCase fun hne => (hloads.case_locked hne).1
    exact (hcase.trans (.storeAction hloads.action_locked)).trans (.storeRecord hrecord)
  | unknown _ _ hloads => exact .storeAction hloads.action_locked
  | retried _ _ hloads _ hends =>
    exact ((hloads.framed_retryWrites _ _ _).mono hends.held).trans hends.framed
  | ended _ _ _ hends => exact hends.framed
  | reported hreports hopens =>
    have hframed : Framed locks s _ := hreports.framed
    exact hframed.trans (hopens.framed (hframed.keeps_owned hs))

lemma Framed.onto (h : Framed locks s s') (o : RecoveryState) : Framed locks s (s'.onto o) :=
  h.trans (.of_eq rfl rfl rfl)

section Discipline

variable {evolves : RecoveryState → RecoveryState → Prop} {closing : CaseId → RecoveryState → RecoveryState → Prop}

def Frame (closing : CaseId → RecoveryState → RecoveryState → Prop) : RecoveryKey → RecoveryState → RecoveryState → Prop
  | .action a, s, s' => ∀ row, s.actions.get a = some row → s'.actions.get a = some row
  | .recoveryCase k, s, s' => s'.cases.get k = s.cases.get k
  | .record a, s, s' => s'.records.get a = s.records.get a
  | .closing k, s, s' => closing k s s'
  | _, _, _ => True

def rowsAnd (evolves : RecoveryState → RecoveryState → Prop) (closing : CaseId → RecoveryState → RecoveryState → Prop)
    (evolves_refl : ∀ s, evolves s s) (evolves_trans : ∀ s₁ s₂ s₃, evolves s₁ s₂ → evolves s₂ s₃ → evolves s₁ s₃)
    (closing_refl : ∀ k s, closing k s s)
    (closing_trans : ∀ k s₁ s₂ s₃, closing k s₁ s₂ → closing k s₂ s₃ → closing k s₁ s₃) :
    Discipline RecoveryState RecoveryKey where
  frame := Frame closing
  evolves := evolves
  frame_refl k s := by
    cases k with
    | action a => exact fun _ h => h
    | recoveryCase k => rfl
    | record a => rfl
    | closing k => exact closing_refl k s
    | _ => trivial
  frame_trans k s₁ s₂ s₃ h h' := by
    cases k with
    | action a => exact fun row hrow => h' row (h row hrow)
    | recoveryCase k => exact Eq.trans h' h
    | record a => exact Eq.trans h' h
    | closing k => exact closing_trans k s₁ s₂ s₃ h h'
    | _ => trivial
  evolves_refl := evolves_refl
  evolves_trans := evolves_trans

lemma rows_of_frame (closing : CaseId → RecoveryState → RecoveryState → Prop)
    (h : D.frame = Frame closing) : Rows D := by
  refine ⟨?_, ?_, ?_⟩
  · intro a s s' row hframe hrow
    rw [h] at hframe
    exact hframe row hrow
  · intro k s s' hframe
    rw [h] at hframe
    exact hframe
  · intro a s s' hframe
    rw [h] at hframe
    exact hframe

lemma Framed.view (hD : D.frame = Frame closing) {hs : List RecoveryKey}
    (h : Framed locks s s') (hlocks : ∀ key ∈ hs, key ∉ locks) (hevolves : D.evolves s s')
    (hclosing : ∀ k, .closing k ∈ hs → closing k s s') : D.view hs s s' := by
  refine ⟨hevolves, fun key hkey => ?_⟩
  have hfree := hlocks key hkey
  rw [hD]
  cases key with
  | action a => exact fun row hrow => h.action a row hfree hrow
  | recoveryCase k => exact h.recoveryCase k hfree
  | record a => exact h.record a hfree
  | closing k => exact hclosing k hkey
  | _ => trivial

end Discipline

lemma commit_effect {texts : Texts} (hD : Rows D) {l l' : Worker} {t : RecoveryTx Worker} {y : RecoveryPending}
    (ht : (recovery texts).txn l = some t) (h : Eval D s (t.atCommit (recovery texts).fire []) .init (.ok l') y) :
    ∃ s₁, Effect D s l l' y.held s₁ ∧ y.own s = s₁.onto (y.own s) :=
  (h.closes (closes_atCommit (recovery_commits hD ht))).1 l' rfl

lemma Environment.same (h : Environment s s') :
    s'.cases = s.cases ∧ s'.actions = s.actions ∧ s'.records = s.records ∧ s'.attempts = s.attempts ∧
      s'.sends = s.sends := by
  cases h <;> exact ⟨rfl, rfl, rfl, rfl, rfl⟩

end RelayPay.Subscriptions
