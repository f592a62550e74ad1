import RelayPay.Subscriptions.Frames

/-! A case that has ended stays ended, if it is not ended under an execution between its two transactions. -/

namespace RelayPay.Subscriptions

open ReadCommitted Txn

namespace RecoveryState

def Terminal (s : RecoveryState) (k : CaseId) : Prop :=
  ∃ row, s.cases.get k = some row ∧ row.status.terminal = true

def Cancelled (s : RecoveryState) (a : ActionId) : Prop :=
  ∃ row, s.actions.get a = some row ∧ row.status = .cancelled

end RecoveryState

structure Suppressed (s : RecoveryState) : Prop where
  owned : Owned s
  terminal : ∀ a, s.Terminal a.1 → ¬s.OpenAt a
  cancelled : ∀ a, s.Cancelled a → s.Terminal a.1

structure Settles (s s' : RecoveryState) : Prop where
  cases : ∀ k row, s.cases.get k = some row → ∃ row', s'.cases.get k = some row'
  terminal : ∀ k, s.Terminal k → s'.Terminal k
  cancelled : ∀ a, s.Cancelled a → s'.Cancelled a
  sends : ∀ a, s.Terminal a.1 → s'.sends.count a = s.sends.count a

lemma Settles.refl (s : RecoveryState) : Settles s s :=
  ⟨fun _ row h => ⟨row, h⟩, fun _ h => h, fun _ h => h, fun _ _ => rfl⟩

variable {s s'' s' : RecoveryState}

lemma Settles.trans (h : Settles s s') (h' : Settles s' s'') : Settles s s'' := by
  refine ⟨?_, fun k hk => h'.terminal k (h.terminal k hk), fun a ha => h'.cancelled a (h.cancelled a ha), ?_⟩
  · intro k row hrow
    obtain ⟨row', hrow'⟩ := h.cases k row hrow
    exact h'.cases k row' hrow'
  · intro a ha
    rw [h'.sends a (h.terminal _ ha), h.sends a ha]

def NoneOpens (k : CaseId) (s s' : RecoveryState) : Prop :=
  ∀ row, s.cases.get k = some row → (∃ row', s'.cases.get k = some row') ∧ ∀ a, a.1 = k → s'.OpenAt a → s.OpenAt a

def suppression : Discipline RecoveryState RecoveryKey :=
  rowsAnd Settles NoneOpens Settles.refl (fun _ _ _ => Settles.trans)
    (fun _ _ row h => ⟨⟨row, h⟩, fun _ _ hopen => hopen⟩)
    (fun _ _ _ _ h h' row hrow => by
      obtain ⟨⟨row', hrow'⟩, hopen⟩ := h row hrow
      obtain ⟨hrow'', hopen'⟩ := h' row' hrow'
      exact ⟨hrow'', fun a ha ho => hopen a ha (hopen' a ha ho)⟩)

def unhurried : Setting RecoveryState RecoveryKey Worker where
  beside l _ _ hm := ∀ a, l.flight = some a → .closing a.1 ∉ hm
  allowed _ _ := True

def Live (l : Worker) (s : RecoveryState) : Prop :=
  ∀ a, l.flight = some a → (∃ recovery, s.cases.get a.1 = some recovery ∧ recovery.status.terminal = false) ∧
    ∃ row, s.actions.get a = some row

lemma Live.of_none {l : Worker} (h : l.flight = none) : Live l s := by
  intro a ha
  rw [h] at ha
  cases ha

lemma Live.not_terminal {l : Worker} {a : ActionId} (h : Live l s) (ha : l.flight = some a) : ¬s.Terminal a.1 := by
  rintro ⟨row, hrow, hterminal⟩
  obtain ⟨⟨recovery, hrecovery, hopen⟩, -⟩ := h a ha
  rw [hrow] at hrecovery
  cases hrecovery
  rw [hterminal] at hopen
  cases hopen

structure Touches (a : ActionId) (s s' : RecoveryState) : Prop where
  status : ∀ k, (s'.cases.get k).map RecoveryCase.status = (s.cases.get k).map RecoveryCase.status
  others : ∀ b, b ≠ a → s'.actions.get b = s.actions.get b
  sends : s'.sends = s.sends

namespace Touches

variable {a : ActionId} {s s' : RecoveryState}

lemma case_iff (h : Touches a s s') {k : CaseId} {p : CaseStatus → Prop} :
    (∃ row, s'.cases.get k = some row ∧ p row.status) ↔ ∃ row, s.cases.get k = some row ∧ p row.status := by
  have hmap : ∀ o : Option RecoveryCase, (∃ row, o = some row ∧ p row.status) ↔
      ∃ status, o.map RecoveryCase.status = some status ∧ p status := by
    intro o
    cases o <;> simp
  rw [hmap, hmap, h.status k]

lemma terminal_iff (h : Touches a s s') (k : CaseId) : s'.Terminal k ↔ s.Terminal k :=
  h.case_iff (p := fun status => status.terminal = true)

lemma openAt_iff (h : Touches a s s') {b : ActionId} (hb : b ≠ a) : s'.OpenAt b ↔ s.OpenAt b := by
  unfold RecoveryState.OpenAt
  rw [h.others b hb]

lemma cancelled_iff (h : Touches a s s') {b : ActionId} (hb : b ≠ a) : s'.Cancelled b ↔ s.Cancelled b := by
  unfold RecoveryState.Cancelled
  rw [h.others b hb]

lemma settles (h : Touches a s s') (hcancel : ¬s.Cancelled a) : Settles s s' := by
  refine ⟨?_, fun k hk => (h.terminal_iff k).2 hk, ?_, fun b _ => by rw [h.sends]⟩
  · intro k row hrow
    have hexists : ∃ row, s'.cases.get k = some row ∧ True := (h.case_iff (p := fun _ => True)).2 ⟨row, hrow, trivial⟩
    obtain ⟨row', hrow', -⟩ := hexists
    exact ⟨row', hrow'⟩
  · intro b hb
    have hne : b ≠ a := by
      rintro rfl
      exact hcancel hb
    exact (h.cancelled_iff hne).2 hb

lemma live (h : Touches a s s') (hframed : ∀ b row, s.actions.get b = some row → ∃ row', s'.actions.get b = some row')
    {m : Worker} (hm : Live m s) : Live m s' := by
  intro b hb
  obtain ⟨hcase, row, hrow⟩ := hm b hb
  exact ⟨(h.case_iff (p := fun status => status.terminal = false)).2 hcase, hframed b row hrow⟩

lemma noneOpens (h : Touches a s s') {k : CaseId} (hopen : a.1 = k → s'.OpenAt a → s.OpenAt a) : NoneOpens k s s' := by
  intro row hrow
  have hexists : ∃ row, s'.cases.get k = some row ∧ True := (h.case_iff (p := fun _ => True)).2 ⟨row, hrow, trivial⟩
  obtain ⟨row', hrow', -⟩ := hexists
  refine ⟨⟨row', hrow'⟩, fun b hb ho => ?_⟩
  by_cases hba : b = a
  · subst hba
    exact hopen hb ho
  · exact (h.openAt_iff hba).1 ho

lemma of_eq (hcases : s'.cases = s.cases) (hactions : s'.actions = s.actions) (hsends : s'.sends = s.sends) :
    Touches a s s' :=
  ⟨fun k => by rw [hcases], fun b _ => by rw [hactions], hsends⟩

lemma trans (h : Touches a s s') (h' : Touches a s' s'') : Touches a s s'' :=
  ⟨fun k => (h'.status k).trans (h.status k), fun b hb => (h'.others b hb).trans (h.others b hb),
    h'.sends.trans h.sends⟩

lemma storeAction (loaded new : ScheduledRecoveryAction) : Touches a s (s.storeAction a loaded new) :=
  ⟨fun _ => rfl, fun b hb => by rw [RecoveryState.get_storeAction, if_neg hb], rfl⟩

lemma storeCase (k : CaseId) {loaded new : RecoveryCase} (h : new.status = loaded.status) :
    Touches a s (s.storeCase k loaded new) := by
  refine ⟨fun j => ?_, fun _ _ => rfl, rfl⟩
  rw [RecoveryState.get_storeCase]
  by_cases hj : j = k
  · subst hj
    have hstatus : RecoveryCase.status ∘ RecoveryCase.patch loaded new = RecoveryCase.status := by
      funext row
      simp [RecoveryCase.patch, h]
    rw [if_pos rfl, Option.map_map, hstatus]
  · rw [if_neg hj]

end Touches

variable {obs : RecoveryNetworkObservation} {action : ScheduledRecoveryAction}

lemma observe_cancelled {a : ActionId}
    {timestamp : Time} (h : (s.storeAction a action (action.observe obs timestamp)).Cancelled a) : s.Cancelled a := by
  obtain ⟨row', hrow', hstatus⟩ := h
  rw [RecoveryState.get_storeAction, if_pos rfl] at hrow'
  obtain ⟨row, hrow, rfl⟩ := Option.map_eq_some_iff.1 hrow'
  refine ⟨row, hrow, ?_⟩
  simp only [ScheduledRecoveryAction.patch, ScheduledRecoveryAction.observe, patched] at hstatus
  by_cases hunknown : obs.status = .unknown
  all_goals
    simp only [hunknown, if_true, if_false] at hstatus
    split at hstatus
    · exact hstatus
    · cases hstatus

structure Quiet (l : Worker) (locks : List RecoveryKey) (s s' : RecoveryState) : Prop where
  suppressed : Suppressed s'
  settles : Settles s s'
  noneOpens : ∀ k, .closing k ∉ locks → (∀ a, l.flight = some a → a.1 ≠ k) → NoneOpens k s s'
  live : ∀ m : Worker, (∀ a, m.flight = some a → .closing a.1 ∉ locks) → Live m s → Live m s'

section Quiet

variable {l : Worker} {locks : List RecoveryKey} {s s' : RecoveryState}

lemma Quiet.refl (hs : Suppressed s) : Quiet l locks s s :=
  ⟨hs, .refl s, fun _ _ _ row hrow => ⟨⟨row, hrow⟩, fun _ _ h => h⟩, fun _ _ h => h⟩

lemma Quiet.trans (h : Quiet l locks s s') (h' : Quiet l locks s' s'') : Quiet l locks s s'' := by
  refine ⟨h'.suppressed, h.settles.trans h'.settles, ?_, fun m hm hlive => h'.live m hm (h.live m hm hlive)⟩
  intro k hk hflight
  exact suppression.frame_trans (.closing k) _ _ _ (h.noneOpens k hk hflight) (h'.noneOpens k hk hflight)

lemma Quiet.of_eq (h : Quiet l locks s s') (hcases : s''.cases = s'.cases)
    (hactions : s''.actions = s'.actions) (hsends : s''.sends = s'.sends) : Quiet l locks s s'' := by
  have hterminal : s''.Terminal = s'.Terminal := by
    unfold RecoveryState.Terminal
    rw [hcases]
  have hcancelled : s''.Cancelled = s'.Cancelled := by
    unfold RecoveryState.Cancelled
    rw [hactions]
  have hopen : s''.OpenAt = s'.OpenAt := by
    unfold RecoveryState.OpenAt
    rw [hactions]
  obtain ⟨hs, hsettles, hnone, hlive⟩ := h
  refine ⟨⟨?_, ?_, ?_⟩, ⟨?_, ?_, ?_, ?_⟩, ?_, ?_⟩
  · unfold Owned
    rw [hactions, hcases]
    exact hs.owned
  · rw [hterminal, hopen]
    exact hs.terminal
  · rw [hterminal, hcancelled]
    exact hs.cancelled
  · rw [hcases]
    exact hsettles.cases
  · rw [hterminal]
    exact hsettles.terminal
  · rw [hcancelled]
    exact hsettles.cancelled
  · rw [hsends]
    exact hsettles.sends
  · unfold NoneOpens at hnone ⊢
    rw [hcases, hopen]
    exact hnone
  · unfold Live at hlive ⊢
    rw [hcases, hactions]
    exact hlive

lemma Touches.quiet {a : ActionId} (h : Touches a s s') (hframed : Framed locks s s') (hs : Suppressed s)
    (hopen : ¬s.Terminal a.1) (hcancel : s'.Cancelled a → s.Cancelled a)
    (hopens : l.flight = some a ∨ (s'.OpenAt a → s.OpenAt a)) : Quiet l locks s s' := by
  have hnot : ¬s.Cancelled a := fun hc => hopen (hs.cancelled a hc)
  refine ⟨⟨hframed.keeps_owned hs.owned, ?_, ?_⟩, h.settles hnot, ?_, fun m _ => h.live hframed.actions⟩
  · intro b hb
    have hb' := (h.terminal_iff b.1).1 hb
    have hne : b ≠ a := by
      rintro rfl
      exact hopen hb'
    rw [h.openAt_iff hne]
    exact hs.terminal b hb'
  · intro b hb
    have hne : b ≠ a := by
      rintro rfl
      exact hnot (hcancel hb)
    exact (h.terminal_iff b.1).2 (hs.cancelled b ((h.cancelled_iff hne).1 hb))
  · intro k _ hflight
    apply h.noneOpens
    intro hk
    rcases hopens with hl | hopens
    · exact absurd hk (hflight a hl)
    · exact hopens

variable {D : Discipline RecoveryState RecoveryKey}

lemma Ends.quiet {x : RecoveryPending} {k : CaseId}
    (h : Ends D s x k locks s') (hs : Suppressed (x.own s)) {row : RecoveryCase}
    (hrow : (x.own s).cases.get k = some row)
    (hfull : ∀ b, b.1 = k → D.Saw (.closing k :: .recoveryCase k :: x.held) s (fun s₁ => ¬(x.own s₁).OpenAt b) →
      ¬(x.own s).OpenAt b) : Quiet l locks (x.own s) s' := by
  have hframed := h.framed
  cases h with
  | left _ => exact .refl hs
  | @closed ids _ cases f hclosing hf hcases =>
    have hother : ∀ j, j ≠ k → cases.get j = (x.own s).cases.get j := fun j hj => (hcases j).trans (if_neg hj)
    have hself : cases.get k = some (f row) := by rw [hcases, if_pos rfl, hrow, Option.map_some]
    have hterminal : ∀ j, (x.own s).Terminal j → RecoveryState.Terminal { (x.own s).cancelAll ids with cases := cases } j := by
      intro j hj
      by_cases hjk : j = k
      · subst hjk
        exact ⟨f row, hself, (hf row).1⟩
      · obtain ⟨row', hrow', hend⟩ := hj
        exact ⟨row', (hother j hjk).trans hrow', hend⟩
    have hopenAt : ∀ b, RecoveryState.OpenAt { (x.own s).cancelAll ids with cases := cases } b →
        b ∉ ids ∧ (x.own s).OpenAt b := fun b hb => RecoveryState.openAt_cancelAll.1 hb
    have hget := fun b => RecoveryState.get_cancelAll (s := x.own s) ids b
    refine ⟨⟨hframed.keeps_owned hs.owned, ?_, ?_⟩, ⟨hframed.cases, hterminal, ?_, fun _ _ => rfl⟩, ?_, ?_⟩
    · intro b hb hopen
      obtain ⟨hmem, hopen⟩ := hopenAt b hopen
      by_cases hbk : b.1 = k
      · exact hfull b hbk (hclosing.complete b hbk hmem) hopen
      · obtain ⟨row', hrow', hend⟩ := hb
        exact hs.terminal b ⟨row', (hother _ hbk).symm.trans hrow', hend⟩ hopen
    · rintro b ⟨action, haction, hstatus⟩
      have haction' := (hget b).symm.trans haction
      by_cases hmem : b ∈ ids
      · have hbk := (hclosing.cancelled b hmem).1
        exact ⟨f row, by rw [hbk]; exact hself, (hf row).1⟩
      · rw [if_neg hmem] at haction'
        exact hterminal b.1 (hs.cancelled b ⟨action, haction', hstatus⟩)
    · rintro b ⟨action, haction, hstatus⟩
      by_cases hmem : b ∈ ids
      · exact ⟨_, (hget b).trans (by rw [if_pos hmem, haction, Option.map_some]), rfl⟩
      · exact ⟨action, (hget b).trans (by rw [if_neg hmem, haction]), hstatus⟩
    · intro j _ _ row' hrow'
      exact ⟨hframed.cases j row' hrow', fun b _ hopen => (hopenAt b hopen).2⟩
    · intro m hm hlive b hb
      obtain ⟨⟨recovery, hrecovery, hend⟩, action, haction⟩ := hlive b hb
      have hbk : b.1 ≠ k := by
        intro hbk
        apply hm b hb
        rw [hbk]
        exact hclosing.closing
      exact ⟨⟨recovery, (hother _ hbk).trans hrecovery, hend⟩, hframed.actions b action haction⟩

lemma Reports.quiet (h : Reports D s s') (hs : Suppressed s) : Quiet l locks s s' := by
  cases h with
  | no => exact .refl hs
  | new _ _ _ => exact (Quiet.refl hs).of_eq rfl rfl rfl

lemma Opens.quiet {i : InvoiceId} (h : Opens s locks i s') (hs : Suppressed s) : Quiet l locks s s' := by
  have hframed := h.framed hs.owned
  cases h with
  | no => exact .refl hs
  | @new row proposed hlock hfree _ _ hempty =>
    have hcase : ∀ j, j ≠ i → ((s.putCase i row).schedule i proposed).cases.get j = s.cases.get j :=
      fun j hj => Table.get_put_ne _ _ hj
    have hnone : ∀ a : ActionId, a.1 = i → s.actions.get a = none := by
      intro a ha
      cases haction : s.actions.get a with
      | none => rfl
      | some action =>
        obtain ⟨recovery, hrecovery⟩ := hs.owned a action haction
        rw [ha, hfree] at hrecovery
        cases hrecovery
    have hne : ∀ k row', s.cases.get k = some row' → k ≠ i := by
      rintro k row' hrow' rfl
      rw [hfree] at hrow'
      cases hrow'
    have hterminal : ∀ j, s.Terminal j → ((s.putCase i row).schedule i proposed).Terminal j := by
      rintro j ⟨row', hrow', hend⟩
      exact ⟨row', (hcase j (hne j row' hrow')).trans hrow', hend⟩
    have hget := RecoveryState.get_schedule (s := s.putCase i row) i proposed
    refine ⟨⟨hframed.keeps_owned hs.owned, ?_, ?_⟩, ⟨hframed.cases, hterminal, ?_, fun _ _ => rfl⟩, ?_, ?_⟩
    · rintro b ⟨row', hrow', hend⟩ ⟨action, haction, hopen⟩
      by_cases hb : b.1 = i
      · have hself : ((s.putCase i row).schedule i proposed).cases.get b.1 = some row := by
          rw [hb]
          exact Table.get_put_self _ _ _
        rw [hself] at hrow'
        cases hrow'
        rcases hget b with hsame | ⟨-, p, hp, -⟩
        · rw [hsame, show (s.putCase i row).actions.get b = none from hnone b hb] at haction
          cases haction
        · rw [hempty hend] at hp
          cases hp
      · rcases hget b with hsame | ⟨hbi, -⟩
        · exact hs.terminal b ⟨row', (hcase b.1 hb).symm.trans hrow', hend⟩ ⟨action, hsame.symm.trans haction, hopen⟩
        · exact hb hbi
    · rintro b ⟨action, haction, hstatus⟩
      rcases hget b with hsame | ⟨-, p, -, hp⟩
      · exact hterminal b.1 (hs.cancelled b ⟨action, hsame.symm.trans haction, hstatus⟩)
      · rw [haction] at hp
        cases hp
        cases hstatus
    · rintro b ⟨action, haction, hstatus⟩
      exact ⟨action, (opened_get hs.owned hfree haction).2, hstatus⟩
    · intro k _ _ row' hrow'
      refine ⟨hframed.cases k row' hrow', fun b hb => ?_⟩
      rintro ⟨action, haction, hopen⟩
      rcases hget b with hsame | ⟨hbi, -⟩
      · exact ⟨action, hsame.symm.trans haction, hopen⟩
      · exact absurd (hb.symm.trans hbi) (hne k row' hrow')
    · intro m _ hlive b hb
      obtain ⟨⟨recovery, hrecovery, hend⟩, action, haction⟩ := hlive b hb
      exact ⟨⟨recovery, (hcase _ (hne _ _ hrecovery)).trans hrecovery, hend⟩, hframed.actions b action haction⟩

variable {l' : Worker}

lemma Prepares.quiet {x : Execution} {p : PreparedAction} {row : ScheduledRecoveryAction}
    (h : Prepares s x p locks row) (hs : Suppressed s) :
    Quiet (.preparing x) locks s (s.storeAction x.action row { row with status := .executing }) ∧
      Live (.calling x p) (s.storeAction x.action row { row with status := .executing }) := by
  have hget := RecoveryState.get_storeAction (s := s) x.action x.action row { row with status := .executing }
  rw [if_pos rfl, h.row_eq, Option.map_some] at hget
  have hframed : Framed locks s (s.storeAction x.action row { row with status := .executing }) :=
    .storeAction fun _ => h.locked
  have hopen : ¬s.Terminal x.action.1 := fun hend => hs.terminal x.action hend ⟨row, h.row_eq, h.isOpen⟩
  refine ⟨(Touches.storeAction _ _).quiet hframed hs hopen ?_ (.inr fun _ => ⟨row, h.row_eq, h.isOpen⟩), ?_⟩
  · rintro ⟨row', hrow', hstatus⟩
    rw [hget] at hrow'
    cases hrow'
    simp only [ScheduledRecoveryAction.patch, patched] at hstatus
    split at hstatus
    · exact ⟨row, h.row_eq, hstatus⟩
    · cases hstatus
  · rintro a ⟨⟩
    obtain ⟨recovery, hrecovery⟩ := hs.owned x.action row h.row_eq
    refine ⟨⟨recovery, hrecovery, ?_⟩, _, hget⟩
    cases hend : recovery.status.terminal with
    | false => rfl
    | true => exact absurd ⟨recovery, hrecovery, hend⟩ hopen

lemma Touches.quiet_recorded {x : Execution} (h : Touches x.action s s')
    (hframed : Framed locks s s') (hs : Suppressed s) (hlive : Live (.recording x obs) s)
    (hcancel : s'.Cancelled x.action → s.Cancelled x.action) : Quiet (.recording x obs) locks s s' :=
  h.quiet hframed hs (hlive.not_terminal rfl) hcancel (.inl rfl)

lemma touches_retryWrites (x : Execution) (obs : RecoveryNetworkObservation) (action : ScheduledRecoveryAction)
    (recovery : RecoveryCase) (t : RecurringPaymentAttempt) (invoice invoice' : SubscriptionInvoice) :
    Touches x.action s (retryWrites x obs action recovery t invoice invoice' s) := by
  have hcase : Touches x.action s (s.storeCase x.action.1 recovery recovery.countRetry) := .storeCase _ rfl
  exact (hcase.trans (.storeAction action (action.observe obs x.timestamp))).trans (.of_eq rfl rfl rfl)

lemma saw_closed {held : List RecoveryKey} {A : RecoveryState → Prop} {b : ActionId} {row : RecoveryCase}
    (hrow : s.cases.get b.1 = some row)
    (h : (suppression.assuming A).Saw (.closing b.1 :: .recoveryCase b.1 :: held) s fun s₁ => ¬s₁.OpenAt b) :
    ¬s.OpenAt b := by
  obtain ⟨s₁, hview, hclosed⟩ := h
  intro hopen
  have hcase : s.cases.get b.1 = s₁.cases.get b.1 := hview.2 (.recoveryCase b.1) (by simp)
  rw [hrow] at hcase
  have hnone : NoneOpens b.1 s₁ s := hview.2 (.closing b.1) (by simp)
  exact hclosed ((hnone row hcase.symm).2 b rfl hopen)

lemma saw_closed_retry {x : Execution} {held : List RecoveryKey}
    {recovery row : RecoveryCase} {t : RecurringPaymentAttempt}
    {invoice invoice' : SubscriptionInvoice} {A : RecoveryState → Prop}
    (hA : ∀ s, A s → ∃ action, s.actions.get x.action = some action) (hs : A s)
    (hloads : Loads (suppression.assuming A) s x obs held action recovery recovery.countRetry) {b : ActionId}
    (hb : b.1 = x.action.1) (hrow : s.cases.get x.action.1 = some row)
    (h : (suppression.assuming A).Saw (.closing x.action.1 :: .recoveryCase x.action.1 :: held) s
      fun s₁ => ¬(retryWrites x obs action recovery t invoice invoice' s₁).OpenAt b) :
    ¬(retryWrites x obs action recovery t invoice invoice' s).OpenAt b := by
  rw [← hb] at h hrow
  have hsame : ∀ {s₁}, b ≠ x.action ∨ action.observe obs x.timestamp = action →
      (retryWrites x obs action recovery t invoice invoice' s₁).actions.get b = s₁.actions.get b := by
    intro s₁ hcase
    refine (RecoveryState.get_storeAction (s := s₁.storeCase x.action.1 recovery recovery.countRetry) x.action b
      action (action.observe obs x.timestamp)).trans ?_
    by_cases hne : b = x.action
    · subst hne
      rw [hcase.resolve_left fun hne => hne rfl, if_pos rfl]
      have hid : ScheduledRecoveryAction.patch action action = id := by
        funext row
        simp [ScheduledRecoveryAction.patch]
      rw [hid, Option.map_id]
      rfl
    · rw [if_neg hne]
      rfl
  have hiff : ∀ {s₁}, b ≠ x.action ∨ action.observe obs x.timestamp = action →
      ((retryWrites x obs action recovery t invoice invoice' s₁).OpenAt b ↔ s₁.OpenAt b) := by
    intro s₁ hcase
    unfold RecoveryState.OpenAt
    rw [hsame hcase]
  by_cases hcase : b ≠ x.action ∨ action.observe obs x.timestamp = action
  · rw [hiff hcase]
    apply saw_closed hrow
    obtain ⟨s₁, hview, hclosed⟩ := h
    exact ⟨s₁, hview, fun hopen => hclosed ((hiff hcase).2 hopen)⟩
  · -- the row is locked, so what it was when it was read is what it is
    simp only [not_or, ne_eq, not_not] at hcase
    obtain ⟨rfl, hne⟩ := hcase
    obtain ⟨s₁, hview, hclosed⟩ := h
    obtain ⟨action₁, haction₁⟩ := hA s₁ (hview.1.2 hs)
    have hlocked : .action x.action ∈ RecoveryKey.closing x.action.1 :: .recoveryCase x.action.1 :: held := by
      simp [hloads.action_locked hne]
    have haction : s.actions.get x.action = some action₁ := hview.2 _ hlocked action₁ haction₁
    obtain ⟨f, hf⟩ := pointwise_retryWrites x obs action recovery t invoice invoice' x.action
    intro hopen
    apply hclosed
    unfold RecoveryState.OpenAt at hopen ⊢
    rwa [hf, haction₁, ← haction, ← hf]

theorem Effect.quiet (hs : Suppressed s) (hl : Live l s)
    (h : Effect (suppression.assuming fun s => Suppressed s ∧ Live l s) s l l' locks s') :
    Quiet l locks s s' ∧ Live l' s' := by
  have hframed := h.framed hs.owned
  cases h with
  | same hflight => exact ⟨.refl hs, .of_none hflight⟩
  | prepared hprepares _ => exact hprepares.quiet hs
  | sent hprepares _ _ _ =>
    obtain ⟨hquiet, hlive⟩ := hprepares.quiet hs
    exact ⟨hquiet.of_eq rfl rfl rfl, hlive⟩
  | @noted x obs _ action recovery row _ _ _ _ =>
    have hcase : Touches x.action s (s.storeCase x.action.1 recovery (recovery.countMessage obs)) :=
      .storeCase _ rfl
    have hrecord : ∀ s' : RecoveryState, Touches x.action s' (s'.storeRecord x.action row (row.observe obs)) :=
      fun _ => .of_eq rfl rfl rfl
    have htouches := (hcase.trans (.storeAction action (action.observe obs x.timestamp))).trans (hrecord _)
    refine ⟨htouches.quiet_recorded hframed hs hl fun hcancel => ?_, .of_none (flight_next x)⟩
    exact observe_cancelled (s := s.storeCase x.action.1 recovery (recovery.countMessage obs)) hcancel
  | unknown _ _ _ =>
    exact ⟨(Touches.storeAction _ _).quiet_recorded hframed hs hl observe_cancelled, .of_none (flight_next _)⟩
  | @retried x obs held _ action recovery t invoice invoice' _ _ _ hloads _ hends =>
    have htouches := touches_retryWrites (s := s) x obs action recovery t invoice invoice'
    have hwrites : Framed locks s (retryWrites x obs action recovery t invoice invoice' s) :=
      (hloads.framed_retryWrites t invoice invoice').mono hends.held
    have hquiet : Quiet (.recording x obs) locks s (retryWrites x obs action recovery t invoice invoice' s) :=
      htouches.quiet_recorded hwrites hs hl fun hcancel =>
        observe_cancelled (s := s.storeCase x.action.1 recovery recovery.countRetry) hcancel
    obtain ⟨⟨row, hrow, -⟩, -⟩ := hl x.action rfl
    obtain ⟨row', hrow'⟩ := hwrites.cases _ _ hrow
    refine ⟨hquiet.trans (hends.quiet hquiet.suppressed hrow' fun b hb hsaw => ?_), .of_none (flight_next x)⟩
    exact saw_closed_retry (fun s hs => (hs.2 x.action rfl).2) ⟨hs, hl⟩ hloads hb hrow hsaw
  | @ended _ _ k held _ row _ hflight _ hrow hends =>
    refine ⟨hends.quiet hs hrow fun b hb hsaw => ?_, .of_none hflight⟩
    subst hb
    exact saw_closed hrow hsaw
  | reported hreports hopens =>
    have hquiet : Quiet l locks s _ := hreports.quiet hs
    exact ⟨hquiet.trans (hopens.quiet hquiet.suppressed), .of_none rfl⟩

end Quiet

lemma Quiet.guarantees {l l' : Worker} {locks : List RecoveryKey}
    (h : Quiet l locks s s') (hframed : Framed locks s s') :
    Guarantees unhurried (fun _ => suppression) Live l locks l' s s' := by
  intro m hs hother _ hlive
  refine ⟨hframed.view rfl hother.locks h.settles fun k hk => ?_, h.live m (fun a ha => hother.right a ha) hlive⟩
  apply h.noneOpens k (hother.locks _ hk)
  rintro a ha rfl
  exact hother.left a ha hk

theorem suppression_relies (texts : Texts) :
    Relies unhurried (fun _ => suppression) (recovery texts) Settles Suppressed Live where
  grows_refl := .refl
  grows_trans := .trans
  spawn _ hl := .of_none (flight_spawn hl)
  commit {s l t l' y} hs hl ht he _ := by
    obtain ⟨s₁, heffect, hown⟩ := commit_effect (rows_of_frame NoneOpens rfl) ht he
    obtain ⟨hquiet, hlive⟩ := heffect.quiet hs hl
    have hquiet' : Quiet l y.held s (y.own s) := by
      rw [hown]
      exact hquiet.of_eq rfl rfl rfl
    have hframed : Framed y.held s (y.own s) := by
      rw [hown]
      exact (heffect.framed hs.owned).onto _
    refine ⟨hquiet'.settles, hquiet'.suppressed, ?_, hquiet'.guarantees hframed⟩
    rw [hown]
    exact hlive
  fail _ _ := .of_none (flight_handler texts _ _)
  act {s l l' s'} hs hl ha _ := by
    cases ha with
    | @send x prepared _ obs _ =>
      have hopen : ¬s.Terminal x.action.1 := hl.not_terminal rfl
      have hframed : Framed [] s (s.addSend x.action) := .of_eq rfl rfl rfl
      have hsettles : Settles s (s.addSend x.action) := by
        refine ⟨fun _ row h => ⟨row, h⟩, fun _ h => h, fun _ h => h, fun a hend => ?_⟩
        have hne : x.action ≠ a := by
          rintro rfl
          exact hopen hend
        simp [RecoveryState.addSend, hne]
      refine ⟨hsettles, ⟨hs.owned, hs.terminal, hs.cancelled⟩, hl, ?_⟩
      intro m held _ _ hlive
      refine ⟨hframed.view rfl (fun _ _ => List.not_mem_nil) hsettles fun k _ row hrow => ?_, hlive⟩
      exact ⟨⟨row, hrow⟩, fun _ _ h => h⟩
    | lookup obs _ =>
      exact ⟨.refl _, hs, hl, fun m held _ _ hlive => ⟨suppression.view_refl held _, hlive⟩⟩
  env {s s'} hs he _ := by
    obtain ⟨hcases, hactions, hrecords, -, hsends⟩ := he.same
    have hquiet : Quiet .finished [] s s' := (Quiet.refl hs).of_eq hcases hactions hsends
    have hframed : Framed [] s s' := .of_eq hactions hcases hrecords
    refine ⟨hquiet.settles, hquiet.suppressed, fun m held hlive => ⟨?_, ?_⟩⟩
    · exact hframed.view rfl (fun _ _ => List.not_mem_nil) hquiet.settles fun k _ =>
        hquiet.noneOpens k List.not_mem_nil nofun
    · exact hquiet.live m (fun _ _ => List.not_mem_nil) hlive

lemma suppressed_start (now : Time) : Suppressed (.start now) := by
  refine ⟨?_, ?_, ?_⟩
  · rintro a row ⟨⟩
  · rintro a ⟨row, ⟨⟩, -⟩
  · rintro a ⟨row, ⟨⟩, -⟩

theorem ended_case_suppressed (texts : Texts) (now : Time)
    {c c' : Config RecoveryState RecoveryKey Error Worker}
    (h : ReachIn unhurried (recovery texts) (.idle (.start now)) c) (h' : ReachIn unhurried (recovery texts) c c') :
    (∀ k, c.shared.Terminal k → c'.shared.Terminal k ∧ ∀ n, ¬c'.shared.OpenAt (k, n) ∧
      c'.shared.sends.count (k, n) = c.shared.sends.count (k, n)) ∧
    ∀ a, c.shared.Cancelled a → c'.shared.Cancelled a := by
  have hrelies := suppression_relies texts
  have hsettles := hrelies.later (suppressed_start now) h h'
  have hsuppressed := (hrelies.reach (suppressed_start now) (Relation.ReflTransGen.trans h h')).1
  refine ⟨fun k hk => ⟨hsettles.terminal k hk, fun n => ⟨?_, hsettles.sends (k, n) hk⟩⟩, hsettles.cancelled⟩
  exact hsuppressed.terminal (k, n) (hsettles.terminal k hk)

namespace Sample

def texts : Texts := ⟨id, fun _ => false⟩

def failure : RecurringPaymentFailed :=
  let event : RecurringPaymentFailed := ⟨"bev_1", "recurring-payment.failed.v1", 1, 0, 1, 1, "attempt-1",
    "INSUFFICIENT_FUNDS", .verifiedFailed, [], sha256 []⟩
  { event with payloadSha256 := sha256 (canonicalJsonBytes event.payload) }

def opening : List (Move Worker RecoveryNetworkObservation Arrival) :=
  [.env (.subscription 1 ⟨[("channels", .arr [.str "EMAIL"])], .active⟩), .env (.invoice 1 1 500), .env .workflow,
    .spawn (.consuming failure), .run 0]

def retry : Execution := ⟨none, hours 24, (1, 2), .paymentRetry⟩

def glance (s : RecoveryState) : Option (CaseStatus × ActionStatus × ℕ) := do
  let recovery ← s.cases.get 1
  let action ← s.actions.get (1, 2)
  some (recovery.status, action.status, s.sends.count (1, 2))

def lost : RecoveryNetworkObservation := ⟨.unknown, "TRANSPORT_UNKNOWN", []⟩

def overtaken : List (Move Worker RecoveryNetworkObservation Arrival) :=
  opening ++ [.spawn (.preparing retry), .run 1, .spawn (.optingOut 1 "opt-1" .all), .run 2]

def orderly : List (Move Worker RecoveryNetworkObservation Arrival) :=
  opening ++ [.spawn (.preparing retry), .run 1, .act 1 lost, .run 1, .spawn (.optingOut 1 "opt-1" .all), .run 2]

def referee : Referee unhurried where
  runs _ m := m.flight.isNone
  rests _ _ := true
  allows _ _ := true
  runs_sound {l m} h held := by
    refine ⟨fun a _ => List.not_mem_nil, fun a ha => ?_⟩
    rw [ha] at h
    cases h
  rests_sound _ _ _ := List.not_mem_nil
  allows_sound _ := trivial

end Sample

section Samples

open Sample

theorem ended_case_reopened : ∃ c c' : Config RecoveryState RecoveryKey Error Worker,
    Reach (recovery texts) (.idle (.start 0)) c ∧ Reach (recovery texts) c c' ∧
    glance c.shared = some (.terminated, .cancelled, 0) ∧ glance c'.shared = some (.terminated, .ambiguous, 1) := by
  obtain ⟨c, c', h, h', hc, hc'⟩ := Referee.free.stages (player texts) (.start 0) overtaken [.act 1 lost, .run 1]
    glance glance (.terminated, .cancelled, 0) (.terminated, .ambiguous, 1) (by decide +kernel)
  exact ⟨c, c', h.reach, h'.reach, hc, hc'⟩

lemma glance_eq {status : CaseStatus} {action : ActionStatus} {n : ℕ} (h : glance s = some (status, action, n)) :
    (∃ row, s.cases.get 1 = some row ∧ row.status = status) ∧
      (∃ row, s.actions.get (1, 2) = some row ∧ row.status = action) ∧ s.sends.count (1, 2) = n := by
  simp only [glance, Option.bind_eq_bind, Option.bind_eq_some_iff] at h
  obtain ⟨recovery, hrecovery, row, hrow, h⟩ := h
  cases h
  exact ⟨⟨recovery, hrecovery, rfl⟩, ⟨row, hrow, rfl⟩, rfl⟩

theorem ended_case_suppressed_optOut : ∃ c c' : Config RecoveryState RecoveryKey Error Worker,
    ReachIn unhurried (recovery texts) (.idle (.start 0)) c ∧ ReachIn unhurried (recovery texts) c c' ∧
    glance c.shared = some (.terminated, .cancelled, 1) ∧ c'.shared.Terminal 1 ∧ ¬c'.shared.OpenAt (1, 2) ∧
    c'.shared.sends.count (1, 2) = 1 ∧ c'.shared.Cancelled (1, 2) := by
  obtain ⟨c, c', h, h', hc, -⟩ := referee.stages (player texts) (.start 0) orderly
    [.spawn (.selecting (hours 48) 1), .run 3] glance glance (.terminated, .cancelled, 1) (.terminated, .cancelled, 1)
    (by decide +kernel)
  obtain ⟨⟨recovery, hrecovery, hstatus⟩, ⟨row, hrow, hcancelled⟩, hsends⟩ := glance_eq hc
  obtain ⟨hended, hkept⟩ := ended_case_suppressed texts 0 h h'
  obtain ⟨hterminal, hactions⟩ := hended 1 ⟨recovery, hrecovery, by rw [hstatus]; rfl⟩
  exact ⟨c, c', h, h', hc, hterminal, (hactions 2).1, (hactions 2).2.trans hsends, hkept _ ⟨row, hrow, hcancelled⟩⟩

end Samples

end RelayPay.Subscriptions
