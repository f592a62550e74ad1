import RelayPay.ReadCommitted.Permits
import RelayPay.Subscriptions.Frames

/-! Whatever the interleaving, an action is sent once and the counters of a case stay in their bounds. -/

namespace RelayPay.Subscriptions

open ReadCommitted Txn

def RecoveryState.Claimed (s : RecoveryState) (a : ActionId) : Prop :=
  ∃ row, s.actions.get a = some row ∧ row.status ≠ .scheduled

def RecoveryState.Bounded (s : RecoveryState) : Prop :=
  ∀ k row, s.cases.get k = some row → row.messageCount ≤ 3 ∧ row.paymentRetryCount ≤ 3

structure Advances (s s' : RecoveryState) : Prop where
  claimed : ∀ a, s.Claimed a → s'.Claimed a
  bounded : s.Bounded → s'.Bounded
  sends : s'.sends = s.sends

namespace Advances

variable {s s' s'' : RecoveryState}

lemma of_eq (hactions : s'.actions = s.actions) (hcases : s'.cases = s.cases) (hsends : s'.sends = s.sends) :
    Advances s s' := by
  refine ⟨?_, ?_, hsends⟩
  · intro a h
    unfold RecoveryState.Claimed
    rw [hactions]
    exact h
  · intro h
    unfold RecoveryState.Bounded
    rw [hcases]
    exact h

lemma trans (h : Advances s s') (h' : Advances s' s'') : Advances s s'' :=
  ⟨fun a ha => h'.claimed a (h.claimed a ha), fun hs => h'.bounded (h.bounded hs), h'.sends.trans h.sends⟩

lemma storeAction {a : ActionId} {loaded new : ScheduledRecoveryAction} (h : new.status ≠ .scheduled) :
    Advances s (s.storeAction a loaded new) := by
  refine ⟨?_, fun hs => hs, rfl⟩
  rintro b ⟨row, hrow, hstatus⟩
  have hget := RecoveryState.get_storeAction (s := s) a b loaded new
  by_cases hba : b = a
  · subst hba
    rw [if_pos rfl, hrow, Option.map_some] at hget
    refine ⟨_, hget, ?_⟩
    change patched loaded.status new.status row.status ≠ .scheduled
    rcases patched_or loaded.status new.status row.status with hold | hnew
    · rw [hold]
      exact hstatus
    · rw [hnew]
      exact h
  · rw [if_neg hba] at hget
    exact ⟨row, hget.trans hrow, hstatus⟩

lemma storeCase {k : CaseId} {loaded new : RecoveryCase}
    (h : new ≠ loaded → new.paymentRetryCount ≤ 3 ∧ new.messageCount ≤ 3) : Advances s (s.storeCase k loaded new) := by
  by_cases hsame : new = loaded
  · exact .of_eq rfl (if_pos hsame) rfl
  · obtain ⟨hretries, hmessages⟩ := h hsame
    refine ⟨fun _ ha => ha, ?_, rfl⟩
    intro hs j row hrow
    rw [RecoveryState.get_storeCase] at hrow
    split at hrow
    · obtain ⟨current, hcurrent, rfl⟩ := Option.map_eq_some_iff.1 hrow
      obtain ⟨hmessages', hretries'⟩ := hs k current hcurrent
      constructor
      · change patched loaded.messageCount new.messageCount current.messageCount ≤ 3
        rcases patched_or loaded.messageCount new.messageCount current.messageCount with hp | hp <;> rw [hp] <;>
          assumption
      · change patched loaded.paymentRetryCount new.paymentRetryCount current.paymentRetryCount ≤ 3
        rcases patched_or loaded.paymentRetryCount new.paymentRetryCount current.paymentRetryCount with hp | hp <;>
          rw [hp] <;> assumption
    · exact hs j row hrow

end Advances

section Effects

variable {D : Discipline RecoveryState RecoveryKey} {locks : List RecoveryKey} {s s' : RecoveryState}

lemma Ends.advances {x : RecoveryPending} {k : CaseId} (h : Ends D s x k locks s') : Advances (x.own s) s' := by
  cases h with
  | left _ => exact .of_eq rfl rfl rfl
  | @closed ids _ cases f _ hf hcases =>
    refine ⟨?_, ?_, rfl⟩
    · rintro b ⟨row, hrow, hstatus⟩
      have hget := RecoveryState.get_cancelAll (s := x.own s) ids b
      rw [hrow] at hget
      by_cases hb : b ∈ ids
      · exact ⟨_, hget.trans (if_pos hb), ActionStatus.noConfusion⟩
      · exact ⟨row, hget.trans (if_neg hb), hstatus⟩
    · intro hs j row' hrow'
      change cases.get j = some row' at hrow'
      rw [hcases] at hrow'
      split at hrow'
      · obtain ⟨row, hrow, rfl⟩ := Option.map_eq_some_iff.1 hrow'
        rw [(hf row).2.1, (hf row).2.2]
        exact hs k row hrow
      · exact hs j row' hrow'

lemma Reports.advances (h : Reports D s s') : Advances s s' := by
  cases h with
  | no => exact .of_eq rfl rfl rfl
  | new _ _ _ => exact .of_eq rfl rfl rfl

lemma Opens.advances {i : InvoiceId} (hs : Owned s) (h : Opens s locks i s') : Advances s s' := by
  cases h with
  | no => exact .of_eq rfl rfl rfl
  | @new row proposed _ hfree hretries hmessages _ =>
    refine ⟨?_, ?_, rfl⟩
    · rintro a ⟨action, haction, hstatus⟩
      exact ⟨action, (opened_get hs hfree haction).2, hstatus⟩
    · intro hbounded j row' hrow'
      have hget : ((s.putCase i row).schedule i proposed).cases.get j = if j = i then some row else s.cases.get j :=
        Table.get_put _ _ _ _
      rw [hget] at hrow'
      split at hrow'
      · cases hrow'
        omega
      · exact hbounded j row' hrow'

lemma observe_ne_scheduled (action : ScheduledRecoveryAction) (obs : RecoveryNetworkObservation) (timestamp : Time) :
    (action.observe obs timestamp).status ≠ .scheduled := by
  unfold ScheduledRecoveryAction.observe
  dsimp only
  split <;> exact ActionStatus.noConfusion

lemma executing_advances (a : ActionId) (row : ScheduledRecoveryAction) :
    Advances s (s.storeAction a row { row with status := .executing }) := .storeAction ActionStatus.noConfusion

lemma retryWrites_advances {x : Execution} {obs : RecoveryNetworkObservation} {action : ScheduledRecoveryAction}
    {recovery : RecoveryCase} (h : Loads D s x obs locks action recovery recovery.countRetry)
    (t : RecurringPaymentAttempt) (invoice invoice' : SubscriptionInvoice) :
    Advances s (retryWrites x obs action recovery t invoice invoice' s) := by
  have hcase : Advances s (s.storeCase x.action.1 recovery recovery.countRetry) :=
    .storeCase fun hne => (h.case_locked hne).2
  exact (hcase.trans (.storeAction (observe_ne_scheduled action obs x.timestamp))).trans (.of_eq rfl rfl rfl)

theorem Effect.advances {l l' : Worker} (hs : Owned s) (h : Effect D s l l' locks s') : Advances s s' := by
  cases h with
  | same _ => exact .of_eq rfl rfl rfl
  | prepared _ _ => exact executing_advances _ _
  | sent _ _ _ _ => exact (executing_advances _ _).trans (.of_eq rfl rfl rfl)
  | @noted x obs _ action recovery row _ hloads _ _ =>
    have hcase : Advances s (s.storeCase x.action.1 recovery (recovery.countMessage obs)) :=
      .storeCase fun hne => (hloads.case_locked hne).2
    exact (hcase.trans (.storeAction (observe_ne_scheduled action obs x.timestamp))).trans (.of_eq rfl rfl rfl)
  | unknown _ _ _ => exact .storeAction (observe_ne_scheduled _ _ _)
  | retried _ _ hloads _ hends => exact (retryWrites_advances hloads _ _ _).trans hends.advances
  | ended _ _ _ hends => exact hends.advances
  | reported hreports hopens =>
    have hframed : Framed locks s _ := hreports.framed
    exact hreports.advances.trans (hopens.advances (hframed.keeps_owned hs))

end Effects

def Worker.sends : Worker → Option ActionId
  | .calling x prepared => if prepared.mode = .send then some x.action else none
  | _ => none

lemma Worker.sends_of_flight {l : Worker} (h : l.flight = none) : l.sends = none := by
  cases l with
  | calling x prepared => cases h
  | _ => rfl

def actionPermits : Permits RecoveryState Worker ActionId where
  holds := Worker.sends
  issued := RecoveryState.Claimed
  spent s a := s.sends.count a

section Permits

variable {D : Discipline RecoveryState RecoveryKey} {locks : List RecoveryKey} {s s' : RecoveryState}

lemma Advances.moves {l l' : Worker} (h : Advances s s') (hl : l'.sends = none) : actionPermits.Moves l s l' s' := by
  refine ⟨h.claimed, fun a => .inl ?_⟩
  rw [Permits.has_eq_zero hl]
  simp only [actionPermits, h.sends]
  omega

lemma Prepares.moves {x : Execution} {p : PreparedAction} {row : ScheduledRecoveryAction}
    (h : Prepares s x p locks row) (hadvances : Advances s s')
    (hactions : s'.actions = (s.storeAction x.action row { row with status := .executing }).actions) :
    actionPermits.Moves (.preparing x) s (.calling x p) s' := by
  by_cases hscheduled : row.status = .scheduled
  · refine ⟨hadvances.claimed, fun a => ?_⟩
    have hspent : actionPermits.spent s' a = actionPermits.spent s a := by
      simp only [actionPermits, hadvances.sends]
    rw [hspent, Permits.has_eq_zero (P := actionPermits) (l := .preparing x) rfl]
    by_cases ha : a = x.action
    · subst ha
      have hhas : actionPermits.has (.calling x p) x.action ≤ 1 := by
        unfold Permits.has
        split <;> omega
      refine .inr ⟨?_, ?_, by omega⟩
      · rintro ⟨row', hrow', hclaimed⟩
        rw [h.row_eq] at hrow'
        cases hrow'
        exact hclaimed hscheduled
      · refine ⟨ScheduledRecoveryAction.patch row { row with status := .executing } row, ?_, ?_⟩
        · rw [hactions, RecoveryState.get_storeAction, if_pos rfl, h.row_eq, Option.map_some]
        · simp [ScheduledRecoveryAction.patch, patched, hscheduled]
    · left
      have hnot : actionPermits.has (.calling x p) a = 0 := by
        refine if_neg fun hholds => ?_
        simp only [actionPermits, Worker.sends] at hholds
        split at hholds
        · cases hholds
          exact ha rfl
        · cases hholds
      omega
  · apply hadvances.moves
    simp [Worker.sends, h.mode, hscheduled]

lemma Effect.moves {l l' : Worker} (hs : Owned s) (h : Effect D s l l' locks s') : actionPermits.Moves l s l' s' := by
  have hadvances := h.advances hs
  cases h with
  | same hflight => exact hadvances.moves (Worker.sends_of_flight hflight)
  | prepared hprepares _ => exact hprepares.moves hadvances rfl
  | sent hprepares _ _ _ => exact hprepares.moves hadvances rfl
  | noted _ _ _ _ => exact hadvances.moves (Worker.sends_of_flight (flight_next _))
  | unknown _ _ _ => exact hadvances.moves (Worker.sends_of_flight (flight_next _))
  | retried _ _ _ _ _ => exact hadvances.moves (Worker.sends_of_flight (flight_next _))
  | ended hflight _ _ _ => exact hadvances.moves (Worker.sends_of_flight hflight)
  | reported _ _ => exact hadvances.moves rfl

end Permits

def rowsOnly : Discipline RecoveryState RecoveryKey :=
  rowsAnd (fun _ _ => True) (fun _ _ _ => True) (fun _ => trivial) (fun _ _ _ _ _ => trivial) (fun _ _ => trivial)
    (fun _ _ _ _ _ _ => trivial)

lemma Framed.keeps {locks : List RecoveryKey} {s s' : RecoveryState} (h : Framed locks s s') :
    rowsOnly.Keeps locks s s' := by
  refine ⟨trivial, fun key hkey => ?_⟩
  have hview : rowsOnly.view [key] s s' := by
    refine h.view rfl (fun key' hkey' => ?_) trivial fun _ _ => trivial
    rw [List.mem_singleton.1 hkey']
    exact hkey
  exact hview.2 key List.mem_cons_self

def InBounds (s : RecoveryState) : Prop := Owned s ∧ s.Bounded

lemma recovery_disciplined (texts : Texts) : Disciplined rowsOnly (recovery texts) InBounds where
  commit {s l t l' y} hs ht he := by
    obtain ⟨s₁, heffect, hown⟩ := commit_effect (rows_of_frame (fun _ _ _ => True) rfl) ht he
    have hframed : Framed y.held s (y.own s) := by
      rw [hown]
      exact (heffect.framed hs.1).onto _
    refine ⟨hframed.keeps, hframed.keeps_owned hs.1, ?_⟩
    rw [hown]
    exact (heffect.advances hs.1).bounded hs.2
  act {l s l' s'} hs ha := by
    cases ha with
    | @send x _ _ _ _ =>
      have hframed : Framed [] s (s.addSend x.action) := .of_eq rfl rfl rfl
      exact ⟨hframed.keeps, hs⟩
    | lookup obs _ => exact ⟨(Framed.of_eq rfl rfl rfl).keeps, hs⟩
  env {s s'} hs he := by
    obtain ⟨hcases, hactions, hrecords, -⟩ := he.same
    have hframed : Framed [] s s' := .of_eq hactions hcases hrecords
    refine ⟨hframed.keeps, hframed.keeps_owned hs.1, ?_⟩
    unfold RecoveryState.Bounded
    rw [hcases]
    exact hs.2

lemma actionPermits_kept (texts : Texts) : actionPermits.Kept rowsOnly (recovery texts) InBounds where
  spawn hl := Worker.sends_of_flight (flight_spawn hl)
  commit {s l t l' y} hs ht he := by
    obtain ⟨s₁, heffect, hown⟩ := commit_effect (rows_of_frame (fun _ _ _ => True) rfl) ht he
    obtain ⟨hissued, hcount⟩ := heffect.moves hs.1
    rw [hown]
    exact ⟨hissued, hcount⟩
  fail l e := Worker.sends_of_flight (flight_handler texts l e)
  act {l s l' s'} hs ha := by
    cases ha with
    | @send x prepared _ obs hmode =>
      refine ⟨fun _ h => h, fun a => .inl ?_⟩
      have hspent : actionPermits.spent (s.addSend x.action) a =
          actionPermits.spent s a + if x.action = a then 1 else 0 := by
        simp [actionPermits, RecoveryState.addSend, List.count_singleton]
      have hhas : actionPermits.has (.calling x prepared) a = if x.action = a then 1 else 0 := by
        simp [Permits.has, actionPermits, Worker.sends, hmode]
      rw [hspent, hhas, Permits.has_eq_zero (P := actionPermits) (l := .recording x obs) rfl]
      omega
    | @lookup x prepared _ obs hmode => exact (Advances.of_eq rfl rfl rfl).moves rfl
  env {s s'} hs he a := by
    obtain ⟨-, hactions, -, -, hsends⟩ := he.same
    constructor
    · rintro ⟨row, hrow, hstatus⟩
      exact ⟨row, by rw [hactions, hrow], hstatus⟩
    · simp only [actionPermits, hsends]

lemma inBounds_start (now : Time) : InBounds (.start now) := by
  constructor
  · rintro a row ⟨⟩
  · rintro k row ⟨⟩

variable {c : Config RecoveryState RecoveryKey Error Worker}

theorem counters_bounded {texts : Texts} {now : Time}
    (h : Reach (recovery texts) (.idle (.start now)) c) : c.shared.Bounded :=
  (AReach.invariant (recovery_disciplined texts) (h.atomic (recovery_disciplined texts) (inBounds_start now))
    (inBounds_start now)).2

theorem sent_at_most_once {texts : Texts} {now : Time}
    (h : Reach (recovery texts) (.idle (.start now)) c) (a : ActionId) : c.shared.sends.count a ≤ 1 := by
  have hstart : actionPermits.Once (RecoveryState.start now, []) := by
    intro b
    exact ⟨Nat.zero_le 1, fun hpos => absurd hpos (Nat.lt_irrefl 0)⟩
  have honce := Permits.Once.reach (recovery_disciplined texts) (actionPermits_kept texts)
    (h.atomic (recovery_disciplined texts) (inBounds_start now)) (inBounds_start now) hstart a
  exact (Nat.le_add_left _ _).trans honce.1

end RelayPay.Subscriptions
