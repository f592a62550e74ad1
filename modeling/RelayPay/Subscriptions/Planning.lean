import Mathlib.Data.Int.CardIntervalMod
import RelayPay.ReadCommitted.Solo
import RelayPay.Subscriptions.Effects

/-! The actions that a recovery case is opened with, and whether each can be executed when it is due. -/

namespace RelayPay.Subscriptions

open ReadCommitted Txn

def plannedRetries (classification : FailureClassification) (startedAt : Time) (policy : PolicyDefinition) :
    List ProposedAction :=
  if classification = .retryableSoftDecline then
    (policy.retryWindowsHours.take policy.maxPaymentRetries).map fun h => ⟨.paymentRetry, startedAt + hours h, none⟩
  else []

def FailureClassification.final (classification : FailureClassification) : Bool :=
  classification = .nonRetryableHardDecline || classification = .transportUnknown

def plan (classification : FailureClassification) (channels : List Channel) (startedAt : Time)
    (policy : PolicyDefinition) : List ProposedAction :=
  if classification.final then []
  else (plannedRetries classification startedAt policy ++
    proposedMessages channels startedAt policy).insertionSort proposedOrder

variable {classification : FailureClassification} {consent : List (String × Json)} {channels : List Channel}
  {startedAt : Time} {policy : PolicyDefinition}

lemma proposeActions_eq (hconsent : consentedChannels consent = .ok channels) :
    proposeActions classification consent startedAt policy = .ok (plan classification channels startedAt policy) := by
  have hiff : classification.final = true ↔
      classification = .nonRetryableHardDecline ∨ classification = .transportUnknown := by
    simp [FailureClassification.final]
  unfold proposeActions plan
  by_cases hfinal : classification.final = true
  · rw [if_pos hfinal, if_pos (hiff.1 hfinal)]
  · rw [if_neg hfinal, if_neg fun h => hfinal (hiff.2 h), hconsent]
    rfl

lemma nodup_eraseDups {α : Type} [DecidableEq α] (xs : List α) : xs.eraseDups.Nodup := by
  induction hn : xs.length using Nat.strong_induction_on generalizing xs with
  | _ n ih =>
    cases xs with
    | nil => exact List.nodup_nil
    | cons x xs =>
      have hle := List.length_filter_le (fun y => !y == x) xs
      rw [List.length_cons] at hn
      rw [List.eraseDups_cons, List.nodup_cons]
      refine ⟨fun hmem => ?_, ih _ (by omega) _ rfl⟩
      simpa using (List.mem_filter.1 (List.mem_eraseDups.1 hmem)).2

lemma consentedChannels_nodup (hconsent : consentedChannels consent = .ok channels) : channels.Nodup := by
  unfold consentedChannels at hconsent
  split at hconsent
  · split at hconsent
    · cases hconsent
      exact nodup_eraseDups _
    · cases hconsent
  · cases hconsent

lemma proposedMessages_eq (hchannels : channels ≠ []) : proposedMessages channels startedAt policy =
    (policy.messageWindowsHours.take policy.maxMessages).zipIdx.map fun e =>
      ⟨.message, startedAt + hours e.1, channels[e.2 % channels.length]?⟩ := by
  have hpos : 0 < channels.length := List.length_pos_iff.2 hchannels
  rw [proposedMessages, ← List.filterMap_eq_map]
  apply List.filterMap_congr
  intro e _
  have hchannel := List.getElem?_eq_getElem (Nat.mod_lt e.2 hpos)
  simp only [hchannel, Option.map_some, Function.comp_apply]

variable {p : ProposedAction}

lemma mem_proposedMessages (h : p ∈ proposedMessages channels startedAt policy) :
    p.actionType = .message ∧ (∃ channel ∈ channels, p.channel = some channel) ∧
      ∃ n ∈ policy.messageWindowsHours.take policy.maxMessages, p.scheduledFor = startedAt + hours n := by
  obtain ⟨e, he, hp⟩ := List.mem_filterMap.1 h
  obtain ⟨channel, hchannel, rfl⟩ := Option.map_eq_some_iff.1 hp
  exact ⟨rfl, ⟨channel, List.mem_of_getElem? hchannel, rfl⟩, e.1, (List.mem_zipIdx' he).2 ▸ List.getElem_mem _, rfl⟩

lemma mem_plannedRetries (h : p ∈ plannedRetries classification startedAt policy) :
    p.actionType = .paymentRetry ∧ p.channel = none ∧ classification = .retryableSoftDecline ∧
      ∃ n ∈ policy.retryWindowsHours.take policy.maxPaymentRetries, p.scheduledFor = startedAt + hours n := by
  unfold plannedRetries at h
  split_ifs at h with hsoft
  · obtain ⟨n, hn, rfl⟩ := List.mem_map.1 h
    exact ⟨rfl, rfl, hsoft, n, hn, rfl⟩
  · cases h

lemma plan_perm (hfinal : classification.final = false) : (plan classification channels startedAt policy).Perm
    (plannedRetries classification startedAt policy ++ proposedMessages channels startedAt policy) := by
  rw [plan, if_neg (by simp [hfinal])]
  exact List.perm_insertionSort _ _

lemma mem_plan : p ∈ plan classification channels startedAt policy ↔
    classification.final = false ∧ (p ∈ plannedRetries classification startedAt policy ∨
      p ∈ proposedMessages channels startedAt policy) := by
  cases hfinal : classification.final with
  | true => simp [plan, hfinal]
  | false => rw [(plan_perm hfinal).mem_iff, List.mem_append, eq_self_iff_true, true_and]

lemma countP_retries (p : ProposedAction → Bool) (hp : ∀ x, p x = true → x.actionType = .message) :
    (plannedRetries classification startedAt policy).countP p = 0 := by
  rw [List.countP_eq_zero]
  intro x hx hpx
  have hretry := (mem_plannedRetries hx).1
  rw [hp x hpx] at hretry
  cases hretry

lemma countP_plan_messages (hfinal : classification.final = false) (p : ProposedAction → Bool)
    (hp : ∀ x, p x = true → x.actionType = .message) : (plan classification channels startedAt policy).countP p =
      (proposedMessages channels startedAt policy).countP p := by
  rw [(plan_perm hfinal).countP_eq, List.countP_append, countP_retries p hp, Nat.zero_add]

lemma proposedMessages_length : (proposedMessages channels startedAt policy).length ≤ policy.maxMessages := by
  refine (List.length_filterMap_le _ _).trans ?_
  rw [List.length_zipIdx, List.length_take]
  exact Nat.min_le_left _ _

lemma plannedRetries_length : (plannedRetries classification startedAt policy).length ≤ policy.maxPaymentRetries := by
  unfold plannedRetries
  split_ifs
  · rw [List.length_map, List.length_take]
    exact Nat.min_le_left _ _
  · exact Nat.zero_le _

lemma plan_messages_le : (plan classification channels startedAt policy).countP (fun p => p.actionType = .message) ≤
    policy.maxMessages := by
  cases hfinal : classification.final with
  | true => simp [plan, hfinal]
  | false =>
    rw [countP_plan_messages hfinal _ fun x hx => of_decide_eq_true hx]
    exact List.countP_le_length.trans proposedMessages_length

lemma plan_retries_le : (plan classification channels startedAt policy).countP (fun p => p.actionType = .paymentRetry) ≤
    policy.maxPaymentRetries := by
  cases hfinal : classification.final with
  | true => simp [plan, hfinal]
  | false =>
    rw [(plan_perm hfinal).countP_eq, List.countP_append]
    have hmessages : (proposedMessages channels startedAt policy).countP
        (fun p => p.actionType = .paymentRetry) = 0 := by
      rw [List.countP_eq_zero]
      intro x hx
      simp [(mem_proposedMessages hx).1]
    rw [hmessages]
    exact List.countP_le_length.trans plannedRetries_length

lemma plan_messages_perm (hfinal : classification.final = false) (hchannels : channels ≠ []) :
    ((plan classification channels startedAt policy).filter fun p => p.actionType = .message).Perm
      ((policy.messageWindowsHours.take policy.maxMessages).zipIdx.map fun e =>
        ⟨.message, startedAt + hours e.1, channels[e.2 % channels.length]?⟩) := by
  have hretries : (plannedRetries classification startedAt policy).filter (fun p => p.actionType = .message) = [] := by
    rw [List.filter_eq_nil_iff]
    intro x hx
    simp [(mem_plannedRetries hx).1]
  have hmessages : (proposedMessages channels startedAt policy).filter (fun p => p.actionType = .message) =
      proposedMessages channels startedAt policy := by
    rw [List.filter_eq_self]
    intro x hx
    simp [(mem_proposedMessages hx).1]
  have hperm : ((plan classification channels startedAt policy).filter fun p => p.actionType = .message).Perm _ :=
    (plan_perm hfinal).filter _
  rw [List.filter_append, hretries, hmessages, List.nil_append, proposedMessages_eq hchannels] at hperm
  exact hperm

lemma count_turns (hnodup : channels.Nodup) {channel : Channel} (hmem : channel ∈ channels) (k : ℕ) :
    ∃ j < channels.length, (List.range k).countP (fun i => channels[i % channels.length]? = some channel) =
      k / channels.length + if j < k % channels.length then 1 else 0 := by
  obtain ⟨j, hj, rfl⟩ := List.mem_iff_getElem.1 hmem
  refine ⟨j, hj, ?_⟩
  have hpos : 0 < channels.length := by omega
  have hcount := Nat.count_modEq_card k hpos j
  rw [Nat.mod_eq_of_lt hj] at hcount
  rw [← hcount, Nat.count]
  apply List.countP_congr
  intro i _
  have hi : i % channels.length < channels.length := Nat.mod_lt _ hpos
  rw [decide_eq_true_eq, decide_eq_true_eq, List.getElem?_eq_getElem hi, Option.some.injEq,
    hnodup.getElem_inj_iff, Nat.ModEq, Nat.mod_eq_of_lt hj]

lemma countP_plan_channel (hfinal : classification.final = false) (hchannels : channels ≠ []) (channel : Channel) :
    (plan classification channels startedAt policy).countP
        (fun p => p.actionType = .message ∧ p.channel = some channel) =
      (List.range policy.maxMessages).countP fun i => channels[i % channels.length]? = some channel := by
  have hlength : (policy.messageWindowsHours.take policy.maxMessages).length = policy.maxMessages :=
    List.length_take_of_le policy.messageWindows_length
  rw [countP_plan_messages hfinal _ fun x hx => (of_decide_eq_true hx).1, proposedMessages_eq hchannels,
    List.countP_map]
  generalize policy.messageWindowsHours.take policy.maxMessages = windows at hlength
  rw [← hlength, List.range_eq_range', ← List.zipIdx_map_snd 0 windows, List.countP_map]
  apply List.countP_congr
  intro e _
  simp

lemma plan_channels_even (hnodup : channels.Nodup) {channel channel' : Channel} (hmem : channel ∈ channels)
    (hmem' : channel' ∈ channels) : (plan classification channels startedAt policy).countP
        (fun p => p.actionType = .message ∧ p.channel = some channel) ≤
      (plan classification channels startedAt policy).countP
        (fun p => p.actionType = .message ∧ p.channel = some channel') + 1 := by
  cases hfinal : classification.final with
  | true => simp [plan, hfinal]
  | false =>
    have hchannels := List.ne_nil_of_mem hmem
    rw [countP_plan_channel hfinal hchannels, countP_plan_channel hfinal hchannels]
    obtain ⟨j, -, hj⟩ := count_turns hnodup hmem policy.maxMessages
    obtain ⟨j', -, hj'⟩ := count_turns hnodup hmem' policy.maxMessages
    rw [hj, hj']
    split_ifs <;> omega

instance : Std.Total proposedOrder where
  total x y := by
    rcases lt_trichotomy x.scheduledFor y.scheduledFor with hlt | heq | hgt
    · exact Or.inl (Or.inl hlt)
    · cases hx : x.actionType with
      | message => exact Or.inl (Or.inr ⟨heq, Or.inl hx⟩)
      | paymentRetry => exact Or.inr (Or.inr ⟨heq.symm, Or.inr hx⟩)
    · exact Or.inr (Or.inl hgt)

instance : IsTrans ProposedAction proposedOrder where
  trans x y z := by
    rintro (hxy | ⟨hxy, htypes⟩) (hyz | ⟨hyz, htypes'⟩)
    · exact Or.inl (hxy.trans hyz)
    · exact Or.inl (hyz ▸ hxy)
    · exact Or.inl (hxy ▸ hyz)
    · refine Or.inr ⟨hxy.trans hyz, ?_⟩
      rcases htypes with hx | hy
      · exact Or.inl hx
      · rcases htypes' with hy' | hz
        · rw [hy] at hy'
          cases hy'
        · exact Or.inr hz

lemma plan_sorted : (plan classification channels startedAt policy).Pairwise fun p q =>
    p.scheduledFor ≤ q.scheduledFor := by
  unfold plan
  split_ifs
  · exact List.Pairwise.nil
  · refine (List.pairwise_insertionSort proposedOrder _).imp ?_
    intro p q h
    rcases h with hlt | ⟨heq, -⟩
    · exact hlt.le
    · exact heq.le

lemma get_scheduled (k : CaseId) (proposed : List ProposedAction) (m n : ℕ)
    (t : Table ActionId ScheduledRecoveryAction) :
    ((proposed.zipIdx m).foldl (fun t e => t.put (k, e.2 + 1) (scheduledAction e.1)) t).get (k, m + n + 1) =
      ((proposed[n]?).map scheduledAction).or (t.get (k, m + n + 1)) := by
  induction proposed generalizing m n t with
  | nil => simp
  | cons p proposed ih =>
    rw [List.zipIdx_cons, List.foldl_cons]
    cases n with
    | succ n =>
      have hne : ((k, m + (n + 1) + 1) : ActionId) ≠ (k, m + 1) := by simp
      have hindex : m + (n + 1) + 1 = m + 1 + n + 1 := by omega
      rw [List.getElem?_cons_succ, hindex, ih (m + 1) n, ← hindex, Table.get_put_ne _ _ hne]
    | zero =>
      -- the later rows have higher sequence numbers
      have hlater : ∀ (l : List ProposedAction) (j : ℕ) (t : Table ActionId ScheduledRecoveryAction), m < j →
          ((l.zipIdx j).foldl (fun t e => t.put (k, e.2 + 1) (scheduledAction e.1)) t).get (k, m + 1) =
            t.get (k, m + 1) := by
        intro l
        induction l with
        | nil => exact fun _ _ _ => rfl
        | cons q l ihl =>
          intro j t hj
          have hne : ((k, m + 1) : ActionId) ≠ (k, j + 1) := by
            simp
            omega
          rw [List.zipIdx_cons, List.foldl_cons, ihl (j + 1) _ (by omega), Table.get_put_ne _ _ hne]
      rw [Nat.add_zero, hlater proposed (m + 1) _ (Nat.lt_succ_self m), Table.get_put_self]
      rfl

structure OpenedWith (i : InvoiceId) (proposed : List ProposedAction) (expiresAt : Time) (s : RecoveryState) :
    Prop where
  expiry : ∀ row, s.cases.get i = some row → row.expiresAt = expiresAt
  actions : ∀ n p, proposed[n]? = some p → ∃ row, s.actions.get (i, n + 1) = some row ∧
    row.actionType = p.actionType ∧ row.scheduledFor = p.scheduledFor

def policyEnd (startedAt : Time) (policy : PolicyDefinition) : Time := startedAt + hours (24 * policy.windowDays)

lemma exec_require_some {α β : Type} (a : α) (e : Error) (f : α → RecoveryTx β) (s : RecoveryState) :
    (require (some a) e >>= f).exec s = (f a).exec s := rfl

variable {s s' : RecoveryState}

lemma flushSubscription_exec {u : SubscriptionId} {loaded new : SubscriptionStatus}
    (h : (flushSubscription u loaded new).exec s = .ok ((), s')) : s'.cases = s.cases ∧ s'.actions = s.actions := by
  unfold flushSubscription flush at h
  split_ifs at h
  · cases h
    exact ⟨rfl, rfl⟩
  · cases h
    exact ⟨rfl, rfl⟩

lemma openRecoveryCase_opens {u : SubscriptionId} {subscription : Subscription} {i : InvoiceId}
    {trigger : RecurringPaymentAttempt} (hconsent : consentedChannels subscription.consent = .ok channels)
    (hclass : trigger.failureClassification = some classification) (hnew : s.cases.get i = none)
    (h : (openRecoveryCase u subscription i trigger policy startedAt).exec s = .ok ((), s')) :
    OpenedWith i (plan classification channels startedAt policy) (policyEnd startedAt policy) s' ∧
      ∀ n, s'.actions.get (i, n + 1) =
        (((plan classification channels startedAt policy)[n]?).map scheduledAction).or (s.actions.get (i, n + 1)) := by
  simp only [openRecoveryCase, exec_query_bind, hnew, Option.isSome_none, Bool.false_eq_true, if_false,
    exec_ensure_bind, hclass, exec_require_some, exec_acquire_bind, if_true, proposeActions_eq hconsent,
    exec_modify_bind] at h
  split_ifs at h with hknown hfailed
  obtain ⟨hcases, hactions⟩ := flushSubscription_exec h
  have hrows : ∀ n, s'.actions.get (i, n + 1) =
      (((plan classification channels startedAt policy)[n]?).map scheduledAction).or (s.actions.get (i, n + 1)) := by
    intro n
    have hget := get_scheduled i (plan classification channels startedAt policy) 0 n s.actions
    rw [Nat.zero_add] at hget
    rw [hactions]
    exact hget
  refine ⟨⟨fun row hrow => ?_, fun n p hp => ?_⟩, hrows⟩
  · have hget : s'.cases.get i = some (openedCase u classification policy startedAt
        (plan classification channels startedAt policy)) := by
      rw [hcases]
      exact Table.get_put_self _ _ _
    rw [hget] at hrow
    cases hrow
    rfl
  · refine ⟨scheduledAction p, ?_, rfl, rfl⟩
    rw [hrows, hp]
    rfl

def policyExpired : Error := relayPay "RECOVERY_POLICY_EXPIRED" "Recovery policy window has expired" 409 []

def actionNotDue : Error := relayPay "RECOVERY_ACTION_NOT_DUE" "Scheduled recovery action is not due" 409 []

def RefusedForTime {α : Type} (r : Except Error α) : Prop := r = .error policyExpired ∨ r = .error actionNotDue

lemma insertRecord_exec {a : ActionId} (h : s.records.get a = none) (row : CommunicationRecord) :
    (insertRecord a row).exec s = .ok ((), s.putRecord a row) := by
  rw [insertRecord, exec_acquire_bind, exec_query_bind, h, exec_ensure_bind]
  rfl

lemma flushAction_exec (a : ActionId) (loaded new : ScheduledRecoveryAction) (s : RecoveryState) :
    ∃ s', (flushAction a loaded new).exec s = .ok ((), s') := by
  unfold flushAction flush
  split_ifs
  · exact ⟨s, rfl⟩
  · exact ⟨_, rfl⟩

lemma prepareMessage_not_refused (a : ActionId) (action : ScheduledRecoveryAction) (subscription : Subscription)
    (mode : Mode) (s : RecoveryState) : ¬RefusedForTime ((prepareMessage a action subscription mode).exec s) := by
  unfold prepareMessage
  cases hchannel : action.channel with
  | none => rintro (h | h) <;> cases h
  | some channel =>
    rw [exec_require_some]
    cases hbody : renderMessage subscription a.1 with
    | error e =>
      have hvalue : ∃ message, e = .value message := by
        unfold renderMessage at hbody
        split at hbody
        · split_ifs at hbody
          cases hbody
          exact ⟨_, rfl⟩
        · cases hbody
          exact ⟨_, rfl⟩
      obtain ⟨message, rfl⟩ := hvalue
      rintro (h | h) <;> cases h
    | ok bodies =>
      simp only [exec_query_bind]
      cases hrecord : s.records.get a with
      | some row => rintro (h | h) <;> cases h
      | none =>
        rw [exec_ensure_bind]
        split_ifs
        · rw [exec_bind_ok (insertRecord_exec hrecord _)]
          rintro (h | h) <;> cases h
        · simp [RefusedForTime, policyExpired, actionNotDue, relayPay]

lemma executing_not_refused (a : ActionId) (action : ScheduledRecoveryAction) (subscription : Subscription)
    (mode : Mode) (s : RecoveryState) (amount : ℤ) :
    ¬RefusedForTime ((do
      flushAction a action { action with status := .executing }
      match action.actionType with
      | .message =>
        let body ← prepareMessage a action subscription mode
        done (⟨mode, action.channel, some body, amount⟩ : PreparedAction)
      | .paymentRetry => done ⟨mode, action.channel, none, amount⟩ : RecoveryTx PreparedAction).exec s) := by
  obtain ⟨s', hflush⟩ := flushAction_exec a action { action with status := .executing } s
  rw [exec_bind_ok hflush]
  cases action.actionType with
  | paymentRetry => rintro (h | h) <;> cases h
  | message =>
    have hmessage := prepareMessage_not_refused a action subscription mode s'
    dsimp only
    rw [exec_bind]
    cases hbody : (prepareMessage a action subscription mode).exec s' with
    | error e =>
      rw [hbody] at hmessage
      intro hrefused
      exact hmessage (hrefused.imp (fun h => by cases h; rfl) fun h => by cases h; rfl)
    | ok x => rintro (h | h) <;> cases h

lemma prepareAction_refused_iff {now : Time} {a : ActionId} {action : ScheduledRecoveryAction}
    {recovery : RecoveryCase} {subscription : Subscription} {invoice : SubscriptionInvoice}
    (haction : s.actions.get a = some action) (hcase : s.cases.get a.1 = some recovery)
    (hsubscription : s.subscriptions.get recovery.subscription = some subscription)
    (hinvoice : s.invoices.get a.1 = some invoice) (hopen : recovery.status.terminal = false) :
    RefusedForTime ((prepareAction now a action.actionType).exec s) ↔
      recovery.expiresAt ≤ now ∨ now < action.scheduledFor := by
  simp only [prepareAction, exec_acquire_bind, exec_query_bind, haction, exec_require_some, exec_ensure_bind, if_true,
    hcase, hsubscription, hinvoice, hopen]
  by_cases hexpired : now < recovery.expiresAt
  · rw [if_pos hexpired]
    by_cases hdue : action.scheduledFor ≤ now
    · rw [if_pos hdue]
      refine iff_of_false ?_ (by rintro (h | h); exacts [not_le.2 hexpired h, not_lt.2 hdue h])
      by_cases hstatus : action.status.isOpen = true
      · rw [if_pos hstatus]
        exact executing_not_refused a action subscription _ s _
      · rw [if_neg hstatus]
        rintro (h | h) <;> cases h
    · rw [if_neg hdue]
      exact iff_of_true (Or.inr rfl) (Or.inr (not_le.1 hdue))
  · rw [if_neg hexpired]
    exact iff_of_true (Or.inl rfl) (Or.inl (not_lt.1 hexpired))

lemma prepareAction_not_refused {now : Time} {a : ActionId} {action : ScheduledRecoveryAction}
    {recovery : RecoveryCase} (haction : s.actions.get a = some action) (hcase : s.cases.get a.1 = some recovery)
    (hopen : recovery.status.terminal = false) (hexpired : now < recovery.expiresAt)
    (hdue : action.scheduledFor ≤ now) : ¬RefusedForTime ((prepareAction now a action.actionType).exec s) := by
  cases hsubscription : s.subscriptions.get recovery.subscription with
  | none =>
    simp only [prepareAction, exec_acquire_bind, exec_query_bind, haction, exec_require_some, exec_ensure_bind,
      if_true, hcase, hsubscription]
    rw [exec_bind_error rfl]
    simp [RefusedForTime, policyExpired, actionNotDue, relayPay, notFound]
  | some subscription =>
    cases hinvoice : s.invoices.get a.1 with
    | none =>
      simp only [prepareAction, exec_acquire_bind, exec_query_bind, haction, exec_require_some, exec_ensure_bind,
        if_true, hcase, hsubscription, hinvoice]
      rw [exec_bind_error rfl]
      simp [RefusedForTime, policyExpired, actionNotDue, relayPay, notFound]
    | some invoice =>
      rw [prepareAction_refused_iff haction hcase hsubscription hinvoice hopen]
      rintro (h | h)
      · exact not_le.2 hexpired h
      · exact not_lt.2 hdue h

def ExecutableOnTime (i : InvoiceId) (proposed : List ProposedAction) (expiresAt : Time) : Prop :=
  ∀ s, OpenedWith i proposed expiresAt s → ∀ recovery, s.cases.get i = some recovery →
    recovery.status.terminal = false → ∀ n p, proposed[n]? = some p →
      ¬RefusedForTime ((prepareAction p.scheduledFor (i, n + 1) p.actionType).exec s)

structure EarlyWindows (classification : FailureClassification) (channels : List Channel) (policy : PolicyDefinition) :
    Prop where
  retries : classification = .retryableSoftDecline →
    ∀ h ∈ policy.retryWindowsHours.take policy.maxPaymentRetries, h < 24 * policy.windowDays
  messages : classification.final = false → channels ≠ [] →
    ∀ h ∈ policy.messageWindowsHours.take policy.maxMessages, h < 24 * policy.windowDays

lemma before_policyEnd_iff (n : ℕ) : startedAt + hours n < policyEnd startedAt policy ↔ n < 24 * policy.windowDays := by
  rw [policyEnd, Nat.add_lt_add_iff_left, hours, hours, seconds, seconds]
  omega

lemma earlyWindows_iff : EarlyWindows classification channels policy ↔
    ∀ p ∈ plan classification channels startedAt policy, p.scheduledFor < policyEnd startedAt policy := by
  constructor
  · intro h p hp
    obtain ⟨hfinal, hretry | hmessage⟩ := mem_plan.1 hp
    · obtain ⟨-, -, hsoft, n, hn, htime⟩ := mem_plannedRetries hretry
      rw [htime, before_policyEnd_iff]
      exact h.retries hsoft n hn
    · obtain ⟨-, ⟨channel, hchannel, -⟩, n, hn, htime⟩ := mem_proposedMessages hmessage
      rw [htime, before_policyEnd_iff]
      exact h.messages hfinal (List.ne_nil_of_mem hchannel) n hn
  · intro h
    constructor
    · rintro rfl n hn
      rw [← before_policyEnd_iff]
      refine h ⟨.paymentRetry, startedAt + hours n, none⟩ (mem_plan.2 ⟨rfl, Or.inl ?_⟩)
      rw [plannedRetries, if_pos rfl]
      exact List.mem_map_of_mem hn
    · intro hfinal hchannels n hn
      rw [← before_policyEnd_iff]
      obtain ⟨j, hj, rfl⟩ := List.mem_iff_getElem.1 hn
      refine h ⟨.message, _, channels[j % channels.length]?⟩ (mem_plan.2 ⟨hfinal, Or.inr ?_⟩)
      rw [proposedMessages_eq hchannels, List.mem_map]
      exact ⟨(_, j), List.mem_zipIdx_iff_getElem?.2 (List.getElem?_eq_getElem hj), rfl⟩

def openedAlone (i : InvoiceId) (recovery : RecoveryCase) (proposed : List ProposedAction) : RecoveryState :=
  let s := RecoveryState.start 0
  ({ s with
    subscriptions := s.subscriptions.put recovery.subscription ⟨[], .pastDue⟩
    invoices := s.invoices.put i ⟨recovery.subscription, 1, .failed, none⟩ }.putCase i recovery).schedule i proposed

lemma openedAlone_openedWith (i : InvoiceId) (recovery : RecoveryCase) (proposed : List ProposedAction) :
    OpenedWith i proposed recovery.expiresAt (openedAlone i recovery proposed) := by
  constructor
  · intro row hrow
    have hget : (openedAlone i recovery proposed).cases.get i = some recovery := Table.get_put_self _ _ _
    rw [hget] at hrow
    cases hrow
    rfl
  · intro n p hp
    have hget := get_scheduled i proposed 0 n (RecoveryState.start 0).actions
    rw [Nat.zero_add, hp] at hget
    exact ⟨scheduledAction p, hget, rfl, rfl⟩

lemma executableOnTime_iff (i : InvoiceId) :
    ExecutableOnTime i (plan classification channels startedAt policy) (policyEnd startedAt policy) ↔
      EarlyWindows classification channels policy := by
  have hearly : EarlyWindows classification channels policy ↔
      ∀ p ∈ plan classification channels startedAt policy, p.scheduledFor < policyEnd startedAt policy :=
    earlyWindows_iff
  rw [hearly]
  constructor
  · intro h p hp
    obtain ⟨n, hn⟩ := List.mem_iff_getElem?.1 hp
    have hopened := openedAlone_openedWith i (openedCase 0 classification policy startedAt
      (plan classification channels startedAt policy)) (plan classification channels startedAt policy)
    obtain ⟨action, haction, htype, htime⟩ := hopened.actions n p hn
    have hopen : (openedCase 0 classification policy startedAt
        (plan classification channels startedAt policy)).status.terminal = false := by
      have hne : (plan classification channels startedAt policy).isEmpty = false := by
        cases hplan : plan classification channels startedAt policy with
        | nil =>
          rw [hplan] at hp
          cases hp
        | cons => rfl
      simp only [openedCase, hne]
      rfl
    have hnot := h _ hopened _ (Table.get_put_self _ _ _) hopen n p hn
    rw [← htype, ← htime, prepareAction_refused_iff haction (Table.get_put_self _ _ _) (Table.get_put_self _ _ _)
      (Table.get_put_self _ _ _) hopen, not_or, not_le] at hnot
    rw [← htime]
    exact hnot.1
  · intro h s hopened recovery hcase hopen n p hn
    obtain ⟨action, haction, htype, htime⟩ := hopened.actions n p hn
    have hend := hopened.expiry recovery hcase
    rw [← htype, ← htime]
    apply prepareAction_not_refused haction hcase hopen
    · rw [hend, htime]
      exact h p (List.mem_of_getElem? hn)
    · exact le_rfl

theorem planned_actions (policy : PolicyDefinition) (classification : FailureClassification)
    (consent : List (String × Json)) (channels : List Channel) (startedAt : Time)
    (hconsent : consentedChannels consent = .ok channels) :
    ∃ proposed, proposeActions classification consent startedAt policy = .ok proposed ∧
      (∀ u subscription i trigger s s', subscription.consent = consent →
        trigger.failureClassification = some classification → s.cases.get i = none →
        (∀ n, s.actions.get (i, n) = none) →
        (openRecoveryCase u subscription i trigger policy startedAt).exec s = .ok ((), s') →
        OpenedWith i proposed (policyEnd startedAt policy) s' ∧
          ∀ n, s'.actions.get (i, n + 1) = (proposed[n]?).map scheduledAction) ∧
      (proposed.countP (fun p => p.actionType = .paymentRetry) ≤ policy.maxPaymentRetries ∧
        ∀ p ∈ proposed, p.actionType = .paymentRetry → classification = .retryableSoftDecline) ∧
      (proposed.countP (fun p => p.actionType = .message) ≤ policy.maxMessages ∧
        (∀ p ∈ proposed, p.actionType = .message → ∃ channel ∈ channels, p.channel = some channel) ∧
        (classification.final = false → channels ≠ [] → (proposed.filter fun p => p.actionType = .message).Perm
            ((policy.messageWindowsHours.take policy.maxMessages).zipIdx.map fun e =>
              ⟨.message, startedAt + hours e.1, channels[e.2 % channels.length]?⟩)) ∧
        ∀ channel ∈ channels, ∀ channel' ∈ channels,
          proposed.countP (fun p => p.actionType = .message ∧ p.channel = some channel) ≤
            proposed.countP (fun p => p.actionType = .message ∧ p.channel = some channel') + 1) ∧
      proposed.Pairwise (fun p q => p.scheduledFor ≤ q.scheduledFor) ∧
      ∀ i, ExecutableOnTime i proposed (policyEnd startedAt policy) ↔ EarlyWindows classification channels policy := by
  refine ⟨plan classification channels startedAt policy, proposeActions_eq hconsent, ?_, ⟨plan_retries_le, ?_⟩,
    ⟨plan_messages_le, ?_, plan_messages_perm, fun channel hmem channel' hmem' =>
      plan_channels_even (consentedChannels_nodup hconsent) hmem hmem'⟩, plan_sorted, executableOnTime_iff⟩
  · intro u subscription i trigger s s' hsame hclass hnew hnone hexec
    subst hsame
    obtain ⟨hopened, hrows⟩ := openRecoveryCase_opens hconsent hclass hnew hexec
    refine ⟨hopened, fun n => ?_⟩
    rw [hrows, hnone, Option.or_none]
  · intro p hp hretry
    obtain ⟨-, hmem | hmem⟩ := mem_plan.1 hp
    · exact (mem_plannedRetries hmem).2.2.1
    · rw [(mem_proposedMessages hmem).1] at hretry
      cases hretry
  · intro p hp hmessage
    obtain ⟨-, hmem | hmem⟩ := mem_plan.1 hp
    · rw [(mem_plannedRetries hmem).1] at hmessage
      cases hmessage
    · exact (mem_proposedMessages hmem).2.1

namespace Week

lemma limit_le : 3 ≤ 3 := le_rfl

lemma days_mem : 1 ≤ 7 ∧ 7 ≤ 14 := by
  decide

lemma retryHours_le : ∀ h ∈ [24, 72, 168], h ≤ 7 * 24 := by
  decide

lemma messageHours_le : ∀ h ∈ [0, 48, 120], h ≤ 7 * 24 := by
  decide

def short : PolicyDefinition :=
  { windowDays := 7
    retryWindowsHours := [24, 72, 168]
    messageWindowsHours := [0, 48, 120]
    retries_le := limit_le
    messages_le := limit_le
    window_mem := days_mem
    retryWindows_length := limit_le
    messageWindows_length := limit_le
    retryWindows_le := retryHours_le
    messageWindows_le := messageHours_le }

def subscriber : Subscription := ⟨[("channels", .arr [.str "EMAIL"])], .active⟩

def failedAttempt : RecurringPaymentAttempt :=
  ⟨0, 1, "attempt", .verifiedFailed, some .retryableSoftDecline, "INSUFFICIENT_FUNDS", .null,
    sha256 (canonicalJsonBytes .null), 0, none⟩

def books : RecoveryState :=
  { RecoveryState.start 0 with
    subscriptions := Table.empty.put 0 subscriber
    invoices := Table.empty.put 0 ⟨0, 50000, .failed, none⟩ }

def prepared (sequence : ℕ) (actionType : ActionType) (now : Time) : Option String :=
  match (openRecoveryCase 0 subscriber 0 failedAttempt short 0).exec books with
  | .ok (_, s) =>
    match (prepareAction now (0, sequence) actionType).exec s with
    | .error (.relayPay e) => some e.code
    | _ => none
  | .error _ => some "NOT_OPENED"

end Week

theorem retry_planned_too_late :
    Week.prepared 6 .paymentRetry (hours 168) = some "RECOVERY_POLICY_EXPIRED" ∧
      Week.prepared 4 .paymentRetry (hours 72) = none := by
  decide +kernel

theorem planned_actions_default :
    consentedChannels Week.subscriber.consent = .ok [.email] ∧ ∃ proposed,
      proposeActions .retryableSoftDecline Week.subscriber.consent 0 { } = .ok proposed ∧
        ∀ i, ExecutableOnTime i proposed (policyEnd 0 { }) := by
  obtain ⟨proposed, hproposed, -, -, -, -, hiff⟩ :=
    planned_actions { } .retryableSoftDecline Week.subscriber.consent [.email] 0 rfl
  refine ⟨rfl, proposed, hproposed, fun i => (hiff i).2 ⟨fun _ => ?_, fun _ _ => ?_⟩⟩
  · decide
  · decide

end RelayPay.Subscriptions
