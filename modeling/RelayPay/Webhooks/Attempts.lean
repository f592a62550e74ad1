import RelayPay.ReadCommitted.Permits
import RelayPay.ReadCommitted.Script
import RelayPay.Webhooks.Delivery

namespace RelayPay.Webhooks

open ReadCommitted Txn

namespace DeliveryState

def Initial (s : DeliveryState) (r : RecipientId) (d : DeliveryId) : Prop :=
  ∃ v, s.deliveries.get d = some v ∧ v.recipient = r ∧ v.replayOf = none

variable (s : DeliveryState) (d d' : DeliveryId) (v : WebhookDelivery) (a : WebhookDeliveryAttempt)

@[simp] lemma get_putDelivery :
    (s.putDelivery d v).deliveries.get d' = if d' = d then some v else s.deliveries.get d' :=
  Table.get_put _ _ _ _

@[simp] lemma attemptsOf_putDelivery : (s.putDelivery d v).attemptsOf d' = s.attemptsOf d' := rfl

@[simp] lemma deliveries_addAttempt : (s.addAttempt a).deliveries = s.deliveries := rfl

@[simp] lemma attemptsOf_addAttempt :
    (s.addAttempt a).attemptsOf d' = s.attemptsOf d' ++ if a.delivery = d' then [a] else [] := by
  rw [attemptsOf, addAttempt, List.filter_append, attemptsOf]
  by_cases h : a.delivery = d' <;> simp [h]

variable {s d v}

lemma hasInitial_iff {r : RecipientId} : s.hasInitial r = true ↔ ∃ d, s.Initial r d := by
  simp only [hasInitial, List.any_eq_true, Bool.and_eq_true, decide_eq_true_eq, Option.isNone_iff_eq_none]
  constructor
  · rintro ⟨⟨d, v⟩, hmem, hr, hnone⟩
    exact ⟨d, v, Table.mem_rows.1 hmem, hr, hnone⟩
  · rintro ⟨d, v, hget, hr, hnone⟩
    exact ⟨(d, v), Table.mem_rows.2 hget, hr, hnone⟩

lemma initial_putDelivery {r : RecipientId} : (s.putDelivery d v).Initial r d' ↔
    if d' = d then v.recipient = r ∧ v.replayOf = none else s.Initial r d' := by
  unfold Initial
  rw [get_putDelivery]
  split
  · simp
  · rfl

end DeliveryState

structure SameDelivery (d : DeliveryId) (s s' : DeliveryState) : Prop where
  row : s'.deliveries.get d = s.deliveries.get d
  attempts : s'.attemptsOf d = s.attemptsOf d

lemma SameDelivery.refl (d : DeliveryId) (s : DeliveryState) : SameDelivery d s s := ⟨rfl, rfl⟩

lemma SameDelivery.trans {d : DeliveryId} {s s' s'' : DeliveryState} (h : SameDelivery d s s')
    (h' : SameDelivery d s' s'') : SameDelivery d s s'' :=
  ⟨h'.row.trans h.row, h'.attempts.trans h.attempts⟩

structure Evolves (s s' : DeliveryState) : Prop where
  initial : ∀ r d, s.Initial r d → s'.Initial r d
  ended : ∀ d v, s.deliveries.get d = some v → v.status.terminal = true → SameDelivery d s s'

lemma Evolves.refl (s : DeliveryState) : Evolves s s := ⟨fun _ _ h => h, fun d _ _ _ => .refl d s⟩

lemma Evolves.trans {s s' s'' : DeliveryState} (h : Evolves s s') (h' : Evolves s' s'') : Evolves s s'' := by
  refine ⟨fun r d hd => h'.initial r d (h.initial r d hd), fun d v hv hend => ?_⟩
  have hsame := h.ended d v hv hend
  exact hsame.trans (h'.ended d v (hsame.row.trans hv) hend)

def Frame : DeliveryKey → DeliveryState → DeliveryState → Prop
  | .delivery d, s, s' => SameDelivery d s s'
  | .recipient _, _, _ => True
  | .initial r, s, s' => ∀ d, s'.Initial r d ↔ s.Initial r d

def leases : Discipline DeliveryState DeliveryKey where
  frame := Frame
  evolves := Evolves
  frame_refl k s := by
    cases k with
    | delivery d => exact .refl d s
    | recipient r => trivial
    | initial r => exact fun d => Iff.rfl
  frame_trans k s₁ s₂ s₃ h h' := by
    cases k with
    | delivery d => exact SameDelivery.trans h h'
    | recipient r => trivial
    | initial r => exact fun d => (h' d).trans (h d)
  evolves_refl := Evolves.refl
  evolves_trans _ _ _ h h' := h.trans h'

section Respects

variable {locks : List DeliveryKey} {d : DeliveryId}

lemma respects_putDelivery (hheld : .delivery d ∈ locks) (v : WebhookDelivery) :
    leases.Respects locks (DeliveryState.putDelivery d v) := by
  intro s₀ s hview
  have hsame : SameDelivery d s₀ s := hview.2 _ hheld
  refine ⟨⟨?_, ?_⟩, ?_⟩
  · intro r d' hinitial
    rw [DeliveryState.initial_putDelivery] at hinitial ⊢
    by_cases hd : d' = d
    · rwa [if_pos hd] at hinitial ⊢
    · rw [if_neg hd] at hinitial ⊢
      exact hview.1.initial r d' hinitial
  · intro d' v' hv' hend
    rw [DeliveryState.get_putDelivery] at hv'
    by_cases hd : d' = d
    · subst hd
      exact ⟨by simp, hsame.attempts⟩
    · rw [if_neg hd] at hv'
      have hkept := hview.1.ended d' v' hv' hend
      refine ⟨?_, hkept.attempts⟩
      rw [DeliveryState.get_putDelivery, DeliveryState.get_putDelivery, hkept.row]
  · intro k hk
    cases k with
    | delivery d' =>
      refine ⟨?_, hk.attempts⟩
      rw [DeliveryState.get_putDelivery, DeliveryState.get_putDelivery, hk.row]
    | recipient r => trivial
    | initial r =>
      intro d'
      rw [DeliveryState.initial_putDelivery, DeliveryState.initial_putDelivery]
      split
      · rfl
      · exact hk d'

lemma SameDelivery.addAttempt {s s' : DeliveryState} (h : SameDelivery d s s') (a : WebhookDeliveryAttempt) :
    SameDelivery d (s.addAttempt a) (s'.addAttempt a) :=
  ⟨h.row, by rw [DeliveryState.attemptsOf_addAttempt, DeliveryState.attemptsOf_addAttempt, h.attempts]⟩

lemma respects_addAttempt (a : WebhookDeliveryAttempt) : leases.Respects locks (DeliveryState.addAttempt a) := by
  intro s₀ s hview
  refine ⟨⟨hview.1.initial, fun d' v' hv' hend => (hview.1.ended d' v' hv' hend).addAttempt a⟩, ?_⟩
  intro k hk
  cases k with
  | delivery d' => exact SameDelivery.addAttempt hk a
  | recipient r => trivial
  | initial r => exact hk

end Respects

structure Recorded (v v' : WebhookDelivery) (a : WebhookDeliveryAttempt) : Prop where
  recipient : v'.recipient = v.recipient
  replayOf : v'.replayOf = v.replayOf
  count : v'.attemptCount = v.attemptCount + 1
  sequence : a.sequence = v.attemptCount + 1
  lease : v'.status.leaseToken = none
  delivered : v'.status.isDelivered = true ↔ a.result = .acknowledged
  last : v'.status.terminal = false → v'.attemptCount < maxAttempts

structure Inserted (locks : List DeliveryKey) (s s' : DeliveryState) (d : DeliveryId) (v : WebhookDelivery) :
    Prop where
  locked : .delivery d ∈ locks
  fresh : s.deliveries.get d = none
  pending : v.status = .pending
  unattempted : v.attemptCount = 0
  initial : v.replayOf = none → .initial v.recipient ∈ locks ∧ ∀ d', ¬s.Initial v.recipient d'
  state : s' = s.putDelivery d v

inductive Outcome (locks : List DeliveryKey) (s : DeliveryState) : Option Token → DeliveryState → Prop
  | same {token} : Outcome locks s token s
  | claimed {d v token expires} : .delivery d ∈ locks → s.deliveries.get d = some v →
      v.status.terminal = false →
      Outcome locks s (some token) (s.putDelivery d { v with status := .delivering token expires })
  | recorded {d v v' a} : .delivery d ∈ locks → s.deliveries.get d = some v →
      v.status.leaseToken = some a.leaseToken → a.delivery = d → Recorded v v' a →
      Outcome locks s none ((s.addAttempt a).putDelivery d v')
  | inserted {s'} : Relation.ReflTransGen (fun s s' => ∃ d v, Inserted locks s s' d v) s s' →
      Outcome locks s none s'

lemma Inserted.mono {locks locks' : List DeliveryKey} {s s' : DeliveryState} {d : DeliveryId}
    {v : WebhookDelivery} (h : Inserted locks s s' d v) (hsub : locks ⊆ locks') : Inserted locks' s s' d v :=
  ⟨hsub h.locked, h.fresh, h.pending, h.unattempted, fun hnone => ⟨hsub (h.initial hnone).1, (h.initial hnone).2⟩,
    h.state⟩

section Specs

variable {s : DeliveryState} {sender : Sender}

lemma due_not_terminal {now nextAttemptAt : Time} {status : DeliveryStatus}
    (h : status.due now nextAttemptAt = true) : status.terminal = false := by
  cases status with
  | pending => rfl
  | retryWait => rfl
  | delivering token expires => rfl
  | delivered time => cases h
  | deadLetter time => cases h

lemma lease_not_terminal {status : DeliveryStatus} {token : Token} (h : status.leaseToken = some token) :
    status.terminal = false ∧ status.isDelivered = false := by
  cases status with
  | delivering token' expires => exact ⟨rfl, rfl⟩
  | pending => cases h
  | retryWait => cases h
  | delivered time => cases h
  | deadLetter time => cases h

lemma firstClaimable_spec (which : ClaimFilter) (now : Time) (ds : List DeliveryId) :
    ∀ x : Running DeliveryState DeliveryKey Empty, (firstClaimable which now ds).Wp leases (fun _ => True)
      (fun found y => y.state = x.state ∧ ∀ d v, found = some (d, v) → .delivery d ∈ y.held ∧
        x.state.deliveries.get d = some v ∧ v.status.terminal = false) x := by
  induction ds with
  | nil =>
    intro x
    exact ⟨rfl, fun d v h => nomatch h⟩
  | cons d rest ih =>
    intro x
    simp only [firstClaimable, wp_bind, wp_attempt]
    constructor
    · simp only [if_true, wp_bind, wp_query]
      intro s₀ hview
      split
      · next v hrow =>
        obtain ⟨hget, hclaim⟩ := Option.filter_eq_some_iff.1 hrow
        refine ⟨rfl, fun d' v' h => ?_⟩
        cases h
        simp only [claimable, Bool.and_eq_true] at hclaim
        exact ⟨List.mem_cons_self, (hview.2 (.delivery d) List.mem_cons_self).row.trans hget, due_not_terminal hclaim.2⟩
      · exact ih (x.hold (.delivery d))
    · exact ih x

lemma claim_spec (which : ClaimFilter) (token : Token) : (claimDelivery sender which token).Wp leases (fun _ => True)
      (fun _ y => Outcome y.held s (some token) y.state) ⟨s, [], []⟩ := by
  simp only [claimDelivery, wp_bind, wp_query]
  intro s₀ _ s₁ _
  refine (firstClaimable_spec which _ _ _).imp ?_
  rintro found y ⟨hstate, hfound⟩
  cases found with
  | none =>
    simp only [wp_done, hstate]
    exact .same
  | some row =>
    obtain ⟨d, v⟩ := row
    obtain ⟨hheld, hget, hopen⟩ := hfound d v rfl
    simp only [wp_bind, wp_modify, wp_done, Running.apply_state, Running.apply_held, hstate]
    exact ⟨respects_putDelivery hheld _, .claimed hheld hget hopen⟩

lemma load_spec (claim : DeliveryClaim) : (loadRequest sender claim).Wp leases (fun _ => True)
    (fun _ y => Outcome y.held s none y.state) ⟨s, [], []⟩ := by
  rw [loadRequest, wp_query]
  exact fun _ _ => .same

lemma statusAfter_cases (report : Report) (sequence : ℕ) (now : Time) :
    (statusAfter report sequence now = .delivered now ∧ report.result = .acknowledged) ∨
    (statusAfter report sequence now = .deadLetter now ∧ report.result ≠ .acknowledged) ∨
    (statusAfter report sequence now = .retryWait ∧ report.result ≠ .acknowledged ∧ sequence < maxAttempts) := by
  unfold statusAfter
  split
  · next hack => exact .inl ⟨rfl, hack⟩
  · next hack =>
    split
    · exact .inr (.inl ⟨rfl, hack⟩)
    · next hgoes =>
      simp only [not_or, not_le] at hgoes
      exact .inr (.inr ⟨rfl, hack, hgoes.2.2⟩)

lemma recorded_record (v : WebhookDelivery) (claim : DeliveryClaim) (request : DeliveryRequest)
    (report : Report) (now : Time) : Recorded v (v.record sender claim.delivery report now)
      (attemptOf claim request report (v.attemptCount + 1) now) := by
  have hstatus : (v.record sender claim.delivery report now).status =
      statusAfter report (v.attemptCount + 1) now := rfl
  refine ⟨rfl, rfl, rfl, rfl, ?_, ?_, ?_⟩
  all_goals rw [hstatus]
  all_goals rcases statusAfter_cases report (v.attemptCount + 1) now with ⟨h, hack⟩ | ⟨h, hack⟩ | ⟨h, hack, hlast⟩
  all_goals rw [h]
  all_goals simp_all [DeliveryStatus.leaseToken, DeliveryStatus.isDelivered, DeliveryStatus.terminal, attemptOf,
    WebhookDelivery.record]

lemma record_spec (claim : DeliveryClaim) (request : DeliveryRequest) (report : Report) :
    (recordAttempt sender claim request report).Wp leases (fun _ => True)
      (fun _ y => Outcome y.held s none y.state) ⟨s, [], []⟩ := by
  simp only [recordAttempt, wp_bind, wp_query, wp_acquire]
  intro s₀ _ s₁ hview
  split
  · exact .same
  · next v hrow =>
    obtain ⟨hget, hlease⟩ := Option.filter_eq_some_iff.1 hrow
    have hrow' : s.deliveries.get claim.delivery = some v :=
      (hview.2 (.delivery claim.delivery) List.mem_cons_self).row.trans hget
    simp only [wp_bind, wp_modify, wp_done]
    refine ⟨respects_addAttempt _, respects_putDelivery List.mem_cons_self _, ?_⟩
    have htoken : v.status.leaseToken = some claim.leaseToken := by simpa using hlease
    exact .recorded List.mem_cons_self hrow' htoken rfl (recorded_record ..)

lemma takeInitial_spec (v : WebhookDelivery) (x : Running DeliveryState DeliveryKey Empty) :
    (takeInitial v).Wp leases (fun _ => True) (fun _ y => y.state = x.state ∧ x.held ⊆ y.held ∧
      (v.replayOf = none → .initial v.recipient ∈ y.held ∧ ∀ d, ¬x.state.Initial v.recipient d)) x := by
  rw [takeInitial, wp_ite]
  constructor
  · intro _
    simp only [wp_bind, wp_acquire, wp_query, wp_ensure]
    intro s₀ hview
    refine ⟨fun htaken => ⟨rfl, List.subset_cons_self _ _, fun _ => ⟨List.mem_cons_self, fun d hd => ?_⟩⟩,
      fun _ => trivial⟩
    have hd₀ : s₀.Initial v.recipient d := (hview.2 (.initial v.recipient) List.mem_cons_self d).1 hd
    rw [DeliveryState.hasInitial_iff.2 ⟨d, hd₀⟩] at htaken
    cases htaken
  · intro hreplay
    refine ⟨rfl, List.Subset.refl _, fun hnone => ?_⟩
    rw [hnone] at hreplay
    exact absurd rfl hreplay

lemma insert_spec (d : DeliveryId) (v : WebhookDelivery) (hpending : v.status = .pending)
    (hnone : v.attemptCount = 0) (x : Running DeliveryState DeliveryKey Empty) :
    (insertDelivery d v).Wp leases (fun _ => True) (fun _ y => x.held ⊆ y.held ∧
      Inserted y.held x.state y.state d v) x := by
  simp only [insertDelivery, wp_bind, wp_acquire, wp_query, wp_ensure]
  intro s₀ hview
  refine ⟨fun hunused => (takeInitial_spec v _).imp ?_, fun _ => trivial⟩
  rintro _ y ⟨hstate, hheld, hinitial⟩
  have hlocked : .delivery d ∈ y.held := hheld List.mem_cons_self
  have hfresh : x.state.deliveries.get d = none := by
    have hrow := (hview.2 (.delivery d) List.mem_cons_self).row
    exact hrow.trans (by simpa using hunused)
  rw [wp_modify]
  refine ⟨respects_putDelivery hlocked v, fun k hk => hheld (List.mem_cons_of_mem _ hk), ?_⟩
  exact ⟨hlocked, hfresh, hpending, hnone, hinitial, by rw [Running.apply_state, hstate]; rfl⟩

lemma lockRecipients_spec (n : ℕ) (es : List (RecipientId × Recipient)) :
    ∀ x : Running DeliveryState DeliveryKey Empty, (lockRecipients n es).Wp leases (fun _ => True)
      (fun _ y => y.state = x.state) x := by
  induction es generalizing n with
  | nil =>
    intro x
    cases n with
    | zero => exact rfl
    | succ n => exact rfl
  | cons e rest ih =>
    intro x
    cases n with
    | zero => exact rfl
    | succ n =>
      simp only [lockRecipients, wp_bind, wp_attempt]
      constructor
      · simp only [if_true, wp_bind]
        exact (ih n _).imp fun _ y hy => hy
      · exact ih (n + 1) x

lemma materialize_spec (batchSize : ℕ) (organisation : Option OrganisationId) (ids : RecipientId → DeliveryId) :
    (materializeDeliveryBatch batchSize organisation ids).Wp leases (fun _ => True)
      (fun _ y => Outcome y.held s none y.state) ⟨s, [], []⟩ := by
  simp only [materializeDeliveryBatch, wp_bind, wp_query]
  intro s₀ _
  refine (lockRecipients_spec batchSize _ _).imp ?_
  intro recipients y hstate s₁ _
  -- after each insert: the inserts so far, under the locks held by now
  refine (wp_forEach (fun _ y' => Relation.ReflTransGen (fun s s' => ∃ d v, Inserted y'.held s s' d v) s y'.state)
    ?_ recipients y ?_).imp fun _ y' hy' => .inserted hy'
  · intro e rest y' hinserts
    refine (insert_spec _ _ rfl rfl y').imp ?_
    rintro _ y'' ⟨hheld, hinsert⟩
    have hmono : ∀ s s', (∃ d v, Inserted y'.held s s' d v) → ∃ d v, Inserted y''.held s s' d v := by
      rintro s s' ⟨d, v, h⟩
      exact ⟨d, v, h.mono hheld⟩
    exact (Relation.ReflTransGen.mono hmono _ _ hinserts).tail ⟨_, _, hinsert⟩
  · rw [hstate]

lemma replay_spec (organisation : OrganisationId) (d newId : DeliveryId) :
    (replayDelivery organisation d newId).Wp leases (fun _ => True)
      (fun _ y => Outcome y.held s none y.state) ⟨s, [], []⟩ := by
  simp only [replayDelivery, wp_bind, wp_acquire, wp_query, wp_require, wp_ensure]
  intro s₀ _
  refine ⟨fun original _ => ⟨fun _ s₁ _ => ?_, fun _ => trivial⟩, fun _ => trivial⟩
  refine (insert_spec newId _ rfl rfl _).imp ?_
  rintro _ y ⟨-, hinsert⟩
  exact .inserted (.single ⟨_, _, hinsert⟩)

end Specs

structure RowSound (v : WebhookDelivery) (attempts : List WebhookDeliveryAttempt) : Prop where
  numbered : attempts.map WebhookDeliveryAttempt.sequence = List.range' 1 v.attemptCount
  bounded : v.attemptCount ≤ maxAttempts
  left : v.status.terminal = false → v.attemptCount < maxAttempts
  delivered : v.status.isDelivered = true ↔ ∃ a ∈ attempts, a.result = .acknowledged

structure DeliveryState.Sound (s : DeliveryState) : Prop where
  rows : ∀ d v, s.deliveries.get d = some v → RowSound v (s.attemptsOf d)
  unborn : ∀ d, s.deliveries.get d = none → s.attemptsOf d = []
  initial : ∀ r d d', s.Initial r d → s.Initial r d' → d = d'

section Steps

variable {locks : List DeliveryKey} {s s' : DeliveryState} {d : DeliveryId} {v v' : WebhookDelivery}
  {a : WebhookDeliveryAttempt} {token : Option Token}

variable {attempts : List WebhookDeliveryAttempt}

lemma RowSound.claim (h : RowSound v attempts) (hopen : v.status.terminal = false) (token : Token) (expires : Time) :
    RowSound { v with status := .delivering token expires } attempts := by
  refine ⟨h.numbered, h.bounded, fun _ => h.left hopen, ?_⟩
  rw [← h.delivered]
  cases hstatus : v.status with
  | delivered time =>
    rw [hstatus] at hopen
    cases hopen
  | pending => exact Iff.rfl
  | retryWait => exact Iff.rfl
  | delivering token' expires' => exact Iff.rfl
  | deadLetter time => exact Iff.rfl

lemma RowSound.record (h : RowSound v attempts) {token : Token}
    (hlease : v.status.leaseToken = some token) (hrecord : Recorded v v' a) : RowSound v' (attempts ++ [a]) := by
  obtain ⟨hopen, hnot⟩ := lease_not_terminal hlease
  have hleft := h.left hopen
  refine ⟨?_, ?_, hrecord.last, ?_⟩
  · rw [List.map_append, h.numbered, hrecord.count, List.range'_concat]
    simp [hrecord.sequence, Nat.add_comm]
  · rw [hrecord.count]
    omega
  · rw [hrecord.delivered]
    constructor
    · exact fun hack => ⟨a, by simp, hack⟩
    · rintro ⟨a', ha', hack⟩
      rcases List.mem_append.1 ha' with hold | hnew
      · rw [h.delivered.2 ⟨a', hold, hack⟩] at hnot
        cases hnot
      · rw [List.mem_singleton.1 hnew] at hack
        exact hack

lemma keeps_putDelivery (hlocked : .delivery d ∈ locks) (hfresh : ∀ v₀, s.deliveries.get d = some v₀ →
    v₀.status.terminal = false) (hinitial : ∀ r, .initial r ∉ locks → ((s.putDelivery d v).Initial r d ↔ s.Initial r d))
    (hgrows : ∀ r, s.Initial r d → (s.putDelivery d v).Initial r d) : leases.Keeps locks s (s.putDelivery d v) := by
  have hother : ∀ {d'}, d' ≠ d → SameDelivery d' s (s.putDelivery d v) := fun hd =>
    ⟨by rw [DeliveryState.get_putDelivery, if_neg hd], rfl⟩
  refine ⟨⟨?_, ?_⟩, ?_⟩
  · intro r d' hd'
    by_cases hd : d' = d
    · rw [hd] at hd' ⊢
      exact hgrows r hd'
    · rw [DeliveryState.initial_putDelivery, if_neg hd]
      exact hd'
  · intro d' v' hv' hend
    refine hother ?_
    rintro rfl
    rw [hfresh v' hv'] at hend
    cases hend
  · intro k hk
    cases k with
    | delivery d' => exact hother fun hd => hk (hd ▸ hlocked)
    | recipient r => trivial
    | initial r =>
      intro d'
      by_cases hd : d' = d
      · rw [hd]
        exact hinitial r hk
      · rw [DeliveryState.initial_putDelivery, if_neg hd]

lemma initial_update (hv : s.deliveries.get d = some v) (hrecipient : v'.recipient = v.recipient)
    (hreplay : v'.replayOf = v.replayOf) (r : RecipientId) : (s.putDelivery d v').Initial r d ↔ s.Initial r d := by
  rw [DeliveryState.initial_putDelivery, if_pos rfl, hrecipient, hreplay]
  constructor
  · exact fun h => ⟨v, hv, h⟩
  · rintro ⟨v₀, hv₀, h⟩
    rw [hv] at hv₀
    cases hv₀
    exact h

lemma DeliveryState.Sound.put (hs : s.Sound) {s₁ : DeliveryState} (hrows : s₁.deliveries = s.deliveries)
    (hother : ∀ d', d' ≠ d → s₁.attemptsOf d' = s.attemptsOf d') (hrow : RowSound v' (s₁.attemptsOf d))
    (hinitial : ∀ r d₁ d₂, (s₁.putDelivery d v').Initial r d₁ → (s₁.putDelivery d v').Initial r d₂ → d₁ = d₂) :
    (s₁.putDelivery d v').Sound := by
  refine ⟨?_, ?_, hinitial⟩
  · intro d' v₁ hv₁
    rw [DeliveryState.get_putDelivery, hrows] at hv₁
    rw [DeliveryState.attemptsOf_putDelivery]
    split at hv₁
    · next hd =>
      cases hv₁
      rw [hd]
      exact hrow
    · next hd =>
      rw [hother d' hd]
      exact hs.rows d' v₁ hv₁
  · intro d' hnone
    rw [DeliveryState.get_putDelivery, hrows] at hnone
    rw [DeliveryState.attemptsOf_putDelivery]
    split at hnone
    · cases hnone
    · next hd =>
      rw [hother d' hd]
      exact hs.unborn d' hnone

lemma DeliveryState.Sound.update (hs : s.Sound) {s₁ : DeliveryState} (hrows : s₁.deliveries = s.deliveries)
    (hother : ∀ d', d' ≠ d → s₁.attemptsOf d' = s.attemptsOf d') (hrow : RowSound v' (s₁.attemptsOf d))
    (hv : s.deliveries.get d = some v) (hrecipient : v'.recipient = v.recipient)
    (hreplay : v'.replayOf = v.replayOf) : (s₁.putDelivery d v').Sound := by
  have hinitial : ∀ r d', (s₁.putDelivery d v').Initial r d' → s.Initial r d' := by
    intro r d' h
    have hsame : s₁.Initial r d' := by
      by_cases hd : d' = d
      · rw [hd] at h ⊢
        exact (initial_update (hrows ▸ hv) hrecipient hreplay r).1 h
      · rwa [DeliveryState.initial_putDelivery, if_neg hd] at h
    unfold DeliveryState.Initial at hsame ⊢
    rwa [hrows] at hsame
  exact hs.put hrows hother hrow fun r d₁ d₂ h₁ h₂ => hs.initial r d₁ d₂ (hinitial r d₁ h₁) (hinitial r d₂ h₂)

lemma Inserted.keeps (h : Inserted locks s s' d v) : leases.Keeps locks s s' := by
  rw [h.state]
  have hnot : ∀ r, ¬s.Initial r d := by
    rintro r ⟨v₀, hv₀, -⟩
    rw [h.fresh] at hv₀
    cases hv₀
  refine keeps_putDelivery h.locked ?_ ?_ fun r hr => absurd hr (hnot r)
  · intro v₀ hv₀
    rw [h.fresh] at hv₀
    cases hv₀
  · intro r hr
    rw [DeliveryState.initial_putDelivery, if_pos rfl]
    constructor
    · rintro ⟨rfl, hnone⟩
      exact absurd (h.initial hnone).1 hr
    · exact fun hinitial => absurd hinitial (hnot r)

lemma Inserted.sound (h : Inserted locks s s' d v) (hs : s.Sound) : s'.Sound := by
  rw [h.state]
  have hrow : RowSound v (s.attemptsOf d) := by
    rw [hs.unborn d h.fresh]
    refine ⟨by simp [h.unattempted], by simp [h.unattempted], fun _ => by simp [h.unattempted, maxAttempts], ?_⟩
    simp [h.pending, DeliveryStatus.isDelivered]
  apply hs.put rfl (fun _ _ => rfl) hrow
  intro r d₁ d₂ h₁ h₂
  rw [DeliveryState.initial_putDelivery] at h₁ h₂
  by_cases hd₁ : d₁ = d
  · by_cases hd₂ : d₂ = d
    · rw [hd₁, hd₂]
    · rw [if_pos hd₁] at h₁
      rw [if_neg hd₂, ← h₁.1] at h₂
      exact absurd h₂ ((h.initial h₁.2).2 d₂)
  · rw [if_neg hd₁] at h₁
    by_cases hd₂ : d₂ = d
    · rw [if_pos hd₂] at h₂
      rw [← h₂.1] at h₁
      exact absurd h₁ ((h.initial h₂.2).2 d₁)
    · rw [if_neg hd₂] at h₂
      exact hs.initial r d₁ d₂ h₁ h₂

lemma Recorded.keeps (hlocked : .delivery d ∈ locks) (hv : s.deliveries.get d = some v)
    (hlease : v.status.leaseToken = some a.leaseToken) (ha : a.delivery = d) (h : Recorded v v' a) :
    leases.Keeps locks s ((s.addAttempt a).putDelivery d v') := by
  have hput : leases.Keeps locks (s.addAttempt a) ((s.addAttempt a).putDelivery d v') := by
    have hinitial := initial_update (s := s.addAttempt a) hv h.recipient h.replayOf
    refine keeps_putDelivery hlocked ?_ (fun r _ => hinitial r) fun r hr => (hinitial r).2 hr
    intro v₀ hv₀
    rw [DeliveryState.deliveries_addAttempt, hv] at hv₀
    cases hv₀
    exact (lease_not_terminal hlease).1
  have hadd : ∀ d', d' ≠ d → SameDelivery d' s (s.addAttempt a) := fun d' hd =>
    ⟨rfl, by rw [DeliveryState.attemptsOf_addAttempt, if_neg (fun heq => hd (heq.symm.trans ha)), List.append_nil]⟩
  refine ⟨⟨hput.1.initial, ?_⟩, ?_⟩
  · intro d' v₁ hv₁ hend
    have hd : d' ≠ d := by
      rintro rfl
      rw [hv] at hv₁
      cases hv₁
      rw [(lease_not_terminal hlease).1] at hend
      cases hend
    exact (hadd d' hd).trans (hput.1.ended d' v₁ hv₁ hend)
  · intro k hk
    cases k with
    | delivery d' =>
      have hd : d' ≠ d := fun heq => hk (heq ▸ hlocked)
      exact (hadd d' hd).trans (hput.2 _ hk)
    | recipient r => trivial
    | initial r => exact hput.2 _ hk

lemma Recorded.sound (hs : s.Sound) (hv : s.deliveries.get d = some v)
    (hlease : v.status.leaseToken = some a.leaseToken) (ha : a.delivery = d) (h : Recorded v v' a) :
    ((s.addAttempt a).putDelivery d v').Sound := by
  have hrow : RowSound v' ((s.addAttempt a).attemptsOf d) := by
    rw [DeliveryState.attemptsOf_addAttempt, if_pos ha]
    exact (hs.rows d v hv).record hlease h
  -- the attempt is added to the row it belongs to, and other rows have the attempts they had
  have hother : ∀ d', d' ≠ d → (s.addAttempt a).attemptsOf d' = s.attemptsOf d' := by
    intro d' hd
    rw [DeliveryState.attemptsOf_addAttempt, if_neg (fun heq => hd (heq.symm.trans ha)), List.append_nil]
  exact hs.update rfl hother hrow hv h.recipient h.replayOf

lemma Outcome.keeps (h : Outcome locks s token s') (hs : s.Sound) : leases.Keeps locks s s' ∧ s'.Sound := by
  cases h with
  | same => exact ⟨⟨Evolves.refl s, fun k _ => leases.frame_refl k s⟩, hs⟩
  | claimed hlocked hv hopen =>
    refine ⟨keeps_putDelivery hlocked ?_ (fun r _ => initial_update hv (by rfl) (by rfl) r)
      fun r hr => (initial_update hv (by rfl) (by rfl) r).2 hr,
      hs.update rfl (fun _ _ => rfl) ((hs.rows _ _ hv).claim hopen _ _) hv rfl rfl⟩
    intro v₀ hv₀
    rw [hv] at hv₀
    cases hv₀
    exact hopen
  | recorded hlocked hv hlease ha hrecord =>
    exact ⟨hrecord.keeps hlocked hv hlease ha, hrecord.sound hs hv hlease ha⟩
  | inserted hinserts =>
    induction hinserts with
    | refl => exact ⟨⟨Evolves.refl s, fun k _ => leases.frame_refl k s⟩, hs⟩
    | tail _ hinsert ih =>
      obtain ⟨d, v, hinsert⟩ := hinsert
      have hkeeps := hinsert.keeps
      exact ⟨⟨ih.1.1.trans hkeeps.1, fun k hk => leases.frame_trans k _ _ _ (ih.1.2 k hk) (hkeeps.2 k hk)⟩,
        hinsert.sound ih.2⟩

end Steps

def DeliveryState.inUse (s : DeliveryState) (token : Token) : ℕ :=
  s.deliveries.count fun _ v => v.status.leaseToken = some token

def DeliveryState.used (s : DeliveryState) (token : Token) : ℕ :=
  s.attempts.countP fun a => a.leaseToken = token

def tokens : Permits DeliveryState Worker Token where
  holds
    | .claimingWith _ _ token => some token
    | _ => none
  issued s token := token ∈ s.drawn
  spent s token := s.used token + s.inUse token

section Tokens

variable {locks : List DeliveryKey} {s s' : DeliveryState} {t : Option Token} {sender : Sender}

lemma Outcome.drawn (h : Outcome locks s t s') : s'.drawn = s.drawn := by
  cases h with
  | same => rfl
  | claimed _ _ _ => rfl
  | recorded _ _ _ _ _ => rfl
  | inserted hinserts =>
    induction hinserts with
    | refl => rfl
    | tail _ hinsert ih =>
      obtain ⟨d, v, hinsert⟩ := hinsert
      rw [hinsert.state]
      exact ih

lemma inUse_putDelivery (s : DeliveryState) (d : DeliveryId) (v : WebhookDelivery) (token : Token) :
    (s.putDelivery d v).inUse token +
      (if (s.deliveries.get d).any (fun v => v.status.leaseToken = some token) then 1 else 0) =
    s.inUse token + if v.status.leaseToken = some token then 1 else 0 := by
  have hcount := s.deliveries.count_put (fun _ v => v.status.leaseToken = some token) d v
  simp only [decide_eq_true_eq] at hcount
  exact hcount

lemma used_addAttempt (s : DeliveryState) (a : WebhookDeliveryAttempt) (token : Token) :
    (s.addAttempt a).used token = s.used token + if a.leaseToken = token then 1 else 0 := by
  simp [DeliveryState.used, DeliveryState.addAttempt, List.countP_append, List.countP_cons]

lemma Outcome.spent (h : Outcome locks s t s') (token : Token) :
    s'.used token + s'.inUse token ≤ s.used token + s.inUse token + if t = some token then 1 else 0 := by
  cases h with
  | same => exact Nat.le_add_right _ _
  | @claimed d v token' expires _ _ _ =>
    have hcount := inUse_putDelivery s d { v with status := .delivering token' expires } token
    have hlease : (DeliveryStatus.delivering token' expires).leaseToken = some token' := rfl
    have hused : (s.putDelivery d { v with status := .delivering token' expires }).used token = s.used token := rfl
    rw [hlease] at hcount
    omega
  | @recorded d v v' a _ hv hlease _ hrecord =>
    have hcount := inUse_putDelivery (s.addAttempt a) d v' token
    have hused := used_addAttempt s a token
    have hsame : (s.addAttempt a).inUse token = s.inUse token := rfl
    have hkept : ((s.addAttempt a).putDelivery d v').used token = (s.addAttempt a).used token := rfl
    simp only [DeliveryState.deliveries_addAttempt, hv, Option.any_some, hlease, hrecord.lease, reduceCtorEq,
      if_false, Option.some.injEq, decide_eq_true_eq] at hcount
    simp only [reduceCtorEq, if_false]
    omega
  | inserted hinserts =>
    induction hinserts with
    | refl => exact Nat.le_add_right _ _
    | @tail s₁ s₂ _ hinsert ih =>
      obtain ⟨d, v, hinsert⟩ := hinsert
      have hcount := inUse_putDelivery s₁ d v token
      have hlease : DeliveryStatus.pending.leaseToken = none := rfl
      have hused : (s₁.putDelivery d v).used token = s₁.used token := rfl
      rw [hinsert.state]
      simp only [hinsert.fresh, Option.any_none, hinsert.pending, hlease, reduceCtorEq, if_false,
        Bool.false_eq_true] at hcount
      omega

lemma worker_spec {l : Worker} {tx : DeliveryTx Worker} (s : DeliveryState)
    (ht : (webhooks sender).txn l = some tx) : tx.Wp leases (fun _ => True)
      (fun l' y => Outcome y.held s (tokens.holds l) y.state ∧ tokens.holds l' = none) ⟨s, [], []⟩ := by
  have hnext : ∀ which rounds, tokens.holds (nextRound which rounds) = none := by
    intro which rounds
    cases rounds with
    | zero => rfl
    | succ rounds => rfl
  cases l with
  | claiming which rounds => cases ht
  | claimingWith which rounds token =>
    cases ht
    rw [wp_bind]
    refine (claim_spec which token).imp fun claim y hy => ⟨hy, ?_⟩
    cases claim with
    | none => rfl
    | some claim => rfl
  | claimed which rounds claim =>
    cases ht
    rw [wp_bind]
    refine (load_spec claim).imp fun request y hy => ⟨hy, ?_⟩
    cases request with
    | none => exact hnext which rounds
    | some request => rfl
  | loaded which rounds claim request => cases ht
  | recording which rounds claim request report =>
    cases ht
    rw [wp_bind]
    exact (record_spec claim request report).imp fun _ y hy => ⟨hy, hnext which rounds⟩
  | materializing batchSize organisation ids =>
    cases ht
    rw [wp_bind]
    exact (materialize_spec batchSize organisation ids).imp fun _ y hy => ⟨hy, rfl⟩
  | replaying organisation d newId =>
    cases ht
    rw [wp_bind]
    exact (replay_spec organisation d newId).imp fun _ y hy => ⟨hy, rfl⟩
  | finished => cases ht

lemma same_rows (hrows : s'.deliveries = s.deliveries) (hattempts : s'.attempts = s.attempts)
    (hs : s.Sound) : leases.Keeps [] s s' ∧ s'.Sound := by
  have hsame : ∀ d, SameDelivery d s s' := fun d =>
    ⟨by rw [hrows], by rw [DeliveryState.attemptsOf, hattempts, DeliveryState.attemptsOf]⟩
  have hinitial : ∀ r d, s'.Initial r d ↔ s.Initial r d := by
    intro r d
    rw [DeliveryState.Initial, hrows, DeliveryState.Initial]
  refine ⟨⟨⟨fun r d hd => (hinitial r d).2 hd, fun d _ _ _ => hsame d⟩, ?_⟩, ?_, ?_, ?_⟩
  · intro k _
    cases k with
    | delivery d => exact hsame d
    | recipient r => trivial
    | initial r => exact hinitial r
  · intro d v hv
    rw [(hsame d).attempts]
    exact hs.rows d v ((hsame d).row.symm.trans hv)
  · intro d hnone
    rw [(hsame d).attempts]
    exact hs.unborn d ((hsame d).row.symm.trans hnone)
  · intro r d d' hd hd'
    exact hs.initial r d d' ((hinitial r d).1 hd) ((hinitial r d').1 hd')

lemma act_rows {l l' : Worker} (h : Act l s l' s') : s'.deliveries = s.deliveries ∧ s'.attempts = s.attempts := by
  cases h <;> exact ⟨rfl, rfl⟩

lemma environment_rows (h : Environment s s') :
    s'.deliveries = s.deliveries ∧ s'.attempts = s.attempts ∧ s'.drawn = s.drawn := by
  cases h <;> exact ⟨rfl, rfl, rfl⟩

lemma webhooks_disciplined : Disciplined leases (webhooks sender) DeliveryState.Sound where
  commit {s} {_} {_} {l'} {_} hs ht he :=
    ((he.commits_plain (worker_spec s ht)).1 l' rfl).1.keeps hs
  act hs h := same_rows (act_rows h).1 (act_rows h).2 hs
  env hs h := same_rows (environment_rows h).1 (environment_rows h).2.1 hs

lemma tokens_kept : tokens.Kept leases (webhooks sender) DeliveryState.Sound where
  spawn := by
    intro l hl
    cases l with
    | claimingWith which rounds token => exact hl.elim
    | claiming which rounds => rfl
    | claimed which rounds claim => rfl
    | loaded which rounds claim request => rfl
    | recording which rounds claim request report => rfl
    | materializing batchSize organisation ids => rfl
    | replaying organisation d newId => rfl
    | finished => rfl
  commit := by
    intro s l tx l' y _ ht he
    obtain ⟨houtcome, hholds⟩ := (he.commits_plain (worker_spec s ht)).1 l' rfl
    refine ⟨fun token htoken => ?_, fun token => .inl ?_⟩
    · change token ∈ (y.own s).drawn
      rw [houtcome.drawn]
      exact htoken
    · rw [Permits.has_eq_zero hholds, Nat.zero_add, Nat.add_comm]
      exact houtcome.spent token
  fail _ _ := rfl
  act := by
    intro l s l' s' _ h
    cases h with
    | @draw which rounds token _ hfresh =>
      refine ⟨fun token' h => List.mem_cons_of_mem _ h, fun token' => ?_⟩
      have hspent : tokens.spent { s with drawn := token :: s.drawn } token' = tokens.spent s token' := rfl
      have hnew : tokens.has (.claimingWith which rounds token) token' = if token = token' then 1 else 0 := by
        simp [Permits.has, tokens]
      by_cases heq : token = token'
      · subst heq
        rw [if_pos rfl] at hnew
        exact .inr ⟨hfresh, List.mem_cons_self, by omega⟩
      · rw [if_neg heq] at hnew
        exact .inl (by omega)
    | unreadable _ => exact ⟨fun _ h => h, fun token => .inl le_rfl⟩
    | send status _ => exact ⟨fun _ h => h, fun token => .inl le_rfl⟩
  env := by
    intro s s' _ h token
    obtain ⟨hrows, hattempts, hdrawn⟩ := environment_rows h
    refine ⟨fun htoken => ?_, ?_⟩
    · change token ∈ s'.drawn
      rw [hdrawn]
      exact htoken
    · simp only [tokens, DeliveryState.used, DeliveryState.inUse, hrows, hattempts]

end Tokens

section Materializer

variable {s : DeliveryState}

lemma lockRecipients_runs {Q : List (RecipientId × Recipient) → DeliveryState → List Empty → Prop}
    {q : List Empty} (n : ℕ) (es : List (RecipientId × Recipient)) :
    (lockRecipients n es).Runs Q s q ↔ Q (es.take n) s q := by
  induction es generalizing n Q with
  | nil =>
    cases n with
    | zero => exact Iff.rfl
    | succ n => exact Iff.rfl
  | cons e rest ih =>
    cases n with
    | zero => exact Iff.rfl
    | succ n =>
      simp only [lockRecipients, runs_bind, runs_attempt, if_true, runs_done, List.take_succ_cons]
      exact ih n

lemma insert_runs {Q : Unit → DeliveryState → List Empty → Prop} {q : List Empty} {d : DeliveryId}
    {v : WebhookDelivery} (hfresh : s.deliveries.get d = none) (hinitial : ∀ d', ¬s.Initial v.recipient d')
    (hQ : Q () (s.putDelivery d v) q) : (insertDelivery d v).Runs Q s q := by
  have htaken : s.hasInitial v.recipient = false := by
    rw [← Bool.not_eq_true, DeliveryState.hasInitial_iff]
    rintro ⟨d', hd'⟩
    exact hinitial d' hd'
  simp only [insertDelivery, runs_bind, runs_acquire, runs_query, runs_ensure, takeInitial, hfresh]
  refine ⟨rfl, ?_⟩
  split
  · simp only [runs_bind, runs_acquire, runs_query, runs_ensure, runs_modify]
    exact ⟨htaken, hQ⟩
  · exact hQ

structure Batch (s : DeliveryState) (ids : RecipientId → DeliveryId) (rest : List (RecipientId × Recipient))
    (s' : DeliveryState) : Prop where
  sound : s'.Sound
  nodup : (rest.map Prod.fst).Nodup
  unused : ∀ e ∈ rest, s'.deliveries.get (ids e.1) = none
  without : ∀ e ∈ rest, ∀ d, ¬s'.Initial e.1 d
  made : ∀ r row, s.recipients.get r = some row → (r, row) ∈ rest ∨ ∃ d, s'.Initial r d

lemma Batch.insert {ids : RecipientId → DeliveryId} (hids : Function.Injective ids)
    {e : RecipientId × Recipient} {rest : List (RecipientId × Recipient)} {s' : DeliveryState}
    (h : Batch s ids (e :: rest) s') (now : Time) :
    Batch s ids rest (s'.putDelivery (ids e.1) (initialDelivery now e.1 e.2)) := by
  have hfresh := h.unused e List.mem_cons_self
  have hwithout := h.without e List.mem_cons_self
  have hnodup := List.nodup_cons.1 (List.map_cons ▸ h.nodup)
  have hne : ∀ {e'}, e' ∈ rest → e'.1 ≠ e.1 := by
    intro e' he' heq
    exact hnodup.1 (heq ▸ List.mem_map_of_mem he')
  have hinserted : Inserted [.delivery (ids e.1), .initial e.1] s'
      (s'.putDelivery (ids e.1) (initialDelivery now e.1 e.2)) (ids e.1) (initialDelivery now e.1 e.2) :=
    ⟨List.mem_cons_self, hfresh, rfl, rfl, fun _ => ⟨by simp [initialDelivery], hwithout⟩, rfl⟩
  refine ⟨hinserted.sound h.sound, hnodup.2, ?_, ?_, ?_⟩
  · intro e' he'
    have hid : ids e'.1 ≠ ids e.1 := fun heq => hne he' (hids heq)
    rw [DeliveryState.get_putDelivery, if_neg hid]
    exact h.unused e' (List.mem_cons_of_mem _ he')
  · intro e' he' d hd
    rw [DeliveryState.initial_putDelivery] at hd
    split at hd
    · exact hne he' hd.1.symm
    · exact h.without e' (List.mem_cons_of_mem _ he') d hd
  · intro r row hrow
    have hmade : (s'.putDelivery (ids e.1) (initialDelivery now e.1 e.2)).Initial e.1 (ids e.1) := by
      rw [DeliveryState.initial_putDelivery, if_pos rfl]
      exact ⟨rfl, rfl⟩
    rcases h.made r row hrow with hmem | ⟨d, hd⟩
    · rcases List.mem_cons.1 hmem with rfl | hrest
      · exact .inr ⟨_, hmade⟩
      · exact .inl hrest
    · right
      refine ⟨d, ?_⟩
      have hother : d ≠ ids e.1 := by
        rintro rfl
        obtain ⟨v, hv, -⟩ := hd
        rw [hfresh] at hv
        cases hv
      rw [DeliveryState.initial_putDelivery, if_neg hother]
      exact hd

lemma materialize_runs (hs : s.Sound) {batchSize : ℕ} {ids : RecipientId → DeliveryId}
    (hsize : s.recipients.rows.length ≤ batchSize) (hids : Function.Injective ids)
    (hfresh : ∀ r, s.deliveries.get (ids r) = none) :
    ∃ n s', (materializeDeliveryBatch batchSize none ids).exec s = .ok (n, s') ∧
      ∀ r row, s.recipients.get r = some row → ∃! d, s'.Initial r d := by
  have hperm := List.mergeSort_perm (s.recipients.rows.filter fun e =>
    (none : Option OrganisationId).all (fun o => e.2.organisation = o) && !s.hasInitial e.1) fun a b => a.1 ≤ b.1
  have htake : (awaiting none s).take batchSize = awaiting none s := by
    apply List.take_of_length_le
    exact (hperm.length_eq.trans_le (List.length_filter_le ..)).trans hsize
  have hstart : Batch s ids (awaiting none s) s := by
    refine ⟨hs, ?_, fun e _ => hfresh e.1, ?_, ?_⟩
    · refine ((hperm.map Prod.fst).nodup_iff).2 ?_
      exact (Table.rows_nodup s.recipients).sublist (List.filter_sublist.map Prod.fst)
    · intro e he d hd
      have hmem := (List.mem_filter.1 (hperm.mem_iff.1 he)).2
      rw [DeliveryState.hasInitial_iff.2 ⟨d, hd⟩] at hmem
      simp at hmem
    · intro r row hrow
      by_cases hinitial : s.hasInitial r = true
      · exact .inr (DeliveryState.hasInitial_iff.1 hinitial)
      · left
        refine hperm.mem_iff.2 (List.mem_filter.2 ⟨Table.mem_rows.2 hrow, ?_⟩)
        simpa using hinitial
  have hruns : (materializeDeliveryBatch batchSize none ids).Runs (fun _ s' _ => Batch s ids [] s') s [] := by
    simp only [materializeDeliveryBatch, runs_bind, runs_query, lockRecipients_runs, htake, runs_done]
    refine runs_forEach (fun rest s' _ => Batch s ids rest s') ?_ _ s [] hstart
    intro e rest s' q h
    exact insert_runs (h.unused e List.mem_cons_self) (h.without e List.mem_cons_self) (h.insert hids s.now)
  obtain ⟨n, s', hexec, hbatch⟩ := (exec_iff _).2 hruns
  refine ⟨n, s', hexec, fun r row hrow => ?_⟩
  rcases hbatch.made r row hrow with hnil | ⟨d, hd⟩
  · cases hnil
  · exact ⟨d, hd, fun d' hd' => hbatch.sound.initial r d' d hd' hd⟩

end Materializer

def DeliveryState.start (now : Time) (recipients : Table RecipientId Recipient) : DeliveryState :=
  ⟨now, recipients, .empty, [], []⟩

lemma start_sound (now : Time) (recipients : Table RecipientId Recipient) :
    (DeliveryState.start now recipients).Sound where
  rows _ _ h := nomatch h
  unborn _ _ := rfl
  initial := by
    rintro r d d' ⟨v, hv, -⟩
    cases hv

/-- Whatever workers, late answers, crashes and replays do. -/
theorem deliveries_sound {sender : Sender} {now : Time} {recipients : Table RecipientId Recipient}
    {c : Config DeliveryState DeliveryKey Error Worker}
    (h : Reach (webhooks sender) (.idle (.start now recipients)) c) : (∀ d v, c.shared.deliveries.get d = some v →
      (c.shared.attemptsOf d).map WebhookDeliveryAttempt.sequence = List.range' 1 v.attemptCount ∧
      v.attemptCount ≤ maxAttempts ∧
      (v.status.isDelivered = true ↔ ∃ a ∈ c.shared.attemptsOf d, a.result = .acknowledged) ∧
      (v.status.terminal = true → ∀ c', Reach (webhooks sender) c c' → SameDelivery d c.shared c'.shared)) ∧
    (∀ token, (c.shared.attempts.filter fun a => a.leaseToken = token).length ≤ 1) ∧
    ∀ r row, c.shared.recipients.get r = some row → (∀ d d', c.shared.Initial r d → c.shared.Initial r d' → d = d') ∧
      (∀ d, c.shared.Initial r d → ∀ c', Reach (webhooks sender) c c' → c'.shared.Initial r d) ∧
      ∀ (batchSize : ℕ) (ids : RecipientId → DeliveryId), c.shared.recipients.rows.length ≤ batchSize →
        Function.Injective ids → (∀ r, c.shared.deliveries.get (ids r) = none) →
        ∃ n s', (materializeDeliveryBatch batchSize none ids).exec c.shared = .ok (n, s') ∧
          ∃! d, s'.Initial r d := by
  have hstart := start_sound now recipients
  have hatomic : AReach leases (webhooks sender) _ _ := Reach.atomic webhooks_disciplined hstart h
  have hs : c.shared.Sound := hatomic.invariant webhooks_disciplined hstart
  have hlater : ∀ c', Reach (webhooks sender) c c' → Evolves c.shared c'.shared := fun c' hc' =>
    (Reach.atomic_from webhooks_disciplined hstart h hc').evolves webhooks_disciplined hs
  have honce : tokens.Once (c.shared, c.locs) := by
    refine Permits.Once.reach webhooks_disciplined tokens_kept hatomic hstart fun token => ?_
    exact ⟨Nat.zero_le _, fun hpos => absurd hpos (Nat.lt_irrefl _)⟩
  refine ⟨?_, ?_, ?_⟩
  · intro d v hv
    have hrow := hs.rows d v hv
    exact ⟨hrow.numbered, hrow.bounded, hrow.delivered, fun hend c' hc' => (hlater c' hc').ended d v hv hend⟩
  · intro token
    have hle := (honce token).1
    have hspent : tokens.spent c.shared token = c.shared.used token + c.shared.inUse token := rfl
    have hused : c.shared.used token = (c.shared.attempts.filter fun a => a.leaseToken = token).length :=
      List.countP_eq_length_filter
    dsimp only at hle
    omega
  · intro r row hrow
    refine ⟨hs.initial r, fun d hd c' hc' => (hlater c' hc').initial r d hd, ?_⟩
    intro batchSize ids hsize hids hfresh
    obtain ⟨n, s', hexec, hone⟩ := materialize_runs hs hsize hids hfresh
    exact ⟨n, s', hexec, hone r row hrow⟩

inductive Call where
  | draw (token : Token)
  | unreadable
  | answer (status : Option ℕ)

inductive Happening where
  | tick (n : ℕ)
  | recipient (r : RecipientId) (row : Recipient)

def actOf : Call → Worker → DeliveryState → Option (Worker × DeliveryState)
  | .draw token, .claiming which rounds, s =>
    if token ∈ s.drawn then none
    else some (.claimingWith which rounds token, { s with drawn := token :: s.drawn })
  | .unreadable, .loaded which rounds claim request, s =>
    if request.secret.isNone then some (.recording which rounds claim request (unreadable s.now), s) else none
  | .answer status, .loaded which rounds claim request, s =>
    if request.secret.isNone then none
    else some (.recording which rounds claim request (answered s.now status), s)
  | _, _, _ => none

lemma actOf_sound {x : Call} {l l' : Worker} {s s' : DeliveryState} (h : actOf x l s = some (l', s')) :
    Act l s l' s' := by
  unfold actOf at h
  split at h
  · split at h
    · cases h
    · next hfresh =>
      cases h
      exact .draw hfresh
  · split at h
    · next hnone =>
      cases h
      exact .unreadable (Option.isNone_iff_eq_none.1 hnone)
    · cases h
  · split at h
    · cases h
    · next hsome =>
      cases h
      exact .send _ fun hnone => hsome (Option.isNone_iff_eq_none.2 hnone)
  · cases h

def player (sender : Sender) : Player (webhooks sender) Call Happening where
  spawn
    | .claiming _ _ => true
    | .materializing _ _ _ => true
    | .replaying _ _ _ => true
    | _ => false
  act := actOf
  env
    | .tick n, s => some { s with now := s.now + n }
    | .recipient r row, s =>
      if (s.recipients.get r).isNone then some { s with recipients := s.recipients.put r row } else none
  spawn_sound := by
    intro l h
    cases l with
    | claiming which rounds => trivial
    | materializing batchSize organisation ids => trivial
    | replaying organisation d newId => trivial
    | claimingWith which rounds token => cases h
    | claimed which rounds claim => cases h
    | loaded which rounds claim request => cases h
    | recording which rounds claim request report => cases h
    | finished => cases h
  act_sound := actOf_sound
  env_sound := by
    intro x s s' h
    cases x with
    | tick n =>
      cases h
      exact .tick (Nat.le_add_right _ _)
    | recipient r row =>
      dsimp only at h
      split at h
      · next hnone =>
        cases h
        exact .recipient (Option.isNone_iff_eq_none.1 hnone)
      · cases h

def anyDelivery : ClaimFilter := ⟨none, none⟩

def lateAnswer : List (Move Worker Call Happening) :=
  [.env (.recipient 1 ⟨1, 1, ⟨"evt_1", [], sha256 []⟩, ⟨"/hooks", []⟩⟩),
    .spawn (.materializing 50 none fun r => r), .run 0,
    .spawn (.claiming anyDelivery 0), .act 1 (.draw 7), .run 1, .run 1, .env (.tick 1),
    .spawn (.claiming anyDelivery 0), .act 2 (.draw 8), .run 2, .run 2, .act 2 (.answer (some 503)), .run 2,
    .act 1 (.answer (some 200)), .run 1,
    .spawn (.claiming anyDelivery 0), .act 3 (.draw 9), .run 3, .run 3, .act 3 (.answer (some 200)), .run 3,
    .spawn (.replaying 1 1 2), .run 4]

def plainSender : Sender := ⟨fun _ => some "secret", fun _ _ _ => 0, 0⟩

def summary (s : DeliveryState) : Option (Bool × ℕ × List Token × ℕ) :=
  (s.deliveries.get 1).map fun v =>
    (v.status.isDelivered, v.attemptCount, s.attempts.map WebhookDeliveryAttempt.leaseToken, s.deliveries.rows.length)

theorem deliveries_sound_late : ∃ c v, Reach (webhooks plainSender) (.idle (.start 0 .empty)) c ∧
    c.shared.deliveries.get 1 = some v ∧ v.status.isDelivered = true ∧ v.attemptCount = 2 ∧
    (c.shared.attemptsOf 1).map WebhookDeliveryAttempt.sequence = List.range' 1 2 ∧
    c.shared.attempts.map WebhookDeliveryAttempt.leaseToken = [8, 9] ∧ c.shared.deliveries.rows.length = 2 := by
  have hresult : ((player plainSender).play lateAnswer (.start 0 .empty, [])).bind (fun x => summary x.1) =
      some (true, 2, [8, 9], 2) := by decide +kernel
  obtain ⟨hreach, hend⟩ := Player.final_result hresult
  obtain ⟨v, hv, hfound⟩ := Option.map_eq_some_iff.1 hend
  simp only [Prod.mk.injEq] at hfound
  obtain ⟨hdelivered, hcount, htokens, hrows⟩ := hfound
  have hnumbered := ((deliveries_sound hreach).1 1 v hv).1
  rw [hcount] at hnumbered
  exact ⟨_, v, hreach, hv, hdelivered, hcount, hnumbered, htokens, hrows⟩

end RelayPay.Webhooks
