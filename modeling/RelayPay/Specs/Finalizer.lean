import RelayPay.Specs.Payments

namespace RelayPay

open ReadCommitted Txn

variable {cfg : Service} {l : Local} {x y : Run}

lemma Follows.of_locks (hstate : y.state = x.state) (hqueue : y.queue = x.queue)
    (hheld : x.held ⊆ y.held) : Follows cfg l x y := by
  refine ⟨hheld, ?_, ?_⟩
  · rw [hqueue]
    exact fun _ hd => hd
  · rw [hstate]
    exact .refl

def lockedRun (x : Run) (o : OperationId) : Run :=
  ((x.hold (.payment o.payment)).hold (.operation o)).hold (.resource o)

lemma payment_mem_lockedRun (x : Run) (o : OperationId) : Key.payment o.payment ∈ (lockedRun x o).held := by
  simp [lockedRun]

lemma operation_mem_lockedRun (x : Run) (o : OperationId) : Key.operation o ∈ (lockedRun x o).held := by
  simp [lockedRun]

lemma follows_lockedRun (x : Run) (o : OperationId) : Follows cfg l x (lockedRun x o) :=
  .of_locks rfl rfl fun _ hk => List.mem_cons_of_mem _ (List.mem_cons_of_mem _ (List.mem_cons_of_mem _ hk))

lemma wp_lockedGraph {E : Error → Prop} (hE : ∀ e, e.illegalTransition = false → E e) (o : OperationId)
    {Q : PaymentIntent × ProviderOperation → Run → Prop}
    (h : ∀ a op, x.state.payments.get o.payment = some a → x.state.operations.get o = some op →
      a.hasResource o = true → Q (a, op) (lockedRun x o)) : (lockedGraph o).Wp locks E Q x := by
  simp only [lockedGraph, wp_bind, wp_query, wp_require, wp_acquire, wp_ensure, wp_done]
  refine fun v₁ _ => ⟨fun _ _ v₂ hv₂ => ⟨fun a ha v₃ hv₃ => ⟨fun op hop => ?_, fun _ => hE _ rfl⟩,
    fun _ => hE _ rfl⟩, fun _ => hE _ rfl⟩
  have hpay := view_payment (List.mem_cons_self ..) hv₂
  have hrow := view_operation (List.mem_cons_self ..) hv₃
  exact ⟨fun hres => h a op (hpay.symm.trans ha) (hrow.symm.trans hop) hres, fun _ => hE _ rfl⟩

def Resolved (x y : Run) (o : OperationId) (a : PaymentIntent) (v : Verdict) (actor : Actor) : Prop :=
  ∃ accounts a' posted, x.state.accounts ⊆ accounts ∧ x.held ⊆ y.held ∧ x.queue ⊆ y.queue ∧
    a.Resolves y.held (checked y.queue) { x.state with accounts := accounts } actor v o a' posted ∧
    y.state = (posted.foldl World.post { x.state with accounts := accounts }).putPayment o.payment a'

def PaymentIntent.Refuses (a : PaymentIntent) (v : Verdict) (o : OperationId) : Prop :=
  ∃ target, a.requested v o = some target ∧ isAllowed a.status target = false

@[simp] lemma World.putPayment_putPayment (w : World) (p : PaymentId) (a a' : PaymentIntent) :
    (w.putPayment p a).putPayment p a' = w.putPayment p a' := by
  simp [World.putPayment]

section Resource

variable {E : Error → Prop} (hE : ∀ e, e.illegalTransition = false → E e) {p : PaymentId}
variable {a : PaymentIntent} {v : Verdict} {actor : Actor}
include hE

omit hE in
lemma wp_finalizeAuthorization {z : Authorization} (hz : a.authorization = some z)
    (hillegal : a.Refuses v (.authorize p) → ∀ e, E e) : (finalizeAuthorization p a z v actor).Wp locks E
      (fun _ y => Resolved x y (.authorize p) a v actor) x := by
  simp only [finalizeAuthorization, wp_bind, wp_modify]
  refine ⟨respects_putPayment _ _, wp_transition (by simp) (fun hal => ?_) fun hal => ?_⟩
  · exact hillegal ⟨_, rfl, hal⟩
  · exact ⟨_, _, [], fun _ h => h, List.subset_cons_self _ _, fun _ h => h, .authorize hz rfl hal,
      World.putPayment_putPayment ..⟩

lemma wp_finalizeCapture {z : Capture} (hp : .payment p ∈ x.held) (ha : x.state.payments.get p = some a)
    (hz : a.capture = some z) (hillegal : a.Refuses v (.capture p) → ∀ e, E e) :
    (finalizeCapture p a z v actor).Wp locks E (fun _ y => Resolved x y (.capture p) a v actor) x := by
  rw [finalizeCapture]
  cases hv : v.succeeded with
  | true =>
    simp only [if_true, wp_bind, wp_done, wp_modify]
    refine wp_postCaptureJournal hE z hp ha fun accounts j hsub hj hposts hfee hgst hnet hne => ?_
    refine ⟨respects_putPayment _ _, wp_transition (by simp) (fun hal => ?_) fun hal => ?_⟩
    · exact hillegal ⟨.captured, by simp [PaymentIntent.requested, hv], hal⟩
    · refine ⟨accounts, _, _, hsub, ?_, List.subset_append_left _ _, .captured hv hz hj
        (hposts.mono (List.subset_cons_self _ _)) hfee hgst hnet hne hal, ?_⟩
      · exact fun k hk => List.mem_cons_of_mem _ (List.mem_cons_of_mem _ hk)
      · exact World.putPayment_putPayment ..
  | false =>
    simp only [Bool.false_eq_true, if_false, wp_bind, wp_done, wp_modify]
    refine ⟨respects_putPayment _ _, wp_transition (by simp) (fun hal => ?_) fun hal => ?_⟩
    · exact hillegal ⟨.failed, by simp [PaymentIntent.requested, hv], hal⟩
    · exact ⟨_, _, [], fun _ h => h, List.subset_cons_self _ _, fun _ h => h,
        .captureDeclined hv hz hal, World.putPayment_putPayment ..⟩

omit hE in
lemma wp_finalizeVoid {z : Void} (hz : a.void = some z) (hillegal : a.Refuses v (.void p) → ∀ e, E e) :
    (finalizeVoid p a z v actor).Wp locks E (fun _ y => Resolved x y (.void p) a v actor) x := by
  simp only [finalizeVoid, wp_bind, wp_modify]
  refine ⟨respects_putPayment _ _, ?_⟩
  cases hv : v.succeeded with
  | true =>
    rw [if_pos rfl]
    refine wp_transition (by simp) (fun hal => ?_) fun hal => ?_
    · exact hillegal ⟨.cancelled, by simp [PaymentIntent.requested, hv], hal⟩
    · exact ⟨_, _, [], fun _ h => h, List.subset_cons_self _ _, fun _ h => h, .voided hv hz hal,
        World.putPayment_putPayment ..⟩
  | false =>
    exact ⟨_, _, [], fun _ h => h, fun _ h => h, fun _ h => h, .voidDeclined hv hz, rfl⟩

omit hE in
lemma wp_refundTargetStatus {b : PaymentIntent} (hp : .payment p ∈ x.held)
    (hb : x.state.payments.get p = some b) {Q : PaymentStatus → Run → Prop} (h : Q b.refundTarget x) :
    (refundTargetStatus p).Wp locks E Q x := by
  simp only [refundTargetStatus, wp_bind, wp_query, wp_done]
  intro v₁ hv₁ v₂ hv₂
  rw [view_payment hp hv₁, view_payment hp hv₂, hb]
  exact h

omit hE in
lemma mem_checked_refund {m : MerchantId} {amount : ℤ} {s : RefundSources} {id : JournalId}
    {o : Option OperationId} (h : s.available ≠ 0) :
    m ∈ checked (afterPosting x ⟨id, m, o, refundEntries m amount s⟩).queue := by
  refine List.mem_filterMap.2 ⟨.posting ⟨.availablePayable, some m⟩ .debit, ?_, rfl⟩
  simp [afterPosting, refundEntries, entry, h]

lemma wp_finalizeRefund {r : RefundId} {z : Refund} (hp : .payment p ∈ x.held)
    (ha : x.state.payments.get p = some a) (hz : a.refunds.get r = some z)
    (hillegal : a.Refuses v (.refund p r) → ∀ e, E e) : (finalizeRefund p r a z v actor).Wp locks E
      (fun _ y => Resolved x y (.refund p r) a v actor) x := by
  rw [finalizeRefund]
  cases hv : v.succeeded with
  | true =>
    simp only [if_true, wp_bind, wp_done, wp_modify]
    refine wp_postRefundJournal hE _ hp ha fun s c j hc hs hj hposts => ?_
    refine ⟨respects_putPayment _ _, wp_refundTargetStatus ?_ (Table.get_put_self _ _ _) ?_⟩
    · exact List.mem_cons_of_mem _ (List.mem_cons_of_mem _ hp)
    · refine wp_transition (by simp) (fun hal => ?_) fun hal => ?_
      · exact hillegal ⟨_, by simp only [PaymentIntent.requested, hv, hz]; rfl, hal⟩
      · refine ⟨_, _, _, fun _ h => h, ?_, List.subset_append_left _ _, .refunded hv hz hc hs ?_ ?_ hj
          (hposts.mono (List.subset_cons_self _ _)) rfl rfl hal, ?_⟩
        · exact fun k hk => List.mem_cons_of_mem _ (List.mem_cons_of_mem _ (List.mem_cons_of_mem _ hk))
        · simp [afterPosting]
        · intro hne
          rw [hj]
          exact mem_checked_refund hne
        · exact World.putPayment_putPayment ..
  | false =>
    simp only [Bool.false_eq_true, if_false, wp_bind, wp_done, wp_modify]
    exact ⟨respects_putPayment _ _, _, _, [], fun _ h => h, fun _ h => h, fun _ h => h, .refundDeclined hv hz, rfl⟩

lemma wp_finalizeResource {o : OperationId} (hp : .payment o.payment ∈ x.held)
    (ha : x.state.payments.get o.payment = some a) (hillegal : a.Refuses v o → ∀ e, E e) :
    (finalizeResource o a v actor).Wp locks E (fun _ y => Resolved x y o a v actor) x := by
  cases o with
  | authorize p =>
    simp only [finalizeResource, wp_bind, wp_require]
    exact ⟨fun z hz => wp_finalizeAuthorization hz hillegal, fun _ => hE _ rfl⟩
  | capture p =>
    simp only [finalizeResource, wp_bind, wp_require]
    exact ⟨fun z hz => wp_finalizeCapture hE hp ha hz hillegal, fun _ => hE _ rfl⟩
  | void p =>
    simp only [finalizeResource, wp_bind, wp_require]
    exact ⟨fun z hz => wp_finalizeVoid hz hillegal, fun _ => hE _ rfl⟩
  | refund p r =>
    simp only [finalizeResource, wp_bind, wp_require]
    exact ⟨fun z hz => wp_finalizeRefund hE hp ha hz hillegal, fun _ => hE _ rfl⟩

end Resource

lemma verdictOf_now {op : ProviderOperation} {evidence : ℕ} {now : Time} {c : Classification}
    {v : Verdict} (h : verdictOf op evidence now = .ok (c, v)) : v.now = now := by
  simp only [verdictOf] at h
  split at h
  · cases h
  · split at h
    · cases h
    · split at h
      · cases h
      · split_ifs at h <;> cases h <;> rfl

lemma verdictOf_legal {op : ProviderOperation} {evidence : ℕ} {now : Time} {e : Error}
    (h : verdictOf op evidence now = .error e) : e.illegalTransition = false := by
  simp only [verdictOf] at h
  split at h
  · cases h
    rfl
  · split at h
    · cases h
      rfl
    · split at h
      · cases h
        rfl
      · split_ifs at h <;> cases h <;> rfl

def World.Refuses (w : World) (o : OperationId) : Prop :=
  ∃ a op v, w.payments.get o.payment = some a ∧ w.operations.get o = some op ∧
    op.status.terminal = false ∧ a.Refuses v o

lemma wp_appendRecipients {E : Error → Prop} (hE : ∀ e, e.illegalTransition = false → E e)
    (o : OperationId) (v : Verdict) {Q : Unit → Run → Prop}
    (h : ∀ rs, Q () (x.apply fun w => w.addRecipients rs)) : (appendRecipients o v).Wp locks E Q x := by
  have hnone : Q () x := by simpa [World.addRecipients, Running.apply] using h []
  rw [appendRecipients]
  cases o.eventType with
  | none => exact hnone
  | some eventType =>
    simp only [wp_ite, wp_bind, wp_query, wp_ensure, wp_modify, wp_done]
    refine ⟨fun _ v₁ _ v₂ _ => ⟨fun _ => ⟨respects_addRecipients _, h _⟩, fun _ => hE _ rfl⟩, fun _ => hnone⟩

lemma wp_finalizeVerifiedAttempt (o : OperationId) (evidence : ℕ) (actor : Actor) :
    (finalizeVerifiedAttempt o evidence actor).Wp locks
      (fun e => e.illegalTransition = true → x.state.Refuses o) (fun _ y => Follows cfg l x y) x := by
  have hE : ∀ e : Error, e.illegalTransition = false → e.illegalTransition = true → x.state.Refuses o :=
    fun e hf ht => absurd ht (by simp [hf])
  simp only [finalizeVerifiedAttempt, wp_bind]
  refine wp_lockedGraph hE o fun a op ha hop hres => ?_
  rw [wp_ite]
  refine ⟨fun _ => ?_, fun hopen => ?_⟩
  · rw [wp_ensure]
    exact ⟨fun _ => follows_lockedRun x o, fun _ => hE _ rfl⟩
  · simp only [wp_bind, wp_query]
    intro w₀ hw₀
    cases hverdict : verdictOf op evidence w₀.now with
    | error e => exact hE e (verdictOf_legal hverdict)
    | ok cv =>
      obtain ⟨c, v⟩ := cv
      have hnow := verdictOf_now hverdict
      have hevolves : Evolves w₀ x.state := hw₀.1
      have hopen' : op.status.terminal = false := by simpa using hopen
      simp only [wp_bind, wp_require, wp_ensure]
      refine ⟨fun amount hamount => ?_, fun _ => hE _ rfl⟩
      have hrefused : a.Refuses v o → ∀ e : Error, e.illegalTransition = true → x.state.Refuses o :=
        fun hrefuses _ _ => ⟨a, op, v, ha, hop, hopen', hrefuses⟩
      refine (wp_finalizeResource hE (payment_mem_lockedRun x o) ha hrefused).imp fun _ y hy =>
        ⟨fun hevents => wp_appendRecipients hE _ _ fun rs => ?_, fun _ => hE _ rfl⟩
      rw [wp_modify]
      refine ⟨?_, ?_⟩
      · exact (respects_updateRecords fun _ => finalizeRecord_sameBinding _ _ _).comp
          (respects_putOperation _ _)
      · obtain ⟨accounts, a', posted, hsub, hheld, hqueue, hresolves, hstate⟩ := hy
        refine (follows_lockedRun x o).trans ⟨hheld, hqueue, ?_⟩
        rw [← hnow] at hverdict
        have hfinal : Change cfg l y.held (checked y.queue) { (lockedRun x o).state with accounts := accounts }
            ((((posted.foldl World.post _).putPayment o.payment a').putOperation o
              (op.finalized o v amount evidence c actor)).updateRecords
                fun _ => finalizeRecord o (terminalResponse o amount v) v.now) :=
          .finalized (hheld (payment_mem_lockedRun x o)) (hheld (operation_mem_lockedRun x o)) ha
            hamount hop hopen' hverdict (hnow ▸ hevolves.now) hresolves hevents
        have hposted : Changes cfg l y.held (checked y.queue) x.state _ :=
          .tail (.single (.accounts hsub)) hfinal
        rw [Running.apply_state, Running.apply_state, hstate, ← hnow]
        exact hposted.tail (.recipients : Change cfg l _ _ _ (World.addRecipients _ rs))

lemma wp_markOperationForReview {o : OperationId} {reason : String} (hl : l.reviews = some (o, reason))
    (evidence : Option ℕ) (actor : Actor) : (markOperationForReview o reason evidence actor).Wp locks (fun _ => True)
      (fun _ y => Follows cfg l x y) x := by
  simp only [markOperationForReview, wp_bind]
  refine wp_lockedGraph (fun _ _ => trivial) o fun a op ha hop hres => ?_
  rw [wp_ite]
  refine ⟨fun _ => follows_lockedRun x o, fun hopen => ?_⟩
  rw [wp_modify]
  refine ⟨(respects_putPayment _ _).comp (respects_putOperation _ _), ?_⟩
  exact (follows_lockedRun x o).step (.reviewed (payment_mem_lockedRun x o)
    (operation_mem_lockedRun x o) ha hres hop (by simpa using hopen) hl)

lemma wp_recordApplyFailure {o : OperationId} (hl : l.reviews = some (o, "APPLY_FAILURE")) (evidence : ℕ) :
    (recordApplyFailure o evidence).Wp locks (fun _ => True) (fun _ y => Follows cfg l x y) x := by
  simp only [recordApplyFailure, wp_bind]
  refine wp_lockedGraph (fun _ _ => trivial) o fun a op ha hop hres => ?_
  rw [wp_ite]
  refine ⟨fun _ => follows_lockedRun x o, fun hopen => ?_⟩
  have hopen' : op.status.terminal = false := by simpa using hopen
  rw [wp_ite]
  refine ⟨fun _ => ?_, fun _ => ?_⟩
  · rw [wp_bind, wp_modify]
    refine ⟨(respects_putPayment _ _).comp (respects_putOperation _ _), ?_⟩
    exact (follows_lockedRun x o).step (.reviewed (payment_mem_lockedRun x o)
      (operation_mem_lockedRun x o) ha hres hop hopen' hl)
  · rw [wp_bind, wp_modify]
    refine ⟨respects_putOperation _ _, ?_⟩
    exact (follows_lockedRun x o).step (.noted (operation_mem_lockedRun x o) hop (.applyFailed hopen'))

end RelayPay
