import RelayPay.Specs.Settlement

namespace RelayPay

open ReadCommitted Txn

variable {cfg : Service} {l : Local} {x y : Run}

lemma wp_transition {E : Error → Prop} {p : PaymentId} {a : PaymentIntent}
    {target : PaymentStatus} {reason : StatusReason} {actor : Actor}
    (ha : y.state.payments.get p = some a) (hillegal : isAllowed a.status target = false → ∀ e, E e)
    {Q : Unit → Run → Prop} (h : isAllowed a.status target = true →
      Q () ((y.hold (.payment p)).apply fun w => w.putPayment p (a.moved target reason actor))) :
    (transition p a target reason actor).Wp locks E Q y := by
  simp only [transition, wp_bind, wp_acquire, wp_query, wp_require, wp_ensure, wp_modify]
  intro v hv
  have hrow : v.payments.get p = some a := (view_payment (List.mem_cons_self ..) hv).trans ha
  rw [hrow]
  refine ⟨?_, fun hnone => by cases hnone⟩
  rintro current ⟨⟩
  refine ⟨fun _ => ⟨fun hal => ⟨respects_putPayment _ _, h hal⟩, fun hal => ?_⟩, fun hstale => absurd ⟨rfl, rfl⟩ hstale⟩
  exact hillegal (by simpa using hal) _

variable {Q : Reply → Run → Prop}

lemma wp_operationEnvelope (o : OperationId) (op : ProviderOperation)
    (h : ∀ r, Q r y) : (operationEnvelope o op).Wp locks (fun _ => True) Q y := by
  rw [operationEnvelope]
  split
  · split
    · exact h _
    · trivial
  · exact h _

lemma wp_terminalResult (r : IdempotencyRecord) (h : ∀ r, Q r y) : (terminalResult r).Wp locks (fun _ => True) Q y := by
  rw [terminalResult]
  split
  · exact h _
  · trivial

lemma wp_existingOperationResult (r : IdempotencyRecord) (fingerprint : Digest) (h : ∀ r, Q r y) :
    (existingOperationResult r fingerprint).Wp locks (fun _ => True) Q y := by
  simp only [existingOperationResult, validateFingerprint, wp_bind, wp_ensure]
  refine ⟨fun _ => ?_, fun _ => trivial⟩
  split
  · exact wp_terminalResult r h
  · simp only [wp_bind, wp_require, wp_query, wp_ensure]
    exact ⟨fun o _ v _ => ⟨fun op _ v' _ => ⟨fun _ => wp_operationEnvelope o op h, fun _ => trivial⟩,
      fun _ => trivial⟩, fun _ => trivial⟩

lemma wp_attachKey {o : OperationId} {op : ProviderOperation} (d : KeyDigest) (fingerprint : Digest)
    (hy : Follows cfg l x y) (hop : y.state.operations.get o = some op) :
    (attachKey o op d fingerprint).Wp locks (fun _ => True) (fun _ z => Follows cfg l x z) y := by
  simp only [attachKey, wp_bind, wp_acquire, wp_query, wp_ensure, wp_modify]
  refine fun v hv => ⟨fun hnone => ⟨respects_putRecord _ _, ?_⟩, fun _ => trivial⟩
  have hfree : y.state.records.get d = none := view_record_none (List.mem_cons_self ..) hv hnone
  refine wp_operationEnvelope o op fun _ =>
    (hy.trans (.hold y _)).step (.record (List.mem_cons_self ..) hfree ?_)
  rintro o' ⟨⟩
  exact ⟨op, hop, rfl, fun hterminal => by simp [hterminal]⟩

lemma wp_attachExisting (o : OperationId) (k : KeyedRequest) (hy : Follows cfg l x y) :
    (attachExisting o k).Wp locks (fun _ => True) (fun _ z => Follows cfg l x z) y := by
  simp only [attachExisting, lockOperationThenResource, wp_bind, wp_acquire, wp_query, wp_require, wp_done]
  refine fun v hv => ⟨fun op hop => wp_attachKey _ _ ?_ ?_, fun _ => trivial⟩
  · exact (hy.trans (.hold y _)).trans (.hold _ _)
  · exact (view_operation (List.mem_cons_self ..) hv).symm.trans hop

lemma wp_openAndAttach {o : OperationId} {a a' : PaymentIntent} (k : KeyedRequest)
    (hy : Follows cfg l x y) (hp : .payment o.payment ∈ y.held)
    (ha : y.state.payments.get o.payment = some a) (hopens : a.Opens cfg o a') :
    (openAndAttach o.payment o a' k).Wp locks (fun _ => True) (fun _ z => Follows cfg l x z) y := by
  simp only [openAndAttach, openOperation, wp_bind, wp_acquire, wp_query, wp_ensure, wp_modify, wp_done]
  refine fun v hv => ⟨fun hnone v' hv' => ⟨?_, ?_⟩, fun _ => trivial⟩
  · exact (respects_putPayment _ _).comp (respects_putOperation _ _)
  · have hrow := view_operation (List.mem_cons_self ..) hv
    have hfree : y.state.operations.get o = none := hrow.symm.trans (Option.isNone_iff_eq_none.1 hnone)
    have hnow : Evolves v' y.state := hv'.1
    refine wp_attachKey _ _ ((hy.trans (.hold y (.operation o))).step (.opened
      (List.mem_cons_of_mem _ hp) (List.mem_cons_self ..) ha hfree hopens hnow.now)) ?_
    exact Table.get_put_self _ _ _

lemma wp_withKey (p : PaymentId) (k : KeyedRequest) {next : PaymentIntent → Tx Reply}
    (h : ∀ a y, Follows cfg l x y → .payment p ∈ y.held → y.state.payments.get p = some a →
      (next a).Wp locks (fun _ => True) (fun _ z => Follows cfg l x z) y) :
    (withKey p k next).Wp locks (fun _ => True) (fun _ z => Follows cfg l x z) x := by
  simp only [withKey, lockedPayment, wp_bind, wp_acquire, wp_query, wp_require]
  refine fun v hv => ⟨fun a ha v' _ => ?_, fun _ => trivial⟩
  rw [view_payment (List.mem_cons_self ..) hv] at ha
  cases v'.records.get k.keyDigest with
  | some r => exact wp_existingOperationResult r _ fun _ => .hold x _
  | none => exact h a _ (.hold x _) (List.mem_cons_self ..) ha

lemma wp_initiateAuthorization (p : PaymentId) (k : KeyedRequest) :
    (initiateAuthorization cfg p k).Wp locks (fun _ => True) (fun _ y => Follows cfg l x y) x := by
  simp only [initiateAuthorization, wp_bind, wp_ensure]
  refine ⟨fun _ => wp_withKey p k fun a y hy hp ha => ?_, fun _ => trivial⟩
  cases hauth : a.authorization with
  | some _ => exact wp_attachExisting _ k hy
  | none => exact wp_openAndAttach (o := .authorize p) k hy hp ha (.authorize hauth)

lemma computeCaptureFee_split {amount : ℤ} {terms : FeeScheduleTerms} {b : FeeBreakdown}
    (h : computeCaptureFee amount terms = .ok b) : b.net = amount - b.fee - b.gst := by
  simp only [computeCaptureFee] at h
  split_ifs at h
  · cases h
    rfl

lemma wp_captureFee (m : MerchantId) (amount : ℤ) {Q : CaptureFee → Run → Prop} (hpos : 0 < amount)
    (h : ∀ fee : CaptureFee, 0 ≤ fee.feeAmount → 0 ≤ fee.gstAmount →
      0 ≤ amount - fee.feeAmount - fee.gstAmount →
      ((fee.feeAmount = 0 ∧ fee.gstAmount = 0) ∨ ∃ terms, computeCaptureFee amount terms =
        .ok ⟨fee.feeAmount, fee.gstAmount, amount - fee.feeAmount - fee.gstAmount⟩) → Q fee y) :
    (captureFee m amount).Wp locks (fun _ => True) Q y := by
  simp only [captureFee, wp_bind, wp_query]
  intro v _
  cases v.activeFeeSchedule m with
  | none => exact h _ le_rfl le_rfl (by simp; omega) (.inl ⟨rfl, rfl⟩)
  | some schedule =>
    cases hfee : computeCaptureFee amount schedule.terms with
    | error e => simp [hfee]
    | ok b =>
      simp only [hfee, wp_bind, wp_ensure, wp_done]
      refine ⟨fun hsplit => ?_, fun _ => trivial⟩
      have hnet := computeCaptureFee_split hfee
      refine h _ ?_ ?_ ?_ (.inr ⟨schedule.terms, ?_⟩)
      · simp only
        omega
      · simp only
        omega
      · simp only
        omega
      · rw [hfee, ← hnet]

lemma wp_ensureCapturable (a : PaymentIntent) (auth : Authorization) {Q : Unit → Run → Prop}
    (h : openVoid a = none → a.status ≠ .cancelled → a.status ≠ .expired → a.status ≠ .failed →
      Q () y) : (ensureCapturable a auth).Wp locks (fun _ => True) Q y := by
  rw [ensureCapturable]
  cases hvoid : openVoid a with
  | some s => trivial
  | none =>
    simp only [wp_bind, wp_done, wp_ensure, wp_query]
    refine ⟨fun hstatus v _ => ?_, fun _ => trivial⟩
    have hQ := h hvoid hstatus.1 hstatus.2.1 hstatus.2.2
    split
    · simp only [wp_ensure]
      exact ⟨fun _ => hQ, fun _ => trivial⟩
    · exact hQ

lemma wp_initiateCapture (p : PaymentId) (amount : Option ℤ) (k : KeyedRequest) :
    (initiateCapture p amount k).Wp locks (fun _ => True) (fun _ y => Follows cfg l x y) x := by
  refine wp_withKey p k fun a y hy hp ha => ?_
  simp only [wp_bind, wp_require, wp_ensure]
  refine ⟨fun auth hauth => ⟨fun hamount => ?_, fun _ => trivial⟩, fun _ => trivial⟩
  cases hcap : a.capture with
  | some existing =>
    simp only [wp_bind, wp_ensure]
    exact ⟨fun _ => wp_attachExisting _ k hy, fun _ => trivial⟩
  | none =>
    rw [wp_bind]
    refine wp_ensureCapturable a auth fun hvoid hcancelled hexpired hfailed => ?_
    rw [wp_bind]
    refine wp_captureFee _ _ hamount.1 fun fee hfee hgst hnet hpriced => ?_
    exact wp_openAndAttach (o := .capture p) k hy hp ha (.capture hauth hcap hvoid hcancelled hexpired
      hfailed hamount.1 hamount.2 rfl rfl hfee hgst hnet hpriced)

lemma wp_initiateVoid (p : PaymentId) (k : KeyedRequest) :
    (initiateVoid p k).Wp locks (fun _ => True) (fun _ y => Follows cfg l x y) x := by
  refine wp_withKey p k fun a y hy hp ha => ?_
  cases hvoid : a.void with
  | some _ => exact wp_attachExisting _ k hy
  | none =>
    simp only [wp_bind, wp_require, wp_ensure]
    refine ⟨fun auth hauth => ⟨fun hopen => ?_, fun _ => trivial⟩, fun _ => trivial⟩
    exact wp_openAndAttach (o := .void p) k hy hp ha
      (.void hvoid hauth (Option.isNone_iff_eq_none.1 hopen.1) hopen.2)

lemma wp_initiateRefund (p : PaymentId) (r : RefundId) (amount : ℤ) (k : KeyedRequest) :
    (initiateRefund p r amount k).Wp locks (fun _ => True) (fun _ y => Follows cfg l x y) x := by
  refine wp_withKey p k fun a y hy hp ha => ?_
  simp only [wp_bind, wp_require, wp_ensure]
  refine ⟨fun c hc => ⟨fun hroom => ⟨fun hrow => ?_, fun _ => trivial⟩, fun _ => trivial⟩, fun _ => trivial⟩
  obtain ⟨hcap, hstatus⟩ := Option.filter_eq_some_iff.1 hc
  exact wp_openAndAttach (o := .refund p r) k hy hp ha (.refund hcap (by simpa using hstatus)
    (Option.isNone_iff_eq_none.1 hrow.2) hrow.1 (not_lt.1 hroom))

lemma wp_recoverOperationRace (k : KeyedRequest) :
    (recoverOperationRace k).Wp locks (fun _ => True) (fun _ y => Follows cfg l x y) x := by
  simp only [recoverOperationRace, wp_bind, wp_query]
  intro v _
  cases v.records.get k.keyDigest with
  | some r => exact wp_existingOperationResult r _ fun _ => .refl x
  | none => trivial

lemma wp_replayIntent (r : IdempotencyRecord) (fingerprint : Digest)
    (h : ∀ r, Q r y) : (replayIntent r fingerprint).Wp locks (fun _ => True) Q y := by
  simp only [replayIntent, validateFingerprint, wp_bind, wp_ensure]
  exact ⟨fun _ => wp_terminalResult r h, fun _ => trivial⟩

lemma wp_createPaymentIntent (c : CreateIntent) (k : KeyedRequest) :
    (createPaymentIntent c k).Wp locks (fun _ => True) (fun _ y => Follows cfg l x y) x := by
  simp only [createPaymentIntent, wp_bind, wp_query]
  intro v _
  cases v.records.get k.keyDigest with
  | some r => exact wp_replayIntent r _ fun _ => .refl x
  | none =>
    simp only [wp_bind, wp_query, wp_ensure]
    refine fun v₁ _ => ⟨fun _ => ?_, fun _ => trivial⟩
    refine wp_defaultMerchantAccountId c.freshMerchant fun m y (hy : Follows cfg l x y) hm => ?_
    refine ⟨fun hpos => ?_, fun _ => trivial⟩
    simp only [wp_acquire, wp_modify, wp_done]
    refine fun v₂ hv₂ => ⟨fun htaken => ⟨respects_putPayment _ _, fun v₃ hv₃ => ?_⟩, fun _ => trivial⟩
    refine ⟨fun hbound v₄ _ => ⟨respects_putRecord _ _, ?_⟩, fun _ => trivial⟩
    have hp : Key.payment c.id ∈ (((y.hold (.payment c.id)).hold (.referenceKey c.merchantReference)).held) :=
      List.mem_cons_of_mem _ (List.mem_cons_self ..)
    have hfree : y.state.payments.get c.id = none := by
      have hrow := view_payment hp hv₂
      simp only [Bool.or_eq_false_iff, Option.isSome_eq_false_iff, Option.isNone_iff_eq_none] at htaken
      exact hrow.symm.trans htaken.1
    have hlocked : Follows cfg l x ((y.hold (.payment c.id)).hold (.referenceKey c.merchantReference)) :=
      (hy.trans (.hold y _)).trans (.hold _ _)
    have hunbound := view_record_none (List.mem_cons_self ..) hv₃ hbound
    exact ((hlocked.step (.intent hp hfree hpos hm)).trans (.hold _ _)).step
      (.record (List.mem_cons_self ..) hunbound (by simp))

lemma wp_recoverIntentRace (c : CreateIntent) (k : KeyedRequest) :
    (recoverIntentRace c k).Wp locks (fun _ => True) (fun _ y => Follows cfg l x y) x := by
  simp only [recoverIntentRace, wp_bind, wp_query]
  intro v _
  cases v.records.get k.keyDigest with
  | some r => exact wp_replayIntent r _ fun _ => .refl x
  | none =>
    simp only [wp_bind, wp_query, wp_ensure, wp_raise]
    exact fun v₁ _ => ⟨fun _ => trivial, fun _ => trivial⟩

lemma wp_expireOne {expired : ℕ} {p : PaymentId} (hy : Follows cfg l x y) (hp : .payment p ∈ y.held) :
    (expireOne expired p).Wp locks (fun _ => True) (fun _ z => Follows cfg l x z ∧ y.held ⊆ z.held) y := by
  simp only [expireOne, wp_bind, wp_query, wp_require]
  intro v hv
  rw [view_payment hp hv]
  refine ⟨fun a ha v₁ hv₁ => ?_, fun _ => trivial⟩
  rw [view_payment hp hv₁, ha, wp_ite]
  refine ⟨fun _ => ⟨hy, fun _ hk => hk⟩, fun hfree => ?_⟩
  rw [wp_bind]
  refine wp_transition ha (fun _ _ => trivial) fun hal => ?_
  refine ⟨(hy.trans (.hold y _)).step (.expired (List.mem_cons_self ..) ha hal ?_), List.subset_cons_self _ _⟩
  simpa using hfree

lemma wp_expireAuthorizations (batchSize : ℕ) :
    (expireAuthorizations batchSize).Wp locks (fun _ => True) (fun _ y => Follows cfg l x y) x := by
  simp only [expireAuthorizations, wp_bind, wp_query]
  intro v₁ _ v₂ _
  refine wp_skipLocked _ _ _ _ fun taken y _ hstate hqueue hheld hkeys _ => ?_
  have hfollows : Follows cfg l x y := by
    refine ⟨hheld, ?_, ?_⟩
    · rw [hqueue]
      exact fun _ hd => hd
    · rw [hstate]
      exact .refl
  -- the locks of the payments still to come stay held through the loop
  refine (wp_foldOver (fun _ rest z => Follows cfg l x z ∧ ∀ p ∈ rest, Key.payment p ∈ z.held) ?_
    taken 0 y ⟨hfollows, hkeys⟩).imp fun _ z hz => hz.1
  rintro n p rest z ⟨hz, hlocked⟩
  refine (wp_expireOne hz (hlocked p (List.mem_cons_self ..))).imp ?_
  rintro n' z' ⟨hz', hsub⟩
  exact ⟨hz', fun p' hp' => hsub (hlocked p' (List.mem_cons_of_mem _ hp'))⟩

end RelayPay
