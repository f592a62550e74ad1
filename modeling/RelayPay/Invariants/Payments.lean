import Mathlib.Data.List.Chain
import RelayPay.Scenario

/-! The status of a payment follows from its children, and its amounts stay within one another. -/

namespace RelayPay

open ReadCommitted Txn

def StatusRow.Precedes (r r' : StatusRow) : Prop :=
  r'.fromStatus = some r.toStatus ∧ isAllowed r.toStatus r'.toStatus = true ∧
    r'.statusVersion = r.statusVersion + 1

namespace PaymentIntent

structure Walked (a : PaymentIntent) : Prop where
  start : ∃ actor, a.history.head? = some ⟨none, .created, .paymentCreated, actor, 0⟩
  chain : a.history.IsChain StatusRow.Precedes
  length : a.history.length = a.statusVersion + 1
  last : ∃ r, a.history.getLast? = some r ∧ r.toStatus = a.status ∧ r.statusVersion = a.statusVersion

lemma create_walked (customer : ℕ) (m : MerchantId) (reference : String) (amount : ℤ) (actor : Actor) :
    (create customer m reference amount actor).Walked :=
  ⟨⟨actor, rfl⟩, .singleton _, rfl, _, rfl, rfl, rfl⟩

variable {target : PaymentStatus}

lemma Walked.moved {a : PaymentIntent} (h : a.Walked)
    (hallowed : isAllowed a.status target = true) (reason : StatusReason) (actor : Actor) :
    (a.moved target reason actor).Walked := by
  obtain ⟨r, hlast, hstatus, hversion⟩ := h.last
  obtain ⟨first, hstart⟩ := h.start
  refine ⟨⟨first, ?_⟩, ?_, ?_, ⟨_, List.getLast?_concat, rfl, rfl⟩⟩
  · simp [PaymentIntent.moved, hstart]
  · refine List.isChain_append.2 ⟨h.chain, .singleton _, ?_⟩
    intro x hx y hy
    rw [hlast] at hx
    cases hx
    cases hy
    exact ⟨congrArg some hstatus.symm, hstatus ▸ hallowed, congrArg (· + 1) hversion.symm⟩
  · simp [PaymentIntent.moved, h.length]

variable {a : PaymentIntent}

def backfillStatus (a : PaymentIntent) : PaymentStatus :=
  let auth := a.authorization.map Authorization.status
  let capture := a.capture.map Capture.status
  if capture = some .succeeded ∧ 0 < a.refunded ∧ a.capture.map Capture.amount = some a.refunded then
    .refunded
  else if capture = some .succeeded ∧ 0 < a.refunded then .partiallyRefunded
  else if capture = some .succeeded then .captured
  else if auth = some .failed ∨ capture = some .failed then .failed
  else if auth = some .succeeded then .authorised
  else .created

def expiryApplied (a : PaymentIntent) : Bool :=
  a.history.any fun r => r.reason = .authorizationExpired

def derivedStatus (a : PaymentIntent) : PaymentStatus :=
  if a.expiryApplied then .expired
  else if a.void.map Void.status = some .succeeded then .cancelled
  else a.backfillStatus

def allowedPaymentStatuses (a : PaymentIntent) : List PaymentStatus :=
  let captured := ((a.capture.filter fun c => c.status = .succeeded).map Capture.amount).getD 0
  if 0 < a.refunded then if captured ≤ a.refunded then [.refunded] else [.partiallyRefunded]
  else if 0 < captured then [.captured]
  else match a.authorization.map Authorization.status with
    | some .succeeded => [.authorised, .failed, .expired, .cancelled]
    | some .failed => [.failed]
    | _ => [.created, .requiresAction, .failed, .expired, .cancelled]

@[simp] lemma expiryApplied_moved (target : PaymentStatus) (reason : StatusReason) (actor : Actor) :
    (a.moved target reason actor).expiryApplied = (a.expiryApplied || decide (reason = .authorizationExpired)) := by
  simp [expiryApplied, PaymentIntent.moved]

@[simp] lemma backfillStatus_moved (target : PaymentStatus) (reason : StatusReason) (actor : Actor) :
    (a.moved target reason actor).backfillStatus = a.backfillStatus := rfl

lemma derivedStatus_of_refunds {refunds : Table RefundId Refund}
    (h : (refunds.total fun _ r => if r.status = .succeeded then r.amount else 0) = a.refunded) :
    { a with refunds := refunds }.derivedStatus = a.derivedStatus := by
  have hrefunded : { a with refunds := refunds }.refunded = a.refunded := h
  rw [derivedStatus, derivedStatus, backfillStatus, backfillStatus, hrefunded]
  rfl

section Derived

variable (hexpired : a.expiryApplied = false) (hvoid : a.void.map Void.status ≠ some .succeeded)

include hexpired hvoid

lemma derivedStatus_created (hc : a.capture = none) (hs : a.authorization.map Authorization.status ≠ some .succeeded)
    (hf : a.authorization.map Authorization.status ≠ some .failed) : a.derivedStatus = .created := by
  simp [derivedStatus, backfillStatus, hexpired, hvoid, hc, hs, hf]

lemma derivedStatus_authorised (hauth : a.authorization.map Authorization.status = some .succeeded)
    (hs : a.capture.map Capture.status ≠ some .succeeded)
    (hf : a.capture.map Capture.status ≠ some .failed) : a.derivedStatus = .authorised := by
  simp [derivedStatus, backfillStatus, hexpired, hvoid, hauth, hs, hf]

lemma derivedStatus_failed (hs : a.capture.map Capture.status ≠ some .succeeded)
    (hf : a.authorization.map Authorization.status = some .failed ∨
      a.capture.map Capture.status = some .failed) : a.derivedStatus = .failed := by
  simp only [derivedStatus, backfillStatus, hexpired, hvoid, hs, hf]
  simp

lemma derivedStatus_captured {c : Capture} (hc : a.capture = some c) (hs : c.status = .succeeded) :
    a.derivedStatus = if 0 < a.refunded then
      if c.amount = a.refunded then .refunded else .partiallyRefunded else .captured := by
  by_cases hpos : 0 < a.refunded <;> by_cases heq : c.amount = a.refunded <;>
    simp [derivedStatus, backfillStatus, hexpired, hvoid, hc, hs, hpos, heq]

end Derived

structure Shaped (a : PaymentIntent) : Prop where
  amount_pos : 0 < a.amount
  authorization : ∀ x, a.authorization = some x → x.amount = a.amount
  capture : ∀ c, a.capture = some c → 0 < c.amount ∧ c.amount ≤ a.amount ∧
    a.authorization.map Authorization.status = some .succeeded ∧ openVoid a = none ∧
    a.expiryApplied = false ∧ a.refundReserved ≤ c.amount
  void : ∀ v, a.void = some v → a.authorization.map Authorization.status = some .succeeded
  expired : a.expiryApplied = true →
    a.authorization.map Authorization.status = some .succeeded ∧ openVoid a = none
  refund : ∀ r x, a.refunds.get r = some x →
    0 < x.amount ∧ a.capture.map Capture.status = some .succeeded

lemma openVoid_eq_none : openVoid a = none ↔ ∀ v, a.void = some v → v.status = .failed := by
  cases h : a.void <;> simp [openVoid, h]

lemma refunded_le_refundReserved (h : a.Shaped) : a.refunded ≤ a.refundReserved := by
  apply Table.total_mono
  intro r x hx
  have hpos := (h.refund r x hx).1
  cases hs : x.status <;> simp <;> omega

lemma refunded_nonneg (h : a.Shaped) : 0 ≤ a.refunded := by
  apply Table.total_nonneg
  intro r x hx
  have hpos := (h.refund r x hx).1
  split <;> omega

namespace Shaped

lemma no_refund (h : a.Shaped) (hc : a.capture.map Capture.status ≠ some .succeeded) (r : RefundId) :
    a.refunds.get r = none := by
  cases hx : a.refunds.get r with
  | none => rfl
  | some x => exact absurd (h.refund r x hx).2 hc

lemma refunds_zero (h : a.Shaped) (hc : a.capture.map Capture.status ≠ some .succeeded)
    (f : RefundId → Refund → ℤ) : a.refunds.total f = 0 := by
  have hnone := h.no_refund hc
  have heq : a.refunds.total f = a.refunds.total fun _ _ => 0 := by
    apply Table.total_congr rfl
    intro r x hx
    simp [hnone r] at hx
  rw [heq]
  simp [Table.total]

lemma alone (h : a.Shaped) (hs : a.authorization.map Authorization.status ≠ some .succeeded) :
    a.capture = none ∧ a.void = none ∧ a.expiryApplied = false := by
  refine ⟨?_, ?_, ?_⟩
  · cases hc : a.capture with
    | none => rfl
    | some c => exact absurd (h.capture c hc).2.2.1 hs
  · cases hv : a.void with
    | none => rfl
    | some v => exact absurd (h.void v hv) hs
  · cases he : a.expiryApplied with
    | false => rfl
    | true => exact absurd (h.expired he).1 hs

lemma setAuthorization (h : a.Shaped) {x : Authorization}
    (hs : a.authorization.map Authorization.status ≠ some .succeeded) (hx : x.amount = a.amount) :
    { a with authorization := some x }.Shaped := by
  obtain ⟨hcapture, hvoid, hexpired⟩ := h.alone hs
  refine ⟨h.amount_pos, ?_, ?_, ?_, ?_, h.refund⟩
  · rintro y ⟨⟩
    exact hx
  · intro c hc
    simp [hcapture] at hc
  · intro v hv
    simp [hvoid] at hv
  · intro he
    exact absurd he (by simpa [expiryApplied] using hexpired)

lemma setCapture (h : a.Shaped) {c : Capture} (hpos : 0 < c.amount) (hle : c.amount ≤ a.amount)
    (hauth : a.authorization.map Authorization.status = some .succeeded) (hvoid : openVoid a = none)
    (hexpired : a.expiryApplied = false) (hs : a.capture.map Capture.status ≠ some .succeeded) :
    { a with capture := some c }.Shaped := by
  have hzero : a.refundReserved = 0 := h.refunds_zero hs _
  refine ⟨h.amount_pos, h.authorization, ?_, h.void, h.expired, ?_⟩
  · rintro y ⟨⟩
    refine ⟨hpos, hle, hauth, hvoid, hexpired, ?_⟩
    change a.refundReserved ≤ c.amount
    omega
  · intro r x hx
    simp [h.no_refund hs r] at hx

lemma setVoid (h : a.Shaped) {v : Void}
    (hauth : a.authorization.map Authorization.status = some .succeeded) (hcapture : a.capture = none)
    (hexpired : a.expiryApplied = false) : { a with void := some v }.Shaped := by
  refine ⟨h.amount_pos, h.authorization, ?_, fun _ _ => hauth, ?_, h.refund⟩
  · intro c hc
    simp [hcapture] at hc
  · intro he
    exact absurd he (by simpa [expiryApplied] using hexpired)

lemma setRefund (h : a.Shaped) {r : RefundId} {x : Refund} {c : Capture} (hpos : 0 < x.amount)
    (hc : a.capture = some c) (hs : c.status = .succeeded)
    (hroom : { a with refunds := a.refunds.put r x }.refundReserved ≤ c.amount) :
    { a with refunds := a.refunds.put r x }.Shaped := by
  have hsucceeded : a.capture.map Capture.status = some .succeeded := by rw [hc, Option.map_some, hs]
  refine ⟨h.amount_pos, h.authorization, ?_, h.void, h.expired, ?_⟩
  · intro d hd
    obtain ⟨hdpos, hdle, hauth, hvoid, hexpired, -⟩ := h.capture d hd
    have hdc : d = c := Option.some.inj (hd.symm.trans hc)
    exact ⟨hdpos, hdle, hauth, hvoid, hexpired, hdc ▸ hroom⟩
  · intro r' x' hx'
    simp only [Table.get_put] at hx'
    split at hx'
    · cases hx'
      exact ⟨hpos, hsucceeded⟩
    · exact ⟨(h.refund r' x' hx').1, hsucceeded⟩

lemma moved (h : a.Shaped) (target : PaymentStatus) {reason : StatusReason} (actor : Actor)
    (hreason : reason ≠ .authorizationExpired) : (a.moved target reason actor).Shaped := by
  have hsame : (a.moved target reason actor).expiryApplied = a.expiryApplied := by simp [hreason]
  refine ⟨h.amount_pos, h.authorization, ?_, h.void, ?_, h.refund⟩
  · intro c hc
    rw [hsame]
    exact h.capture c hc
  · rw [hsame]
    exact h.expired

end Shaped

structure Sound (a : PaymentIntent) : Prop where
  shaped : a.Shaped
  status : a.status = a.derivedStatus
  walked : a.Walked

lemma create_sound (customer : ℕ) (m : MerchantId) (reference : String) {amount : ℤ} (actor : Actor)
    (hpos : 0 < amount) : (create customer m reference amount actor).Sound := by
  refine ⟨⟨hpos, ?_, ?_, ?_, ?_, ?_⟩, rfl, create_walked ..⟩ <;> simp [create, expiryApplied]

variable {a' : PaymentIntent}

lemma Walked.of_same (h : a.Walked) (hhistory : a'.history = a.history)
    (hstatus : a'.status = a.status) (hversion : a'.statusVersion = a.statusVersion) : a'.Walked := by
  obtain ⟨hstart, hchain, hlength, hlast⟩ := h
  rw [← hhistory] at hstart hchain hlength hlast
  rw [← hversion] at hlength hlast
  rw [← hstatus] at hlast
  exact ⟨hstart, hchain, hlength, hlast⟩

lemma void_not_succeeded (h : openVoid a = none) : a.void.map Void.status ≠ some .succeeded := by
  intro hs
  obtain ⟨v, hv, hvs⟩ := Option.map_eq_some_iff.1 hs
  have hfailed := openVoid_eq_none.1 h v hv
  rw [hvs] at hfailed
  cases hfailed

namespace Sound

lemma status_authorizing (h : a.Sound) (hs : a.authorization.map Authorization.status ≠ some .succeeded)
    (hf : a.authorization.map Authorization.status ≠ some .failed) : a.status = .created := by
  obtain ⟨hcapture, hvoid, hexpired⟩ := h.shaped.alone hs
  rw [h.status]
  exact derivedStatus_created hexpired (by simp [hvoid]) hcapture hs hf

lemma status_captured (h : a.Sound) {c : Capture} (hc : a.capture = some c) (hs : c.status = .succeeded) :
    a.status = if 0 < a.refunded then if c.amount = a.refunded then .refunded else .partiallyRefunded
      else .captured := by
  obtain ⟨-, -, -, hvoid, hexpired, -⟩ := h.shaped.capture c hc
  rw [h.status]
  exact derivedStatus_captured hexpired (void_not_succeeded hvoid) hc hs

lemma not_expired (h : a.Sound) (hs : a.status ≠ .expired) : a.expiryApplied = false := by
  cases he : a.expiryApplied with
  | false => rfl
  | true =>
    refine absurd h.status ?_
    simpa [derivedStatus, he] using hs

lemma of_same (h : a.Sound) (hshaped : a'.Shaped) (hhistory : a'.history = a.history) (hstatus : a'.status = a.status)
    (hversion : a'.statusVersion = a.statusVersion) (hderived : a'.derivedStatus = a.derivedStatus) : a'.Sound :=
  ⟨hshaped, hstatus.trans (h.status.trans hderived.symm), h.walked.of_same hhistory hstatus hversion⟩

lemma authorised (h : a.Sound) (hs : a.status = .authorised) :
    a.authorization.map Authorization.status = some .succeeded ∧
      a.capture.map Capture.status ≠ some .succeeded ∧ a.expiryApplied = false := by
  have hexpired := h.not_expired (by simp [hs])
  have hstatus := h.status
  rw [hs, derivedStatus, hexpired] at hstatus
  simp only [Bool.false_eq_true, if_false, backfillStatus] at hstatus
  split_ifs at hstatus
  next hcaptured _ hauth => exact ⟨hauth, hcaptured, hexpired⟩

end Sound

lemma succeededAuthorization_eq {x : Authorization} (h : succeededAuthorization a = some x) :
    a.authorization = some x ∧ a.authorization.map Authorization.status = some .succeeded := by
  obtain ⟨hx, hs⟩ := Option.filter_eq_some_iff.1 h
  refine ⟨hx, ?_⟩
  rw [hx, Option.map_some]
  simpa using hs

variable {s : OperationStatus}

lemma not_succeeded (h : s.terminal = false) : s ≠ .succeeded := by
  rintro rfl
  simp [OperationStatus.terminal] at h

lemma not_failed (h : s.terminal = false) : s ≠ .failed := by
  rintro rfl
  simp [OperationStatus.terminal] at h

namespace Sound

/-! A resource in flight does not count yet: setting one keeps the status. -/

lemma authorizing (h : a.Sound) {x : Authorization} (hamount : x.amount = a.amount)
    (hs : a.authorization.map Authorization.status ≠ some .succeeded)
    (hf : a.authorization.map Authorization.status ≠ some .failed) (hx : x.status.terminal = false) :
    { a with authorization := some x }.Sound := by
  obtain ⟨hcapture, hvoid, hexpired⟩ := h.shaped.alone hs
  refine h.of_same (h.shaped.setAuthorization hs hamount) rfl rfl rfl ?_
  rw [← h.status, h.status_authorizing hs hf]
  apply derivedStatus_created
  · exact hexpired
  · simp [hvoid]
  · exact hcapture
  · simpa using not_succeeded hx
  · simpa using not_failed hx

lemma capturing (h : a.Sound) {c : Capture} (hpos : 0 < c.amount) (hle : c.amount ≤ a.amount)
    (hauth : a.authorization.map Authorization.status = some .succeeded) (hvoid : openVoid a = none)
    (hexpired : a.expiryApplied = false) (hs : a.capture.map Capture.status ≠ some .succeeded)
    (hf : a.capture.map Capture.status ≠ some .failed) (hc : c.status.terminal = false) :
    { a with capture := some c }.Sound := by
  have hvs := void_not_succeeded hvoid
  refine h.of_same (h.shaped.setCapture hpos hle hauth hvoid hexpired hs) rfl rfl rfl ?_
  rw [derivedStatus_authorised hexpired hvs hauth hs hf]
  apply derivedStatus_authorised
  · exact hexpired
  · exact hvs
  · exact hauth
  · simpa using not_succeeded hc
  · simpa using not_failed hc

lemma voiding (h : a.Sound) {v : Void}
    (hauth : a.authorization.map Authorization.status = some .succeeded) (hcapture : a.capture = none)
    (hexpired : a.expiryApplied = false) (hvoid : a.void.map Void.status ≠ some .succeeded)
    (hv : v.status ≠ .succeeded) : { a with void := some v }.Sound := by
  have hs : a.capture.map Capture.status ≠ some .succeeded := by simp [hcapture]
  have hf : a.capture.map Capture.status ≠ some .failed := by simp [hcapture]
  refine h.of_same (h.shaped.setVoid hauth hcapture hexpired) rfl rfl rfl ?_
  rw [derivedStatus_authorised hexpired hvoid hauth hs hf]
  apply derivedStatus_authorised
  · exact hexpired
  · simpa using hv
  · exact hauth
  · exact hs
  · exact hf

lemma refunding (h : a.Sound) {c : Capture} (hc : a.capture = some c) (hs : c.status = .succeeded)
    {r : RefundId} {x : Refund} (hpos : 0 < x.amount) (hx : x.status ≠ .succeeded)
    (hbefore : (a.refunds.get r).map Refund.status ≠ some .succeeded)
    (hroom : { a with refunds := a.refunds.put r x }.refundReserved ≤ c.amount) :
    { a with refunds := a.refunds.put r x }.Sound := by
  refine h.of_same (h.shaped.setRefund hpos hc hs hroom) rfl rfl rfl (derivedStatus_of_refunds ?_)
  rw [Table.total_put, if_neg hx]
  cases hget : a.refunds.get r with
  | none => simp [PaymentIntent.refunded]
  | some y =>
    have hy : y.status ≠ .succeeded := by simpa [hget] using hbefore
    simp [PaymentIntent.refunded, hy]

end Sound

variable {o : OperationId}

lemma Opens.sound {cfg : Service} (hopens : a.Opens cfg o a') (h : a.Sound) : a'.Sound := by
  cases hopens with
  | authorize hnone => exact h.authorizing rfl (by simp [hnone]) (by simp [hnone]) rfl
  | capture hauth hnone hvoid _ hne _ hpos hle hstatus _ _ _ _ =>
    obtain ⟨hx, hsucceeded⟩ := succeededAuthorization_eq hauth
    have hamount := h.shaped.authorization _ hx
    exact h.capturing hpos (hamount ▸ hle) hsucceeded hvoid (h.not_expired hne) (by simp [hnone])
      (by simp [hnone]) (by simp [hstatus, OperationStatus.terminal])
  | void hvoid hauth hnone hstatus =>
    obtain ⟨-, hsucceeded⟩ := succeededAuthorization_eq hauth
    have hexpired := h.not_expired (by simp [hstatus])
    exact h.voiding hsucceeded hnone hexpired (by simp [hvoid]) (by simp)
  | refund hc hs hnone hpos hle =>
    refine h.refunding hc hs hpos (by simp) (by simp [hnone]) ?_
    rw [refundReserved, Table.total_put_new _ hnone, ← refundReserved]
    simp
    omega

lemma Shaped.void_open (h : a.Shaped) {v : Void} (hv : a.void = some v)
    (hopen : v.status.terminal = false) : a.capture = none ∧ a.expiryApplied = false := by
  have hlive : openVoid a ≠ none := by
    intro hnone
    exact not_failed hopen (openVoid_eq_none.1 hnone v hv)
  constructor
  · cases hc : a.capture with
    | none => rfl
    | some c => exact absurd (h.capture c hc).2.2.2.1 hlive
  · cases he : a.expiryApplied with
    | false => rfl
    | true => exact absurd (h.expired he).2 hlive

lemma Shaped.refund_captured (h : a.Shaped) {r : RefundId} {x : Refund}
    (hx : a.refunds.get r = some x) : ∃ c, a.capture = some c ∧ c.status = .succeeded :=
  Option.map_eq_some_iff.1 (h.refund r x hx).2

lemma Sound.reviewed (h : a.Sound) (hs : a.resourceStatus o = some s) (hopen : s.terminal = false) :
    (a.setResourceStatus .requiresReview o).Sound := by
  have hsucc : a.resourceStatus o ≠ some .succeeded := by simpa [hs] using not_succeeded hopen
  have hfail : a.resourceStatus o ≠ some .failed := by simpa [hs] using not_failed hopen
  cases o with
  | authorize p =>
    obtain ⟨x, hx, -⟩ := Option.map_eq_some_iff.1 hs
    rw [setResourceStatus, hx, Option.map_some]
    exact h.authorizing (h.shaped.authorization x hx) hsucc hfail rfl
  | capture p =>
    obtain ⟨c, hc, -⟩ := Option.map_eq_some_iff.1 hs
    obtain ⟨hpos, hle, hauth, hvoid, hexpired, -⟩ := h.shaped.capture c hc
    rw [setResourceStatus, hc, Option.map_some]
    exact h.capturing hpos hle hauth hvoid hexpired hsucc hfail rfl
  | void p =>
    obtain ⟨v, hv, rfl⟩ := Option.map_eq_some_iff.1 hs
    obtain ⟨hcapture, hexpired⟩ := h.shaped.void_open hv hopen
    rw [setResourceStatus, hv, Option.map_some]
    exact h.voiding (h.shaped.void v hv) hcapture hexpired hsucc (by simp)
  | refund p r =>
    obtain ⟨x, hx, rfl⟩ := Option.map_eq_some_iff.1 hs
    obtain ⟨c, hc, hcs⟩ := h.shaped.refund_captured hx
    obtain ⟨-, -, -, -, -, hroom⟩ := h.shaped.capture c hc
    simp only [setResourceStatus, hx]
    refine h.refunding hc hcs (h.shaped.refund r x hx).1 (by simp) hsucc ?_
    refine le_of_eq_of_le (Table.total_put_same hx ?_) hroom
    simp [not_failed hopen]

lemma derivedStatus_moved {reason : StatusReason} {actor : Actor} (h : reason ≠ .authorizationExpired) :
    (a.moved target reason actor).derivedStatus = a.derivedStatus := by
  have hexpired : (a.moved target reason actor).expiryApplied = a.expiryApplied := by simp [h]
  rw [derivedStatus, derivedStatus, hexpired, backfillStatus_moved]
  rfl

lemma Sound.decided (h : a.Sound) {b : PaymentIntent} (hshaped : b.Shaped)
    (hhistory : b.history = a.history) (hstatus : b.status = a.status) (hversion : b.statusVersion = a.statusVersion)
    (hallowed : isAllowed a.status target = true) (htarget : b.derivedStatus = target)
    {reason : StatusReason} (hreason : reason ≠ .authorizationExpired) (actor : Actor) :
    (b.moved target reason actor).Sound where
  shaped := hshaped.moved target actor hreason
  status := (derivedStatus_moved hreason).symm ▸ htarget.symm
  walked := by
    have hwalked := h.walked.of_same hhistory hstatus hversion
    exact hwalked.moved (hstatus ▸ hallowed) reason actor

lemma Shaped.refund_succeeds (h : a.Shaped) {r : RefundId} {x y : Refund}
    (hx : a.refunds.get r = some x) (hopen : x.status.terminal = false) (hamount : y.amount = x.amount)
    (hy : y.status = .succeeded) :
    { a with refunds := a.refunds.put r y }.Shaped ∧
      { a with refunds := a.refunds.put r y }.refunded = a.refunded + x.amount := by
  obtain ⟨c, hc, hcs⟩ := h.refund_captured hx
  obtain ⟨-, -, -, -, -, hroom⟩ := h.capture c hc
  have hreserved : { a with refunds := a.refunds.put r y }.refundReserved = a.refundReserved := by
    apply Table.total_put_same hx
    simp [hy, hamount, not_failed hopen]
  constructor
  · exact h.setRefund (hamount ▸ (h.refund r x hx).1) hc hcs (hreserved ▸ hroom)
  · refine (Table.total_put ..).trans ?_
    simp [hx, hy, hamount, not_succeeded hopen, PaymentIntent.refunded]

lemma Shaped.refund_room (h : a.Shaped) {r : RefundId} {x : Refund} (hx : a.refunds.get r = some x)
    (hopen : x.status.terminal = false) {c : Capture} (hc : a.capture = some c) : a.refunded + x.amount ≤ c.amount := by
  obtain ⟨hshaped, hrefunded⟩ := h.refund_succeeds (y := { x with status := .succeeded }) hx hopen rfl rfl
  obtain ⟨-, -, -, -, -, hroom⟩ := hshaped.capture c hc
  rw [← hrefunded]
  exact (refunded_le_refundReserved hshaped).trans hroom

lemma refundTarget_eq (h : a.Shaped) {c : Capture} (hc : a.capture = some c)
    (hs : c.status = .succeeded) (hpos : 0 < a.refunded) : a.refundTarget = a.derivedStatus := by
  obtain ⟨-, -, -, hvoid, hexpired, -⟩ := h.capture c hc
  rw [derivedStatus_captured hexpired (void_not_succeeded hvoid) hc hs, if_pos hpos, refundTarget, hc]
  simp [Option.filter, hs]

lemma Resolves.sound {held : List Key} {ms : List MerchantId} {w : World} {actor : Actor} {v : Verdict}
    {posted : List (Journal × BalanceTransaction)} (hres : a.Resolves held ms w actor v o a' posted) (h : a.Sound)
    (hs : a.resourceStatus o = some s) (hopen : s.terminal = false) : a'.Sound := by
  have hsucc : a.resourceStatus o ≠ some .succeeded := by simpa [hs] using not_succeeded hopen
  cases hres with
  | @authorize p x target hx htarget hallowed =>
    obtain ⟨hcapture, hvoid, hexpired⟩ := h.shaped.alone hsucc
    have hshaped : { a with authorization := some (v.authorization x) }.Shaped :=
      h.shaped.setAuthorization hsucc (h.shaped.authorization x hx)
    refine h.decided hshaped rfl rfl rfl hallowed ?_ (by split <;> simp) actor
    rw [htarget]
    cases hv : v.succeeded with
    | true =>
      apply derivedStatus_authorised
      · exact hexpired
      · simp [hvoid]
      · simp [Verdict.authorization, Verdict.status, hv]
      · simp [hcapture]
      · simp [hcapture]
    | false =>
      apply derivedStatus_failed
      · exact hexpired
      · simp [hvoid]
      · simp [hcapture]
      · simp [Verdict.authorization, Verdict.status, hv]
  | @captured p x j hv hx hj _ _ _ _ _ hallowed =>
    obtain ⟨hpos, hle, hauth, hvoid, hexpired, -⟩ := h.shaped.capture x hx
    have hzero : a.refunded = 0 := h.shaped.refunds_zero hsucc _
    have hshaped : { a with capture := some (v.capture (some (.capture p)) x) }.Shaped :=
      h.shaped.setCapture hpos hle hauth hvoid hexpired hsucc
    refine h.decided hshaped rfl rfl rfl hallowed ?_ (by simp) actor
    have hnone : ¬0 < { a with capture := some (v.capture (some (.capture p)) x) }.refunded := by
      change ¬0 < a.refunded
      omega
    refine (derivedStatus_captured ?_ ?_ rfl ?_).trans (if_neg hnone)
    · exact hexpired
    · exact void_not_succeeded hvoid
    · simp [Verdict.capture, Verdict.status, hv]
  | @captureDeclined p x hv hx hallowed =>
    obtain ⟨hpos, hle, hauth, hvoid, hexpired, -⟩ := h.shaped.capture x hx
    have hshaped : { a with capture := some (v.capture x.journal x) }.Shaped :=
      h.shaped.setCapture hpos hle hauth hvoid hexpired hsucc
    refine h.decided hshaped rfl rfl rfl hallowed ?_ (by simp) actor
    apply derivedStatus_failed
    · exact hexpired
    · exact void_not_succeeded hvoid
    · simp [Verdict.capture, Verdict.status, hv]
    · simp [Verdict.capture, Verdict.status, hv]
  | voided hv hx hallowed =>
    have hvopen : (Option.map Void.status a.void) = some s := hs
    rw [hx, Option.map_some, Option.some.injEq] at hvopen
    obtain ⟨hcapture, hexpired⟩ := h.shaped.void_open hx (hvopen ▸ hopen)
    refine h.decided (h.shaped.setVoid (h.shaped.void _ hx) hcapture hexpired) rfl rfl rfl hallowed ?_
      (by simp) actor
    have hlive : a.history.any (fun r => decide (r.reason = .authorizationExpired)) = false := hexpired
    simp [derivedStatus, expiryApplied, hlive, Verdict.void, Verdict.status, hv]
  | voidDeclined hv hx =>
    have hvopen : (Option.map Void.status a.void) = some s := hs
    rw [hx, Option.map_some, Option.some.injEq] at hvopen
    obtain ⟨hcapture, hexpired⟩ := h.shaped.void_open hx (hvopen ▸ hopen)
    exact h.voiding (h.shaped.void _ hx) hcapture hexpired hsucc
      (by simp [Verdict.void, Verdict.status, hv])
  | @refunded p r x c sources j target b hv hx hc _ _ _ _ _ hb htarget hallowed =>
    obtain ⟨c', hc', hcs⟩ := h.shaped.refund_captured hx
    have hcc : c' = c := Option.some.inj (hc'.symm.trans hc)
    subst hcc hb
    have hxs : x.status = s := by simpa [resourceStatus, hx] using hs
    obtain ⟨hshaped, hrefunded⟩ := h.shaped.refund_succeeds (y := v.refund (some (.refund p r)) x) hx
      (hxs ▸ hopen) rfl (by simp [Verdict.refund, Verdict.status, hv])
    have hnonneg := refunded_nonneg h.shaped
    have hpos := (h.shaped.refund r x hx).1
    refine h.decided hshaped rfl rfl rfl hallowed ?_ (by simp) actor
    rw [htarget, refundTarget_eq hshaped hc hcs (by omega)]
  | @refundDeclined p r x hv hx =>
    obtain ⟨c, hc, hcs⟩ := h.shaped.refund_captured hx
    obtain ⟨-, -, -, -, -, hroom⟩ := h.shaped.capture c hc
    obtain ⟨hpos, -⟩ := h.shaped.refund r x hx
    refine h.refunding hc hcs hpos (by simp [Verdict.refund, Verdict.status, hv]) hsucc ?_
    refine le_trans (le_of_eq (Table.total_put ..)) ?_
    have hxs : x.status = s := by simpa [resourceStatus, hx] using hs
    simp only [Verdict.refund, Verdict.status, hv, hx, hxs, not_failed hopen, Option.elim]
    rw [refundReserved] at hroom
    simp
    omega

lemma derivedStatus_ne_requiresAction : a.derivedStatus ≠ .requiresAction := by
  unfold derivedStatus backfillStatus
  dsimp only
  split_ifs <;> simp

lemma Sound.status_of_expirable (h : a.Sound) (hallowed : isAllowed a.status .expired = true) :
    a.status = .authorised := by
  have hne := h.status.trans_ne derivedStatus_ne_requiresAction
  cases hs : a.status <;> simp_all [isAllowed, allowedTransitions]

lemma Sound.expire (h : a.Sound) (hallowed : isAllowed a.status .expired = true)
    (hfree : a.inFlight = false) (actor : Actor) : (a.moved .expired .authorizationExpired actor).Sound := by
  obtain ⟨hauth, -, -⟩ := h.authorised (h.status_of_expirable hallowed)
  simp only [inFlight, Bool.or_eq_false_iff, Option.isSome_eq_false_iff, Option.isNone_iff_eq_none] at hfree
  obtain ⟨hcapture, hvoid⟩ := hfree
  refine ⟨⟨h.shaped.amount_pos, h.shaped.authorization, ?_, h.shaped.void, ?_, h.shaped.refund⟩, ?_,
    h.walked.moved hallowed _ _⟩
  · intro c hc
    simp [PaymentIntent.moved, hcapture] at hc
  · exact fun _ => ⟨hauth, hvoid⟩
  · simp [derivedStatus]
    rfl

lemma Sound.requested_allowed (h : a.Sound)
    (hs : a.resourceStatus o = some s) (hopen : s.terminal = false) (v : Verdict)
    (htarget : a.requested v o = some target) : isAllowed a.status target = true := by
  have hsucc : a.resourceStatus o ≠ some .succeeded := by simpa [hs] using not_succeeded hopen
  have hfail : a.resourceStatus o ≠ some .failed := by simpa [hs] using not_failed hopen
  cases o with
  | authorize p =>
    cases htarget
    rw [h.status_authorizing hsucc hfail]
    split <;> decide
  | capture p =>
    obtain ⟨c, hc, -⟩ := Option.map_eq_some_iff.1 hs
    obtain ⟨-, -, hauth, hvoid, hexpired, -⟩ := h.shaped.capture c hc
    cases htarget
    rw [h.status, derivedStatus_authorised hexpired (void_not_succeeded hvoid) hauth hsucc hfail]
    split <;> decide
  | void p =>
    obtain ⟨x, hx, rfl⟩ := Option.map_eq_some_iff.1 hs
    obtain ⟨hcapture, hexpired⟩ := h.shaped.void_open hx hopen
    rw [h.status, derivedStatus_authorised hexpired hsucc (h.shaped.void x hx) (by simp [hcapture])
      (by simp [hcapture])]
    simp only [requested] at htarget
    split at htarget <;> cases htarget
    decide
  | refund p r =>
    obtain ⟨x, hx, rfl⟩ := Option.map_eq_some_iff.1 hs
    obtain ⟨c, hc, hcs⟩ := h.shaped.refund_captured hx
    have hroom := h.shaped.refund_room hx hopen hc
    have hpos := (h.shaped.refund r x hx).1
    have hnonneg := refunded_nonneg h.shaped
    rw [h.status_captured hc hcs]
    simp only [requested] at htarget
    split at htarget <;> simp only [hx, Option.map_some, Option.some.injEq, reduceCtorEq] at htarget
    rw [← htarget, refundTarget]
    split_ifs <;> first | decide | omega

end PaymentIntent

def World.PaymentsSound (w : World) : Prop := ∀ p a, w.payments.get p = some a → a.Sound

lemma World.PaymentsSound.put {w w' : World} (h : w.PaymentsSound) {p : PaymentId} {a : PaymentIntent}
    (hpayments : w'.payments = w.payments.put p a) (ha : a.Sound) : w'.PaymentsSound := by
  intro p' a' hget
  rw [hpayments, Table.get_put] at hget
  split at hget
  · cases hget
    exact ha
  · exact h p' a' hget

lemma Change.paymentsSound {cfg : Service} {l : Local} {held : List Key} {ms : List MerchantId}
    {w w' : World} (h : Change cfg l held ms w w') (hmirrored : w.Mirrored) (hw : w.PaymentsSound) :
    w'.PaymentsSound := by
  cases h with
  | intent _ _ hpos _ => exact hw.put rfl (PaymentIntent.create_sound _ _ _ _ hpos)
  | opened _ _ ha _ hopens _ => exact hw.put rfl (hopens.sound (hw _ _ ha))
  | reviewed _ _ ha _ hop hopen =>
    exact hw.put rfl ((hw _ _ ha).reviewed (hmirrored.open_status hop ha) hopen)
  | finalized _ _ ha _ hop hopen _ _ hres _ =>
    have hsound := hres.sound (hw _ _ ha) (hmirrored.open_status hop ha) hopen
    exact hw.put (by rw [foldl_post]; rfl) hsound
  | expired _ ha hallowed hfree => exact hw.put rfl ((hw _ _ ha).expire hallowed hfree _)
  | _ => exact hw

section Runs

variable {cfg : Service} {out : Outside} {w : World} {c : State} {a : PaymentIntent}

open PaymentIntent

lemma reach_paymentsSound (hw : w.Initial) (h : Reach (relaypay cfg out) (.idle w) c) :
    c.shared.Mirrored ∧ c.shared.PaymentsSound := by
  have h0 : w.Mirrored ∧ w.PaymentsSound := by
    refine ⟨hw.mirrored, fun p a ha => ?_⟩
    simp [hw.payments] at ha
  refine reach_preserves (I := fun w => w.Mirrored ∧ w.PaymentsSound) ?_ hw.mirrored h0 h
  intro l held ms w w' hchange hI
  exact ⟨hchange.mirrored hI.1, hchange.paymentsSound hI.1 hI.2⟩

def PaymentIntent.capturedAmount (a : PaymentIntent) : ℤ :=
  ((a.capture.filter fun c => c.status = .succeeded).map Capture.amount).getD 0

def PaymentIntent.authorisedAmount (a : PaymentIntent) : ℤ :=
  ((a.authorization.filter fun x => x.status = .succeeded).map Authorization.amount).getD 0

theorem payment_amounts (hw : w.Initial) (h : Reach (relaypay cfg out) (.idle w) c) {p : PaymentId}
    (ha : c.shared.payments.get p = some a) :
    a.refundReserved ≤ a.capturedAmount ∧ a.capturedAmount ≤ a.authorisedAmount ∧
      a.authorisedAmount ≤ a.amount ∧ (∀ x, a.capture = some x → x.amount ≤ a.authorisedAmount) ∧
      ∀ r x, a.refunds.get r = some x → x.status ≠ .failed →
        a.capture.map Capture.status = some .succeeded := by
  have hshaped := ((reach_paymentsSound hw h).2 p a ha).shaped
  have hcap : ∀ x, a.capture = some x → x.amount ≤ a.authorisedAmount := by
    intro x hx
    obtain ⟨-, hle, hauth, -⟩ := hshaped.capture x hx
    obtain ⟨y, hy, hys⟩ := Option.map_eq_some_iff.1 hauth
    have hamount := hshaped.authorization y hy
    simp [PaymentIntent.authorisedAmount, hy, hys, Option.filter]
    omega
  have hpos := hshaped.amount_pos
  have hauth : 0 ≤ a.authorisedAmount ∧ a.authorisedAmount ≤ a.amount := by
    cases hy : a.authorization with
    | none => simp [PaymentIntent.authorisedAmount, hy]; omega
    | some y =>
      have hamount := hshaped.authorization y hy
      by_cases hs : y.status = .succeeded <;>
        simp [PaymentIntent.authorisedAmount, hy, hs, Option.filter] <;> omega
  refine ⟨?_, ?_, hauth.2, hcap, fun r x hx _ => (hshaped.refund r x hx).2⟩
  · by_cases hs : a.capture.map Capture.status = some .succeeded
    · obtain ⟨x, hx, hxs⟩ := Option.map_eq_some_iff.1 hs
      obtain ⟨-, -, -, -, -, hroom⟩ := hshaped.capture x hx
      simpa [PaymentIntent.capturedAmount, hx, hxs, Option.filter] using hroom
    · have hzero : a.refundReserved = 0 := hshaped.refunds_zero hs _
      have hnone : (a.capture.filter fun x => x.status = .succeeded) = none := by
        cases hx : a.capture <;> simp_all [Option.filter]
      simp [PaymentIntent.capturedAmount, hnone, hzero]
  · cases hx : a.capture.filter fun x => x.status = .succeeded with
    | none => simpa [PaymentIntent.capturedAmount, hx] using hauth.1
    | some x =>
      have hle := hcap x (Option.filter_eq_some_iff.1 hx).1
      simpa [PaymentIntent.capturedAmount, hx] using hle

theorem payment_amounts_shop : ∃ a, (shopAfter shopSale).1.payments.get 1 = some a ∧
    a.refundReserved = 1000 ∧ a.refundReserved ≤ a.capturedAmount ∧
    a.capturedAmount ≤ a.authorisedAmount ∧ a.authorisedAmount ≤ a.amount := by
  have hreserved : ((shopAfter shopSale).1.payments.get 1).map PaymentIntent.refundReserved = some 1000 := by
    decide +kernel
  obtain ⟨a, ha, hr⟩ := Option.map_eq_some_iff.1 hreserved
  obtain ⟨hrefunds, hcaptured, hauthorised, -⟩ :=
    payment_amounts shopWorld_initial (shop_reach shopSale_plays) ha
  exact ⟨a, ha, hr, hrefunds, hcaptured, hauthorised⟩

lemma PaymentIntent.Sound.status_mem (h : a.Sound) : a.status ∈ a.allowedPaymentStatuses := by
  have hnonneg := refunded_nonneg h.shaped
  by_cases hs : a.capture.map Capture.status = some .succeeded
  · obtain ⟨x, hx, hxs⟩ := Option.map_eq_some_iff.1 hs
    obtain ⟨hpos, -, -, -, -, hroom⟩ := h.shaped.capture x hx
    have hle := (refunded_le_refundReserved h.shaped).trans hroom
    rw [h.status_captured hx hxs]
    simp only [allowedPaymentStatuses, hx, hxs, Option.filter, decide_true, if_true, Option.map_some, Option.getD_some]
    split_ifs <;> first | omega | simp
  · have hzero : a.refunded = 0 := h.shaped.refunds_zero hs _
    have hnone : (a.capture.filter fun x => x.status = .succeeded) = none := by
      cases hx : a.capture <;> simp_all [Option.filter]
    simp only [allowedPaymentStatuses, hzero, hnone, Option.map_none, Option.getD_none, lt_irrefl, if_false]
    split
    · next hauth =>
      rw [h.status, derivedStatus, backfillStatus]
      simp only [hs, hauth, false_and, if_false, if_true]
      split_ifs <;> simp
    · next hauth =>
      have hne := hauth.trans_ne (b := some OperationStatus.failed) (c := some .succeeded) (by simp)
      obtain ⟨-, hvoid, hexpired⟩ := h.shaped.alone hne
      rw [h.status, derivedStatus_failed hexpired (by simp [hvoid]) hs (.inl hauth)]
      simp
    · next hsucc hfail =>
      rw [h.status_authorizing hsucc hfail]
      simp

theorem payment_status (hw : w.Initial) (h : Reach (relaypay cfg out) (.idle w) c) {p : PaymentId}
    (ha : c.shared.payments.get p = some a) :
    a.status = a.derivedStatus ∧ (a.void.map Void.status ≠ some .succeeded → a.expiryApplied = false →
        a.status = a.backfillStatus) ∧
      a.status ∈ a.allowedPaymentStatuses ∧
      (∃ actor, a.history.head? = some ⟨none, .created, .paymentCreated, actor, 0⟩) ∧
      a.history.IsChain StatusRow.Precedes ∧ a.history.length = a.statusVersion + 1 ∧
      a.history.getLast?.map StatusRow.toStatus = some a.status := by
  have hsound := (reach_paymentsSound hw h).2 p a ha
  obtain ⟨hstart, hchain, hlength, r, hlast, hr, -⟩ := hsound.walked
  refine ⟨hsound.status, fun hvoid hexpired => ?_, hsound.status_mem, hstart, hchain, hlength, ?_⟩
  · rw [hsound.status, derivedStatus, if_neg (by simp [hexpired]), if_neg hvoid]
  · rw [hlast, Option.map_some, hr]

theorem payment_status_shop : ∃ a, (shopAfter shopSale).1.payments.get 1 = some a ∧
    a.status = .partiallyRefunded ∧ a.status = a.derivedStatus ∧
    a.history.length = a.statusVersion + 1 := by
  have hstatus : ((shopAfter shopSale).1.payments.get 1).map PaymentIntent.status =
      some .partiallyRefunded := by decide +kernel
  obtain ⟨a, ha, hs⟩ := Option.map_eq_some_iff.1 hstatus
  obtain ⟨hderived, -, -, -, -, hlength, -⟩ :=
    payment_status shopWorld_initial (shop_reach shopSale_plays) ha
  exact ⟨a, ha, hs, hderived, hlength⟩

def Local.evidenceFor : Local → Option OperationId
  | .finalizing _ o _ _ => some o
  | .pspFinalize _ _ o _ => some o
  | _ => none

lemma refuses_of_illegal {l : Local} {o : OperationId} (hl : l.evidenceFor = some o) {t : Tx Local}
    (ht : transaction cfg l = some t) {e : Error} {y : Pending World Key Empty}
    (he : Eval locks w (t.atCommit validatePayoutCoverage []) .init (.error e) y)
    (hillegal : e.illegalTransition = true) : w.Refuses o := by
  have hfinalize : ∀ {n actor} {l' : Local}, t = (do finalizeVerifiedAttempt o n actor; done l') →
      w.Refuses o := by
    rintro n actor l' rfl
    have hwp : (do finalizeVerifiedAttempt o n actor; done l' : Tx Local).Wp locks
        (fun e => e.illegalTransition = true → w.Refuses o)
        (fun _ y => (forEach validatePayoutCoverage y.queue).Wp locks
          (fun e => e.illegalTransition = true → w.Refuses o) (fun _ _ => True)
          ⟨y.state, y.held, []⟩) ⟨w, [], []⟩ := by
      rw [wp_bind]
      refine (wp_finalizeVerifiedAttempt o n actor).imp fun _ y (_ : Follows cfg l _ y) => ?_
      refine (wp_coverage ?_ y.queue y.state y.held).imp fun _ _ _ => trivial
      simp [Error.illegalTransition]
    exact (he.commits hwp).2 e rfl hillegal
  cases l with
  | finalizing => cases hl; exact hfinalize (Option.some.inj ht).symm
  | pspFinalize => cases hl; exact hfinalize (Option.some.inj ht).symm
  | _ => cases hl

def PaymentIntent.CaptureUndecided (a : PaymentIntent) : Prop :=
  ∃ x, a.capture = some x ∧ x.status.terminal = false

def PaymentIntent.VoidUndecided (a : PaymentIntent) : Prop :=
  ∃ x, a.void = some x ∧ x.status.terminal = false

def PaymentIntent.ExpiryUndecided (a : PaymentIntent) : Prop :=
  isAllowed a.status .expired = true ∧ a.inFlight = false

lemma PaymentIntent.Sound.one_undecided (h : a.Sound) :
    (a.CaptureUndecided ∨ a.VoidUndecided → a.status = .authorised) ∧
      ¬(a.CaptureUndecided ∧ a.VoidUndecided) ∧ ¬(a.CaptureUndecided ∧ a.ExpiryUndecided) ∧
      ¬(a.VoidUndecided ∧ a.ExpiryUndecided) := by
  refine ⟨?_, ?_, ?_, ?_⟩
  · rintro (⟨x, hx, hopen⟩ | ⟨x, hx, hopen⟩)
    · obtain ⟨-, -, hauth, hvoid, hexpired, -⟩ := h.shaped.capture x hx
      rw [h.status]
      refine derivedStatus_authorised hexpired (void_not_succeeded hvoid) hauth ?_ ?_
      · simpa [hx] using not_succeeded hopen
      · simpa [hx] using not_failed hopen
    · obtain ⟨hcapture, hexpired⟩ := h.shaped.void_open hx hopen
      rw [h.status]
      refine derivedStatus_authorised hexpired ?_ (h.shaped.void x hx) (by simp [hcapture])
        (by simp [hcapture])
      simpa [hx] using not_succeeded hopen
  · rintro ⟨⟨x, hx, -⟩, y, hy, hopen⟩
    have hnone := (h.shaped.void_open hy hopen).1
    rw [hx] at hnone
    cases hnone
  · rintro ⟨⟨x, hx, -⟩, -, hfree⟩
    simp [inFlight, hx] at hfree
  · rintro ⟨⟨x, hx, hopen⟩, -, hfree⟩
    have hfailed := not_failed hopen
    simp [inFlight, openVoid, hx, hfailed] at hfree

theorem evidence_admitted (hw : w.Initial) (h : Reach (relaypay cfg out) (.idle w) c) :
    (∀ o op, c.shared.operations.get o = some op → op.status.terminal = false →
      ∃ a, c.shared.payments.get o.payment = some a ∧
        ∀ v target, a.requested v o = some target → isAllowed a.status target = true) ∧
    (∀ (i : ℕ) l o e own held, c.procs[i]? = some ⟨l, some ⟨.raise e, own, held⟩⟩ →
      l.evidenceFor = some o → e.illegalTransition = false) ∧
    ∀ p a, c.shared.payments.get p = some a → (a.CaptureUndecided ∨ a.VoidUndecided → a.status = .authorised) ∧
      ¬(a.CaptureUndecided ∧ a.VoidUndecided) ∧ ¬(a.CaptureUndecided ∧ a.ExpiryUndecided) ∧
      ¬(a.VoidUndecided ∧ a.ExpiryUndecided) := by
  obtain ⟨hmirrored, hsound⟩ := reach_paymentsSound hw h
  refine ⟨fun o op hop hopen => ?_, fun i l o e own held hproc hl => ?_, fun p a ha => ?_⟩
  · have hmirror := hmirrored o
    rw [hop, Option.map_some] at hmirror
    obtain ⟨a, ha, hstatus⟩ := Option.bind_eq_some_iff.1 hmirror.symm
    exact ⟨a, ha, fun v target => (hsound _ a ha).requested_allowed hstatus hopen v⟩
  · obtain ⟨t, y, ht, heval⟩ := h.raises (relaypay_disciplined cfg out) hw.mirrored hproc
    cases hillegal : e.illegalTransition with
    | false => rfl
    | true =>
      obtain ⟨a, op, v, ha, hop, hopen, target, htarget, hnot⟩ := refuses_of_illegal hl ht heval hillegal
      have hallowed := (hsound _ a ha).requested_allowed (hmirrored.open_status hop ha) hopen v htarget
      rw [hallowed] at hnot
      cases hnot
  · exact (hsound p a ha).one_undecided

theorem evidence_admitted_shop : ∃ op a, (shopAfter (shopSale.take 4)).1.operations.get (.authorize 1) = some op ∧
    op.status.terminal = false ∧ (shopAfter (shopSale.take 4)).1.payments.get 1 = some a ∧
    isAllowed a.status .authorised = true := by
  have hopen : ((shopAfter (shopSale.take 4)).1.operations.get (.authorize 1)).map
      (fun op => op.status.terminal) = some false := by decide +kernel
  obtain ⟨op, hop, hterminal⟩ := Option.map_eq_some_iff.1 hopen
  obtain ⟨hadmits, -, -⟩ := evidence_admitted shopWorld_initial
    (shop_reach (show shopPlays (shopSale.take 4) = true by decide +kernel))
  obtain ⟨a, ha, hallowed⟩ := hadmits _ op hop hterminal
  exact ⟨op, a, hop, hterminal, ha, hallowed ⟨true, none, 0⟩ _ rfl⟩

end Runs

end RelayPay
