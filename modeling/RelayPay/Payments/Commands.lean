import RelayPay.Payments.Transitions
import RelayPay.Settlement
import RelayPay.Validation

/-! The payment commands, each under the payment lock and bound to an idempotency key. -/

namespace RelayPay

open ReadCommitted Txn

structure FeeBreakdown where
  fee : ℤ
  gst : ℤ
  net : ℤ

def roundHalfUp (numerator denominator : ℤ) : ℤ := (2 * numerator + denominator) / (2 * denominator)

def computeCaptureFee (amount : ℤ) (terms : FeeScheduleTerms) : Except Error FeeBreakdown :=
  if amount ≤ 0 then .error (.value "amount_paise must be positive")
  else
    let raw := roundHalfUp (amount * terms.mdrBps) 10000 + terms.fixedPaise
    let floored := match terms.minFeePaise with | some b => max raw b | none => raw
    let fee := match terms.maxFeePaise with | some b => min floored b | none => floored
    let gst := roundHalfUp (fee * terms.gstBps) 10000
    let net := amount - fee - gst
    if net < 0 then .error (.value "fee and GST exceed the captured amount") else .ok ⟨fee, gst, net⟩

def newer (best : Option FeeScheduleVersion) (v : FeeScheduleVersion) : Option FeeScheduleVersion :=
  match best with
  | some b => if b.version < v.version then some v else some b
  | none => some v

def World.activeFeeSchedule (w : World) (m : MerchantId) : Option FeeScheduleVersion :=
  (w.feeSchedules.filter fun v => v.merchant = m && v.effectiveFrom ≤ w.now).foldl newer none

structure CaptureFee where
  feeAmount : ℤ
  gstAmount : ℤ
  feeScheduleVersion : Option ℕ

def captureFee (m : MerchantId) (amount : ℤ) : Tx CaptureFee := do
  let schedule ← query fun w => w.activeFeeSchedule m
  match schedule with
  | none => done ⟨0, 0, none⟩
  | some v =>
    match computeCaptureFee amount v.terms with
    | .error e => raise e
    | .ok b => do
      ensure (¬(b.fee < 0 ∨ b.gst < 0 ∨ b.net < 0 ∨ b.fee + b.gst + b.net ≠ amount))
        (.runtime "fee calculator returned an inconsistent split")
      done ⟨b.fee, b.gst, some v.id⟩

def validateFingerprint (r : IdempotencyRecord) (fingerprint : Digest) : Tx Unit :=
  ensure (r.fingerprint = fingerprint) (relayPay "IDEMPOTENCY_KEY_REUSED"
    "The idempotency key is already bound to different canonical input" 409 [])

def terminalResult (r : IdempotencyRecord) : Tx Reply :=
  match r.httpStatus, r.responseBytes with
  | some status, some body => done ⟨status, body, true⟩
  | _, _ => raise (.runtime "terminal idempotency record is missing its stored response")

def PaymentIntent.hasResource (a : PaymentIntent) : OperationId → Bool
  | .authorize _ => a.authorization.isSome
  | .capture _ => a.capture.isSome
  | .void _ => a.void.isSome
  | .refund _ r => (a.refunds.get r).isSome

def operationEnvelope (o : OperationId) (op : ProviderOperation) : Tx Reply :=
  if op.status.terminal then
    match op.terminalHttpStatus, op.terminalResponseBytes with
    | some status, some body => done ⟨status, body, false⟩
    | _, _ => raise (.runtime "terminal provider operation is missing its stored response")
  else
    done ⟨202, canonicalJsonBytes (.obj [
      ("operationId", .str o.publicId),
      ("resourceId", .str o.resourcePublicId),
      ("status", .str op.status.text),
      ("reviewReason", .ofOptStr op.reviewReason)]), false⟩

def existingOperationResult (r : IdempotencyRecord) (fingerprint : Digest) : Tx Reply := do
  validateFingerprint r fingerprint
  if r.isTerminal then terminalResult r
  else do
    let o ← require r.operation
      (.runtime "target-bound idempotency record has no provider operation")
    let row ← query fun w => w.operations.get o
    let op ← require row (.runtime "target-bound idempotency record has no provider operation")
    let payment ← query fun w => w.payments.get o.payment
    ensure (payment.any (·.hasResource o)) (.runtime "provider operation resource binding is missing")
    operationEnvelope o op

def attachKey (o : OperationId) (op : ProviderOperation) (d : KeyDigest) (fingerprint : Digest) :
    Tx Reply := do
  acquire (.recordKey d)
  let taken ← query fun w => w.records.get d
  ensure (taken.isNone = true) .integrity
  let terminal := op.status.terminal
  modify fun w => w.putRecord d ⟨fingerprint, some o, terminal,
    if terminal then op.terminalHttpStatus else none,
    if terminal then op.terminalResponseBytes else none,
    if terminal then op.finalizedAt else none⟩
  operationEnvelope o op

def lockedPayment (p : PaymentId) : Tx PaymentIntent := do
  acquire (.payment p)
  let row ← query fun w => w.payments.get p
  require row (.relayPay (notFound "Payment intent"))

def lockOperationThenResource (o : OperationId) : Tx ProviderOperation := do
  acquire (.operation o)
  let row ← query fun w => w.operations.get o
  let op ← require row (.runtime "singleton resource has no provider operation")
  acquire (.resource o)
  done op

def newOperation (now : Time) : ProviderOperation :=
  ⟨.processing, none, none, none, 0, none, none, none, none, 0, none, none, none, now, [], [], []⟩

def openOperation (p : PaymentId) (o : OperationId) (a : PaymentIntent) : Tx ProviderOperation := do
  acquire (.operation o)
  let taken ← query fun w => w.operations.get o
  ensure (taken.isNone = true) .integrity
  let now ← query World.now
  modify fun w => (w.putOperation o (newOperation now)).putPayment p a
  done (newOperation now)

structure KeyedRequest where
  keyDigest : KeyDigest
  fingerprint : Digest

def withKey (p : PaymentId) (k : KeyedRequest) (next : PaymentIntent → Tx Reply) : Tx Reply := do
  let a ← lockedPayment p
  let existing ← query fun w => w.records.get k.keyDigest
  match existing with
  | some r => existingOperationResult r k.fingerprint
  | none => next a

def attachExisting (o : OperationId) (k : KeyedRequest) : Tx Reply := do
  let op ← lockOperationThenResource o
  attachKey o op k.keyDigest k.fingerprint

def openAndAttach (p : PaymentId) (o : OperationId) (a : PaymentIntent) (k : KeyedRequest) :
    Tx Reply := do
  let op ← openOperation p o a
  attachKey o op k.keyDigest k.fingerprint

def initiateAuthorization (cfg : Service) (p : PaymentId) (k : KeyedRequest) : Tx Reply := do
  ensure (0 < cfg.authHoldSeconds) (.value "authorization hold must be positive")
  withKey p k fun a =>
    match a.authorization with
    | some _ => attachExisting (.authorize p) k
    | none =>
      let auth : Authorization := ⟨a.amount, cfg.authHoldSeconds, .processing, none, none, none⟩
      openAndAttach p (.authorize p) { a with authorization := some auth } k

def succeededAuthorization (a : PaymentIntent) : Option Authorization :=
  a.authorization.filter fun x => x.status = .succeeded

def openVoid (a : PaymentIntent) : Option OperationStatus :=
  (a.void.map Void.status).filter fun s => s ≠ .failed

def ensureCapturable (a : PaymentIntent) (auth : Authorization) : Tx Unit := do
  match openVoid a with
  | some s => raise (relayPay "VOID_IN_PROGRESS" "The authorization is being or has been voided" 409
      [("voidStatus", .str s.text)])
  | none => done ()
  ensure (a.status ≠ .cancelled ∧ a.status ≠ .expired ∧ a.status ≠ .failed)
    (relayPay "PAYMENT_NOT_CAPTURABLE" ("A " ++ a.status.text ++ " payment cannot be captured") 409
      [("status", .str a.status.text)])
  let now ← query World.now
  match auth.expiresAt with
  | some t => ensure (¬t ≤ now) (relayPay "AUTHORIZATION_EXPIRED" "The authorization hold has expired"
      409 [("expiresAt", .str (isoformat t))])
  | none => done ()

def initiateCapture (p : PaymentId) (amount : Option ℤ) (k : KeyedRequest) : Tx Reply :=
  withKey p k fun a => do
    let auth ← require (succeededAuthorization a)
      (relayPay "CAPTURE_REQUIRES_SUCCEEDED_AUTHORIZATION"
        "Capture requires a verified succeeded authorization" 409 [])
    let captureAmount := amount.getD auth.amount
    ensure (0 < captureAmount ∧ captureAmount ≤ auth.amount)
      (relayPay "CAPTURE_AMOUNT_EXCEEDS_AUTHORIZED"
        "Capture amount must be positive and at most the authorized amount" 422
        [("authorizedAmount", .int auth.amount)])
    match a.capture with
    | some existing => do
      ensure (existing.amount = captureAmount) (relayPay "CAPTURE_ALREADY_EXISTS"
        "The payment already has a capture for a different amount" 409
        [("capturedAmount", .int existing.amount)])
      attachExisting (.capture p) k
    | none => do
      ensureCapturable a auth
      let fee ← captureFee a.merchant captureAmount
      let capture : Capture := ⟨captureAmount, fee.feeAmount, fee.gstAmount,
        fee.feeScheduleVersion, .processing, none, none, none⟩
      openAndAttach p (.capture p) { a with capture := some capture } k

def initiateVoid (p : PaymentId) (k : KeyedRequest) : Tx Reply :=
  withKey p k fun a =>
    match a.void with
    | some _ => attachExisting (.void p) k
    | none => do
      let auth ← require (succeededAuthorization a)
        (relayPay "VOID_REQUIRES_SUCCEEDED_AUTHORIZATION"
          "Void requires a verified succeeded authorization" 409 [])
      ensure (a.capture.isNone ∧ a.status = .authorised) (relayPay "PAYMENT_NOT_VOIDABLE"
        "Only an authorised, uncaptured payment can be voided" 409 [("status", .str a.status.text)])
      let void : Void := ⟨auth.amount, .processing, none, none⟩
      openAndAttach p (.void p) { a with void := some void } k

def PaymentIntent.refundReserved (a : PaymentIntent) : ℤ :=
  a.refunds.total fun _ r => if r.status = .failed then 0 else r.amount

def initiateRefund (p : PaymentId) (r : RefundId) (amount : ℤ) (k : KeyedRequest) : Tx Reply :=
  withKey p k fun a => do
    let capture ← require (a.capture.filter fun c => c.status = .succeeded)
      (relayPay "REFUND_REQUIRES_SUCCEEDED_CAPTURE" "Refund requires a verified succeeded capture"
        409 [])
    let available := capture.amount - a.refundReserved
    ensure (¬amount > available) (relayPay "REFUND_AMOUNT_EXCEEDS_AVAILABLE"
      "Refund amount exceeds the currently available captured value" 409
      [("availableAmount", .int available), ("currency", .str "INR")])
    -- the CHECK on the amount and the primary key
    ensure (0 < amount ∧ (a.refunds.get r).isNone = true) .integrity
    let refund : Refund := ⟨amount, .processing, none, none, none⟩
    openAndAttach p (.refund p r) { a with refunds := a.refunds.put r refund } k

def commandConflict : Error :=
  relayPay "COMMAND_CONFLICT" "A concurrent command selected another durable winner" 409 []

def recoverOperationRace (k : KeyedRequest) : Tx Reply := do
  let winner ← query fun w => w.records.get k.keyDigest
  match winner with
  | some r => existingOperationResult r k.fingerprint
  | none => raise commandConflict

structure CreateIntent where
  id : PaymentId
  customer : ℕ
  freshMerchant : MerchantId
  merchantReference : String
  amount : ℤ

def replayIntent (r : IdempotencyRecord) (fingerprint : Digest) : Tx Reply := do
  validateFingerprint r fingerprint
  terminalResult r

def createPaymentIntent (c : CreateIntent) (k : KeyedRequest) : Tx Reply := do
  let existing ← query fun w => w.records.get k.keyDigest
  match existing with
  | some r => replayIntent r k.fingerprint
  | none => do
    let known ← query fun w => decide (c.customer ∈ w.customers)
    ensure (known = true) (.relayPay (notFound "Customer"))
    let merchant ← defaultMerchantAccountId c.freshMerchant
    let body := canonicalJsonBytes (.obj [
      ("id", .str (publicId "pay" c.id)),
      ("customerId", .str (publicId "cus" c.customer)),
      ("merchantReference", .str c.merchantReference),
      ("amount", .int c.amount),
      ("currency", .str "INR"),
      ("status", .str "REQUIRES_AUTHORIZATION")])
    ensure (0 < c.amount) .integrity
    acquire (.payment c.id)
    acquire (.referenceKey c.merchantReference)
    let taken ← query fun w => (w.payments.get c.id).isSome ||
      w.payments.rows.any fun e => e.2.merchantReference = c.merchantReference
    ensure (taken = false) .integrity
    modify fun w => w.putPayment c.id
      (.create c.customer merchant c.merchantReference c.amount .request)
    acquire (.recordKey k.keyDigest)
    let bound ← query fun w => w.records.get k.keyDigest
    ensure (bound.isNone = true) .integrity
    let now ← query World.now
    modify fun w => w.putRecord k.keyDigest
      ⟨k.fingerprint, none, true, some 201, some body, some now⟩
    done ⟨201, body, false⟩

def recoverIntentRace (c : CreateIntent) (k : KeyedRequest) : Tx Reply := do
  let winner ← query fun w => w.records.get k.keyDigest
  match winner with
  | some r => replayIntent r k.fingerprint
  | none => do
    let conflicting ← query fun w =>
      w.payments.rows.any fun e => e.2.merchantReference = c.merchantReference
    ensure (conflicting = false) (relayPay "MERCHANT_REFERENCE_CONFLICT"
      "The merchant payment reference already exists" 409 [])
    raise commandConflict

end RelayPay
