import RelayPay.Payments.Expiry

/-! The one finalizer of provider operations, and the two ways an operation goes to review. -/

namespace RelayPay

open ReadCommitted Txn

def lockedGraph (o : OperationId) : Tx (PaymentIntent × ProviderOperation) := do
  let initial ← query fun w => w.operations.get o
  let _ ← require initial (.runtime "provider operation is missing")
  acquire (.payment o.payment)
  let payment ← query fun w => w.payments.get o.payment
  let a ← require payment (.runtime "provider operation payment is missing")
  acquire (.operation o)
  let row ← query fun w => w.operations.get o
  let op ← require row (.runtime "provider operation is missing")
  acquire (.resource o)
  ensure (a.hasResource o = true) (.runtime "provider operation resource binding is missing")
  done (a, op)

def PaymentIntent.resourceAmount (a : PaymentIntent) : OperationId → Option ℤ
  | .authorize _ => a.authorization.map Authorization.amount
  | .capture _ => a.capture.map Capture.amount
  | .void _ => a.void.map Void.amount
  | .refund _ r => (a.refunds.get r).map Refund.amount

def PaymentIntent.setResourceStatus (a : PaymentIntent) (s : OperationStatus) :
    OperationId → PaymentIntent
  | .authorize _ => { a with authorization := a.authorization.map fun x => { x with status := s } }
  | .capture _ => { a with capture := a.capture.map fun x => { x with status := s } }
  | .void _ => { a with void := a.void.map fun x => { x with status := s } }
  | .refund _ r =>
    match a.refunds.get r with
    | some x => { a with refunds := a.refunds.put r { x with status := s } }
    | none => a

structure Verdict where
  succeeded : Bool
  failureCode : Option String
  now : Time

namespace Verdict

variable (v : Verdict)

def status : OperationStatus := if v.succeeded then .succeeded else .failed

def doneAt : Option Time := if v.succeeded then some v.now else none

def authorization (x : Authorization) : Authorization :=
  { x with
    status := v.status, authorizedAt := v.doneAt, failureCode := v.failureCode,
    expiresAt := v.doneAt.map fun t => t + seconds x.holdSeconds }

def capture (journal : Option JournalId) (x : Capture) : Capture :=
  { x with
    status := v.status, capturedAt := v.doneAt, failureCode := v.failureCode, journal := journal }

def void (x : Void) : Void :=
  { x with status := v.status, voidedAt := v.doneAt, failureCode := v.failureCode }

def refund (journal : Option JournalId) (x : Refund) : Refund :=
  { x with
    status := v.status, refundedAt := v.doneAt, failureCode := v.failureCode, journal := journal }

end Verdict

def refundTargetStatus (p : PaymentId) : Tx PaymentStatus := do
  let captured ← query fun w =>
    ((w.payments.get p).bind fun a => a.capture.filter fun c => c.status = .succeeded).map Capture.amount
  let refunded ← query fun w =>
    ((w.payments.get p).map fun a =>
      a.refunds.total fun _ r => if r.status = .succeeded then r.amount else 0).getD 0
  done (if captured = some refunded then .refunded else .partiallyRefunded)

def finalizeAuthorization (p : PaymentId) (a : PaymentIntent) (x : Authorization) (v : Verdict)
    (actor : Actor) : Tx Unit := do
  let a' := { a with authorization := some (v.authorization x) }
  modify fun w => w.putPayment p a'
  transition p a' (if v.succeeded then .authorised else .failed)
    (if v.succeeded then .authorizationSucceeded else .authorizationDeclined) actor

def finalizeCapture (p : PaymentId) (a : PaymentIntent) (x : Capture) (v : Verdict)
    (actor : Actor) : Tx Unit := do
  let journal ← if v.succeeded then do
      let j ← postCaptureJournal p x.amount x.feeAmount x.gstAmount
      done (some j)
    else done x.journal
  let a' := { a with capture := some (v.capture journal x) }
  modify fun w => w.putPayment p a'
  transition p a' (if v.succeeded then .captured else .failed)
    (if v.succeeded then .captureSucceeded else .captureDeclined) actor

def finalizeVoid (p : PaymentId) (a : PaymentIntent) (x : Void) (v : Verdict) (actor : Actor) :
    Tx Unit := do
  let a' := { a with void := some (v.void x) }
  modify fun w => w.putPayment p a'
  if v.succeeded then transition p a' .cancelled .voidSucceeded actor else done ()

def finalizeRefund (p : PaymentId) (r : RefundId) (a : PaymentIntent) (x : Refund) (v : Verdict)
    (actor : Actor) : Tx Unit := do
  let journal ← if v.succeeded then do
      let j ← postRefundJournal p r x.amount
      done (some j)
    else done x.journal
  let a' := { a with refunds := a.refunds.put r (v.refund journal x) }
  modify fun w => w.putPayment p a'
  if v.succeeded then do
    let target ← refundTargetStatus p
    transition p a' target .refundSucceeded actor
  else done ()

def bindingMissing : Error := .runtime "provider operation resource binding is missing"

def finalizeResource (o : OperationId) (a : PaymentIntent) (v : Verdict) (actor : Actor) : Tx Unit :=
  match o with
  | .authorize p => do
    let x ← require a.authorization bindingMissing
    finalizeAuthorization p a x v actor
  | .capture p => do
    let x ← require a.capture bindingMissing
    finalizeCapture p a x v actor
  | .void p => do
    let x ← require a.void bindingMissing
    finalizeVoid p a x v actor
  | .refund p r => do
    let x ← require (a.refunds.get r) bindingMissing
    finalizeRefund p r a x v actor

def OperationId.eventType : OperationId → Option String
  | .authorize _ => some "payment.authorized.v1"
  | .capture _ => some "payment.captured.v1"
  | .void _ => none
  | .refund _ _ => some "refund.succeeded.v1"

def merchantEvent (o : OperationId) (type : String) (amount : ℤ) (now : Time) : MerchantEvent :=
  ⟨type, canonicalJsonBytes (.obj [
    ("id", .str ("evt_" ++ o.stableKey)),
    ("type", .str type),
    ("schemaVersion", .int 1),
    ("occurredAt", .str (isoformat now)),
    ("data", .obj [
      ("amount", .int amount),
      ("currency", .str "INR"),
      ("operationId", .str o.publicId),
      ("paymentIntentId", .str (publicId "pay" o.payment)),
      ("resourceId", .str o.resourcePublicId)])]), now⟩

def EndpointVersion.listens (e : EndpointVersion) (eventType : String) (timestamp : Time) : Bool :=
  e.endpointActive && e.activeFrom ≤ timestamp && (e.activeUntil.all fun t => timestamp < t) &&
    e.subscribedEventTypes.contains eventType

def World.listeners (w : World) (eventType : String) (timestamp : Time) :
    List (EndpointVersionId × EndpointVersion) :=
  (w.endpointVersions.rows.filter fun e => e.2.listens eventType timestamp).insertionSort
    fun a b => a.1 ≤ b.1

def appendRecipients (o : OperationId) (v : Verdict) : Tx Unit :=
  match o.eventType with
  | some eventType =>
    if v.succeeded then do
      let versions ← query fun w => w.listeners eventType v.now
      let environment ← query World.environment
      ensure (∀ e ∈ versions, e.2.environment = environment) .integrity
      modify fun w => w.addRecipients (versions.map fun e => ⟨o, eventType, e.1⟩)
    else done ()
  | none => done ()

def finalizedEvents (o : OperationId) (v : Verdict) (amount : ℤ) : List MerchantEvent :=
  if v.succeeded then (o.eventType.map fun t => merchantEvent o t amount v.now).toList else []

def terminalResponse (o : OperationId) (amount : ℤ) (v : Verdict) : Bytes :=
  canonicalJsonBytes (.obj [
    ("amount", .int amount),
    ("currency", .str "INR"),
    ("failureCode", .ofOptStr v.failureCode),
    ("operationId", .str o.publicId),
    ("paymentIntentId", .str (publicId "pay" o.payment)),
    ("resourceId", .str o.resourcePublicId),
    ("status", .str v.status.text)])

def ProviderOperation.finalized (op : ProviderOperation) (o : OperationId) (v : Verdict)
    (amount : ℤ) (evidence : ℕ) (c : Classification) (actor : Actor) : ProviderOperation :=
  { op with
    status := v.status
    reviewReason := none
    terminalHttpStatus := some 200
    terminalResponseBytes := some (terminalResponse o amount v)
    finalizedAt := some v.now
    lookupLeaseToken := none
    lookupLeaseExpiresAt := none
    nextLookupAt := none
    events := op.events ++ finalizedEvents o v amount
    history := op.history ++ [⟨op.status, v.status, .evidence c, some evidence, actor⟩] }

def finalizeRecord (o : OperationId) (response : Bytes) (now : Time) (r : IdempotencyRecord) :
    IdempotencyRecord :=
  if r.operation = some o then
    { r with
      isTerminal := true, httpStatus := some 200, responseBytes := some response,
      finalizedAt := some now }
  else r

def ProviderOperation.attempt? (op : ProviderOperation) (n : ℕ) : Option ProviderAttempt :=
  op.attempts.find? fun t => t.sequence = n

def terminalClassification (c : Classification) : Bool :=
  c = .verifiedSuccess || c = .verifiedBusinessDecline || c = .verifiedNotFoundFinal

def verdictOf (op : ProviderOperation) (evidence : ℕ) (now : Time) :
    Except Error (Classification × Verdict) :=
  match op.attempt? evidence with
  | none => .error (.runtime "finalization evidence does not belong to the operation")
  | some t =>
    if t.signatureValid ≠ some true then
      .error (.runtime "unverified provider evidence cannot finalize an operation")
    else match t.classification with
      | none => .error (.runtime "provider evidence is not a verified terminal outcome")
      | some c =>
        if !terminalClassification c then
          .error (.runtime "provider evidence is not a verified terminal outcome")
        else if c = .verifiedSuccess then .ok (c, ⟨true, none, now⟩)
        else if t.safeErrorCode.getD "" = "" then
          .error (.runtime "verified business decline is missing its decline code")
        else .ok (c, ⟨false, t.safeErrorCode, now⟩)

def finalizeVerifiedAttempt (o : OperationId) (evidence : ℕ) (actor : Actor) : Tx Unit := do
  let (a, op) ← lockedGraph o
  if op.status.terminal then
    ensure (op.terminalHttpStatus.isSome ∧ op.terminalResponseBytes.isSome)
      (.runtime "terminal operation is missing canonical response evidence")
  else do
    let now ← query World.now
    match verdictOf op evidence now with
    | .error e => raise e
    | .ok (c, v) => do
      let amount ← require (a.resourceAmount o) bindingMissing
      finalizeResource o a v actor
      ensure (v.succeeded = true → op.events.all fun e => some e.eventType ≠ o.eventType) .integrity
      appendRecipients o v
      modify fun w => (w.putOperation o (op.finalized o v amount evidence c actor)).updateRecords
        fun _ => finalizeRecord o (terminalResponse o amount v) now

def ProviderOperation.toReview (op : ProviderOperation) (reason : String) (evidence : Option ℕ)
    (actor : Actor) : ProviderOperation :=
  { op with
    status := .requiresReview
    reviewReason := some reason
    nextLookupAt := none
    history := op.history ++ [⟨op.status, .requiresReview, .review reason, evidence, actor⟩] }

def markOperationForReview (o : OperationId) (reason : String) (evidence : Option ℕ)
    (actor : Actor) : Tx Unit := do
  let (a, op) ← lockedGraph o
  if op.status.terminal then done ()
  else
    modify fun w => (w.putOperation o { op.toReview reason evidence actor with
      lookupLeaseToken := none, lookupLeaseExpiresAt := none }).putPayment o.payment
        (a.setResourceStatus .requiresReview o)

def reviewAfter : ℕ := 3

def recordApplyFailure (o : OperationId) (evidence : ℕ) : Tx ℕ := do
  let (a, op) ← lockedGraph o
  if op.status.terminal then done op.applyFailureCount
  else do
    let count := op.applyFailureCount + 1
    let op' := { op with applyFailureCount := count }
    if reviewAfter ≤ count then
      modify fun w => (w.putOperation o (op'.toReview "APPLY_FAILURE" (some evidence) .finalizer)).putPayment
        o.payment (a.setResourceStatus .requiresReview o)
    else modify fun w => w.putOperation o op'
    done count

end RelayPay
