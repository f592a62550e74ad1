import RelayPay.Provider.Finalizer

/-! Sending an operation once, recording what came back, and leasing operations for lookup. -/

namespace RelayPay

open ReadCommitted Txn

def expectedResultFor (cfg : Service) (o : OperationId) : Tx ExpectedProviderResult := do
  let payment ← query fun w => w.payments.get o.payment
  let amount ← require (payment.bind fun a => a.resourceAmount o)
    (.runtime "provider operation resource is missing")
  done ⟨cfg.providerAccountId, o.stableKey, o.kind, o.resourcePublicId, amount, "INR"⟩

def expectedResult (cfg : Service) (o : OperationId) : Tx ExpectedProviderResult := do
  let row ← query fun w => w.operations.get o
  let _ ← require row (.runtime "provider operation is missing")
  expectedResultFor cfg o

structure PreparedOperation where
  operation : OperationId
  requestBytes : Bytes
  alreadySent : Bool
  terminal : Bool

def providerRequest (e : ExpectedProviderResult) : Bytes :=
  canonicalJsonBytes (.obj [
    ("accountId", .str e.accountId),
    ("amount", .int e.amount),
    ("currency", .str e.currency),
    ("operationKind", .str e.operationKind),
    ("reference", .str e.reference),
    ("stableKey", .str e.stableKey)])

def mutationAttempt (request : Bytes) (now : Time) : ProviderAttempt where
  sequence := 1
  kind := .mutation
  state := .sent
  requestSha256 := sha256 request
  responseHttpStatus := none
  responseBytes := none
  responseSha256 := none
  signatureValid := none
  classification := none
  safeErrorCode := none
  startedAt := now
  completedAt := none
  answeredAt := none

def ProviderOperation.firstSend (op : ProviderOperation) (request : Bytes) (now : Time) :
    ProviderOperation :=
  { op with
    requestBytes := some request
    requestSha256 := some (sha256 request)
    attemptCount := 1
    lastSentAt := some now
    nextLookupAt := some now
    attempts := op.attempts ++ [mutationAttempt request now] }

def prepareFirstSend (cfg : Service) (o : OperationId) : Tx PreparedOperation := do
  acquire (.operation o)
  let row ← query fun w => w.operations.get o
  let op ← require row (.runtime "provider operation is missing after command initiation")
  if op.status.terminal then done ⟨o, [], true, true⟩
  else match op.lastSentAt with
    | some _ => do
      let request ← require op.requestBytes
        (.runtime "sent operation is missing canonical request bytes")
      done ⟨o, request, true, false⟩
    | none => do
      let expected ← expectedResultFor cfg o
      let request := providerRequest expected
      let now ← query World.now
      ensure (op.attempts.all fun t => t.sequence ≠ 1) .integrity
      modify fun w => w.putOperation o (op.firstSend request now)
      done ⟨o, request, false, false⟩

structure RecordedOutcome where
  attempt : ℕ
  action : ProviderAction
  reviewReason : Option String

def nextLookup (now : Time) (attemptCount : ℕ) : Time := now + seconds (min (2 ^ (attemptCount - 2)) 60)

def ProviderAttempt.record (t : ProviderAttempt) (obs : Option Observation)
    (cl : ClassifiedProviderResult) (now : Time) : ProviderAttempt :=
  { t with
    completedAt := some now
    state := if obs.isNone then .transportError else if cl.action = .review then .validationRejected
      else .responseReceived
    responseHttpStatus := obs.map Observation.statusCode
    responseBytes := obs.map Observation.body
    responseSha256 := obs.map fun x => sha256 x.body
    signatureValid := cl.signatureValid
    classification := some cl.classification
    safeErrorCode := cl.declineCode.or cl.safeErrorCode
    answeredAt := obs.map Observation.answeredAt }

def invalidEvidence (action : ProviderAction) : Option String :=
  if action = .review then some "INVALID_EVIDENCE" else none

def ProviderOperation.mutation? (op : ProviderOperation) : Option ProviderAttempt :=
  op.attempts.find? fun t => t.kind = .mutation

def completeMutation (o : OperationId) (obs : Option Observation) (cl : ClassifiedProviderResult) :
    Tx (Option RecordedOutcome) := do
  acquire (.operation o)
  let row ← query fun w => w.operations.get o
  let op ← require row (.runtime "provider operation disappeared after send")
  match op.mutation? with
  | none => done none
  | some t =>
    if t.completedAt.isSome then done none
    else do
      let now ← query World.now
      let op' := { op with
        attempts := op.attempts.map fun x => if x.sequence = t.sequence then x.record obs cl now else x
        nextLookupAt := some (if cl.action = .lookup then now else nextLookup now op.attemptCount) }
      modify fun w => w.putOperation o op'
      done (some ⟨t.sequence, cl.action, invalidEvidence cl.action⟩)

def indeterminateAfter : ℕ := 5

def ProviderOperation.nextSequence (op : ProviderOperation) : ℕ :=
  (op.attempts.map ProviderAttempt.sequence).foldl max 0 + 1

def ProviderOperation.lookups (op : ProviderOperation) : ℕ :=
  op.attempts.countP fun t => t.kind = .lookup

def lookupAttempt (o : OperationId) (sequence : ℕ) (now : Time) : ProviderAttempt where
  sequence := sequence
  kind := .lookup
  state := .responseReceived
  requestSha256 := sha256 (canonicalJsonBytes (.obj [
    ("accountId", .str "configured"), ("stableKey", .str o.stableKey)]))
  responseHttpStatus := none
  responseBytes := none
  responseSha256 := none
  signatureValid := none
  classification := none
  safeErrorCode := none
  startedAt := now
  completedAt := none
  answeredAt := none

/-- What a recorded lookup comes to. A signed not-found is final once the grace period since the recorded send is over
at the moment of recording. -/
structure LookupRuling where
  classification : Classification
  action : ProviderAction
  reviewReason : Option String
  nextLookupAt : Time

def lookupRuling (cl : ClassifiedProviderResult) (lastSentAt : Time) (lookupCount : ℕ) (now next : Time)
    (graceSeconds : ℕ) : LookupRuling :=
  if cl.action = .notFound then
    let deadline := lastSentAt + seconds graceSeconds
    if deadline ≤ now then ⟨.verifiedNotFoundFinal, .finalizeFailure, none, next⟩
    else ⟨.verifiedNotFoundWithinGrace, .processing, none, min next deadline⟩
  else if (cl.action = .lookup ∨ cl.action = .processing) ∧ indeterminateAfter ≤ lookupCount then
    ⟨cl.classification, .review, some "PROVIDER_INDETERMINATE", next⟩
  else ⟨cl.classification, cl.action, invalidEvidence cl.action, next⟩

def ProviderOperation.recordLookup (op : ProviderOperation) (o : OperationId)
    (obs : Option Observation) (cl : ClassifiedProviderResult) (ruling : LookupRuling) (now : Time) :
    ProviderOperation :=
  { op with
    attempts := op.attempts ++ [{ (lookupAttempt o op.nextSequence now).record obs cl now with
      classification := some ruling.classification }]
    attemptCount := op.attemptCount + 1
    lookupLeaseToken := none
    lookupLeaseExpiresAt := none
    nextLookupAt := some ruling.nextLookupAt }

def recordLookupObservation (o : OperationId) (leaseToken : Option Token) (obs : Option Observation)
    (cl : ClassifiedProviderResult) (graceSeconds : ℕ) : Tx (Option RecordedOutcome) := do
  acquire (.operation o)
  let row ← query fun w => w.operations.get o
  match row with
  | none => done none
  | some op =>
    if op.status.terminal then done none
    else if leaseToken.isSome ∧ op.lookupLeaseToken ≠ leaseToken then done none
    else do
      let now ← query World.now
      ensure (cl.action = .notFound → op.lastSentAt.isSome)
        (.runtime "lookup recorded for an operation that was never sent")
      let ruling := lookupRuling cl (op.lastSentAt.getD 0) (1 + op.lookups) now
        (nextLookup now (op.attemptCount + 1)) graceSeconds
      modify fun w => w.putOperation o (op.recordLookup o obs cl ruling now)
      done (some ⟨op.nextSequence, ruling.action, ruling.reviewReason⟩)

structure RecoveryClaim where
  operation : OperationId
  leaseToken : Token

def ProviderOperation.leaseFree (op : ProviderOperation) (now : Time) : Bool :=
  op.lookupLeaseExpiresAt.all fun t => t ≤ now

def ProviderOperation.due (op : ProviderOperation) (now : Time) : Bool :=
  op.status = .processing && op.lastSentAt.isSome && (op.nextLookupAt.any fun t => t ≤ now) &&
    op.leaseFree now

def unsentDispatchGraceSeconds : ℕ := 30

def ProviderOperation.unsent (op : ProviderOperation) (now : Time) : Bool :=
  op.status = .processing && op.lastSentAt.isNone &&
    op.createdAt + seconds unsentDispatchGraceSeconds ≤ now && op.leaseFree now

def leaseSeconds : ℕ := 30

def ProviderOperation.lease (op : ProviderOperation) (token : Token) (now : Time) : ProviderOperation :=
  { op with lookupLeaseToken := some token, lookupLeaseExpiresAt := some (now + seconds leaseSeconds) }

def leaseOperation (now : Time) (claims : List RecoveryClaim) (c : RecoveryClaim) :
    Tx (List RecoveryClaim) := do
  let row ← query fun w => w.operations.get c.operation
  match row with
  | none => done claims
  | some op => do
    modify fun w => w.putOperation c.operation (op.lease c.leaseToken now)
    done (claims ++ [c])

def World.selectOperations (w : World) (p : ProviderOperation → Bool)
    (key : ProviderOperation → Time) (limit : ℕ) : List OperationId :=
  (((w.operations.rows.filter fun e => p e.2).insertionSort fun a b => key a.2 ≤ key b.2).take
    limit).map Prod.fst

def claimOperations (p : Time → ProviderOperation → Bool) (key : ProviderOperation → Time)
    (base : Token) (limit : ℕ) : Tx (List RecoveryClaim) := do
  let now ← query World.now
  let candidates ← query fun w => w.selectOperations (p now) key limit
  let taken ← skipLocked Key.operation (fun w o => (w.operations.get o).any (p now)) candidates
  foldOver (leaseOperation now) []
    (taken.zipIdx.map fun e => (⟨e.1, base + e.2⟩ : RecoveryClaim))

def claimDueOperations (base : Token) (limit : ℕ) : Tx (List RecoveryClaim) :=
  claimOperations (fun now op => op.due now) (fun op => op.nextLookupAt.getD 0) base limit

def claimUnsentOperations (base : Token) (limit : ℕ) : Tx (List RecoveryClaim) :=
  claimOperations (fun now op => op.unsent now) (fun op => op.createdAt) base limit

def claimSpecificOperation (o : OperationId) (token : Token) (requireReview : Bool) :
    Tx RecoveryClaim := do
  let now ← query World.now
  acquire (.operation o)
  let row ← query fun w => w.operations.get o
  let op ← require row (.relayPay (notFound "Provider operation"))
  ensure (op.lastSentAt.isSome = true) (relayPay "LOOKUP_NOT_AVAILABLE"
    "Provider status lookup is unavailable before the first recorded send" 409 [])
  ensure (requireReview = true → op.status = .requiresReview) (relayPay "OPERATION_NOT_IN_REVIEW"
    "Administrative lookup is available only for review operations" 409 [])
  ensure (op.status.terminal = false) (relayPay "OPERATION_TERMINAL"
    "A terminal provider operation does not require lookup" 409 [])
  ensure (op.leaseFree now = true) (relayPay "LOOKUP_IN_PROGRESS"
    "A provider status lookup is already in progress" 409 [])
  modify fun w => w.putOperation o (op.lease token now)
  done ⟨o, token⟩

end RelayPay
