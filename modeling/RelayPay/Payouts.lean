import RelayPay.Settlement
import RelayPay.Validation

namespace RelayPay

open ReadCommitted Txn

inductive ReservationGuard where
  | rowLock | version | constraint
  deriving DecidableEq

namespace Payout

def nextReservation (P : Payout) : ℕ := (P.reservations.map ReservationRow.sequence).foldl max 0 + 1

def reservation (P : Payout) (action : ReservationAction) (amountDelta : ℤ) (reasonCode : String) :
    Payout :=
  { P with reservations := P.reservations ++ [⟨P.nextReservation, action, amountDelta, reasonCode⟩] }

def addHistory (P : Payout) (h : PayoutHistory) : Payout := { P with history := P.history ++ [h] }

def addAttempt (P : Payout) (a : PayoutAttempt) : Payout := { P with attempts := P.attempts ++ [a] }

def attempt? (P : Payout) (n : ℕ) : Option PayoutAttempt :=
  P.attempts.find? fun a => a.attemptNumber = n

def updateAttempt (P : Payout) (n : ℕ) (f : PayoutAttempt → PayoutAttempt) : Payout :=
  { P with attempts := P.attempts.map fun a => if a.attemptNumber = n then f a else a }

def lastNumber (P : Payout) : ℕ := (P.attempts.map PayoutAttempt.attemptNumber).foldl max 0

def latestAttempt (P : Payout) : Option PayoutAttempt := P.attempt? P.lastNumber

def respond (P : Payout) (status : ℕ) (body : Bytes) : Payout :=
  { P with responseHttpStatus := some status, responseBytes := some body }

end Payout

def payoutBody (q : PayoutId) (P : Payout) (attemptNumber : ℕ) : Bytes :=
  canonicalJsonBytes (.obj [
    ("amount", .int P.amount),
    ("attemptNumber", .int attemptNumber),
    ("beneficiaryId", .str (publicId "bnf" P.beneficiary)),
    ("currency", .str "INR"),
    ("failureCode", .ofOptStr P.failureCode),
    ("id", .str (publicId "pot" q)),
    ("reviewReason", .ofOptStr P.reviewReason),
    ("stableProviderKey", .str (payoutStableKey (q, attemptNumber))),
    ("status", .str P.status.text)])

def preparedAttempt (n : ℕ) (keyDigest : Option KeyDigest) (fingerprint : Option Digest)
    (responseBytes : Option Bytes) : PayoutAttempt :=
  ⟨n, .prepared, none, none, none, none, none, keyDigest, fingerprint, responseBytes, []⟩

def newPayout (m : MerchantId) (b : BeneficiaryId) (amount : ℤ) (keyDigest : KeyDigest)
    (fingerprint : Digest) : Payout :=
  ⟨m, b, amount, .processing, none, none, none, keyDigest, fingerprint, none, none, none, [], [], [], []⟩

structure CreatePayout where
  id : PayoutId
  merchant : MerchantId
  beneficiary : BeneficiaryId
  amount : ℤ
  keyDigest : KeyDigest
  fingerprint : Digest
  guard : ReservationGuard

def keyReused : Error :=
  relayPay "IDEMPOTENCY_KEY_REUSED" "The idempotency key was already used for a different request"
    409 []

def CreatePayout.row (c : CreatePayout) : Payout :=
  let P := (((newPayout c.merchant c.beneficiary c.amount c.keyDigest c.fingerprint).addAttempt
    (preparedAttempt 1 none none none)).reservation .reserved c.amount "PAYOUT_CREATED").addHistory
    ⟨some 1, none, .processing, "PAYOUT_CREATED", .admin⟩
  P.respond 202 (payoutBody c.id P 1)

def advanceBalanceVersion (m : MerchantId) (readVersion : ℕ) : Tx Unit := do
  ensure (fitsBigint (readVersion + 1) = true) .database
  acquire (.merchant m)
  let row ← query fun w => w.merchants.get m
  match row with
  | some M => do
    ensure (M.balanceVersion = readVersion) .staleBalanceVersion
    modify fun w => w.putMerchant m { M with balanceVersion := readVersion + 1 }
  | none => raise .staleBalanceVersion

def createPayoutTransaction (c : CreatePayout) : Tx Reply := do
  let existing ← query fun w => w.payouts.rows.find? fun e => e.2.keyDigest = c.keyDigest
  match existing with
  | some (_, P) => do
    ensure (P.fingerprint = c.fingerprint) keyReused
    match P.responseHttpStatus, P.responseBytes with
    | some status, some body => done ⟨status, body, true⟩
    | _, _ => raise (relayPay "PAYOUT_IN_PROGRESS" "The payout command is still processing" 409 [])
  | none => do
    let beneficiary ← query fun w => w.beneficiaries.get c.beneficiary
    let _ ← require (beneficiary.filter Beneficiary.active) (.relayPay (notFound "Beneficiary"))
    let merchant ← scopedMerchant c.merchant (c.guard = .rowLock)
    let balances ← deriveBalances c.merchant
    ensure (¬(c.amount ≤ 0 ∨ (c.amount > balances.payoutEligible ∧ c.guard ≠ .constraint)))
      (relayPay "INSUFFICIENT_PAYOUT_BALANCE"
        "The payout exceeds the positive payout-eligible balance" 409
        [("payoutEligible", .int balances.payoutEligible)])
    ensure (fitsBigint c.amount = true) .database
    acquire (.payout c.id)
    acquire (.payoutKey c.keyDigest)
    let taken ← query fun w =>
      (w.payouts.get c.id).isSome || w.payouts.rows.any fun e => e.2.keyDigest = c.keyDigest
    ensure (taken = false) .integrity
    let now ← query World.now
    modify fun w => (w.putPayout c.id c.row).stampAttempt (c.id, 1) now
    enqueueAll [.reservation c.merchant]
    if c.guard = .version then advanceBalanceVersion c.merchant merchant.balanceVersion else done ()
    done ⟨202, payoutBody c.id c.row 1, false⟩

structure CreateRetry where
  payout : PayoutId
  keyDigest : KeyDigest
  fingerprint : Digest

def Payout.retried (q : PayoutId) (P : Payout) (n : ℕ) (c : CreateRetry) : Payout :=
  let P' := ({ P with
    status := .processing, failureCode := none, reviewReason := none, completedAt := none }
    |>.reservation .reserved P.amount "ADMIN_RETRY").addHistory
    ⟨some n, some P.status, .processing, "ADMIN_RETRY", .admin⟩
  P'.addAttempt (preparedAttempt n (some c.keyDigest) (some c.fingerprint)
    (some (payoutBody q P' n)))

def World.retryWithKey (w : World) (d : KeyDigest) : Option PayoutAttempt :=
  (w.payouts.rows.flatMap fun e => e.2.attempts).find? fun a => a.keyDigest = some d

def createRetry (c : CreateRetry) : Tx Reply := do
  let existing ← query fun w => w.retryWithKey c.keyDigest
  match existing with
  | some a => do
    ensure (a.fingerprint = some c.fingerprint) keyReused
    let body ← require a.responseBytes
      (.runtime "payout retry record is missing its stored response")
    done ⟨201, body, true⟩
  | none => do
    acquire (.payout c.payout)
    let row ← query fun w => w.payouts.get c.payout
    let P ← require row (.relayPay (notFound "Payout"))
    ensure (P.status = .failed) (relayPay "PAYOUT_RETRY_NOT_ALLOWED"
      "Only a verified failed payout can be retried explicitly" 409 [])
    acquire (.merchant P.merchant)
    let merchant ← query fun w => w.merchants.get P.merchant
    let _ ← require merchant (.runtime "payout merchant account is missing")
    let balances ← deriveBalances P.merchant
    ensure (¬balances.payoutEligible < P.amount) (relayPay "INSUFFICIENT_PAYOUT_BALANCE"
      "The payout amount cannot be reacquired" 409 [])
    let n := P.lastNumber + 1
    let beneficiary ← query fun w => w.beneficiaries.get P.beneficiary
    let _ ← require beneficiary (.runtime "payout beneficiary is missing")
    -- the partial unique index on active attempts, and the one on retry keys
    ensure (P.attempts.all fun a => a.status.terminal) .integrity
    acquire (.retryKey c.keyDigest)
    let taken ← query fun w => (w.retryWithKey c.keyDigest).isSome
    ensure (taken = false) .integrity
    let now ← query World.now
    let P' := P.retried c.payout n c
    modify fun w => (w.putPayout c.payout P').stampAttempt (c.payout, n) now
    enqueueAll [.reservation P.merchant]
    done ⟨201, payoutBody c.payout P' n, false⟩

structure PreparedAttempt where
  payout : PayoutId
  number : ℕ
  requestBytes : Bytes
  lookupOnly : Bool
  terminal : Bool

def bankRequest (cfg : Service) (q : PayoutId) (P : Payout) (b : Beneficiary) (n : ℕ) : BankRequest :=
  ⟨cfg.bankAccountId, P.amount, b.bankAccountReference, "INR", publicId "pot" q, payoutStableKey (q, n)⟩

def PayoutAttempt.markSent (a : PayoutAttempt) (request : Bytes) (now : Time) : PayoutAttempt :=
  { a with
    requestBytes := some request, requestSha256 := some (sha256 request), lastSentAt := some now,
    status := .sent,
    evidence := a.evidence ++
      [⟨1, .mutationSend, .sent, sha256 request, none, none, none, none, none, none, none⟩] }

def prepareAttemptSend (cfg : Service) (q : PayoutId) : Tx PreparedAttempt := do
  acquire (.payout q)
  let row ← query fun w => w.payouts.get q
  let P ← require row (.relayPay (notFound "Payout"))
  let a ← require P.latestAttempt (.runtime "payout attempt is missing")
  acquire (.attempt (q, a.attemptNumber))
  if a.status.terminal then done ⟨q, a.attemptNumber, [], true, true⟩
  else match a.lastSentAt with
    | some _ => do
      let request ← require a.requestBytes (.runtime "sent payout attempt is missing request bytes")
      done ⟨q, a.attemptNumber, request, true, false⟩
    | none => do
      let beneficiary ← query fun w => w.beneficiaries.get P.beneficiary
      let b ← require beneficiary (.runtime "payout beneficiary is missing")
      let request := canonicalJsonBytes (bankRequest cfg q P b a.attemptNumber).json
      let now ← query World.now
      ensure (a.evidence.isEmpty = true) .integrity
      modify fun w => (w.putPayout q (P.updateAttempt a.attemptNumber
        fun a => a.markSent request now)).stampAttempt (q, a.attemptNumber) now
      done ⟨q, a.attemptNumber, request, false, false⟩

def defaultNotFoundGraceSeconds : ℕ := 600

def BankClassification.afterGrace (cl : BankClassification) (lastSentAt : Option Time) (now : Time)
    (graceSeconds : ℕ) : BankClassification :=
  match lastSentAt with
  | some sent =>
    if cl.code = some bankNotFoundCode ∧ sent + seconds graceSeconds ≤ now then
      ⟨true, false, false, some true, some bankNotFoundCode⟩
    else cl
  | none => cl

def bankEvidence (a : PayoutAttempt) (requestSha : Digest) (lookupOnly : Bool)
    (obs : Option Observation) (cl : BankClassification) (now : Time) : PayoutEvidence where
  sequence := (a.evidence.map PayoutEvidence.sequence).foldl max 0 + 1
  kind := if lookupOnly then .lookup else .mutationResult
  state := if obs.isNone then .transportError else if cl.ambiguous then .validationRejected
    else .responseReceived
  requestSha256 := requestSha
  responseHttpStatus := obs.map Observation.statusCode
  responseBytes := obs.map Observation.body
  signatureValid := cl.signatureValid
  classification := some (if cl.succeeded then .verifiedSuccess
    else if cl.terminal then .verifiedBusinessDecline else .ambiguous)
  safeErrorCode := cl.code
  completedAt := some now
  answeredAt := obs.map Observation.answeredAt

def payoutEventBytes (q : PayoutId) (P : Payout) : Bytes :=
  canonicalJsonBytes (.obj [
    ("amount", .int P.amount),
    ("currency", .str "INR"),
    ("eventId", .str ("evt_" ++ publicId "pot" q)),
    ("payoutId", .str (publicId "pot" q)),
    ("type", .str "payout.succeeded.v1")])

namespace Payout

def answer (q : PayoutId) (n : ℕ) (P : Payout) : Payout := P.respond 200 (payoutBody q P n)

def observeAmbiguous (P : Payout) (q : PayoutId) (n : ℕ) (ev : PayoutEvidence)
    (code : Option String) (lookupOnly : Bool) : Payout :=
  ({ P.updateAttempt n fun a =>
      { a with status := .ambiguous, reviewReason := code, evidence := a.evidence ++ [ev] } with
    status := .requiresReview, reviewReason := code }
    |>.addHistory ⟨some n, some P.status, .requiresReview, code.getD "BANK_AMBIGUOUS",
      if lookupOnly then .recoveryWorker else .payoutWorker⟩).answer q n

def observeFailure (P : Payout) (q : PayoutId) (n : ℕ) (ev : PayoutEvidence)
    (code : Option String) (now : Time) : Payout :=
  (({ P.updateAttempt n fun a =>
      { a with status := .failed, failureCode := code, evidence := a.evidence ++ [ev] } with
    status := .failed, failureCode := code, reviewReason := none, completedAt := some now }
    |>.reservation .released (-P.amount) "VERIFIED_BANK_FAILURE").addHistory
      ⟨some n, some P.status, .failed, code.getD "BANK_DECLINED", .finalizer⟩).answer q n

def observeSuccess (P : Payout) (q : PayoutId) (n : ℕ) (ev : PayoutEvidence) (now : Time) : Payout :=
  (({ P.updateAttempt n fun a =>
      { a with status := .succeeded, evidence := a.evidence ++ [ev] } with
    status := .succeeded, reviewReason := none, journal := some (.payout q),
    completedAt := some now, events := P.events ++ [payoutEventBytes q P] }
    |>.reservation .consumed (-P.amount) "VERIFIED_BANK_SUCCESS").addHistory
      ⟨some n, some P.status, .succeeded, "VERIFIED_BANK_SUCCESS", .finalizer⟩).answer q n

end Payout

def recordBankObservation (prepared : PreparedAttempt) (obs : Option Observation)
    (classification : BankClassification) (graceSeconds : ℕ) : Tx Unit := do
  let q := prepared.payout
  let n := prepared.number
  acquire (.payout q)
  let row ← query fun w => w.payouts.get q
  acquire (.attempt (q, n))
  let P ← require row (.runtime "payout graph is missing")
  let a ← require (P.attempt? n) (.runtime "payout graph is missing")
  if a.status.terminal then done ()
  else do
    let now ← query World.now
    let cl := classification.afterGrace a.lastSentAt now graceSeconds
    let requestSha ← require a.requestSha256
      (.runtime "sent payout attempt is missing its request digest")
    let ev := bankEvidence a requestSha prepared.lookupOnly obs cl now
    let beneficiary ← query fun w => w.beneficiaries.get P.beneficiary
    let _ ← require beneficiary (.runtime "payout beneficiary is missing")
    if cl.ambiguous then
      modify fun w => (w.putPayout q
        (P.observeAmbiguous q n ev cl.code prepared.lookupOnly)).stampAttempt (q, n) now
    else if !cl.succeeded then do
      modify fun w => (w.putPayout q (P.observeFailure q n ev cl.code now)).stampAttempt (q, n) now
      enqueueAll [.reservation P.merchant]
    else do
      let available ← account .availablePayable (some P.merchant)
      let clearing ← account .payoutClearing (some P.merchant)
      postJournal (.payout q) P.merchant none
        [⟨available, .debit, P.amount⟩, ⟨clearing, .credit, P.amount⟩]
      addBalanceTransaction ⟨P.merchant, .payout q, .payout, 0, -P.amount, 0, P.amount⟩
      ensure (P.events.isEmpty = true) .integrity
      modify fun w => (w.putPayout q (P.observeSuccess q n ev now)).stampAttempt (q, n) now
      enqueueAll [.reservation P.merchant]

def sentRecoveryGraceSeconds : ℕ := 30
def sentRecoveryLeaseSeconds : ℕ := 30

def World.staleSent (w : World) (now : Time) (e : AttemptId) : Bool :=
  match (w.payouts.get e.1).bind fun P => P.attempt? e.2, w.attemptStamps.get e with
  | some a, some stamp =>
    a.status = .sent &&
      (a.lastSentAt.any fun sent => sent + seconds sentRecoveryGraceSeconds ≤ now) &&
      stamp + seconds sentRecoveryLeaseSeconds ≤ now
  | _, _ => false

def World.attemptIds (w : World) : List AttemptId :=
  w.payouts.rows.flatMap fun e => e.2.attempts.map fun a => (e.1, a.attemptNumber)

def World.sentAt (w : World) (e : AttemptId) : Time :=
  (((w.payouts.get e.1).bind fun P => P.attempt? e.2).bind PayoutAttempt.lastSentAt).getD 0

def claimStaleSentAttempts (limit : ℕ) : Tx (List PayoutId) := do
  let now ← query World.now
  let candidates ← query fun w =>
    (((w.attemptIds.filter (w.staleSent now)).insertionSort fun a b => w.sentAt a ≤ w.sentAt b).take
      limit)
  let claimed ← skipLocked Key.attempt (fun w e => w.staleSent now e) candidates
  forEach (fun e => modify fun w => w.stampAttempt e now) claimed
  done (claimed.map Prod.fst)

def World.dispatchable (w : World) : List AttemptId :=
  w.payouts.rows.flatMap fun e =>
    (e.2.attempts.filter fun a => a.status = .prepared || a.status = .ambiguous).map fun a =>
      (e.1, a.attemptNumber)

def selectPayoutBatch (limit : ℕ) : Tx (List PayoutId) :=
  query fun w =>
    ((w.dispatchable.insertionSort fun a b =>
      (w.attemptStamps.get a).getD 0 ≤ (w.attemptStamps.get b).getD 0).take limit).map Prod.fst

end RelayPay
