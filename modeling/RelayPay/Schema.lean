import Mathlib.Data.Nat.Pairing
import Mathlib.Tactic.Simps.Basic
import RelayPay.Canonical
import RelayPay.ReadCommitted.Program
import RelayPay.ReadCommitted.Table

/-! The rows of one environment. A row that is unique per parent sits in its parent, and natural keys replace ids. -/

namespace RelayPay

open ReadCommitted

abbrev PaymentId := ℕ
abbrev RefundId := ℕ
abbrev MerchantId := ℕ
abbrev PayoutId := ℕ
abbrev BeneficiaryId := ℕ
abbrev Token := ℕ
abbrev EnvironmentId := ℕ
abbrev EndpointVersionId := ℕ

abbrev Time := ℕ

def seconds (n : ℕ) : Time := n * 1000000

def isoformat (t : Time) : String := toString t

def publicId (tag : String) (id : ℕ) : String := tag ++ "_" ++ toString id

structure KeyDigest where
  key : String
  deriving DecidableEq

structure RelayPayError where
  code : String
  message : String
  httpStatus : ℕ
  details : Json := .obj []

def notFound (resource : String) : RelayPayError where
  code := "RESOURCE_NOT_FOUND"
  message := resource ++ " was not found"
  httpStatus := 404

inductive Error where
  | relayPay (e : RelayPayError)
  | integrity
  | database
  | staleBalanceVersion
  | runtime (message : String)
  | value (message : String)
  | attribute

inductive PaymentStatus where
  | created | requiresAction | authorised | captured | partiallyRefunded | refunded | failed
  | expired | cancelled
  deriving DecidableEq

inductive StatusReason where
  | paymentCreated | authorizationSucceeded | authorizationDeclined | captureSucceeded
  | captureDeclined | voidSucceeded | refundSucceeded | authorizationExpired
  deriving DecidableEq

inductive Actor where
  | request | recoveryWorker | adminLookup | finalizer | webhook | expiryWorker
  deriving DecidableEq

structure StatusRow where
  fromStatus : Option PaymentStatus
  toStatus : PaymentStatus
  reason : StatusReason
  actor : Actor
  statusVersion : ℕ

inductive OperationStatus where
  | processing | requiresReview | succeeded | failed
  deriving DecidableEq

def OperationStatus.terminal (s : OperationStatus) : Bool := s = .succeeded || s = .failed

def OperationStatus.text : OperationStatus → String
  | .processing => "PROCESSING"
  | .requiresReview => "REQUIRES_REVIEW"
  | .succeeded => "SUCCEEDED"
  | .failed => "FAILED"

def PaymentStatus.text : PaymentStatus → String
  | .created => "created"
  | .requiresAction => "requires_action"
  | .authorised => "authorised"
  | .captured => "captured"
  | .partiallyRefunded => "partially_refunded"
  | .refunded => "refunded"
  | .failed => "failed"
  | .expired => "expired"
  | .cancelled => "cancelled"

inductive OperationId where
  | authorize (p : PaymentId)
  | capture (p : PaymentId)
  | void (p : PaymentId)
  | refund (p : PaymentId) (r : RefundId)
  deriving DecidableEq

namespace OperationId

def payment : OperationId → PaymentId
  | authorize p => p
  | capture p => p
  | void p => p
  | refund p _ => p

def kind : OperationId → String
  | authorize _ => "AUTHORIZE"
  | capture _ => "CAPTURE"
  | void _ => "VOID"
  | refund _ _ => "REFUND"

def stableKey : OperationId → String
  | authorize p => "authorize:" ++ publicId "pay" p
  | capture p => "capture:" ++ publicId "pay" p
  | void p => "void:" ++ publicId "pay" p
  | refund p r => "refund:" ++ publicId "ref" (Nat.pair p r)

def resourcePublicId : OperationId → String
  | authorize p => publicId "auth" p
  | capture p => publicId "cap" p
  | void p => publicId "vod" p
  | refund p r => publicId "ref" (Nat.pair p r)

def publicId (o : OperationId) : String := "op_" ++ o.stableKey

end OperationId

inductive JournalType where
  | capture | refund | settlement | payout
  deriving DecidableEq

inductive JournalId where
  | capture (p : PaymentId)
  | refund (p : PaymentId) (r : RefundId)
  | settlement (p : PaymentId)
  | payout (q : PayoutId)
  deriving DecidableEq

structure Authorization where
  amount : ℤ
  holdSeconds : ℕ
  status : OperationStatus
  failureCode : Option String
  authorizedAt : Option Time
  expiresAt : Option Time

structure Capture where
  amount : ℤ
  feeAmount : ℤ
  gstAmount : ℤ
  feeScheduleVersion : Option ℕ
  status : OperationStatus
  failureCode : Option String
  capturedAt : Option Time
  journal : Option JournalId

def Capture.netAmount (c : Capture) : ℤ := c.amount - c.feeAmount - c.gstAmount

structure Void where
  amount : ℤ
  status : OperationStatus
  failureCode : Option String
  voidedAt : Option Time

structure Refund where
  amount : ℤ
  status : OperationStatus
  failureCode : Option String
  refundedAt : Option Time
  journal : Option JournalId

structure PaymentIntent where
  customer : ℕ
  merchant : MerchantId
  merchantReference : String
  amount : ℤ
  status : PaymentStatus
  statusVersion : ℕ
  history : List StatusRow
  authorization : Option Authorization
  capture : Option Capture
  void : Option Void
  refunds : Table RefundId Refund

structure FeeScheduleTerms where
  mdrBps : ℕ
  fixedPaise : ℕ
  gstBps : ℕ
  minFeePaise : Option ℕ
  maxFeePaise : Option ℕ

structure FeeScheduleVersion where
  id : ℕ
  merchant : MerchantId
  version : ℕ
  effectiveFrom : Time
  terms : FeeScheduleTerms

inductive AttemptKind where
  | mutation | lookup | webhook
  deriving DecidableEq

inductive AttemptState where
  | sent | responseReceived | transportError | validationRejected
  deriving DecidableEq

inductive Classification where
  | ambiguousTransport | ambiguousHttp5xx | nonBusinessHttp4xx | invalidSignature | invalidSchema
  | mismatchedEvidence | verifiedNotFound | verifiedNotFoundFinal | verifiedNotFoundWithinGrace
  | verifiedSuccess | verifiedBusinessDecline | verifiedPending
  deriving DecidableEq

/-- One contact with the provider. `answeredAt` is not a column: it is when the answer was given, which the source knows
only at the moment of recording. -/
structure ProviderAttempt where
  sequence : ℕ
  kind : AttemptKind
  state : AttemptState
  requestSha256 : Digest
  responseHttpStatus : Option ℕ
  responseBytes : Option Bytes
  responseSha256 : Option Digest
  signatureValid : Option Bool
  classification : Option Classification
  safeErrorCode : Option String
  startedAt : Time
  completedAt : Option Time
  answeredAt : Option Time

inductive HistoryReason where
  | evidence (c : Classification)
  | review (reason : String)

structure OperationHistory where
  fromStatus : OperationStatus
  toStatus : OperationStatus
  reason : HistoryReason
  evidenceAttempt : Option ℕ
  actor : Actor

structure MerchantEvent where
  eventType : String
  eventBytes : Bytes
  occurredAt : Time

structure ProviderOperation where
  status : OperationStatus
  reviewReason : Option String
  requestBytes : Option Bytes
  requestSha256 : Option Digest
  attemptCount : ℕ
  lastSentAt : Option Time
  nextLookupAt : Option Time
  lookupLeaseToken : Option Token
  lookupLeaseExpiresAt : Option Time
  applyFailureCount : ℕ
  terminalHttpStatus : Option ℕ
  terminalResponseBytes : Option Bytes
  finalizedAt : Option Time
  createdAt : Time
  attempts : List ProviderAttempt
  history : List OperationHistory
  events : List MerchantEvent

structure EndpointVersion where
  environment : EnvironmentId
  endpointActive : Bool
  subscribedEventTypes : List String
  activeFrom : Time
  activeUntil : Option Time

structure EventRecipient where
  operation : OperationId
  eventType : String
  endpointVersion : EndpointVersionId
  deriving DecidableEq

structure IdempotencyRecord where
  fingerprint : Digest
  operation : Option OperationId
  isTerminal : Bool
  httpStatus : Option ℕ
  responseBytes : Option Bytes
  finalizedAt : Option Time

inductive PspStatus where
  | pending | processing | applied | ignored | deferred | review | unmatched | deadLetter
  deriving DecidableEq

structure PspEvent where
  payloadBytes : Bytes
  payloadSha256 : Digest
  operation : Option OperationId
  status : PspStatus
  outcomeCode : Option String
  attemptCount : ℕ
  nextAttemptAt : Option Time
  leaseToken : Option Token
  leaseExpiresAt : Option Time
  processedAt : Option Time
  createdAt : Time

inductive AccountCode where
  | pendingPayable | availablePayable | payoutClearing | merchantReceivable | providerClearing
  | platformFeeRevenue | gstPayable
  deriving DecidableEq

inductive AccountType where
  | asset | liability | income
  deriving DecidableEq

def AccountCode.type : AccountCode → AccountType
  | .pendingPayable => .liability
  | .availablePayable => .liability
  | .payoutClearing => .asset
  | .merchantReceivable => .asset
  | .providerClearing => .asset
  | .platformFeeRevenue => .income
  | .gstPayable => .liability

def AccountCode.text : AccountCode → String
  | .pendingPayable => "PENDING_PAYABLE_LIABILITY"
  | .availablePayable => "AVAILABLE_PAYABLE_LIABILITY"
  | .payoutClearing => "PAYOUT_CLEARING_ASSET"
  | .merchantReceivable => "MERCHANT_RECEIVABLE_ASSET"
  | .providerClearing => "PROVIDER_CLEARING_ASSET"
  | .platformFeeRevenue => "PLATFORM_FEE_REVENUE"
  | .gstPayable => "GST_PAYABLE_LIABILITY"

structure Account where
  code : AccountCode
  merchant : Option MerchantId
  deriving DecidableEq

inductive Side where
  | debit | credit
  deriving DecidableEq

structure Posting where
  account : Account
  side : Side
  amount : ℤ

structure Journal where
  id : JournalId
  merchant : MerchantId
  operation : Option OperationId
  postings : List Posting

structure BalanceTransaction where
  merchant : MerchantId
  journal : JournalId
  type : JournalType
  pendingDelta : ℤ
  availableDelta : ℤ
  receivableDelta : ℤ
  payoutClearingDelta : ℤ

structure Merchant where
  isDefault : Bool
  active : Bool
  balanceVersion : ℕ

structure SettlementRun where
  merchant : MerchantId
  fingerprint : Digest
  completed : Bool
  settledAmount : ℤ
  responseBytes : Option Bytes
  createdAt : Time
  completedAt : Option Time

structure SettlementItem where
  merchant : MerchantId
  run : KeyDigest
  capture : PaymentId
  journal : JournalId
  amount : ℤ

structure Beneficiary where
  active : Bool
  bankAccountReference : String

inductive ReservationAction where
  | reserved | released | consumed
  deriving DecidableEq

structure ReservationRow where
  sequence : ℕ
  action : ReservationAction
  amountDelta : ℤ
  reasonCode : String

inductive AttemptStatus where
  | prepared | sent | ambiguous | succeeded | failed
  deriving DecidableEq

def AttemptStatus.terminal (s : AttemptStatus) : Bool := s = .succeeded || s = .failed

inductive EvidenceKind where
  | mutationSend | mutationResult | lookup
  deriving DecidableEq

inductive BankVerdict where
  | verifiedSuccess | verifiedBusinessDecline | ambiguous
  deriving DecidableEq

/-- As for provider attempts, `answeredAt` is when the bank answered and not a column. -/
structure PayoutEvidence where
  sequence : ℕ
  kind : EvidenceKind
  state : AttemptState
  requestSha256 : Digest
  responseHttpStatus : Option ℕ
  responseBytes : Option Bytes
  signatureValid : Option Bool
  classification : Option BankVerdict
  safeErrorCode : Option String
  completedAt : Option Time
  answeredAt : Option Time

structure PayoutAttempt where
  attemptNumber : ℕ
  status : AttemptStatus
  requestBytes : Option Bytes
  requestSha256 : Option Digest
  lastSentAt : Option Time
  failureCode : Option String
  reviewReason : Option String
  keyDigest : Option KeyDigest
  fingerprint : Option Digest
  responseBytes : Option Bytes
  evidence : List PayoutEvidence

inductive PayoutActor where
  | admin | payoutWorker | recoveryWorker | finalizer
  deriving DecidableEq

structure PayoutHistory where
  attempt : Option ℕ
  fromStatus : Option OperationStatus
  toStatus : OperationStatus
  reasonCode : String
  actor : PayoutActor

structure Payout where
  merchant : MerchantId
  beneficiary : BeneficiaryId
  amount : ℤ
  status : OperationStatus
  failureCode : Option String
  reviewReason : Option String
  journal : Option JournalId
  keyDigest : KeyDigest
  fingerprint : Digest
  responseHttpStatus : Option ℕ
  responseBytes : Option Bytes
  completedAt : Option Time
  attempts : List PayoutAttempt
  reservations : List ReservationRow
  history : List PayoutHistory
  events : List Bytes

inductive EffectOutcome where
  | pending | succeeded | declined (code : String)
  deriving DecidableEq

structure Effect where
  outcome : EffectOutcome
  appliedAt : Time

inductive Contact (ι : Type) where
  | mutate (key : ι) (requestBytes : Bytes)
  | lookup (key : ι)

structure Counterparty (ι : Type) [DecidableEq ι] where
  effects : Table ι Effect
  contacts : List (Contact ι)

abbrev AttemptId := PayoutId × ℕ

def payoutStableKey (a : AttemptId) : String :=
  "payout:" ++ publicId "pot" a.1 ++ ":attempt:" ++ toString a.2

/-- `endpointVersions` are those of the whole organisation, the other rows those of `environment`. `transactionStamps`
is the `created_at` of balance transactions, `attemptStamps` the `updated_at` of payout attempts, which a sweep stamps
without holding their payout. -/
structure World where
  now : Time
  environment : EnvironmentId
  customers : List ℕ
  merchants : Table MerchantId Merchant
  accounts : List Account
  beneficiaries : Table BeneficiaryId Beneficiary
  feeSchedules : List FeeScheduleVersion
  endpointVersions : Table EndpointVersionId EndpointVersion
  eventRecipients : List EventRecipient
  payments : Table PaymentId PaymentIntent
  operations : Table OperationId ProviderOperation
  records : Table KeyDigest IdempotencyRecord
  pspEvents : Table String PspEvent
  journals : List Journal
  balanceTransactions : List BalanceTransaction
  transactionStamps : Table JournalId Time
  settlementRuns : Table KeyDigest SettlementRun
  settlementItems : List SettlementItem
  payouts : Table PayoutId Payout
  attemptStamps : Table AttemptId Time
  provider : Counterparty OperationId
  bank : Counterparty AttemptId

namespace World

variable (w : World)

@[simps] def putPayment (p : PaymentId) (a : PaymentIntent) : World :=
  { w with payments := w.payments.put p a }

@[simps] def putOperation (o : OperationId) (op : ProviderOperation) : World :=
  { w with operations := w.operations.put o op }

@[simps] def putRecord (d : KeyDigest) (r : IdempotencyRecord) : World :=
  { w with records := w.records.put d r }

@[simps] def updateRecords (f : KeyDigest → IdempotencyRecord → IdempotencyRecord) : World :=
  { w with records := w.records.mapRows f }

@[simps] def putEvent (e : String) (ev : PspEvent) : World :=
  { w with pspEvents := w.pspEvents.put e ev }

@[simps] def addRecipients (rs : List EventRecipient) : World :=
  { w with eventRecipients := w.eventRecipients ++ rs }

@[simps] def addJournal (j : Journal) : World := { w with journals := w.journals ++ [j] }

@[simps] def addBalanceTransaction (b : BalanceTransaction) : World :=
  { w with
    balanceTransactions := w.balanceTransactions ++ [b],
    transactionStamps := w.transactionStamps.put b.journal w.now }

@[simps] def putSettlementRun (d : KeyDigest) (r : SettlementRun) : World :=
  { w with settlementRuns := w.settlementRuns.put d r }

@[simps] def addSettlementItem (i : SettlementItem) : World :=
  { w with settlementItems := w.settlementItems ++ [i] }

@[simps] def putPayout (q : PayoutId) (P : Payout) : World :=
  { w with payouts := w.payouts.put q P }

@[simps] def stampAttempt (a : AttemptId) (t : Time) : World :=
  { w with attemptStamps := w.attemptStamps.put a t }

@[simps] def addAccount (a : Account) : World :=
  { w with accounts := if a ∈ w.accounts then w.accounts else w.accounts ++ [a] }

@[simps] def putMerchant (m : MerchantId) (M : Merchant) : World :=
  { w with merchants := w.merchants.put m M }

@[simps] def setProvider (c : Counterparty OperationId) : World := { w with provider := c }

@[simps] def setBank (c : Counterparty AttemptId) : World := { w with bank := c }

@[simps] def setNow (t : Time) : World := { w with now := t }

end World

/-- What a session can lock: rows, entries of unique indexes, and the advisory lock that the
coverage check takes on a merchant. -/
inductive Key where
  | payment (p : PaymentId)
  | operation (o : OperationId)
  | resource (o : OperationId)
  | merchant (m : MerchantId)
  | payout (q : PayoutId)
  | attempt (a : AttemptId)
  | event (e : String)
  | coverage (m : MerchantId)
  | recordKey (d : KeyDigest)
  | payoutKey (d : KeyDigest)
  | retryKey (d : KeyDigest)
  | settlementKey (d : KeyDigest)
  | journalKey (j : JournalId)
  | itemKey (p : PaymentId)
  | referenceKey (r : String)
  | defaultMerchant
  deriving DecidableEq

inductive Deferred where
  | reservation (m : MerchantId)
  | posting (account : Account) (side : Side)

abbrev Tx (α : Type) := Txn World Key Deferred Error α

structure Reply where
  statusCode : ℕ
  body : Bytes
  replayed : Bool

def relayPay (code message : String) (httpStatus : ℕ) (details : List (String × Json)) : Error :=
  .relayPay ⟨code, message, httpStatus, .obj details⟩

end RelayPay
