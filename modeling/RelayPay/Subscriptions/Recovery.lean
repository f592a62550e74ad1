import RelayPay.ReadCommitted.Rely
import RelayPay.Schema

/-! Subscription recovery: cases of failed invoices, their scheduled actions, and who acts on them. -/

namespace RelayPay.Subscriptions

open ReadCommitted Txn

abbrev SubscriptionId := ℕ
abbrev InvoiceId := ℕ

-- the case of an invoice, of which there is at most one, and its actions by their sequence
abbrev CaseId := InvoiceId
abbrev ActionId := CaseId × ℕ

inductive Channel where
  | email | whatsapp | inApp
  deriving DecidableEq

def Channel.text : Channel → String
  | .email => "EMAIL"
  | .whatsapp => "WHATSAPP"
  | .inApp => "IN_APP"

inductive SubscriptionStatus where
  | active | pastDue | recovered | cancelled | expired
  deriving DecidableEq

structure Subscription where
  consent : List (String × Json)
  status : SubscriptionStatus

inductive InvoiceStatus where
  | open_ | failed | paid | void
  deriving DecidableEq

structure SubscriptionInvoice where
  subscription : SubscriptionId
  amount : ℤ
  status : InvoiceStatus
  paidAt : Option Time
  deriving DecidableEq

inductive AttemptOutcome where
  | verifiedFailed | verifiedSucceeded | transportUnknown
  deriving DecidableEq

def AttemptOutcome.text : AttemptOutcome → String
  | .verifiedFailed => "VERIFIED_FAILED"
  | .verifiedSucceeded => "VERIFIED_SUCCEEDED"
  | .transportUnknown => "TRANSPORT_UNKNOWN"

inductive FailureClassification where
  | retryableSoftDecline | nonRetryableHardDecline | authenticationRequired | expiredMethod
  | transportUnknown
  deriving DecidableEq

/-- `retryOf` is not a column but the action whose execution recorded the attempt. -/
structure RecurringPaymentAttempt where
  invoice : InvoiceId
  attemptNumber : ℕ
  providerAttemptId : String
  outcome : AttemptOutcome
  failureClassification : Option FailureClassification
  providerCode : String
  evidence : Json
  evidenceSha256 : Digest
  occurredAt : Time
  retryOf : Option ActionId

inductive CaseStatus where
  | open_ | scheduled | recovered | terminated | expired | requiresReview
  deriving DecidableEq

def CaseStatus.terminal : CaseStatus → Bool
  | .recovered => true
  | .terminated => true
  | .expired => true
  | _ => false

structure RecoveryCase where
  subscription : SubscriptionId
  status : CaseStatus
  classification : FailureClassification
  paymentRetryCount : ℕ
  messageCount : ℕ
  startedAt : Time
  expiresAt : Time
  terminatedAt : Option Time
  terminationReason : Option String
  deriving DecidableEq

inductive ActionType where
  | paymentRetry | message
  deriving DecidableEq

inductive ActionStatus where
  | scheduled | executing | executed | ambiguous | cancelled | suppressed
  deriving DecidableEq

def ActionStatus.isOpen : ActionStatus → Bool
  | .scheduled => true
  | .executing => true
  | .ambiguous => true
  | _ => false

structure ScheduledRecoveryAction where
  actionType : ActionType
  channel : Option Channel
  scheduledFor : Time
  status : ActionStatus
  executedAt : Option Time
  responseCode : Option String
  responseSha256 : Option Digest
  deriving DecidableEq

inductive RecordStatus where
  | sent | ambiguous | delivered | failed
  deriving DecidableEq

structure CommunicationRecord where
  channel : Channel
  tokenizedBody : String
  renderedBody : String
  requestSha256 : Digest
  status : RecordStatus
  responseCode : Option String
  responseSha256 : Option Digest
  deriving DecidableEq

inductive OptOutChannel where
  | all
  | only (channel : Channel)

structure RecoveryOptOut where
  recoveryCase : CaseId
  channel : OptOutChannel
  receivedAt : Time

structure PolicyDefinition where
  maxPaymentRetries : ℕ := 3
  maxMessages : ℕ := 3
  windowDays : ℕ := 14
  retryWindowsHours : List ℕ := [24, 72, 168]
  messageWindowsHours : List ℕ := [0, 48, 120]
  retries_le : maxPaymentRetries ≤ 3 := by decide
  messages_le : maxMessages ≤ 3 := by decide
  window_mem : 1 ≤ windowDays ∧ windowDays ≤ 14 := by decide
  retryWindows_length : maxPaymentRetries ≤ retryWindowsHours.length := by decide
  messageWindows_length : maxMessages ≤ messageWindowsHours.length := by decide
  retryWindows_le : ∀ h ∈ retryWindowsHours, h ≤ windowDays * 24 := by decide
  messageWindows_le : ∀ h ∈ messageWindowsHours, h ≤ windowDays * 24 := by decide

/-- `sends` is not a table but the network's log of messages sent and payments retried. -/
structure RecoveryState where
  now : Time
  subscriptions : Table SubscriptionId Subscription
  invoices : Table InvoiceId SubscriptionInvoice
  attempts : List RecurringPaymentAttempt
  policy : Option PolicyDefinition
  workflowDefined : Bool
  cases : Table CaseId RecoveryCase
  actions : Table ActionId ScheduledRecoveryAction
  records : Table ActionId CommunicationRecord
  optOuts : Table String RecoveryOptOut
  consumed : Table String Digest
  sends : List ActionId

/-- Locks: rows and entries of unique indexes. A transaction that closes a case marks it by `closing`,
when it holds the row of the case already. -/
inductive RecoveryKey where
  | action (a : ActionId)
  | recoveryCase (k : CaseId)
  | closing (k : CaseId)
  | record (a : ActionId)
  | invoice (i : InvoiceId)
  | subscription (u : SubscriptionId)
  | attemptNumber (i : InvoiceId) (n : ℕ)
  | providerAttempt (p : String)
  | optOut (e : String)
  | consumed (e : String)
  deriving DecidableEq

abbrev RecoveryTx (α : Type) := Txn RecoveryState RecoveryKey Empty Error α

/-! Writes of the object mapper: an `UPDATE` of the columns that differ from what was loaded, on the row as it is by
then. -/

def ScheduledRecoveryAction.patch (loaded new row : ScheduledRecoveryAction) : ScheduledRecoveryAction :=
  { row with
    status := patched loaded.status new.status row.status
    executedAt := patched loaded.executedAt new.executedAt row.executedAt
    responseCode := patched loaded.responseCode new.responseCode row.responseCode
    responseSha256 := patched loaded.responseSha256 new.responseSha256 row.responseSha256 }

def RecoveryCase.patch (loaded new row : RecoveryCase) : RecoveryCase :=
  { row with
    status := patched loaded.status new.status row.status
    paymentRetryCount := patched loaded.paymentRetryCount new.paymentRetryCount row.paymentRetryCount
    messageCount := patched loaded.messageCount new.messageCount row.messageCount
    terminatedAt := patched loaded.terminatedAt new.terminatedAt row.terminatedAt
    terminationReason := patched loaded.terminationReason new.terminationReason row.terminationReason }

def CommunicationRecord.patch (loaded new row : CommunicationRecord) : CommunicationRecord :=
  { row with
    status := patched loaded.status new.status row.status
    responseCode := patched loaded.responseCode new.responseCode row.responseCode
    responseSha256 := patched loaded.responseSha256 new.responseSha256 row.responseSha256 }

def SubscriptionInvoice.patch (loaded new row : SubscriptionInvoice) : SubscriptionInvoice :=
  { row with
    status := patched loaded.status new.status row.status
    paidAt := patched loaded.paidAt new.paidAt row.paidAt }

namespace RecoveryState

variable (s : RecoveryState)

def patchAction (a : ActionId) (loaded new : ScheduledRecoveryAction) : RecoveryState :=
  { s with actions := s.actions.update a (ScheduledRecoveryAction.patch loaded new) }

def patchCase (k : CaseId) (loaded new : RecoveryCase) : RecoveryState :=
  { s with cases := s.cases.update k (RecoveryCase.patch loaded new) }

def patchRecord (a : ActionId) (loaded new : CommunicationRecord) : RecoveryState :=
  { s with records := s.records.update a (CommunicationRecord.patch loaded new) }

def patchInvoice (i : InvoiceId) (loaded new : SubscriptionInvoice) : RecoveryState :=
  { s with invoices := s.invoices.update i (SubscriptionInvoice.patch loaded new) }

def setSubscription (u : SubscriptionId) (status : SubscriptionStatus) : RecoveryState :=
  { s with subscriptions := s.subscriptions.update u fun row => { row with status := status } }

def cancelAction (a : ActionId) : RecoveryState :=
  { s with actions := s.actions.update a fun row => { row with status := .cancelled } }

def putAction (a : ActionId) (row : ScheduledRecoveryAction) : RecoveryState :=
  { s with actions := s.actions.put a row }

def putCase (k : CaseId) (row : RecoveryCase) : RecoveryState := { s with cases := s.cases.put k row }

def putRecord (a : ActionId) (row : CommunicationRecord) : RecoveryState :=
  { s with records := s.records.put a row }

def addAttempt (t : RecurringPaymentAttempt) : RecoveryState := { s with attempts := s.attempts ++ [t] }

def addSend (a : ActionId) : RecoveryState := { s with sends := s.sends ++ [a] }

end RecoveryState

def flush {ρ : Type} [DecidableEq ρ] (key : RecoveryKey) (loaded new : ρ)
    (patch : RecoveryState → RecoveryState) : RecoveryTx Unit :=
  if new = loaded then done ()
  else do
    acquire key
    modify patch

def flushAction (a : ActionId) (loaded new : ScheduledRecoveryAction) : RecoveryTx Unit :=
  flush (.action a) loaded new fun s => s.patchAction a loaded new

def flushRecord (a : ActionId) (loaded new : CommunicationRecord) : RecoveryTx Unit :=
  flush (.record a) loaded new fun s => s.patchRecord a loaded new

def flushInvoice (i : InvoiceId) (loaded new : SubscriptionInvoice) : RecoveryTx Unit :=
  flush (.invoice i) loaded new fun s => s.patchInvoice i loaded new

def flushSubscription (u : SubscriptionId) (loaded new : SubscriptionStatus) : RecoveryTx Unit :=
  flush (.subscription u) loaded new fun s => s.setSubscription u new

-- the table of cases has a check on both counters
def flushCase (k : CaseId) (loaded new : RecoveryCase) : RecoveryTx Unit :=
  if new = loaded then done ()
  else do
    acquire (.recoveryCase k)
    ensure (new.paymentRetryCount ≤ 3 ∧ new.messageCount ≤ 3) .integrity
    modify fun s => s.patchCase k loaded new

def openActions (k : CaseId) (s : RecoveryState) : List ActionId :=
  (s.actions.rows.filter fun e => e.1.1 = k && e.2.status.isOpen).map Prod.fst

def cancelIfOpen (a : ActionId) : RecoveryTx Unit := do
  acquire (.action a)
  let hit ← query fun s => (s.actions.get a).any fun row => row.status.isOpen
  if hit then modify fun s => s.cancelAction a else done ()

def RecoveryCase.terminate (row : RecoveryCase) (reason : String) (now : Time) (recovered : Bool) : RecoveryCase :=
  { row with
    status := if recovered then .recovered else .terminated
    terminatedAt := some now
    terminationReason := some reason }

def markRecovered (u : SubscriptionId) : RecoveryTx Unit := do
  let found ← query fun s => s.subscriptions.get u
  match found with
  | some row => flushSubscription u row.status .recovered
  | none => done ()

def terminateCase (k : CaseId) (loaded : RecoveryCase) (reason : String) (now : Time) (recovered : Bool) :
    RecoveryTx RecoveryCase :=
  if loaded.status.terminal then done loaded
  else do
    flushCase k loaded (loaded.terminate reason now recovered)
    acquire (.closing k)
    let ids ← query (openActions k)
    forEach cancelIfOpen ids
    if recovered then markRecovered loaded.subscription else done ()
    done (loaded.terminate reason now recovered)

def recordOptOut (k : CaseId) (sourceEventId : String) (channel : OptOutChannel) : RecoveryTx Unit := do
  acquire (.recoveryCase k)
  let found ← query fun s => s.cases.get k
  let recovery ← require found (.relayPay (notFound "Recovery case"))
  let existing ← query fun s => s.optOuts.get sourceEventId
  match existing with
  | some _ => done ()
  | none =>
    let receivedAt ← query RecoveryState.now
    acquire (.optOut sourceEventId)
    let used ← query fun s => (s.optOuts.get sourceEventId).isSome
    ensure (used = false) .integrity
    modify fun s => { s with optOuts := s.optOuts.put sourceEventId ⟨k, channel, receivedAt⟩ }
    let _ ← terminateCase k recovery "CUSTOMER_OPT_OUT" receivedAt false

inductive Mode where
  | complete | lookup | send
  deriving DecidableEq

structure PreparedAction where
  mode : Mode
  channel : Option Channel
  body : Option String
  amount : ℤ

inductive ObservationStatus where
  | succeeded | failed | unknown
  deriving DecidableEq

structure RecoveryNetworkObservation where
  status : ObservationStatus
  code : String
  responseBytes : Bytes

def stableKey (a : ActionId) : String :=
  "recovery:" ++ publicId "rcy" a.1 ++ ":action:" ++ toString a.2

def tokenizedBody : String :=
  "Hello <CUSTOMER_NAME>, synthetic invoice <INVOICE_ID> needs payment-method attention. " ++
    "No real payment or customer data is involved."

-- a step consumes a character at least, so the length of the text is enough
def replaceFrom (old new : List Char) : ℕ → List Char → List Char
  | 0, cs => cs
  | _ + 1, [] => []
  | n + 1, c :: cs =>
    if old.isPrefixOf (c :: cs) then new ++ replaceFrom old new n ((c :: cs).drop old.length)
    else c :: replaceFrom old new n cs

def replaceText (s old new : String) : String :=
  String.ofList (replaceFrom old.toList new.toList s.toList.length s.toList)

def renderMessage (subscription : Subscription) (i : InvoiceId) : Except Error (String × String) :=
  match ((Json.obj subscription.consent).get? "displayName").getD (.str "Synthetic customer") with
  | .str name =>
    if 1 ≤ name.length ∧ name.length ≤ 128 then
      .ok (tokenizedBody,
        replaceText (replaceText tokenizedBody "<CUSTOMER_NAME>" name) "<INVOICE_ID>" (publicId "inv" i))
    else .error (.value "synthetic display name is invalid")
  | _ => .error (.value "synthetic display name is invalid")

def messageRequest (a : ActionId) (channel : Channel) (body : String) : Json :=
  .obj [("stableKey", .str (stableKey a)), ("channel", .str channel.text), ("body", .str body)]

def sentRecord (a : ActionId) (channel : Channel) (tokenized body : String) : CommunicationRecord :=
  ⟨channel, tokenized, body, sha256 (canonicalJsonBytes (messageRequest a channel body)), .sent, none, none⟩

def insertRecord (a : ActionId) (row : CommunicationRecord) : RecoveryTx Unit := do
  acquire (.record a)
  let used ← query fun s => (s.records.get a).isSome
  ensure (used = false) .integrity
  modify fun s => s.putRecord a row

def prepareMessage (a : ActionId) (action : ScheduledRecoveryAction) (subscription : Subscription) (mode : Mode) :
    RecoveryTx String := do
  let channel ← require action.channel (.value "message action requires a channel")
  match renderMessage subscription a.1 with
  | .error e => raise e
  | .ok (tokenized, body) =>
    let found ← query fun s => s.records.get a
    match found with
    | some row => done row.renderedBody
    | none =>
      ensure (mode ≠ .lookup) (relayPay "COMMUNICATION_EVIDENCE_MISSING"
        "Sent message has no immutable attempt evidence" 409 [])
      insertRecord a (sentRecord a channel tokenized body)
      done body

def prepareAction (now : Time) (a : ActionId) (expectedType : ActionType) : RecoveryTx PreparedAction := do
  acquire (.action a)
  let found ← query fun s => s.actions.get a
  let action ← require found (.relayPay (notFound "Scheduled recovery action"))
  ensure (action.actionType = expectedType)
    (relayPay "RECOVERY_ACTION_TYPE_MISMATCH" "Scheduled action has a different type" 409 [])
  let foundCase ← query fun s => s.cases.get a.1
  let recovery ← require foundCase (.relayPay (notFound "Recovery case"))
  let foundSubscription ← query fun s => s.subscriptions.get recovery.subscription
  let foundInvoice ← query fun s => s.invoices.get a.1
  let subscription ← require foundSubscription (.relayPay (notFound "Recovery evidence"))
  let invoice ← require foundInvoice (.relayPay (notFound "Recovery evidence"))
  ensure (recovery.status.terminal = false)
    (relayPay "RECOVERY_CASE_TERMINAL" "No action is allowed after recovery terminates" 409 [])
  ensure (now < recovery.expiresAt)
    (relayPay "RECOVERY_POLICY_EXPIRED" "Recovery policy window has expired" 409 [])
  ensure (action.scheduledFor ≤ now)
    (relayPay "RECOVERY_ACTION_NOT_DUE" "Scheduled recovery action is not due" 409 [])
  if action.status.isOpen then
    let mode := if action.status = .scheduled then .send else .lookup
    flushAction a action { action with status := .executing }
    match expectedType with
    | .message =>
      let body ← prepareMessage a action subscription mode
      done ⟨mode, action.channel, some body, invoice.amount⟩
    | .paymentRetry => done ⟨mode, action.channel, none, invoice.amount⟩
  else done ⟨.complete, action.channel, none, invoice.amount⟩

def ScheduledRecoveryAction.observe (action : ScheduledRecoveryAction) (obs : RecoveryNetworkObservation)
    (timestamp : Time) : ScheduledRecoveryAction :=
  { action with
    responseCode := some obs.code
    responseSha256 := some (sha256 obs.responseBytes)
    status := if obs.status = .unknown then .ambiguous else .executed
    executedAt := if obs.status = .unknown then action.executedAt else some timestamp }

def RecordStatus.observed : ObservationStatus → RecordStatus
  | .unknown => .ambiguous
  | .failed => .failed
  | .succeeded => .delivered

def CommunicationRecord.observe (row : CommunicationRecord) (obs : RecoveryNetworkObservation) :
    CommunicationRecord :=
  { row with
    responseCode := some obs.code
    responseSha256 := some (sha256 obs.responseBytes)
    status := .observed obs.status }

def RecoveryCase.countMessage (recovery : RecoveryCase) (obs : RecoveryNetworkObservation) : RecoveryCase :=
  { recovery with
    messageCount := if obs.status = .succeeded then recovery.messageCount + 1 else recovery.messageCount }

def RecoveryCase.countRetry (recovery : RecoveryCase) : RecoveryCase :=
  { recovery with paymentRetryCount := recovery.paymentRetryCount + 1 }

def recordMessage (timestamp : Time) (a : ActionId) (obs : RecoveryNetworkObservation) : RecoveryTx Unit := do
  let foundAction ← query fun s => s.actions.get a
  let foundCase ← query fun s => s.cases.get a.1
  let action ← require foundAction (.relayPay (notFound "Recovery action"))
  let recovery ← require foundCase (.relayPay (notFound "Recovery action"))
  let foundRecord ← query fun s => s.records.get a
  let row ← require foundRecord (.relayPay (notFound "Communication record"))
  flushCase a.1 recovery (recovery.countMessage obs)
  flushAction a action (action.observe obs timestamp)
  flushRecord a row (row.observe obs)

def classifyProviderCode : String → Option FailureClassification
  | "INSUFFICIENT_FUNDS" => some .retryableSoftDecline
  | "TEMPORARY_DECLINE" => some .retryableSoftDecline
  | "DO_NOT_HONOUR" => some .nonRetryableHardDecline
  | "LOST_OR_STOLEN" => some .nonRetryableHardDecline
  | "AUTHENTICATION_REQUIRED" => some .authenticationRequired
  | "EXPIRED_METHOD" => some .expiredMethod
  | "TRANSPORT_UNKNOWN" => some .transportUnknown
  | _ => none

def unsupportedCode : Error := .value "unsupported recurring payment failure code"

def RecoveryState.lastAttempt (s : RecoveryState) (i : InvoiceId) : ℕ :=
  ((s.attempts.filter fun t => t.invoice = i).map RecurringPaymentAttempt.attemptNumber).foldl max 0

def insertAttempt (t : RecurringPaymentAttempt) : RecoveryTx Unit := do
  acquire (.providerAttempt t.providerAttemptId)
  let used ← query fun s => s.attempts.any fun u => u.providerAttemptId = t.providerAttemptId
  ensure (used = false) .integrity
  acquire (.attemptNumber t.invoice t.attemptNumber)
  let taken ← query fun s => s.attempts.any fun u => u.invoice = t.invoice && u.attemptNumber = t.attemptNumber
  ensure (taken = false) .integrity
  modify fun s => s.addAttempt t

def retryEvidence (a : ActionId) (obs : RecoveryNetworkObservation) : Json :=
  .obj [("stableKey", .str (stableKey a)),
    ("responseSha256", .str (sha256 obs.responseBytes).hex)]

def retryAttempt (timestamp : Time) (a : ActionId) (obs : RecoveryNetworkObservation) (number : ℕ)
    (classification : Option FailureClassification) : RecurringPaymentAttempt where
  invoice := a.1
  attemptNumber := number
  providerAttemptId := stableKey a
  outcome := if obs.status = .succeeded then .verifiedSucceeded else .verifiedFailed
  failureClassification := classification
  providerCode := obs.code
  evidence := retryEvidence a obs
  evidenceSha256 := sha256 (canonicalJsonBytes (retryEvidence a obs))
  occurredAt := timestamp
  retryOf := some a

def settleRetry (timestamp : Time) (a : ActionId) (obs : RecoveryNetworkObservation)
    (classification : Option FailureClassification) (recovery : RecoveryCase) (invoice : SubscriptionInvoice) :
    RecoveryTx Unit :=
  if obs.status = .succeeded then do
    flushInvoice a.1 invoice { invoice with status := .paid, paidAt := some timestamp }
    let _ ← terminateCase a.1 recovery "PAYMENT_SUCCEEDED" timestamp true
  else if classification = some .nonRetryableHardDecline then do
    let _ ← terminateCase a.1 recovery "NON_RETRYABLE_FAILURE" timestamp false
  else if 3 ≤ recovery.paymentRetryCount then do
    let _ ← terminateCase a.1 recovery "PAYMENT_RETRIES_EXHAUSTED" timestamp false
  else done ()

def retryClassification (obs : RecoveryNetworkObservation) : RecoveryTx (Option FailureClassification) :=
  if obs.status = .succeeded then done none
  else do
    let classification ← require (classifyProviderCode obs.code) unsupportedCode
    done (some classification)

def recordPayment (timestamp : Time) (a : ActionId) (obs : RecoveryNetworkObservation) : RecoveryTx Unit := do
  let foundAction ← query fun s => s.actions.get a
  let foundCase ← query fun s => s.cases.get a.1
  let action ← require foundAction (.relayPay (notFound "Recovery action"))
  let recovery ← require foundCase (.relayPay (notFound "Recovery action"))
  let foundInvoice ← query fun s => s.invoices.get a.1
  let invoice ← require foundInvoice (.relayPay (notFound "Subscription invoice"))
  if obs.status = .unknown then flushAction a action (action.observe obs timestamp)
  else do
    let classification ← retryClassification obs
    flushCase a.1 recovery recovery.countRetry
    flushAction a action (action.observe obs timestamp)
    let previous ← query fun s => s.lastAttempt a.1
    insertAttempt (retryAttempt timestamp a obs (previous + 1) classification)
    settleRetry timestamp a obs classification recovery.countRetry invoice

def dueAction (timestamp : Time) (s : RecoveryState) (a : ActionId) :
    Option (ScheduledRecoveryAction × RecoveryCase) := do
  let action ← s.actions.get a
  let recovery ← s.cases.get a.1
  if action.status.isOpen && action.scheduledFor ≤ timestamp && !recovery.status.terminal then
    some (action, recovery)
  else none

def dueOrder (x y : ActionId × ScheduledRecoveryAction) : Prop :=
  x.2.scheduledFor < y.2.scheduledFor ∨
    x.2.scheduledFor = y.2.scheduledFor ∧ (x.1.1 < y.1.1 ∨ x.1.1 = y.1.1 ∧ x.1.2 ≤ y.1.2)

instance : DecidableRel dueOrder := fun x y => by
  unfold dueOrder
  infer_instance

def firstDue (timestamp : Time) :
    List ActionId → RecoveryTx (Option (ActionId × ScheduledRecoveryAction × RecoveryCase))
  | [] => done none
  | a :: rest => do
    let freeAction ← attempt (.action a)
    let freeCase ← if freeAction then attempt (.recoveryCase a.1) else done false
    if freeCase then
      let row ← query fun s => dueAction timestamp s a
      match row with
      | some (action, recovery) => done (some (a, action, recovery))
      | none => firstDue timestamp rest
    else firstDue timestamp rest

inductive Selection where
  | nothing
  | expired
  | chosen (a : ActionId) (actionType : ActionType)

def selectAction (timestamp : Time) : RecoveryTx Selection := do
  let candidates ← query fun s =>
    ((s.actions.rows.filter fun e => (dueAction timestamp s e.1).isSome).insertionSort dueOrder).map Prod.fst
  let found ← firstDue timestamp candidates
  match found with
  | none => done .nothing
  | some (a, action, recovery) =>
    if recovery.expiresAt ≤ timestamp then
      let closed ← terminateCase a.1 recovery "POLICY_EXPIRED" timestamp false
      flushCase a.1 closed { closed with status := .expired }
      done .expired
    else done (.chosen a action.actionType)

def recordPaymentAttempt (i : InvoiceId) (invoice : SubscriptionInvoice) (providerAttemptId providerCode : String)
    (outcome : AttemptOutcome) (occurredAt : Time) (evidence : Json) : RecoveryTx RecurringPaymentAttempt := do
  let digest := sha256 (canonicalJsonBytes evidence)
  let existing ← query fun s => s.attempts.find? fun t => t.providerAttemptId = providerAttemptId
  match existing with
  | some t =>
    ensure (t.invoice = i ∧ t.providerCode = providerCode ∧ t.outcome = outcome ∧ t.evidenceSha256 = digest)
      (relayPay "RECURRING_ATTEMPT_CONFLICT"
        "Provider attempt identifier is already bound to a different payment" 409 [])
    done t
  | none =>
    let classification ← require (classifyProviderCode providerCode) unsupportedCode
    let previous ← query fun s => s.lastAttempt i
    let t : RecurringPaymentAttempt := ⟨i, previous + 1, providerAttemptId, outcome, some classification,
      providerCode, evidence, digest, occurredAt, none⟩
    insertAttempt t
    flushInvoice i invoice
      (if outcome = .verifiedSucceeded then { invoice with status := .paid, paidAt := some occurredAt }
      else { invoice with status := .failed })
    done t

structure ProposedAction where
  actionType : ActionType
  scheduledFor : Time
  channel : Option Channel

def hours (n : ℕ) : Time := seconds (n * 3600)

def channelOf : Json → Option Channel
  | .str "EMAIL" => some .email
  | .str "WHATSAPP" => some .whatsapp
  | .str "IN_APP" => some .inApp
  | _ => none

def consentedChannels (consent : List (String × Json)) : Except Error (List Channel) :=
  match ((Json.obj consent).get? "channels").getD (.arr []) with
  | .arr values =>
    match values.mapM channelOf with
    | some allowed => .ok allowed.eraseDups
    | none => .error (.value "unsupported consent channel")
  | _ => .error (.value "consent channels must be a list")

def proposedOrder (x y : ProposedAction) : Prop :=
  x.scheduledFor < y.scheduledFor ∨
    x.scheduledFor = y.scheduledFor ∧ (x.actionType = .message ∨ y.actionType = .paymentRetry)

instance : DecidableRel proposedOrder := fun x y => by
  unfold proposedOrder
  infer_instance

def proposedMessages (channels : List Channel) (startedAt : Time) (policy : PolicyDefinition) :
    List ProposedAction :=
  (policy.messageWindowsHours.take policy.maxMessages).zipIdx.filterMap fun e =>
    (channels[e.2 % channels.length]?).map fun channel =>
      ⟨.message, startedAt + hours e.1, some channel⟩

def proposeActions (classification : FailureClassification) (consent : List (String × Json)) (startedAt : Time)
    (policy : PolicyDefinition) : Except Error (List ProposedAction) :=
  if classification = .nonRetryableHardDecline ∨ classification = .transportUnknown then .ok []
  else do
    let channels ← consentedChannels consent
    let retries : List ProposedAction :=
      if classification = .retryableSoftDecline then
        (policy.retryWindowsHours.take policy.maxPaymentRetries).map fun h =>
          ⟨.paymentRetry, startedAt + hours h, none⟩
      else []
    .ok ((retries ++ proposedMessages channels startedAt policy).insertionSort proposedOrder)

def scheduledAction (p : ProposedAction) : ScheduledRecoveryAction :=
  ⟨p.actionType, p.channel, p.scheduledFor, .scheduled, none, none, none⟩

def RecoveryState.schedule (s : RecoveryState) (k : CaseId) (proposed : List ProposedAction) : RecoveryState :=
  { s with actions := proposed.zipIdx.foldl (fun t e => t.put (k, e.2 + 1) (scheduledAction e.1)) s.actions }

def openedCase (u : SubscriptionId) (classification : FailureClassification) (policy : PolicyDefinition)
    (now : Time) (proposed : List ProposedAction) : RecoveryCase where
  subscription := u
  status := if proposed.isEmpty then .terminated else .scheduled
  classification := classification
  paymentRetryCount := 0
  messageCount := 0
  startedAt := now
  expiresAt := now + hours (24 * policy.windowDays)
  terminatedAt := if proposed.isEmpty then some now else none
  terminationReason :=
    if classification = .nonRetryableHardDecline then some "NON_RETRYABLE_FAILURE"
    else if proposed.isEmpty then some "NO_CONSENTED_ACTION" else none

def openRecoveryCase (u : SubscriptionId) (subscription : Subscription) (i : InvoiceId)
    (trigger : RecurringPaymentAttempt) (policy : PolicyDefinition) (now : Time) : RecoveryTx Unit := do
  let existing ← query fun s => (s.cases.get i).isSome
  if existing then done ()
  else do
    ensure (trigger.outcome ≠ .transportUnknown) (relayPay "AMBIGUOUS_RECURRING_PAYMENT"
      "Unknown provider outcomes require lookup and cannot start recovery" 409 [])
    ensure (trigger.outcome = .verifiedFailed)
      (relayPay "RECOVERY_NOT_REQUIRED" "Only a verified failed payment can start recovery" 409 [])
    let classification ← require trigger.failureClassification
      (.value "failed payment attempt requires a failure classification")
    acquire (.recoveryCase i)
    let used ← query fun s => (s.cases.get i).isSome
    ensure (used = false) .integrity
    match proposeActions classification subscription.consent now policy with
    | .error e => raise e
    | .ok proposed =>
      modify fun s => (s.putCase i (openedCase u classification policy now proposed)).schedule i proposed
      flushSubscription u subscription.status .pastDue

inductive FailureOutcome where
  | verifiedFailed | transportUnknown

def FailureOutcome.outcome : FailureOutcome → AttemptOutcome
  | .verifiedFailed => .verifiedFailed
  | .transportUnknown => .transportUnknown

structure RecurringPaymentFailed where
  eventId : String
  eventType : String
  schemaVersion : ℕ
  occurredAt : Time
  subscription : SubscriptionId
  invoice : InvoiceId
  providerAttemptId : String
  providerCode : String
  outcome : FailureOutcome
  evidence : List (String × Json)
  payloadSha256 : Digest

def RecurringPaymentFailed.payload (event : RecurringPaymentFailed) : Json :=
  .obj [("subscriptionId", .str (publicId "sub" event.subscription)),
    ("invoiceId", .str (publicId "inv" event.invoice)), ("providerAttemptId", .str event.providerAttemptId),
    ("providerCode", .str event.providerCode), ("outcome", .str event.outcome.outcome.text),
    ("evidence", .obj event.evidence)]

/-- Python's `casefold` and the patterns of `tokenize_pii`. -/
structure Texts where
  casefold : String → String
  hasPii : String → Bool

def blockedFields : List String := ["name", "email", "phone", "address", "account", "messageid"]

def Texts.blocked (texts : Texts) (key : String) : Bool :=
  let folded := (texts.casefold key).toList.filter fun c => c ≠ '_'
  blockedFields.any fun token => folded.tails.any fun t => token.toList.isPrefixOf t

def assertPiiFree (texts : Texts) : ℕ → Json → Option Error
  | 0, _ => some (relayPay "EVENT_EVIDENCE_TOO_DEEP" "Recurring payment evidence exceeds nesting limit" 422 [])
  | _ + 1, .str s =>
    if texts.hasPii s then
      some (relayPay "EVENT_CONTAINS_PII" "Recurring payment event evidence must be tokenized" 422 [])
    else none
  | depth + 1, .arr items => items.findSome? (assertPiiFree texts depth)
  | depth + 1, .obj fields => fields.findSome? fun f =>
    if texts.blocked f.1 then
      some (relayPay "EVENT_CONTAINS_PII"
        "Recurring payment event evidence contains a forbidden field" 422 [])
    else assertPiiFree texts depth f.2
  | _ + 1, _ => none

def replayConflict : Error :=
  relayPay "EVENT_REPLAY_CONFLICT" "The event id is already bound to a different payload" 409 []

def recordConsumption (eventId : String) (digest : Digest) : RecoveryTx Bool := do
  let marker ← query fun s => s.consumed.get eventId
  match marker with
  | some d => do
    ensure (d = digest) replayConflict
    done false
  | none =>
    acquire (.consumed eventId)
    let concurrent ← query fun s => s.consumed.get eventId
    match concurrent with
    | some d => do
      ensure (d = digest) replayConflict
      done false
    | none =>
      modify fun s => { s with consumed := s.consumed.put eventId digest }
      done true

def openCaseFor (event : RecurringPaymentFailed) (subscription : Subscription) (t : RecurringPaymentAttempt) :
    RecoveryTx Unit := do
  let defined ← query RecoveryState.workflowDefined
  ensure (defined = true) (.relayPay (notFound "Subscription recovery workflow definition"))
  let policy ← query fun s => s.policy.getD {}
  modify fun s => { s with policy := some (s.policy.getD {}) }
  openRecoveryCase event.subscription subscription event.invoice t policy event.occurredAt

def consumeRecurringPaymentFailed (texts : Texts) (event : RecurringPaymentFailed) : RecoveryTx Unit := do
  ensure (event.eventType = "recurring-payment.failed.v1" ∧ event.schemaVersion = 1)
    (relayPay "UNSUPPORTED_EVENT" "Expected recurring-payment.failed.v1 schema 1" 422 [])
  let payloadBytes := canonicalJsonBytes event.payload
  ensure (payloadBytes.length ≤ 65536)
    (relayPay "EVENT_TOO_LARGE" "Recurring payment event exceeds 64 KiB" 413 [])
  match assertPiiFree texts 7 (.obj event.evidence) with
  | some e => raise e
  | none =>
    ensure (sha256 payloadBytes = event.payloadSha256)
      (relayPay "EVENT_DIGEST_MISMATCH" "Event payload digest mismatch" 422 [])
    let foundSubscription ← query fun s => s.subscriptions.get event.subscription
    let subscription ← require foundSubscription (.relayPay (notFound "Subscription"))
    let foundInvoice ← query fun s => (s.invoices.get event.invoice).filter fun row =>
      row.subscription = event.subscription
    let invoice ← require foundInvoice (.relayPay (notFound "Invoice"))
    let first ← recordConsumption event.eventId (sha256 payloadBytes)
    if first then
      let t ← recordPaymentAttempt event.invoice invoice event.providerAttemptId event.providerCode
        event.outcome.outcome event.occurredAt (.obj event.evidence)
      match event.outcome with
      | .transportUnknown => done ()
      | .verifiedFailed => openCaseFor event subscription t
    else
      let known ← query fun s => s.attempts.any fun t =>
        t.invoice = event.invoice && t.providerAttemptId = event.providerAttemptId
      ensure (known = true) (relayPay "EVENT_REPLAY_CONFLICT"
        "Consumed event has no matching recurring attempt" 409 [])

structure AttemptReport where
  invoice : InvoiceId
  providerAttemptId : String
  providerCode : String
  outcome : AttemptOutcome
  occurredAt : Time
  evidence : Json

def reportAttempt (report : AttemptReport) : RecoveryTx Unit := do
  let found ← query fun s => s.invoices.get report.invoice
  let invoice ← require found (.relayPay (notFound "Subscription invoice"))
  let _ ← recordPaymentAttempt report.invoice invoice report.providerAttemptId report.providerCode
    report.outcome report.occurredAt report.evidence

structure Execution where
  batch : Option ℕ
  timestamp : Time
  action : ActionId
  actionType : ActionType

inductive Worker where
  | selecting (timestamp : Time) (left : ℕ)
  | preparing (x : Execution)
  | calling (x : Execution) (prepared : PreparedAction)
  | recording (x : Execution) (obs : RecoveryNetworkObservation)
  | optingOut (k : CaseId) (sourceEventId : String) (channel : OptOutChannel)
  | consuming (event : RecurringPaymentFailed)
  | reporting (report : AttemptReport)
  | finished

def Execution.next (x : Execution) : Worker :=
  match x.batch with
  | some left => .selecting x.timestamp left
  | none => .finished

def Execution.prepared (x : Execution) (prepared : PreparedAction) : Worker :=
  if prepared.mode = .complete then x.next else .calling x prepared

def selected (timestamp : Time) (left : ℕ) : Selection → Worker
  | .nothing => .finished
  | .expired => .selecting timestamp left
  | .chosen a actionType => .preparing ⟨some left, timestamp, a, actionType⟩

def Execution.failed (x : Execution) : Error → Worker
  | .relayPay _ => x.next
  | _ => .finished

inductive Act : Worker → RecoveryState → Worker → RecoveryState → Prop
  | send {x prepared s} (obs : RecoveryNetworkObservation) : prepared.mode = .send →
      Act (.calling x prepared) s (.recording x obs) (s.addSend x.action)
  | lookup {x prepared s} (obs : RecoveryNetworkObservation) : prepared.mode = .lookup →
      Act (.calling x prepared) s (.recording x obs) s

inductive Environment : RecoveryState → RecoveryState → Prop
  | tick {s now} : s.now ≤ now → Environment s { s with now := now }
  | subscription {s u row} : s.subscriptions.get u = none →
      Environment s { s with subscriptions := s.subscriptions.put u row }
  | invoice {s i u amount} : s.invoices.get i = none →
      Environment s { s with invoices := s.invoices.put i ⟨u, amount, .open_, none⟩ }
  | workflow {s} (defined : Bool) : Environment s { s with workflowDefined := defined }

def recovery (texts : Texts) : System RecoveryState RecoveryKey Empty Error Worker where
  txn
    | .selecting _ 0 => none
    | .selecting timestamp (left + 1) => some do
        let selection ← selectAction timestamp
        done (selected timestamp left selection)
    | .preparing x => some do
        let prepared ← prepareAction x.timestamp x.action x.actionType
        done (x.prepared prepared)
    | .calling _ _ => none
    | .recording x obs => some do
        match x.actionType with
        | .message => recordMessage x.timestamp x.action obs
        | .paymentRetry => recordPayment x.timestamp x.action obs
        done x.next
    | .optingOut k sourceEventId channel => some do
        recordOptOut k sourceEventId channel
        done .finished
    | .consuming event => some do
        consumeRecurringPaymentFailed texts event
        done .finished
    | .reporting report => some do
        reportAttempt report
        done .finished
    | .finished => none
  fire := nofun
  handler
    | .preparing x, e => x.failed e
    | .recording x _, e => x.failed e
    | _, _ => .finished
  dbError _ := True
  act := Act
  env := Environment
  spawn
    | .selecting _ _ => True
    | .preparing x => x.batch = none
    | .optingOut _ _ _ => True
    | .consuming _ => True
    | .reporting _ => True
    | _ => False

def RecoveryState.start (now : Time) : RecoveryState :=
  ⟨now, .empty, .empty, [], none, false, .empty, .empty, .empty, .empty, .empty, []⟩

inductive Arrival where
  | subscription (u : SubscriptionId) (row : Subscription)
  | invoice (i : InvoiceId) (u : SubscriptionId) (amount : ℤ)
  | workflow

def player (texts : Texts) : Player (recovery texts) RecoveryNetworkObservation Arrival where
  spawn
    | .selecting _ _ => true
    | .preparing x => x.batch.isNone
    | .optingOut _ _ _ => true
    | .consuming _ => true
    | .reporting _ => true
    | _ => false
  act obs l s :=
    match l with
    | .calling x prepared =>
      match prepared.mode with
      | .send => some (.recording x obs, s.addSend x.action)
      | .lookup => some (.recording x obs, s)
      | .complete => none
    | _ => none
  env
    | .subscription u row, s =>
      if (s.subscriptions.get u).isSome then none else some { s with subscriptions := s.subscriptions.put u row }
    | .invoice i u amount, s =>
      if (s.invoices.get i).isSome then none
      else some { s with invoices := s.invoices.put i ⟨u, amount, .open_, none⟩ }
    | .workflow, s => some { s with workflowDefined := true }
  spawn_sound {l} h := by
    cases l with
    | preparing x => exact Option.isNone_iff_eq_none.1 h
    | calling x prepared => cases h
    | recording x obs => cases h
    | finished => cases h
    | _ => trivial
  act_sound {obs l s l' s'} h := by
    cases l with
    | calling x prepared =>
      cases hmode : prepared.mode with
      | send =>
        simp only [hmode] at h
        cases h
        exact .send obs hmode
      | lookup =>
        simp only [hmode] at h
        cases h
        exact .lookup obs hmode
      | complete =>
        simp only [hmode] at h
        cases h
    | _ => cases h
  env_sound {b s s'} h := by
    cases b with
    | subscription u row =>
      dsimp only at h
      split at h
      · cases h
      · next hfree =>
        cases h
        exact .subscription (by simpa using hfree)
    | invoice i u amount =>
      dsimp only at h
      split at h
      · cases h
      · next hfree =>
        cases h
        exact .invoice (by simpa using hfree)
    | workflow =>
      cases h
      exact .workflow true

end RelayPay.Subscriptions
