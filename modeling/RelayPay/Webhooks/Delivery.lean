import RelayPay.ReadCommitted.Logic
import RelayPay.Schema

namespace RelayPay.Webhooks

open ReadCommitted Txn

abbrev OrganisationId := ℕ
abbrev RecipientId := ℕ
abbrev DeliveryId := ℕ

structure MerchantEvent where
  publicId : String
  eventBytes : Bytes
  eventSha256 : Digest

structure WebhookEndpointVersion where
  url : String
  encryptedSecret : Bytes

structure Recipient where
  organisation : OrganisationId
  environment : EnvironmentId
  event : MerchantEvent
  version : WebhookEndpointVersion

-- the table's check on statuses, leases and end times, as a type
inductive DeliveryStatus where
  | pending
  | retryWait
  | delivering (leaseToken : Token) (leaseExpiresAt : Time)
  | delivered (deliveredAt : Time)
  | deadLetter (deadLetteredAt : Time)

namespace DeliveryStatus

def leaseToken : DeliveryStatus → Option Token
  | delivering token _ => some token
  | _ => none

def terminal : DeliveryStatus → Bool
  | delivered _ => true
  | deadLetter _ => true
  | _ => false

def isDelivered : DeliveryStatus → Bool
  | delivered _ => true
  | _ => false

end DeliveryStatus

structure WebhookDelivery where
  organisation : OrganisationId
  environment : EnvironmentId
  recipient : RecipientId
  replayOf : Option DeliveryId
  status : DeliveryStatus
  attemptCount : ℕ
  nextAttemptAt : Time

inductive AttemptResult where
  | acknowledged | retryable | permanent | transportError
  deriving DecidableEq

structure WebhookDeliveryAttempt where
  delivery : DeliveryId
  sequence : ℕ
  leaseToken : Token
  requestTimestamp : ℕ
  eventSha256 : Digest
  responseHttpStatus : Option ℕ
  result : AttemptResult
  safeErrorCode : Option String
  startedAt : Time
  completedAt : Time

/-- `drawn` is not a column but the lease tokens there were. -/
structure DeliveryState where
  now : Time
  recipients : Table RecipientId Recipient
  deliveries : Table DeliveryId WebhookDelivery
  attempts : List WebhookDeliveryAttempt
  drawn : List Token

inductive DeliveryKey where
  | delivery (d : DeliveryId)
  | recipient (r : RecipientId)
  | initial (r : RecipientId)
  deriving DecidableEq

abbrev DeliveryTx (α : Type) := Txn DeliveryState DeliveryKey Empty Error α

namespace DeliveryState

def attemptsOf (s : DeliveryState) (d : DeliveryId) : List WebhookDeliveryAttempt :=
  s.attempts.filter fun a => a.delivery = d

def hasInitial (s : DeliveryState) (r : RecipientId) : Bool :=
  s.deliveries.rows.any fun e => e.2.recipient = r && e.2.replayOf.isNone

def putDelivery (d : DeliveryId) (v : WebhookDelivery) (s : DeliveryState) : DeliveryState :=
  { s with deliveries := s.deliveries.put d v }

def addAttempt (a : WebhookDeliveryAttempt) (s : DeliveryState) : DeliveryState :=
  { s with attempts := s.attempts ++ [a] }

end DeliveryState

def maxAttempts : ℕ := 8
def retryBaseSeconds : ℕ := 5
def retryCapSeconds : ℕ := 3600

/-- Decryption with the service's key, and the draws of `random.Random(seed).randint(0, top)`. -/
structure Sender where
  decrypt : Bytes → Option String
  randint : DeliveryId → ℕ → ℕ → ℕ
  leaseSeconds : ℕ

def nextBackoff (sender : Sender) (sequence : ℕ) (d : DeliveryId) : Time :=
  let ceiling := min retryCapSeconds (retryBaseSeconds * 2 ^ (sequence - 1))
  sender.randint d sequence (ceiling * 1000) * 1000

structure ClaimFilter where
  organisation : Option OrganisationId
  delivery : Option DeliveryId

structure DeliveryClaim where
  delivery : DeliveryId
  leaseToken : Token

structure DeliveryRequest where
  url : String
  eventId : String
  eventBytes : Bytes
  eventSha256 : Digest
  secret : Option String

def DeliveryStatus.due (now nextAttemptAt : Time) : DeliveryStatus → Bool
  | pending => nextAttemptAt ≤ now
  | retryWait => nextAttemptAt ≤ now
  | delivering _ leaseExpiresAt => leaseExpiresAt ≤ now
  | _ => false

def claimable (which : ClaimFilter) (now : Time) (d : DeliveryId) (v : WebhookDelivery) : Bool :=
  which.organisation.all (fun o => v.organisation = o) && which.delivery.all (fun d' => d = d') &&
    v.status.due now v.nextAttemptAt

def claimOrder (a b : DeliveryId × WebhookDelivery) : Bool :=
  a.2.nextAttemptAt < b.2.nextAttemptAt || a.2.nextAttemptAt = b.2.nextAttemptAt && a.1 ≤ b.1

def firstClaimable (which : ClaimFilter) (now : Time) :
    List DeliveryId → DeliveryTx (Option (DeliveryId × WebhookDelivery))
  | [] => done none
  | d :: rest => do
    let free ← attempt (.delivery d)
    if free then
      let row ← query fun s => (s.deliveries.get d).filter (claimable which now d)
      match row with
      | some v => done (some (d, v))
      | none => firstClaimable which now rest
    else firstClaimable which now rest

def claimDelivery (sender : Sender) (which : ClaimFilter) (token : Token) :
    DeliveryTx (Option DeliveryClaim) := do
  let now ← query DeliveryState.now
  let due ← query fun s =>
    ((s.deliveries.rows.filter fun e => claimable which now e.1 e.2).mergeSort claimOrder).map Prod.fst
  let found ← firstClaimable which now due
  match found with
  | none => done none
  | some (d, v) =>
    modify (DeliveryState.putDelivery d
      { v with status := .delivering token (now + seconds sender.leaseSeconds) })
    done (some ⟨d, token⟩)

def held (s : DeliveryState) (claim : DeliveryClaim) : Option WebhookDelivery :=
  (s.deliveries.get claim.delivery).filter fun v => v.status.leaseToken = some claim.leaseToken

def loadRequest (sender : Sender) (claim : DeliveryClaim) : DeliveryTx (Option DeliveryRequest) :=
  query fun s => do
    let v ← held s claim
    let r ← s.recipients.get v.recipient
    some ⟨r.version.url, r.event.publicId, r.event.eventBytes, r.event.eventSha256,
      sender.decrypt r.version.encryptedSecret⟩

def classify : Option ℕ → AttemptResult
  | none => .transportError
  | some status =>
    if 200 ≤ status ∧ status < 300 then .acknowledged
    else if status = 408 ∨ status = 429 ∨ 500 ≤ status then .retryable
    else .permanent

structure Report where
  timestamp : ℕ
  statusCode : Option ℕ
  result : AttemptResult
  startedAt : Time
  safeErrorCode : Option String
  forceDeadLetter : Bool

def statusAfter (report : Report) (sequence : ℕ) (now : Time) : DeliveryStatus :=
  if report.result = .acknowledged then .delivered now
  else if report.forceDeadLetter ∨ report.result = .permanent ∨ maxAttempts ≤ sequence then .deadLetter now
  else .retryWait

def WebhookDelivery.record (v : WebhookDelivery) (sender : Sender) (d : DeliveryId) (report : Report)
    (now : Time) : WebhookDelivery :=
  let sequence := v.attemptCount + 1
  let status := statusAfter report sequence now
  { v with
    attemptCount := sequence
    status := status
    nextAttemptAt := if status.terminal then v.nextAttemptAt else now + nextBackoff sender sequence d }

def attemptOf (claim : DeliveryClaim) (request : DeliveryRequest) (report : Report) (sequence : ℕ)
    (now : Time) : WebhookDeliveryAttempt :=
  ⟨claim.delivery, sequence, claim.leaseToken, report.timestamp, request.eventSha256, report.statusCode,
    report.result, report.safeErrorCode, report.startedAt, now⟩

def recordAttempt (sender : Sender) (claim : DeliveryClaim) (request : DeliveryRequest) (report : Report) :
    DeliveryTx Bool := do
  let now ← query DeliveryState.now
  acquire (.delivery claim.delivery)
  let row ← query fun s => held s claim
  match row with
  | none => done false
  | some v =>
    modify (DeliveryState.addAttempt (attemptOf claim request report (v.attemptCount + 1) now))
    modify (DeliveryState.putDelivery claim.delivery (v.record sender claim.delivery report now))
    done true

def takeInitial (v : WebhookDelivery) : DeliveryTx Unit :=
  if v.replayOf.isNone then do
    acquire (.initial v.recipient)
    let taken ← query fun s => s.hasInitial v.recipient
    ensure (taken = false) .integrity
  else done ()

def insertDelivery (d : DeliveryId) (v : WebhookDelivery) : DeliveryTx Unit := do
  acquire (.delivery d)
  let used ← query fun s => (s.deliveries.get d).isSome
  ensure (used = false) .integrity
  takeInitial v
  modify (DeliveryState.putDelivery d v)

def lockRecipients : ℕ → List (RecipientId × Recipient) → DeliveryTx (List (RecipientId × Recipient))
  | 0, _ => done []
  | _ + 1, [] => done []
  | n + 1, e :: rest => do
    let free ← attempt (.recipient e.1)
    if free then
      let more ← lockRecipients n rest
      done (e :: more)
    else lockRecipients (n + 1) rest

def initialDelivery (now : Time) (r : RecipientId) (row : Recipient) : WebhookDelivery :=
  ⟨row.organisation, row.environment, r, none, .pending, 0, now⟩

def awaiting (organisation : Option OrganisationId) (s : DeliveryState) : List (RecipientId × Recipient) :=
  (s.recipients.rows.filter fun e =>
    organisation.all (fun o => e.2.organisation = o) && !s.hasInitial e.1).mergeSort fun a b => a.1 ≤ b.1

def materializeDeliveryBatch (batchSize : ℕ) (organisation : Option OrganisationId)
    (ids : RecipientId → DeliveryId) : DeliveryTx ℕ := do
  let candidates ← query (awaiting organisation)
  let recipients ← lockRecipients batchSize candidates
  let now ← query DeliveryState.now
  forEach (fun e => insertDelivery (ids e.1) (initialDelivery now e.1 e.2)) recipients
  done recipients.length

def replayDelivery (organisation : OrganisationId) (d newId : DeliveryId) : DeliveryTx DeliveryId := do
  acquire (.delivery d)
  let found ← query fun s => (s.deliveries.get d).filter fun v => v.organisation = organisation
  let original ← require found (.relayPay (notFound "Webhook delivery"))
  ensure (original.status.terminal = true)
    (relayPay "DELIVERY_NOT_TERMINAL" "Only a terminal webhook delivery can be replayed" 409 [])
  let now ← query DeliveryState.now
  insertDelivery newId
    ⟨organisation, original.environment, original.recipient, some d, .pending, 0, now⟩
  done newId

inductive Worker where
  | claiming (which : ClaimFilter) (rounds : ℕ)
  | claimingWith (which : ClaimFilter) (rounds : ℕ) (token : Token)
  | claimed (which : ClaimFilter) (rounds : ℕ) (claim : DeliveryClaim)
  | loaded (which : ClaimFilter) (rounds : ℕ) (claim : DeliveryClaim) (request : DeliveryRequest)
  | recording (which : ClaimFilter) (rounds : ℕ) (claim : DeliveryClaim) (request : DeliveryRequest)
      (report : Report)
  | materializing (batchSize : ℕ) (organisation : Option OrganisationId) (ids : RecipientId → DeliveryId)
  | replaying (organisation : OrganisationId) (d newId : DeliveryId)
  | finished

def nextRound (which : ClaimFilter) : ℕ → Worker
  | 0 => .finished
  | rounds + 1 => .claiming which rounds

def unreadable (now : Time) : Report :=
  ⟨now / seconds 1, none, .transportError, now, some "WEBHOOK_SECRET_UNREADABLE", true⟩

def answered (now : Time) (status : Option ℕ) : Report :=
  ⟨now / seconds 1, status, classify status, now,
    if status.isNone then some "WEBHOOK_TRANSPORT_ERROR" else none, false⟩

/-- What happens between transactions: a token is drawn that was never drawn before, and a request is
sent and answered in any way, or not at all. -/
inductive Act : Worker → DeliveryState → Worker → DeliveryState → Prop
  | draw {which rounds token s} : token ∉ s.drawn →
      Act (.claiming which rounds) s (.claimingWith which rounds token) { s with drawn := token :: s.drawn }
  | unreadable {which rounds claim request s} : request.secret = none →
      Act (.loaded which rounds claim request) s (.recording which rounds claim request (unreadable s.now)) s
  | send {which rounds claim request s} (status : Option ℕ) : request.secret ≠ none →
      Act (.loaded which rounds claim request) s
        (.recording which rounds claim request (answered s.now status)) s

inductive Environment : DeliveryState → DeliveryState → Prop
  | tick {s now} : s.now ≤ now → Environment s { s with now := now }
  | recipient {s r row} : s.recipients.get r = none →
      Environment s { s with recipients := s.recipients.put r row }

def webhooks (sender : Sender) : System DeliveryState DeliveryKey Empty Error Worker where
  txn
    | .claiming _ _ => none
    | .claimingWith which rounds token => some do
        let claim ← claimDelivery sender which token
        done (match claim with
          | none => .finished
          | some claim => .claimed which rounds claim)
    | .claimed which rounds claim => some do
        let request ← loadRequest sender claim
        done (match request with
          | none => nextRound which rounds
          | some request => .loaded which rounds claim request)
    | .loaded _ _ _ _ => none
    | .recording which rounds claim request report => some do
        let _ ← recordAttempt sender claim request report
        done (nextRound which rounds)
    | .materializing batchSize organisation ids => some do
        let _ ← materializeDeliveryBatch batchSize organisation ids
        done .finished
    | .replaying organisation d newId => some do
        let _ ← replayDelivery organisation d newId
        done .finished
    | .finished => none
  fire := nofun
  handler _ _ := .finished
  dbError _ := True
  act := Act
  env := Environment
  spawn
    | .claiming _ _ => True
    | .materializing _ _ _ => True
    | .replaying _ _ _ => True
    | _ => False

end RelayPay.Webhooks
