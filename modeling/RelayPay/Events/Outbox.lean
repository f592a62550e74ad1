import RelayPay.ReadCommitted.Interleaving
import RelayPay.Schema

namespace RelayPay.Events

open ReadCommitted Txn

abbrev RowId := ℕ
abbrev OrganisationId := ℕ

structure BusinessEventOutbox where
  organisation : OrganisationId
  environment : EnvironmentId
  eventId : String
  eventType : String
  occurredAt : Time
  resourceType : String
  resourceId : String
  topic : String
  partitionKey : String
  payload : Json
  payloadSha256 : Digest
  eventBytes : Bytes
  createdAt : Time
  publishAttempts : ℕ
  nextAttemptAt : Time
  leaseToken : Option Token
  leaseExpiresAt : Option Time
  publishedAt : Option Time

structure Message where
  topic : String
  key : Bytes
  value : Bytes
  deriving DecidableEq

def BusinessEventOutbox.message (row : BusinessEventOutbox) : Message :=
  ⟨row.topic, encode row.partitionKey, row.eventBytes⟩

structure Marker where
  organisation : OrganisationId
  environment : EnvironmentId
  payloadSha256 : Digest
  deriving DecidableEq

abbrev ConsumptionKey := String × String

/-- `accepted` is the broker's log and `effects` what consumers did for events. -/
structure EventState where
  now : Time
  outbox : Table RowId BusinessEventOutbox
  consumed : Table ConsumptionKey Marker
  accepted : List Message
  effects : List (ConsumptionKey × Marker)

inductive EventKey where
  | row (r : RowId)
  | eventId (e : String)
  | marker (k : ConsumptionKey)
  deriving DecidableEq

abbrev EventTx (α : Type) := Txn EventState EventKey Empty Error α

namespace EventState

variable (s : EventState)

def putRow (r : RowId) (row : BusinessEventOutbox) : EventState := { s with outbox := s.outbox.put r row }

def updateRow (r : RowId) (f : BusinessEventOutbox → BusinessEventOutbox) : EventState :=
  { s with outbox := s.outbox.update r f }

def putMarker (k : ConsumptionKey) (m : Marker) : EventState := { s with consumed := s.consumed.put k m }

def addEffect (k : ConsumptionKey) (m : Marker) : EventState := { s with effects := s.effects ++ [(k, m)] }

def accept (m : Message) : EventState := { s with accepted := s.accepted ++ [m] }

end EventState

structure NewBusinessEvent where
  organisation : OrganisationId
  organisationPublicId : String
  environment : EnvironmentId
  environmentPublicId : String
  eventType : String
  resourceType : String
  resourceId : String
  payload : List (String × Json)
  occurredAt : Time
  eventId : String

namespace NewBusinessEvent

variable (e : NewBusinessEvent)

def envelope : Json :=
  .obj [("eventId", .str e.eventId), ("eventType", .str e.eventType), ("schemaVersion", .int 1),
    ("occurredAt", .str (isoformat e.occurredAt)), ("organisationId", .str e.organisationPublicId),
    ("environmentId", .str e.environmentPublicId), ("resourceType", .str e.resourceType),
    ("resourceId", .str e.resourceId), ("payload", .obj e.payload),
    ("payloadSha256", .str (sha256 (canonicalJsonBytes (.obj e.payload))).hex)]

def row (createdAt : Time) : BusinessEventOutbox where
  organisation := e.organisation
  environment := e.environment
  eventId := e.eventId
  eventType := e.eventType
  occurredAt := e.occurredAt
  resourceType := e.resourceType
  resourceId := e.resourceId
  topic := "relaypay." ++ e.eventType ++ ".v1"
  partitionKey := e.organisationPublicId ++ ":" ++ e.environmentPublicId ++ ":" ++ e.resourceId
  payload := .obj e.payload
  payloadSha256 := sha256 (canonicalJsonBytes (.obj e.payload))
  eventBytes := canonicalJsonBytes e.envelope
  createdAt := createdAt
  publishAttempts := 0
  nextAttemptAt := e.occurredAt
  leaseToken := none
  leaseExpiresAt := none
  publishedAt := none

end NewBusinessEvent

def hasEvent (s : EventState) (eventId : String) : Bool := s.outbox.rows.any fun e => e.2.eventId = eventId

def appendBusinessEvent (r : RowId) (e : NewBusinessEvent) : EventTx Unit := do
  let createdAt ← query EventState.now
  acquire (.row r)
  let used ← query fun s => (s.outbox.get r).isSome
  ensure (used = false) .integrity
  acquire (.eventId e.eventId)
  let taken ← query fun s => hasEvent s e.eventId
  ensure (taken = false) .integrity
  modify fun s => s.putRow r (e.row createdAt)

structure ClaimedEvent where
  row : RowId
  leaseToken : Token
  message : Message

def claimable (organisation : Option OrganisationId) (now : Time) (row : BusinessEventOutbox) : Bool :=
  row.publishedAt.isNone && organisation.all (fun o => row.organisation = o) && row.nextAttemptAt ≤ now &&
    row.leaseExpiresAt.all fun t => t ≤ now

def upTo (a b : RowId × BusinessEventOutbox) : Prop :=
  a.2.createdAt < b.2.createdAt ∨ a.2.createdAt = b.2.createdAt ∧ a.1 ≤ b.1

instance : DecidableRel upTo := fun a b =>
  inferInstanceAs (Decidable (a.2.createdAt < b.2.createdAt ∨ a.2.createdAt = b.2.createdAt ∧ a.1 ≤ b.1))

def due (organisation : Option OrganisationId) (now : Time) (s : EventState) : List RowId :=
  ((s.outbox.rows.filter fun e => claimable organisation now e.2).insertionSort upTo).map Prod.fst

def firstDue (organisation : Option OrganisationId) (now : Time) :
    List RowId → EventTx (Option (RowId × BusinessEventOutbox))
  | [] => done none
  | r :: rest => do
    let free ← attempt (.row r)
    if free then
      let found ← query fun s => (s.outbox.get r).filter (claimable organisation now)
      match found with
      | some row => done (some (r, row))
      | none => firstDue organisation now rest
    else firstDue organisation now rest

def leaseSeconds : ℕ := 30

def BusinessEventOutbox.lease (row : BusinessEventOutbox) (token : Token) (now : Time) : BusinessEventOutbox :=
  { row with
    leaseToken := some token
    leaseExpiresAt := some (now + seconds leaseSeconds)
    publishAttempts := row.publishAttempts + 1 }

def claimEvent (now : Time) (organisation : Option OrganisationId) (token : Token) :
    EventTx (Option ClaimedEvent) := do
  let candidates ← query (due organisation now)
  let found ← firstDue organisation now candidates
  match found with
  | none => done none
  | some (r, row) =>
    modify fun s => s.putRow r (row.lease token now)
    done (some ⟨r, token, row.message⟩)

def backoff (firstByte : Digest → ℕ) (attempt : ℕ) (eventId : String) : Time :=
  let base := min 300 (2 ^ min attempt 8)
  let jitter := firstByte (sha256 (encode (eventId ++ ":" ++ toString attempt))) % 7
  seconds (base + jitter)

def BusinessEventOutbox.patch (loaded new row : BusinessEventOutbox) : BusinessEventOutbox :=
  { row with
    nextAttemptAt := patched loaded.nextAttemptAt new.nextAttemptAt row.nextAttemptAt
    leaseToken := patched loaded.leaseToken new.leaseToken row.leaseToken
    leaseExpiresAt := patched loaded.leaseExpiresAt new.leaseExpiresAt row.leaseExpiresAt
    publishedAt := patched loaded.publishedAt new.publishedAt row.publishedAt }

def release (claim : ClaimedEvent) (change : BusinessEventOutbox → BusinessEventOutbox) : EventTx Unit := do
  let found ← query fun s => s.outbox.get claim.row
  match found with
  | none => done ()
  | some row =>
    if row.leaseToken = some claim.leaseToken then do
      acquire (.row claim.row)
      modify fun s => s.updateRow claim.row (BusinessEventOutbox.patch row (change row))
    else done ()

def BusinessEventOutbox.postponed (firstByte : Digest → ℕ) (now : Time) (row : BusinessEventOutbox) :
    BusinessEventOutbox :=
  { row with
    nextAttemptAt := now + backoff firstByte row.publishAttempts row.eventId
    leaseToken := none
    leaseExpiresAt := none }

def BusinessEventOutbox.published (now : Time) (row : BusinessEventOutbox) : BusinessEventOutbox :=
  { row with publishedAt := some now, leaseToken := none, leaseExpiresAt := none }

structure Redelivery where
  consumer : String
  eventId : String
  organisation : OrganisationId
  environment : EnvironmentId
  payloadSha256 : Digest

namespace Redelivery

def key (d : Redelivery) : ConsumptionKey := (d.consumer, d.eventId)

def marker (d : Redelivery) : Marker := ⟨d.organisation, d.environment, d.payloadSha256⟩

end Redelivery

def replayConflict : Error :=
  relayPay "EVENT_REPLAY_CONFLICT" "The event id is already bound to a different payload" 409 []

def assertIdenticalReplay (marker : Marker) (d : Redelivery) : EventTx Unit := ensure (marker = d.marker) replayConflict

def insertMarker (d : Redelivery) : EventTx Bool := do
  let free ← attempt (.marker d.key)
  let taken ← query fun s => s.consumed.get d.key
  match taken with
  | some _ => done false
  | none =>
    ensure (free = true) .database
    modify fun s => s.putMarker d.key d.marker
    done true

def recordConsumption (d : Redelivery) : EventTx Bool := do
  let marker ← query fun s => s.consumed.get d.key
  match marker with
  | some m =>
    assertIdenticalReplay m d
    done false
  | none =>
    let inserted ← insertMarker d
    if inserted then done true
    else
      let concurrent ← query fun s => s.consumed.get d.key
      let m ← require concurrent .integrity
      assertIdenticalReplay m d
      done false

def consume (d : Redelivery) : EventTx Bool := do
  let first ← recordConsumption d
  if first then modify fun s => s.addEffect d.key d.marker
  else done ()
  done first

inductive Worker where
  | appending (r : RowId) (e : NewBusinessEvent)
  | claiming (now : Time) (organisation : Option OrganisationId) (token : Token)
  | publishing (now : Time) (claim : ClaimedEvent)
  | marking (now : Time) (claim : ClaimedEvent)
  | failing (now : Time) (claim : ClaimedEvent)
  | consuming (d : Redelivery)
  | consumed (d : Redelivery) (first : Bool)
  | finished

inductive Act : Worker → EventState → Worker → EventState → Prop
  | accepted {now claim s} : Act (.publishing now claim) s (.marking now claim) (s.accept claim.message)
  | unheard {now claim s} : Act (.publishing now claim) s (.failing now claim) (s.accept claim.message)
  | failed {now claim s} : Act (.publishing now claim) s (.failing now claim) s

inductive Environment : EventState → EventState → Prop
  | tick {s now} : s.now ≤ now → Environment s { s with now := now }

def events (firstByte : Digest → ℕ) : System EventState EventKey Empty Error Worker where
  txn
    | .appending r e => some do
        appendBusinessEvent r e
        done .finished
    | .claiming now organisation token => some do
        let claim ← claimEvent now organisation token
        done (claim.elim .finished (.publishing now))
    | .publishing _ _ => none
    | .marking now claim => some do
        release claim (BusinessEventOutbox.published now)
        done .finished
    | .failing now claim => some do
        release claim (BusinessEventOutbox.postponed firstByte now)
        done .finished
    | .consuming d => some do
        let first ← consume d
        done (.consumed d first)
    | .consumed _ _ => none
    | .finished => none
  fire := nofun
  handler _ _ := .finished
  dbError _ := True
  act := Act
  env := Environment
  spawn
    | .appending _ _ => True
    | .claiming _ _ _ => True
    | .consuming _ => True
    | _ => False

def EventState.start (now : Time) : EventState := ⟨now, .empty, .empty, [], []⟩

end RelayPay.Events
