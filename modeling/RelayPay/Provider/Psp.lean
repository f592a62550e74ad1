import RelayPay.Provider.Operations

namespace RelayPay

open ReadCommitted Txn

structure SimulatorEnvelope where
  eventId : String
  eventType : String
  effect : Json

def validateEnvelope (j : Json) : Option SimulatorEnvelope := do
  onlyFields j ["eventId", "eventType", "occurredAt", "effect"]
  let eventId ← strField j "eventId"
  let eventType ← literalField j "eventType" ["effect.updated"]
  let _ ← strField j "occurredAt"
  let effect ← (j.get? "effect").filter Json.isObject
  some ⟨eventId, eventType, effect⟩

structure VerifiedEnvelope where
  eventId : String
  stableKey : String

def unauthorized (code message : String) : Error := relayPay code message 401 []

def verifySimulatorWebhook (cfg : Service) (headers : List (String × String)) (body : Bytes)
    (now : Time) : Except Error VerifiedEnvelope := do
  match header headers "x-provider-event-id", header headers "x-provider-timestamp",
      header headers "x-provider-signature" with
  | some eventId, some timestampText, some signature =>
    if eventId = "" ∨ timestampText = "" ∨ signature = "" then
      throw (unauthorized "PSP_WEBHOOK_HEADERS_MISSING" "Webhook authentication headers missing")
    else match timestampText.toInt? with
      | none => throw (unauthorized "INVALID_WEBHOOK_TIMESTAMP" "Webhook timestamp is invalid")
      | some t =>
        if (now - t * 1000000).natAbs > seconds cfg.webhookReplaySeconds then
          throw (unauthorized "WEBHOOK_REPLAY_WINDOW_EXCEEDED"
            "Webhook timestamp is outside the replay window")
        else if signature ≠ cfg.hmacHex cfg.webhookSecret (encode (timestampText ++ ".") ++ body) ∧
            signature ≠ "v1=" ++ cfg.hmacHex cfg.webhookSecret (encode (timestampText ++ ".") ++ body)
        then throw (unauthorized "INVALID_WEBHOOK_SIGNATURE" "Webhook signature is invalid")
        else match (cfg.loads body).bind validateEnvelope with
          | none => throw (relayPay "INVALID_PSP_EVENT" "Webhook body is not a valid event" 400 [])
          | some envelope =>
            match strField envelope.effect "stableKey" with
            | none => throw (relayPay "INVALID_PSP_EVENT" "Webhook body is not a valid event" 400 [])
            | some key =>
              if envelope.eventId ≠ eventId then
                throw (relayPay "PSP_EVENT_ID_MISMATCH"
                  "Webhook body id does not match its header" 400 [])
              else pure ⟨eventId, key⟩
  | _, _, _ =>
    throw (unauthorized "PSP_WEBHOOK_HEADERS_MISSING" "Webhook authentication headers missing")

def World.matchingOperation (w : World) (stableKey : String) : Option OperationId :=
  match (w.operations.rows.map Prod.fst).filter fun o => o.stableKey = stableKey with
  | [o] => some o
  | _ => none

def acceptPspEvent (cfg : Service) (headers : List (String × String)) (body : Bytes) : Tx Bool := do
  let now ← query World.now
  match verifySimulatorWebhook cfg headers body now with
  | .error e => raise e
  | .ok verified => do
    let existing ← query fun w => w.pspEvents.get verified.eventId
    match existing with
    | some ev => do
      ensure (ev.payloadSha256 = sha256 body) (relayPay "PSP_EVENT_CONFLICT"
        "Provider event identifier is bound to different bytes" 409 [])
      done true
    | none => do
      let operation ← query fun w => w.matchingOperation verified.stableKey
      acquire (.event verified.eventId)
      let taken ← query fun w => w.pspEvents.get verified.eventId
      ensure (taken.isNone = true) .integrity
      modify fun w => w.putEvent verified.eventId ⟨body, sha256 body, operation,
        if operation.isSome then .pending else .unmatched, none, 0, none, none, none, none, now⟩
      done false

structure EventClaim where
  event : String
  leaseToken : Token

def maxEventAttempts : ℕ := 5

def PspEvent.finish (ev : PspEvent) (status : PspStatus) (outcomeCode : Option String) (now : Time) :
    PspEvent :=
  { ev with
    status := status, outcomeCode := outcomeCode, leaseToken := none, leaseExpiresAt := none,
    processedAt := some now }

def PspEvent.claimable (ev : PspEvent) (now : Time) : Bool :=
  (ev.status = .pending || (ev.status = .processing && ev.leaseExpiresAt.any fun t => t ≤ now)) &&
    ev.nextAttemptAt.all fun t => t ≤ now

def leaseEvent (now : Time) (claims : List EventClaim) (c : EventClaim) : Tx (List EventClaim) := do
  let row ← query fun w => w.pspEvents.get c.event
  match row with
  | none => done claims
  | some ev =>
    if maxEventAttempts ≤ ev.attemptCount then do
      modify fun w => w.putEvent c.event (ev.finish .deadLetter (some "ATTEMPTS_EXHAUSTED") now)
      done claims
    else do
      modify fun w => w.putEvent c.event { ev with
        attemptCount := ev.attemptCount + 1, status := .processing, leaseToken := some c.leaseToken,
        leaseExpiresAt := some (now + seconds leaseSeconds) }
      done (claims ++ [c])

def claimPspEvents (base : Token) (limit : ℕ) : Tx (List EventClaim) := do
  let now ← query World.now
  let candidates ← query fun w =>
    (((w.pspEvents.rows.filter fun e => e.2.claimable now).insertionSort fun a b =>
      a.2.createdAt ≤ b.2.createdAt).take limit).map Prod.fst
  let taken ← skipLocked Key.event (fun w e => (w.pspEvents.get e).any (·.claimable now)) candidates
  foldOver (leaseEvent now) [] (taken.zipIdx.map fun e => (⟨e.1, base + e.2⟩ : EventClaim))

inductive Decision where
  | apply (succeeded : Bool)
  | ignore (reason : String)
  | review (reason : String)

def decideEvent (status : OperationStatus) (applied : Bool) (outcome : EventOutcome) : Decision :=
  if applied then .ignore "DUPLICATE"
  else match outcome with
    | .pending => .ignore "STALE"
    | .succeeded =>
      if !status.terminal then .apply true
      else if status = .succeeded then .ignore "DUPLICATE"
      else .review "CONTRADICTS_TERMINAL_STATE"
    | .declined =>
      if !status.terminal then .apply false
      else if status = .failed then .ignore "DUPLICATE"
      else .review "CONTRADICTS_TERMINAL_STATE"

structure PreparedEvent where
  finished : Option PspStatus
  attempt : Option ℕ
  operation : OperationId
  reviewReason : Option String

def finishEvent (e : String) (ev : PspEvent) (status : PspStatus) (outcomeCode : Option String) :
    Tx Unit := do
  let now ← query World.now
  modify fun w => w.putEvent e (ev.finish status outcomeCode now)

def webhookAttempt (sequence : ℕ) (e : String) (ev : PspEvent) (succeeded : Bool)
    (declineCode : Option String) (now : Time) : ProviderAttempt where
  sequence := sequence
  kind := .webhook
  state := .responseReceived
  requestSha256 := sha256 (encode e)
  responseHttpStatus := some 200
  responseBytes := some ev.payloadBytes
  responseSha256 := some ev.payloadSha256
  signatureValid := some true
  classification := some (if succeeded then .verifiedSuccess else .verifiedBusinessDecline)
  safeErrorCode := if succeeded then none else some (declineCode.getD "PROVIDER_DECLINED")
  startedAt := now
  completedAt := some now
  answeredAt := none

def recordDecision (e : String) (ev : PspEvent) (o : OperationId) (op : ProviderOperation)
    (result : ProviderResult) : Decision → Tx PreparedEvent
  | .ignore reason => do
    finishEvent e ev .ignored (some reason)
    done ⟨some .ignored, none, o, none⟩
  | .review reason => do
    finishEvent e ev .review (some reason)
    done ⟨some .review, none, o, some reason⟩
  | .apply succeeded => do
    let now ← query World.now
    let attempt := webhookAttempt op.nextSequence e ev succeeded result.declineCode now
    modify fun w => w.putOperation o { op with attempts := op.attempts ++ [attempt] }
    done ⟨none, some op.nextSequence, o, none⟩

def prepareEvent (cfg : Service) (c : EventClaim) : Tx (Option PreparedEvent) := do
  acquire (.event c.event)
  let row ← query fun w => (w.pspEvents.get c.event).filter fun ev =>
    ev.leaseToken = some c.leaseToken && ev.status = .processing
  match row.bind fun ev => ev.operation.map fun o => (ev, o) with
  | none => done none
  | some (ev, o) => do
    acquire (.operation o)
    let operation ← query fun w => w.operations.get o
    let op ← require operation (.runtime "matched provider operation disappeared")
    match op.attempts.find? fun t => t.kind = .webhook && t.responseSha256 = some ev.payloadSha256 with
    | some t => done (some ⟨none, some t.sequence, o, none⟩)
    | none =>
      match ((cfg.loads ev.payloadBytes).bind validateEnvelope).bind fun x =>
          validateProviderResult x.effect with
      | none => do
        finishEvent c.event ev .review (some "INVALID_EVIDENCE")
        done (some ⟨some .review, none, o, some "INVALID_EVIDENCE"⟩)
      | some result => do
        let expected ← expectedResultFor cfg o
        if !result.identity.agrees expected then do
          finishEvent c.event ev .review (some "MISMATCHED_EVIDENCE")
          done (some ⟨some .review, none, o, some "MISMATCHED_EVIDENCE"⟩)
        else do
          let applied ← query fun w => (w.pspEvents.get c.event).any fun x =>
            x.operation = some o && x.status = .applied
          let prepared ← recordDecision c.event ev o op result
            (decideEvent op.status applied result.outcome)
          done (some prepared)

def finishApplied (c : EventClaim) : Tx Unit := do
  acquire (.event c.event)
  let row ← query fun w => w.pspEvents.get c.event
  match row with
  | none => done ()
  | some ev => if ev.leaseToken = some c.leaseToken then finishEvent c.event ev .applied none else done ()

end RelayPay
