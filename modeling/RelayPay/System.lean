import RelayPay.Payouts
import RelayPay.Provider.Psp
import RelayPay.ReadCommitted.Reduction

/-! The processes of the service. A local state is where a process stands between two transactions or calls. -/

namespace RelayPay

open ReadCommitted Txn

inductive Command where
  | createIntent (c : CreateIntent)
  | authorize (p : PaymentId)
  | capture (p : PaymentId) (amount : Option ℤ)
  | void (p : PaymentId)
  | refund (p : PaymentId) (r : RefundId) (amount : ℤ)

/-- What a process does after the operation it works on: stop, go on with the unsent sweep, or go
on with the due lookups of the poller. -/
inductive Cont where
  | stop
  | sweep (rest : List OperationId) (base : Token) (limit : ℕ)
  | poll (rest : List RecoveryClaim)

inductive Local where
  | finished
  | replied (r : Reply)
  | command (c : Command) (k : KeyedRequest)
  | commandRace (c : Command) (k : KeyedRequest)
  -- dispatch_operation
  | dispatch (cont : Cont) (o : OperationId)
  | expecting (cont : Cont) (prepared : PreparedOperation)
  | calling (cont : Cont) (prepared : PreparedOperation) (e : ExpectedProviderResult)
  | awaiting (cont : Cont) (prepared : PreparedOperation) (e : ExpectedProviderResult)
  | answered (cont : Cont) (prepared : PreparedOperation) (e : ExpectedProviderResult)
      (obs : Option Observation)
  -- run_recovery_batch and the administrative lookup
  | claimUnsent (base : Token) (limit : ℕ)
  | claimDue (base : Token) (limit : ℕ)
  | adminLookup (o : OperationId) (token : Token)
  | lookingUp (cont : Cont) (claim : RecoveryClaim) (actor : Actor)
  | lookedUp (cont : Cont) (claim : RecoveryClaim) (actor : Actor) (obs : Option Observation)
  | recording (cont : Cont) (claim : RecoveryClaim) (actor : Actor) (obs : Option Observation)
      (e : ExpectedProviderResult)
  -- apply_recorded_outcome
  | finalizing (cont : Cont) (o : OperationId) (attempt : ℕ) (actor : Actor)
  | applyFailed (cont : Cont) (o : OperationId) (attempt : ℕ)
  | reviewing (cont : Cont) (o : OperationId) (attempt : ℕ) (reason : String) (actor : Actor)
  -- the webhook inbox and its applier
  | acceptEvent (headers : List (String × String)) (body : Bytes)
  | claimEvents (base : Token) (limit : ℕ)
  | pspPrepare (rest : List EventClaim) (c : EventClaim)
  | pspReview (rest : List EventClaim) (o : OperationId) (reason : String)
  | pspFinalize (rest : List EventClaim) (c : EventClaim) (o : OperationId) (attempt : ℕ)
  | pspApplyFailed (rest : List EventClaim) (o : OperationId) (attempt : ℕ)
  | pspFinish (rest : List EventClaim) (c : EventClaim)
  -- expiry, merchants, settlement
  | expire (batchSize : ℕ)
  | createMerchant (m : MerchantId)
  | settle (m : MerchantId) (run : KeyDigest) (fingerprint : Digest) (again : Bool)
  -- payouts
  | createPayout (c : CreatePayout) (again : Bool)
  | retryPayout (c : CreateRetry)
  | payoutBatch (limit : ℕ)
  | payoutClaim (limit : ℕ) (ids : List PayoutId)
  | payoutPrepare (rest : List PayoutId) (q : PayoutId)
  | payoutCalling (rest : List PayoutId) (prepared : PreparedAttempt)
  | payoutAwaiting (rest : List PayoutId) (prepared : PreparedAttempt)
  | payoutRecord (rest : List PayoutId) (prepared : PreparedAttempt) (obs : Option Observation)
      (cl : BankClassification)

namespace Local

def resume : Cont → Local
  | .stop => finished
  | .sweep [] base limit => claimDue base limit
  | .sweep (o :: rest) base limit => dispatch (.sweep rest base limit) o
  | .poll [] => finished
  | .poll (c :: rest) => lookingUp (.poll rest) c .recoveryWorker

def failed : Cont → Local
  | .sweep rest base limit => resume (.sweep rest base limit)
  | _ => finished

def applyOutcome (cont : Cont) (o : OperationId) (actor : Actor) : Option RecordedOutcome → Local
  | none => resume cont
  | some r =>
    match r.action with
    | .finalizeSuccess => finalizing cont o r.attempt actor
    | .finalizeFailure => finalizing cont o r.attempt actor
    | .review => reviewing cont o r.attempt (r.reviewReason.getD "INVALID_EVIDENCE") actor
    | .lookup => resume cont
    | .processing => resume cont
    | .notFound => resume cont

def nextEvent : List EventClaim → Local
  | [] => finished
  | c :: rest => pspPrepare rest c

def afterPrepare (rest : List EventClaim) (c : EventClaim) : Option PreparedEvent → Local
  | none => nextEvent rest
  | some e =>
    match e.reviewReason, e.finished, e.attempt with
    | some reason, _, _ => pspReview rest e.operation reason
    | none, some _, _ => nextEvent rest
    | none, none, some n => pspFinalize rest c e.operation n
    | none, none, none => nextEvent rest

def nextPayout : List PayoutId → Local
  | [] => finished
  | q :: rest => payoutPrepare rest q

def afterBankReply (cfg : Service) (rest : List PayoutId) (prepared : PreparedAttempt)
    (obs : Option Observation) : Local :=
  match classifyBank cfg obs prepared.requestBytes with
  | .ok cl => payoutRecord rest prepared obs cl
  | .error _ => finished

end Local

open Local

def Command.transaction (cfg : Service) (k : KeyedRequest) : Command → Tx Reply
  | .createIntent c => createPaymentIntent c k
  | .authorize p => initiateAuthorization cfg p k
  | .capture p amount => initiateCapture p amount k
  | .void p => initiateVoid p k
  | .refund p r amount => initiateRefund p r amount k

def Command.race (k : KeyedRequest) : Command → Tx Reply
  | .createIntent c => recoverIntentRace c k
  | _ => recoverOperationRace k

/-- `dispatch_operation` passes no grace period, so its lookup path records with the default. -/
def recordAnswer (cfg : Service) (prepared : PreparedOperation) (e : ExpectedProviderResult)
    (obs : Option Observation) : Tx (Option RecordedOutcome) :=
  if prepared.alreadySent then
    recordLookupObservation prepared.operation none obs (classifyOrTransportError cfg obs e true)
      defaultNotFoundGraceSeconds
  else completeMutation prepared.operation obs (classifyOrTransportError cfg obs e false)

def transaction (cfg : Service) : Local → Option (Tx Local)
  | finished => none
  | replied _ => none
  | command c k => some (replied <$> c.transaction cfg k)
  | commandRace c k => some (replied <$> c.race k)
  | dispatch cont o => some do
    let prepared ← prepareFirstSend cfg o
    done (if prepared.terminal then resume cont else expecting cont prepared)
  | expecting cont prepared => some (calling cont prepared <$> expectedResult cfg prepared.operation)
  | calling _ _ _ => none
  | awaiting _ _ _ => none
  | answered cont prepared e obs =>
    some (applyOutcome cont prepared.operation .request <$> recordAnswer cfg prepared e obs)
  | claimUnsent base limit => some do
    let claims ← claimUnsentOperations base limit
    done (resume (.sweep (claims.map RecoveryClaim.operation) base limit))
  | claimDue base limit => some do
    let claims ← claimDueOperations base limit
    done (resume (.poll claims))
  | adminLookup o token => some do
    let claim ← claimSpecificOperation o token true
    done (lookingUp .stop claim .adminLookup)
  | lookingUp _ _ _ => none
  | lookedUp cont claim actor obs =>
    some (recording cont claim actor obs <$> expectedResult cfg claim.operation)
  | recording cont claim actor obs e => some do
    let outcome ← recordLookupObservation claim.operation (some claim.leaseToken) obs
      (classifyOrTransportError cfg obs e true) cfg.notFoundGraceSeconds
    done (applyOutcome cont claim.operation actor outcome)
  | finalizing cont o attempt actor => some do
    finalizeVerifiedAttempt o attempt actor
    done (resume cont)
  | applyFailed cont o attempt => some do
    let _ ← recordApplyFailure o attempt
    done (resume cont)
  | reviewing cont o attempt reason actor => some do
    markOperationForReview o reason (some attempt) actor
    done (resume cont)
  | acceptEvent headers body => some do
    let _ ← acceptPspEvent cfg headers body
    done finished
  | claimEvents base limit => some (nextEvent <$> claimPspEvents base limit)
  | pspPrepare rest c => some (afterPrepare rest c <$> prepareEvent cfg c)
  | pspReview rest o reason => some do
    markOperationForReview o reason none .webhook
    done (nextEvent rest)
  | pspFinalize rest c o attempt => some do
    finalizeVerifiedAttempt o attempt .webhook
    done (pspFinish rest c)
  | pspApplyFailed rest o attempt => some do
    let _ ← recordApplyFailure o attempt
    done (nextEvent rest)
  | pspFinish rest c => some do
    finishApplied c
    done (nextEvent rest)
  | expire batchSize => some do
    let _ ← expireAuthorizations batchSize
    done finished
  | createMerchant m => some do
    createMerchantAccount m false
    done finished
  | settle m run fingerprint _ => some (replied <$> runSettlementTransaction m run fingerprint)
  | createPayout c _ => some (replied <$> createPayoutTransaction c)
  | retryPayout c => some (replied <$> createRetry c)
  | payoutBatch limit => some (payoutClaim limit <$> selectPayoutBatch limit)
  | payoutClaim limit ids => some do
    let stale ← claimStaleSentAttempts limit
    done (nextPayout (ids ++ stale))
  | payoutPrepare rest q => some do
    let prepared ← prepareAttemptSend cfg q
    done (if prepared.terminal then nextPayout rest else payoutCalling rest prepared)
  | payoutCalling _ _ => none
  | payoutAwaiting _ _ => none
  | payoutRecord rest prepared obs cl => some do
    recordBankObservation prepared obs cl cfg.notFoundGraceSeconds
    done (nextPayout rest)

def Error.caught : Error → Bool
  | .relayPay _ => true
  | .integrity => true
  | .database => true
  | _ => false

def onError : Local → Error → Local
  | command c k, .integrity => commandRace c k
  | dispatch cont _, _ => failed cont
  | expecting cont _, _ => failed cont
  | answered cont _ _ _, _ => failed cont
  | lookedUp cont _ _ _, _ => failed cont
  | recording cont _ _ _ _, _ => failed cont
  | finalizing cont o attempt _, e => if e.caught then applyFailed cont o attempt else failed cont
  | applyFailed cont _ _, _ => failed cont
  | reviewing cont _ _ _ _, _ => failed cont
  | acceptEvent headers body, .integrity => acceptEvent headers body
  | pspPrepare rest _, _ => nextEvent rest
  | pspReview rest _ _, _ => nextEvent rest
  | pspFinalize rest _ o attempt, e =>
    if e.caught then pspApplyFailed rest o attempt else nextEvent rest
  | pspApplyFailed rest _ _, _ => nextEvent rest
  | pspFinish rest _, _ => nextEvent rest
  | settle m run fingerprint false, .integrity => settle m run fingerprint true
  | createPayout c false, .integrity => createPayout c true
  | _, _ => finished

/-- What the provider and the bank may answer to a call for a stable key, and the outcomes they may give a mutation. -/
structure Outside where
  providerReply : World → OperationId → Bool → Option Observation → Prop
  providerApplies : World → OperationId → EffectOutcome → Prop
  bankReply : World → AttemptId → Bool → Option Observation → Prop
  bankApplies : World → AttemptId → EffectOutcome → Prop

def Counterparty.contact {ι : Type} [DecidableEq ι] (c : Counterparty ι) (x : Contact ι) :
    Counterparty ι :=
  { c with contacts := c.contacts ++ [x] }

def AnsweredNow (w : World) (obs : Option Observation) : Prop :=
  ∀ x, obs = some x → x.answeredAt = w.now

/-- Calls out of the database. A mutation is sent first and answered later; a timeout is the
answer `none`. -/
inductive Act (cfg : Service) (out : Outside) : Local → World → Local → World → Prop
  | send {w cont prepared e} : prepared.alreadySent = false →
      Act cfg out (calling cont prepared e) w (awaiting cont prepared e)
        (w.setProvider (w.provider.contact (.mutate prepared.operation prepared.requestBytes)))
  | receive {w cont prepared e obs} : AnsweredNow w obs →
      out.providerReply w prepared.operation false obs →
      Act cfg out (awaiting cont prepared e) w (answered cont prepared e obs) w
  | lookup {w cont prepared e obs} : prepared.alreadySent = true → AnsweredNow w obs →
      out.providerReply w prepared.operation true obs →
      Act cfg out (calling cont prepared e) w (answered cont prepared e obs)
        (w.setProvider (w.provider.contact (.lookup prepared.operation)))
  | recover {w cont claim actor obs} : AnsweredNow w obs →
      out.providerReply w claim.operation true obs →
      Act cfg out (lookingUp cont claim actor) w (lookedUp cont claim actor obs)
        (w.setProvider (w.provider.contact (.lookup claim.operation)))
  | sendPayout {w rest prepared} : prepared.lookupOnly = false →
      Act cfg out (payoutCalling rest prepared) w (payoutAwaiting rest prepared)
        (w.setBank (w.bank.contact (.mutate (prepared.payout, prepared.number) prepared.requestBytes)))
  | receivePayout {w rest prepared obs} : AnsweredNow w obs →
      out.bankReply w (prepared.payout, prepared.number) false obs →
      Act cfg out (payoutAwaiting rest prepared) w (afterBankReply cfg rest prepared obs) w
  | lookupPayout {w rest prepared obs} : prepared.lookupOnly = true → AnsweredNow w obs →
      out.bankReply w (prepared.payout, prepared.number) true obs →
      Act cfg out (payoutCalling rest prepared) w (afterBankReply cfg rest prepared obs)
        (w.setBank (w.bank.contact (.lookup (prepared.payout, prepared.number))))

def Counterparty.wasSent {ι : Type} [DecidableEq ι] (c : Counterparty ι) (key : ι) : Prop :=
  ∃ b, .mutate key b ∈ c.contacts

/-- The counterparty gives a mutation its effect: at most one effect for a key, and an outcome
that is no longer pending stays. -/
inductive Counterparty.Applies {ι : Type} [DecidableEq ι] (now : Time) (c : Counterparty ι) (key : ι)
    (outcome : EffectOutcome) : Counterparty ι → Prop
  | first : c.wasSent key → c.effects.get key = none →
      Applies now c key outcome { c with effects := c.effects.put key ⟨outcome, now⟩ }
  | settle {t} : c.effects.get key = some ⟨.pending, t⟩ →
      Applies now c key outcome { c with effects := c.effects.put key ⟨outcome, t⟩ }

inductive Environment (out : Outside) : World → World → Prop
  | tick {w t} : w.now ≤ t → Environment out w (w.setNow t)
  | providerApplies {w o outcome c} : out.providerApplies w o outcome →
      w.provider.Applies w.now o outcome c → Environment out w (w.setProvider c)
  | bankApplies {w a outcome c} : out.bankApplies w a outcome →
      w.bank.Applies w.now a outcome c → Environment out w (w.setBank c)
  | configure {w customers beneficiaries feeSchedules endpointVersions} :
      Environment out w { w with
        customers := customers, beneficiaries := beneficiaries, feeSchedules := feeSchedules,
        endpointVersions := endpointVersions }

def Local.starts : Local → Bool
  | command _ _ => true
  | dispatch .stop _ => true
  | claimUnsent _ _ => true
  | adminLookup _ _ => true
  | acceptEvent _ _ => true
  | claimEvents _ _ => true
  | expire _ => true
  | createMerchant _ => true
  | settle _ _ _ false => true
  | createPayout _ false => true
  | retryPayout _ => true
  | payoutBatch _ => true
  | _ => false

def relaypay (cfg : Service) (out : Outside) : System World Key Deferred Error Local where
  txn := transaction cfg
  fire := validatePayoutCoverage
  handler := onError
  dbError e := e = .integrity ∨ e = .database
  act := Act cfg out
  env := Environment out
  spawn l := l.starts = true

abbrev State := Config World Key Error Local

end RelayPay
