import RelayPay.Schema

/-! What a reply of the provider or the bank is worth: signature, schema, identity, outcome. -/

namespace RelayPay

structure Service where
  loads : Bytes → Option Json
  hmacHex : String → Bytes → String
  providerAccountId : String
  providerSigningSecret : String
  webhookSecret : String
  webhookReplaySeconds : ℕ
  bankAccountId : String
  bankSigningSecret : String
  notFoundGraceSeconds : ℕ
  authHoldSeconds : ℕ

/-- A reply. `answeredAt` is when the counterparty gave it, which no code reads. -/
structure Observation where
  statusCode : ℕ
  body : Bytes
  headers : List (String × String)
  answeredAt : Time

def header (headers : List (String × String)) (name : String) : Option String :=
  (headers.find? fun h => h.1.toLower = name).map Prod.snd

inductive ProviderAction where
  | finalizeSuccess | finalizeFailure | lookup | processing | review | notFound
  deriving DecidableEq

inductive EventOutcome where
  | pending | succeeded | declined
  deriving DecidableEq

structure ProviderResult where
  accountId : String
  stableKey : String
  operationKind : String
  reference : String
  amount : ℤ
  currency : String
  outcome : EventOutcome
  declineCode : Option String

structure ExpectedProviderResult where
  accountId : String
  stableKey : String
  operationKind : String
  reference : String
  amount : ℤ
  currency : String

structure ClassifiedProviderResult where
  action : ProviderAction
  classification : Classification
  signatureValid : Option Bool
  safeErrorCode : Option String
  declineCode : Option String

def strField (j : Json) (k : String) : Option String :=
  match j.get? k with
  | some (.str s) => some s
  | _ => none

def intField (j : Json) (k : String) : Option ℤ :=
  match j.get? k with
  | some (.int n) => some n
  | _ => none

def literalField (j : Json) (k : String) (allowed : List String) : Option String :=
  (strField j k).filter (· ∈ allowed)

def onlyFields (j : Json) (allowed : List String) : Option Unit :=
  match j with
  | .obj fields => if fields.all fun f => f.1 ∈ allowed then some () else none
  | _ => none

def outcomeOf : String → EventOutcome
  | "SUCCEEDED" => .succeeded
  | "DECLINED" => .declined
  | _ => .pending

/-- `ProviderResult.model_validate_json`: strict types, no extra field, a decline code with a
decline and only there. -/
def validateProviderResult (j : Json) : Option ProviderResult := do
  onlyFields j ["accountId", "stableKey", "operationKind", "reference", "amount", "currency",
    "outcome", "declineCode", "effectId"]
  let accountId ← strField j "accountId"
  let stableKey ← strField j "stableKey"
  let operationKind ← literalField j "operationKind" ["AUTHORIZE", "CAPTURE", "REFUND", "VOID"]
  let reference ← strField j "reference"
  let amount ← intField j "amount"
  let currency ← literalField j "currency" ["INR"]
  let outcome ← (literalField j "outcome" ["PENDING", "SUCCEEDED", "DECLINED"]).map outcomeOf
  let declineCode ← match j.get? "declineCode" with
    | some .null => some none
    | some (.str s) => some (some s)
    | _ => none
  let _ ← strField j "effectId"
  if outcome = .declined ∧ declineCode.getD "" = "" then none
  else if outcome ≠ .declined ∧ declineCode.isSome then none
  else some ⟨accountId, stableKey, operationKind, reference, amount, currency, outcome, declineCode⟩

structure ProviderNotFound where
  accountId : String
  stableKey : String

def validateProviderNotFound (j : Json) : Option ProviderNotFound := do
  onlyFields j ["accountId", "stableKey", "outcome"]
  let accountId ← strField j "accountId"
  let stableKey ← strField j "stableKey"
  let _ ← literalField j "outcome" ["NOT_FOUND"]
  some ⟨accountId, stableKey⟩

variable (cfg : Service)

def signatureValid (obs : Observation) : Bool :=
  header obs.headers "x-provider-signature" = some (cfg.hmacHex cfg.providerSigningSecret obs.body)

def ProviderResult.identity (r : ProviderResult) : ExpectedProviderResult :=
  ⟨r.accountId, r.stableKey, r.operationKind, r.reference, r.amount, r.currency⟩

def ExpectedProviderResult.agrees (a b : ExpectedProviderResult) : Bool :=
  a.accountId = b.accountId && a.stableKey = b.stableKey && a.operationKind = b.operationKind &&
    a.reference = b.reference && a.amount = b.amount && a.currency = b.currency

def mismatchedEvidence : ClassifiedProviderResult :=
  ⟨.review, .mismatchedEvidence, some true, some "INVALID_EVIDENCE", none⟩

def classifyNotFound (obs : Observation) (expected : ExpectedProviderResult) :
    Option ClassifiedProviderResult :=
  if obs.body.isEmpty || !signatureValid cfg obs then none
  else match (cfg.loads obs.body).bind validateProviderNotFound with
    | none => none
    | some answer =>
      if answer.accountId ≠ expected.accountId ∨ answer.stableKey ≠ expected.stableKey then
        some mismatchedEvidence
      else some ⟨.notFound, .verifiedNotFound, some true, some "PROVIDER_EFFECT_NOT_FOUND", none⟩

def transportErrorResult : ClassifiedProviderResult :=
  ⟨.lookup, .ambiguousTransport, none, some "PROVIDER_TRANSPORT_ERROR", none⟩

def classifyResult (obs : Observation) (expected : ExpectedProviderResult) :
    ClassifiedProviderResult :=
  if !signatureValid cfg obs then
    ⟨.review, .invalidSignature, some false, some "INVALID_EVIDENCE", none⟩
  else match (cfg.loads obs.body).bind validateProviderResult with
    | none => ⟨.review, .invalidSchema, some true, some "INVALID_EVIDENCE", none⟩
    | some result =>
      if !result.identity.agrees expected then mismatchedEvidence
      else match result.outcome with
        | .succeeded => ⟨.finalizeSuccess, .verifiedSuccess, some true, none, none⟩
        | .declined =>
          ⟨.finalizeFailure, .verifiedBusinessDecline, some true, none, result.declineCode⟩
        | .pending => ⟨.processing, .verifiedPending, some true, none, none⟩

def classifyProviderObservation (obs : Observation) (expected : ExpectedProviderResult)
    (isLookup : Bool) : ClassifiedProviderResult :=
  let again : ProviderAction := if isLookup then .processing else .lookup
  if 500 ≤ obs.statusCode then
    ⟨again, .ambiguousHttp5xx, none, some "PROVIDER_HTTP_5XX", none⟩
  else
    let notFound := if isLookup && obs.statusCode = 404 then classifyNotFound cfg obs expected else none
    match notFound with
    | some answer => answer
    | none =>
      if ¬(200 ≤ obs.statusCode ∧ obs.statusCode < 300) then
        ⟨again, .nonBusinessHttp4xx, none, some "PROVIDER_NON_BUSINESS_HTTP", none⟩
      else classifyResult cfg obs expected

def classifyOrTransportError (obs : Option Observation) (expected : ExpectedProviderResult)
    (isLookup : Bool) : ClassifiedProviderResult :=
  match obs with
  | none => transportErrorResult
  | some o => classifyProviderObservation cfg o expected isLookup

structure BankClassification where
  terminal : Bool
  succeeded : Bool
  ambiguous : Bool
  signatureValid : Option Bool
  code : Option String

def bankNotFoundCode : String := "BANK_EFFECT_NOT_FOUND"

def bankAmbiguous (signature : Option Bool) (code : String) : BankClassification :=
  ⟨false, false, true, signature, some code⟩

def pyStr : Json → String
  | .str s => s
  | j => j.render

structure BankRequest where
  accountId : String
  amount : ℤ
  beneficiaryReference : String
  currency : String
  payoutReference : String
  stableKey : String

def BankRequest.json (r : BankRequest) : Json := .obj [
  ("accountId", .str r.accountId), ("amount", .int r.amount),
  ("beneficiaryReference", .str r.beneficiaryReference), ("currency", .str r.currency),
  ("payoutReference", .str r.payoutReference), ("stableKey", .str r.stableKey)]

def BankRequest.ofJson (j : Json) : Option BankRequest := do
  some ⟨← strField j "accountId", ← intField j "amount", ← strField j "beneficiaryReference",
    ← strField j "currency", ← strField j "payoutReference", ← strField j "stableKey"⟩

def hasStr (j : Json) (k s : String) : Bool := (j.get? k).any fun v => v.eqStr s

def BankRequest.matches (r : BankRequest) (response : Json) : Bool :=
  hasStr response "accountId" r.accountId &&
  ((response.get? "amount").any fun v => v.eqInt r.amount) &&
  hasStr response "beneficiaryReference" r.beneficiaryReference &&
  hasStr response "currency" r.currency &&
  hasStr response "payoutReference" r.payoutReference &&
  hasStr response "stableKey" r.stableKey

def notFoundShape (response : Json) : Bool :=
  (onlyFields response ["accountId", "outcome", "stableKey"]).isSome &&
    ["accountId", "outcome", "stableKey"].all fun k => (response.get? k).isSome

def classifyBankOutcome (response : Json) : BankClassification :=
  if hasStr response "outcome" "SUCCEEDED" then ⟨true, true, false, some true, none⟩
  else match response.get? "declineCode" with
    | some code =>
      if hasStr response "outcome" "DECLINED" && code.truthy then
        ⟨true, false, false, some true, some (pyStr code)⟩
      else bankAmbiguous (some true) "BANK_OUTCOME_PENDING"
    | none => bankAmbiguous (some true) "BANK_OUTCOME_PENDING"

def classifyBankReply (obs : Observation) (request : BankRequest) (response : Json) :
    BankClassification :=
  if obs.statusCode = 404 ∧ hasStr response "outcome" "NOT_FOUND" then
    if hasStr response "accountId" request.accountId && hasStr response "stableKey" request.stableKey &&
        notFoundShape response then
      bankAmbiguous (some true) bankNotFoundCode
    else bankAmbiguous (some true) "BANK_RESPONSE_MISMATCHED"
  else if !request.matches response then bankAmbiguous (some true) "BANK_RESPONSE_MISMATCHED"
  else classifyBankOutcome response

def classifyBank (obs : Option Observation) (expectedRequest : Bytes) :
    Except Error BankClassification :=
  match obs with
  | none => .ok (bankAmbiguous none "BANK_TRANSPORT_AMBIGUOUS")
  | some o =>
    if 500 ≤ o.statusCode ∨ o.body.isEmpty then .ok (bankAmbiguous none "BANK_TRANSPORT_AMBIGUOUS")
    else if header o.headers "x-bank-signature" ≠ some (cfg.hmacHex cfg.bankSigningSecret o.body) then
      .ok (bankAmbiguous (some false) "BANK_SIGNATURE_INVALID")
    else match cfg.loads o.body, cfg.loads expectedRequest with
      | some response, some requestJson =>
        match BankRequest.ofJson requestJson with
        | none => .error (.runtime "KeyError")
        | some request =>
          if response.isObject then .ok (classifyBankReply o request response) else .error .attribute
      | _, _ => .ok (bankAmbiguous (some true) "BANK_RESPONSE_INVALID")

end RelayPay
