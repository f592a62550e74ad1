import RelayPay.Codec.Search
import RelayPay.Schema

namespace RelayPay.Risk

abbrev Fields := List (String × Json)

/-- What `datetime.fromisoformat` reads: an instant, or a time of day somewhere. -/
inductive Stamp where
  | aware (instant : ℤ)
  | naive
  deriving DecidableEq

/-- `years` writes a number of days as years with one digit after the point, `float` is the shortest text of a float. -/
structure Python where
  casefold : List Char → List Char
  str : Json → String
  years : ℤ → String
  float : ℚ → List Char
  fromisoformat : List Char → Option Stamp
  isWord : Char → Bool
  isDecimal : Char → Bool
  isSpace : Char → Bool

inductive Failure where
  | relayPay (e : RelayPayError)
  | typeError (message : String)
  | valueError (message : String)
  | attributeError
  | validation
  | provider
  | database
  | crash

inductive Classification where
  | suspiciousLanguage | unrealisticClaim | guaranteedReturn | prohibitedCategory | impersonation | counterfeit
  deriving DecidableEq

inductive Severity where
  | none | low | medium | high | critical
  deriving DecidableEq

inductive Confidence where
  | high | medium | low
  deriving DecidableEq

structure CheckResult where
  checkKey : String
  classification : Option Classification
  severity : Severity
  confidence : Confidence
  detail : String
  earned : ℤ
  maximum : ℤ

structure ScoreBreakdown where
  completeness : ℤ
  domain : ℤ
  category : ℤ
  pricing : ℤ
  claims : ℤ

def ScoreBreakdown.total (b : ScoreBreakdown) : ℤ := b.completeness + b.domain + b.category + b.pricing + b.claims

def severityForTotal (total : ℤ) : Severity :=
  if 80 ≤ total then .critical else if 60 ≤ total then .high else if 30 ≤ total then .medium else .low

def get (fields : Fields) (key : String) : Option Json := (Json.obj fields).get? key

def dict (fields : Fields) (key : String) : Fields :=
  match get fields key with
  | some (.obj inner) => inner
  | _ => []

def text (fields : Fields) (key : String) : Option String :=
  match get fields key with
  | some (.str s) => some s
  | _ => none

def hasText (fields : Fields) (key : String) : Bool := (text fields key).any fun s => s ≠ ""

def isTrue (fields : Fields) (key : String) : Bool := (get fields key).any Json.truthy

def catalogueItems (snapshot : Fields) : List Json :=
  match get (dict snapshot "catalogue") "items" with
  | some (.arr items) => items
  | _ => []

def graded (checkKey : String) (ok : Bool) (fault : Classification) (severity : Severity) (passed failed : String)
    (points : ℤ) : CheckResult where
  checkKey := checkKey
  classification := if ok then none else some fault
  severity := if ok then .none else severity
  confidence := .high
  detail := if ok then passed else failed
  earned := if ok then points else 0
  maximum := points

def sitePresent (snapshot : Fields) : Bool :=
  let html := dict snapshot "html"
  (text html "body").any (fun body => 40 < body.length) && hasText html "title"

def websitePresent (snapshot : Fields) : CheckResult :=
  graded "website_present" (sitePresent snapshot) .suspiciousLanguage .high "Website HTML and title are present."
    "Website HTML or title is missing or too short." 5

def contactDetails (snapshot : Fields) : CheckResult :=
  let present := ["supportEmail", "phone", "postalAddress"].countP (hasText (dict snapshot "contact"))
  { checkKey := "contact_details"
    classification := if present = 3 then none else some .suspiciousLanguage
    severity := if present = 3 then .none else .medium
    confidence := .high
    detail := toString present ++ " of 3 contact channels are present."
    earned := if present = 3 then 5 else if 0 < present then 2 else 0
    maximum := 5 }

def policyPresent (snapshot : Fields) (key label : String) : CheckResult :=
  graded (key ++ "_policy") ((text (dict snapshot "policies") key).any fun s => 40 ≤ s.length) .suspiciousLanguage
    .medium (label ++ " is present.") (label ++ " is missing or too short.") 5

def checkCompleteness (snapshot : Fields) : List CheckResult :=
  [websitePresent snapshot, contactDetails snapshot, policyPresent snapshot "refund" "Refund policy",
    policyPresent snapshot "privacy" "Privacy policy"]

def recorded (fields : Fields) (key checkKey passed failed : String) : CheckResult where
  checkKey := checkKey
  classification := if hasText fields key then none else some .suspiciousLanguage
  severity := if hasText fields key then .none else .medium
  confidence := .high
  detail := if isTrue fields key then passed else failed
  earned := if isTrue fields key then 5 else 0
  maximum := 5

def utcOffset (created : List Char) : List Char :=
  created.flatMap fun c => if c = 'Z' then "+00:00".toList else [c]

def domainDays (py : Python) (snapshot : Fields) (now : Time) : Except Failure (Option ℤ) :=
  match text (dict snapshot "whois") "createdAt" with
  | none => .ok none
  | some created =>
    match py.fromisoformat (utcOffset created.toList) with
    | none => .ok none
    | some .naive => .error (.typeError "can't subtract offset-naive and offset-aware datetimes")
    | some (.aware instant) => .ok (some ((now - instant) / 86400000000))

def domainAge (py : Python) (days : Option ℤ) : CheckResult :=
  let detail := days.elim "Domain creation date is missing or unreadable." fun d =>
    "Domain was created " ++ py.years d ++ " synthetic years ago."
  graded "domain_age" (days.any fun d => 1 ≤ (d : ℚ) / (1461 / 4)) .unrealisticClaim .medium detail detail 5

def identityConsistent (py : Python) (snapshot : Fields) : Bool :=
  (text (dict snapshot "identity") "merchantName").any fun merchant =>
    (text (dict snapshot "whois") "registrantOrganization").any fun organization =>
      merchant ≠ "" &&
        (Search.contains (py.casefold merchant.toList) (py.casefold organization.toList) ||
          Search.contains (py.casefold organization.toList) (py.casefold merchant.toList))

def checkDomain (py : Python) (snapshot : Fields) (now : Time) : Except Failure (List CheckResult) := do
  let days ← domainDays py snapshot now
  .ok [recorded (dict snapshot "whois") "domain" "whois_present" "WHOIS-like domain data is present."
      "WHOIS-like domain data is missing.",
    domainAge py days,
    recorded (dict snapshot "whois") "registrantCountry" "registrant_identity" "Registrant country is recorded."
      "Registrant country is missing.",
    graded "identity_consistency" (identityConsistent py snapshot) .impersonation .medium
      "Merchant name matches the registrant organization."
      "Merchant name does not match the WHOIS registrant organization." 5]

def homeGoods (snapshot : Fields) : Bool := text snapshot "category" = some "HOME_GOODS"

def merchantCategory (py : Python) (snapshot : Fields) : CheckResult where
  checkKey := "merchant_category"
  classification :=
    if (text snapshot "category").any fun c => c ≠ "HOME_GOODS" then some .prohibitedCategory else none
  severity := if homeGoods snapshot then .none else .critical
  confidence := .high
  detail := "Merchant category is " ++ py.str ((get snapshot "category").getD .null) ++ "."
  earned := if homeGoods snapshot then 10 else 0
  maximum := 10

def replicaLanguage (py : Python) (snapshot : Fields) : Bool :=
  (catalogueItems snapshot).any fun item =>
    match item with
    | .obj fields => (text fields "title").any fun title => Search.contains "replica".toList (py.casefold title.toList)
    | _ => false

def contentMatchesCategory (py : Python) (snapshot : Fields) : CheckResult :=
  let contentOk := homeGoods snapshot && !replicaLanguage py snapshot
  { graded "content_matches_category" contentOk .counterfeit .critical
      "Catalogue content matches the declared category." "Catalogue content does not match the declared category." 10 with
    classification := if replicaLanguage py snapshot then some .counterfeit else none }

def checkCategory (py : Python) (snapshot : Fields) : List CheckResult :=
  [merchantCategory py snapshot, contentMatchesCategory py snapshot,
    graded "catalogue_present" (!(catalogueItems snapshot).isEmpty) .suspiciousLanguage .medium
      "Catalogue items are present." "Catalogue is empty or missing." 10]

def integer : Json → Option ℤ
  | .int n => some n
  | .bool b => some (if b then 1 else 0)
  | _ => none

def prices (snapshot : Fields) : List ℤ :=
  (catalogueItems snapshot).filterMap fun item =>
    match item with
    | .obj fields => ((get fields "pricePaise").bind integer).filter fun n => 0 < n
    | _ => none

def outliers (snapshot : Fields) : ℕ :=
  match (get (dict snapshot "catalogue") "medianPricePaise").bind integer with
  | some median => if 0 < median then (prices snapshot).countP fun p => median * 20 < p else 0
  | none => 0

def checkPricing (snapshot : Fields) : List CheckResult :=
  let count := toString (prices snapshot).length ++ " catalogue prices are present."
  [graded "pricing_present" (!(prices snapshot).isEmpty) .suspiciousLanguage .medium count count 5,
    graded "pricing_outliers" (outliers snapshot = 0) .unrealisticClaim .medium
      "No catalogue price is an extreme outlier of the median."
      (toString (outliers snapshot) ++ " catalogue prices exceed the median by more than 20x.") 10]

def riskFor (results : List CheckResult) (keys : List String) (maximum : ℤ) : ℤ :=
  maximum - ((results.filter fun r => keys.contains r.checkKey).map CheckResult.earned).sum

def deterministicChecks (py : Python) (snapshot : Fields) (now : Time) :
    Except Failure (List CheckResult × ScoreBreakdown) := do
  let domain ← checkDomain py snapshot now
  let results := checkCompleteness snapshot ++ domain ++ checkCategory py snapshot ++ checkPricing snapshot
  .ok (results,
    { completeness := riskFor results ["website_present", "contact_details", "refund_policy", "privacy_policy"] 20
      domain := riskFor results ["whois_present", "domain_age", "registrant_identity", "identity_consistency"] 20
      category := riskFor results ["merchant_category", "content_matches_category", "catalogue_present"] 30
      pricing := riskFor results ["pricing_present", "pricing_outliers"] 15
      claims := 0 })

def claimsRisk (findings : ℕ) : ℤ := min 15 (5 * findings)

def isHardStop : Classification → Bool
  | .prohibitedCategory | .impersonation | .counterfeit | .guaranteedReturn => true
  | .suspiciousLanguage | .unrealisticClaim => false

inductive EscalationReason where
  | highSeverity | criticalSeverity | prohibitedCategory | impersonation | counterfeit | guaranteedReturn
  deriving DecidableEq

def escalationReason (classification : Option Classification) (severity : Severity) : Option EscalationReason :=
  match classification with
  | some .prohibitedCategory => some .prohibitedCategory
  | some .impersonation => some .impersonation
  | some .counterfeit => some .counterfeit
  | some .guaranteedReturn => some .guaranteedReturn
  | _ =>
    match severity with
    | .critical => some .criticalSeverity
    | .high => some .highSeverity
    | _ => none

end RelayPay.Risk
