import RelayPay.ReadCommitted.Solo
import RelayPay.RiskReview.Findings

/-! Risk reviews: opened in one transaction, finished in another, with the findings provider asked in between. -/

namespace RelayPay.Risk

open ReadCommitted Txn

structure SiteSnapshot where
  siteRef : String
  snapshot : Fields
  snapshotSha256 : String

structure SnapshotKey where
  siteRef : String
  snapshotSha256 : String
  deriving DecidableEq

def SiteSnapshot.key (fetched : SiteSnapshot) : SnapshotKey := ⟨fetched.siteRef, fetched.snapshotSha256⟩

structure OnboardingSnapshot where
  snapshot : Fields
  sourceUrl : String

inductive ReviewStatus where
  | pending | completed | escalated | dispositioned
  deriving DecidableEq

structure RiskReview where
  status : ReviewStatus
  scoreVersion : ℕ

structure RiskReviewVersion where
  scoreVersion : ℕ
  scores : ScoreBreakdown
  totalScore : ℤ
  severity : Severity
  confidence : Confidence
  breakdown : Json
  reviewSha256 : Digest
  hardStop : Bool

inductive FindingType where
  | deterministic | model
  deriving DecidableEq

structure RiskFinding where
  findingType : FindingType
  checkKey : String
  classification : Option Classification
  severity : Severity
  confidence : Confidence
  detail : String
  quote : Option (List Char)
  sourcePath : Option String
  snapshotSha256 : String
  hardStop : Bool

structure RiskEscalation where
  version : ℕ
  reason : EscalationReason

structure ReviewEvent where
  review : SnapshotKey
  escalated : Bool
  reason : Option EscalationReason
  totalScore : ℤ
  severity : Severity
  confidence : Confidence
  hardStop : Bool

structure ReviewState where
  snapshots : Table SnapshotKey OnboardingSnapshot
  reviews : Table SnapshotKey RiskReview
  versions : Table (SnapshotKey × ℕ) RiskReviewVersion
  findings : Table (SnapshotKey × ℕ) RiskFinding
  escalations : Table SnapshotKey RiskEscalation
  events : List ReviewEvent

def ReviewState.start : ReviewState := ⟨.empty, .empty, .empty, .empty, .empty, []⟩

inductive ReviewKey where
  | snapshot (k : SnapshotKey)
  | review (k : SnapshotKey)
  | version (k : SnapshotKey) (n : ℕ)
  | escalation (k : SnapshotKey)
  deriving DecidableEq

abbrev ReviewTx (α : Type) := Txn ReviewState ReviewKey Empty Failure α

structure PreparedReview where
  review : SnapshotKey
  snapshot : Fields
  replayed : Bool

mutual

def storable : Json → Bool
  | .str s => !s.toList.contains (Char.ofNat 0)
  | .arr items => storableItems items
  | .obj fields => storableFields fields
  | _ => true

def storableItems : List Json → Bool
  | [] => true
  | j :: js => storable j && storableItems js

def storableFields : List (String × Json) → Bool
  | [] => true
  | (k, j) :: fs => !k.toList.contains (Char.ofNat 0) && storable j && storableFields fs

end

def storeSnapshot (fetched : SiteSnapshot) (sourceUrl : String) : ReviewTx OnboardingSnapshot := do
  let existing ← query fun s => s.snapshots.get fetched.key
  match existing with
  | some row => done row
  | none => do
    acquire (.snapshot fetched.key)
    ensure (storableFields fetched.snapshot = true) .database
    let row : OnboardingSnapshot := ⟨fetched.snapshot, sourceUrl⟩
    modify fun s => { s with snapshots := s.snapshots.put fetched.key row }
    done row

def prepareReview (fetched : SiteSnapshot) (sourceUrl : String) : ReviewTx PreparedReview := do
  let row ← storeSnapshot fetched sourceUrl
  let existing ← query fun s => s.reviews.get fetched.key
  match existing with
  | some _ => done ⟨fetched.key, row.snapshot, true⟩
  | none => do
    acquire (.review fetched.key)
    modify fun s => { s with reviews := s.reviews.put fetched.key ⟨.pending, 1⟩ }
    done ⟨fetched.key, row.snapshot, false⟩

def checkStops (check : CheckResult) : Bool := check.classification.any isHardStop

def checkFinding (sha : String) (check : CheckResult) : RiskFinding where
  findingType := .deterministic
  checkKey := check.checkKey
  classification := check.classification
  severity := check.severity
  confidence := check.confidence
  detail := check.detail
  quote := none
  sourcePath := none
  snapshotSha256 := sha
  hardStop := checkStops check

def findingConfidence (checks : List CheckResult) (f : ModelFinding) : Confidence :=
  if checks.any fun check => check.classification = some f.classification then .high
  else if f.sourcePath = "html" then .low
  else .medium

def modelStops (checks : List CheckResult) (f : ModelFinding) : Bool :=
  isHardStop f.classification && findingConfidence checks f ≠ .low

def modelRiskFinding (sha : String) (checks : List CheckResult) (f : ModelFinding) : RiskFinding where
  findingType := .model
  checkKey := "model_claims"
  classification := some f.classification
  severity := if modelStops checks f then .high else .medium
  confidence := findingConfidence checks f
  detail := "Model-identified suspicious language or claim."
  quote := some f.quote
  sourcePath := some f.sourcePath
  snapshotSha256 := sha
  hardStop := modelStops checks f

def Severity.text : Severity → String
  | .none => "NONE"
  | .low => "LOW"
  | .medium => "MEDIUM"
  | .high => "HIGH"
  | .critical => "CRITICAL"

def Confidence.text : Confidence → String
  | .high => "HIGH"
  | .medium => "MEDIUM"
  | .low => "LOW"

def hardStopClassification (checks : List CheckResult) (findings : List ModelFinding) : Option Classification :=
  (((checks.filter checkStops).filterMap CheckResult.classification) ++
    (findings.filter (modelStops checks)).map ModelFinding.classification).getLast?

def overallConfidence (checks : List CheckResult) (findings : List ModelFinding) : Confidence :=
  let confidences := findings.map (findingConfidence checks)
  if confidences = [] ∨ .high ∈ confidences then .high else if .medium ∈ confidences then .medium else .low

def reviewReason (stop : Option Classification) (severity : Severity) : Option EscalationReason :=
  if stop.isSome then escalationReason stop severity
  else match severity with
    | .critical => some .criticalSeverity
    | .high => some .highSeverity
    | _ => none

structure Assessment where
  checks : List CheckResult
  findings : List ModelFinding
  scores : ScoreBreakdown

def assess (py : Python) (snapshot : Fields) (findings : List ModelFinding) (now : Time) :
    Except Failure Assessment := do
  let (checks, base) ← deterministicChecks py snapshot now
  .ok ⟨checks, findings, { base with claims := claimsRisk findings.length }⟩

namespace Assessment

variable (a : Assessment)

def severity : Severity := severityForTotal a.scores.total

def confidence : Confidence := overallConfidence a.checks a.findings

def stop : Option Classification := hardStopClassification a.checks a.findings

def reason : Option EscalationReason := reviewReason a.stop a.severity

def rows (sha : String) : List (ℕ × RiskFinding) :=
  (a.checks.map (checkFinding sha) ++ a.findings.map (modelRiskFinding sha a.checks)).zipIdx.map fun e =>
    (e.2 + 1, e.1)

def payload (sha : String) : Json :=
  .obj [("scoreVersion", .int 1), ("snapshotSha256", .str sha), ("completeness", .int a.scores.completeness),
    ("domain", .int a.scores.domain), ("category", .int a.scores.category), ("pricing", .int a.scores.pricing),
    ("claims", .int a.scores.claims), ("total", .int a.scores.total), ("severity", .str a.severity.text),
    ("confidence", .str a.confidence.text), ("hardStop", .bool a.stop.isSome),
    ("modelFindingCount", .int a.findings.length)]

def version (sha : String) : RiskReviewVersion where
  scoreVersion := 1
  scores := a.scores
  totalScore := a.scores.total
  severity := a.severity
  confidence := a.confidence
  breakdown := a.payload sha
  reviewSha256 := sha256 (canonicalJsonBytes (a.payload sha))
  hardStop := a.stop.isSome

def event (k : SnapshotKey) : ReviewEvent where
  review := k
  escalated := a.reason.isSome
  reason := a.reason
  totalScore := a.scores.total
  severity := a.severity
  confidence := a.confidence
  hardStop := a.stop.isSome

end Assessment

def insertFindings (k : SnapshotKey) (rows : List (ℕ × RiskFinding)) : ReviewTx Unit := do
  let taken ← query fun s => rows.any fun e => (s.findings.get (k, e.1)).isSome
  ensure (taken = false) .database
  modify fun s => { s with findings := rows.foldl (fun t e => t.put (k, e.1) e.2) s.findings }

def lastVersion (k : SnapshotKey) (s : ReviewState) : ℕ :=
  (s.versions.rows.filter fun e => e.1.1 = k).foldl (fun n e => max n e.1.2) 0

def ScoreBreakdown.inRange (b : ScoreBreakdown) : Bool :=
  0 ≤ b.completeness && b.completeness ≤ 20 && 0 ≤ b.domain && b.domain ≤ 20 && 0 ≤ b.category && b.category ≤ 30 &&
    0 ≤ b.pricing && b.pricing ≤ 15 && 0 ≤ b.claims && b.claims ≤ 15 && 0 ≤ b.total && b.total ≤ 100

def insertVersion (k : SnapshotKey) (version : RiskReviewVersion) : ReviewTx ℕ := do
  let last ← query (lastVersion k)
  acquire (.version k (last + 1))
  ensure (version.scores.inRange = true) .database
  modify fun s => { s with versions := s.versions.put (k, last + 1) version }
  done (last + 1)

def escalate (k : SnapshotKey) (version : ℕ) (reason : EscalationReason) : ReviewTx Unit := do
  let existing ← query fun s => s.escalations.get k
  match existing with
  | some _ => done ()
  | none => do
    acquire (.escalation k)
    modify fun s => { s with escalations := s.escalations.put k ⟨version, reason⟩ }

def closeReview (k : SnapshotKey) (status : ReviewStatus) (event : ReviewEvent) : ReviewTx Unit := do
  acquire (.review k)
  modify fun s =>
    { s with reviews := s.reviews.update k fun r => { r with status := status }, events := s.events ++ [event] }

def concludeReview (k : SnapshotKey) (version : ℕ) (a : Assessment) : ReviewTx Unit :=
  match a.reason with
  | some reason => do
    escalate k version reason
    closeReview k .escalated (a.event k)
  | none => closeReview k .completed (a.event k)

def finishReview (py : Python) (prepared : PreparedReview) (findings : List ModelFinding) (now : Time) :
    ReviewTx Unit := do
  let k := prepared.review
  let found ← query fun s => s.reviews.get k
  match found with
  | none => raise (.relayPay (notFound "Risk review"))
  | some _ =>
    match assess py prepared.snapshot findings now with
    | .error e => raise e
    | .ok a => do
      insertFindings k (a.rows k.snapshotSha256)
      let version ← insertVersion k (a.version k.snapshotSha256)
      concludeReview k version a

structure ReviewPayload where
  status : ReviewStatus
  siteRef : Option String
  snapshotSha256 : Option String
  scoreVersion : ℕ
  versions : List (ℕ × RiskReviewVersion)
  findings : List (ℕ × RiskFinding)
  escalation : Option RiskEscalation

def rowsOf {ρ : Type} (table : Table (SnapshotKey × ℕ) ρ) (k : SnapshotKey) : List (ℕ × ρ) :=
  ((table.rows.filter fun e => e.1.1 = k).map fun e => (e.1.2, e.2)).insertionSort fun a b => a.1 ≤ b.1

def readReviewPayload (k : SnapshotKey) : ReviewTx ReviewPayload := do
  let found ← query fun s => s.reviews.get k
  let review ← require found (.relayPay (notFound "Risk review"))
  let versions ← query fun s => rowsOf s.versions k
  let findings ← query fun s => rowsOf s.findings k
  let escalation ← query fun s => s.escalations.get k
  let snapshot ← query fun s => s.snapshots.get k
  done { status := review.status
         siteRef := snapshot.map fun _ => k.siteRef
         snapshotSha256 := snapshot.map fun _ => k.snapshotSha256
         scoreVersion := review.scoreVersion
         versions := versions
         findings := findings
         escalation := escalation }

abbrev Provider := List Char → Except Failure (List ModelFinding)

structure ReviewRequest where
  fetched : SiteSnapshot
  sourceUrl : String
  provider : Provider
  now : Time

/-- Where a request may be cut off: before the first transaction commits, after it, or after the review is
finished. -/
inductive Stop where
  | opening | opened | finished
  deriving DecidableEq

section Requests

variable (py : Python)

def findingsFor (r : ReviewRequest) (prepared : PreparedReview) : Except Failure (List ModelFinding) := do
  let findings ← r.provider (findingsPrompt py prepared.snapshot)
  validateModelFindings py prepared.snapshot findings

def answer (k : SnapshotKey) (s : ReviewState) : Except Failure ReviewPayload :=
  ((readReviewPayload k).exec s).map Prod.fst

def executeReview (r : ReviewRequest) (stop : Option Stop) (prepared : PreparedReview) (s : ReviewState) :
    Except Failure ReviewPayload × ReviewState :=
  if prepared.replayed then (answer prepared.review s, s)
  else match findingsFor py r prepared with
    | .error e => (.error e, s)
    | .ok findings =>
      match (finishReview py prepared findings r.now).exec s with
      | .error e => (.error e, s)
      | .ok (_, s') => if stop = some .finished then (.error .crash, s') else (answer prepared.review s', s')

def postRiskReview (r : ReviewRequest) (stop : Option Stop) (s : ReviewState) :
    Except Failure ReviewPayload × ReviewState :=
  if stop = some .opening then (.error .crash, s)
  else match (prepareReview r.fetched r.sourceUrl).exec s with
    | .error e => (.error e, s)
    | .ok (prepared, s') =>
      if stop = some .opened then (.error .crash, s') else executeReview py r stop prepared s'

def history (xs : List (ReviewRequest × Option Stop)) (s : ReviewState) : ReviewState :=
  xs.foldl (fun s x => (postRiskReview py x.1 x.2 s).2) s

end Requests

end RelayPay.Risk
