import RelayPay.RiskReview.Pending

namespace RelayPay.Risk

open ReadCommitted

def CheckResult.Bounded (c : CheckResult) : Prop := 0 ≤ c.earned ∧ c.earned ≤ c.maximum

def CheckResult.Agrees (c : CheckResult) : Prop := c.earned = c.maximum ↔ c.severity = .none

lemma sound_of_points (passes : Bool) {c : CheckResult} {points : ℤ} {severity : Severity}
    (hearned : c.earned = if passes then points else 0) (hmaximum : c.maximum = points)
    (hseverity : c.severity = if passes then .none else severity) (hpoints : 0 < points) (hsevere : severity ≠ .none) :
    c.Bounded ∧ c.Agrees := by
  rw [CheckResult.Bounded, CheckResult.Agrees, hearned, hmaximum, hseverity]
  cases passes with
  | true => exact ⟨⟨hpoints.le, le_rfl⟩, iff_of_true rfl rfl⟩
  | false => exact ⟨⟨le_rfl, hpoints.le⟩, iff_of_false hpoints.ne hsevere⟩

lemma graded_sound {checkKey passed failed : String} {passes : Bool} {fault : Classification} {severity : Severity}
    {points : ℤ} (hpoints : 0 < points) (hsevere : severity ≠ .none) :
    (graded checkKey passes fault severity passed failed points).Bounded ∧
      (graded checkKey passes fault severity passed failed points).Agrees :=
  sound_of_points passes rfl rfl rfl hpoints hsevere

lemma contactDetails_sound (snapshot : Fields) : (contactDetails snapshot).Bounded ∧ (contactDetails snapshot).Agrees := by
  simp only [CheckResult.Bounded, CheckResult.Agrees, contactDetails]
  split_ifs <;> decide

lemma recorded_bounded (fields : Fields) (key checkKey passed failed : String) :
    (recorded fields key checkKey passed failed).Bounded := by
  simp only [CheckResult.Bounded, recorded]
  split <;> decide

lemma isTrue_of_hasText {fields : Fields} {key : String} (h : hasText fields key = true) :
    isTrue fields key = true := by
  revert h
  simp only [hasText, text, isTrue]
  cases get fields key with
  | none => exact id
  | some value => cases value <;> simp [Json.truthy]

lemma recorded_agrees_iff {fields : Fields} {key checkKey passed failed : String} :
    (recorded fields key checkKey passed failed).Agrees ↔ (isTrue fields key = true → hasText fields key = true) := by
  have htrue := @isTrue_of_hasText fields key
  simp only [CheckResult.Agrees, recorded]
  by_cases hvalue : isTrue fields key = true <;> by_cases htext : hasText fields key = true <;> simp_all

def WhoisText (snapshot : Fields) : Prop :=
  ∀ key ∈ ["domain", "registrantCountry"],
    isTrue (dict snapshot "whois") key = true → hasText (dict snapshot "whois") key = true

section Checks

variable {py : Python} {snapshot : Fields} {now : Time} {checks : List CheckResult} {base : ScoreBreakdown}

lemma deterministicChecks_cases (h : deterministicChecks py snapshot now = .ok (checks, base)) :
    (∀ c ∈ checks, c.Bounded) ∧ ((∀ c ∈ checks, c.Agrees) ↔ WhoisText snapshot) := by
  obtain ⟨domain, hdomain, hbase⟩ := bind_eq_ok.1 h
  obtain ⟨days, -, hdays⟩ := bind_eq_ok.1 hdomain
  cases hdays
  cases hbase
  have hcategory := sound_of_points (c := merchantCategory py snapshot) _ rfl rfl rfl (by decide) (by decide)
  have hcontent := sound_of_points (c := contentMatchesCategory py snapshot) _ rfl rfl rfl (by decide) (by decide)
  have hcontact := contactDetails_sound snapshot
  simp [checkCompleteness, checkCategory, checkPricing, websitePresent, policyPresent, domainAge, graded_sound,
    hcategory, hcontent, hcontact, recorded_bounded, recorded_agrees_iff, WhoisText]

lemma riskFor_range {results : List CheckResult} (hbounded : ∀ c ∈ results, c.Bounded) (keys : List String) {maximum : ℤ}
    (hmaximum : ((results.filter fun r => keys.contains r.checkKey).map CheckResult.maximum).sum = maximum) :
    0 ≤ riskFor results keys maximum ∧ riskFor results keys maximum ≤ maximum := by
  have hmem : ∀ c ∈ results.filter fun r => keys.contains r.checkKey, c.Bounded := by
    intro c hc
    exact hbounded c (List.mem_filter.1 hc).1
  have hle := List.sum_le_sum fun c hc => (hmem c hc).2
  have hnonneg : 0 ≤ ((results.filter fun r => keys.contains r.checkKey).map CheckResult.earned).sum := by
    apply List.sum_nonneg
    intro x hx
    obtain ⟨c, hc, rfl⟩ := List.mem_map.1 hx
    exact (hmem c hc).1
  rw [riskFor]
  omega

lemma inRange_of {b : ScoreBreakdown} (hcompleteness : 0 ≤ b.completeness ∧ b.completeness ≤ 20)
    (hdomain : 0 ≤ b.domain ∧ b.domain ≤ 20) (hcategory : 0 ≤ b.category ∧ b.category ≤ 30)
    (hpricing : 0 ≤ b.pricing ∧ b.pricing ≤ 15) (hclaims : 0 ≤ b.claims ∧ b.claims ≤ 15) : b.inRange = true := by
  simp only [ScoreBreakdown.inRange, Bool.and_eq_true, decide_eq_true_eq]
  rw [ScoreBreakdown.total]
  omega

lemma scores_inRange (h : deterministicChecks py snapshot now = .ok (checks, base)) (n : ℕ) :
    ({ base with claims := claimsRisk n } : ScoreBreakdown).inRange = true := by
  have hbounded := (deterministicChecks_cases h).1
  obtain ⟨domain, hdomain, hbase⟩ := bind_eq_ok.1 h
  obtain ⟨days, -, hdays⟩ := bind_eq_ok.1 hdomain
  cases hdays
  cases hbase
  have hclaims : 0 ≤ claimsRisk n ∧ claimsRisk n ≤ 15 := by
    rw [claimsRisk]
    omega
  exact inRange_of (riskFor_range hbounded _ rfl) (riskFor_range hbounded _ rfl) (riskFor_range hbounded _ rfl)
    (riskFor_range hbounded _ rfl) hclaims

end Checks

section Stops

variable (a : Assessment) (sha : String)

lemma rows_snd : (a.rows sha).map Prod.snd =
    a.checks.map (checkFinding sha) ++ a.findings.map (modelRiskFinding sha a.checks) := by
  simp [Assessment.rows, Function.comp_def]

lemma stop_eq :
    a.stop = ((((a.rows sha).map Prod.snd).filter RiskFinding.hardStop).filterMap RiskFinding.classification).getLast? := by
  rw [rows_snd, Assessment.stop, hardStopClassification]
  simp [List.filter_map, List.filterMap_map, Function.comp_def, checkFinding, modelRiskFinding]

lemma isHardStop_of_row {f : RiskFinding} (hf : f ∈ (a.rows sha).map Prod.snd) (hstop : f.hardStop = true) :
    ∃ c, f.classification = some c ∧ isHardStop c = true := by
  rw [rows_snd, List.mem_append, List.mem_map, List.mem_map] at hf
  rcases hf with ⟨check, -, rfl⟩ | ⟨finding, -, rfl⟩
  · obtain ⟨c, hc, hstops⟩ := (Option.any_eq_true _ _).1 hstop
    exact ⟨c, hc, hstops⟩
  · exact ⟨finding.classification, rfl, (Bool.and_eq_true_iff.1 hstop).1⟩

lemma stop_cases : (a.stop = none ∧ ∀ e ∈ a.rows sha, e.2.hardStop = false) ∨
    ∃ e ∈ a.rows sha, ∃ c, e.2.hardStop = true ∧ e.2.classification = some c ∧ isHardStop c = true ∧ a.stop = some c := by
  have hstop := stop_eq a sha
  cases hlast : a.stop with
  | none =>
    refine .inl ⟨rfl, fun e he => ?_⟩
    rw [hlast, eq_comm, List.getLast?_eq_none_iff, List.filterMap_eq_nil_iff] at hstop
    by_contra hhard
    have hhard' := Bool.eq_true_of_not_eq_false hhard
    obtain ⟨c, hc, -⟩ := isHardStop_of_row a sha (List.mem_map_of_mem he) hhard'
    have hnone := hstop e.2 (List.mem_filter.2 ⟨List.mem_map_of_mem he, hhard'⟩)
    rw [hc] at hnone
    cases hnone
  | some c =>
    rw [hlast, eq_comm] at hstop
    obtain ⟨f, hf, hc⟩ := List.mem_filterMap.1 (List.mem_of_getLast? hstop)
    obtain ⟨hmem, hhard⟩ := List.mem_filter.1 hf
    obtain ⟨c', hc', hstops⟩ := isHardStop_of_row a sha hmem hhard
    obtain ⟨e, he, rfl⟩ := List.mem_map.1 hmem
    rw [hc, Option.some.injEq] at hc'
    exact .inr ⟨e, he, c, hhard, hc, hc' ▸ hstops, rfl⟩

end Stops

lemma reviewReason_severity (total : ℤ) : (reviewReason none (severityForTotal total)).isSome = true ↔ 60 ≤ total := by
  rw [severityForTotal]
  split_ifs <;> simp [reviewReason] <;> omega

lemma escalationReason_of_stop {c : Classification} (h : isHardStop c = true) (severity : Severity) :
    ∃ reason, escalationReason (some c) severity = some reason ∧ escalationReason (some c) .none = some reason := by
  cases c with
  | suspiciousLanguage => cases h
  | unrealisticClaim => cases h
  | guaranteedReturn => exact ⟨_, rfl, rfl⟩
  | prohibitedCategory => exact ⟨_, rfl, rfl⟩
  | impersonation => exact ⟨_, rfl, rfl⟩
  | counterfeit => exact ⟨_, rfl, rfl⟩

lemma reason_cases (a : Assessment) (sha : String) :
    (a.reason.isSome = true ↔ (∃ e ∈ a.rows sha, e.2.hardStop = true) ∨ 60 ≤ a.scores.total) ∧
      ((∃ e ∈ a.rows sha, e.2.hardStop = true) →
        ∃ e ∈ a.rows sha, e.2.hardStop = true ∧ a.reason = escalationReason e.2.classification .none) := by
  rcases stop_cases a sha with ⟨hstop, hrows⟩ | ⟨e, he, c, hhard, hc, hstops, hstop⟩
  · have hnone : ¬∃ e ∈ a.rows sha, e.2.hardStop = true := by
      rintro ⟨e, he, hhard⟩
      rw [hrows e he] at hhard
      cases hhard
    rw [Assessment.reason, hstop, Assessment.severity, reviewReason_severity]
    exact ⟨by simp [hnone], fun h => absurd h hnone⟩
  · obtain ⟨reason, hreason, hnames⟩ := escalationReason_of_stop hstops a.severity
    have heq : a.reason = some reason := by
      rw [Assessment.reason, hstop]
      exact hreason
    have hhas : ∃ e ∈ a.rows sha, e.2.hardStop = true := ⟨e, he, hhard⟩
    refine ⟨by simp [heq, hhas], fun _ => ⟨e, he, hhard, ?_⟩⟩
    rw [hc, heq, hnames]

/-- What a review that has its findings is finished with. A check and its severity agree exactly if the WHOIS data
that is given is text. -/
theorem review_assessed {py : Python} {prepared : PreparedReview} {findings : List ModelFinding} {now : Time}
    {a : Assessment} {s : ReviewState} {review : RiskReview} (hfound : s.reviews.get prepared.review = some review)
    (hfresh : s.taken prepared.review (a.rows prepared.review.snapshotSha256) = false)
    (hassess : assess py prepared.snapshot findings now = .ok a) :
    let rows := a.rows prepared.review.snapshotSha256
    let s' := s.finished prepared.review a
    (finishReview py prepared findings now).exec s = .ok ((), s') ∧ a.scores.inRange = true ∧
      (s'.reviews.get prepared.review = some { review with status := .escalated } ↔
        (∃ e ∈ rows, e.2.hardStop = true) ∨ 60 ≤ a.scores.total) ∧
      ((∃ e ∈ rows, e.2.hardStop = true) → ∃ e ∈ rows, e.2.hardStop = true ∧
        (a.event prepared.review).reason = escalationReason e.2.classification .none ∧
        (s.escalations.get prepared.review = none → (s'.escalations.get prepared.review).map RiskEscalation.reason =
          escalationReason e.2.classification .none)) ∧
      ((∀ c ∈ a.checks, c.earned = c.maximum ↔ c.severity = .none) ↔ WhoisText prepared.snapshot) := by
  intro rows s'
  obtain ⟨hescalated, hnamed⟩ := reason_cases a prepared.review.snapshotSha256
  have hrange : a.scores.inRange = true ∧ ((∀ c ∈ a.checks, c.Agrees) ↔ WhoisText prepared.snapshot) := by
    obtain ⟨⟨checks, base⟩, hchecks, ha⟩ := bind_eq_ok.1 hassess
    cases ha
    exact ⟨scores_inRange hchecks findings.length, (deterministicChecks_cases hchecks).2⟩
  refine ⟨?_, hrange.1, ?_, ?_, hrange.2⟩
  · rw [finishReview_exec hfound hassess, if_pos hfresh, if_pos hrange.1]
  · rw [← hescalated]
    have hreview : s'.reviews.get prepared.review = some { review with status := a.status } := by
      change (s.reviews.update prepared.review fun r => { r with status := a.status }).get prepared.review = _
      rw [Table.get_update, if_pos rfl, hfound]
      rfl
    rw [hreview, Assessment.status]
    split_ifs with hreason <;> simp [hreason]
  · intro hstops
    obtain ⟨e, he, hhard, hreason⟩ := hnamed hstops
    refine ⟨e, he, hhard, hreason, fun hnone => ?_⟩
    rw [← hreason]
    obtain ⟨reason, hsome⟩ := Option.isSome_iff_exists.1 (hescalated.2 (.inl hstops))
    simp [s', ReviewState.finished, ReviewState.concluded, ReviewState.escalatedFor, ReviewState.withVersion,
      ReviewState.withFindings, hnone, hsome]

namespace Sample

def opened : ReviewState := ReviewState.start.opened request.fetched request.sourceUrl

def prepared : PreparedReview := request.prepared .start

def assessment : Assessment := ((assess python prepared.snapshot [] 0).toOption).getD ⟨[], [], ⟨0, 0, 0, 0, 0⟩⟩

def numberedDomain : Fields := [("whois", .obj [("domain", .int 5)])]

end Sample

theorem review_assessed_sample : (finishReview Sample.python Sample.prepared [] 0).exec Sample.opened =
      .ok ((), Sample.opened.finished Sample.prepared.review Sample.assessment) :=
  (review_assessed (show Sample.opened.reviews.get Sample.prepared.review = some ⟨.pending, 1⟩ from rfl)
    (by decide +kernel) rfl).1

theorem severity_without_risk : ((deterministicChecks Sample.python Sample.numberedDomain 0).toOption.map fun r =>
    r.1.any fun c => c.earned = c.maximum && c.severity = .medium) = some true := by
  decide +kernel

end RelayPay.Risk
