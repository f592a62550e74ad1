import RelayPay.RiskReview.Reviews

/-! Reviews that were opened and not finished, which later requests read as they are. -/

namespace RelayPay.Risk

open ReadCommitted Txn

def Assessment.status (a : Assessment) : ReviewStatus := if a.reason.isSome then .escalated else .completed

def Decided (status : ReviewStatus) : Prop := status = .completed ∨ status = .escalated

lemma Assessment.decided (a : Assessment) : Decided a.status := by
  rw [Assessment.status]
  split
  · exact .inr rfl
  · exact .inl rfl

lemma pending_undecided : ¬Decided .pending := by
  rintro (h | h) <;> cases h

section Transactions

variable {s : ReviewState}

def ReviewState.snapshot (s : ReviewState) (fetched : SiteSnapshot) (sourceUrl : String) : OnboardingSnapshot :=
  (s.snapshots.get fetched.key).getD ⟨fetched.snapshot, sourceUrl⟩

def ReviewState.takes (s : ReviewState) (fetched : SiteSnapshot) : Bool :=
  (s.snapshots.get fetched.key).isSome || storableFields fetched.snapshot

def ReviewState.stored (s : ReviewState) (fetched : SiteSnapshot) (sourceUrl : String) : ReviewState :=
  if (s.snapshots.get fetched.key).isSome then s
  else { s with snapshots := s.snapshots.put fetched.key ⟨fetched.snapshot, sourceUrl⟩ }

def ReviewState.opened (s : ReviewState) (fetched : SiteSnapshot) (sourceUrl : String) : ReviewState :=
  let stored := s.stored fetched sourceUrl
  { stored with reviews := stored.reviews.put fetched.key ⟨.pending, 1⟩ }

lemma stored_reviews (fetched : SiteSnapshot) (sourceUrl : String) :
    (s.stored fetched sourceUrl).reviews = s.reviews := by
  rw [ReviewState.stored]
  split <;> rfl

lemma storeSnapshot_exec (fetched : SiteSnapshot) (sourceUrl : String) : (storeSnapshot fetched sourceUrl).exec s =
      if s.takes fetched then .ok (s.snapshot fetched sourceUrl, s.stored fetched sourceUrl) else .error .database := by
  rw [storeSnapshot, exec_query_bind, ReviewState.takes, ReviewState.snapshot, ReviewState.stored]
  cases hrow : s.snapshots.get fetched.key with
  | some row => rfl
  | none =>
    simp only [exec_acquire_bind, exec_ensure_bind]
    by_cases hstorable : storableFields fetched.snapshot = true
    · rw [if_pos hstorable, hstorable]
      rfl
    · rw [if_neg hstorable, Bool.eq_false_of_not_eq_true hstorable]
      rfl

lemma prepareReview_exec (fetched : SiteSnapshot) (sourceUrl : String) : (prepareReview fetched sourceUrl).exec s =
      if s.takes fetched then
        if (s.reviews.get fetched.key).isSome then
          .ok (⟨fetched.key, (s.snapshot fetched sourceUrl).snapshot, true⟩, s.stored fetched sourceUrl)
        else .ok (⟨fetched.key, (s.snapshot fetched sourceUrl).snapshot, false⟩, s.opened fetched sourceUrl)
      else .error .database := by
  have hstore := storeSnapshot_exec (s := s) fetched sourceUrl
  by_cases htakes : s.takes fetched = true
  · rw [if_pos htakes] at hstore ⊢
    rw [prepareReview, exec_bind_ok hstore, exec_query_bind, stored_reviews]
    cases hreview : s.reviews.get fetched.key with
    | some review => rfl
    | none => rfl
  · rw [if_neg htakes] at hstore ⊢
    exact exec_bind_error hstore _

def ReviewState.taken (s : ReviewState) (k : SnapshotKey) (rows : List (ℕ × RiskFinding)) : Bool :=
  rows.any fun e => (s.findings.get (k, e.1)).isSome

def ReviewState.withFindings (s : ReviewState) (k : SnapshotKey) (rows : List (ℕ × RiskFinding)) : ReviewState :=
  { s with findings := rows.foldl (fun t e => t.put (k, e.1) e.2) s.findings }

def ReviewState.withVersion (s : ReviewState) (k : SnapshotKey) (version : RiskReviewVersion) : ReviewState :=
  { s with versions := s.versions.put (k, lastVersion k s + 1) version }

def ReviewState.escalatedFor (s : ReviewState) (k : SnapshotKey) (version : ℕ) :
    Option EscalationReason → Table SnapshotKey RiskEscalation
  | some reason => if (s.escalations.get k).isSome then s.escalations else s.escalations.put k ⟨version, reason⟩
  | none => s.escalations

def ReviewState.concluded (s : ReviewState) (k : SnapshotKey) (version : ℕ) (a : Assessment) : ReviewState :=
  { s with
    reviews := s.reviews.update k fun r => { r with status := a.status }
    escalations := s.escalatedFor k version a.reason
    events := s.events ++ [a.event k] }

def ReviewState.finished (s : ReviewState) (k : SnapshotKey) (a : Assessment) : ReviewState :=
  ((s.withFindings k (a.rows k.snapshotSha256)).withVersion k (a.version k.snapshotSha256)).concluded k
    (lastVersion k s + 1) a

lemma insertFindings_exec (k : SnapshotKey) (rows : List (ℕ × RiskFinding)) : (insertFindings k rows).exec s =
    if s.taken k rows = false then .ok ((), s.withFindings k rows) else .error .database := by
  rw [insertFindings, exec_query_bind, exec_ensure_bind]
  rfl

lemma insertVersion_exec (k : SnapshotKey) (version : RiskReviewVersion) : (insertVersion k version).exec s =
    if version.scores.inRange = true then .ok (lastVersion k s + 1, s.withVersion k version)
    else .error .database := by
  rw [insertVersion, exec_query_bind, exec_acquire_bind, exec_ensure_bind]
  rfl

lemma escalate_exec (k : SnapshotKey) (version : ℕ) (reason : EscalationReason) :
    (escalate k version reason).exec s = .ok ((), { s with escalations := s.escalatedFor k version (some reason) }) := by
  rw [escalate, exec_query_bind, ReviewState.escalatedFor]
  cases s.escalations.get k with
  | some e => rfl
  | none => rfl

lemma concludeReview_exec (k : SnapshotKey) (version : ℕ) (a : Assessment) :
    (concludeReview k version a).exec s = .ok ((), s.concluded k version a) := by
  rw [concludeReview, ReviewState.concluded, Assessment.status]
  cases a.reason with
  | none => rfl
  | some reason => exact exec_bind_ok (escalate_exec k version reason) _

lemma finishReview_exec {py : Python} {prepared : PreparedReview} {findings : List ModelFinding} {now : Time}
    {review : RiskReview} {a : Assessment} (hfound : s.reviews.get prepared.review = some review)
    (hassess : assess py prepared.snapshot findings now = .ok a) : (finishReview py prepared findings now).exec s =
      if s.taken prepared.review (a.rows prepared.review.snapshotSha256) = false then
        if a.scores.inRange = true then .ok ((), s.finished prepared.review a) else .error .database
      else .error .database := by
  have hfindings := insertFindings_exec (s := s) prepared.review (a.rows prepared.review.snapshotSha256)
  rw [finishReview, exec_query_bind, hfound]
  simp only [hassess]
  by_cases htaken : s.taken prepared.review (a.rows prepared.review.snapshotSha256) = false
  · rw [if_pos htaken] at hfindings ⊢
    rw [exec_bind_ok hfindings]
    have hversion := insertVersion_exec (s := s.withFindings prepared.review (a.rows prepared.review.snapshotSha256))
      prepared.review (a.version prepared.review.snapshotSha256)
    have hscores : (a.version prepared.review.snapshotSha256).scores = a.scores := rfl
    rw [hscores] at hversion
    by_cases hrange : a.scores.inRange = true
    · rw [if_pos hrange] at hversion ⊢
      rw [exec_bind_ok hversion, concludeReview_exec]
      rfl
    · rw [if_neg hrange] at hversion ⊢
      exact exec_bind_error hversion _
  · rw [if_neg htaken] at hfindings ⊢
    exact exec_bind_error hfindings _

lemma finishReview_reviews {py : Python} {prepared : PreparedReview} {findings : List ModelFinding} {now : Time}
    {s' : ReviewState} (h : (finishReview py prepared findings now).exec s = .ok ((), s')) :
    ∃ status, Decided status ∧ s'.reviews = s.reviews.update prepared.review fun r => { r with status := status } := by
  cases hfound : s.reviews.get prepared.review with
  | none =>
    rw [finishReview, exec_query_bind, hfound] at h
    cases h
  | some review =>
    cases hassess : assess py prepared.snapshot findings now with
    | error e =>
      rw [finishReview, exec_query_bind, hfound] at h
      simp only [hassess] at h
      cases h
    | ok a =>
      rw [finishReview_exec hfound hassess] at h
      split at h
      · split at h
        · cases h
          exact ⟨a.status, a.decided, rfl⟩
        · cases h
      · cases h

lemma answer_eq (k : SnapshotKey) (s : ReviewState) {review : RiskReview} (h : s.reviews.get k = some review) :
    ∃ p, answer k s = .ok p ∧ p.status = review.status := by
  rw [answer, readReviewPayload, exec_query_bind, h]
  exact ⟨_, rfl, rfl⟩

end Transactions

section Requests

variable (py : Python) (r : ReviewRequest) (stop : Option Stop) (s : ReviewState)

def ReviewRequest.prepared : PreparedReview :=
  ⟨r.fetched.key, (s.snapshot r.fetched r.sourceUrl).snapshot, false⟩

def Opens : Prop :=
  stop ≠ some .opening ∧ s.takes r.fetched = true ∧ s.reviews.get r.fetched.key = none

def Finishes : Prop :=
  stop ≠ some .opened ∧ ∃ findings s', findingsFor py r (r.prepared s) = .ok findings ∧
    (finishReview py (r.prepared s) findings r.now).exec (s.opened r.fetched r.sourceUrl) = .ok ((), s')

end Requests

section Steps

variable {py : Python} {r : ReviewRequest} {stop : Option Stop} {s : ReviewState}

lemma opened_get (k : SnapshotKey) (fetched : SiteSnapshot) (sourceUrl : String) :
    (s.opened fetched sourceUrl).reviews.get k = if k = fetched.key then some ⟨.pending, 1⟩ else s.reviews.get k := by
  rw [ReviewState.opened]
  simp only [stored_reviews, Table.get_put]

lemma post_reviews_of_not_opens (h : ¬Opens r stop s) : (postRiskReview py r stop s).2.reviews = s.reviews := by
  rw [postRiskReview, prepareReview_exec]
  split
  · rfl
  · next hstop =>
    by_cases htakes : s.takes r.fetched = true
    · cases hreview : s.reviews.get r.fetched.key with
      | none => exact absurd ⟨hstop, htakes, hreview⟩ h
      | some review =>
        simp only [htakes, if_true, Option.isSome_some]
        split
        · exact stored_reviews _ _
        · exact stored_reviews _ _
    · simp only [htakes]
      rfl

lemma post_of_opens (h : Opens r stop s) : postRiskReview py r stop s =
    if stop = some .opened then (.error .crash, s.opened r.fetched r.sourceUrl)
    else executeReview py r stop (r.prepared s) (s.opened r.fetched r.sourceUrl) := by
  obtain ⟨hstop, htakes, hreview⟩ := h
  rw [postRiskReview, if_neg hstop, prepareReview_exec, if_pos htakes, hreview]
  rfl

lemma post_finished (h : Opens r stop s) {findings : List ModelFinding} {s' : ReviewState}
    (hstop : stop ≠ some .opened) (hfindings : findingsFor py r (r.prepared s) = .ok findings)
    (hfinish : (finishReview py (r.prepared s) findings r.now).exec (s.opened r.fetched r.sourceUrl) = .ok ((), s')) :
    postRiskReview py r stop s =
      if stop = some .finished then (.error .crash, s') else (answer r.fetched.key s', s') := by
  rw [post_of_opens h, if_neg hstop, executeReview]
  simp only [hfindings, hfinish]
  rfl

lemma post_unfinished (h : Opens r stop s) (hnot : ¬Finishes py r stop s) :
    (∃ e, (postRiskReview py r stop s).1 = .error e) ∧
      (postRiskReview py r stop s).2 = s.opened r.fetched r.sourceUrl := by
  rw [post_of_opens h]
  by_cases hstop : stop = some .opened
  · rw [if_pos hstop]
    exact ⟨⟨_, rfl⟩, rfl⟩
  · rw [if_neg hstop, executeReview]
    cases hfindings : findingsFor py r (r.prepared s) with
    | error e => exact ⟨⟨e, rfl⟩, rfl⟩
    | ok findings =>
      cases hfinish : (finishReview py (r.prepared s) findings r.now).exec (s.opened r.fetched r.sourceUrl) with
      | error e =>
        simp only [hfinish]
        exact ⟨⟨e, rfl⟩, rfl⟩
      | ok x => exact absurd ⟨hstop, findings, x.2, hfindings, hfinish⟩ hnot

lemma post_found {review : RiskReview} {p : ReviewPayload} (hreview : s.reviews.get r.fetched.key = some review)
    (hok : (postRiskReview py r none s).1 = .ok p) : p.status = review.status := by
  rw [postRiskReview, prepareReview_exec, hreview] at hok
  by_cases htakes : s.takes r.fetched = true
  · rw [if_pos htakes] at hok
    have hstored : (s.stored r.fetched r.sourceUrl).reviews.get r.fetched.key = some review := by
      rw [stored_reviews, hreview]
    obtain ⟨p', hp', hstatus⟩ := answer_eq _ _ hstored
    have hsame : answer r.fetched.key (s.stored r.fetched r.sourceUrl) = .ok p := hok
    rw [hp'] at hsame
    cases hsame
    exact hstatus
  · rw [if_neg htakes] at hok
    cases hok

lemma post_new {p : ReviewPayload} (hreview : s.reviews.get r.fetched.key = none)
    (hok : (postRiskReview py r none s).1 = .ok p) : Decided p.status := by
  have hopens : Opens r none s := by
    refine ⟨by simp, ?_, hreview⟩
    by_contra htakes
    rw [postRiskReview, prepareReview_exec, if_neg htakes] at hok
    cases hok
  by_cases hfinishes : Finishes py r none s
  · obtain ⟨hstop, findings, s', hfindings, hfinish⟩ := hfinishes
    obtain ⟨status, hdecided, hreviews⟩ := finishReview_reviews hfinish
    have hfound : s'.reviews.get r.fetched.key = some ⟨status, 1⟩ := by
      have hkey : (r.prepared s).review = r.fetched.key := rfl
      rw [hreviews, hkey, Table.get_update, if_pos rfl, opened_get, if_pos rfl]
      rfl
    obtain ⟨p', hp', hstatus⟩ := answer_eq _ _ hfound
    rw [post_finished hopens hstop hfindings hfinish, if_neg (by simp), hp'] at hok
    cases hok
    rw [hstatus]
    exact hdecided
  · obtain ⟨⟨e, he⟩, -⟩ := post_unfinished hopens hfinishes
    rw [he] at hok
    cases hok

lemma post_reviews_of_opens (py : Python) (h : Opens r stop s) : ∃ status, (Decided status ↔ Finishes py r stop s) ∧
    ∀ k, (postRiskReview py r stop s).2.reviews.get k =
      if k = r.fetched.key then some ⟨status, 1⟩ else s.reviews.get k := by
  by_cases hfinishes : Finishes py r stop s
  · obtain ⟨hstop, findings, s', hfindings, hfinish⟩ := hfinishes
    obtain ⟨status, hdecided, hreviews⟩ := finishReview_reviews hfinish
    refine ⟨status, iff_of_true hdecided ⟨hstop, findings, s', hfindings, hfinish⟩, fun k => ?_⟩
    have hstate : (postRiskReview py r stop s).2 = s' := by
      rw [post_finished h hstop hfindings hfinish]
      split <;> rfl
    have hkey : (r.prepared s).review = r.fetched.key := rfl
    rw [hstate, hreviews, hkey, Table.get_update, opened_get, opened_get, if_pos rfl]
    split <;> rfl
  · refine ⟨.pending, iff_of_false pending_undecided hfinishes, fun k => ?_⟩
    rw [(post_unfinished h hfinishes).2, opened_get]

end Steps

section Histories

variable (py : Python)

def Abandons (x : ReviewRequest × Option Stop) (s : ReviewState) : Prop :=
  Opens x.1 x.2 s ∧ ¬Finishes py x.1 x.2 s

/-- Some request of the history crashed or failed after it had opened the review of `k` and before it was finished. -/
def Abandoned (xs : List (ReviewRequest × Option Stop)) (k : SnapshotKey) : Prop :=
  ∃ before x after, xs = before ++ x :: after ∧ x.1.fetched.key = k ∧ Abandons py x (history py before .start)

variable {py} {xs : List (ReviewRequest × Option Stop)} {k : SnapshotKey}

lemma history_concat (xs : List (ReviewRequest × Option Stop)) (x : ReviewRequest × Option Stop) (s : ReviewState) :
    history py (xs ++ [x]) s = (postRiskReview py x.1 x.2 (history py xs s)).2 := by
  rw [history, List.foldl_append]
  rfl

lemma abandoned_concat {x : ReviewRequest × Option Stop} : Abandoned py (xs ++ [x]) k ↔
    Abandoned py xs k ∨ x.1.fetched.key = k ∧ Abandons py x (history py xs .start) := by
  constructor
  · rintro ⟨before, y, after, heq, hkey, habandons⟩
    rcases List.eq_nil_or_concat after with rfl | ⟨after, z, rfl⟩
    · obtain ⟨rfl, hlast⟩ := List.append_inj' heq rfl
      cases hlast
      exact .inr ⟨hkey, habandons⟩
    · rw [List.concat_eq_append, ← List.cons_append, ← List.append_assoc] at heq
      obtain ⟨rfl, -⟩ := List.append_inj' heq rfl
      exact .inl ⟨before, y, after, rfl, hkey, habandons⟩
  · rintro (⟨before, y, after, rfl, hkey, habandons⟩ | ⟨hkey, habandons⟩)
    · exact ⟨before, y, after ++ [x], by simp, hkey, habandons⟩
    · exact ⟨xs, x, [], rfl, hkey, habandons⟩

lemma undecided_iff (xs : List (ReviewRequest × Option Stop)) (k : SnapshotKey) :
    (∃ review, (history py xs .start).reviews.get k = some review ∧ ¬Decided review.status) ↔ Abandoned py xs k := by
  induction xs using List.reverseRecOn with
  | nil =>
    constructor
    · rintro ⟨review, hreview, -⟩
      cases hreview
    · rintro ⟨before, x, after, heq, -⟩
      simp at heq
  | append_singleton xs x ih =>
    rw [history_concat, abandoned_concat, ← ih]
    by_cases hopens : Opens x.1 x.2 (history py xs .start)
    · obtain ⟨status, hstatus, hreviews⟩ := post_reviews_of_opens py hopens
      rw [hreviews]
      by_cases hk : k = x.1.fetched.key
      · subst hk
        have hnone := hopens.2.2
        simp [hnone, Abandons, hopens, hstatus]
      · simp [hk, Ne.symm hk]
    · rw [post_reviews_of_not_opens hopens]
      simp [Abandons, hopens]

end Histories

/-- After any history of requests that may be cut off anywhere, a request that ends answers with a decided review
exactly if no earlier one abandoned the review of its snapshot. -/
theorem review_decided_iff (py : Python) (xs : List (ReviewRequest × Option Stop)) (r : ReviewRequest)
    (p : ReviewPayload) (hok : (postRiskReview py r none (history py xs .start)).1 = .ok p) :
    (p.status = .completed ∨ p.status = .escalated) ↔ ¬Abandoned py xs r.fetched.key := by
  change Decided p.status ↔ _
  rw [← undecided_iff]
  cases hreview : (history py xs .start).reviews.get r.fetched.key with
  | some review =>
    rw [post_found hreview hok]
    simp
  | none =>
    have hdecided := post_new hreview hok
    simpa using hdecided

namespace Sample

def isAlnum (c : Char) : Bool := c.isAlphanum || c = '_'

def python : Python where
  casefold := List.map Char.toLower
  str _ := ""
  years _ := ""
  float _ := ['0', '.', '5']
  fromisoformat _ := none
  isWord := isAlnum
  isDecimal := Char.isDigit
  isSpace c := c = ' '

def request : ReviewRequest where
  fetched := ⟨"site_1", [("category", .str "HOME_GOODS"), ("html", .obj [("body", .str "Guaranteed income")])], "00"⟩
  sourceUrl := ""
  provider _ := .ok []
  now := 0

def status (xs : List (ReviewRequest × Option Stop)) : Option ReviewStatus :=
  (postRiskReview python request none (history python xs .start)).1.toOption.map ReviewPayload.status

end Sample

lemma eq_ok_of_toOption {ε α : Type} {x : Except ε α} {a : α} (h : x.toOption = some a) : x = .ok a := by
  cases x with
  | error e => cases h
  | ok b =>
    cases h
    rfl

theorem review_left_pending : Sample.status [(Sample.request, some .opened)] = some .pending := by
  decide +kernel

theorem review_decided_iff_sample :
    ∃ p, (postRiskReview Sample.python Sample.request none
        (history Sample.python [(Sample.request, none)] .start)).1 = .ok p ∧
      p.status = .escalated ∧ ¬Abandoned Sample.python [(Sample.request, none)] Sample.request.fetched.key := by
  have hstatus : Sample.status [(Sample.request, none)] = some .escalated := by decide +kernel
  obtain ⟨p, hp, hescalated⟩ := Option.map_eq_some_iff.1 hstatus
  have hok := eq_ok_of_toOption hp
  exact ⟨p, hok, hescalated, (review_decided_iff _ _ _ p hok).1 (.inr hescalated)⟩

end RelayPay.Risk
