import RelayPay.Intelligence.Queries
import RelayPay.Scenario

namespace RelayPay.Intelligence

open ReadCommitted

lemma length_sliceTo {α : Type} (l : List α) (cap n : ℕ) :
    (sliceTo l (cap - n)).length = if n ≤ cap then min (cap - n) l.length else l.length - (n - cap) := by
  rw [sliceTo]
  split_ifs with h hn hn
  · rw [List.length_take]
    omega
  · omega
  · omega
  · rw [List.length_take]
    omega

lemma sliceTo_of_fits {α : Type} (l : List α) {cap n : ℕ} (h : n ≤ cap ∨ l.length + cap ≤ n) :
    sliceTo l (cap - n) = l.take (cap - n) := by
  rw [sliceTo]
  split_ifs with hsign
  · congr 1
    omega
  · congr 1
    omega

section Cited

variable (r : DeterministicResult)

def recordsCited : List Citation :=
  r.citations.filter fun c => ["settlement_run", "capture", "refund"].contains c.recordType

def refundsCited : List Citation := r.citations.filter fun c => ["refund"].contains c.recordType

end Cited

lemma filter_type {ρ : Type} {f : ρ → Citation} {name : String} (hf : ∀ x, (f x).recordType = name)
    (types : List String) (l : List ρ) : (l.map f).filter (fun c => types.contains c.recordType) =
      if types.contains name then l.map f else [] := by
  rw [List.filter_map]
  have hsame : (fun c : Citation => types.contains c.recordType) ∘ f = fun _ => types.contains name := by
    funext x
    exact congrArg types.contains (hf x)
  rw [hsame]
  cases types.contains name with
  | true => simp
  | false => simp

variable (cal : Calendar)

def considered (s : Books) (scope : QueryScope) (policy : SettlementPolicy) (questionDate : Date) (asOf : Time) :
    Intent → ℕ × List RefundRow
  | .settlementLower =>
    let bounds := localDayBounds cal policy.window questionDate
    ((settledRows s.world scope bounds.1 bounds.2).length,
      match latestForecast s scope questionDate with
      | none => []
      | some f => (succeededRefunds s.world scope f.createdAt asOf).filter fun r =>
          r.payment ∈ forecastCaptureIds s.world f)
  | .unsettledPayments => ((unsettledCaptures s.world scope asOf none).length, [])
  | .refundImpact =>
    let zone := policy.window.timezoneName
    (0, succeededRefunds s.world scope (cal.combine zone (cal.localDate zone asOf) 0) asOf)
  | .arrivalTomorrow =>
    let businessDate := nextBusinessDate policy.window (cal.localDate policy.window.timezoneName asOf)
    let cutoff := cutoffAt cal policy.window businessDate
    let captures := unsettledCaptures s.world scope cutoff none
    (captures.length, (succeededRefunds s.world scope foreverStart cutoff).filter fun r =>
      r.payment ∈ captures.map Prod.fst)

variable (s : Books) (scope : QueryScope) (policy : SettlementPolicy) (questionDate : Date) (asOf : Time)

lemma answer_cites (intent : Intent) :
    let x := considered cal s scope policy questionDate asOf intent
    let r := intentQuery cal intent s scope policy questionDate asOf
    (recordsCited r).length = min maxCitedRecords x.1 + (sliceTo x.2 (maxCitedRecords - x.1)).length ∧
      refundsCited r = (sliceTo x.2 (maxCitedRecords - x.1)).map refundCitation := by
  have hcapture : ∀ e, (captureCitation e).recordType = "capture" := fun _ => rfl
  have hrefund : ∀ e, (refundCitation e).recordType = "refund" := fun _ => rfl
  have hrun : ∀ e, (settledRunCitation e).recordType = "settlement_run" := fun _ => rfl
  have hdelta : ∀ e, (deltaCitation e).recordType = "balance_transaction" := fun _ => rfl
  simp only [recordsCited, refundsCited]
  cases intent with
  | settlementLower =>
    simp only [considered, intentQuery, whyLowerSettlement]
    cases latestForecast s scope questionDate with
    | none =>
      simp only [List.filter_append, filter_type hrun]
      simp [policyCitation, sliceTo]
    | some f =>
      simp only [List.filter_append, filter_type hrun, filter_type hrefund]
      simp [policyCitation, forecastCitation]
  | unsettledPayments =>
    simp only [considered, intentQuery, unsettledPayments, List.filter_append, filter_type hcapture]
    simp [policyCitation, sliceTo]
  | refundImpact =>
    simp only [considered, intentQuery, refundCashImpact, List.filter_append, List.filter_flatMap, List.filter_cons,
      filter_type hdelta, hrefund]
    simp [policyCitation, sliceTo, maxCitedRecords, ← List.map_eq_flatMap]
  | arrivalTomorrow =>
    simp only [considered, intentQuery, expectedArrivalTomorrow, List.filter_append, filter_type hcapture,
      filter_type hrefund]
    simp [policyCitation]

/-- An answer keeps to the cap exactly if the runs or captures do, or if the refunds are no more than what they have
above it. -/
theorem citations_capped (intent : Intent) :
    let x := considered cal s scope policy questionDate asOf intent
    let r := intentQuery cal intent s scope policy questionDate asOf
    ((recordsCited r).length ≤ maxCitedRecords ∧
        refundsCited r = (x.2.take (maxCitedRecords - x.1)).map refundCitation) ↔
      x.1 ≤ maxCitedRecords ∨ x.2.length + maxCitedRecords ≤ x.1 := by
  obtain ⟨hrecords, hrefunds⟩ := answer_cites cal s scope policy questionDate asOf intent
  intro x r
  have hlength := length_sliceTo x.2 maxCitedRecords x.1
  rw [show (recordsCited r).length = _ from hrecords, show refundsCited r = _ from hrefunds]
  change (min maxCitedRecords x.1 + (sliceTo x.2 (maxCitedRecords - x.1)).length ≤ maxCitedRecords ∧
    (sliceTo x.2 (maxCitedRecords - x.1)).map refundCitation = _) ↔ _
  constructor
  · rintro ⟨hcap, -⟩
    split_ifs at hlength with hn
    · exact .inl hn
    · refine .inr ?_
      omega
  · intro h
    refine ⟨?_, by rw [sliceTo_of_fits x.2 h]⟩
    split_ifs at hlength with hn
    · omega
    · omega

def manyRefund : Refund := ⟨100, .succeeded, none, some (foreverStart + 2), none⟩

def manySale (p : PaymentId) : PaymentIntent :=
  ⟨1, 1, "order", 1000, .captured, 2, [], none, some ⟨1000, 20, 4, none, .succeeded, none, some (foreverStart + 1), none⟩,
    none, if p = 0 then (Table.empty.put 1 manyRefund).put 2 manyRefund else .empty⟩

def manySales : Books :=
  ⟨{ shopWorld with payments := (List.range 101).foldl (fun t p => t.put p (manySale p)) .empty }, []⟩

def dayCalendar : Calendar where
  localDate _ t := t / seconds 86400
  localTime _ t := t % seconds 86400
  combine _ d t := d * seconds 86400 + t
  dateText d := toString d
  momentText _ t := toString t

def dailyPolicy : SettlementPolicy := ⟨1, 1, ⟨"UTC", 18, 0, 1, .included⟩, sha256 []⟩

theorem refunds_cited_past_cap :
    let r := intentQuery dayCalendar .arrivalTomorrow manySales ⟨1⟩ dailyPolicy 10957 (foreverStart + 3)
    (recordsCited r).length = 101 ∧ (refundsCited r).length = 1 := by
  decide +kernel

section Late

variable (w : World) (f : SettlementForecast) (cutoff : Time)

def lateCapture (e : PaymentId × PaymentIntent) : Option (PaymentId × Capture) :=
  e.2.capture.bind fun c =>
    if c.status = .succeeded ∧ (c.capturedAt.any fun t => f.createdAt < t && t ≤ cutoff) = true ∧
      e.1 ∉ forecastCaptureIds w f then some (e.1, c) else none

def lateCaptures : List (PaymentId × Capture) := w.payments.rows.filterMap (lateCapture w f cutoff)

def settledLate : List (PaymentId × Capture) := (lateCaptures w f cutoff).filter fun e => w.hasItem e.1

def amounts (l : List (PaymentId × Capture)) : ℤ := (l.map fun e => e.2.amount).sum

lemma unsettledCaptures_late (scope : QueryScope) :
    ((unsettledCaptures w scope cutoff (some f.createdAt)).filter fun e => e.1 ∉ forecastCaptureIds w f).Perm
      ((lateCaptures w f cutoff).filter fun e => !w.hasItem e.1) := by
  refine ((List.perm_insertionSort _ _).filter _).trans ?_
  rw [lateCaptures, List.filter_filterMap, List.filter_filterMap]
  refine List.Perm.of_eq (congrArg (fun g => w.payments.rows.filterMap g) (funext fun e => ?_))
  have hitem : (w.settlementItems.all fun i => i.capture ≠ e.1) = !w.hasItem e.1 := by
    simp [World.hasItem, List.not_any_eq_all_not]
  simp only [unsettledCapture, lateCapture, hitem]
  cases e.2.capture with
  | none => rfl
  | some c =>
    simp only [Option.bind_some, Option.all_some, Bool.and_comm (decide (_ ≤ cutoff))]
    by_cases hlate : e.1 ∈ forecastCaptureIds w f <;> cases hs : w.hasItem e.1 <;>
      simp [Option.filter, hlate] <;> split_ifs <;> simp_all

lemma amounts_late (scope : QueryScope) :
    amounts ((unsettledCaptures w scope cutoff (some f.createdAt)).filter fun e => e.1 ∉ forecastCaptureIds w f) =
      amounts (lateCaptures w f cutoff) - amounts (settledLate w f cutoff) := by
  have hsplit := ((List.filter_append_perm (fun e => w.hasItem e.1) (lateCaptures w f cutoff)).map
    fun e => e.2.amount).sum_eq
  have hunsettled := ((unsettledCaptures_late w f cutoff scope).map fun e => e.2.amount).sum_eq
  rw [List.map_append, List.sum_append] at hsplit
  simp only [amounts, settledLate]
  omega

end Late

def lowerNumbers (w : World) : List (String × ℤ) :=
  (whyLowerSettlement cal { s with world := w } scope policy questionDate asOf).numbers

variable {f : SettlementForecast}

lemma lowerNumbers_late (h : latestForecast s scope questionDate = some f) (w : World) :
    let numbers := lowerNumbers cal s scope policy questionDate asOf w
    let cutoff := cutoffAt cal policy.window questionDate
    numbers.lookup "lateCaptureTotal" =
        some (amounts (lateCaptures w f cutoff) - amounts (settledLate w f cutoff)) ∧
      numbers.lookup "lateRefundTotal" = some ((((succeededRefunds w scope f.createdAt asOf).filter fun r =>
        r.payment ∈ forecastCaptureIds w f).map fun r => r.row.amount).sum) := by
  have hforecast : latestForecast { s with world := w } scope questionDate = some f := h
  simp only [lowerNumbers, whyLowerSettlement, hforecast]
  rw [← amounts_late w f _ scope]
  exact ⟨rfl, rfl⟩

lemma payments_settlementRun {m : MerchantId} {run : KeyDigest} {fingerprint : Digest} {w : World} {q : List Deferred}
    {x : Reply × World × List Deferred} (h : (runSettlementTransaction m run fingerprint).perform w q = .ok x) :
    x.2.1.payments = w.payments := by
  have hwp := @wp_runSettlementTransaction shop .finished ⟨w, [], q⟩ m run fingerprint
  obtain ⟨held, hkept⟩ := hwp.perform h
  exact hkept.2

def lateMove : Move Local Call Happening → Move Local Call Happening
  | .act i (.answer (some obs)) => .act i (.answer (some { obs with answeredAt := 1 }))
  | move => move

def lateSale (n : ℕ) : World := (shopAfter (.env (.tick 1) :: (shopSale.take n).map lateMove)).1

def openingForecasts : List SettlementForecast :=
  match recordPreCutoffForecast dayCalendar ⟨shopWorld, []⟩ ⟨1⟩ dailyPolicy 0 with
  | .ok x => x.2.forecasts
  | .error _ => []

lemma ok_of_any {ε α : Type} {e : Except ε α} {P : α → Bool} (h : e.toOption.any P = true) :
    ∃ x, e = .ok x ∧ P x = true := by
  cases e with
  | error e => cases h
  | ok x => exact ⟨x, rfl, h⟩

def tomorrowCutoff : Time :=
  cutoffAt cal policy.window (nextBusinessDate policy.window (cal.localDate policy.window.timezoneName asOf))

def charges (l : List (PaymentId × Capture)) : ℤ := (l.map fun e => e.2.feeAmount + e.2.gstAmount).sum

def refundsAgainst (w : World) (scope : QueryScope) (cutoff : Time) : ℤ :=
  (((succeededRefunds w scope foreverStart cutoff).filter fun r =>
    r.payment ∈ (unsettledCaptures w scope cutoff none).map Prod.fst).map fun r => r.row.amount).sum

lemma amounts_eq (l : List (PaymentId × Capture)) : amounts l = (l.map fun e => e.2.netAmount).sum + charges l := by
  rw [amounts, charges, ← List.sum_map_add]
  refine congrArg List.sum (List.map_congr_left fun e _ => ?_)
  rw [Capture.netAmount]
  ring

variable {now : Time} {x : SettlementForecast × Books}

lemma forecast_figures (h : recordPreCutoffForecast cal s scope policy now = .ok x) :
    let figures := forecastFigures cal policy.window s.world scope now
    x.1.cutoffAt = figures.cutoff ∧ x.1.captureTotal = figures.captureTotal ∧ x.1.refundTotal = figures.refundTotal ∧
      x.1.receivableOffsetTotal = figures.offset ∧ x.1.expectedSettlementAmount = figures.expected := by
  simp only [recordPreCutoffForecast] at h
  split at h
  · next latest hlatest =>
    cases h
    have hcarries := (Option.filter_eq_some_iff.1 hlatest).2
    simp only [SettlementForecast.carries, Bool.and_eq_true, decide_eq_true_eq] at hcarries
    obtain ⟨⟨⟨⟨⟨⟨⟨-, hcutoff⟩, hcaptures⟩, hrefunds⟩, hoffset⟩, hexpected⟩, -⟩, -⟩ := hcarries
    exact ⟨hcutoff, hcaptures, hrefunds, hoffset, hexpected⟩
  · split at h
    · cases h
      exact ⟨rfl, rfl, rfl, rfl, rfl⟩
    · cases h

/-- The forecast counts captures after fee and tax, the answer whole: they agree exactly if there is no fee or tax. -/
theorem arrival_agrees (h : recordPreCutoffForecast cal s scope policy now = .ok x)
    (hcutoff : x.1.cutoffAt = tomorrowCutoff cal policy asOf)
    (hreceivable : receivableBalance s.world scope now none = receivableBalance s.world scope asOf none) :
    let numbers := (expectedArrivalTomorrow cal s scope policy questionDate asOf).numbers
    (numbers.lookup "expectedSettlement" = some x.1.expectedSettlementAmount ∧
      numbers.lookup "expectedCaptureTotal" = some x.1.captureTotal ∧
      numbers.lookup "expectedRefundTotal" = some x.1.refundTotal ∧
      numbers.lookup "receivableOffsetTotal" = some x.1.receivableOffsetTotal) ↔
    charges (unsettledCaptures s.world scope x.1.cutoffAt none) = 0 := by
  obtain ⟨hsame, hcaptures, hrefunds, hoffset, hexpected⟩ := forecast_figures cal s scope policy h
  intro numbers
  -- both in terms of the cutoff they share
  have hanswer : ∀ cutoff, tomorrowCutoff cal policy asOf = cutoff →
      let total := amounts (unsettledCaptures s.world scope cutoff none)
      let refunds := refundsAgainst s.world scope cutoff
      let offset := min (receivableBalance s.world scope asOf none) (max 0 (total - refunds))
      numbers.lookup "expectedSettlement" = some (total - refunds - offset) ∧
        numbers.lookup "expectedCaptureTotal" = some total ∧ numbers.lookup "expectedRefundTotal" = some refunds ∧
        numbers.lookup "receivableOffsetTotal" = some offset := by
    rintro _ rfl
    exact ⟨rfl, rfl, rfl, rfl⟩
  obtain ⟨hsettlement, htotal, hrefund, hoff⟩ := hanswer _ (hcutoff.symm.trans hsame)
  rw [hsettlement, htotal, hrefund, hoff, hexpected, hcaptures, hrefunds, hoffset, hsame, amounts_eq, ← hreceivable]
  simp only [Option.some_inj]
  generalize hcut : (forecastFigures cal policy.window s.world scope now).cutoff = cutoff
  simp only [forecastFigures] at hcut ⊢
  rw [hcut]
  constructor
  · rintro ⟨-, hequal, -⟩
    omega
  · intro hnone
    rw [hnone, add_zero]
    exact ⟨rfl, rfl, rfl, rfl⟩

def evening : Time := foreverStart + seconds 68400

theorem arrival_disagrees :
    let numbers := (expectedArrivalTomorrow dayCalendar manySales ⟨1⟩ dailyPolicy 10957 evening).numbers
    numbers.lookup "expectedSettlement" = some 100800 ∧
      ((recordPreCutoffForecast dayCalendar manySales ⟨1⟩ dailyPolicy evening).toOption.map fun x =>
        (x.1.cutoffAt, x.1.expectedSettlementAmount)) = some (tomorrowCutoff dayCalendar dailyPolicy evening, 98376) := by
  decide +kernel

theorem arrival_agrees_sale : ∃ x, recordPreCutoffForecast dayCalendar manySales ⟨1⟩ dailyPolicy evening = .ok x ∧
    let numbers := (expectedArrivalTomorrow dayCalendar manySales ⟨1⟩ dailyPolicy 10957 evening).numbers
    (numbers.lookup "expectedSettlement" = some x.1.expectedSettlementAmount ∧
      numbers.lookup "expectedCaptureTotal" = some x.1.captureTotal ∧
      numbers.lookup "expectedRefundTotal" = some x.1.refundTotal ∧
      numbers.lookup "receivableOffsetTotal" = some x.1.receivableOffsetTotal) ↔
    charges (unsettledCaptures manySales.world ⟨1⟩ x.1.cutoffAt none) = 0 := by
  obtain ⟨x, hx, hcutoff⟩ := ok_of_any (e := recordPreCutoffForecast dayCalendar manySales ⟨1⟩ dailyPolicy evening)
    (P := fun x => x.1.cutoffAt = tomorrowCutoff dayCalendar dailyPolicy evening) (by decide +kernel)
  exact ⟨x, hx, arrival_agrees dayCalendar manySales ⟨1⟩ dailyPolicy 10957 evening hx (of_decide_eq_true hcutoff) rfl⟩

end RelayPay.Intelligence
