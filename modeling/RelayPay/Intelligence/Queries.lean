import RelayPay.Settlement

namespace RelayPay.Intelligence

/-! Windows. A date is its ordinal, a time of day its microseconds. -/

abbrev Date := ℕ

structure Calendar where
  localDate : String → Time → Date
  localTime : String → Time → ℕ
  combine : String → Date → ℕ → Time
  dateText : Date → String
  momentText : String → Time → String

def weekday (d : Date) : ℕ := (d + 6) % 7

inductive WeekendHandling where
  | included | skipped
  deriving DecidableEq

def WeekendHandling.text : WeekendHandling → String
  | .included => "INCLUDE"
  | .skipped => "SKIP"

structure PolicyWindow where
  timezoneName : String
  cutoffHour : ℕ
  cutoffMinute : ℕ
  settlementDelayDays : ℕ
  weekendHandling : WeekendHandling

def PolicyWindow.cutoffTime (window : PolicyWindow) : ℕ :=
  seconds ((window.cutoffHour * 60 + window.cutoffMinute) * 60)

variable (cal : Calendar) (window : PolicyWindow)

def cutoffAt (businessDate : Date) : Time :=
  cal.combine window.timezoneName businessDate window.cutoffTime

def businessDateOf (moment : Time) : Date :=
  if cal.localTime window.timezoneName moment ≤ window.cutoffTime
  then cal.localDate window.timezoneName moment
  else cal.localDate window.timezoneName moment + 1

def skipWeekend (current : Date) : Date :=
  if 5 ≤ weekday current then skipWeekend (current + 1) else current
termination_by (7 - weekday current) % 7
decreasing_by
  simp only [weekday] at *
  omega

def nextBusinessDate (value : Date) : Date :=
  match window.weekendHandling with
  | .skipped => skipWeekend (value + 1)
  | .included => value + 1

def arrivalAfter (skip : Bool) (current : Date) (remaining : ℕ) : Date :=
  if 0 < remaining ∨ (skip = true ∧ 5 ≤ weekday current) then
    if skip = true ∧ 5 ≤ weekday (current + 1) then arrivalAfter skip (current + 1) remaining
    else arrivalAfter skip (current + 1) (remaining - 1)
  else current
termination_by 7 * remaining + (7 - weekday current) % 7
decreasing_by all_goals
  simp only [weekday] at *
  omega

def arrivalDate (businessDate : Date) : Date :=
  arrivalAfter (window.weekendHandling = .skipped) businessDate window.settlementDelayDays

def localDayBounds (value : Date) : Time × Time :=
  (cal.combine window.timezoneName value 0, cal.combine window.timezoneName (value + 1) 0)

structure SettlementPolicy where
  merchant : MerchantId
  version : ℕ
  window : PolicyWindow
  policySha256 : Digest

def SettlementPolicy.publicId (p : SettlementPolicy) : String :=
  "spv_" ++ toString p.merchant ++ "_" ++ toString p.version

inductive ForecastItem where
  | capture (p : PaymentId) (amount : ℤ)
  | refund (p : PaymentId) (r : RefundId) (amount : ℤ)
  | receivableOffset (amount : ℤ)

structure SettlementForecast where
  merchant : MerchantId
  policyVersion : ℕ
  createdAt : Time
  businessDate : Date
  sequence : ℕ
  cutoffAt : Time
  expectedArrivalDate : Date
  captureTotal : ℤ
  refundTotal : ℤ
  receivableOffsetTotal : ℤ
  expectedSettlementAmount : ℤ
  captureCount : ℕ
  refundCount : ℕ
  snapshot : Json
  snapshotSha256 : Digest
  items : List ForecastItem

def SettlementForecast.publicId (f : SettlementForecast) : String :=
  "sfc_" ++ toString f.merchant ++ "_" ++ toString f.businessDate ++ "_" ++ toString f.sequence

structure Books where
  world : World
  forecasts : List SettlementForecast

structure QueryScope where
  merchant : MerchantId

structure Citation where
  recordType : String
  recordId : String
  fieldPaths : List String
  snapshotSha256 : Digest

inductive Intent where
  | settlementLower | unsettledPayments | refundImpact | arrivalTomorrow

structure DeterministicResult where
  intent : Intent
  numbers : List (String × ℤ)
  dates : List (String × String)
  calculationSteps : List String
  citations : List Citation
  trace : List String
  requiredCitationIds : List String

def maxCitedRecords : ℕ := 100

def foreverStart : Time := seconds 946684800

def recordDigest (recordType recordId : String) (fields : List (String × Json)) : Digest :=
  sha256 (canonicalJsonBytes (.obj ([("recordType", .str recordType), ("recordId", .str recordId)] ++ fields)))

def policyCitation (policy : SettlementPolicy) : Citation :=
  ⟨"settlement_policy", policy.publicId,
    ["timezoneName", "cutoffHour", "cutoffMinute", "settlementDelayDays", "weekendHandling"],
    policy.policySha256⟩

def captureCitation (e : PaymentId × Capture) : Citation :=
  let id := (OperationId.capture e.1).resourcePublicId
  ⟨"capture", id, ["amount", "capturedAt", "status"], recordDigest "capture" id
    [("amount", .int e.2.amount), ("capturedAt", .str (isoformat (e.2.capturedAt.getD foreverStart)))]⟩

structure RefundRow where
  payment : PaymentId
  id : RefundId
  row : Refund

def RefundRow.publicId (r : RefundRow) : String := (OperationId.refund r.payment r.id).resourcePublicId

def refundCitation (r : RefundRow) : Citation :=
  ⟨"refund", r.publicId, ["amount", "refundedAt", "status"], recordDigest "refund" r.publicId
    [("amount", .int r.row.amount),
      ("refundedAt", .str (isoformat (r.row.refundedAt.getD foreverStart)))]⟩

section Queries

variable (w : World) (scope : QueryScope)

def unsettledCapture (maxCapturedAt : Time) (minCapturedAt : Option Time) (e : PaymentId × PaymentIntent) :
    Option (PaymentId × Capture) :=
  match e.2.capture with
  | some c =>
    if c.status = .succeeded ∧
        (c.capturedAt.any fun t => t ≤ maxCapturedAt && minCapturedAt.all fun s => s < t) = true ∧
        (w.settlementItems.all fun i => i.capture ≠ e.1) = true
    then some (e.1, c) else none
  | none => none

def unsettledCaptures (_scope : QueryScope) (maxCapturedAt : Time) (minCapturedAt : Option Time) :
    List (PaymentId × Capture) :=
  (w.payments.rows.filterMap (unsettledCapture w maxCapturedAt minCapturedAt)).insertionSort
    fun a b => captureOrder a b

def receivableBalance (asOf : Time) (since : Option Time) : ℤ :=
  ((w.balanceTransactions.filter fun b => b.merchant = scope.merchant &&
    (w.transactionStamps.get b.journal).any fun t => t ≤ asOf && since.all fun s => s < t).map
      BalanceTransaction.receivableDelta).sum

def succeededRefundsOf (start stop : Time) (e : PaymentId × PaymentIntent) : List RefundRow :=
  (e.2.refunds.rows.filter fun r => r.2.status = .succeeded &&
    r.2.refundedAt.any fun t => start < t && t ≤ stop).map fun r => ⟨e.1, r.1, r.2⟩

def refundOrder (a b : RefundRow) : Bool :=
  let s := a.row.refundedAt.getD 0
  let t := b.row.refundedAt.getD 0
  s < t || (s = t && (a.payment < b.payment || (a.payment = b.payment && a.id ≤ b.id)))

def succeededRefunds (_scope : QueryScope) (start stop : Time) : List RefundRow :=
  (w.payments.rows.flatMap (succeededRefundsOf start stop)).insertionSort fun a b => refundOrder a b

end Queries

def policyNumbers : List (String × ℤ) :=
  [("cutoffHour", window.cutoffHour), ("cutoffMinute", window.cutoffMinute),
    ("settlementDelayDays", window.settlementDelayDays)]

def latestForecast (s : Books) (scope : QueryScope) (businessDate : Date) : Option SettlementForecast :=
  ((s.forecasts.filter fun f => f.merchant = scope.merchant && f.businessDate = businessDate).insertionSort
    fun a b => b.sequence ≤ a.sequence).head?

structure SettledRun where
  key : KeyDigest
  run : SettlementRun
  amount : ℤ

def SettledRun.publicId (r : SettledRun) : String := "stl_" ++ r.key.key

def settledRunOrder (a b : SettledRun) : Bool :=
  a.run.createdAt < b.run.createdAt || (a.run.createdAt = b.run.createdAt && a.key.key ≤ b.key.key)

def settledRun (w : World) (scope : QueryScope) (start stop : Time) (e : KeyDigest × SettlementRun) :
    Option SettledRun :=
  let items := w.settlementItems.filter fun i => i.run = e.1
  if e.2.merchant = scope.merchant ∧ e.2.completed = true ∧
      (e.2.completedAt.any fun t => start ≤ t && t < stop) = true ∧ items ≠ []
  then some ⟨e.1, e.2, (items.map SettlementItem.amount).sum⟩ else none

def settledRows (w : World) (scope : QueryScope) (start stop : Time) : List SettledRun :=
  (w.settlementRuns.rows.filterMap (settledRun w scope start stop)).insertionSort
    fun a b => settledRunOrder a b

def settledRunCitation (r : SettledRun) : Citation :=
  ⟨"settlement_run", r.publicId, ["settledAmount", "status", "completedAt"],
    match r.run.responseBytes with
    | some body => sha256 body
    | none => recordDigest "settlement_run" r.publicId [("settledAmount", .int r.amount)]⟩

def forecastCitation (f : SettlementForecast) : Citation :=
  ⟨"settlement_forecast", f.publicId,
    ["captureTotal", "refundTotal", "receivableOffsetTotal", "expectedSettlementAmount", "businessDate"],
    f.snapshotSha256⟩

def forecastCaptureIds (w : World) (f : SettlementForecast) : List PaymentId :=
  (f.items.filterMap fun | .capture p _ => some p | _ => none).filter fun p =>
    ((w.payments.get p).bind PaymentIntent.capture).isSome

def sliceTo {α : Type} (l : List α) (n : ℤ) : List α :=
  if 0 ≤ n then l.take n.toNat else l.take (l.length - (-n).toNat)

def paise (n : ℤ) : String := toString n ++ " paise"

def whyLowerSettlement (s : Books) (scope : QueryScope) (policy : SettlementPolicy) (questionDate : Date)
    (asOf : Time) : DeterministicResult :=
  let window := policy.window
  let w := s.world
  let bounds := localDayBounds cal window questionDate
  let settled := settledRows w scope bounds.1 bounds.2
  let actual := (settled.map SettledRun.amount).sum
  let actualNumbers := [("actualSettlement", actual), ("settledRunCount", (settled.length : ℤ))]
  let actualCitations := (settled.take maxCitedRecords).map settledRunCitation
  let actualIds := (settled.take maxCitedRecords).map SettledRun.publicId
  let actualStep := "Completed settlement runs in the local day settled " ++ paise actual ++ "."
  let dates := [("questionDate", cal.dateText questionDate), ("asOf", isoformat asOf)]
  let trace := ["query:latest_forecast filters=(scope, business_date=" ++ cal.dateText questionDate ++
      ") order=(sequence desc)",
    "query:settled_today join=(settlement_items, settlement_runs) filters=(scope, completed_at within local day)"]
  match latestForecast s scope questionDate with
  | none =>
    { intent := .settlementLower
      numbers := policyNumbers window ++ [("forecastAvailable", 0)] ++ actualNumbers ++
        [("settlementDelta", actual)]
      dates := dates
      calculationSteps := ["No immutable pre-cutoff forecast exists for " ++ cal.dateText questionDate ++
        "; the forecast baseline is zero.", actualStep]
      citations := [policyCitation policy] ++ actualCitations
      trace := trace
      requiredCitationIds := ([policy.publicId] ++ actualIds).eraseDups }
  | some f =>
    let ids := forecastCaptureIds w f
    let lateRefunds := (succeededRefunds w scope f.createdAt asOf).filter fun r => r.payment ∈ ids
    let lateRefundTotal := (lateRefunds.map fun r => r.row.amount).sum
    let lateCaptures := (unsettledCaptures w scope (cutoffAt cal window questionDate)
      (some f.createdAt)).filter fun e => e.1 ∉ ids
    let lateCaptureTotal := (lateCaptures.map fun e => e.2.amount).sum
    let receivableChange := receivableBalance w scope asOf (some f.createdAt)
    let delta := actual - f.expectedSettlementAmount
    { intent := .settlementLower
      numbers := policyNumbers window ++ [("forecastAvailable", 1),
          ("forecastCaptureTotal", f.captureTotal), ("forecastRefundTotal", f.refundTotal),
          ("forecastReceivableOffsetTotal", f.receivableOffsetTotal),
          ("forecastExpectedSettlement", f.expectedSettlementAmount)] ++ actualNumbers ++
        [("lateRefundTotal", lateRefundTotal), ("lateRefundCount", (lateRefunds.length : ℤ)),
          ("lateCaptureTotal", lateCaptureTotal), ("lateCaptureCount", (lateCaptures.length : ℤ)),
          ("receivableOffsetDelta", receivableChange), ("settlementDelta", delta)]
      dates := dates
      calculationSteps := ["Latest pre-cutoff forecast " ++ f.publicId ++ " (sequence " ++
          toString f.sequence ++ ") expected settlement " ++ paise f.expectedSettlementAmount ++ " from " ++
          toString f.captureCount ++ " captures.",
        actualStep,
        "Refunds succeeded after the forecast was recorded reduced the outcome by " ++
          paise lateRefundTotal ++ " across " ++ toString lateRefunds.length ++ " refunds.",
        "Captures recorded after the forecast but before the cutoff added " ++ paise lateCaptureTotal ++
          " across " ++ toString lateCaptures.length ++ " captures.",
        "Receivable positions created after the forecast divert " ++ paise receivableChange ++
          " of captured value from this payout.",
        "Settlement delta: actual " ++ toString actual ++ " minus forecast " ++
          toString f.expectedSettlementAmount ++ " equals " ++ paise delta ++ "."]
      citations := [policyCitation policy, forecastCitation f] ++ actualCitations ++
        (sliceTo lateRefunds (maxCitedRecords - settled.length)).map refundCitation
      trace := trace
      requiredCitationIds := ([policy.publicId, f.publicId] ++ actualIds).eraseDups }

def unsettledPayments (s : Books) (scope : QueryScope) (policy : SettlementPolicy) (questionDate : Date)
    (asOf : Time) : DeterministicResult :=
  let window := policy.window
  let captures := unsettledCaptures s.world scope asOf none
  let total := (captures.map fun e => e.2.netAmount).sum
  let cited := captures.take maxCitedRecords
  let arrivals := (cited.filterMap fun e => e.2.capturedAt.map fun t =>
    cal.dateText (arrivalDate window (businessDateOf cal window t))).eraseDups.insertionSort (· ≤ ·)
  { intent := .unsettledPayments
    numbers := policyNumbers window ++ [("unsettledCount", (captures.length : ℤ)), ("unsettledTotal", total)]
    dates := [("questionDate", cal.dateText questionDate), ("asOf", isoformat asOf)] ++
      (arrivals.head?.map fun a => ("expectedArrival", a)).toList
    calculationSteps := ["Selected succeeded captures in scope with no settlement item.",
      "Summed " ++ paise total ++ " across " ++ toString captures.length ++ " unsettled captures."] ++
      (if captures = [] then [] else ["Applied policy " ++ policy.publicId ++
        " to each capture: expected arrival is the business date plus T+" ++
        toString window.settlementDelayDays ++ " with weekends " ++ window.weekendHandling.text ++ "."])
    citations := [policyCitation policy] ++ cited.map captureCitation
    trace := ["query:unsettled_captures join=(settlement_items is null) filters=(scope, status=SUCCEEDED, captured_at<=as_of)"]
    requiredCitationIds := ([policy.publicId] ++
      cited.map fun e => (OperationId.capture e.1).resourcePublicId).eraseDups }

def BalanceTransaction.publicId (b : BalanceTransaction) : String :=
  "btx_" ++ match b.journal with
    | .capture p => "capture_" ++ toString p
    | .refund p r => "refund_" ++ toString (Nat.pair p r)
    | .settlement p => "settlement_" ++ toString p
    | .payout q => "payout_" ++ toString q

def deltaCitation (b : BalanceTransaction) : Citation :=
  let id := BalanceTransaction.publicId b
  ⟨"balance_transaction", id, ["pendingDelta", "availableDelta", "receivableDelta"],
    recordDigest "balance_transaction" id [("pendingDelta", .int b.pendingDelta),
      ("availableDelta", .int b.availableDelta), ("receivableDelta", .int b.receivableDelta)]⟩

def refundDeltas (w : World) (scope : QueryScope) (r : RefundRow) : List BalanceTransaction :=
  w.balanceTransactions.filter fun b => b.merchant = scope.merchant && b.type = .refund &&
    r.row.journal = some b.journal

def refundCashImpact (s : Books) (scope : QueryScope) (policy : SettlementPolicy) (questionDate : Date)
    (asOf : Time) : DeterministicResult :=
  let window := policy.window
  let zone := window.timezoneName
  let dayStart := cal.combine zone (cal.localDate zone asOf) 0
  let refunds := succeededRefunds s.world scope dayStart asOf
  let cited := refunds.take maxCitedRecords
  let deltas := cited.flatMap (refundDeltas s.world scope)
  let reducesPending := (deltas.map fun b => |b.pendingDelta|).sum
  let drawsAvailable := (deltas.map fun b => |b.availableDelta|).sum
  let createsReceivable := (deltas.map BalanceTransaction.receivableDelta).sum
  { intent := .refundImpact
    numbers := policyNumbers window ++ [("refundCount", (refunds.length : ℤ)),
      ("refundTotal", (refunds.map fun r => r.row.amount).sum),
      ("reducesPendingPayable", reducesPending), ("drawsAvailablePayable", drawsAvailable),
      ("createsReceivable", createsReceivable)]
    dates := [("questionDate", cal.dateText questionDate), ("windowStart", cal.momentText zone dayStart),
      ("windowEnd", isoformat asOf)]
    calculationSteps := ["Selected refunds that succeeded between local midnight " ++
        cal.momentText zone dayStart ++ " and " ++ isoformat asOf ++ ".",
      "Joined each refund journal to its immutable balance transaction projection.",
      "Cash impact: " ++ paise reducesPending ++ " reduced pending payable, " ++ paise drawsAvailable ++
        " drew from available payable, and " ++ paise createsReceivable ++ " created merchant receivable."]
    citations := [policyCitation policy] ++ cited.flatMap fun r =>
      refundCitation r :: (refundDeltas s.world scope r).map deltaCitation
    trace := ["query:refund_balance_impact join=(refunds, balance_transactions by journal) filters=(scope, status=SUCCEEDED, refunded_at in local day)"]
    requiredCitationIds := ([policy.publicId] ++ cited.map RefundRow.publicId).eraseDups }

def expectedArrivalTomorrow (s : Books) (scope : QueryScope) (policy : SettlementPolicy)
    (questionDate : Date) (asOf : Time) : DeterministicResult :=
  let window := policy.window
  let zone := window.timezoneName
  let businessDate := nextBusinessDate window (cal.localDate zone asOf)
  let cutoff := cutoffAt cal window businessDate
  let arrival := arrivalDate window businessDate
  let captures := unsettledCaptures s.world scope cutoff none
  let captureTotal := (captures.map fun e => e.2.amount).sum
  let refunds := (succeededRefunds s.world scope foreverStart cutoff).filter fun r =>
    r.payment ∈ captures.map Prod.fst
  let refundTotal := (refunds.map fun r => r.row.amount).sum
  let receivable := receivableBalance s.world scope asOf none
  let offset := min receivable (max 0 (captureTotal - refundTotal))
  let expected := captureTotal - refundTotal - offset
  { intent := .arrivalTomorrow
    numbers := policyNumbers window ++ [("expectedCaptureTotal", captureTotal),
      ("expectedCaptureCount", (captures.length : ℤ)), ("expectedRefundTotal", refundTotal),
      ("openReceivable", receivable), ("receivableOffsetTotal", offset), ("expectedSettlement", expected)]
    dates := [("questionDate", cal.dateText questionDate), ("businessDate", cal.dateText businessDate),
      ("cutoffAt", cal.momentText zone cutoff), ("expectedArrival", cal.dateText arrival)]
    calculationSteps := ["Tomorrow is business date " ++ cal.dateText businessDate ++ " with cutoff " ++
        cal.momentText zone cutoff ++ ".",
      "Eligible unsettled captures total " ++ paise captureTotal ++ " across " ++
        toString captures.length ++ " captures.",
      "Succeeded refunds against those captures total " ++ paise refundTotal ++ ".",
      "Open receivable of " ++ paise receivable ++ " offsets the payout by " ++ paise offset ++ ".",
      "Expected settlement: " ++ toString captureTotal ++ " - " ++ toString refundTotal ++ " - " ++
        toString offset ++ " = " ++ paise expected ++ " arriving " ++ cal.dateText arrival ++ "."]
    citations := [policyCitation policy] ++ (captures.take maxCitedRecords).map captureCitation ++
      (sliceTo refunds (maxCitedRecords - captures.length)).map refundCitation
    trace := ["query:unsettled_captures join=(settlement_items is null) filters=(scope, captured_at<=next_cutoff)"]
    requiredCitationIds := ([policy.publicId] ++ (captures.take maxCitedRecords).map fun e =>
      (OperationId.capture e.1).resourcePublicId).eraseDups }

def intentQuery : Intent → Books → QueryScope → SettlementPolicy → Date → Time → DeterministicResult
  | .settlementLower => whyLowerSettlement cal
  | .unsettledPayments => unsettledPayments cal
  | .refundImpact => refundCashImpact cal
  | .arrivalTomorrow => expectedArrivalTomorrow cal

structure ForecastFigures where
  businessDate : Date
  cutoff : Time
  captures : List (PaymentId × Capture)
  refunds : List RefundRow
  captureTotal : ℤ
  refundTotal : ℤ
  offset : ℤ
  expected : ℤ

def forecastDate (now : Time) : Date :=
  let businessDate := businessDateOf cal window now
  if cutoffAt cal window businessDate < now then nextBusinessDate window businessDate else businessDate

def forecastFigures (w : World) (scope : QueryScope) (now : Time) : ForecastFigures :=
  let businessDate := forecastDate cal window now
  let cutoff := cutoffAt cal window businessDate
  let captures := unsettledCaptures w scope cutoff none
  let captureTotal := (captures.map fun e => e.2.netAmount).sum
  let refunds := (succeededRefunds w scope foreverStart cutoff).filter fun r =>
    r.payment ∈ captures.map Prod.fst
  let refundTotal := (refunds.map fun r => r.row.amount).sum
  let receivable := receivableBalance w scope now none
  let offset := min receivable (max 0 (captureTotal - refundTotal))
  ⟨businessDate, cutoff, captures, refunds, captureTotal, refundTotal, offset, captureTotal - refundTotal - offset⟩

def forecastSnapshot (policy : SettlementPolicy) (now : Time) (f : ForecastFigures) : Json :=
  .obj [("businessDate", .str (cal.dateText f.businessDate)),
    ("cutoffAt", .str (cal.momentText policy.window.timezoneName f.cutoff)),
    ("expectedArrivalDate", .str (cal.dateText (arrivalDate policy.window f.businessDate))),
    ("policyVersion", .int policy.version),
    ("captureTotal", .int f.captureTotal),
    ("refundTotal", .int f.refundTotal),
    ("receivableOffsetTotal", .int f.offset),
    ("expectedSettlementAmount", .int f.expected),
    ("captureCount", .int f.captures.length),
    ("refundCount", .int f.refunds.length),
    ("recordedAt", .str (isoformat now))]

def SettlementForecast.carries (latest : SettlementForecast) (policy : SettlementPolicy)
    (f : ForecastFigures) : Bool :=
  latest.policyVersion = policy.version && latest.cutoffAt = f.cutoff &&
    latest.captureTotal = f.captureTotal && latest.refundTotal = f.refundTotal &&
    latest.receivableOffsetTotal = f.offset && latest.expectedSettlementAmount = f.expected &&
    latest.captureCount = f.captures.length && latest.refundCount = f.refunds.length

def forecastRow (scope : QueryScope) (policy : SettlementPolicy) (now : Time) (f : ForecastFigures)
    (sequence : ℕ) : SettlementForecast where
  merchant := scope.merchant
  policyVersion := policy.version
  createdAt := now
  businessDate := f.businessDate
  sequence := sequence
  cutoffAt := f.cutoff
  expectedArrivalDate := arrivalDate policy.window f.businessDate
  captureTotal := f.captureTotal
  refundTotal := f.refundTotal
  receivableOffsetTotal := f.offset
  expectedSettlementAmount := f.expected
  captureCount := f.captures.length
  refundCount := f.refunds.length
  snapshot := forecastSnapshot cal policy now f
  snapshotSha256 := sha256 (canonicalJsonBytes (forecastSnapshot cal policy now f))
  items := f.captures.map (fun e => .capture e.1 e.2.netAmount) ++
    f.refunds.map (fun r => .refund r.payment r.id (-r.row.amount)) ++
    if 0 < f.offset then [.receivableOffset (-f.offset)] else []

def ForecastItem.accepted : ForecastItem → Bool
  | .capture _ amount => 0 < amount
  | .refund _ _ amount => amount < 0
  | .receivableOffset amount => amount < 0

def SettlementForecast.accepted (f : SettlementForecast) (series : List SettlementForecast) : Bool :=
  0 ≤ f.captureTotal && 0 ≤ f.refundTotal && 0 ≤ f.receivableOffsetTotal &&
    f.items.all ForecastItem.accepted && series.all fun g => g.sequence ≠ f.sequence

def recordPreCutoffForecast (s : Books) (scope : QueryScope) (policy : SettlementPolicy) (now : Time) :
    Except Error (SettlementForecast × Books) :=
  let f := forecastFigures cal policy.window s.world scope now
  let latest := latestForecast s scope f.businessDate
  match latest.filter fun l => l.carries policy f with
  | some l => .ok (l, s)
  | none =>
    let series := s.forecasts.filter fun g => g.merchant = scope.merchant && g.businessDate = f.businessDate
    let item := forecastRow cal scope policy now f (series.length + 1)
    if item.accepted series then .ok (item, { s with forecasts := s.forecasts ++ [item] })
    else .error .integrity

end RelayPay.Intelligence
