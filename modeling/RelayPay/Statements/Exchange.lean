import RelayPay.Schema

/-! Provider statements: what the provider exports for a period and what the importer accepts. -/

namespace RelayPay.Statements

open ReadCommitted

inductive OperationKind where
  | authorize | capture | refund | void
  deriving DecidableEq

def OperationKind.text : OperationKind → String
  | .authorize => "AUTHORIZE"
  | .capture => "CAPTURE"
  | .refund => "REFUND"
  | .void => "VOID"

inductive ProviderStatus where
  | pending | succeeded | declined
  deriving DecidableEq

def ProviderStatus.text : ProviderStatus → String
  | .pending => "PENDING"
  | .succeeded => "SUCCEEDED"
  | .declined => "DECLINED"

structure StatementItem where
  providerItemId : String
  stableKey : String
  operationKind : OperationKind
  amount : ℤ
  currency : String
  providerStatus : ProviderStatus
  occurredAt : Time
  deriving DecidableEq

/-- `dumps` is `json.dumps` with sorted keys and without blanks; `fromisoformat` gives `none` for a `ValueError`, and no
time for a text without a timezone. -/
structure Library where
  dumps : Json → String
  loads : String → Option Json
  decode : Bytes → Option String
  csvRecords : String → Option (List (List String))
  int : String → Option ℤ
  isalpha : String → Bool
  isupper : String → Bool
  isoformat : Time → String
  fromisoformat : String → Option (Option Time)

/-- A row of `provider_effects`, with the constraints on it. `createdAt` is the database's time of the transaction,
where `completedAt` is read from the clock of the process. -/
structure ProviderEffect where
  id : String
  stableKey : String
  operationKind : OperationKind
  amount : ℤ
  currency : String
  outcome : ProviderStatus
  createdAt : Time
  completedAt : Option Time
  id_length : id.length = 36
  stableKey_ne : stableKey ≠ ""
  stableKey_length : stableKey.length ≤ 128
  amount_pos : 0 < amount
  currency_eq : currency = "INR"
  completed_iff : completedAt = none ↔ outcome = .pending

namespace ProviderEffect

def occurredAt (e : ProviderEffect) : Time := e.completedAt.getD e.createdAt

def item (e : ProviderEffect) : StatementItem :=
  ⟨e.id, e.stableKey, e.operationKind, e.amount, e.currency, e.outcome, e.occurredAt⟩

def createdIn (periodStart periodEnd : Time) (e : ProviderEffect) : Bool :=
  periodStart ≤ e.createdAt && e.createdAt < periodEnd

def upTo (e e' : ProviderEffect) : Prop :=
  e.createdAt < e'.createdAt ∨ e.createdAt = e'.createdAt ∧ e.id ≤ e'.id

instance : DecidableRel upTo := fun e e' =>
  inferInstanceAs (Decidable (e.createdAt < e'.createdAt ∨ e.createdAt = e'.createdAt ∧ e.id ≤ e'.id))

def value (lib : Library) (e : ProviderEffect) : List (String × Json) :=
  [("amount", .int e.amount), ("currency", .str e.currency),
   ("occurredAt", .str (lib.isoformat e.occurredAt)), ("operationKind", .str e.operationKind.text),
   ("providerItemId", .str e.id), ("stableKey", .str e.stableKey), ("status", .str e.outcome.text)]

end ProviderEffect

def document (lib : Library) (effects : List ProviderEffect) : Json :=
  .obj [("items", .arr (effects.map fun e => .obj (e.value lib)))]

structure StatementExport where
  periodStart : Time
  periodEnd : Time
  rawBytes : Bytes
  rawSha256 : Digest
  items : List StatementItem

structure ProviderBooks where
  effects : List ProviderEffect
  ids_nodup : (effects.map ProviderEffect.id).Nodup
  exports : Table String StatementExport

structure StatementExportResult where
  sourceReference : String
  body : Bytes
  sha256 : Digest
  itemCount : ℕ

def maxStatementBytes : ℕ := 1048576

def maxStatementItems : ℕ := 10000

def ProviderBooks.effectsIn (books : ProviderBooks) (periodStart periodEnd : Time) : List ProviderEffect :=
  (books.effects.filter (ProviderEffect.createdIn periodStart periodEnd)).insertionSort ProviderEffect.upTo

def exportStatement (lib : Library) (books : ProviderBooks) (sourceReference : String)
    (periodStart periodEnd : Time) : Except Error (ProviderBooks × StatementExportResult) :=
  if periodEnd ≤ periodStart then
    .error (relayPay "INVALID_STATEMENT_PERIOD" "Statement period end must be after its start" 422 [])
  else match books.exports.get sourceReference with
    | some existing =>
      .ok (books, ⟨sourceReference, existing.rawBytes, existing.rawSha256, existing.items.length⟩)
    | none =>
      let effects := books.effectsIn periodStart periodEnd
      let body := encode (lib.dumps (document lib effects))
      -- the check on the length of `raw_bytes`
      if body = [] ∨ maxStatementBytes < body.length then .error .integrity
      else
        let row := ⟨periodStart, periodEnd, body, sha256 body, effects.map ProviderEffect.item⟩
        .ok ({ books with exports := books.exports.put sourceReference row },
          ⟨sourceReference, body, sha256 body, effects.length⟩)

def invalidStatement (message : String) : Error := relayPay "INVALID_STATEMENT" message 422 []

def refuse (c : Prop) [Decidable c] (e : Error) : Except Error Unit := if c then .error e else .ok ()

@[simp] lemma refuse_eq_ok {c : Prop} [Decidable c] {e : Error} {u : Unit} : refuse c e = .ok u ↔ ¬c := by
  unfold refuse
  split <;> simp_all

lemma refuse_of_not {c : Prop} [Decidable c] {e : Error} (h : ¬c) : refuse c e = .ok () := if_neg h

def fieldNames : List String :=
  ["providerItemId", "stableKey", "operationKind", "amount", "currency", "status", "occurredAt"]

abbrev StatementRow := List (String × Json)

def requiredText (row : StatementRow) (field : String) (maxLength : ℕ) : Except Error String :=
  match (Json.obj row).get? field with
  | some (.str value) =>
    if value = "" ∨ maxLength < value.length then
      .error (invalidStatement ("Statement field " ++ field ++ " is invalid"))
    else .ok value
  | _ => .error (invalidStatement ("Statement field " ++ field ++ " is invalid"))

def replaceZ (value : String) : String :=
  String.join (value.toList.map fun c => if c = 'Z' then "+00:00" else c.toString)

def parseTime (lib : Library) : Option Json → Except Error Time
  | some (.str value) =>
    match lib.fromisoformat (replaceZ value) with
    | none => .error (invalidStatement "Statement field occurredAt is invalid")
    | some none => .error (invalidStatement "Statement field occurredAt must include a timezone")
    | some (some t) => .ok t
  | _ => .error (invalidStatement "Statement field occurredAt is invalid")

def parseAmount (lib : Library) : Option Json → Except Error ℤ
  | some (.str value) =>
    match lib.int value with
    | some n => .ok n
    | none => .error (invalidStatement "Statement field amount is invalid")
  | some (.int n) => .ok n
  | _ => .error (invalidStatement "Statement field amount is invalid")

def kindOf (text : String) : Except Error OperationKind :=
  if text = "AUTHORIZE" then .ok .authorize
  else if text = "CAPTURE" then .ok .capture
  else if text = "REFUND" then .ok .refund
  else if text = "VOID" then .ok .void
  else .error (invalidStatement "Statement operation kind is unsupported")

def statusOf (text : String) : Except Error ProviderStatus :=
  if text = "PENDING" then .ok .pending
  else if text = "SUCCEEDED" then .ok .succeeded
  else if text = "DECLINED" then .ok .declined
  else .error (invalidStatement "Statement provider status is unsupported")

def hasFields (names : List String) : Bool :=
  names.all (fun name => name ∈ fieldNames) && fieldNames.all fun name => name ∈ names

def parseRow (lib : Library) (row : StatementRow) : Except Error StatementItem := do
  refuse (hasFields (row.map Prod.fst) = false)
    (invalidStatement "Statement item fields do not match the supported schema")
  let amount ← parseAmount lib ((Json.obj row).get? "amount")
  refuse (amount ≤ 0) (invalidStatement "Statement field amount must be positive")
  let kind ← requiredText row "operationKind" 16
  let operationKind ← kindOf kind
  let currency ← requiredText row "currency" 3
  refuse (currency.length ≠ 3 ∨ lib.isalpha currency = false ∨ lib.isupper currency = false)
    (invalidStatement "Statement currency must be an uppercase three-letter code")
  let status ← requiredText row "status" 16
  let providerStatus ← statusOf status
  let providerItemId ← requiredText row "providerItemId" 128
  let stableKey ← requiredText row "stableKey" 128
  let occurredAt ← parseTime lib ((Json.obj row).get? "occurredAt")
  pure ⟨providerItemId, stableKey, operationKind, amount, currency, providerStatus, occurredAt⟩

def objectFields : Json → Option StatementRow
  | .obj fields => some fields
  | _ => none

def jsonRows (lib : Library) (text : String) : Except Error (List StatementRow) :=
  match lib.loads text with
  | none => .error (invalidStatement "Statement JSON is malformed")
  | some (.obj fields) =>
    if fields.isEmpty || fields.any fun f => f.1 ≠ "items" then
      .error (invalidStatement "Statement JSON must contain only an items array")
    else match (Json.obj fields).get? "items" with
      | some (.arr items) =>
        match items.mapM objectFields with
        | some rows => .ok rows
        | none => .error (invalidStatement "Statement JSON items must be objects")
      | _ => .error (invalidStatement "Statement JSON items must be an array")
  | some _ => .error (invalidStatement "Statement JSON must contain only an items array")

def csvRow (names cells : List String) : StatementRow :=
  names.zip (cells.map Json.str ++ List.replicate (names.length - cells.length) .null)

def csvRows (lib : Library) (text : String) : Except Error (List StatementRow) :=
  match lib.csvRecords text with
  | none => .error (invalidStatement "Statement CSV is malformed")
  | some [] => .error (invalidStatement "Statement CSV headers do not match the supported schema")
  | some (names :: records) =>
    if !hasFields names then
      .error (invalidStatement "Statement CSV headers do not match the supported schema")
    else
      let records := records.filter fun cells => cells ≠ []
      if records.any fun cells => names.length < cells.length then
        .error (invalidStatement "Statement CSV row has too many fields")
      else .ok (records.map (csvRow names))

inductive SourceFormat where
  | csv | json
  deriving DecidableEq

def decodeStatement (lib : Library) (rawBytes : Bytes) : Except Error String :=
  match lib.decode rawBytes with
  | none => .error (invalidStatement "Statement must be UTF-8 encoded")
  | some text => .ok text

def statementRows (lib : Library) (text : String) : SourceFormat → Except Error (List StatementRow)
  | .json => jsonRows lib text
  | .csv => csvRows lib text

def parseStatement (lib : Library) (rawBytes : Bytes) (format : SourceFormat) :
    Except Error (List StatementItem) := do
  refuse (rawBytes = [] ∨ maxStatementBytes < rawBytes.length)
    (invalidStatement "Statement size is outside the supported bounds")
  let text ← decodeStatement lib rawBytes
  refuse (text.toList.any fun c => c.toNat = 0)
    (invalidStatement "Statement contains an unsupported null character")
  let rows ← statementRows lib text format
  refuse (maxStatementItems < rows.length) (invalidStatement "Statement contains too many items")
  let parsed ← rows.mapM (parseRow lib)
  refuse (¬(parsed.map StatementItem.providerItemId).Nodup)
    (invalidStatement "Statement provider item identifiers must be unique")
  pure parsed

structure StatementImport where
  sourceFormat : SourceFormat
  periodStart : Time
  periodEnd : Time
  rawBytes : Bytes
  rawSha256 : Digest
  items : List StatementItem

inductive RunStatus where
  | pending | running | completed | failed
  deriving DecidableEq

structure ReconciliationRun where
  status : RunStatus
  attemptCount : ℕ
  leaseToken : Option Token
  leaseExpiresAt : Option Time
  startedAt : Option Time
  completedAt : Option Time
  safeErrorCode : Option String

def pendingRun : ReconciliationRun := ⟨.pending, 0, none, none, none, none, none⟩

structure ImportBooks where
  environmentActive : Bool
  imports : Table String StatementImport
  runs : Table String ReconciliationRun

structure ImportRequest where
  organisationAdmin : Bool
  provider : String
  sourceReference : String
  sourceFormat : SourceFormat
  periodStart : Time
  periodEnd : Time
  rawBytes : Bytes

structure ImportResult where
  statementImport : StatementImport
  reconciliationRun : ReconciliationRun
  created : Bool

def replayImport (books : ImportBooks) (req : ImportRequest) (existing : StatementImport) :
    Except Error (ImportBooks × ImportResult) := do
  refuse (existing.rawSha256 ≠ sha256 req.rawBytes)
    (relayPay "STATEMENT_SOURCE_CONFLICT" "Statement source reference is bound to different bytes" 409 [])
  match books.runs.get req.sourceReference with
  | none => .error (.runtime "statement import is missing its reconciliation run")
  | some run => .ok (books, ⟨existing, run, false⟩)

def newImport (lib : Library) (books : ImportBooks) (req : ImportRequest) :
    Except Error (ImportBooks × ImportResult) := do
  let parsed ← parseStatement lib req.rawBytes req.sourceFormat
  refuse (∃ item ∈ parsed, item.occurredAt < req.periodStart ∨ req.periodEnd ≤ item.occurredAt)
    (invalidStatement "Statement item occurrence is outside the declared period")
  let row : StatementImport := ⟨req.sourceFormat, req.periodStart, req.periodEnd, req.rawBytes,
    sha256 req.rawBytes, parsed⟩
  pure ({ books with
      imports := books.imports.put req.sourceReference row,
      runs := books.runs.put req.sourceReference pendingRun }, ⟨row, pendingRun, true⟩)

def importStatement (lib : Library) (books : ImportBooks) (req : ImportRequest) :
    Except Error (ImportBooks × ImportResult) := do
  refuse (req.organisationAdmin = false)
    (relayPay "FORBIDDEN" "Organisation administrator permission required" 403 [])
  refuse (req.provider ≠ "PAYMENT_PROVIDER") (invalidStatement "Statement provider is unsupported")
  refuse (req.sourceReference = "" ∨ 128 < req.sourceReference.length)
    (invalidStatement "Statement source reference is invalid")
  refuse (req.periodEnd ≤ req.periodStart) (invalidStatement "Statement period is invalid")
  refuse (books.environmentActive = false) (.relayPay (notFound "Environment"))
  match books.imports.get req.sourceReference with
  | some existing => replayImport books req existing
  | none => newImport lib books req

lemma newImport_parsed {lib : Library} {books : ImportBooks} {req : ImportRequest} {items : List StatementItem}
    (hparse : parseStatement lib req.rawBytes req.sourceFormat = .ok items) :
    newImport lib books req =
      if ∃ item ∈ items, item.occurredAt < req.periodStart ∨ req.periodEnd ≤ item.occurredAt then
        .error (invalidStatement "Statement item occurrence is outside the declared period")
      else
        let row : StatementImport := ⟨req.sourceFormat, req.periodStart, req.periodEnd, req.rawBytes,
          sha256 req.rawBytes, items⟩
        .ok ({ books with
            imports := books.imports.put req.sourceReference row,
            runs := books.runs.put req.sourceReference pendingRun }, ⟨row, pendingRun, true⟩) := by
  unfold newImport refuse
  rw [hparse]
  by_cases hout : ∃ item ∈ items, item.occurredAt < req.periodStart ∨ req.periodEnd ≤ item.occurredAt
  · simp only [bind, Except.bind, if_pos hout]
  · simp only [bind, Except.bind, pure, Except.pure, if_neg hout]

lemma parseStatement_nodup {lib : Library} {rawBytes : Bytes} {format : SourceFormat}
    {items : List StatementItem} (h : parseStatement lib rawBytes format = .ok items) :
    (items.map StatementItem.providerItemId).Nodup := by
  simp only [parseStatement, bind_eq_ok, refuse_eq_ok] at h
  obtain ⟨-, -, text, -, -, -, rows, -, -, -, parsed, -, -, hnodup, hitems⟩ := h
  cases hitems
  exact not_not.1 hnodup

lemma importStatement_created {lib : Library} {books books' : ImportBooks} {req : ImportRequest}
    {result : ImportResult} (h : importStatement lib books req = .ok (books', result))
    (hcreated : result.created = true) : books.imports.get req.sourceReference = none ∧
      result.reconciliationRun = pendingRun ∧
      (result.statementImport.items.map StatementItem.providerItemId).Nodup := by
  simp only [importStatement, bind_eq_ok] at h
  obtain ⟨-, -, -, -, -, -, -, -, -, -, h⟩ := h
  split at h
  · simp only [replayImport, bind_eq_ok] at h
    obtain ⟨-, -, h⟩ := h
    split at h
    · cases h
    · cases h
      cases hcreated
  · next hnone =>
    simp only [newImport, bind_eq_ok] at h
    obtain ⟨items, hparse, -, -, h⟩ := h
    cases h
    exact ⟨hnone, rfl, parseStatement_nodup hparse⟩

structure Library.ReadsBack (lib : Library) (doc : Json) : Prop where
  decode : lib.decode (encode (lib.dumps doc)) = some (lib.dumps doc)
  noNull : ∀ c ∈ (lib.dumps doc).toList, c.toNat ≠ 0
  loads : lib.loads (lib.dumps doc) = some doc

structure Library.Lawful (lib : Library) : Prop where
  time : ∀ t, lib.fromisoformat (replaceZ (lib.isoformat t)) = some (some t)
  alpha : lib.isalpha "INR" = true
  upper : lib.isupper "INR" = true

section RoundTrip

variable {lib : Library}

lemma kindOf_text (k : OperationKind) : kindOf k.text = .ok k := by
  cases k <;> rfl

lemma statusOf_text (s : ProviderStatus) : statusOf s.text = .ok s := by
  cases s <;> rfl

lemma requiredText_str {row : StatementRow} {field value : String} {n : ℕ}
    (hget : (Json.obj row).get? field = some (.str value)) (hne : value ≠ "") (hlength : value.length ≤ n) :
    requiredText row field n = .ok value := by
  unfold requiredText
  rw [hget]
  exact if_neg (by rintro (h | h); exacts [hne h, by omega])

lemma parseRow_value (hlib : lib.Lawful) (e : ProviderEffect) : parseRow lib (e.value lib) = .ok e.item := by
  have hfields : hasFields ((e.value lib).map Prod.fst) = true := by rfl
  have hkind : requiredText (e.value lib) "operationKind" 16 = .ok e.operationKind.text :=
    requiredText_str rfl (by cases e.operationKind <;> decide) (by cases e.operationKind <;> decide)
  have hstatus : requiredText (e.value lib) "status" 16 = .ok e.outcome.text :=
    requiredText_str rfl (by cases e.outcome <;> decide) (by cases e.outcome <;> decide)
  have hcurrency : requiredText (e.value lib) "currency" 3 = .ok "INR" := by
    refine requiredText_str ?_ (by decide) (by decide)
    rw [← e.currency_eq]
    rfl
  have hid : requiredText (e.value lib) "providerItemId" 128 = .ok e.id := by
    refine requiredText_str rfl ?_ (by rw [e.id_length]; decide)
    intro hempty
    have hlength := e.id_length
    simp [hempty] at hlength
  have hkey : requiredText (e.value lib) "stableKey" 128 = .ok e.stableKey :=
    requiredText_str rfl e.stableKey_ne e.stableKey_length
  have htime : parseTime lib ((Json.obj (e.value lib)).get? "occurredAt") = .ok e.occurredAt := by
    have hget : (Json.obj (e.value lib)).get? "occurredAt" = some (.str (lib.isoformat e.occurredAt)) := rfl
    rw [hget]
    simp only [parseTime, hlib.time]
  have hamount : parseAmount lib ((Json.obj (e.value lib)).get? "amount") = .ok e.amount := rfl
  have hpos : ¬e.amount ≤ 0 := not_le.2 e.amount_pos
  have hthree : "INR".length = 3 := rfl
  simp [parseRow, refuse, hfields, hkind, hstatus, hcurrency, hid, hkey, htime, hamount, hpos, hthree,
    kindOf_text, statusOf_text, hlib.alpha, hlib.upper, bind, Except.bind, pure, Except.pure,
    ProviderEffect.item, e.currency_eq]

lemma mapM_values (hlib : lib.Lawful) (effects : List ProviderEffect) :
    (effects.map fun e => e.value lib).mapM (parseRow lib) = .ok (effects.map ProviderEffect.item) := by
  induction effects with
  | nil => rfl
  | cons e rest ih =>
    rw [List.map_cons, List.mapM_cons, parseRow_value hlib, ih]
    rfl

lemma mapM_objectFields (rows : List StatementRow) : (rows.map Json.obj).mapM objectFields = some rows := by
  induction rows with
  | nil => rfl
  | cons row rest ih =>
    rw [List.map_cons, List.mapM_cons, ih]
    rfl

lemma jsonRows_document {effects : List ProviderEffect} (hback : lib.ReadsBack (document lib effects)) :
    jsonRows lib (lib.dumps (document lib effects)) = .ok (effects.map fun e => e.value lib) := by
  unfold jsonRows
  rw [hback.loads]
  have hget : (Json.obj [("items", .arr (effects.map fun e => .obj (e.value lib)))]).get? "items" =
      some (.arr (effects.map fun e => .obj (e.value lib))) := rfl
  have hrows : (effects.map fun e => Json.obj (e.value lib)).mapM objectFields =
      some (effects.map fun e => e.value lib) := by
    rw [← mapM_objectFields, List.map_map]
    rfl
  simp only [document, hget, hrows]
  rfl

lemma parseStatement_document {effects : List ProviderEffect} (hlib : lib.Lawful)
    (hback : lib.ReadsBack (document lib effects)) (hids : (effects.map ProviderEffect.id).Nodup)
    (hne : encode (lib.dumps (document lib effects)) ≠ [])
    (hbytes : (encode (lib.dumps (document lib effects))).length ≤ maxStatementBytes)
    (hitems : effects.length ≤ maxStatementItems) :
    parseStatement lib (encode (lib.dumps (document lib effects))) .json =
      .ok (effects.map ProviderEffect.item) := by
  have hnodup : ((effects.map ProviderEffect.item).map StatementItem.providerItemId).Nodup := by
    rw [List.map_map]
    exact hids
  have hnull : ¬((lib.dumps (document lib effects)).toList.any fun c => c.toNat = 0) = true := by
    intro hany
    obtain ⟨c, hc, hzero⟩ := List.any_eq_true.1 hany
    exact hback.noNull c hc (of_decide_eq_true hzero)
  have hrows : (effects.map fun e => e.value lib).length ≤ maxStatementItems := by
    rwa [List.length_map]
  unfold parseStatement decodeStatement
  rw [refuse_of_not (by rintro (h | h); exacts [hne h, absurd h (not_lt.2 hbytes)]), hback.decode]
  simp only [bind, Except.bind, refuse_of_not hnull, statementRows, jsonRows_document hback,
    refuse_of_not (not_lt.2 hrows), mapM_values hlib, refuse_of_not (not_not.2 hnodup)]
  rfl

lemma effectsIn_perm (books : ProviderBooks) (periodStart periodEnd : Time) :
    (books.effectsIn periodStart periodEnd).Perm
      (books.effects.filter (ProviderEffect.createdIn periodStart periodEnd)) :=
  List.perm_insertionSort _ _

lemma exportStatement_new {books books' : ProviderBooks} {sourceReference : String}
    {periodStart periodEnd : Time} {result : StatementExportResult} (hnew : books.exports.get sourceReference = none)
    (h : exportStatement lib books sourceReference periodStart periodEnd = .ok (books', result)) :
    periodStart < periodEnd ∧ result.body = encode (lib.dumps (document lib (books.effectsIn periodStart periodEnd))) ∧
      result.body ≠ [] ∧ result.body.length ≤ maxStatementBytes ∧
      result.itemCount = (books.effectsIn periodStart periodEnd).length := by
  unfold exportStatement at h
  rw [hnew] at h
  split at h
  · cases h
  · next hperiod =>
    dsimp only at h
    split at h
    · cases h
    · next hsize =>
      cases h
      rw [not_or, not_lt] at hsize
      exact ⟨not_le.1 hperiod, rfl, hsize.1, hsize.2, rfl⟩

def handOn (sourceReference : String) (periodStart periodEnd : Time) (result : StatementExportResult) :
    ImportRequest :=
  ⟨true, "PAYMENT_PROVIDER", sourceReference, .json, periodStart, periodEnd, result.body⟩

end RoundTrip

section Exported

variable {lib : Library} {books books' : ProviderBooks} {sourceReference : String} {periodStart periodEnd : Time}
  {result : StatementExportResult} {imports : ImportBooks} (hlib : lib.Lawful)
  (hback : lib.ReadsBack (document lib (books.effectsIn periodStart periodEnd)))
  (hnew : books.exports.get sourceReference = none)
  (hexport : exportStatement lib books sourceReference periodStart periodEnd = .ok (books', result))
  (hitems : result.itemCount ≤ maxStatementItems) (hactive : imports.environmentActive = true)
  (hunused : imports.imports.get sourceReference = none) (hne : sourceReference ≠ "")
  (hlength : sourceReference.length ≤ 128)

include hlib hback hnew hexport hitems hactive hunused hne hlength

lemma importStatement_exported : importStatement lib imports (handOn sourceReference periodStart periodEnd result) =
      if ∃ e ∈ books.effectsIn periodStart periodEnd, e.occurredAt < periodStart ∨ periodEnd ≤ e.occurredAt then
        .error (invalidStatement "Statement item occurrence is outside the declared period")
      else
        let row : StatementImport := ⟨.json, periodStart, periodEnd, result.body, sha256 result.body,
          (books.effectsIn periodStart periodEnd).map ProviderEffect.item⟩
        .ok ({ imports with
            imports := imports.imports.put sourceReference row,
            runs := imports.runs.put sourceReference pendingRun }, ⟨row, pendingRun, true⟩) := by
  obtain ⟨hperiod, hbody, hbodyNe, hbytes, hcount⟩ := exportStatement_new hnew hexport
  have hids : ((books.effectsIn periodStart periodEnd).map ProviderEffect.id).Nodup := by
    have hperm := (effectsIn_perm books periodStart periodEnd).map ProviderEffect.id
    rw [hperm.nodup_iff]
    exact books.ids_nodup.sublist (List.filter_sublist.map _)
  have hparse : parseStatement lib result.body .json =
      .ok ((books.effectsIn periodStart periodEnd).map ProviderEffect.item) := by
    rw [hbody] at hbodyNe hbytes ⊢
    exact parseStatement_document hlib hback hids hbodyNe hbytes (hcount ▸ hitems)
  have hin : importStatement lib imports (handOn sourceReference periodStart periodEnd result) =
      newImport lib imports (handOn sourceReference periodStart periodEnd result) := by
    simp [importStatement, refuse, handOn, hne, not_lt.2 hlength, not_le.2 hperiod, hactive, hunused, bind, Except.bind]
  have hiff : (∃ item ∈ (books.effectsIn periodStart periodEnd).map ProviderEffect.item,
      item.occurredAt < periodStart ∨ periodEnd ≤ item.occurredAt) ↔
      ∃ e ∈ books.effectsIn periodStart periodEnd, e.occurredAt < periodStart ∨ periodEnd ≤ e.occurredAt := by
    simp [ProviderEffect.item]
  rw [hin, newImport_parsed hparse]
  exact if_congr hiff rfl rfl

end Exported

def plainLibrary (doc : Json) : Library where
  dumps _ := "statement"
  loads _ := some doc
  decode _ := some "statement"
  csvRecords _ := none
  int _ := none
  isalpha s := s.toList.all Char.isAlpha
  isupper s := s.toList.all Char.isUpper
  isoformat t := String.ofList (List.replicate t 'x')
  fromisoformat s := some (some s.length)

lemma plainLibrary_readsBack (doc : Json) : (plainLibrary doc).ReadsBack doc where
  decode := rfl
  noNull := by
    have hall : "statement".toList.all (fun c => c.toNat ≠ 0) = true := by decide
    intro c hc
    exact of_decide_eq_true (List.all_eq_true.1 hall c hc)
  loads := rfl

lemma plainLibrary_lawful (doc : Json) : (plainLibrary doc).Lawful where
  time := by
    intro t
    have hjoin : replaceZ (String.ofList (List.replicate t 'x')) = String.ofList (List.replicate t 'x') := by
      simp only [replaceZ, String.toList_ofList, List.map_replicate]
      induction t with
      | zero => rfl
      | succ n ih =>
        rw [List.replicate_succ, String.join_cons, ih, List.replicate_succ, String.ofList_cons]
        rfl
    simp [plainLibrary, hjoin]
  alpha := by rfl
  upper := by rfl

def lateEffect (completedAt : Time) : ProviderEffect where
  id := "0197b0a0-0000-7000-8000-000000000001"
  stableKey := "capture:pay_1"
  operationKind := .capture
  amount := 10000
  currency := "INR"
  outcome := .succeeded
  createdAt := 9
  completedAt := some completedAt
  id_length := by rfl
  stableKey_ne := by decide
  stableKey_length := by decide
  amount_pos := by decide
  currency_eq := rfl
  completed_iff := by simp

def lateBooks (completedAt : Time) : ProviderBooks where
  effects := [lateEffect completedAt]
  ids_nodup := List.nodup_singleton _
  exports := .empty

def lateLibrary (completedAt : Time) : Library :=
  plainLibrary (.obj [("items", .arr [.obj ((lateEffect completedAt).value (plainLibrary .null))])])

lemma late_document (completedAt : Time) :
    document (lateLibrary completedAt) ((lateBooks completedAt).effectsIn 0 10) =
      .obj [("items", .arr [.obj ((lateEffect completedAt).value (plainLibrary .null))])] := rfl

def lateResult : StatementExportResult :=
  ⟨"psp-1", encode "statement", sha256 (encode "statement"), 1⟩

def lateExported (completedAt : Time) : ProviderBooks :=
  let row := ⟨0, 10, encode "statement", sha256 (encode "statement"), [(lateEffect completedAt).item]⟩
  { lateBooks completedAt with exports := (lateBooks completedAt).exports.put "psp-1" row }

def noImports : ImportBooks := ⟨true, .empty, .empty⟩

end RelayPay.Statements
