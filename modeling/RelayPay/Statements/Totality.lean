import RelayPay.Statements.Exchange
import RelayPay.Codec.JsonCanonical
import RelayPay.Codec.JsonDumps
import Mathlib.Data.List.Forall2

namespace RelayPay.Statements

/-- The exceptions of `json.loads` other than `JSONDecodeError`: an integer of too many digits, and nesting beyond the
recursion limit. -/
inductive Uncaught where
  | valueError | recursionError
  deriving DecidableEq

inductive Loaded where
  | value (document : Json)
  | malformed
  | raised (e : Uncaught)

inductive Failure where
  | relayPay (e : Error)
  | uncaught (e : Uncaught)

def refusing {α : Type} : Except Error α → Except Failure α := Except.mapError .relayPay

variable (lib : Library) (loads : String → Loaded)

def statementRowsOf (text : String) : SourceFormat → Except Failure (List StatementRow)
  | .json =>
    match loads text with
    | .raised e => .error (.uncaught e)
    | .malformed => refusing (jsonRows { lib with loads := fun _ => none } text)
    | .value document => refusing (jsonRows { lib with loads := fun _ => some document } text)
  | .csv => refusing (csvRows lib text)

def admitText (rawBytes : Bytes) : Except Error String := do
  refuse (rawBytes = [] ∨ maxStatementBytes < rawBytes.length)
    (invalidStatement "Statement size is outside the supported bounds")
  let text ← decodeStatement lib rawBytes
  refuse (text.toList.any fun c => c.toNat = 0)
    (invalidStatement "Statement contains an unsupported null character")
  pure text

def parseItems (rows : List StatementRow) : Except Error (List StatementItem) := do
  refuse (maxStatementItems < rows.length) (invalidStatement "Statement contains too many items")
  let parsed ← rows.mapM (parseRow lib)
  refuse (¬(parsed.map StatementItem.providerItemId).Nodup)
    (invalidStatement "Statement provider item identifiers must be unique")
  pure parsed

def parseStatementOf (rawBytes : Bytes) (format : SourceFormat) : Except Failure (List StatementItem) := do
  let text ← refusing (admitText lib rawBytes)
  let rows ← statementRowsOf lib loads text format
  refusing (parseItems lib rows)

lemma parseStatementOf_eq (hloads : ∀ text, loads text = (lib.loads text).elim .malformed .value)
    (rawBytes : Bytes) (format : SourceFormat) :
    parseStatementOf lib loads rawBytes format = refusing (parseStatement lib rawBytes format) := by
  have hrows : ∀ text, statementRowsOf lib loads text format = refusing (statementRows lib text format) := by
    intro text
    cases format with
    | csv => rfl
    | json =>
      simp only [statementRowsOf, statementRows, hloads]
      cases hload : lib.loads text <;> simp only [Option.elim, jsonRows, hload]
  simp only [parseStatementOf, parseStatement, hrows, admitText, parseItems]
  cases refuse (rawBytes = [] ∨ maxStatementBytes < rawBytes.length)
    (invalidStatement "Statement size is outside the supported bounds") with
  | error e => rfl
  | ok _ =>
    cases decodeStatement lib rawBytes with
    | error e => rfl
    | ok text =>
      simp only [bind, Except.bind]
      cases refuse (text.toList.any fun c => c.toNat = 0)
        (invalidStatement "Statement contains an unsupported null character") with
      | error e => rfl
      | ok _ =>
        simp only [pure, Except.pure, refusing, Except.mapError]
        cases statementRows lib text format <;> rfl

inductive AmountReads : Option Json → ℤ → Prop where
  | text {value : String} {n : ℤ} : lib.int value = some n → AmountReads (some (.str value)) n
  | number {n : ℤ} : AmountReads (some (.int n)) n

structure RowReads (row : StatementRow) (item : StatementItem) : Prop where
  fields : hasFields (row.map Prod.fst) = true
  amount : AmountReads lib ((Json.obj row).get? "amount") item.amount
  positive : 0 < item.amount
  kind : (Json.obj row).get? "operationKind" = some (.str item.operationKind.text)
  currency : (Json.obj row).get? "currency" = some (.str item.currency)
  code : item.currency.length = 3 ∧ lib.isalpha item.currency = true ∧ lib.isupper item.currency = true
  status : (Json.obj row).get? "status" = some (.str item.providerStatus.text)
  id : (Json.obj row).get? "providerItemId" = some (.str item.providerItemId)
  idBounds : item.providerItemId ≠ "" ∧ item.providerItemId.length ≤ 128
  key : (Json.obj row).get? "stableKey" = some (.str item.stableKey)
  keyBounds : item.stableKey ≠ "" ∧ item.stableKey.length ≤ 128
  time : ∃ value, (Json.obj row).get? "occurredAt" = some (.str value) ∧
    lib.fromisoformat (replaceZ value) = some (some item.occurredAt)

inductive StatesRows (text : String) : SourceFormat → List StatementRow → Prop where
  | json {fields : List (String × Json)} {rows : List StatementRow} (hloads : loads text = .value (.obj fields))
      (hne : fields ≠ []) (honly : ∀ f ∈ fields, f.1 = "items")
      (hitems : (Json.obj fields).get? "items" = some (.arr (rows.map .obj))) : StatesRows text .json rows
  | csv {names : List String} {records : List (List String)} (hread : lib.csvRecords text = some (names :: records))
      (hnames : hasFields names = true) (hcells : ∀ cells ∈ records, cells.length ≤ names.length) :
      StatesRows text .csv ((records.filter fun cells => cells ≠ []).map (csvRow names))

structure Admits (rawBytes : Bytes) (text : String) : Prop where
  nonempty : rawBytes ≠ []
  bounded : rawBytes.length ≤ maxStatementBytes
  decoded : lib.decode rawBytes = some text
  noNull : ∀ c ∈ text.toList, c.toNat ≠ 0

structure StatementReads (rawBytes : Bytes) (format : SourceFormat) (items : List StatementItem) : Prop where
  reads : ∃ text rows, Admits lib rawBytes text ∧ StatesRows lib loads text format rows ∧
    rows.length ≤ maxStatementItems ∧ List.Forall₂ (RowReads lib) rows items
  unique : (items.map StatementItem.providerItemId).Nodup

structure Storable (items : List StatementItem) : Prop where
  unique : (items.map StatementItem.providerItemId).Nodup
  amounts : ∀ item ∈ items, 0 < item.amount ∧ item.amount ≤ 2 ^ 63 - 1
  ids : ∀ item ∈ items, item.providerItemId ≠ "" ∧ item.providerItemId.length ≤ 128
  keys : ∀ item ∈ items, item.stableKey ≠ "" ∧ item.stableKey.length ≤ 128

def Refuses {α : Type} (x : Except Error α) : Prop := ∀ e, x = .error e → ∃ message, e = invalidStatement message

section Refuses

variable {α β : Type}

lemma refuses_ok (a : α) : Refuses (.ok a) := by
  intro e h
  cases h

lemma refuses_error (message : String) : Refuses (.error (invalidStatement message) : Except Error α) := by
  intro e h
  cases h
  exact ⟨message, rfl⟩

lemma refuses_refuse (c : Prop) [Decidable c] (message : String) : Refuses (refuse c (invalidStatement message)) := by
  unfold refuse
  split_ifs
  · exact refuses_error message
  · exact refuses_ok ()

lemma Refuses.bind {x : Except Error α} {f : α → Except Error β} (hx : Refuses x) (hf : ∀ a, Refuses (f a)) :
    Refuses (x >>= f) := by
  cases x with
  | error e =>
    intro e' h
    cases h
    exact hx e rfl
  | ok a => exact hf a

lemma Refuses.mapM {f : α → Except Error β} (hf : ∀ a, Refuses (f a)) (xs : List α) : Refuses (xs.mapM f) := by
  induction xs with
  | nil => exact refuses_ok []
  | cons x xs ih =>
    rw [List.mapM_cons]
    exact (hf x).bind fun y => ih.bind fun ys => refuses_ok _

end Refuses

variable {lib loads}

lemma requiredText_refuses (row : StatementRow) (field : String) (n : ℕ) : Refuses (requiredText row field n) := by
  unfold requiredText
  split
  · split_ifs
    · exact refuses_error _
    · exact refuses_ok _
  · exact refuses_error _

lemma requiredText_eq_ok {row : StatementRow} {field value : String} {n : ℕ} :
    requiredText row field n = .ok value ↔
      (Json.obj row).get? field = some (.str value) ∧ value ≠ "" ∧ value.length ≤ n := by
  constructor
  · intro h
    unfold requiredText at h
    split at h
    · next text hget =>
      split_ifs at h with hbad
      cases h
      rw [not_or, not_lt] at hbad
      exact ⟨hget, hbad⟩
    · cases h
  · rintro ⟨hget, hne, hlength⟩
    exact requiredText_str hget hne hlength

lemma kindOf_refuses (text : String) : Refuses (kindOf text) := by
  unfold kindOf
  split_ifs
  · exact refuses_ok _
  · exact refuses_ok _
  · exact refuses_ok _
  · exact refuses_ok _
  · exact refuses_error _

variable {text : String}

lemma kindOf_eq_ok {k : OperationKind} : kindOf text = .ok k ↔ text = k.text := by
  constructor
  · intro h
    unfold kindOf at h
    split_ifs at h with h1 h2 h3 h4 <;> cases h <;> assumption
  · rintro rfl
    exact kindOf_text k

lemma statusOf_refuses (text : String) : Refuses (statusOf text) := by
  unfold statusOf
  split_ifs
  · exact refuses_ok _
  · exact refuses_ok _
  · exact refuses_ok _
  · exact refuses_error _

lemma statusOf_eq_ok {s : ProviderStatus} : statusOf text = .ok s ↔ text = s.text := by
  constructor
  · intro h
    unfold statusOf at h
    split_ifs at h with h1 h2 h3 <;> cases h <;> assumption
  · rintro rfl
    exact statusOf_text s

lemma parseTime_refuses (value : Option Json) : Refuses (parseTime lib value) := by
  unfold parseTime
  split
  · split
    · exact refuses_error _
    · exact refuses_error _
    · exact refuses_ok _
  · exact refuses_error _

lemma parseTime_eq_ok {value : Option Json} {t : Time} : parseTime lib value = .ok t ↔
    ∃ text, value = some (.str text) ∧ lib.fromisoformat (replaceZ text) = some (some t) := by
  constructor
  · intro h
    unfold parseTime at h
    split at h
    · next text =>
      split at h
      · cases h
      · cases h
      · next hread =>
        cases h
        exact ⟨text, rfl, hread⟩
    · cases h
  · rintro ⟨text, rfl, hread⟩
    simp only [parseTime, hread]

lemma parseAmount_refuses (value : Option Json) : Refuses (parseAmount lib value) := by
  unfold parseAmount
  split
  · split
    · exact refuses_ok _
    · exact refuses_error _
  · exact refuses_ok _
  · exact refuses_error _

lemma parseAmount_eq_ok {value : Option Json} {n : ℤ} : parseAmount lib value = .ok n ↔ AmountReads lib value n := by
  constructor
  · intro h
    unfold parseAmount at h
    split at h
    · split at h
      · next hread =>
        cases h
        exact .text hread
      · cases h
    · cases h
      exact .number
    · cases h
  · rintro (hread | _)
    · simp only [parseAmount, hread]
    · rfl

lemma parseRow_refuses (row : StatementRow) : Refuses (parseRow lib row) := by
  unfold parseRow
  refine (refuses_refuse _ _).bind fun _ => (parseAmount_refuses _).bind fun _ => (refuses_refuse _ _).bind fun _ =>
    (requiredText_refuses _ _ _).bind fun _ => (kindOf_refuses _).bind fun _ =>
    (requiredText_refuses _ _ _).bind fun _ => (refuses_refuse _ _).bind fun _ =>
    (requiredText_refuses _ _ _).bind fun _ => (statusOf_refuses _).bind fun _ =>
    (requiredText_refuses _ _ _).bind fun _ => (requiredText_refuses _ _ _).bind fun _ =>
    (parseTime_refuses _).bind fun _ => refuses_ok _

lemma parseRow_eq_ok {row : StatementRow} {item : StatementItem} :
    parseRow lib row = .ok item ↔ RowReads lib row item := by
  constructor
  · intro h
    simp only [parseRow, bind_eq_ok, refuse_eq_ok, requiredText_eq_ok, kindOf_eq_ok, statusOf_eq_ok, parseTime_eq_ok,
      parseAmount_eq_ok] at h
    obtain ⟨-, hfields, amount, hamount, -, hpositive, _, ⟨hkind, -⟩, kind, rfl, currency, ⟨hcurrency, -⟩, -, hcode, _,
      ⟨hstatus, -⟩, status, rfl, id, ⟨hid, hidBounds⟩, key, ⟨hkey, hkeyBounds⟩, t, htime, hitem⟩ := h
    cases hitem
    simp only [not_or, not_not, Bool.not_eq_false] at hcode hfields
    exact ⟨hfields, hamount, not_le.1 hpositive, hkind, hcurrency, hcode, hstatus, hid, hidBounds, hkey, hkeyBounds,
      htime⟩
  · intro h
    have hthree : item.currency ≠ "" := by
      intro hempty
      have hlength := h.code.1
      rw [hempty] at hlength
      cases hlength
    simp only [parseRow, bind_eq_ok, refuse_eq_ok, requiredText_eq_ok, kindOf_eq_ok, statusOf_eq_ok, parseTime_eq_ok,
      parseAmount_eq_ok]
    refine ⟨(), by simp [h.fields], item.amount, h.amount, (), not_le.2 h.positive, _, ⟨h.kind, ?_, ?_⟩, _, rfl, _,
      ⟨h.currency, hthree, h.code.1.le⟩, (), by simp [h.code], _, ⟨h.status, ?_, ?_⟩, _, rfl, _, ⟨h.id, h.idBounds⟩, _,
      ⟨h.key, h.keyBounds⟩, _, h.time, rfl⟩
    · cases item.operationKind <;> decide
    · cases item.operationKind <;> decide
    · cases item.providerStatus <;> decide
    · cases item.providerStatus <;> decide

lemma mapM_eq_ok {α β : Type} {f : α → Except Error β} {R : α → β → Prop} (hf : ∀ a b, f a = .ok b ↔ R a b)
    {xs : List α} {ys : List β} : xs.mapM f = .ok ys ↔ List.Forall₂ R xs ys := by
  induction xs generalizing ys with
  | nil =>
    rw [List.mapM_nil, List.forall₂_nil_left_iff]
    exact ⟨fun h => by cases h; rfl, fun h => by rw [h]; rfl⟩
  | cons x xs ih =>
    simp only [List.mapM_cons, bind_eq_ok, hf, ih]
    constructor
    · rintro ⟨y, hy, zs, hzs, h⟩
      cases h
      exact .cons hy hzs
    · intro h
      cases h with
      | cons hy hzs => exact ⟨_, hy, _, hzs, rfl⟩

lemma parseItems_refuses (rows : List StatementRow) : Refuses (parseItems lib rows) :=
  (refuses_refuse _ _).bind fun _ => (Refuses.mapM parseRow_refuses rows).bind fun _ =>
    (refuses_refuse _ _).bind fun _ => refuses_ok _

variable {rows : List StatementRow} {items : List StatementItem}

lemma parseItems_eq_ok : parseItems lib rows = .ok items ↔
    rows.length ≤ maxStatementItems ∧ List.Forall₂ (RowReads lib) rows items ∧
      (items.map StatementItem.providerItemId).Nodup := by
  simp only [parseItems, bind_eq_ok, refuse_eq_ok, mapM_eq_ok fun _ _ => parseRow_eq_ok]
  constructor
  · rintro ⟨-, hfew, parsed, hreads, -, hunique, h⟩
    cases h
    exact ⟨not_lt.1 hfew, hreads, not_not.1 hunique⟩
  · rintro ⟨hfew, hreads, hunique⟩
    exact ⟨(), not_lt.2 hfew, items, hreads, (), not_not.2 hunique, rfl⟩

lemma admitText_refuses (rawBytes : Bytes) : Refuses (admitText lib rawBytes) := by
  refine (refuses_refuse _ _).bind fun _ => Refuses.bind ?_ fun _ => (refuses_refuse _ _).bind fun _ => refuses_ok _
  unfold decodeStatement
  split
  · exact refuses_error _
  · exact refuses_ok _

variable {rawBytes : Bytes}

lemma admitText_eq_ok : admitText lib rawBytes = .ok text ↔ Admits lib rawBytes text := by
  have hdecode : ∀ t, decodeStatement lib rawBytes = .ok t ↔ lib.decode rawBytes = some t := by
    intro t
    unfold decodeStatement
    split <;> simp_all
  simp only [admitText, bind_eq_ok, refuse_eq_ok, hdecode]
  constructor
  · rintro ⟨-, hsize, text, hdecoded, -, hnull, h⟩
    cases h
    rw [not_or, not_lt] at hsize
    refine ⟨hsize.1, hsize.2, hdecoded, fun c hc hzero => hnull ?_⟩
    exact List.any_eq_true.2 ⟨c, hc, by simp [hzero]⟩
  · intro h
    refine ⟨(), ?_, text, h.decoded, (), ?_, rfl⟩
    · rw [not_or, not_lt]
      exact ⟨h.nonempty, h.bounded⟩
    · intro hnull
      obtain ⟨c, hc, hzero⟩ := List.any_eq_true.1 hnull
      exact h.noNull c hc (of_decide_eq_true hzero)

lemma mapM_objectFields_eq {items : List Json} : items.mapM objectFields = some rows ↔ items = rows.map .obj := by
  constructor
  · intro h
    induction items generalizing rows with
    | nil =>
      cases h
      rfl
    | cons item items ih =>
      rw [List.mapM_cons] at h
      cases item with
      | obj fields =>
        cases hrest : items.mapM objectFields with
        | none =>
          rw [hrest] at h
          cases h
        | some rest =>
          rw [hrest] at h
          cases h
          rw [List.map_cons, ih hrest]
      | _ => cases h
  · rintro rfl
    exact mapM_objectFields rows

lemma jsonRows_refuses (lib : Library) (text : String) : Refuses (jsonRows lib text) := by
  unfold jsonRows
  split
  · exact refuses_error _
  · split_ifs
    · exact refuses_error _
    · split
      · split
        · exact refuses_ok _
        · exact refuses_error _
      · exact refuses_error _
  · exact refuses_error _

lemma jsonRows_eq_ok : jsonRows lib text = .ok rows ↔
    ∃ fields, lib.loads text = some (.obj fields) ∧ fields ≠ [] ∧ (∀ f ∈ fields, f.1 = "items") ∧
      (Json.obj fields).get? "items" = some (.arr (rows.map .obj)) := by
  constructor
  · intro h
    unfold jsonRows at h
    split at h
    · cases h
    · next fields hload =>
      split_ifs at h with hbad
      split at h
      · next items hitems =>
        split at h
        · next rows' hrows =>
          cases h
          rw [mapM_objectFields_eq] at hrows
          refine ⟨fields, hload, ?_, ?_, hrows ▸ hitems⟩
          · rintro rfl
            exact hbad rfl
          · intro f hf
            by_contra hname
            refine hbad (Bool.or_eq_true_iff.2 (Or.inr (List.any_eq_true.2 ⟨f, hf, ?_⟩)))
            simpa using hname
        · cases h
      · cases h
    · cases h
  · rintro ⟨fields, hload, hne, honly, hitems⟩
    have hgood : ¬(fields.isEmpty || fields.any fun f => f.1 ≠ "items") = true := by
      simpa [hne] using fun a b hab => honly (a, b) hab
    unfold jsonRows
    rw [hload]
    simp only [hitems, mapM_objectFields]
    rw [if_neg hgood]

lemma csvRows_refuses (text : String) : Refuses (csvRows lib text) := by
  unfold csvRows
  split
  · exact refuses_error _
  · exact refuses_error _
  · dsimp only
    split_ifs
    · exact refuses_error _
    · exact refuses_error _
    · exact refuses_ok _

lemma csvRows_eq_ok : csvRows lib text = .ok rows ↔
    ∃ names records, lib.csvRecords text = some (names :: records) ∧ hasFields names = true ∧
      (∀ cells ∈ records, cells.length ≤ names.length) ∧
      rows = (records.filter fun cells => cells ≠ []).map (csvRow names) := by
  have hlong : ∀ (names : List String) (records : List (List String)),
      (((records.filter fun cells => cells ≠ []).any fun cells => names.length < cells.length) = true) ↔
        ¬∀ cells ∈ records, cells.length ≤ names.length := by
    intro names records
    simp only [List.any_eq_true, List.mem_filter, decide_eq_true_eq, not_forall, not_le, exists_prop]
    constructor
    · rintro ⟨cells, ⟨hmem, -⟩, hlt⟩
      exact ⟨cells, hmem, hlt⟩
    · rintro ⟨cells, hmem, hlt⟩
      refine ⟨cells, ⟨hmem, ?_⟩, hlt⟩
      rintro rfl
      exact absurd hlt (Nat.not_lt_zero _)
  constructor
  · intro h
    unfold csvRows at h
    split at h
    · cases h
    · cases h
    · next names records hread =>
      dsimp only at h
      split_ifs at h with hnames hcells
      cases h
      refine ⟨names, records, hread, ?_, ?_, rfl⟩
      · simpa using hnames
      · rw [hlong, not_not] at hcells
        exact hcells
  · rintro ⟨names, records, hread, hnames, hcells, rfl⟩
    unfold csvRows
    rw [hread]
    dsimp only
    rw [if_neg (by simp [hnames]), if_neg (by rw [hlong]; exact not_not.2 hcells)]

lemma refusing_eq_ok {α : Type} {x : Except Error α} {a : α} : refusing x = .ok a ↔ x = .ok a := by
  cases x <;> simp [refusing, Except.mapError]

lemma refusing_eq_error {α : Type} {x : Except Error α} (hx : Refuses x) {f : Failure} (h : refusing x = .error f) :
    ∃ message, f = .relayPay (invalidStatement message) := by
  cases x with
  | ok a => cases h
  | error e =>
    cases h
    obtain ⟨message, rfl⟩ := hx e rfl
    exact ⟨message, rfl⟩

variable {format : SourceFormat}

lemma statementRowsOf_eq_ok :
    statementRowsOf lib loads text format = .ok rows ↔ StatesRows lib loads text format rows := by
  cases format with
  | csv =>
    simp only [statementRowsOf, refusing_eq_ok, csvRows_eq_ok]
    constructor
    · rintro ⟨names, records, hread, hnames, hcells, rfl⟩
      exact .csv hread hnames hcells
    · rintro (_ | ⟨hread, hnames, hcells⟩)
      exact ⟨_, _, hread, hnames, hcells, rfl⟩
  | json =>
    constructor
    · intro h
      simp only [statementRowsOf] at h
      split at h
      · cases h
      · rw [refusing_eq_ok, jsonRows_eq_ok] at h
        obtain ⟨fields, hload, -⟩ := h
        cases hload
      · next document hloads =>
        rw [refusing_eq_ok, jsonRows_eq_ok] at h
        obtain ⟨fields, hload, hne, honly, hitems⟩ := h
        cases hload
        exact .json hloads hne honly hitems
    · rintro (⟨hloads, hne, honly, hitems⟩ | _)
      simp only [statementRowsOf, hloads, refusing_eq_ok, jsonRows_eq_ok]
      exact ⟨_, rfl, hne, honly, hitems⟩

lemma statementRowsOf_eq_error {f : Failure} (h : statementRowsOf lib loads text format = .error f) :
    (∃ message, f = .relayPay (invalidStatement message)) ∨
      format = .json ∧ ∃ e, loads text = .raised e ∧ f = .uncaught e := by
  cases format with
  | csv => exact Or.inl (refusing_eq_error (csvRows_refuses text) h)
  | json =>
    simp only [statementRowsOf] at h
    split at h
    · next e hloads =>
      cases h
      exact Or.inr ⟨rfl, e, hloads, rfl⟩
    · exact Or.inl (refusing_eq_error (jsonRows_refuses _ text) h)
    · exact Or.inl (refusing_eq_error (jsonRows_refuses _ text) h)

lemma parseStatementOf_eq_ok :
    parseStatementOf lib loads rawBytes format = .ok items ↔ StatementReads lib loads rawBytes format items := by
  simp only [parseStatementOf, bind_eq_ok, refusing_eq_ok, admitText_eq_ok, statementRowsOf_eq_ok, parseItems_eq_ok]
  constructor
  · rintro ⟨text, hadmits, rows, hrows, hfew, hreads, hunique⟩
    exact ⟨⟨text, rows, hadmits, hrows, hfew, hreads⟩, hunique⟩
  · rintro ⟨⟨text, rows, hadmits, hrows, hfew, hreads⟩, hunique⟩
    exact ⟨text, hadmits, rows, hrows, hfew, hreads, hunique⟩

lemma parseStatementOf_eq_error {f : Failure} (h : parseStatementOf lib loads rawBytes format = .error f) :
    (∃ message, f = .relayPay (invalidStatement message)) ∨
      ∃ text e, Admits lib rawBytes text ∧ format = .json ∧ loads text = .raised e := by
  simp only [parseStatementOf] at h
  cases htext : refusing (admitText lib rawBytes) with
  | error f' =>
    rw [htext] at h
    cases h
    exact Or.inl (refusing_eq_error (admitText_refuses rawBytes) htext)
  | ok text =>
    have hadmits := admitText_eq_ok.1 (refusing_eq_ok.1 htext)
    rw [htext] at h
    cases hrows : statementRowsOf lib loads text format with
    | error f' =>
      simp only [bind, Except.bind, hrows] at h
      cases h
      rcases statementRowsOf_eq_error hrows with hrefused | ⟨hjson, e, hloads, -⟩
      · exact Or.inl hrefused
      · exact Or.inr ⟨text, e, hadmits, hjson, hloads⟩
    | ok rows =>
      simp only [bind, Except.bind, hrows] at h
      exact Or.inl (refusing_eq_error (parseItems_refuses rows) h)

lemma parseStatementOf_raised {e : Uncaught} (hadmits : Admits lib rawBytes text)
    (hloads : loads text = .raised e) : parseStatementOf lib loads rawBytes .json = .error (.uncaught e) := by
  have htext : refusing (admitText lib rawBytes) = .ok text := refusing_eq_ok.2 (admitText_eq_ok.2 hadmits)
  simp only [parseStatementOf, htext, statementRowsOf, hloads, bind, Except.bind]

lemma storable_of_reads
    (h : StatementReads lib loads rawBytes format items) (hamounts : ∀ item ∈ items, item.amount ≤ 2 ^ 63 - 1) :
    Storable items := by
  obtain ⟨text, rows, -, -, -, hreads⟩ := h.reads
  have hrow : ∀ item ∈ items, ∃ row, RowReads lib row item := by
    clear hamounts h
    induction hreads with
    | nil => simp
    | cons hread _ ih =>
      intro item hitem
      rcases List.mem_cons.1 hitem with rfl | hitem
      · exact ⟨_, hread⟩
      · exact ih item hitem
  refine ⟨h.unique, fun item hitem => ?_, fun item hitem => ?_, fun item hitem => ?_⟩
  · obtain ⟨row, hread⟩ := hrow item hitem
    exact ⟨hread.positive, hamounts item hitem⟩
  · obtain ⟨row, hread⟩ := hrow item hitem
    exact hread.idBounds
  · obtain ⟨row, hread⟩ := hrow item hitem
    exact hread.keyBounds

mutual

def depth : Json → ℕ
  | .arr items => depthItems items + 1
  | .obj fields => depthFields fields + 1
  | _ => 0

def depthItems : List Json → ℕ
  | [] => 0
  | j :: js => max (depth j) (depthItems js)

def depthFields : List (String × Json) → ℕ
  | [] => 0
  | (_, j) :: fs => max (depth j) (depthFields fs)

end

mutual

def largest : Json → ℕ
  | .int n => n.natAbs
  | .arr items => largestItems items
  | .obj fields => largestFields fields
  | _ => 0

def largestItems : List Json → ℕ
  | [] => 0
  | j :: js => max (largest j) (largestItems js)

def largestFields : List (String × Json) → ℕ
  | [] => 0
  | (_, j) :: fs => max (largest j) (largestFields fs)

end

def loadsWithin (text : String) : Loaded :=
  match Json.loadsText text.toList with
  | none => .malformed
  | some document =>
    if 1000 ≤ depth document then .raised .recursionError
    else if 10 ^ 4300 ≤ largest document then .raised .valueError
    else .value document

def jsonLibrary : Library where
  dumps := Json.render
  loads text := Json.loadsText text.toList
  decode bytes := String.fromUTF8? ⟨bytes.toArray⟩
  csvRecords _ := none
  int := String.toInt?
  isalpha s := s.toList.all Char.isAlpha
  isupper s := s.toList.all Char.isUpper
  isoformat t := toString t
  fromisoformat s := some (some s.length)

def captureOf (amount : ℤ) : Json :=
  .obj [("items", .arr [.obj [("amount", .int amount), ("currency", .str "INR"),
    ("occurredAt", .str "2026-01-01T00:00:00Z"), ("operationKind", .str "CAPTURE"), ("providerItemId", .str "item_1"),
    ("stableKey", .str "capture_1"), ("status", .str "SUCCEEDED")]])]

def nested : ℕ → Json
  | 0 => .arr []
  | n + 1 => .arr [nested n]

lemma nested_plain (n : ℕ) : Json.Plain (nested n) := by
  induction n with
  | zero => exact .arr (by simp)
  | succ n ih => exact .arr (by simpa using ih)

lemma nested_sorted (n : ℕ) : (nested n).sorted = nested n := by
  induction n with
  | zero => rfl
  | succ n ih => rw [nested, Json.sorted, Json.sortedItems, Json.sortedItems, ih]

lemma nested_depth (n : ℕ) : depth (nested n) = n + 1 := by
  induction n with
  | zero => rfl
  | succ n ih => rw [nested, depth, depthItems, depthItems, ih, Nat.max_zero]

lemma nested_render (n : ℕ) : (nested (n + 1)).render = "[" ++ (nested n).render ++ "]" := by
  rw [nested, Json.render, Json.renderItems, Json.renderItems, String.intercalate_singleton]

lemma nested_size (n : ℕ) : (encode (nested n).render).length = 2 * (n + 1) := by
  have hsize : ∀ s, (encode s).length = s.utf8ByteSize := fun s => by simp [encode]
  rw [hsize]
  induction n with
  | zero => rfl
  | succ n ih =>
    have hopen : "[".utf8ByteSize = 1 := rfl
    have hclose : "]".utf8ByteSize = 1 := rfl
    rw [nested_render, String.utf8ByteSize_append, String.utf8ByteSize_append, ih, hopen, hclose]
    omega

lemma nested_noNull (n : ℕ) : ∀ c ∈ (nested n).render.toList, c.toNat ≠ 0 := by
  induction n with
  | zero =>
    have htext : (nested 0).render.toList = ['[', ']'] := rfl
    rw [htext]
    simp
  | succ n ih =>
    rw [nested_render, String.toList_append, String.toList_append]
    intro c hc
    rcases List.mem_append.1 hc with hc | hclose
    · rcases List.mem_append.1 hc with hopen | hinner
      · rw [List.mem_singleton.1 hopen]
        decide
      · exact ih c hinner
    · rw [List.mem_singleton.1 hclose]
      decide

lemma loadsText_render {j : Json} (hj : Json.Plain j) : Json.loadsText j.render.toList = some j.sorted := by
  have hread := Json.reads_of_plain hj (j.render.toList.length + 1) [] (by rw [Json.text]; omega) (by rintro c ⟨⟩)
  rw [List.append_nil, Json.text] at hread
  rw [Json.loadsText, hread]
  rfl

lemma nested_admits (n : ℕ) (hn : n < 1000) : Admits jsonLibrary (encode (nested n).render) (nested n).render where
  nonempty hnil := by
    have hsize := nested_size n
    rw [hnil] at hsize
    cases hsize
  bounded := by
    rw [nested_size, maxStatementBytes]
    omega
  decoded := Json.decode_encode _
  noNull := nested_noNull n

end RelayPay.Statements
