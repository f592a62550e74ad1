import Mathlib.Data.List.ReduceOption
import Mathlib.Data.Multiset.Filter
import RelayPay.Canonical
import RelayPay.Reconcile.Matching

/-! Reading the two exports, and what a report without findings says of the money on both sides. -/

namespace RelayPay.Reconcile

open Relational

/-- What ingest calls on text. `ordinal` is `datetime.fromisoformat(..).date().toordinal()`, with
`none` for a `ValueError`. -/
structure Python where
  strip : String → String
  lower : String → String
  repr : String → String
  ordinal : String → Option ℤ

inductive AmountUnit where
  | paise | rupees
  deriving DecidableEq

structure KindRule where
  column : String
  payment : List String
  refund : List String
  ignore : List String

structure SideMapping where
  ref : String
  amount : String
  unit : AmountUnit
  fee : Option String
  tax : Option String
  date : Option String
  status : Option String
  kind : Option KindRule

structure Mapping where
  settlement : SideMapping
  orders : SideMapping
  settledValues : List String
  failedValues : List String
  timingWindowDays : ℤ × ℤ
  tolerancePaise : ℕ

def Mapping.tolerances (m : Mapping) : Tolerances where
  tolerancePaise := m.tolerancePaise
  minDays := m.timingWindowDays.1
  maxDays := m.timingWindowDays.2

def digits (cs : List Char) (least most : ℕ) : Bool :=
  least ≤ cs.length && cs.length ≤ most && cs.all fun c => '0' ≤ c && c ≤ '9'

def digitsValue (cs : List Char) : ℕ := cs.foldl (fun n c => 10 * n + (c.toNat - '0'.toNat)) 0

def hundredths (cs : List Char) : ℕ := if cs.length = 1 then 10 * digitsValue cs else digitsValue cs

def rupeeText (cs : List Char) : Option ℕ :=
  match cs.span fun c => c ≠ '.' with
  | (whole, []) => if digits whole 1 15 then some (100 * digitsValue whole) else none
  | (whole, _ :: part) =>
    if digits whole 1 15 && digits part 1 2 then some (100 * digitsValue whole + hundredths part)
    else none

def parsePaise (py : Python) (text : String) : AmountUnit → Except String ℤ
  | .paise =>
    if digits text.toList 1 17 then .ok (digitsValue text.toList)
    else .error ("amount " ++ py.repr text ++ " is not a whole number of paise")
  | .rupees =>
    match rupeeText text.toList with
    | some n => .ok n
    | none => .error ("amount " ++ py.repr text ++ " is not rupees with at most 2 decimals")

structure Columns where
  ref : ℕ
  amount : ℕ
  fee : Option ℕ
  tax : Option ℕ
  date : Option ℕ
  status : Option ℕ
  kind : Option (ℕ × KindRule)

def index (py : Python) (header : List String) (path column : String) : Except String ℕ :=
  if column ∈ header then .ok (header.idxOf column)
  else .error (path ++ ": no column named " ++ py.repr column ++ "; the columns are: " ++
    ", ".intercalate header)

def optionalIndex (py : Python) (header : List String) (path : String) :
    Option String → Except String (Option ℕ)
  | none => .ok none
  | some column => some <$> index py header path column

def resolveColumns (py : Python) (header : List String) (side : SideMapping) (path : String) :
    Except String Columns := do
  let duplicates := (header.dedup.filter fun name => 1 < header.count name).insertionSort (· ≤ ·)
  if duplicates ≠ [] then
    throw (path ++ ": duplicate header columns: " ++ ", ".intercalate duplicates)
  let kind ← match side.kind with
    | none => pure none
    | some rule => do
      let position ← index py header path rule.column
      pure (some (position, rule))
  let ref ← index py header path side.ref
  let amount ← index py header path side.amount
  let fee ← optionalIndex py header path side.fee
  let tax ← optionalIndex py header path side.tax
  let date ← optionalIndex py header path side.date
  let status ← optionalIndex py header path side.status
  pure ⟨ref, amount, fee, tax, date, status, kind⟩

def kindOf (py : Python) (text : String) (rule : KindRule) (place : String) :
    Except String (Option Kind) :=
  let value := py.lower text
  if value ∈ rule.payment then .ok (some .payment)
  else if value ∈ rule.refund then .ok (some .refund)
  else if value ∈ rule.ignore then .ok none
  else .error (place ++ ": type " ++ py.repr text ++ " is not listed as payment, refund or ignore")

def statusFlag (py : Python) (m : Mapping) (text place : String) : Except String Bool :=
  let value := py.lower text
  if value ∈ m.failedValues then .ok true
  else if value ∈ m.settledValues then .ok false
  else .error (place ++ ": status " ++ py.repr text ++
    " is neither settled nor failed; export only completed rows, " ++
    "or list the status in settled_values or failed_values")

def parseAmount (py : Python) (text : String) (unit : AmountUnit) (place : String) : Except String ℤ :=
  (parsePaise py text unit).mapError fun e => place ++ ": " ++ e

def cell (cells : List String) (position : ℕ) : String := cells.getD position ""

def optionalAmount (py : Python) (cells : List String) (unit : AmountUnit) (place : String) :
    Option ℕ → Except String (Option ℤ)
  | none => .ok none
  | some position =>
    if cell cells position = "" then .ok none
    else some <$> parseAmount py (cell cells position) unit place

def optionalDay (py : Python) (cells : List String) (place : String) :
    Option ℕ → Except String (Option ℤ)
  | none => .ok none
  | some position =>
    if cell cells position = "" then .ok none
    else match py.ordinal (cell cells position) with
      | some day => .ok (some day)
      | none => .error (place ++ ": date " ++ py.repr (cell cells position) ++ " is not ISO 8601")

def parseRow (py : Python) (m : Mapping) (side : SideMapping) (columns : Columns)
    (cells : List String) (place : String) : Except String (Option Row) := do
  let ref := cell cells columns.ref
  if ref = "" then throw (place ++ ": the reference is empty")
  let kind ← match columns.kind with
    | none => pure (some Kind.payment)
    | some (position, rule) => kindOf py (cell cells position) rule place
  match kind with
  | none => pure none
  | some kind => do
    let amount ← parseAmount py (cell cells columns.amount) side.unit place
    let fee ← optionalAmount py cells side.unit place columns.fee
    let tax ← optionalAmount py cells side.unit place columns.tax
    let day ← optionalDay py cells place columns.date
    let failed ← match columns.status with
      | none => pure false
      | some position => statusFlag py m (cell cells position) place
    pure (some ⟨kind, ref, amount, fee, tax, day, failed⟩)

/-- What `csv.reader` gives: records with the number of their last line, up to an error it may stop with. Without a
first record there is no header. -/
structure CsvFile where
  path : String
  header : List String
  records : List (ℕ × List String)
  failure : Option (ℕ × String)

structure Loaded where
  rows : List Row
  skipped : ℕ

def place (file : CsvFile) (line : ℕ) : String := file.path ++ ":" ++ toString line

def loadRecord (py : Python) (m : Mapping) (side : SideMapping) (file : CsvFile) (columns : Columns)
    (loaded : Loaded) (record : ℕ × List String) : Except String Loaded := do
  if record.2.length ≠ file.header.length then
    throw (place file record.1 ++ ": expected " ++ toString file.header.length ++ " fields, found " ++
      toString record.2.length)
  match ← parseRow py m side columns (record.2.map py.strip) (place file record.1) with
  | none => pure { loaded with skipped := loaded.skipped + 1 }
  | some row => pure { loaded with rows := loaded.rows ++ [row] }

def loadSide (py : Python) (m : Mapping) (side : SideMapping) (file : CsvFile) :
    Except String Loaded := do
  let header := file.header.map py.strip
  let stop : Except String Unit := match file.failure with
    | some (line, error) => throw (place file line ++ ": " ++ error)
    | none => pure ()
  if header = [] then
    stop
    throw (file.path ++ ": the file is empty")
  let columns ← resolveColumns py header side file.path
  let loaded ← file.records.foldlM (loadRecord py m side file columns) ⟨[], 0⟩
  stop
  pure loaded

structure Report where
  settlement : Loaded
  orders : Loaded
  findings : List Finding

def reconcileFiles (py : Python) (m : Mapping) (settlement orders : CsvFile) : Except String Report := do
  let s ← loadSide py m m.settlement settlement
  let o ← loadSide py m m.orders orders
  pure ⟨s, o, reconcile m.tolerances s.rows o.rows⟩

def kindCell (py : Python) (cells : List String) (place : String) :
    Option (ℕ × KindRule) → Except String (Option Kind)
  | none => .ok (some .payment)
  | some (position, rule) => kindOf py (cell cells position) rule place

def statusCell (py : Python) (m : Mapping) (cells : List String) (place : String) :
    Option ℕ → Except String Bool
  | none => .ok false
  | some position => statusFlag py m (cell cells position) place

structure Parsed (py : Python) (m : Mapping) (side : SideMapping) (columns : Columns)
    (cells : List String) (place : String) (row : Row) : Prop where
  ref : row.ref = cell cells columns.ref
  amount : parseAmount py (cell cells columns.amount) side.unit place = .ok row.amount
  fee : optionalAmount py cells side.unit place columns.fee = .ok row.fee
  tax : optionalAmount py cells side.unit place columns.tax = .ok row.tax
  day : optionalDay py cells place columns.date = .ok row.day
  failed : statusCell py m cells place columns.status = .ok row.failed

section Load

variable {py : Python} {m : Mapping} {side : SideMapping} {columns : Columns} {cells : List String}
  {p p' : String} {row : Row}

lemma parseRow_eq : parseRow py m side columns cells p =
    if cell cells columns.ref = "" then .error (p ++ ": the reference is empty")
    else kindCell py cells p columns.kind >>= (fun kind => match kind with
      | none => .ok none
      | some kind => do
        let amount ← parseAmount py (cell cells columns.amount) side.unit p
        let fee ← optionalAmount py cells side.unit p columns.fee
        let tax ← optionalAmount py cells side.unit p columns.tax
        let day ← optionalDay py cells p columns.date
        let failed ← statusCell py m cells p columns.status
        pure (some ⟨kind, cell cells columns.ref, amount, fee, tax, day, failed⟩)) := by
  obtain ⟨ref, amount, fee, tax, date, status, kind⟩ := columns
  cases kind with
  | none => cases status <;> rfl
  | some rule => cases status <;> rfl

lemma parseRow_some : parseRow py m side columns cells p = .ok (some row) ↔
    cell cells columns.ref ≠ "" ∧ kindCell py cells p columns.kind = .ok (some row.kind) ∧
      Parsed py m side columns cells p row := by
  rw [parseRow_eq]
  split
  · next hempty => simp [hempty]
  · next href =>
    rw [bind_eq_ok]
    constructor
    · rintro ⟨kind, hkind, hrest⟩
      cases kind with
      | none => simp at hrest
      | some kind =>
        simp only [bind_eq_ok, pure, Except.pure, Except.ok.injEq, Option.some.injEq] at hrest
        obtain ⟨amount, hamount, fee, hfee, tax, htax, day, hday, failed, hfailed, rfl⟩ := hrest
        exact ⟨href, hkind, rfl, hamount, hfee, htax, hday, hfailed⟩
    · rintro ⟨-, hkind, h⟩
      refine ⟨some row.kind, hkind, ?_⟩
      simp only [h.amount, h.fee, h.tax, h.day, h.failed, ← h.ref, bind, Except.bind, pure, Except.pure]

lemma parseRow_none : parseRow py m side columns cells p = .ok none ↔
    cell cells columns.ref ≠ "" ∧ kindCell py cells p columns.kind = .ok none := by
  rw [parseRow_eq]
  split
  · next hempty => simp [hempty]
  · next href =>
    rw [bind_eq_ok]
    constructor
    · rintro ⟨kind, hkind, hrest⟩
      cases kind with
      | none => exact ⟨href, hkind⟩
      | some kind => simp [bind_eq_ok, pure, Except.pure] at hrest
    · rintro ⟨-, hkind⟩
      exact ⟨none, hkind, rfl⟩

lemma kindCell_place {kind : Option Kind} {column : Option (ℕ × KindRule)}
    (h : kindCell py cells p column = .ok kind) : kindCell py cells p' column = .ok kind := by
  cases column with
  | none => exact h
  | some rule =>
    simp only [kindCell, kindOf] at h ⊢
    split_ifs at h ⊢ <;> exact h

variable {column : Option ℕ}

lemma statusCell_place {failed : Bool}
    (h : statusCell py m cells p column = .ok failed) : statusCell py m cells p' column = .ok failed := by
  cases column with
  | none => exact h
  | some position =>
    simp only [statusCell, statusFlag] at h ⊢
    split_ifs at h ⊢ <;> exact h

lemma parseAmount_place {text : String} {unit : AmountUnit} {a : ℤ}
    (h : parseAmount py text unit p = .ok a) : parseAmount py text unit p' = .ok a := by
  unfold parseAmount at h ⊢
  cases hparse : parsePaise py text unit with
  | error e => simp [hparse, Except.mapError] at h
  | ok b => simpa [hparse, Except.mapError] using h

lemma optionalAmount_place {unit : AmountUnit} {a : Option ℤ}
    (h : optionalAmount py cells unit p column = .ok a) : optionalAmount py cells unit p' column = .ok a := by
  cases column with
  | none => exact h
  | some position =>
    simp only [optionalAmount] at h ⊢
    split_ifs at h ⊢ with hempty
    · exact h
    · rw [map_eq_pure_bind, bind_eq_ok] at h ⊢
      obtain ⟨b, hb, hrest⟩ := h
      exact ⟨b, parseAmount_place hb, hrest⟩

lemma optionalDay_place {a : Option ℤ}
    (h : optionalDay py cells p column = .ok a) : optionalDay py cells p' column = .ok a := by
  cases column with
  | none => exact h
  | some position =>
    simp only [optionalDay] at h ⊢
    split_ifs at h ⊢ with hempty
    · exact h
    · cases hday : py.ordinal (cell cells position) with
      | none => simp [hday] at h
      | some day => simpa [hday] using h

lemma parseRow_place {o : Option Row} (h : parseRow py m side columns cells p = .ok o) :
    parseRow py m side columns cells p' = .ok o := by
  cases o with
  | none =>
    rw [parseRow_none] at h ⊢
    exact ⟨h.1, kindCell_place h.2⟩
  | some row =>
    rw [parseRow_some] at h ⊢
    obtain ⟨href, hkind, hrow⟩ := h
    exact ⟨href, kindCell_place hkind, hrow.ref, parseAmount_place hrow.amount,
      optionalAmount_place hrow.fee, optionalAmount_place hrow.tax, optionalDay_place hrow.day,
      statusCell_place hrow.failed⟩

def ReadsAs (py : Python) (m : Mapping) (side : SideMapping) (width : ℕ) (columns : Columns)
    (cells : List String) (o : Option Row) : Prop :=
  cells.length = width ∧ ∃ p, parseRow py m side columns (cells.map py.strip) p = .ok o

variable {file : CsvFile}

lemma loadRecord_eq_ok {loaded loaded' : Loaded} {record : ℕ × List String} :
    loadRecord py m side file columns loaded record = .ok loaded' ↔
      ∃ o, ReadsAs py m side file.header.length columns record.2 o ∧
        loaded' = ⟨loaded.rows ++ o.toList, loaded.skipped + [o].count none⟩ := by
  unfold loadRecord
  split
  · next hlength =>
    constructor
    · intro h
      cases h
    · rintro ⟨o, ⟨hwidth, -⟩, -⟩
      exact absurd hwidth hlength
  · next hlength =>
    rw [bind_eq_ok]
    have hwidth : record.2.length = file.header.length := not_not.1 hlength
    constructor
    · rintro ⟨o, ho, hrest⟩
      refine ⟨o, ⟨hwidth, _, ho⟩, ?_⟩
      cases o with
      | none =>
        cases hrest
        simp
      | some row =>
        cases hrest
        simp
    · rintro ⟨o, ⟨-, p, ho⟩, rfl⟩
      refine ⟨o, parseRow_place ho, ?_⟩
      cases o with
      | none => simp [pure, Except.pure]
      | some row => simp [pure, Except.pure]

lemma foldlM_eq_ok {records : List (ℕ × List String)} {loaded loaded' : Loaded} :
    records.foldlM (loadRecord py m side file columns) loaded = .ok loaded' ↔
      ∃ os, List.Forall₂ (ReadsAs py m side file.header.length columns) (records.map Prod.snd) os ∧
        loaded' = ⟨loaded.rows ++ os.reduceOption, loaded.skipped + os.count none⟩ := by
  induction records generalizing loaded with
  | nil => simp [pure, Except.pure, eq_comm]
  | cons record rest ih =>
    rw [List.foldlM_cons, bind_eq_ok]
    simp only [loadRecord_eq_ok, ih, List.map_cons]
    constructor
    · rintro ⟨_, ⟨o, ho, rfl⟩, os, hos, rfl⟩
      refine ⟨o :: os, .cons ho hos, ?_⟩
      cases o with
      | none => simp [Nat.add_assoc, Nat.add_comm 1]
      | some row => simp
    · rintro ⟨os, hos, rfl⟩
      cases hos with
      | @cons _ o _ os ho hos =>
        refine ⟨_, ⟨o, ho, rfl⟩, os, hos, ?_⟩
        cases o with
        | none => simp [Nat.add_assoc, Nat.add_comm 1]
        | some row => simp

lemma loadSide_eq_ok {loaded : Loaded} : loadSide py m side file = .ok loaded ↔
    file.failure = none ∧ file.header ≠ [] ∧
      ∃ columns, resolveColumns py (file.header.map py.strip) side file.path = .ok columns ∧
        ∃ os, List.Forall₂ (ReadsAs py m side file.header.length columns) (file.records.map Prod.snd) os ∧
          loaded = ⟨os.reduceOption, os.count none⟩ := by
  unfold loadSide
  cases hfailure : file.failure with
  | some failure =>
    simp only [reduceCtorEq, false_and, iff_false]
    split
    · intro h
      cases h
    · simp only [bind_eq_ok]
      rintro ⟨columns, -, rows, -, _, hstop, -⟩
      cases hstop
  | none =>
    simp only [true_and]
    split
    · next hempty =>
      have hnil : file.header = [] := List.map_eq_nil_iff.1 hempty
      constructor
      · intro h
        cases h
      · rintro ⟨hne, -⟩
        exact absurd hnil hne
    · next hheader =>
      have hne : file.header ≠ [] := fun hnil => hheader (by rw [hnil]; rfl)
      simp only [bind_eq_ok, foldlM_eq_ok, List.nil_append, Nat.zero_add]
      constructor
      · rintro ⟨columns, hcolumns, _, ⟨os, hos, rfl⟩, _, -, hrest⟩
        cases hrest
        exact ⟨hne, columns, hcolumns, os, hos, rfl⟩
      · rintro ⟨-, columns, hcolumns, os, hos, rfl⟩
        exact ⟨columns, hcolumns, _, ⟨os, hos, rfl⟩, (), rfl, rfl⟩

lemma reconcileFiles_eq_ok {settlement orders : CsvFile} {r : Report} :
    reconcileFiles py m settlement orders = .ok r ↔
      ∃ s o, loadSide py m m.settlement settlement = .ok s ∧ loadSide py m m.orders orders = .ok o ∧
        r = ⟨s, o, reconcile m.tolerances s.rows o.rows⟩ := by
  simp only [reconcileFiles, bind_eq_ok, pure, Except.pure, Except.ok.injEq]
  constructor
  · rintro ⟨s, hs, o, ho, rfl⟩
    exact ⟨s, o, hs, ho, rfl⟩
  · rintro ⟨s, o, hs, ho, rfl⟩
    exact ⟨s, hs, o, ho, rfl⟩

end Load

def money (kind : Kind) (rows : List Row) : Multiset (String × ℤ) :=
  (rows.filter fun r => r.kind = kind && !r.failed).map fun r => (r.ref, r.amount)

def failedOrder (orders : List Row) (r : Row) : Bool := orders.any fun y => y.key = r.key && y.failed

section Clean

variable {t : Tolerances} {settlement orders rows : List Row} {x y : Row}

structure Clean (t : Tolerances) (settlement orders : List Row) : Prop where
  exact : t.tolerancePaise = 0
  none : ∀ f, ¬Exceptional t settlement orders f

lemma clean_of_reconcile (ht : t.tolerancePaise = 0) (h : reconcile t settlement orders = []) :
    Clean t settlement orders := by
  refine ⟨ht, fun f hf => ?_⟩
  have hmem := hf.mem
  rw [h] at hmem
  cases hmem

lemma rowsOf_eq_singleton (hone : (Row.of rows y.key).length ≤ 1) (hy : y ∈ rows) : Row.of rows y.key = [y] := by
  have hmem : y ∈ Row.of rows y.key := mem_rowsOf.2 ⟨hy, rfl⟩
  obtain ⟨z, hz⟩ := List.length_eq_one_iff.1 (Nat.le_antisymm hone (List.length_pos_of_mem hmem))
  rw [hz] at hmem ⊢
  rw [List.mem_singleton.1 hmem]

namespace Clean

lemma order_of (h : Clean t settlement orders) (hy : y ∈ orders) : Row.of orders y.key = [y] := by
  refine rowsOf_eq_singleton ?_ hy
  by_contra hmany
  exact h.none _ (.duplicateOrder (not_le.1 hmany))

lemma settled_of (h : Clean t settlement orders) (hx : x ∈ settlement) : Row.of settlement x.key = [x] := by
  refine rowsOf_eq_singleton ?_ hx
  by_contra hmany
  exact h.none _ (.duplicateSettlement (not_le.1 hmany))

lemma paired (h : Clean t settlement orders) (hy : y ∈ orders) (hx : x ∈ settlement)
    (hkey : x.key = y.key) (hlanded : x.failed = false) : Paired settlement orders y.key y x :=
  ⟨h.order_of hy, hkey ▸ h.settled_of hx, hlanded⟩

lemma amount_eq (h : Clean t settlement orders) (hy : y ∈ orders) (hx : x ∈ settlement)
    (hkey : x.key = y.key) (hlanded : x.failed = false) (hopen : y.failed = false) : y.amount = x.amount := by
  by_contra hne
  refine h.none _ (.amountMismatch (h.paired hy hx hkey hlanded) hopen ?_)
  rw [h.exact]
  exact abs_pos.2 (sub_ne_zero.2 hne)

lemma settles (h : Clean t settlement orders) (hy : y ∈ orders) (hopen : y.failed = false) :
    ∃ x ∈ settlement, x.key = y.key ∧ x.failed = false ∧ x.amount = y.amount := by
  by_contra hnone
  refine h.none _ (.missingInSettlement hy hopen fun x hx hkey => ?_)
  by_contra hlanded
  have hlanded' : x.failed = false := by simpa using hlanded
  exact hnone ⟨x, hx, hkey, hlanded', (h.amount_eq hy hx hkey hlanded' hopen).symm⟩

lemma isOrdered (h : Clean t settlement orders) (hx : x ∈ settlement) (hlanded : x.failed = false)
    (hrefund : x.kind = .refund → failedOrder orders x = false) :
    ∃ y ∈ orders, y.key = x.key ∧ y.failed = false ∧ y.amount = x.amount := by
  have hordered : ∃ y ∈ orders, y.key = x.key := by
    by_contra hnone
    exact h.none _ (.missingInOrders hx fun y hy hkey => hnone ⟨y, hy, hkey⟩)
  obtain ⟨y, hy, hkey⟩ := hordered
  have hopen : y.failed = false := by
    by_contra hfailed
    have hfailed' : y.failed = true := by simpa using hfailed
    cases hkind : x.kind with
    | payment =>
      have hpayment : y.key.1 = .payment := by rw [hkey]; exact hkind
      exact h.none _ (.failedButDebited (h.paired hy hx hkey.symm hlanded) hpayment hfailed')
    | refund =>
      have hfalse := hrefund hkind
      rw [failedOrder, List.any_eq_false] at hfalse
      exact hfalse y hy (by simp [hkey, hfailed'])
  exact ⟨y, hy, hkey, hopen, h.amount_eq hy hx hkey.symm hlanded hopen⟩

end Clean

lemma keys_nodup_of_single (h : ∀ r ∈ rows, Row.of rows r.key = [r]) : (rows.map Row.key).Nodup := by
  rw [List.nodup_iff_count_le_one]
  intro k
  have hcount : (rows.map Row.key).count k = (Row.of rows k).length := by
    rw [List.count, List.countP_map, List.countP_eq_length_filter, Row.of, rowsOf]
    congr 1
    apply List.filter_congr
    intro r _
    rw [Bool.eq_iff_iff]
    simp
  rw [hcount]
  by_cases hk : Row.of rows k = []
  · simp [hk]
  · obtain ⟨r, hr, rfl⟩ := rowsOf_ne_nil.1 hk
    rw [h r hr]
    simp

lemma money_nodup {kind : Kind} (p : Row → Bool) (h : (rows.map Row.key).Nodup) :
    ((rows.filter fun r => r.kind = kind && p r).map fun r => (r.ref, r.amount)).Nodup := by
  refine List.Nodup.map_on ?_ ((List.Nodup.of_map _ h).filter _)
  intro a ha b hb hab
  obtain ⟨ha, hka⟩ := List.mem_filter.1 ha
  obtain ⟨hb, hkb⟩ := List.mem_filter.1 hb
  simp only [Bool.and_eq_true, decide_eq_true_eq] at hka hkb
  refine List.inj_on_of_nodup_map h ha hb ?_
  exact Prod.ext (hka.1.trans hkb.1.symm) (congrArg Prod.fst hab)

lemma Clean.money_eq (h : Clean t settlement orders) (kind : Kind) :
    money kind orders = money kind (settlement.filter fun x => kind = .payment || !failedOrder orders x) := by
  have hs := keys_nodup_of_single fun r hr => h.settled_of hr
  have ho := keys_nodup_of_single fun r hr => h.order_of hr
  unfold money
  rw [Multiset.coe_eq_coe, List.filter_filter]
  have hsplit : ∀ x : Row, ((x.kind = kind && !x.failed) && (kind = .payment || !failedOrder orders x)) =
      (x.kind = kind && (!x.failed && (kind = .payment || !failedOrder orders x))) :=
    fun x => Bool.and_assoc _ _ _
  simp only [hsplit]
  rw [List.perm_ext_iff_of_nodup (money_nodup _ ho) (money_nodup _ hs)]
  rintro ⟨ref, amount⟩
  simp only [List.mem_map, List.mem_filter, Bool.and_eq_true, decide_eq_true_eq, Bool.not_eq_true',
    Bool.or_eq_true, Prod.mk.injEq]
  constructor
  · rintro ⟨y, ⟨hy, rfl, hopen⟩, rfl, rfl⟩
    obtain ⟨x, hx, hkey, hlanded, hamount⟩ := h.settles hy hopen
    refine ⟨x, ⟨hx, congrArg Prod.fst hkey, hlanded, .inr ?_⟩, congrArg Prod.snd hkey, hamount⟩
    rw [failedOrder, List.any_eq_false]
    intro z hz hboth
    simp only [Bool.and_eq_true, decide_eq_true_eq] at hboth
    have hzy := h.order_of hz
    rw [hboth.1.trans hkey, h.order_of hy] at hzy
    cases hzy
    simp [hopen] at hboth
  · rintro ⟨x, ⟨hx, rfl, hlanded, hkeep⟩, rfl, rfl⟩
    have hrefund : x.kind = .refund → failedOrder orders x = false := by
      intro hkind
      rcases hkeep with hpayment | hnone
      · simp [hkind] at hpayment
      · exact hnone
    obtain ⟨y, hy, hkey, hopen, hamount⟩ := h.isOrdered hx hlanded hrefund
    exact ⟨y, ⟨hy, congrArg Prod.fst hkey, hopen⟩, congrArg Prod.snd hkey, hamount⟩

end Clean

theorem clean_report_agrees {py : Python} {m : Mapping} {settlement orders : CsvFile} {r : Report}
    (hexact : m.tolerancePaise = 0) (hrun : reconcileFiles py m settlement orders = .ok r) (hclean : r.findings = []) :
    money .payment r.orders.rows = money .payment r.settlement.rows ∧
    money .refund r.orders.rows =
      money .refund (r.settlement.rows.filter fun x => !failedOrder r.orders.rows x) := by
  obtain ⟨loadedS, loadedO, -, -, rfl⟩ := reconcileFiles_eq_ok.1 hrun
  have h : Clean m.tolerances loadedS.rows loadedO.rows := clean_of_reconcile hexact hclean
  refine ⟨?_, ?_⟩
  · simpa using h.money_eq .payment
  · simpa using h.money_eq .refund

def genericSide : SideMapping where
  ref := "reference"
  amount := "amount"
  unit := .rupees
  fee := some "fee"
  tax := some "tax"
  date := some "date"
  status := some "status"
  kind := some ⟨"type", ["payment"], ["refund"], []⟩

def genericMapping : Mapping where
  settlement := genericSide
  orders := genericSide
  settledValues := ["captured", "processed", "settled"]
  failedValues := ["failed"]
  timingWindowDays := (0, 2)
  tolerancePaise := 0

def plainText : Python := ⟨id, id, id, fun _ => none⟩

def genericFile (path : String) (cells : List (List String)) : CsvFile where
  path := path
  header := ["reference", "type", "amount", "fee", "tax", "date", "status"]
  records := cells.mapIdx fun i row => (i + 2, row)
  failure := none

def refundRow (failed : Bool) : Row := ⟨.refund, "rfnd_1", 4000, none, none, none, failed⟩

def refundReport (failed : Bool) : Report := ⟨⟨[refundRow false], 0⟩, ⟨[refundRow failed], 0⟩, []⟩

def settledRefund : CsvFile := genericFile "s.csv" [["rfnd_1", "refund", "40.00", "", "", "", "processed"]]

def orderedRefund (status : String) : CsvFile :=
  genericFile "o.csv" [["rfnd_1", "refund", "40.00", "", "", "", status]]

theorem clean_report_agrees_refund :
    reconcileFiles plainText genericMapping settledRefund (orderedRefund "processed") =
      .ok (refundReport false) ∧
    money .refund (refundReport false).orders.rows = money .refund
      ((refundReport false).settlement.rows.filter fun x => !failedOrder [refundRow false] x) := by
  have hrun : reconcileFiles plainText genericMapping settledRefund (orderedRefund "processed") =
      .ok (refundReport false) := by rfl
  exact ⟨hrun, (clean_report_agrees rfl hrun rfl).2⟩

theorem clean_report_hides_refund : ∃ (py : Python) (settlement orders : CsvFile) (r : Report),
    reconcileFiles py genericMapping settlement orders = .ok r ∧ r.findings = [] ∧
      money .refund r.orders.rows ≠ money .refund r.settlement.rows :=
  ⟨plainText, settledRefund, orderedRefund "failed", refundReport true, rfl, rfl, by decide⟩

end RelayPay.Reconcile
