import Mathlib.Data.List.Lex
import Mathlib.Data.String.Basic
import RelayPay.Reconcile.Ingest

/-! The reports of a reconciliation, and which checks they say were not evaluated. -/

namespace RelayPay.Reconcile

open Relational

def ExceptionKind.name : ExceptionKind → String
  | .missingInSettlement => "MISSING_IN_SETTLEMENT"
  | .missingInOrders => "MISSING_IN_ORDERS"
  | .amountMismatch => "AMOUNT_MISMATCH"
  | .duplicate => "DUPLICATE"
  | .feeDifference => "FEE_DIFFERENCE"
  | .gstDifference => "GST_DIFFERENCE"
  | .timing => "TIMING"
  | .refundNotLanded => "REFUND_NOT_LANDED"
  | .failedButDebited => "FAILED_BUT_DEBITED"

def ExceptionKind.value : ExceptionKind → String
  | .missingInSettlement => "An order that should have settled has no landed settlement row."
  | .missingInOrders => "A settlement row has no order with the same reference."
  | .amountMismatch => "The order and settlement amounts differ by more than the tolerance."
  | .duplicate => "A reference appears more than once on one side. Pair checks are skipped."
  | .feeDifference => "The settled fee differs from the fee expected for the order."
  | .gstDifference => "The settled tax (GST on the fee) differs from the tax expected for the order."
  | .timing => "The settlement date falls outside the configured window after the order date."
  | .refundNotLanded => "A refund in the orders has no landed refund row in the settlement."
  | .failedButDebited => "The order failed, yet the settlement shows a landed debit for it."

def ExceptionKind.members : List ExceptionKind :=
  [.missingInSettlement, .missingInOrders, .amountMismatch, .duplicate, .feeDifference, .gstDifference,
   .timing, .refundNotLanded, .failedButDebited]

def Kind.text : Kind → String
  | .payment => "payment"
  | .refund => "refund"

def ReportSide.text : ReportSide → String
  | .orders => "orders"
  | .settlement => "settlement"
  | .both => "both"

structure LoadCounts where
  rows : ℕ
  skipped : ℕ

def Loaded.counts (l : Loaded) : LoadCounts := ⟨l.rows.length, l.skipped⟩

structure RunSummary where
  settlement : LoadCounts
  orders : LoadCounts
  counts : List (ExceptionKind × ℕ)
  coverage : List String

def RunSummary.total (s : RunSummary) : ℕ := (s.counts.map Prod.snd).sum

def feeNote : String := "FEE_DIFFERENCE not evaluated: fee is not mapped on both sides"

def taxNote : String := "GST_DIFFERENCE not evaluated: tax is not mapped on both sides"

def dateNote : String := "TIMING not evaluated: date is not mapped on both sides"

def orderStatusNote : String := "FAILED_BUT_DEBITED not evaluated: the orders have no status column"

def settlementStatusNote : String :=
  "the settlement has no status column, so every settlement row counts as landed"

def refundNote : String := "refund checks not evaluated: a kind column is needed on both sides"

def coverage (m : Mapping) : List String :=
  (if m.settlement.fee.isNone || m.orders.fee.isNone then [feeNote] else []) ++
  (if m.settlement.tax.isNone || m.orders.tax.isNone then [taxNote] else []) ++
  (if m.settlement.date.isNone || m.orders.date.isNone then [dateNote] else []) ++
  (if m.orders.status.isNone then [orderStatusNote] else []) ++
  (if m.settlement.status.isNone then [settlementStatusNote] else []) ++
  (if m.settlement.kind.isNone || m.orders.kind.isNone then [refundNote] else [])

def summarize (m : Mapping) (r : Report) : RunSummary where
  settlement := r.settlement.counts
  orders := r.orders.counts
  counts := ExceptionKind.members.map fun e => (e, r.findings.countP fun f => f.exception = e)
  coverage := coverage m

inductive Value where
  | text (s : String)
  | int (i : ℤ)
  | null

def Value.ofInt : Option ℤ → Value
  | some i => .int i
  | none => .null

def columnNames : List String :=
  ["exception", "kind", "reference", "side", "expected_paise", "actual_paise", "difference_paise", "detail"]

def Finding.difference (f : Finding) : Option ℤ :=
  match f.expected, f.actual with
  | some e, some a => some (a - e)
  | _, _ => none

def Finding.values (f : Finding) : List Value :=
  [.text f.exception.name, .text f.key.1.text, .text f.key.2, .text f.side.text, .ofInt f.expected,
   .ofInt f.actual, .ofInt f.difference, .text f.detail]

def Finding.orderKey (f : Finding) : List String :=
  [f.exception.name, f.key.1.text, f.key.2, f.side.text]

def Finding.upTo (f g : Finding) : Prop := f.orderKey ≤ g.orderKey

instance : DecidableRel Finding.upTo := fun f g => inferInstanceAs (Decidable (f.orderKey ≤ g.orderKey))

def findingsQuery (findings : List Finding) : List (List Value) :=
  (findings.insertionSort Finding.upTo).map Finding.values

def Value.json : Value → Json
  | .text s => .str s
  | .int i => .int i
  | .null => .null

structure Writers where
  csvRow : List Value → String
  dumps : Json → String

def writeCsv (out : Writers) (findings : List Finding) : String :=
  out.csvRow (columnNames.map .text) ++ String.join ((findingsQuery findings).map out.csvRow)

def summaryDocument (s : RunSummary) : Json :=
  .obj [("settlement_rows", .int s.settlement.rows), ("settlement_skipped", .int s.settlement.skipped),
    ("order_rows", .int s.orders.rows), ("order_skipped", .int s.orders.skipped),
    ("findings", .obj (s.counts.map fun c => (c.1.name, .int c.2))), ("total", .int s.total),
    ("not_evaluated", .arr (s.coverage.map .str))]

def jsonRecord (row : List Value) : Json := .obj (columnNames.zip (row.map Value.json))

def writeJson (out : Writers) (findings : List Finding) (s : RunSummary) : String :=
  "\x7b\n\"summary\": " ++ out.dumps (summaryDocument s) ++ ",\n" ++ "\"findings\": [" ++
  ",".intercalate ((findingsQuery findings).map fun row => "\n" ++ out.dumps (jsonRecord row)) ++
  "\n]\n\x7d\n"

def replaceChar (c : Char) (new : String) (s : String) : String :=
  String.join (s.toList.map fun d => if d = c then new else d.toString)

def markdownCell : Value → String
  | .null => ""
  | .int i => toString i
  | .text s =>
    let escaped := replaceChar '>' "&gt;" (replaceChar '<' "&lt;" (replaceChar '&' "&amp;" s))
    replaceChar '\n' " " (replaceChar '\r' " " (replaceChar '|' "\\|" escaped))

def writeMarkdown (findings : List Finding) (s : RunSummary) : String :=
  "# Reconciliation report\n\n" ++
  "- Settlement rows: " ++ toString s.settlement.rows ++ " (" ++ toString s.settlement.skipped ++
  " skipped by type)\n" ++
  "- Order rows: " ++ toString s.orders.rows ++ " (" ++ toString s.orders.skipped ++ " skipped)\n" ++
  "- Findings: " ++ toString s.total ++ "\n\n" ++
  "## Exceptions\n\n| Exception | Count | Meaning |\n|---|---:|---|\n" ++
  String.join (s.counts.map fun c =>
    "| " ++ c.1.name ++ " | " ++ toString c.2 ++ " | " ++ markdownCell (.text c.1.value) ++ " |\n") ++
  (if s.coverage = [] then "" else
    "\n## Not evaluated\n\n" ++ String.join (s.coverage.map fun note => "- " ++ note ++ "\n")) ++
  "\n## Findings\n\nMoney is in paise; 100 paise is one rupee.\n\n" ++
  "| " ++ " | ".intercalate columnNames ++ " |\n|" ++ String.join (columnNames.map fun _ => "---|") ++ "\n" ++
  String.join ((findingsQuery findings).map fun row =>
    "| " ++ " | ".intercalate (row.map markdownCell) ++ " |\n")

structure Reports where
  csv : String
  json : String
  md : String

def writeReports (out : Writers) (findings : List Finding) (s : RunSummary) : Reports where
  csv := writeCsv out findings
  json := writeJson out findings s
  md := writeMarkdown findings s

def runReconcile (py : Python) (out : Writers) (m : Mapping) (settlement orders : CsvFile) :
    Except String (ℕ × RunSummary × Reports) := do
  let r ← reconcileFiles py m settlement orders
  let s := summarize m r
  pure (if s.total = 0 then 0 else 1, s, writeReports out r.findings s)

section Order

variable {t : Tolerances} {settlement orders : List Row} {findings findings' : List Finding}

lemma ident_of_orderKey {f g : Finding} (h : f.orderKey = g.orderKey) : f.ident = g.ident := by
  simp only [Finding.orderKey, List.cons.injEq, and_true] at h
  obtain ⟨hexception, hkind, href, hside⟩ := h
  have hexception : f.exception = g.exception := by
    revert hexception
    cases f.exception <;> cases g.exception <;> decide
  have hside : f.side = g.side := by
    revert hside
    cases f.side <;> cases g.side <;> decide
  have hkind : f.key.1 = g.key.1 := by
    revert hkind
    cases f.key.1 <;> cases g.key.1 <;> decide
  simp only [Finding.ident, Finding.statement, hexception, hside, Prod.ext hkind href]

lemma orderKey_nodup (t : Tolerances) (settlement orders : List Row) :
    ((reconcile t settlement orders).map Finding.orderKey).Nodup := by
  have hident := List.pairwise_map.1 (reconcile_ident_nodup t settlement orders)
  exact List.pairwise_map.2 (hident.imp fun hne heq => hne (ident_of_orderKey heq))

lemma findingsQuery_perm (hnodup : (findings.map Finding.orderKey).Nodup) (h : findings.Perm findings') :
    findingsQuery findings = findingsQuery findings' := by
  have hsorted : findings.insertionSort Finding.upTo = findings'.insertionSort Finding.upTo :=
    Relational.sort_perm h fun f hf g hg => List.inj_on_of_nodup_map hnodup hf hg
  rw [findingsQuery, findingsQuery, hsorted]

lemma writeReports_perm (out : Writers) (s : RunSummary) (hnodup : (findings.map Finding.orderKey).Nodup)
    (h : findings.Perm findings') : writeReports out findings s = writeReports out findings' s := by
  unfold writeReports writeCsv writeJson writeMarkdown
  rw [findingsQuery_perm hnodup h]

/-- The second file has the data rows of the first in some order, or reading either file stops with
an error of the reader. -/
inductive CsvFile.Reordered : CsvFile → CsvFile → Prop
  | rows {file file' : CsvFile} : file'.path = file.path → file'.header = file.header →
      file.failure = none → file'.failure = none →
      (file.records.map Prod.snd).Perm (file'.records.map Prod.snd) → Reordered file file'
  | unreadable {file file' : CsvFile} : file.failure ≠ none → file'.failure ≠ none → Reordered file file'

lemma CsvFile.Reordered.symm {file file' : CsvFile} (h : file.Reordered file') : file'.Reordered file := by
  cases h with
  | rows hpath hheader hfailure hfailure' hrows =>
    exact .rows hpath.symm hheader.symm hfailure' hfailure hrows.symm
  | unreadable hfailure hfailure' => exact .unreadable hfailure' hfailure

variable {py : Python} {m : Mapping} {side : SideMapping} {file file' : CsvFile} {loaded : Loaded}

lemma loadSide_reordered (h : file.Reordered file') (hload : loadSide py m side file = .ok loaded) :
    ∃ loaded', loadSide py m side file' = .ok loaded' ∧ loaded.rows.Perm loaded'.rows ∧
      loaded'.skipped = loaded.skipped := by
  obtain ⟨hfailure, hheader, columns, hcolumns, os, hos, rfl⟩ := loadSide_eq_ok.1 hload
  cases h with
  | unreadable hunread _ => exact absurd hfailure hunread
  | rows hpath hsame _ hfailure' hrows =>
    obtain ⟨os', hos', hperm⟩ := List.perm_comp_forall₂ hrows.symm hos
    refine ⟨⟨os'.reduceOption, os'.count none⟩, loadSide_eq_ok.2 ⟨hfailure', hsame ▸ hheader, columns,
      ?_, os', hsame ▸ hos', rfl⟩, ?_, ?_⟩
    · rw [hsame, hpath]
      exact hcolumns
    · exact (hperm.filterMap id).symm
    · exact hperm.count_eq none

lemma runReconcile_reordered {out : Writers} {settlement settlement' orders orders' : CsvFile}
    {result : ℕ × RunSummary × Reports} (hs : settlement.Reordered settlement')
    (ho : orders.Reordered orders') (hrun : runReconcile py out m settlement orders = .ok result) :
    runReconcile py out m settlement' orders' = .ok result := by
  simp only [runReconcile, bind_eq_ok, pure, Except.pure, Except.ok.injEq] at hrun ⊢
  obtain ⟨r, hr, rfl⟩ := hrun
  obtain ⟨s, o, hloadS, hloadO, rfl⟩ := reconcileFiles_eq_ok.1 hr
  obtain ⟨s', hloadS', hrowsS, hskipS⟩ := loadSide_reordered hs hloadS
  obtain ⟨o', hloadO', hrowsO, hskipO⟩ := loadSide_reordered ho hloadO
  refine ⟨_, reconcileFiles_eq_ok.2 ⟨s', o', hloadS', hloadO', rfl⟩, ?_⟩
  have hfindings : (reconcile m.tolerances s.rows o.rows).Perm (reconcile m.tolerances s'.rows o'.rows) :=
    reconcile_perm hrowsS hrowsO
  have hsummary : summarize m ⟨s', o', reconcile m.tolerances s'.rows o'.rows⟩ =
      summarize m ⟨s, o, reconcile m.tolerances s.rows o.rows⟩ := by
    simp only [summarize, Loaded.counts, hrowsS.length_eq, hrowsO.length_eq, hskipS, hskipO, hfindings.countP_eq]
  rw [hsummary, writeReports_perm out _ (orderKey_nodup _ _ _) hfindings]

/-- The order of the rows of either file changes no byte of a report, no count and no refusal; order keys differ, and
aggregates do not see the order. -/
theorem reports_order_independent (py : Python) (out : Writers) (m : Mapping) :
    (∀ settlement settlement' orders orders' : CsvFile, settlement.Reordered settlement' →
      orders.Reordered orders' → (runReconcile py out m settlement orders).toOption =
        (runReconcile py out m settlement' orders').toOption) ∧
    (∀ settlement orders r, reconcileFiles py m settlement orders = .ok r → (r.findings.map Finding.orderKey).Nodup) ∧
    ∀ k rows rows', rows.Perm rows' → aggregate k rows = aggregate k rows' := by
  refine ⟨?_, ?_, fun k _ _ h => aggregate_perm k h⟩
  · intro settlement settlement' orders orders' hs ho
    cases hrun : runReconcile py out m settlement orders with
    | ok result =>
      rw [runReconcile_reordered hs ho hrun]
    | error e =>
      cases hrun' : runReconcile py out m settlement' orders' with
      | error e' => rfl
      | ok result' =>
        have hback := runReconcile_reordered hs.symm ho.symm hrun'
        rw [hrun] at hback
        cases hback
  · intro settlement orders r hrun
    obtain ⟨s, o, -, -, rfl⟩ := reconcileFiles_eq_ok.1 hrun
    exact orderKey_nodup _ _ _

def refundCells : List String := ["rfnd_1", "refund", "40.00", "", "", "", "processed"]

def paymentCells : List String := ["pay_1", "payment", "100.00", "2.00", "", "", "processed"]

def plainWriters : Writers := ⟨fun row => ",".intercalate (row.map markdownCell), fun _ => "\x7b\x7d"⟩

theorem reports_order_independent_swap :
    (genericFile "s.csv" [paymentCells, refundCells]).Reordered
      (genericFile "s.csv" [refundCells, paymentCells]) ∧
    (runReconcile plainText plainWriters genericMapping (genericFile "s.csv" [paymentCells, refundCells])
        (orderedRefund "failed")).toOption =
      (runReconcile plainText plainWriters genericMapping (genericFile "s.csv" [refundCells, paymentCells])
        (orderedRefund "failed")).toOption := by
  have hswap : (genericFile "s.csv" [paymentCells, refundCells]).Reordered
      (genericFile "s.csv" [refundCells, paymentCells]) :=
    .rows rfl rfl rfl rfl (.swap refundCells paymentCells [])
  exact ⟨hswap, (reports_order_independent plainText plainWriters genericMapping).1 _ _ _ _ hswap
    (.rows rfl rfl rfl rfl (.refl _))⟩

end Order

section Coverage

variable {py : Python} {m : Mapping} {side : SideMapping} {columns : Columns} {file : CsvFile}
  {loaded : Loaded}

lemma resolveColumns_unmapped {header : List String} {path : String}
    (h : resolveColumns py header side path = .ok columns) :
    (side.fee = none → columns.fee = none) ∧ (side.tax = none → columns.tax = none) ∧
      (side.date = none → columns.date = none) ∧ (side.status = none → columns.status = none) ∧
      (side.kind = none → columns.kind = none) := by
  have hnone : ∀ {position : Option ℕ} {column : Option String},
      optionalIndex py header path column = .ok position → column = none → position = none := by
    rintro position _ hindex rfl
    cases hindex
    rfl
  cases hkind : side.kind with
  | none =>
    simp only [resolveColumns, hkind] at h
    split at h
    · cases h
    · simp only [bind_eq_ok, pure, Except.pure, Except.ok.injEq] at h
      obtain ⟨_, rfl, _, -, _, -, _, hfee, _, htax, _, hdate, _, hstatus, rfl⟩ := h
      exact ⟨hnone hfee, hnone htax, hnone hdate, hnone hstatus, fun _ => rfl⟩
  | some rule =>
    simp only [resolveColumns, hkind] at h
    split at h
    · cases h
    · simp only [bind_eq_ok, pure, Except.pure, Except.ok.injEq] at h
      obtain ⟨_, -, _, rfl, _, -, _, -, _, hfee, _, htax, _, hdate, _, hstatus, rfl⟩ := h
      exact ⟨hnone hfee, hnone htax, hnone hdate, hnone hstatus, nofun⟩

structure Row.Defaults (side : SideMapping) (row : Row) : Prop where
  fee : side.fee = none → row.fee = none
  tax : side.tax = none → row.tax = none
  day : side.date = none → row.day = none
  failed : side.status = none → row.failed = false
  kind : side.kind = none → row.kind = .payment

lemma parseRow_defaults {header cells : List String} {path p : String} {row : Row}
    (hcolumns : resolveColumns py header side path = .ok columns)
    (hrow : parseRow py m side columns cells p = .ok (some row)) : row.Defaults side := by
  obtain ⟨hfee, htax, hdate, hstatus, hkind⟩ := resolveColumns_unmapped hcolumns
  obtain ⟨-, hkindCell, hparsed⟩ := parseRow_some.1 hrow
  constructor
  · intro hunmapped
    have hcell := hparsed.fee
    rw [hfee hunmapped] at hcell
    exact (Except.ok.inj hcell).symm
  · intro hunmapped
    have hcell := hparsed.tax
    rw [htax hunmapped] at hcell
    exact (Except.ok.inj hcell).symm
  · intro hunmapped
    have hcell := hparsed.day
    rw [hdate hunmapped] at hcell
    exact (Except.ok.inj hcell).symm
  · intro hunmapped
    have hcell := hparsed.failed
    rw [hstatus hunmapped] at hcell
    exact (Except.ok.inj hcell).symm
  · intro hunmapped
    rw [hkind hunmapped] at hkindCell
    exact (Option.some.inj (Except.ok.inj hkindCell)).symm

lemma loadSide_defaults (h : loadSide py m side file = .ok loaded) : ∀ row ∈ loaded.rows, row.Defaults side := by
  obtain ⟨-, -, columns, hcolumns, os, hos, rfl⟩ := loadSide_eq_ok.1 h
  intro row hrow
  obtain ⟨i, hi, hget⟩ := List.mem_iff_getElem.1 (List.reduceOption_mem_iff.1 hrow)
  obtain ⟨-, p, hparse⟩ := hos.get (hos.length_eq ▸ hi) hi
  exact parseRow_defaults hcolumns (hparse.trans (congrArg _ hget))

section Findings

variable {t : Tolerances} {settlement orders : List Row} {f : Finding}

lemma Paired.mem {k : Reference} {y x : Row} (h : Paired settlement orders k y x) : y ∈ orders ∧ x ∈ settlement :=
  ⟨(rowsOf_singleton h.order).1, (rowsOf_singleton h.settled).1⟩

lemma compared (hf : f ∈ reconcile t settlement orders) :
    (f.exception = .feeDifference → ∃ y ∈ orders, ∃ x ∈ settlement, y.fee ≠ none ∧ x.fee ≠ none) ∧
    (f.exception = .gstDifference → ∃ y ∈ orders, ∃ x ∈ settlement, y.tax ≠ none ∧ x.tax ≠ none) ∧
    (f.exception = .timing → ∃ y ∈ orders, ∃ x ∈ settlement, y.day ≠ none ∧ x.day ≠ none) ∧
    (f.exception = .failedButDebited → ∃ y ∈ orders, y.failed = true) := by
  cases exceptional_of_mem hf with
  | feeDifference hpair _ _ ha hb _ =>
    exact ⟨fun _ => ⟨_, hpair.mem.1, _, hpair.mem.2, by simp [ha], by simp [hb]⟩, nofun, nofun, nofun⟩
  | gstDifference hpair _ _ ha hb _ =>
    exact ⟨nofun, fun _ => ⟨_, hpair.mem.1, _, hpair.mem.2, by simp [ha], by simp [hb]⟩, nofun, nofun⟩
  | timing hpair _ _ ha hb _ =>
    exact ⟨nofun, nofun, fun _ => ⟨_, hpair.mem.1, _, hpair.mem.2, by simp [ha], by simp [hb]⟩, nofun⟩
  | failedButDebited hpair _ hfailed =>
    exact ⟨nofun, nofun, nofun, fun _ => ⟨_, hpair.mem.1, hfailed⟩⟩
  | missingInSettlement _ _ _ =>
    unfold Finding.missingInSettlement
    split <;> exact ⟨nofun, nofun, nofun, nofun⟩
  | _ => exact ⟨nofun, nofun, nofun, nofun⟩

structure NoRefunds (settlement orders : List Row) : Prop where
  settlement : ∀ x ∈ settlement, x.kind ≠ .refund
  orders : ∀ y ∈ orders, y.kind = .refund → y.failed = true ∧ Row.of orders y.key = [y]

lemma NoRefunds.silent (h : NoRefunds settlement orders) (hf : f ∈ reconcile t settlement orders) :
    f.key.1 ≠ .refund := by
  have hpaired : ∀ {k y x}, Paired settlement orders k y x → k.1 ≠ .refund := by
    intro k y x hpair hkind
    obtain ⟨hx, rfl⟩ := rowsOf_singleton hpair.settled
    exact h.settlement x hx hkind
  cases exceptional_of_mem hf with
  | @duplicateSettlement k hn =>
    intro hkind
    obtain ⟨x, hx, rfl⟩ := rowsOf_ne_nil.1 (List.ne_nil_of_length_pos (by omega : 0 < (Row.of settlement k).length))
    exact h.settlement x hx hkind
  | @duplicateOrder k hn =>
    intro hkind
    obtain ⟨y, hy, rfl⟩ := rowsOf_ne_nil.1 (List.ne_nil_of_length_pos (by omega : 0 < (Row.of orders k).length))
    rw [(h.orders y hy hkind).2] at hn
    simp at hn
  | @missingInSettlement y hy hopen _ =>
    intro hkind
    rw [missingInSettlement_key] at hkind
    rw [(h.orders y hy hkind).1] at hopen
    cases hopen
  | @missingInOrders x hx _ => exact h.settlement x hx
  | amountMismatch hpair _ _ => exact hpaired hpair
  | feeDifference hpair _ _ _ _ _ => exact hpaired hpair
  | gstDifference hpair _ _ _ _ _ => exact hpaired hpair
  | timing hpair _ _ _ _ _ => exact hpaired hpair
  | failedButDebited hpair _ _ => exact hpaired hpair

lemma noRefunds_iff (hkind : (∀ x ∈ settlement, x.kind = .payment) ∨ ∀ y ∈ orders, y.kind = .payment) :
    (∀ f ∈ reconcile t settlement orders, f.key.1 ≠ .refund) ↔ NoRefunds settlement orders := by
  refine ⟨fun hsilent => ⟨?_, ?_⟩, fun h f hf => h.silent hf⟩
  · intro x hx hrefund
    have hpayments : ∀ y ∈ orders, y.kind = .payment := by
      rcases hkind with hsettled | hordered
      · rw [hsettled x hx] at hrefund
        cases hrefund
      · exact hordered
    refine hsilent _ (Exceptional.missingInOrders hx fun y hy hkey => ?_).mem hrefund
    have hsame : y.kind = x.kind := congrArg Prod.fst hkey
    rw [hpayments y hy, hrefund] at hsame
    cases hsame
  · intro y hy hrefund
    have hpayments : ∀ x ∈ settlement, x.kind = .payment := by
      rcases hkind with hsettled | hordered
      · exact hsettled
      · rw [hordered y hy] at hrefund
        cases hrefund
    constructor
    · by_contra hopen
      have hopen' : y.failed = false := by simpa using hopen
      refine hsilent _ (Exceptional.missingInSettlement hy hopen' fun x hx hkey => ?_).mem ?_
      · have hsame : x.kind = y.kind := congrArg Prod.fst hkey
        rw [hpayments x hx, hrefund] at hsame
        cases hsame
      · rw [missingInSettlement_key]
        exact hrefund
    · refine rowsOf_eq_singleton ?_ hy
      by_contra hmany
      exact hsilent _ (Exceptional.duplicateOrder (not_le.1 hmany)).mem hrefund

end Findings

@[simp] lemma isNone_or {α β : Type} {a : Option α} {b : Option β} :
    (a.isNone || b.isNone) = true ↔ a = none ∨ b = none := by
  cases a <;> cases b <;> simp

lemma mem_coverage : (feeNote ∈ coverage m ↔ m.settlement.fee = none ∨ m.orders.fee = none) ∧
    (taxNote ∈ coverage m ↔ m.settlement.tax = none ∨ m.orders.tax = none) ∧
    (dateNote ∈ coverage m ↔ m.settlement.date = none ∨ m.orders.date = none) ∧
    (orderStatusNote ∈ coverage m ↔ m.orders.status = none) ∧
    (refundNote ∈ coverage m ↔ m.settlement.kind = none ∨ m.orders.kind = none) := by
  have hmem : ∀ {a b : String} {c : Prop} [Decidable c], a ∈ (if c then [b] else []) ↔ c ∧ a = b := by
    intro a b c _
    split <;> simp_all
  simp only [coverage, List.mem_append, hmem, isNone_or, Option.isNone_iff_eq_none]
  simp [feeNote, taxNote, dateNote, orderStatusNote, settlementStatusNote, refundNote]

theorem unevaluated_silent {settlement orders : CsvFile} {r : Report}
    (hrun : reconcileFiles py m settlement orders = .ok r) :
    (feeNote ∈ coverage m → ∀ f ∈ r.findings, f.exception ≠ .feeDifference) ∧
    (taxNote ∈ coverage m → ∀ f ∈ r.findings, f.exception ≠ .gstDifference) ∧
    (dateNote ∈ coverage m → ∀ f ∈ r.findings, f.exception ≠ .timing) ∧
    (orderStatusNote ∈ coverage m → ∀ f ∈ r.findings, f.exception ≠ .failedButDebited) ∧
    (refundNote ∈ coverage m → ((∀ f ∈ r.findings, f.key.1 ≠ .refund) ↔
      NoRefunds r.settlement.rows r.orders.rows)) := by
  obtain ⟨s, o, hs, ho, rfl⟩ := reconcileFiles_eq_ok.1 hrun
  have hs := loadSide_defaults hs
  have ho := loadSide_defaults ho
  simp only [mem_coverage]
  refine ⟨?_, ?_, ?_, ?_, ?_⟩
  · rintro hunmapped f hf hexception
    obtain ⟨y, hy, x, hx, hyfee, hxfee⟩ := (compared hf).1 hexception
    exact hunmapped.elim (fun h => hxfee ((hs x hx).fee h)) fun h => hyfee ((ho y hy).fee h)
  · rintro hunmapped f hf hexception
    obtain ⟨y, hy, x, hx, hytax, hxtax⟩ := (compared hf).2.1 hexception
    exact hunmapped.elim (fun h => hxtax ((hs x hx).tax h)) fun h => hytax ((ho y hy).tax h)
  · rintro hunmapped f hf hexception
    obtain ⟨y, hy, x, hx, hyday, hxday⟩ := (compared hf).2.2.1 hexception
    exact hunmapped.elim (fun h => hxday ((hs x hx).day h)) fun h => hyday ((ho y hy).day h)
  · rintro hunmapped f hf hexception
    obtain ⟨y, hy, hfailed⟩ := (compared hf).2.2.2 hexception
    rw [(ho y hy).failed hunmapped] at hfailed
    cases hfailed
  · rintro hunmapped
    exact noRefunds_iff (hunmapped.imp (fun h x hx => (hs x hx).kind h) fun h y hy => (ho y hy).kind h)

def untypedSettlement : Mapping := { genericMapping with settlement := { genericSide with kind := none } }

def paymentReport : Report :=
  ⟨⟨[⟨.payment, "pay_1", 10000, some 200, none, none, false⟩], 0⟩,
   ⟨[⟨.refund, "rfnd_1", 4000, none, none, none, true⟩], 0⟩,
   [.missingInOrders (.payment, "pay_1") (some 10000)]⟩

theorem unevaluated_silent_failed_refund :
    reconcileFiles plainText untypedSettlement (genericFile "s.csv" [paymentCells]) (orderedRefund "failed") =
      .ok paymentReport ∧ (∀ f ∈ paymentReport.findings, f.key.1 ≠ .refund) := by
  have hrun : reconcileFiles plainText untypedSettlement (genericFile "s.csv" [paymentCells])
      (orderedRefund "failed") = .ok paymentReport := by rfl
  refine ⟨hrun, ((unevaluated_silent hrun).2.2.2.2 (mem_coverage.2.2.2.2.2 (.inl rfl))).2 ⟨?_, ?_⟩⟩
  · decide
  · decide

theorem unevaluated_refund_reported : ∃ (py : Python) (m : Mapping) (settlement orders : CsvFile) (r : Report),
    reconcileFiles py m settlement orders = .ok r ∧ refundNote ∈ (summarize m r).coverage ∧
      ∃ f ∈ r.findings, f.exception = .refundNotLanded :=
  ⟨plainText, untypedSettlement, genericFile "s.csv" [], orderedRefund "processed",
    ⟨⟨[], 0⟩, ⟨[refundRow false], 0⟩, [.missingInSettlement (.refund, "rfnd_1") (some 4000)]⟩,
    rfl, mem_coverage.2.2.2.2.2 (.inl rfl), _, List.mem_singleton_self _, rfl⟩

end Coverage

end RelayPay.Reconcile
