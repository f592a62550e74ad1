import RelayPay.Relational.Aggregate

namespace RelayPay.Reconcile

open Relational

inductive Kind where
  | payment | refund
  deriving DecidableEq

inductive ReportSide where
  | orders | settlement | both
  deriving DecidableEq

inductive ExceptionKind where
  | missingInSettlement | missingInOrders | amountMismatch | duplicate | feeDifference
  | gstDifference | timing | refundNotLanded | failedButDebited
  deriving DecidableEq

/-- A row of either side. Amounts are paise and `day` is an ordinal date; ingest keeps them far
below what SQLite stores as INTEGER. -/
structure Row where
  kind : Kind
  ref : String
  amount : ℤ
  fee : Option ℤ
  tax : Option ℤ
  day : Option ℤ
  failed : Bool
  deriving DecidableEq

abbrev Reference := Kind × String

def Row.key (r : Row) : Reference := (r.kind, r.ref)

structure KeyRow where
  key : Reference
  n : ℕ
  failed : Bool
  amount : ℤ
  fee : Option ℤ
  tax : Option ℤ
  day : Option ℤ

/-- `failed` is 0 or 1, so its MIN says whether all rows failed. -/
def aggregate (k : Reference) (rows : List Row) : KeyRow where
  key := k
  n := rows.length
  failed := rows.all Row.failed
  amount := (rows.map Row.amount).max?.getD 0
  fee := maxNonNull (rows.map Row.fee)
  tax := maxNonNull (rows.map Row.tax)
  day := maxNonNull (rows.map Row.day)

def keys (rows : List Row) : List KeyRow := groupBy Row.key aggregate rows

structure PairRow where
  key : Reference
  oFailed : Bool
  oAmount : ℤ
  sAmount : ℤ
  oFee : Option ℤ
  sFee : Option ℤ
  oTax : Option ℤ
  sTax : Option ℤ
  oDay : Option ℤ
  sDay : Option ℤ

def pairRow (ok sk : KeyRow) : PairRow where
  key := ok.key
  oFailed := ok.failed
  oAmount := ok.amount
  sAmount := sk.amount
  oFee := ok.fee
  sFee := sk.fee
  oTax := ok.tax
  sTax := sk.tax
  oDay := ok.day
  sDay := sk.day

def pairs (okeys skeys : List KeyRow) : List PairRow :=
  okeys.flatMap fun ok => select skeys
    (fun sk => sk.key = ok.key && ok.n = 1 && sk.n = 1 && !sk.failed) (pairRow ok)

structure Finding where
  exception : ExceptionKind
  key : Reference
  side : ReportSide
  expected : Option ℤ
  actual : Option ℤ
  detail : String
  deriving DecidableEq

structure Tolerances where
  tolerancePaise : ℕ
  minDays : ℤ
  maxDays : ℤ

def differs (t : Tolerances) : Option ℤ → Option ℤ → Bool
  | some a, some b => t.tolerancePaise < |a - b|
  | _, _ => false

def printed : Option ℤ → String
  | some a => toString a
  | none => "0"

def outsideWindow (t : Tolerances) : Option ℤ → Option ℤ → Bool
  | some o, some s => s - o < t.minDays || t.maxDays < s - o
  | _, _ => false

def daysAfter : Option ℤ → Option ℤ → ℤ
  | some o, some s => s - o
  | _, _ => 0

def Finding.duplicate (side : ReportSide) (label : String) (k : Reference) (n : ℕ) : Finding :=
  ⟨.duplicate, k, side, none, none, toString n ++ " " ++ label ++ " rows share this reference"⟩

def Finding.missingInSettlement (k : Reference) (expected : Option ℤ) : Finding :=
  if k.1 = .refund then
    ⟨.refundNotLanded, k, .orders, expected, none, "no landed refund row in the settlement"⟩
  else ⟨.missingInSettlement, k, .orders, expected, none, "no landed settlement row for this order"⟩

def Finding.missingInOrders (k : Reference) (actual : Option ℤ) : Finding :=
  ⟨.missingInOrders, k, .settlement, none, actual, "no order with this reference"⟩

def Finding.amountMismatch (k : Reference) (o s : ℤ) : Finding :=
  ⟨.amountMismatch, k, .both, some o, some s,
    "ordered " ++ toString o ++ " paise, settled " ++ toString s ++ " paise"⟩

def Finding.feeDifference (k : Reference) (o s : Option ℤ) : Finding :=
  ⟨.feeDifference, k, .both, o, s,
    "expected fee " ++ printed o ++ " paise, settled fee " ++ printed s ++ " paise"⟩

def Finding.gstDifference (k : Reference) (o s : Option ℤ) : Finding :=
  ⟨.gstDifference, k, .both, o, s,
    "expected tax " ++ printed o ++ " paise, settled tax " ++ printed s ++ " paise"⟩

def Finding.timing (t : Tolerances) (k : Reference) (days : ℤ) : Finding :=
  ⟨.timing, k, .both, none, none, "settled " ++ toString days ++
    " day(s) after the order date, window is " ++ toString t.minDays ++ " to " ++ toString t.maxDays⟩

def Finding.failedButDebited (k : Reference) (s : ℤ) : Finding :=
  ⟨.failedButDebited, k, .both, some 0, some s,
    "order status is failed but the settlement shows a landed debit"⟩

def KeyRow.single (k : KeyRow) : Option ℤ := if k.n = 1 then some k.amount else none

def lands (skeys : List KeyRow) (k : Reference) : Bool := skeys.any fun s => s.key = k && !s.failed

def ordered (okeys : List KeyRow) (k : Reference) : Bool := okeys.any fun o => o.key = k

def statements (t : Tolerances) (okeys skeys : List KeyRow) : List (List Finding) :=
  let joined := pairs okeys skeys
  [select skeys (fun s => 1 < s.n) fun s => .duplicate .settlement "settlement" s.key s.n,
   select okeys (fun o => 1 < o.n) fun o => .duplicate .orders "order" o.key o.n,
   select okeys (fun o => !o.failed && !lands skeys o.key) fun o => .missingInSettlement o.key o.single,
   select skeys (fun s => !ordered okeys s.key) fun s => .missingInOrders s.key s.single,
   select joined (fun p => !p.oFailed && differs t (some p.oAmount) (some p.sAmount))
     fun p => .amountMismatch p.key p.oAmount p.sAmount,
   select joined (fun p => p.key.1 = .payment && !p.oFailed && differs t p.oFee p.sFee)
     fun p => .feeDifference p.key p.oFee p.sFee,
   select joined (fun p => p.key.1 = .payment && !p.oFailed && differs t p.oTax p.sTax)
     fun p => .gstDifference p.key p.oTax p.sTax,
   select joined (fun p => p.key.1 = .payment && !p.oFailed && outsideWindow t p.oDay p.sDay)
     fun p => .timing t p.key (daysAfter p.oDay p.sDay),
   select joined (fun p => p.key.1 = .payment && p.oFailed)
     fun p => .failedButDebited p.key p.sAmount]

def reconcile (t : Tolerances) (settlement orders : List Row) : List Finding :=
  (statements t (keys orders) (keys settlement)).flatten

def Row.of (rows : List Row) (k : Reference) : List Row := rowsOf Row.key rows k

structure Paired (settlement orders : List Row) (k : Reference) (y x : Row) : Prop where
  order : Row.of orders k = [y]
  settled : Row.of settlement k = [x]
  landed : x.failed = false

inductive Exceptional (t : Tolerances) (settlement orders : List Row) : Finding → Prop
  | duplicateSettlement {k} : 1 < (Row.of settlement k).length →
      Exceptional t settlement orders
        (.duplicate .settlement "settlement" k (Row.of settlement k).length)
  | duplicateOrder {k} : 1 < (Row.of orders k).length →
      Exceptional t settlement orders (.duplicate .orders "order" k (Row.of orders k).length)
  | missingInSettlement {y} : y ∈ orders → y.failed = false →
      (∀ x ∈ settlement, x.key = y.key → x.failed = true) →
      Exceptional t settlement orders (.missingInSettlement y.key
        (if Row.of orders y.key = [y] then some y.amount else none))
  | missingInOrders {x} : x ∈ settlement → (∀ y ∈ orders, y.key ≠ x.key) →
      Exceptional t settlement orders (.missingInOrders x.key
        (if Row.of settlement x.key = [x] then some x.amount else none))
  | amountMismatch {k y x} : Paired settlement orders k y x → y.failed = false →
      t.tolerancePaise < |y.amount - x.amount| →
      Exceptional t settlement orders (.amountMismatch k y.amount x.amount)
  | feeDifference {k y x a b} : Paired settlement orders k y x → k.1 = .payment → y.failed = false →
      y.fee = some a → x.fee = some b → t.tolerancePaise < |a - b| →
      Exceptional t settlement orders (.feeDifference k (some a) (some b))
  | gstDifference {k y x a b} : Paired settlement orders k y x → k.1 = .payment → y.failed = false →
      y.tax = some a → x.tax = some b → t.tolerancePaise < |a - b| →
      Exceptional t settlement orders (.gstDifference k (some a) (some b))
  | timing {k y x a b} : Paired settlement orders k y x → k.1 = .payment → y.failed = false →
      y.day = some a → x.day = some b → b - a < t.minDays ∨ t.maxDays < b - a →
      Exceptional t settlement orders (.timing t k (b - a))
  | failedButDebited {k y x} : Paired settlement orders k y x → k.1 = .payment → y.failed = true →
      Exceptional t settlement orders (.failedButDebited k x.amount)

section Aggregates

variable {settlement orders rows : List Row} {k : Reference}

lemma mem_keys {row : KeyRow} : row ∈ keys rows ↔
    ∃ k, Row.of rows k ≠ [] ∧ row = aggregate k (Row.of rows k) :=
  mem_groupBy

lemma keys_nodup (rows : List Row) : ((keys rows).map KeyRow.key).Nodup :=
  groupBy_nodup fun _ _ => rfl

lemma aggregate_singleton (k : Reference) (r : Row) :
    aggregate k [r] = ⟨k, 1, r.failed, r.amount, r.fee, r.tax, r.day⟩ := by
  simp [aggregate]

lemma aggregate_single (k : Reference) {r : Row} (hr : r ∈ rows) :
    (aggregate k rows).single = if rows = [r] then some r.amount else none := by
  by_cases hlength : rows.length = 1
  · obtain ⟨r', hrows⟩ := List.length_eq_one_iff.1 hlength
    subst hrows
    rw [List.mem_singleton.1 hr, aggregate_singleton]
    simp [KeyRow.single]
  · have hne : rows ≠ [r] := by
      rintro rfl
      exact hlength rfl
    rw [if_neg hne]
    exact if_neg hlength

lemma aggregate_failed (k : Reference) : (aggregate k rows).failed = false ↔ ∃ r ∈ rows, r.failed = false := by
  simp [aggregate]

lemma lands_iff : lands (keys settlement) k = true ↔
    ∃ x ∈ settlement, x.key = k ∧ x.failed = false := by
  simp only [lands, List.any_eq_true, mem_keys, Bool.and_eq_true, decide_eq_true_eq, Bool.not_eq_true']
  constructor
  · rintro ⟨_, ⟨k', -, rfl⟩, rfl, hlanded⟩
    obtain ⟨x, hx, hfailed⟩ := (aggregate_failed k').1 hlanded
    obtain ⟨hmem, hkey⟩ := mem_rowsOf.1 hx
    exact ⟨x, hmem, hkey, hfailed⟩
  · rintro ⟨x, hx, rfl, hfailed⟩
    have hof : x ∈ Row.of settlement x.key := mem_rowsOf.2 ⟨hx, rfl⟩
    exact ⟨_, ⟨x.key, List.ne_nil_of_mem hof, rfl⟩, rfl, (aggregate_failed _).2 ⟨x, hof, hfailed⟩⟩

lemma ordered_iff : ordered (keys orders) k = true ↔ ∃ y ∈ orders, y.key = k := by
  simp only [ordered, List.any_eq_true, mem_keys, decide_eq_true_eq]
  constructor
  · rintro ⟨_, ⟨k', hne, rfl⟩, rfl⟩
    exact rowsOf_ne_nil.1 hne
  · rintro hex
    exact ⟨_, ⟨k, rowsOf_ne_nil.2 hex, rfl⟩, rfl⟩

def Paired.row (k : Reference) (y x : Row) : PairRow :=
  ⟨k, y.failed, y.amount, x.amount, y.fee, x.fee, y.tax, x.tax, y.day, x.day⟩

lemma mem_pairs {p : PairRow} : p ∈ pairs (keys orders) (keys settlement) ↔
    ∃ k y x, Paired settlement orders k y x ∧ p = Paired.row k y x := by
  simp only [pairs, List.mem_flatMap, mem_select, mem_keys, Bool.and_eq_true, decide_eq_true_eq, Bool.not_eq_true']
  constructor
  · rintro ⟨_, ⟨k, -, rfl⟩, _, ⟨k', -, rfl⟩, ⟨⟨⟨hkey, horder⟩, hsettled⟩, hlanded⟩, rfl⟩
    change k' = k at hkey
    subst hkey
    obtain ⟨y, hy⟩ := List.length_eq_one_iff.1 horder
    obtain ⟨x, hx⟩ := List.length_eq_one_iff.1 hsettled
    rw [hx, aggregate_singleton] at hlanded
    rw [hx, hy, aggregate_singleton, aggregate_singleton]
    exact ⟨k', y, x, ⟨hy, hx, hlanded⟩, rfl⟩
  · rintro ⟨k, y, x, ⟨hy, hx, hlanded⟩, rfl⟩
    refine ⟨_, ⟨k, by simp [hy], rfl⟩, _, ⟨k, by simp [hx], rfl⟩, ?_⟩
    rw [hx, hy, aggregate_singleton, aggregate_singleton]
    exact ⟨⟨⟨⟨rfl, rfl⟩, rfl⟩, hlanded⟩, rfl⟩

lemma pairs_nodup {okeys skeys : List KeyRow} (ho : (okeys.map KeyRow.key).Nodup)
    (hs : (skeys.map KeyRow.key).Nodup) : ((pairs okeys skeys).map PairRow.key).Nodup := by
  induction okeys with
  | nil => exact List.nodup_nil
  | cons ok rest ih =>
    rw [List.map_cons, List.nodup_cons] at ho
    rw [pairs, List.flatMap_cons, List.map_append, List.nodup_append']
    refine ⟨select_nodup ?_ hs, ih ho.2, ?_⟩
    · intro sk hsk
      simp only [Bool.and_eq_true, decide_eq_true_eq] at hsk
      exact hsk.1.1.1.symm
    · intro k hk hrest
      obtain ⟨p, hp, rfl⟩ := List.mem_map.1 hk
      obtain ⟨sk, -, -, rfl⟩ := mem_select.1 hp
      obtain ⟨q, hq, hkey⟩ := List.mem_map.1 hrest
      obtain ⟨ok', hok', hq'⟩ := List.mem_flatMap.1 hq
      obtain ⟨sk', -, -, rfl⟩ := mem_select.1 hq'
      apply ho.1
      have hsame : ok'.key = ok.key := hkey
      exact hsame ▸ List.mem_map_of_mem hok'

end Aggregates

section Findings

variable {t : Tolerances} {settlement orders : List Row} {f : Finding}

lemma differs_iff {a b : Option ℤ} : differs t a b = true ↔
    ∃ x y, a = some x ∧ b = some y ∧ t.tolerancePaise < |x - y| := by
  unfold differs
  split
  · simp
  · next hnone =>
    simp only [Bool.false_eq_true, false_iff]
    rintro ⟨x, y, rfl, rfl, -⟩
    exact hnone x y rfl rfl

lemma outsideWindow_iff {o s : Option ℤ} : outsideWindow t o s = true ↔
    ∃ x y, o = some x ∧ s = some y ∧ (y - x < t.minDays ∨ t.maxDays < y - x) := by
  unfold outsideWindow
  split
  · simp
  · next hnone =>
    simp only [Bool.false_eq_true, false_iff]
    rintro ⟨x, y, rfl, rfl, -⟩
    exact hnone x y rfl rfl

lemma mem_reconcile : f ∈ reconcile t settlement orders ↔
    ∃ part ∈ statements t (keys orders) (keys settlement), f ∈ part :=
  List.mem_flatten

lemma exceptional_of_mem (h : f ∈ reconcile t settlement orders) : Exceptional t settlement orders f := by
  rw [mem_reconcile] at h
  simp only [statements, List.mem_cons, List.not_mem_nil, or_false, exists_eq_or_imp, exists_eq_left,
    mem_select, mem_pairs, mem_keys, Bool.and_eq_true, decide_eq_true_eq, Bool.not_eq_true',
    differs_iff, outsideWindow_iff] at h
  rcases h with h | h | h | h | h | h | h | h | h
  · obtain ⟨_, ⟨k, -, rfl⟩, hn, rfl⟩ := h
    exact .duplicateSettlement hn
  · obtain ⟨_, ⟨k, -, rfl⟩, hn, rfl⟩ := h
    exact .duplicateOrder hn
  · obtain ⟨_, ⟨k, -, rfl⟩, ⟨hfailed, hlands⟩, rfl⟩ := h
    obtain ⟨y, hy, hopen⟩ := (aggregate_failed k).1 hfailed
    obtain ⟨hmem, rfl⟩ := mem_rowsOf.1 hy
    rw [aggregate_single _ hy]
    refine .missingInSettlement hmem hopen fun x hx hkey => ?_
    by_contra hlanded
    have hany := lands_iff.2 ⟨x, hx, hkey, by simpa using hlanded⟩
    exact absurd (hlands.symm.trans hany) (by simp)
  · obtain ⟨_, ⟨k, hne, rfl⟩, hordered, rfl⟩ := h
    obtain ⟨x, hx, rfl⟩ := rowsOf_ne_nil.1 hne
    have hof : x ∈ Row.of settlement x.key := mem_rowsOf.2 ⟨hx, rfl⟩
    rw [aggregate_single _ hof]
    refine .missingInOrders hx fun y hy hkey => ?_
    exact absurd (hordered.symm.trans (ordered_iff.2 ⟨y, hy, hkey⟩)) (by simp)
  · obtain ⟨_, ⟨k, y, x, hpair, rfl⟩, ⟨hopen, a, b, ha, hb, hdiff⟩, rfl⟩ := h
    cases ha
    cases hb
    exact .amountMismatch hpair hopen hdiff
  · obtain ⟨_, ⟨k, y, x, hpair, rfl⟩, ⟨⟨hkind, hopen⟩, a, b, ha, hb, hdiff⟩, rfl⟩ := h
    rw [ha, hb]
    exact .feeDifference hpair hkind hopen ha hb hdiff
  · obtain ⟨_, ⟨k, y, x, hpair, rfl⟩, ⟨⟨hkind, hopen⟩, a, b, ha, hb, hdiff⟩, rfl⟩ := h
    rw [ha, hb]
    exact .gstDifference hpair hkind hopen ha hb hdiff
  · obtain ⟨_, ⟨k, y, x, hpair, rfl⟩, ⟨⟨hkind, hopen⟩, a, b, ha, hb, hout⟩, rfl⟩ := h
    rw [ha, hb]
    exact .timing hpair hkind hopen ha hb hout
  · obtain ⟨_, ⟨k, y, x, hpair, rfl⟩, ⟨hkind, hfailed⟩, rfl⟩ := h
    exact .failedButDebited hpair hkind hfailed

lemma Exceptional.mem (h : Exceptional t settlement orders f) : f ∈ reconcile t settlement orders := by
  have hkey : ∀ {rows : List Row} {k : Reference}, Row.of rows k ≠ [] →
      aggregate k (Row.of rows k) ∈ keys rows := fun hne => mem_keys.2 ⟨_, hne, rfl⟩
  have hjoin : ∀ {k y x}, Paired settlement orders k y x →
      Paired.row k y x ∈ pairs (keys orders) (keys settlement) :=
    fun hpair => mem_pairs.2 ⟨_, _, _, hpair, rfl⟩
  rw [mem_reconcile]
  simp only [statements, List.mem_cons, List.not_mem_nil, or_false, exists_eq_or_imp, exists_eq_left,
    mem_select, Bool.and_eq_true, decide_eq_true_eq, Bool.not_eq_true', differs_iff, outsideWindow_iff]
  cases h with
  | @duplicateSettlement k hn =>
    left
    exact ⟨_, hkey (List.ne_nil_of_length_pos (by omega)), hn, rfl⟩
  | @duplicateOrder k hn =>
    right; left
    exact ⟨_, hkey (List.ne_nil_of_length_pos (by omega)), hn, rfl⟩
  | @missingInSettlement y hy hopen hnone =>
    right; right; left
    have hof : y ∈ Row.of orders y.key := mem_rowsOf.2 ⟨hy, rfl⟩
    refine ⟨_, hkey (List.ne_nil_of_mem hof), ⟨(aggregate_failed _).2 ⟨y, hof, hopen⟩, ?_⟩, ?_⟩
    · rw [Bool.eq_false_iff]
      intro hlands
      obtain ⟨x, hx, hxy, hlanded⟩ := lands_iff.1 hlands
      rw [hnone x hx hxy] at hlanded
      cases hlanded
    · rw [aggregate_single _ hof]
      rfl
  | @missingInOrders x hx hnone =>
    right; right; right; left
    have hof : x ∈ Row.of settlement x.key := mem_rowsOf.2 ⟨hx, rfl⟩
    refine ⟨_, hkey (List.ne_nil_of_mem hof), ?_, ?_⟩
    · rw [Bool.eq_false_iff]
      intro hordered
      obtain ⟨y, hy, hyx⟩ := ordered_iff.1 hordered
      exact hnone y hy hyx
    · rw [aggregate_single _ hof]
      rfl
  | amountMismatch hpair hopen hdiff =>
    right; right; right; right; left
    exact ⟨_, hjoin hpair, ⟨hopen, _, _, rfl, rfl, hdiff⟩, rfl⟩
  | feeDifference hpair hkind hopen ha hb hdiff =>
    right; right; right; right; right; left
    exact ⟨_, hjoin hpair, ⟨⟨hkind, hopen⟩, _, _, ha, hb, hdiff⟩, by simp [Paired.row, ha, hb]⟩
  | gstDifference hpair hkind hopen ha hb hdiff =>
    right; right; right; right; right; right; left
    exact ⟨_, hjoin hpair, ⟨⟨hkind, hopen⟩, _, _, ha, hb, hdiff⟩, by simp [Paired.row, ha, hb]⟩
  | timing hpair hkind hopen ha hb hout =>
    right; right; right; right; right; right; right; left
    exact ⟨_, hjoin hpair, ⟨⟨hkind, hopen⟩, _, _, ha, hb, hout⟩, by
      simp [Paired.row, ha, hb, daysAfter]⟩
  | failedButDebited hpair hkind hfailed =>
    right; right; right; right; right; right; right; right
    exact ⟨_, hjoin hpair, ⟨hkind, hfailed⟩, rfl⟩

def Finding.statement (f : Finding) : ExceptionKind × ReportSide :=
  (if f.exception = .refundNotLanded then .missingInSettlement else f.exception, f.side)

lemma missingInSettlement_statement (k : Reference) (expected : Option ℤ) :
    (Finding.missingInSettlement k expected).statement = (.missingInSettlement, .orders) := by
  unfold Finding.missingInSettlement
  split <;> rfl

lemma missingInSettlement_key (k : Reference) (expected : Option ℤ) :
    (Finding.missingInSettlement k expected).key = k := by
  unfold Finding.missingInSettlement
  split <;> rfl

def statementTags : List (ExceptionKind × ReportSide) :=
  [(.duplicate, .settlement), (.duplicate, .orders), (.missingInSettlement, .orders),
   (.missingInOrders, .settlement), (.amountMismatch, .both), (.feeDifference, .both),
   (.gstDifference, .both), (.timing, .both), (.failedButDebited, .both)]

def Finding.ident (f : Finding) : (ExceptionKind × ReportSide) × Reference := (f.statement, f.key)

lemma reconcile_ident_nodup (t : Tolerances) (settlement orders : List Row) :
    ((reconcile t settlement orders).map Finding.ident).Nodup := by
  have hs := keys_nodup settlement
  have ho := keys_nodup orders
  have hp := pairs_nodup ho hs
  have honce : ∀ {ρ : Type} {table : List ρ} {p : ρ → Bool} {f : ρ → Finding} {name : ρ → Reference},
      (table.map name).Nodup → (∀ row, (f row).key = name row) →
      ((select table p f).map Finding.ident).Nodup := by
    intro ρ table p f name hname hf
    apply List.Nodup.of_map Prod.snd
    rw [List.map_map]
    exact select_nodup (fun row _ => hf row) hname
  let parts := statementTags.zip
    ((statements t (keys orders) (keys settlement)).map (List.map Finding.ident))
  have hflat : (reconcile t settlement orders).map Finding.ident = parts.flatMap Prod.snd := by
    simp [reconcile, parts, statements, statementTags]
  have htags : (parts.map Prod.fst).Nodup := by
    have hmap : parts.map Prod.fst = statementTags := rfl
    rw [hmap]
    decide
  rw [hflat]
  refine nodup_parts Prod.fst htags ?_ ?_
  · simp only [parts, statementTags, statements, List.map_cons, List.map_nil, List.zip_cons_cons,
      List.zip_nil_right, List.forall_mem_cons, List.not_mem_nil, List.mem_map, mem_select,
      false_imp_iff, implies_true, and_true]
    refine ⟨?_, ?_, ?_, ?_, ?_, ?_, ?_, ?_, ?_⟩
    all_goals rintro _ ⟨f, ⟨row, -, -, rfl⟩, rfl⟩
    case refine_3 => exact missingInSettlement_statement _ _
    all_goals rfl
  · simp only [parts, statementTags, statements, List.map_cons, List.map_nil, List.zip_cons_cons,
      List.zip_nil_right, List.forall_mem_cons, List.not_mem_nil, false_imp_iff, implies_true, and_true]
    refine ⟨?_, ?_, ?_, ?_, ?_, ?_, ?_, ?_, ?_⟩
    · exact honce hs fun _ => rfl
    · exact honce ho fun _ => rfl
    · exact honce ho fun _ => missingInSettlement_key _ _
    · exact honce hs fun _ => rfl
    all_goals exact honce hp fun _ => rfl

theorem findings_exact (t : Tolerances) (settlement orders : List Row) :
    (∀ f, f ∈ reconcile t settlement orders ↔ Exceptional t settlement orders f) ∧
      (reconcile t settlement orders).Nodup :=
  ⟨fun _ => ⟨exceptional_of_mem, Exceptional.mem⟩, (reconcile_ident_nodup t settlement orders).of_map Finding.ident⟩

end Findings

section Order

variable {settlement settlement' orders orders' rows rows' : List Row} {t : Tolerances}

lemma aggregate_perm (k : Reference) (h : rows.Perm rows') : aggregate k rows = aggregate k rows' := by
  unfold aggregate
  rw [h.length_eq, h.all_eq, max_perm (h.map Row.amount), maxNonNull_perm (h.map Row.fee),
    maxNonNull_perm (h.map Row.tax), maxNonNull_perm (h.map Row.day)]

lemma keys_perm (h : rows.Perm rows') : (keys rows).Perm (keys rows') :=
  groupBy_perm (fun k _ _ hg => aggregate_perm k hg) h

lemma pairs_perm {okeys okeys' skeys skeys' : List KeyRow} (ho : okeys.Perm okeys')
    (hs : skeys.Perm skeys') : (pairs okeys skeys).Perm (pairs okeys' skeys') :=
  ho.flatMap fun _ _ => select_perm hs

lemma reconcile_perm (hs : settlement.Perm settlement') (ho : orders.Perm orders') :
    (reconcile t settlement orders).Perm (reconcile t settlement' orders') := by
  have hsk := keys_perm hs
  have hok := keys_perm ho
  have hpk := pairs_perm hok hsk
  have hlands : lands (keys settlement) = lands (keys settlement') := funext fun _ => hsk.any_eq
  have hordered : ordered (keys orders) = ordered (keys orders') := funext fun _ => hok.any_eq
  apply List.Perm.flatten_congr
  simp only [statements, hlands, hordered, List.forall₂_cons, List.forall₂_nil_left_iff, and_true]
  exact ⟨select_perm hsk, select_perm hok, select_perm hok, select_perm hsk, select_perm hpk,
    select_perm hpk, select_perm hpk, select_perm hpk, select_perm hpk⟩

end Order

end RelayPay.Reconcile
