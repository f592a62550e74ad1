import RelayPay.Relational.Aggregate
import RelayPay.Statements.Exchange

/-! The matches and mismatches of a reconciliation run, as a function of what it has read. -/

namespace RelayPay.Statements

open ReadCommitted Relational

structure InternalEffect where
  amount : ℤ
  currency : String
  status : OperationStatus
  journal : Option JournalId
  resourcePublicId : String

def currency : String := "INR"

/-- The payment rows that `_internal_effects` reads, each table in a statement of its own. -/
structure InternalRows where
  authorizations : Table PaymentId PaymentIntent
  captures : Table PaymentId PaymentIntent
  voids : Table PaymentId PaymentIntent
  refunds : Table PaymentId PaymentIntent

def InternalRows.effect (rows : InternalRows) (o : OperationId) : Option InternalEffect :=
  match o with
  | .authorize p => ((rows.authorizations.get p).bind PaymentIntent.authorization).map fun a =>
      ⟨a.amount, currency, a.status, none, o.resourcePublicId⟩
  | .capture p => ((rows.captures.get p).bind PaymentIntent.capture).map fun c =>
      ⟨c.amount, currency, c.status, c.journal, o.resourcePublicId⟩
  | .void p => ((rows.voids.get p).bind PaymentIntent.void).map fun v =>
      ⟨v.amount, currency, v.status, none, o.resourcePublicId⟩
  | .refund p r => ((rows.refunds.get p).bind fun a => a.refunds.get r).map fun f =>
      ⟨f.amount, currency, f.status, f.journal, o.resourcePublicId⟩

abbrev OperationRow := OperationId × ProviderOperation

def inPeriod (statement : StatementImport) (op : ProviderOperation) : Bool :=
  statement.periodStart ≤ op.createdAt && op.createdAt < statement.periodEnd

def stableKeys (statement : StatementImport) : List String :=
  statement.items.map StatementItem.stableKey

def operationsRead (statement : StatementImport) (operations : Table OperationId ProviderOperation) :
    List OperationRow :=
  operations.rows.filter fun row => row.1.stableKey ∈ stableKeys statement || inPeriod statement row.2

structure Evidence where
  operations : Table OperationId ProviderOperation
  rows : InternalRows

inductive MismatchType where
  | duplicateProviderEffect | missingInternalTransaction | amountMismatch | currencyMismatch
  | statusMismatch | missingInternalJournal | missingProviderTransaction
  deriving DecidableEq

def MismatchType.text : MismatchType → String
  | .duplicateProviderEffect => "DUPLICATE_PROVIDER_EFFECT"
  | .missingInternalTransaction => "MISSING_INTERNAL_TRANSACTION"
  | .amountMismatch => "AMOUNT_MISMATCH"
  | .currencyMismatch => "CURRENCY_MISMATCH"
  | .statusMismatch => "STATUS_MISMATCH"
  | .missingInternalJournal => "MISSING_INTERNAL_JOURNAL"
  | .missingProviderTransaction => "MISSING_PROVIDER_TRANSACTION"

inductive MatchType where
  | exact | declinedWithoutJournal
  deriving DecidableEq

def journalText : JournalId → String
  | .capture p => publicId "capture" p
  | .refund p r => publicId "refund" (Nat.pair p r)
  | .settlement p => publicId "settlement" p
  | .payout q => publicId "payout" q

def internalJson (e : InternalEffect) : Json :=
  .obj [("amount", .int e.amount), ("currency", .str e.currency),
    ("journalId", .ofOptStr (e.journal.map journalText)), ("resourceId", .str e.resourcePublicId),
    ("status", .str e.status.text)]

def operationJson (row : OperationRow) : Json :=
  .obj [("id", .str row.1.publicId), ("kind", .str row.1.kind), ("stableKey", .str row.1.stableKey),
    ("status", .str row.2.status.text)]

def itemJson (item : StatementItem) : Json :=
  .obj [("amount", .int item.amount), ("currency", .str item.currency), ("id", .str item.providerItemId),
    ("kind", .str item.operationKind.text), ("stableKey", .str item.stableKey),
    ("status", .str item.providerStatus.text)]

def orNull {α : Type} (f : α → Json) : Option α → Json
  | some a => f a
  | none => .null

def evidenceJson (item : Option StatementItem) (operation : Option OperationRow)
    (internal : Option InternalEffect) (reason : String) : Json :=
  .obj [("internal", orNull internalJson internal), ("providerOperation", orNull operationJson operation),
    ("reason", .str reason), ("statementItem", orNull itemJson item)]

structure ReconciliationMatch where
  run : String
  item : String
  operation : OperationId
  journal : Option JournalId
  matchType : MatchType
  evidence : Json

structure ReconciliationMismatch where
  run : String
  subjectKey : String
  mismatchType : MismatchType
  item : Option String
  operation : Option OperationId
  evidence : Json

def itemSubject (item : StatementItem) (type : MismatchType) : String :=
  "statement:" ++ item.providerItemId ++ ":" ++ type.text

def operationSubject (o : OperationId) : String :=
  "operation:" ++ o.publicId ++ ":" ++ MismatchType.missingProviderTransaction.text

def itemMismatch (run : String) (item : StatementItem) (operation : Option OperationRow)
    (internal : Option InternalEffect) (type : MismatchType) (reason : String) : ReconciliationMismatch :=
  ⟨run, itemSubject item type, type, some item.providerItemId, operation.map Prod.fst,
    evidenceJson (some item) operation internal reason⟩

def providerStatus : OperationStatus → ProviderStatus
  | .succeeded => .succeeded
  | .failed => .declined
  | _ => .pending

def comparisons (item : StatementItem) (op : ProviderOperation) (internal : InternalEffect) :
    List (MismatchType × Bool × String) :=
  [(.amountMismatch, item.amount ≠ internal.amount, "amounts differ"),
   (.currencyMismatch, item.currency ≠ internal.currency, "currencies differ"),
   (.statusMismatch, item.providerStatus ≠ providerStatus internal.status ||
      item.providerStatus ≠ providerStatus op.status, "provider and internal statuses differ"),
   (.missingInternalJournal, item.providerStatus = .succeeded &&
      (item.operationKind = .capture || item.operationKind = .refund) && internal.journal.isNone,
    "successful money movement has no internal journal")]

structure Review where
  matched : List ReconciliationMatch
  mismatched : List ReconciliationMismatch

def operationByKey (rows : List OperationRow) (key : String) : Option OperationRow :=
  rows.reverse.find? fun row => row.1.stableKey = key

def reviewItem (run : String) (statement : StatementImport) (ev : Evidence) (item : StatementItem) : Review :=
  let operation := operationByKey (operationsRead statement ev.operations) item.stableKey
  let internal := operation.bind fun row => ev.rows.effect row.1
  if 1 < (stableKeys statement).count item.stableKey then
    ⟨[], [itemMismatch run item operation internal .duplicateProviderEffect
      "statement contains the stable provider key more than once"]⟩
  else match operation, internal with
    | some row, some e =>
      if row.1.kind ≠ item.operationKind.text then
        ⟨[], [itemMismatch run item operation internal .missingInternalTransaction
          "no matching internal provider operation and payment child were found"]⟩
      else
        let found := (comparisons item row.2 e).filter fun c => c.2.1
        if found = [] then
          let type := if item.providerStatus = .declined then .declinedWithoutJournal else .exact
          ⟨[⟨run, item.providerItemId, row.1, e.journal, type,
            evidenceJson (some item) operation internal "statement and internal evidence match"⟩], []⟩
        else ⟨[], found.map fun c => itemMismatch run item operation internal c.1 c.2.2⟩
    | _, _ =>
      ⟨[], [itemMismatch run item operation internal .missingInternalTransaction
        "no matching internal provider operation and payment child were found"]⟩

def missingOperations (run : String) (statement : StatementImport) (ev : Evidence) :
    List ReconciliationMismatch :=
  ((operationsRead statement ev.operations).filter fun row =>
    inPeriod statement row.2 && !(row.1.stableKey ∈ stableKeys statement)).map fun row =>
      ⟨run, operationSubject row.1, .missingProviderTransaction, none, some row.1,
        evidenceJson none (some row) (ev.rows.effect row.1)
          "internal provider operation is absent from the statement period"⟩

def review (run : String) (statement : StatementImport) (ev : Evidence) : Review where
  matched := statement.items.flatMap fun item => (reviewItem run statement ev item).matched
  mismatched := statement.items.flatMap (fun item => (reviewItem run statement ev item).mismatched) ++
    missingOperations run statement ev

structure Agrees (statement : StatementImport) (ev : Evidence) (item : StatementItem) (o : OperationId)
    (op : ProviderOperation) (e : InternalEffect) : Prop where
  unique : (stableKeys statement).count item.stableKey ≤ 1
  operation : ev.operations.get o = some op
  named : o.stableKey = item.stableKey
  effect : ev.rows.effect o = some e
  kind : o.kind = item.operationKind.text
  amount : item.amount = e.amount
  currency : item.currency = e.currency
  internalStatus : item.providerStatus = providerStatus e.status
  operationStatus : item.providerStatus = providerStatus op.status
  journal : item.providerStatus = .succeeded →
    item.operationKind = .capture ∨ item.operationKind = .refund → e.journal ≠ none

section Keys

lemma publicId_injective (tag : String) : Function.Injective (publicId tag) := by
  intro a b h
  have hlist := congrArg String.toList h
  simp only [publicId, String.toList_append, List.append_cancel_left_eq] at hlist
  have hdigits : Nat.toDigits 10 a = Nat.toDigits 10 b := by
    rw [← Nat.toList_repr, ← Nat.toList_repr]
    exact hlist
  have hread : ∀ n, Nat.ofDigitChars 10 (Nat.toDigits 10 n) 0 = n :=
    fun n => Nat.ofDigitChars_toDigits (by decide) (by decide)
  rw [← hread a, hdigits, hread b]

lemma stableKey_injective : Function.Injective OperationId.stableKey := by
  intro o o' h
  have hlist := congrArg String.toList h
  cases o <;> cases o' <;>
    simp only [OperationId.stableKey, String.toList_append, List.append_cancel_left_eq, String.toList_inj] at hlist
  case authorize.authorize p q => rw [publicId_injective _ hlist]
  case capture.capture p q => rw [publicId_injective _ hlist]
  case void.void p q => rw [publicId_injective _ hlist]
  case refund.refund p r q t =>
    obtain ⟨rfl, rfl⟩ := Nat.pair_eq_pair.1 (publicId_injective _ hlist)
    rfl
  -- keys of different kinds differ in their first letter
  all_goals cases hlist

lemma operationSubject_injective : Function.Injective operationSubject := by
  intro o o' h
  have hlist := congrArg String.toList h
  simp only [operationSubject, OperationId.publicId, String.toList_append, List.append_assoc,
    List.append_cancel_left_eq, List.append_cancel_right_eq, String.toList_inj] at hlist
  exact stableKey_injective hlist

lemma append_separator_inj {α : Type} {c : α} {a a' t t' : List α} (ht : c ∉ t) (ht' : c ∉ t')
    (h : a ++ c :: t = a' ++ c :: t') : a = a' ∧ t = t' := by
  have hrev : t.reverse ++ c :: a.reverse = t'.reverse ++ c :: a'.reverse := by
    simpa using congrArg List.reverse h
  have hinj : ∀ (x x' y y' : List α), c ∉ x → c ∉ x' → x ++ c :: y = x' ++ c :: y' → x = x' ∧ y = y' := by
    intro x
    induction x with
    | nil =>
      intro x' y y' _ hx' heq
      cases x' with
      | nil => exact ⟨rfl, (List.cons.inj heq).2⟩
      | cons d rest =>
        have hd : c = d := (List.cons.inj heq).1
        exact absurd (hd ▸ List.mem_cons_self) hx'
    | cons d rest ih =>
      intro x' y y' hx hx' heq
      cases x' with
      | nil =>
        have hd : d = c := (List.cons.inj heq).1
        exact absurd (hd ▸ List.mem_cons_self) hx
      | cons d' rest' =>
        obtain ⟨hd, hrest⟩ := List.cons.inj heq
        obtain ⟨hsame, hy⟩ := ih rest' y y' (fun hc => hx (List.mem_cons_of_mem _ hc))
          (fun hc => hx' (List.mem_cons_of_mem _ hc)) hrest
        exact ⟨by rw [hd, hsame], hy⟩
  obtain ⟨htt, haa⟩ := hinj _ _ _ _ (by simpa using ht) (by simpa using ht') hrev
  exact ⟨List.reverse_injective haa, List.reverse_injective htt⟩

lemma mismatchType_text_injective : Function.Injective MismatchType.text := by
  intro a b h
  revert h
  cases a <;> cases b <;> decide

lemma itemSubject_inj {item item' : StatementItem} {type type' : MismatchType}
    (h : itemSubject item type = itemSubject item' type') :
    item.providerItemId = item'.providerItemId ∧ type = type' := by
  have hcolon : ∀ type : MismatchType, ':' ∉ type.text.toList := by
    intro type
    cases type <;> decide
  have hlist := congrArg String.toList h
  simp only [itemSubject, String.toList_append, List.append_assoc, List.append_cancel_left_eq] at hlist
  obtain ⟨hid, htype⟩ := append_separator_inj (hcolon type) (hcolon type') hlist
  exact ⟨String.toList_inj.1 hid, mismatchType_text_injective (String.toList_inj.1 htype)⟩

lemma itemSubject_ne_operationSubject (item : StatementItem) (type : MismatchType) (o : OperationId) :
    itemSubject item type ≠ operationSubject o := by
  intro h
  have hlist := congrArg String.toList h
  simp only [itemSubject, operationSubject, String.toList_append] at hlist
  have hhead := congrArg List.head? hlist
  simp at hhead

end Keys

section Review

variable {run : String} {statement : StatementImport} {ev : Evidence} {item : StatementItem}

lemma operationByKey_eq_some {rows : List OperationRow} {key : String} {row : OperationRow}
    (h : operationByKey rows key = some row) : row ∈ rows ∧ row.1.stableKey = key := by
  have hmem := List.mem_of_find?_eq_some h
  have hkey := List.find?_some h
  exact ⟨List.mem_reverse.1 hmem, by simpa using hkey⟩

lemma mem_operationsRead {row : OperationRow} : row ∈ operationsRead statement ev.operations ↔
    ev.operations.get row.1 = some row.2 ∧
      (row.1.stableKey ∈ stableKeys statement ∨ inPeriod statement row.2 = true) := by
  obtain ⟨o, op⟩ := row
  simp only [operationsRead, List.mem_filter, Table.mem_rows, Bool.or_eq_true, decide_eq_true_eq]

variable {op : ProviderOperation}

lemma operationByKey_of_get {o : OperationId}
    (hget : ev.operations.get o = some op) (hkey : o.stableKey ∈ stableKeys statement) :
    operationByKey (operationsRead statement ev.operations) o.stableKey = some (o, op) := by
  have hmem : (o, op) ∈ operationsRead statement ev.operations := mem_operationsRead.2 ⟨hget, .inl hkey⟩
  cases hfind : operationByKey (operationsRead statement ev.operations) o.stableKey with
  | none =>
    have hnone := List.find?_eq_none.1 hfind (o, op) (List.mem_reverse.2 hmem)
    simp at hnone
  | some row =>
    obtain ⟨hrow, hsame⟩ := operationByKey_eq_some hfind
    obtain ⟨o', op'⟩ := row
    obtain rfl : o' = o := stableKey_injective hsame
    have hget' := (mem_operationsRead.1 hrow).1
    rw [hget] at hget'
    cases hget'
    rfl

lemma comparisons_agree {e : InternalEffect} :
    ((comparisons item op e).filter fun c => c.2.1) = [] ↔ item.amount = e.amount ∧
      item.currency = e.currency ∧ item.providerStatus = providerStatus e.status ∧
      item.providerStatus = providerStatus op.status ∧ (item.providerStatus = .succeeded →
        item.operationKind = .capture ∨ item.operationKind = .refund → e.journal ≠ none) := by
  rw [List.filter_eq_nil_iff]
  simp [comparisons, and_assoc, Option.isSome_iff_ne_none]

lemma reviewItem_of_agrees (run : String) {o : OperationId} {e : InternalEffect}
    (hitem : item ∈ statement.items) (h : Agrees statement ev item o op e) :
    ∃ m, reviewItem run statement ev item = ⟨[m], []⟩ ∧ m.item = item.providerItemId := by
  have hkey : o.stableKey ∈ stableKeys statement := h.named ▸ List.mem_map_of_mem hitem
  have hfind := operationByKey_of_get h.operation hkey
  have hcompare := comparisons_agree.2
    ⟨h.amount, h.currency, h.internalStatus, h.operationStatus, h.journal⟩
  rw [h.named] at hfind
  simp only [reviewItem, not_lt.2 h.unique, hfind, Option.bind_some, h.effect, h.kind, hcompare, ne_eq,
    not_true_eq_false, if_false, if_true]
  exact ⟨_, rfl, rfl⟩

lemma reviewItem_of_disagrees (run : String) (hnone : ¬∃ o op e, Agrees statement ev item o op e) :
    (reviewItem run statement ev item).matched = [] ∧ (reviewItem run statement ev item).mismatched ≠ [] := by
  unfold reviewItem
  dsimp only
  split
  · simp
  · next hunique =>
    split
    · next row e hop hinternal =>
      split
      · simp
      · next hkind =>
        split
        · next hcompare =>
          exfalso
          obtain ⟨hrow, hkey⟩ := operationByKey_eq_some hop
          obtain ⟨hamount, hcurrency, hinternalStatus, hstatus, hjournal⟩ := comparisons_agree.1 hcompare
          rw [hop] at hinternal
          exact hnone ⟨row.1, row.2, e, not_lt.1 hunique, (mem_operationsRead.1 hrow).1, hkey, hinternal,
            not_not.1 hkind, hamount, hcurrency, hinternalStatus, hstatus, hjournal⟩
        · next hfound => simpa using hfound
    · simp

lemma reviewItem_matched {m : ReconciliationMatch} (hitem : item ∈ statement.items)
    (h : m ∈ (reviewItem run statement ev item).matched) : m.item = item.providerItemId := by
  by_cases hagrees : ∃ o op e, Agrees statement ev item o op e
  · obtain ⟨o, op, e, hagree⟩ := hagrees
    obtain ⟨m', hreview, hname⟩ := reviewItem_of_agrees run hitem hagree
    rw [hreview] at h
    rw [List.mem_singleton.1 h]
    exact hname
  · rw [(reviewItem_of_disagrees run hagrees).1] at h
    cases h

lemma reviewItem_mismatched : (∀ m ∈ (reviewItem run statement ev item).mismatched,
      m.item = some item.providerItemId ∧ m.subjectKey = itemSubject item m.mismatchType) ∧
    ((reviewItem run statement ev item).mismatched.map ReconciliationMismatch.mismatchType).Nodup := by
  unfold reviewItem
  dsimp only
  split
  · simp [itemMismatch]
  · split
    · split
      · simp [itemMismatch]
      · split
        · simp
        · next row e hop hinternal _ _ =>
          constructor
          · intro m hm
            obtain ⟨c, -, rfl⟩ := List.mem_map.1 hm
            exact ⟨rfl, rfl⟩
          · rw [List.map_map]
            have htypes : ((comparisons item row.2 e).map Prod.fst).Nodup := by
              simp [comparisons]
            exact htypes.sublist (List.filter_sublist.map _)
    · simp [itemMismatch]

lemma reviewItem_run : (∀ m ∈ (reviewItem run statement ev item).matched, m.run = run) ∧
    ∀ m ∈ (reviewItem run statement ev item).mismatched, m.run = run := by
  unfold reviewItem
  dsimp only
  split
  · simp [itemMismatch]
  · split
    · split
      · simp [itemMismatch]
      · split
        · simp
        · refine ⟨by simp, fun m hm => ?_⟩
          obtain ⟨c, -, rfl⟩ := List.mem_map.1 hm
          rfl
    · simp [itemMismatch]

lemma review_run : (∀ m ∈ (review run statement ev).matched, m.run = run) ∧
    ∀ m ∈ (review run statement ev).mismatched, m.run = run := by
  constructor
  · intro m hm
    obtain ⟨item, -, hmi⟩ := List.mem_flatMap.1 hm
    exact reviewItem_run.1 m hmi
  · intro m hm
    rcases List.mem_append.1 hm with hfound | hmissing
    · obtain ⟨item, -, hmi⟩ := List.mem_flatMap.1 hfound
      exact reviewItem_run.2 m hmi
    · obtain ⟨row, -, rfl⟩ := List.mem_map.1 hmissing
      rfl

structure Reviewed (statement : StatementImport) (ev : Evidence) (matched : List ReconciliationMatch)
    (mismatched : List ReconciliationMismatch) : Prop where
  partition : ∀ item ∈ statement.items,
    ((matched.filter fun m => m.item = item.providerItemId).length = 1 ∧
      ∀ m ∈ mismatched, m.item ≠ some item.providerItemId) ∨
    ((∀ m ∈ matched, m.item ≠ item.providerItemId) ∧ ∃ m ∈ mismatched, m.item = some item.providerItemId)
  matched_iff : ∀ item ∈ statement.items, (∃ m ∈ matched, m.item = item.providerItemId) ↔
    ∃ o op e, Agrees statement ev item o op e
  covered : ∀ o op, ev.operations.get o = some op → inPeriod statement op = true →
    o.stableKey ∈ stableKeys statement ∨
      ∃ m ∈ mismatched, m.mismatchType = .missingProviderTransaction ∧ m.operation = some o
  subjects : (mismatched.map ReconciliationMismatch.subjectKey).Nodup

end Review

section Reviewed

variable {run : String} {statement : StatementImport} {ev : Evidence} {item : StatementItem}

lemma matched_of_item (run : String) (ev : Evidence) (hids : (statement.items.map StatementItem.providerItemId).Nodup)
    (hitem : item ∈ statement.items) :
    (review run statement ev).matched.filter (fun m => m.item = item.providerItemId) =
      (reviewItem run statement ev item).matched :=
  filter_flatMap_tag (fun _ h _ hm => reviewItem_matched h hm) hids hitem

lemma missingOperations_item {m : ReconciliationMismatch} (h : m ∈ missingOperations run statement ev) :
    m.item = none := by
  obtain ⟨row, -, rfl⟩ := List.mem_map.1 h
  rfl

lemma mismatched_of_item (hids : (statement.items.map StatementItem.providerItemId).Nodup)
    (hitem : item ∈ statement.items) {m : ReconciliationMismatch} :
    m ∈ (review run statement ev).mismatched ∧ m.item = some item.providerItemId ↔
      m ∈ (reviewItem run statement ev item).mismatched := by
  constructor
  · rintro ⟨hm, hname⟩
    rcases List.mem_append.1 hm with hfound | hmissing
    · obtain ⟨other, hother, hmo⟩ := List.mem_flatMap.1 hfound
      have hsame : some other.providerItemId = some item.providerItemId :=
        ((reviewItem_mismatched.1 m hmo).1).symm.trans hname
      rw [← List.inj_on_of_nodup_map hids hother hitem (Option.some.inj hsame)]
      exact hmo
    · rw [missingOperations_item hmissing] at hname
      cases hname
  · intro hm
    exact ⟨List.mem_append_left _ (List.mem_flatMap.2 ⟨item, hitem, hm⟩), (reviewItem_mismatched.1 m hm).1⟩

lemma subjects_nodup (hids : (statement.items.map StatementItem.providerItemId).Nodup) :
    ((review run statement ev).mismatched.map ReconciliationMismatch.subjectKey).Nodup := by
  have hsubject : ∀ item, (reviewItem run statement ev item).mismatched.map ReconciliationMismatch.subjectKey =
      ((reviewItem run statement ev item).mismatched.map ReconciliationMismatch.mismatchType).map
        (itemSubject item) := by
    intro item
    rw [List.map_map]
    exact List.map_congr_left fun m hm => (reviewItem_mismatched.1 m hm).2
  have hitems : ((statement.items.flatMap fun item => (reviewItem run statement ev item).mismatched).map
      ReconciliationMismatch.subjectKey).Nodup := by
    rw [List.map_flatMap, List.nodup_flatMap]
    constructor
    · intro item _
      rw [hsubject]
      exact reviewItem_mismatched.2.map fun _ _ h => (itemSubject_inj h).2
    · apply (List.pairwise_map.1 hids).imp
      intro item item' hne key hkey hkey'
      obtain ⟨m, hm, rfl⟩ := List.mem_map.1 hkey
      obtain ⟨m', hm', hsame⟩ := List.mem_map.1 hkey'
      rw [(reviewItem_mismatched.1 m hm).2, (reviewItem_mismatched.1 m' hm').2] at hsame
      exact hne (itemSubject_inj hsame).1.symm
  have hoperations : ((missingOperations run statement ev).map ReconciliationMismatch.subjectKey).Nodup := by
    have hrows : ((operationsRead statement ev.operations).map Prod.fst).Nodup :=
      (Table.rows_nodup ev.operations).sublist (List.filter_sublist.map _)
    have hsubjects := hrows.map operationSubject_injective
    rw [List.map_map] at hsubjects
    rw [missingOperations, List.map_map]
    exact hsubjects.sublist (List.filter_sublist.map _)
  rw [review, List.map_append, List.nodup_append']
  refine ⟨hitems, hoperations, ?_⟩
  intro key hkey hkey'
  obtain ⟨m, hm, rfl⟩ := List.mem_map.1 hkey
  obtain ⟨item, -, hmi⟩ := List.mem_flatMap.1 hm
  obtain ⟨m', hm', hsame⟩ := List.mem_map.1 hkey'
  obtain ⟨row, -, rfl⟩ := List.mem_map.1 hm'
  rw [(reviewItem_mismatched.1 m hmi).2] at hsame
  exact itemSubject_ne_operationSubject _ _ _ hsame.symm

lemma review_reviewed (hids : (statement.items.map StatementItem.providerItemId).Nodup) :
    Reviewed statement ev (review run statement ev).matched (review run statement ev).mismatched where
  partition item hitem := by
    by_cases hagrees : ∃ o op e, Agrees statement ev item o op e
    · obtain ⟨o, op, e, h⟩ := hagrees
      obtain ⟨m, hreview, -⟩ := reviewItem_of_agrees run hitem h
      left
      rw [matched_of_item run ev hids hitem, hreview]
      refine ⟨rfl, fun m' hm' hname => ?_⟩
      have hnone := (mismatched_of_item hids hitem).1 ⟨hm', hname⟩
      rw [hreview] at hnone
      cases hnone
    · obtain ⟨hmatched, hmismatched⟩ := reviewItem_of_disagrees run hagrees
      right
      constructor
      · have hnone := matched_of_item run ev hids hitem
        rw [hmatched, List.filter_eq_nil_iff] at hnone
        simpa using hnone
      · obtain ⟨m, hm⟩ := List.exists_mem_of_ne_nil _ hmismatched
        exact ⟨m, (mismatched_of_item hids hitem).2 hm⟩
  matched_iff item hitem := by
    have hfilter := matched_of_item run ev hids hitem
    constructor
    · rintro ⟨m, hm, hname⟩
      by_contra hnone
      rw [(reviewItem_of_disagrees run hnone).1, List.filter_eq_nil_iff] at hfilter
      exact hfilter m hm (by simpa using hname)
    · rintro ⟨o, op, e, h⟩
      obtain ⟨m, hreview, hname⟩ := reviewItem_of_agrees run hitem h
      exact ⟨m, List.mem_flatMap.2 ⟨item, hitem, by simp [hreview]⟩, hname⟩
  covered o op hget hperiod := by
    by_cases hnamed : o.stableKey ∈ stableKeys statement
    · exact .inl hnamed
    · right
      have hmem : (o, op) ∈ operationsRead statement ev.operations :=
        mem_operationsRead.2 ⟨hget, .inr hperiod⟩
      refine ⟨_, List.mem_append_right _ (List.mem_map_of_mem (List.mem_filter.2 ⟨hmem, ?_⟩)), rfl, rfl⟩
      simp [hperiod, hnamed]
  subjects := subjects_nodup hids

end Reviewed

end RelayPay.Statements
