import RelayPay.Relational.Aggregate
import Mathlib.Algebra.BigOperators.Group.List.Basic
import Mathlib.Data.Prod.Lex
import Mathlib.Data.String.Basic

namespace RelayPay.Proof

open Relational

structure LedgerAccountSnap where
  id : String
  code : String
  currency : String
  organisationId : String
  environmentId : String
  merchantAccountId : Option String

structure JournalSnap where
  id : String
  journalType : String
  referenceId : String

structure PostingSnap where
  journalId : String
  accountId : String
  side : String
  amount : ℤ

structure MerchantBalanceSnap where
  merchantAccountId : String
  pending : ℤ
  available : ℤ
  receivable : ℤ
  reserved : ℤ

structure PayoutSnap where
  id : String
  status : String
  journalId : Option String

structure SettlementItemSnap where
  journalId : String

structure PaymentIntentSnap where
  id : String
  merchantAccountId : String
  status : Option String

structure AuthorizationSnap where
  publicId : String
  paymentIntentId : String
  amount : ℤ
  status : String

structure CaptureSnap where
  id : String
  publicId : String
  paymentIntentId : String
  amount : ℤ
  status : String
  journalId : Option String
  feeAmount : ℤ
  gstAmount : ℤ

structure RefundSnap where
  id : String
  publicId : String
  paymentIntentId : String
  captureId : String
  amount : ℤ
  status : String
  journalId : Option String

structure ProviderOperationSnap where
  id : String
  stableProviderKey : String
  status : String
  reviewReason : Option String
  terminalResponseSha256 : Option (List UInt8)

structure OperationHistorySnap where
  providerOperationId : String
  ordinal : ℤ
  fromStatus : Option String
  toStatus : String

structure IdempotencyRecordSnap where
  id : String
  providerOperationId : String
  keyHint : Option String
  isTerminal : Bool
  responseSha256 : Option (List UInt8)

structure ProviderEffectSnap where
  stableKey : String
  providerAccountId : String

structure BalanceTransactionSnap where
  id : String
  journalId : String
  merchantAccountId : String
  pendingDelta : ℤ
  availableDelta : ℤ
  receivableDelta : ℤ
  payoutClearingDelta : ℤ

structure AckedOp where
  kind : String
  resourceId : String
  idempotencyKeyHint : String
  amount : ℤ

structure SystemSnapshot where
  ledgerAccounts : List LedgerAccountSnap := []
  journals : List JournalSnap := []
  postings : List PostingSnap := []
  merchantBalances : List MerchantBalanceSnap := []
  payouts : List PayoutSnap := []
  settlementItems : List SettlementItemSnap := []
  paymentIntents : List PaymentIntentSnap := []
  authorizations : List AuthorizationSnap := []
  captures : List CaptureSnap := []
  refunds : List RefundSnap := []
  providerOperations : List ProviderOperationSnap := []
  operationHistory : List OperationHistorySnap := []
  idempotencyRecords : List IdempotencyRecordSnap := []
  providerEffects : List ProviderEffectSnap := []
  balanceTransactions : List BalanceTransactionSnap := []
  ackedOps : List AckedOp := []

inductive InvariantCode where
  | journalUnbalanced | ledgerEquation | negativeBalance | reservedExceedsAvailable | refundsExceedCaptured
  | capturedExceedsAuthorised | feeSplitMismatch | duplicateProviderEffect | missingOrOrphanJournal
  | idempotencyBytesDiverge | statusDrift | projectionDrift | unknownProviderEffect | ackedOpMissing | notQuiesced
deriving DecidableEq

structure Violation where
  code : InvariantCode
  subject : String
  message : String
deriving DecidableEq

section Dictionaries

variable {ρ κ : Type} [DecidableEq κ]

def lookup (key : ρ → κ) (rows : List ρ) (k : κ) : Option ρ := (rowsOf key rows k).getLast?

def total (key : ρ → κ) (amount : ρ → ℤ) (rows : List ρ) (k : κ) : ℤ := ((rowsOf key rows k).map amount).sum

def tally (key : ρ → κ) (amount : ρ → ℤ) (rows : List ρ) : List (κ × ℤ) :=
  (groupBy key (fun k g => (k, (g.map amount).sum)) rows.reverse).reverse

end Dictionaries

def succeeded (status : String) : Bool := status = "SUCCEEDED"

def merchantCodes : List String :=
  ["PENDING_PAYABLE_LIABILITY", "AVAILABLE_PAYABLE_LIABILITY", "MERCHANT_RECEIVABLE_ASSET", "PAYOUT_CLEARING_ASSET"]

namespace SystemSnapshot

variable (s : SystemSnapshot)

def account (id : String) : Option LedgerAccountSnap := lookup LedgerAccountSnap.id s.ledgerAccounts id

def accountMerchant (id : String) : Option String := (s.account id).bind LedgerAccountSnap.merchantAccountId

def postingsOf (journal : String) : List PostingSnap := rowsOf PostingSnap.journalId s.postings journal

def posted (journal side : String) : ℤ := total PostingSnap.side PostingSnap.amount (s.postingsOf journal) side

def creditMinusDebit (journal code : String) (merchant : Option String) : ℤ :=
  (((s.postingsOf journal).filter fun p => (s.account p.accountId).map LedgerAccountSnap.code = some code ∧
    (merchant = none ∨ s.accountMerchant p.accountId = merchant)).map fun p =>
      if p.side = "CREDIT" then p.amount else -p.amount).sum

def movesMerchantAccount (journal merchant : String) : Bool :=
  (s.postingsOf journal).any fun p => ((s.account p.accountId).any fun a => a.code ∈ merchantCodes) &&
    s.accountMerchant p.accountId = some merchant

def refunded (capture : String) : ℤ :=
  total RefundSnap.captureId RefundSnap.amount (s.refunds.filter fun r => succeeded r.status) capture

def authorised (payment : String) : ℤ := total AuthorizationSnap.paymentIntentId AuthorizationSnap.amount
  (s.authorizations.filter fun a => succeeded a.status) payment

def capturedOf (payment : String) : ℤ :=
  total CaptureSnap.paymentIntentId CaptureSnap.amount (s.captures.filter fun c => succeeded c.status) payment

def refundedOf (payment : String) : ℤ :=
  total RefundSnap.paymentIntentId RefundSnap.amount (s.refunds.filter fun r => succeeded r.status) payment

def hasJournal (id : String) : Bool := s.journals.any fun j => j.id = id

def resources : List (String × String × Option String) :=
  (s.captures.map fun c => (c.id, c.status, c.journalId)) ++ (s.refunds.map fun r => (r.id, r.status, r.journalId)) ++
    s.payouts.map fun p => (p.id, p.status, p.journalId)

def claims (journal : String) : ℕ :=
  (s.resources.filter fun r => r.2.2 = some journal).length +
    (rowsOf SettlementItemSnap.journalId s.settlementItems journal).length

def historyOf (operation : String) : List OperationHistorySnap :=
  (rowsOf OperationHistorySnap.providerOperationId s.operationHistory operation).insertionSort
    fun a b => a.ordinal ≤ b.ordinal

def authorizationStatus (payment status : String) : Bool :=
  s.authorizations.any fun a => a.paymentIntentId = payment && a.status = status

def authorizationOther (payment status : String) : Bool :=
  s.authorizations.any fun a => a.paymentIntentId = payment && a.status ≠ status

def allowedPaymentStatuses (payment : String) : List String :=
  if s.refundedOf payment > 0 then
    if s.refundedOf payment ≥ s.capturedOf payment then ["refunded"] else ["partially_refunded"]
  else if s.capturedOf payment > 0 then ["captured"]
  else if s.authorizationStatus payment "SUCCEEDED" then ["authorised", "cancelled", "expired", "failed"]
  else if s.authorizationStatus payment "FAILED" ∧ ¬s.authorizationOther payment "FAILED" then ["failed"]
  else ["cancelled", "created", "expired", "failed", "requires_action"]

def moved (journal : String) : Bool :=
  (s.balanceTransactions.any fun t => s.movesMerchantAccount journal t.merchantAccountId) ||
    s.ledgerAccounts.any fun a => (s.accountMerchant a.id).any fun m => s.movesMerchantAccount journal m

def acknowledged (kind id : String) : Option ℤ :=
  if kind = "AUTHORIZE" then (lookup AuthorizationSnap.publicId s.authorizations id).map AuthorizationSnap.amount
  else if kind = "CAPTURE" then (lookup CaptureSnap.publicId s.captures id).map CaptureSnap.amount
  else if kind = "REFUND" then (lookup RefundSnap.publicId s.refunds id).map RefundSnap.amount
  else none

end SystemSnapshot

section Checks

variable (s : SystemSnapshot)

def journalUnbalanced : List (String × String) :=
  s.journals.filterMap fun j =>
    let count := (s.postingsOf j.id).length
    let debits := s.posted j.id "DEBIT"
    let credits := s.posted j.id "CREDIT"
    if count < 2 ∨ debits ≠ credits
    then some (j.id, s!"journal has {count} postings, debits {debits}, credits {credits}") else none

def ledgerEquation : List (String × String) :=
  (tally Prod.fst Prod.snd (s.postings.filterMap fun p => (s.account p.accountId).map fun a =>
    ((a.organisationId, a.environmentId, a.currency), if p.side = "DEBIT" then p.amount else -p.amount))).filterMap
      fun (group, amount) => if amount ≠ 0
        then some (":".intercalate [group.1, group.2.1, group.2.2],
          s!"assets minus liabilities and income is {amount}, expected 0") else none

def negativeBalance : List (String × String) :=
  s.merchantBalances.flatMap fun b =>
    [("pending", b.pending), ("available", b.available), ("receivable", b.receivable)].filterMap fun (name, value) =>
      if value < 0 then some (b.merchantAccountId, s!"{name} balance is {value}") else none

def reservedExceedsAvailable : List (String × String) :=
  s.merchantBalances.filterMap fun b => if b.reserved > b.available
    then some (b.merchantAccountId, s!"reserved {b.reserved} exceeds available {b.available}") else none

def refundsExceedCaptured : List (String × String) :=
  s.captures.filterMap fun c =>
    let refunded := s.refunded c.id
    if refunded > c.amount then some (c.id, s!"succeeded refunds {refunded} exceed capture {c.amount}") else none

def capturedExceedsAuthorised : List (String × String) :=
  (tally CaptureSnap.paymentIntentId CaptureSnap.amount (s.captures.filter fun c => succeeded c.status)).filterMap
    fun (payment, amount) =>
      let authorised := s.authorised payment
      if amount > authorised then some (payment, s!"succeeded captures {amount} exceed authorised {authorised}") else none

def feeSplitMismatch : List (String × String) :=
  s.captures.filterMap fun c => if succeeded c.status then c.journalId.bind fun journal =>
    let net := c.amount - c.feeAmount - c.gstAmount
    let merchant := (s.paymentIntents.find? fun p => p.id = c.paymentIntentId).map PaymentIntentSnap.merchantAccountId
    let problems :=
      (if c.feeAmount < 0 ∨ c.gstAmount < 0 ∨ net < 0 then ["fee, GST or net is negative"] else []) ++
      [("net", s.creditMinusDebit journal "PENDING_PAYABLE_LIABILITY" merchant, net),
        ("fee", s.creditMinusDebit journal "PLATFORM_FEE_REVENUE" none, c.feeAmount),
        ("gst", s.creditMinusDebit journal "GST_PAYABLE_LIABILITY" none, c.gstAmount)].filterMap
          fun (name, posted, expected) =>
            if posted ≠ expected then some s!"{name} posted {posted}, expected {expected}" else none
    if problems ≠ [] then some (c.id, "; ".intercalate problems) else none
  else none

def duplicateProviderEffect : List (String × String) :=
  ((tally (fun e : ProviderEffectSnap => (e.providerAccountId, e.stableKey)) (fun _ => 1) s.providerEffects).filterMap
    fun ((_, key), count) => if count > 1 then some (key, s!"{count} provider effects share the stable key") else none) ++
  (tally (fun j : JournalSnap => (j.journalType, j.referenceId)) (fun _ => 1)
    (s.journals.filter fun j => j.journalType ∈ ["CAPTURE", "REFUND"])).filterMap fun ((type, reference), count) =>
      if count > 1 then some (reference, s!"{count} {type} journals reference the same resource") else none

def missingOrOrphanJournal : List (String × String) :=
  (s.resources.filterMap fun (id, status, journal) => if succeeded status ∧ ¬journal.any s.hasJournal
    then some (id, "succeeded resource has no existing journal") else none) ++
  s.journals.filterMap fun j =>
    let count := s.claims j.id
    if j.journalType ∈ ["CAPTURE", "REFUND", "PAYOUT", "SETTLEMENT"] ∧ count ≠ 1
    then some (j.id, s!"{j.journalType} journal is claimed by {count} resources") else none

def idempotencyBytesDiverge : List (String × String) :=
  s.idempotencyRecords.filterMap fun r =>
    let operation := lookup ProviderOperationSnap.id s.providerOperations r.providerOperationId
    if r.isTerminal ∧ operation.any fun o => r.responseSha256 ≠ o.terminalResponseSha256
    then some (r.id, "idempotent response bytes differ from the operation's terminal response") else none

def walkDefect (status previous : String) (index : ℕ) : List OperationHistorySnap → Option String
  | [] => if previous ≠ status then some s!"history ends in {previous} but the operation is {status}" else none
  | row :: rows =>
    if row.fromStatus ≠ some previous then
      let start := row.fromStatus.getD "None"
      some s!"transition {index} starts from {start}, expected {previous}"
    else if previous ∈ ["SUCCEEDED", "FAILED"] then some s!"transition {index} leaves terminal status {previous}"
    else walkDefect status row.toStatus (index + 1) rows

def historyDefect (status : String) (rows : List OperationHistorySnap) : Option String :=
  if rows = [] then if status = "PROCESSING" then none else some s!"{status} operation has no history"
  else walkDefect status "PROCESSING" 0 rows

def statusDrift : List (String × String) :=
  (s.providerOperations.filterMap fun o => (historyDefect o.status (s.historyOf o.id)).map fun defect => (o.id, defect)) ++
  s.paymentIntents.filterMap fun p => p.status.bind fun status =>
    let allowed := s.allowedPaymentStatuses p.id
    let shown := ", ".intercalate (allowed.map fun a => "'" ++ a ++ "'")
    if status ∉ allowed then some (p.id, s!"payment is {status}, resources allow [{shown}]") else none

def projectionDrift : List (String × String) :=
  (s.balanceTransactions.filterMap fun t =>
    let effect code := s.creditMinusDebit t.journalId code (some t.merchantAccountId)
    let differing := [("pending", t.pendingDelta, effect "PENDING_PAYABLE_LIABILITY"),
      ("available", t.availableDelta, effect "AVAILABLE_PAYABLE_LIABILITY"),
      ("receivable", t.receivableDelta, -effect "MERCHANT_RECEIVABLE_ASSET"),
      ("payout clearing", t.payoutClearingDelta, effect "PAYOUT_CLEARING_ASSET")].filterMap
        fun (name, actual, expected) =>
          if actual ≠ expected then some s!"{name} delta {actual} expected {expected}" else none
    if differing ≠ [] then some (t.id, "; ".intercalate differing) else none) ++
  s.journals.filterMap fun j =>
    let count := (rowsOf BalanceTransactionSnap.journalId s.balanceTransactions j.id).length
    if s.moved j.id ∧ count ≠ 1
    then some (j.id, s!"journal moves a merchant account and has {count} balance transactions") else none

/-- The keys without an operation come in no particular order: a set is gone through. -/
def unknownProviderEffect : List (String × String) :=
  ((s.providerEffects.map ProviderEffectSnap.stableKey).dedup.filter fun key =>
    !s.providerOperations.any fun o => o.stableProviderKey = key).map fun key =>
      (key, "provider effect has no matching provider operation")

def ackedOpMissing : List (String × String) :=
  s.ackedOps.filterMap fun a =>
    if s.acknowledged a.kind a.resourceId ≠ some a.amount then some (a.resourceId, "no resource with that id and amount")
    else if ¬s.idempotencyRecords.any fun r => r.keyHint = some a.idempotencyKeyHint
    then some (a.resourceId, "no idempotency record carries the key hint") else none

def notQuiesced : List (String × String) :=
  s.providerOperations.filterMap fun o =>
    if o.status = "PROCESSING" then some (o.id, "operation is still PROCESSING")
    else if o.status = "REQUIRES_REVIEW" ∧ o.reviewReason.getD "" = ""
    then some (o.id, "operation awaits review with no reason") else none

end Checks

def checks : List (InvariantCode × (SystemSnapshot → List (String × String)) × Bool) :=
  [(.journalUnbalanced, journalUnbalanced, false), (.ledgerEquation, ledgerEquation, false),
    (.negativeBalance, negativeBalance, false), (.reservedExceedsAvailable, reservedExceedsAvailable, false),
    (.refundsExceedCaptured, refundsExceedCaptured, false),
    (.capturedExceedsAuthorised, capturedExceedsAuthorised, false), (.feeSplitMismatch, feeSplitMismatch, false),
    (.duplicateProviderEffect, duplicateProviderEffect, false),
    (.missingOrOrphanJournal, missingOrOrphanJournal, false),
    (.idempotencyBytesDiverge, idempotencyBytesDiverge, false), (.statusDrift, statusDrift, false),
    (.projectionDrift, projectionDrift, false), (.unknownProviderEffect, unknownProviderEffect, true),
    (.ackedOpMissing, ackedOpMissing, false), (.notQuiesced, notQuiesced, true)]

def ordered (found : List (String × String)) : List (String × String) :=
  found.insertionSort fun a b => toLex a ≤ toLex b

def checkInvariants (s : SystemSnapshot) (quiesced : Bool) : List Violation :=
  checks.flatMap fun (code, check, quiescedOnly) =>
    if quiesced || !quiescedOnly then (ordered (check s)).map fun f => ⟨code, f.1, f.2⟩ else []

section Dictionaries

variable {ρ κ : Type} [DecidableEq κ] {key : ρ → κ} {amount : ρ → ℤ} {rows rows' : List ρ}

lemma lookup_unique (h : rows.Perm rows') (hkeys : (rows.map key).Nodup) : lookup key rows' = lookup key rows := by
  funext k
  rw [lookup, lookup, rowsOf_unique h hkeys]

lemma total_perm (h : rows.Perm rows') : total key amount rows' = total key amount rows := by
  funext k
  exact ((h.filter _).map amount).sum_eq.symm

lemma tally_perm (h : rows.Perm rows') : (tally key amount rows).Perm (tally key amount rows') := by
  have hreverse : rows.reverse.Perm rows'.reverse := (List.reverse_perm _).trans (h.trans (List.reverse_perm _).symm)
  refine (List.reverse_perm _).trans (.trans (groupBy_perm (fun k g g' hg => ?_) hreverse) (List.reverse_perm _).symm)
  rw [(hg.map amount).sum_eq]

end Dictionaries

namespace SystemSnapshot

structure Reordered (s s' : SystemSnapshot) : Prop where
  ledgerAccounts : s.ledgerAccounts.Perm s'.ledgerAccounts
  journals : s.journals.Perm s'.journals
  postings : s.postings.Perm s'.postings
  merchantBalances : s.merchantBalances.Perm s'.merchantBalances
  payouts : s.payouts.Perm s'.payouts
  settlementItems : s.settlementItems.Perm s'.settlementItems
  paymentIntents : s.paymentIntents.Perm s'.paymentIntents
  authorizations : s.authorizations.Perm s'.authorizations
  captures : s.captures.Perm s'.captures
  refunds : s.refunds.Perm s'.refunds
  providerOperations : s.providerOperations.Perm s'.providerOperations
  operationHistory : s.operationHistory.Perm s'.operationHistory
  idempotencyRecords : s.idempotencyRecords.Perm s'.idempotencyRecords
  providerEffects : s.providerEffects.Perm s'.providerEffects
  balanceTransactions : s.balanceTransactions.Perm s'.balanceTransactions
  ackedOps : s.ackedOps.Perm s'.ackedOps

structure Keyed (s : SystemSnapshot) : Prop where
  ledgerAccounts : (s.ledgerAccounts.map LedgerAccountSnap.id).Nodup
  paymentIntents : (s.paymentIntents.map PaymentIntentSnap.id).Nodup
  providerOperations : (s.providerOperations.map ProviderOperationSnap.id).Nodup
  authorizations : (s.authorizations.map AuthorizationSnap.publicId).Nodup
  captures : (s.captures.map CaptureSnap.publicId).Nodup
  refunds : (s.refunds.map RefundSnap.publicId).Nodup
  ordinals : (s.operationHistory.map fun r => (r.providerOperationId, r.ordinal)).Nodup

section Lookups

variable {s s' : SystemSnapshot} (h : s.Reordered s')
include h

lemma Reordered.postingsOf (journal : String) : (s.postingsOf journal).Perm (s'.postingsOf journal) :=
  h.postings.filter _

lemma Reordered.posted : s'.posted = s.posted := by
  funext journal
  exact total_perm (h.postingsOf journal)

lemma Reordered.refunded : s'.refunded = s.refunded := total_perm (h.refunds.filter _)

lemma Reordered.authorised : s'.authorised = s.authorised := total_perm (h.authorizations.filter _)

lemma Reordered.capturedOf : s'.capturedOf = s.capturedOf := total_perm (h.captures.filter _)

lemma Reordered.refundedOf : s'.refundedOf = s.refundedOf := total_perm (h.refunds.filter _)

lemma Reordered.hasJournal : s'.hasJournal = s.hasJournal := by
  funext id
  exact h.journals.any_eq.symm

lemma Reordered.resources : s.resources.Perm s'.resources :=
  ((h.captures.map _).append (h.refunds.map _)).append (h.payouts.map _)

lemma Reordered.claims : s'.claims = s.claims := by
  funext journal
  rw [SystemSnapshot.claims, SystemSnapshot.claims, (h.resources.filter _).length_eq, rowsOf, rowsOf,
    (h.settlementItems.filter _).length_eq]

lemma Reordered.authorizationStatus : s'.authorizationStatus = s.authorizationStatus := by
  funext payment status
  exact h.authorizations.any_eq.symm

lemma Reordered.authorizationOther : s'.authorizationOther = s.authorizationOther := by
  funext payment status
  exact h.authorizations.any_eq.symm

lemma Reordered.allowedPaymentStatuses : s'.allowedPaymentStatuses = s.allowedPaymentStatuses := by
  funext payment
  simp only [SystemSnapshot.allowedPaymentStatuses, h.refundedOf, h.capturedOf, h.authorizationStatus,
    h.authorizationOther]

variable (hs : s.Keyed)
include hs

lemma Reordered.account : s'.account = s.account := lookup_unique h.ledgerAccounts hs.ledgerAccounts

lemma Reordered.accountMerchant : s'.accountMerchant = s.accountMerchant := by
  funext id
  rw [SystemSnapshot.accountMerchant, SystemSnapshot.accountMerchant, h.account hs]

lemma Reordered.creditMinusDebit : s'.creditMinusDebit = s.creditMinusDebit := by
  funext journal code merchant
  simp only [SystemSnapshot.creditMinusDebit, h.account hs, h.accountMerchant hs]
  exact (((h.postingsOf journal).filter _).map _).sum_eq.symm

lemma Reordered.movesMerchantAccount : s'.movesMerchantAccount = s.movesMerchantAccount := by
  funext journal merchant
  simp only [SystemSnapshot.movesMerchantAccount, h.account hs, h.accountMerchant hs]
  exact (h.postingsOf journal).any_eq.symm

lemma Reordered.moved : s'.moved = s.moved := by
  funext journal
  simp only [SystemSnapshot.moved, h.movesMerchantAccount hs, h.accountMerchant hs, ← h.balanceTransactions.any_eq,
    ← h.ledgerAccounts.any_eq]

lemma Reordered.merchantOf (payment : String) :
    (s'.paymentIntents.find? fun p => p.id = payment) = s.paymentIntents.find? fun p => p.id = payment := by
  have hrows := rowsOf_unique h.paymentIntents hs.paymentIntents payment
  rw [← List.head?_filter, ← List.head?_filter]
  exact congrArg List.head? hrows.symm

lemma Reordered.historyOf : s'.historyOf = s.historyOf := by
  funext operation
  refine (sort_perm (h.operationHistory.filter _) fun a ha b hb hab => ?_).symm
  obtain ⟨ha, hop⟩ := mem_rowsOf.1 ha
  obtain ⟨hb, hop'⟩ := mem_rowsOf.1 hb
  exact List.inj_on_of_nodup_map hs.ordinals ha hb (Prod.ext (hop.trans hop'.symm) hab)

lemma Reordered.acknowledged : s'.acknowledged = s.acknowledged := by
  funext kind id
  simp only [SystemSnapshot.acknowledged, lookup_unique h.authorizations hs.authorizations,
    lookup_unique h.captures hs.captures, lookup_unique h.refunds hs.refunds]

end Lookups

end SystemSnapshot

section Perm

variable {s s' : SystemSnapshot} (h : s.Reordered s')
include h

lemma journalUnbalanced_perm : (journalUnbalanced s).Perm (journalUnbalanced s') := by
  simp only [journalUnbalanced, h.posted, ← (h.postingsOf _).length_eq]
  exact h.journals.filterMap _

lemma feeSplitMismatch_perm (hs : s.Keyed) : (feeSplitMismatch s).Perm (feeSplitMismatch s') := by
  simp only [feeSplitMismatch, h.creditMinusDebit hs, h.merchantOf hs]
  exact h.captures.filterMap _

lemma missingOrOrphanJournal_perm : (missingOrOrphanJournal s).Perm (missingOrOrphanJournal s') := by
  simp only [missingOrOrphanJournal, h.hasJournal, h.claims]
  exact (h.resources.filterMap _).append (h.journals.filterMap _)

lemma statusDrift_perm (hs : s.Keyed) : (statusDrift s).Perm (statusDrift s') := by
  simp only [statusDrift, h.historyOf hs, h.allowedPaymentStatuses]
  exact (h.providerOperations.filterMap _).append (h.paymentIntents.filterMap _)

lemma projectionDrift_perm (hs : s.Keyed) : (projectionDrift s).Perm (projectionDrift s') := by
  simp only [projectionDrift, h.creditMinusDebit hs, h.moved hs, rowsOf, ← (h.balanceTransactions.filter _).length_eq]
  exact (h.balanceTransactions.filterMap _).append (h.journals.filterMap _)

lemma checks_perm (hs : s.Keyed) : ∀ c ∈ checks, (c.2.1 s).Perm (c.2.1 s') := by
  simp only [checks, List.forall_mem_cons]
  refine ⟨journalUnbalanced_perm h, ?_, h.merchantBalances.flatMap_right _, h.merchantBalances.filterMap _, ?_, ?_,
    feeSplitMismatch_perm h hs, ?_, missingOrOrphanJournal_perm h, ?_, statusDrift_perm h hs, projectionDrift_perm h hs,
    ?_, ?_, h.providerOperations.filterMap _, by simp⟩
  · simp only [ledgerEquation, h.account hs]
    exact (tally_perm (h.postings.filterMap _)).filterMap _
  · simp only [refundsExceedCaptured, h.refunded]
    exact h.captures.filterMap _
  · simp only [capturedExceedsAuthorised, h.authorised]
    exact (tally_perm (h.captures.filter _)).filterMap _
  · exact ((tally_perm h.providerEffects).filterMap _).append ((tally_perm (h.journals.filter _)).filterMap _)
  · simp only [idempotencyBytesDiverge, lookup_unique h.providerOperations hs.providerOperations]
    exact h.idempotencyRecords.filterMap _
  · simp only [unknownProviderEffect, ← h.providerOperations.any_eq]
    exact ((h.providerEffects.map _).dedup.filter _).map _
  · simp only [ackedOpMissing, h.acknowledged hs, ← h.idempotencyRecords.any_eq]
    exact h.ackedOps.filterMap _

end Perm

lemma ordered_perm {found found' : List (String × String)} (h : found.Perm found') : ordered found = ordered found' :=
  @sort_perm _ _ _ toLex _ _ h fun _ _ _ _ => toLex.injective.eq_iff.1

def quiescedOnlyCodes : List InvariantCode := [.unknownProviderEffect, .notQuiesced]

lemma checks_flag : ∀ c ∈ checks, c.2.2 = decide (c.1 ∈ quiescedOnlyCodes) := by
  simp [checks, quiescedOnlyCodes]

/-- The order of the rows leaves no trace, and a system that is not quiesced is checked for the rest alone. -/
theorem check_invariants (s : SystemSnapshot) :
    (∀ s' quiesced, s.Keyed → s.Reordered s' → checkInvariants s quiesced = checkInvariants s' quiesced) ∧
      checkInvariants s false = (checkInvariants s true).filter fun v => v.code ∉ quiescedOnlyCodes := by
  constructor
  · intro s' quiesced hs h
    refine List.flatMap_congr fun c hc => ?_
    obtain ⟨code, check, quiescedOnly⟩ := c
    simp only [ordered_perm (checks_perm h hs _ hc)]
  · rw [checkInvariants, checkInvariants, List.filter_flatMap]
    refine List.flatMap_congr fun c hc => ?_
    have hflag := checks_flag c hc
    obtain ⟨code, check, quiescedOnly⟩ := c
    -- a check has one code, so all of what it finds stays or none of it
    cases quiescedOnly with
    | false =>
      have hcode : code ∉ quiescedOnlyCodes := by simpa using hflag
      simp [List.filter_map, Function.comp_def, hcode]
    | true =>
      have hcode : code ∈ quiescedOnlyCodes := by simpa using hflag
      simp [List.filter_map, Function.comp_def, hcode]

def unposted : SystemSnapshot := { journals := [⟨"a", "CAPTURE", "c"⟩, ⟨"b", "OPENING", "o"⟩] }

def turned : SystemSnapshot := { journals := [⟨"b", "OPENING", "o"⟩, ⟨"a", "CAPTURE", "c"⟩] }

theorem check_invariants_turned : unposted.Keyed ∧ checkInvariants unposted true = checkInvariants turned true := by
  have hkeyed : unposted.Keyed := by constructor <;> exact List.nodup_nil
  have hturned : unposted.Reordered turned := by
    constructor
    all_goals first | exact .refl _ | exact .swap _ _ _
  exact ⟨hkeyed, (check_invariants unposted).1 turned true hkeyed hturned⟩

end RelayPay.Proof
