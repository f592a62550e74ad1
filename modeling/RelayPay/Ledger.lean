import RelayPay.Schema

namespace RelayPay

open ReadCommitted Txn

def Posting.creditValue (p : Posting) : ℤ :=
  match p.side with
  | .credit => p.amount
  | .debit => -p.amount

def Journal.creditTo (j : Journal) (a : Account) : ℤ :=
  ((j.postings.filter fun p => p.account = a).map Posting.creditValue).sum

namespace World

def creditNormal (w : World) (a : Account) : ℤ := (w.journals.map fun j => j.creditTo a).sum

def accountBalance (w : World) (a : Account) : ℤ :=
  match a.code.type with
  | .asset => -w.creditNormal a
  | .liability => w.creditNormal a
  | .income => w.creditNormal a

def available (w : World) (m : MerchantId) : ℤ := w.creditNormal ⟨.availablePayable, some m⟩

end World

def Payout.reserved (P : Payout) : ℤ := (P.reservations.map ReservationRow.amountDelta).sum

def World.reserved (w : World) (m : MerchantId) : ℤ :=
  w.payouts.total fun _ P => if P.merchant = m then P.reserved else 0

@[irreducible] def fitsBigint (n : ℤ) : Bool := -2 ^ 63 ≤ n && n < 2 ^ 63

def validatePayoutCoverage (d : Deferred) : Txn World Key Empty Error Unit := do
  let checked : Option MerchantId :=
    match d with
    | .reservation m => some m
    | .posting a side => if side = .debit ∧ a.code = .availablePayable then a.merchant else none
  match checked with
  | none => done ()
  | some m => do
    acquire (.coverage m)
    let available ← query fun w => w.available m
    ensure (fitsBigint available = true) .database
    let reserved ← query fun w => w.reserved m
    ensure (fitsBigint reserved = true) .database
    ensure (reserved ≤ available) .integrity

def account (code : AccountCode) (merchant : Option MerchantId) : Tx Account := do
  let present ← query fun w => decide ((⟨code, merchant⟩ : Account) ∈ w.accounts)
  ensure (present = true) (relayPay "LEDGER_ACCOUNT_MISSING" "Required INR ledger account is missing" 500
    [("account_code", .str code.text)])
  done ⟨code, merchant⟩

def platformAccount (code : AccountCode) : Tx Account := do
  modify fun w => w.addAccount ⟨code, none⟩
  account code none

def sideTotal (side : Side) (entries : List Posting) : ℤ :=
  ((entries.filter fun e => e.side = side).map Posting.amount).sum

def postJournal (id : JournalId) (merchant : MerchantId) (operation : Option OperationId)
    (entries : List Posting) : Tx Unit := do
  ensure (¬(sideTotal .debit entries ≤ 0 ∨ sideTotal .debit entries ≠ sideTotal .credit entries))
    (.value "journal entries must be positive and balanced")
  ensure (∀ e ∈ entries, 0 < e.amount) (.value "journal entries must be positive")
  acquire (.journalKey id)
  let taken ← query fun w => (w.journals.any fun j => j.id = id)
  ensure (taken = false) .integrity
  modify fun w => w.addJournal ⟨id, merchant, operation, entries⟩
  enqueueAll (entries.map fun e => .posting e.account e.side)

def addBalanceTransaction (b : BalanceTransaction) : Tx Unit := do
  ensure (b.pendingDelta ≠ 0 ∨ b.availableDelta ≠ 0 ∨ b.receivableDelta ≠ 0 ∨
    b.payoutClearingDelta ≠ 0) .integrity
  modify fun w => w.addBalanceTransaction b

def entryIf (amount : ℤ) (side : Side) (acct : Tx Account) : Tx (List Posting) :=
  if amount ≠ 0 then do
    let a ← acct
    done [⟨a, side, amount⟩]
  else done []

def postCaptureJournal (p : PaymentId) (amount feeAmount gstAmount : ℤ) : Tx JournalId := do
  let net := amount - feeAmount - gstAmount
  ensure (¬(feeAmount < 0 ∨ gstAmount < 0 ∨ net < 0))
    (.value "capture fee split must be non-negative and within the gross amount")
  let payment ← query fun w => w.payments.get p
  let merchant ← require (payment.map PaymentIntent.merchant)
    (.runtime "capture payment merchant account is missing")
  let clearing ← account .providerClearing none
  let netEntry ← entryIf net .credit (account .pendingPayable (some merchant))
  let feeEntry ← entryIf feeAmount .credit (platformAccount .platformFeeRevenue)
  let gstEntry ← entryIf gstAmount .credit (platformAccount .gstPayable)
  postJournal (.capture p) merchant (some (.capture p))
    ([⟨clearing, .debit, amount⟩] ++ netEntry ++ feeEntry ++ gstEntry)
  addBalanceTransaction ⟨merchant, .capture p, .capture, net, 0, 0, 0⟩
  done (.capture p)

namespace World

def settledAmount (w : World) (p : PaymentId) : ℤ :=
  ((w.settlementItems.filter fun i => i.capture = p).map SettlementItem.amount).sum

def refundOf (p : PaymentId) (b : BalanceTransaction) : Bool :=
  match b.journal with
  | .refund p' _ => b.type = .refund && p' = p
  | _ => false

def pendingRefunds (w : World) (p : PaymentId) : ℤ :=
  ((w.balanceTransactions.filter (refundOf p)).map fun b => -b.pendingDelta).sum

end World

def reservedPayoutAmount (m : MerchantId) : Tx ℤ := do
  let reserved ← query fun w => w.reserved m
  ensure (0 ≤ reserved) (.runtime "payout reservation history cannot derive a negative reservation")
  done reserved

structure RefundSources where
  pending : ℤ
  available : ℤ
  receivable : ℤ

def refundSources (p : PaymentId) (amount : ℤ) (merchant : MerchantId) : Tx RefundSources := do
  let settled ← query fun w => w.settledAmount p
  let priorPendingRefunds ← query fun w =>
    ((w.balanceTransactions.filter fun b => b.merchant = merchant && World.refundOf p b).map
      fun b => -b.pendingDelta).sum
  let payment ← query fun w => w.payments.get p
  let captured ← require (payment.bind PaymentIntent.capture) (.runtime "refund capture is missing")
  let pending := max (captured.netAmount - settled - priorPendingRefunds) 0
  let availableAccount ← account .availablePayable (some merchant)
  let available ← query fun w => w.creditNormal availableAccount
  let reserved ← reservedPayoutAmount merchant
  let unreserved := max (available - reserved) 0
  let pendingUse := min amount pending
  let availableUse := min (amount - pendingUse) unreserved
  done ⟨pendingUse, availableUse, amount - pendingUse - availableUse⟩

def postRefundJournal (p : PaymentId) (r : RefundId) (amount : ℤ) : Tx JournalId := do
  let payment ← query fun w => w.payments.get p
  let refund ← require (payment.bind fun a => a.refunds.get r)
    (.runtime "refund accounting resource is missing or inconsistent")
  ensure (refund.amount = amount)
    (.runtime "refund accounting resource is missing or inconsistent")
  let parent ← query fun w => w.payments.get p
  let merchant ← require (parent.map PaymentIntent.merchant)
    (.runtime "refund payment merchant account is missing")
  acquire (.merchant merchant)
  let sources ← refundSources p amount merchant
  let pendingEntry ← entryIf sources.pending .debit (account .pendingPayable (some merchant))
  let availableEntry ← entryIf sources.available .debit (account .availablePayable (some merchant))
  let receivableEntry ← entryIf sources.receivable .debit
    (account .merchantReceivable (some merchant))
  let clearing ← account .providerClearing none
  postJournal (.refund p r) merchant (some (.refund p r))
    (pendingEntry ++ availableEntry ++ receivableEntry ++ [⟨clearing, .credit, amount⟩])
  addBalanceTransaction ⟨merchant, .refund p r, .refund, -sources.pending, -sources.available, sources.receivable, 0⟩
  done (.refund p r)

structure MerchantBalances where
  pending : ℤ
  available : ℤ
  receivable : ℤ
  reserved : ℤ
  payoutEligible : ℤ

def deriveBalances (m : MerchantId) : Tx MerchantBalances := do
  let pendingAccount ← account .pendingPayable (some m)
  let pending ← query fun w => w.accountBalance pendingAccount
  let availableAccount ← account .availablePayable (some m)
  let available ← query fun w => w.accountBalance availableAccount
  let receivableAccount ← account .merchantReceivable (some m)
  let receivable ← query fun w => w.accountBalance receivableAccount
  let reserved ← reservedPayoutAmount m
  done ⟨pending, available, receivable, reserved, max (available - reserved) 0⟩

end RelayPay
