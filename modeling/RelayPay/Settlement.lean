import RelayPay.Ledger

namespace RelayPay

open ReadCommitted Txn

def merchantTemplates : List AccountCode :=
  [.pendingPayable, .availablePayable, .payoutClearing, .merchantReceivable]

def World.defaultMerchant (w : World) : Option MerchantId :=
  (w.merchants.rows.find? fun e => e.2.isDefault && e.2.active).map Prod.fst

def createMerchantAccount (fresh : MerchantId) (isDefault : Bool) : Tx Unit := do
  if isDefault then acquire .defaultMerchant else done ()
  acquire (.merchant fresh)
  let taken ← query fun w =>
    (w.merchants.get fresh).isSome || (isDefault && w.defaultMerchant.isSome)
  ensure (taken = false) .integrity
  modify fun w => w.putMerchant fresh ⟨isDefault, true, 0⟩
  forEach (fun code => modify fun w => w.addAccount ⟨code, some fresh⟩) merchantTemplates

def defaultMerchantAccountId (fresh : MerchantId) : Tx MerchantId := do
  let default ← query World.defaultMerchant
  match default with
  | some m => done m
  | none => do
    createMerchantAccount fresh true
    done fresh

def scopedMerchant (m : MerchantId) (lock : Bool) : Tx Merchant := do
  if lock then acquire (.merchant m) else done ()
  let row ← query fun w => w.merchants.get m
  require (row.filter Merchant.active) (.relayPay (notFound "Merchant account"))

def Capture.unsettledIn (w : World) (m : MerchantId) (e : PaymentId × PaymentIntent) :
    Option (PaymentId × Capture) :=
  match e.2.capture with
  | some c =>
    if c.status = .succeeded ∧ e.2.merchant = m ∧ (w.settlementItems.all fun i => i.capture ≠ e.1)
    then some (e.1, c) else none
  | none => none

def captureOrder (a b : PaymentId × Capture) : Bool :=
  let s := a.2.capturedAt.getD 0
  let t := b.2.capturedAt.getD 0
  s < t || (s = t && a.1 ≤ b.1)

def World.unsettledCaptures (w : World) (m : MerchantId) : List (PaymentId × Capture) :=
  (w.payments.rows.filterMap (Capture.unsettledIn w m)).insertionSort fun a b => captureOrder a b

structure SettlementState where
  settledAmount : ℤ
  receivableBalance : ℤ
  items : List Json

def settleCapture (m : MerchantId) (run : KeyDigest) (refunded : PaymentId → ℤ)
    (st : SettlementState) (e : PaymentId × Capture) : Tx SettlementState := do
  let amount := e.2.netAmount - refunded e.1
  if amount ≤ 0 then done st
  else do
    let receivableOffset := min st.receivableBalance amount
    let availableCredit := amount - receivableOffset
    let entries : List Posting := [⟨⟨.pendingPayable, some m⟩, .debit, amount⟩] ++
      (if receivableOffset ≠ 0 then [⟨⟨.merchantReceivable, some m⟩, .credit, receivableOffset⟩]
        else []) ++
      (if availableCredit ≠ 0 then [⟨⟨.availablePayable, some m⟩, .credit, availableCredit⟩]
        else [])
    postJournal (.settlement e.1) m none entries
    acquire (.itemKey e.1)
    let settled ← query fun w => w.settlementItems.any fun i => i.capture = e.1
    ensure (settled = false) .integrity
    modify fun w => w.addSettlementItem ⟨m, run, e.1, .settlement e.1, amount⟩
    addBalanceTransaction ⟨m, .settlement e.1, .settlement, -amount, availableCredit, -receivableOffset, 0⟩
    done ⟨st.settledAmount + amount, st.receivableBalance - receivableOffset,
      st.items ++ [.obj [("captureId", .str (OperationId.capture e.1).resourcePublicId),
        ("amount", .int amount)]]⟩

/-- `FOR UPDATE SKIP LOCKED` over the rows a query returned. A row that changed after the
query's snapshot is tested again once it is locked. -/
def skipLocked {β : Type} (key : β → Key) (still : World → β → Bool) : List β → Tx (List β)
  | [] => done []
  | b :: bs => do
    let taken ← attempt (key b)
    let current ← query fun w => still w b
    let rest ← skipLocked key still bs
    done (if taken && current then b :: rest else rest)

def runSettlementTransaction (m : MerchantId) (run : KeyDigest) (fingerprint : Digest) : Tx Reply := do
  let existing ← query fun w => w.settlementRuns.get run
  match existing with
  | some r => do
    ensure (r.fingerprint = fingerprint) (relayPay "IDEMPOTENCY_KEY_REUSED"
      "The idempotency key was already used for a different request" 409 [])
    let body ← require r.responseBytes (relayPay "SETTLEMENT_IN_PROGRESS"
      "The settlement is still processing" 409 [])
    done ⟨200, body, true⟩
  | none => do
    let _ ← scopedMerchant m true
    acquire (.settlementKey run)
    let taken ← query fun w => w.settlementRuns.get run
    ensure (taken.isNone = true) .integrity
    let createdAt ← query World.now
    modify fun w => w.putSettlementRun run ⟨m, fingerprint, false, 0, none, createdAt, none⟩
    let candidates ← query fun w => w.unsettledCaptures m
    let captures ← skipLocked (fun e => .resource (.capture e.1)) (fun _ _ => true) candidates
    let refunded ← query fun w => w.pendingRefunds
    let _ ← account .pendingPayable (some m)
    let _ ← account .merchantReceivable (some m)
    let _ ← account .availablePayable (some m)
    let balances ← deriveBalances m
    let st ← foldOver (settleCapture m run refunded) ⟨0, max balances.receivable 0, []⟩ captures
    let body := canonicalJsonBytes (.obj [
      ("id", .str ("stl_" ++ run.key)),
      ("merchantAccountId", .str (publicId "mac" m)),
      ("status", .str "COMPLETED"),
      ("settledAmount", .int st.settledAmount),
      ("currency", .str "INR"),
      ("items", .arr st.items)])
    let completedAt ← query World.now
    modify fun w => w.putSettlementRun run
      ⟨m, fingerprint, true, st.settledAmount, some body, createdAt, some completedAt⟩
    done ⟨201, body, false⟩

end RelayPay
