import RelayPay.Discipline
import RelayPay.System

/-! What a process at `l` with the locks `held` can do to the database; `ms` have their triggers queued. -/

namespace RelayPay

open ReadCommitted

def Capture.Priced (c : Capture) : Prop :=
  (c.feeAmount = 0 ∧ c.gstAmount = 0) ∨
    ∃ terms, computeCaptureFee c.amount terms = .ok ⟨c.feeAmount, c.gstAmount, c.netAmount⟩

inductive PaymentIntent.Opens (cfg : Service) (a : PaymentIntent) : OperationId → PaymentIntent → Prop
  | authorize {p} : a.authorization = none →
      Opens cfg a (.authorize p) { a with
        authorization := some ⟨a.amount, cfg.authHoldSeconds, .processing, none, none, none⟩ }
  | capture {p auth c} : succeededAuthorization a = some auth → a.capture = none → openVoid a = none →
      a.status ≠ .cancelled → a.status ≠ .expired → a.status ≠ .failed →
      0 < c.amount → c.amount ≤ auth.amount → c.status = .processing → c.journal = none →
      0 ≤ c.feeAmount → 0 ≤ c.gstAmount → 0 ≤ c.netAmount → c.Priced →
      Opens cfg a (.capture p) { a with capture := some c }
  | void {p auth} : a.void = none → succeededAuthorization a = some auth → a.capture = none →
      a.status = .authorised →
      Opens cfg a (.void p) { a with void := some ⟨auth.amount, .processing, none, none⟩ }
  | refund {p r amount c} : a.capture = some c → c.status = .succeeded → a.refunds.get r = none →
      0 < amount → amount ≤ c.amount - a.refundReserved →
      Opens cfg a (.refund p r) { a with
        refunds := a.refunds.put r ⟨amount, .processing, none, none, none⟩ }

structure LookupInHand where
  operation : OperationId
  observation : Option Observation
  expected : ExpectedProviderResult
  graceSeconds : ℕ

def Local.lookup? (cfg : Service) : Local → Option LookupInHand
  | .answered _ prepared e obs =>
    if prepared.alreadySent then some ⟨prepared.operation, obs, e, defaultNotFoundGraceSeconds⟩
    else none
  | .recording _ claim _ obs e => some ⟨claim.operation, obs, e, cfg.notFoundGraceSeconds⟩
  | _ => none

def Local.reviews : Local → Option (OperationId × String)
  | .reviewing _ o _ reason _ => some (o, reason)
  | .applyFailed _ o _ => some (o, "APPLY_FAILURE")
  | .pspReview _ o reason => some (o, reason)
  | .pspApplyFailed _ o _ => some (o, "APPLY_FAILURE")
  | _ => none

def IdempotencyRecord.Copies (r : IdempotencyRecord) (op : ProviderOperation) : Prop :=
  r.isTerminal = op.status.terminal ∧ (op.status.terminal = true →
    r.httpStatus = op.terminalHttpStatus ∧ r.responseBytes = op.terminalResponseBytes)

def ProviderOperation.answerMutation (op : ProviderOperation) (t : ProviderAttempt)
    (obs : Option Observation) (cl : ClassifiedProviderResult) (now : Time) : ProviderOperation :=
  { op with
    attempts := op.attempts.map fun x => if x.sequence = t.sequence then x.record obs cl now else x
    nextLookupAt := some (if cl.action = .lookup then now else nextLookup now op.attemptCount) }

inductive ProviderOperation.Notes (cfg : Service) (l : Local) (now : Time) (o : OperationId)
    (op : ProviderOperation) : ProviderOperation → Prop
  | sent {cont request t} : l = .dispatch cont o → op.status.terminal = false → op.lastSentAt = none →
      (op.attempts.all fun x => x.sequence ≠ 1) = true → t ≤ now →
      Notes cfg l now o op (op.firstSend request t)
  | answered {cont prepared e obs x t} : l = .answered cont prepared e obs →
      prepared.operation = o → prepared.alreadySent = false → op.mutation? = some x →
      x.completedAt = none → t ≤ now →
      Notes cfg l now o op
        (op.answerMutation x obs (classifyOrTransportError cfg obs e false) t)
  | lookedUp {h t cl} : l.lookup? cfg = some h → h.operation = o → op.status.terminal = false →
      cl = classifyOrTransportError cfg h.observation h.expected true →
      (cl.action = .notFound → op.lastSentAt.isSome) → t ≤ now →
      Notes cfg l now o op (op.recordLookup o h.observation cl
        (lookupRuling cl (op.lastSentAt.getD 0) (1 + op.lookups) t (nextLookup t (op.attemptCount + 1))
          h.graceSeconds) t)
  | leased {token t} : Notes cfg l now o op (op.lease token t)
  | webhook {e ev succeeded code t} : op.status.terminal = false →
      Notes cfg l now o op { op with
        attempts := op.attempts ++ [webhookAttempt op.nextSequence e ev succeeded code t] }
  | applyFailed : op.status.terminal = false →
      Notes cfg l now o op { op with applyFailureCount := op.applyFailureCount + 1 }

def entry (amount : ℤ) (side : Side) (acct : Account) : List Posting :=
  if amount ≠ 0 then [⟨acct, side, amount⟩] else []

def captureEntries (m : MerchantId) (c : Capture) : List Posting :=
  [⟨⟨.providerClearing, none⟩, .debit, c.amount⟩] ++ entry c.netAmount .credit ⟨.pendingPayable, some m⟩ ++
    entry c.feeAmount .credit ⟨.platformFeeRevenue, none⟩ ++ entry c.gstAmount .credit ⟨.gstPayable, none⟩

def refundEntries (m : MerchantId) (amount : ℤ) (s : RefundSources) : List Posting :=
  entry s.pending .debit ⟨.pendingPayable, some m⟩ ++ entry s.available .debit ⟨.availablePayable, some m⟩ ++
    entry s.receivable .debit ⟨.merchantReceivable, some m⟩ ++ [⟨⟨.providerClearing, none⟩, .credit, amount⟩]

def settlementEntries (m : MerchantId) (amount offset : ℤ) : List Posting :=
  [⟨⟨.pendingPayable, some m⟩, .debit, amount⟩] ++ entry offset .credit ⟨.merchantReceivable, some m⟩ ++
    entry (amount - offset) .credit ⟨.availablePayable, some m⟩

def payoutEntries (m : MerchantId) (amount : ℤ) : List Posting :=
  [⟨⟨.availablePayable, some m⟩, .debit, amount⟩, ⟨⟨.payoutClearing, some m⟩, .credit, amount⟩]

def credit (entries : List Posting) (a : Account) : ℤ :=
  ((entries.filter fun e => e.account = a).map Posting.creditValue).sum

def Side.sign : Side → ℤ
  | .credit => 1
  | .debit => -1

lemma Posting.creditValue_eq (e : Posting) : e.creditValue = e.side.sign * e.amount := by
  cases h : e.side <;> simp [Posting.creditValue, Side.sign, h]

@[simp] lemma credit_nil (a : Account) : credit [] a = 0 := rfl

@[simp] lemma credit_cons (e : Posting) (entries : List Posting) (a : Account) :
    credit (e :: entries) a =
      (if e.account = a then e.side.sign * e.amount else 0) + credit entries a := by
  by_cases h : e.account = a <;> simp [credit, h, Posting.creditValue_eq]

@[simp] lemma credit_append (xs ys : List Posting) (a : Account) : credit (xs ++ ys) a = credit xs a + credit ys a := by
  simp [credit]

@[simp] lemma credit_entry (amount : ℤ) (side : Side) (acct a : Account) :
    credit (entry amount side acct) a = if acct = a then side.sign * amount else 0 := by
  by_cases h : amount = 0 <;> simp [entry, h]

lemma Journal.creditTo_eq (j : Journal) (a : Account) : j.creditTo a = credit j.postings a := rfl

structure Journal.Posts (held : List Key) (w : World) (j : Journal) : Prop where
  key : .journalKey j.id ∈ held
  fresh : w.hasJournal j.id = false
  balanced : sideTotal .debit j.postings = sideTotal .credit j.postings
  positive : ∀ e ∈ j.postings, 0 < e.amount

def World.priorPending (w : World) (m : MerchantId) (p : PaymentId) : ℤ :=
  (((w.refundsBy m).filter (World.refundOf p)).map fun b => -b.pendingDelta).sum

/-- How a refund is split. The settled amount is read over all merchants, so it is current only if
the items of the capture are the merchant's. -/
structure RefundSources.Splits (s : RefundSources) (w : World) (p : PaymentId) (m : MerchantId)
    (c : Capture) (amount : ℤ) : Prop where
  pending : ∃ settled, s.pending = min amount (max (c.netAmount - settled - w.priorPending m p) 0) ∧
    ((∀ i ∈ w.settlementItems, i.capture = p → i.merchant = m) → settled = w.settledAmount p)
  available_nonneg : 0 ≤ s.available
  available_le : s.available ≤ amount - s.pending
  receivable : s.receivable = amount - s.pending - s.available

def PaymentIntent.refunded (a : PaymentIntent) : ℤ :=
  a.refunds.total fun _ r => if r.status = .succeeded then r.amount else 0

def PaymentIntent.refundTarget (a : PaymentIntent) : PaymentStatus :=
  if (a.capture.filter fun c => c.status = .succeeded).map Capture.amount = some a.refunded
  then .refunded else .partiallyRefunded

def PaymentIntent.requested (a : PaymentIntent) (v : Verdict) : OperationId → Option PaymentStatus
  | .authorize _ => some (if v.succeeded then .authorised else .failed)
  | .capture _ => some (if v.succeeded then .captured else .failed)
  | .void _ => if v.succeeded then some .cancelled else none
  | .refund p r =>
    if v.succeeded then (a.refunds.get r).map fun x =>
      { a with refunds := a.refunds.put r (v.refund (some (.refund p r)) x) }.refundTarget
    else none

inductive PaymentIntent.Resolves (held : List Key) (ms : List MerchantId) (w : World) (actor : Actor)
    (v : Verdict) (a : PaymentIntent) :
    OperationId → PaymentIntent → List (Journal × BalanceTransaction) → Prop
  | authorize {p x target} : a.authorization = some x →
      target = (if v.succeeded then .authorised else .failed) →
      isAllowed a.status target = true →
      Resolves held ms w actor v a (.authorize p)
        (PaymentIntent.moved { a with authorization := some (v.authorization x) } target
          (if v.succeeded then .authorizationSucceeded else .authorizationDeclined) actor) []
  | captured {p x j} : v.succeeded = true → a.capture = some x →
      j = ⟨.capture p, a.merchant, some (.capture p), captureEntries a.merchant x⟩ → j.Posts held w →
      0 ≤ x.feeAmount → 0 ≤ x.gstAmount → 0 ≤ x.netAmount → x.netAmount ≠ 0 →
      isAllowed a.status .captured = true →
      Resolves held ms w actor v a (.capture p)
        (PaymentIntent.moved { a with capture := some (v.capture (some (.capture p)) x) } .captured
          .captureSucceeded actor)
        [(j, ⟨a.merchant, .capture p, .capture, x.netAmount, 0, 0, 0⟩)]
  | captureDeclined {p x} : v.succeeded = false → a.capture = some x → isAllowed a.status .failed = true →
      Resolves held ms w actor v a (.capture p)
        (PaymentIntent.moved { a with capture := some (v.capture x.journal x) } .failed
          .captureDeclined actor) []
  | voided {p x} : v.succeeded = true → a.void = some x → isAllowed a.status .cancelled = true →
      Resolves held ms w actor v a (.void p)
        (PaymentIntent.moved { a with void := some (v.void x) } .cancelled .voidSucceeded actor) []
  | voidDeclined {p x} : v.succeeded = false → a.void = some x →
      Resolves held ms w actor v a (.void p) { a with void := some (v.void x) } []
  | refunded {p r x c s j target a'} : v.succeeded = true → a.refunds.get r = some x →
      a.capture = some c → s.Splits w p a.merchant c x.amount → .merchant a.merchant ∈ held →
      (s.available ≠ 0 → a.merchant ∈ ms) →
      j = ⟨.refund p r, a.merchant, some (.refund p r), refundEntries a.merchant x.amount s⟩ →
      j.Posts held w →
      a' = { a with refunds := a.refunds.put r (v.refund (some (.refund p r)) x) } →
      target = a'.refundTarget → isAllowed a.status target = true →
      Resolves held ms w actor v a (.refund p r) (a'.moved target .refundSucceeded actor)
        [(j, ⟨a.merchant, .refund p r, .refund, -s.pending, -s.available, s.receivable, 0⟩)]
  | refundDeclined {p r x} : v.succeeded = false → a.refunds.get r = some x →
      Resolves held ms w actor v a (.refund p r)
        { a with refunds := a.refunds.put r (v.refund x.journal x) } []

def World.post (w : World) (e : Journal × BalanceTransaction) : World :=
  (w.addJournal e.1).addBalanceTransaction e.2

inductive Change (cfg : Service) (l : Local) (held : List Key) (ms : List MerchantId) :
    World → World → Prop
  | outside {w now customers beneficiaries feeSchedules endpointVersions provider bank} :
      l = .finished → w.now ≤ now →
      Change cfg l held ms w { w with
        now := now, customers := customers, beneficiaries := beneficiaries,
        feeSchedules := feeSchedules, endpointVersions := endpointVersions, provider := provider,
        bank := bank }
  | accounts {w accounts} : w.accounts ⊆ accounts →
      Change cfg l held ms w { w with accounts := accounts }
  | merchant {w m M accounts} : .merchant m ∈ held → w.accounts ⊆ accounts →
      ((w.merchants.get m).isSome ∨ ∀ code ∈ merchantTemplates, (⟨code, some m⟩ : Account) ∈ accounts) →
      Change cfg l held ms w { w.putMerchant m M with accounts := accounts }
  | event {w e ev} : .event e ∈ held → Change cfg l held ms w (w.putEvent e ev)
  | record {w d r} : .recordKey d ∈ held → w.records.get d = none →
      (∀ o, r.operation = some o → ∃ op, w.operations.get o = some op ∧ r.Copies op) →
      Change cfg l held ms w (w.putRecord d r)
  | recipients {w rs} : Change cfg l held ms w (w.addRecipients rs)
  | stamped {w a t} : Change cfg l held ms w (w.stampAttempt a t)
  | settlementRun {w d r} : Change cfg l held ms w (w.putSettlementRun d r)
  | intent {w p customer m reference amount} : .payment p ∈ held → w.payments.get p = none →
      0 < amount → (w.merchants.get m).isSome →
      Change cfg l held ms w (w.putPayment p (.create customer m reference amount .request))
  | opened {w o a a' t} : .payment o.payment ∈ held → .operation o ∈ held →
      w.payments.get o.payment = some a → w.operations.get o = none → a.Opens cfg o a' → t ≤ w.now →
      Change cfg l held ms w ((w.putOperation o (newOperation t)).putPayment o.payment a')
  | noted {w o op op'} : .operation o ∈ held → w.operations.get o = some op →
      op.Notes cfg l w.now o op' → Change cfg l held ms w (w.putOperation o op')
  | reviewed {w o op a reason evidence actor token expires count} : .payment o.payment ∈ held →
      .operation o ∈ held → w.payments.get o.payment = some a → a.hasResource o = true →
      w.operations.get o = some op → op.status.terminal = false →
      l.reviews = some (o, reason) →
      Change cfg l held ms w ((w.putOperation o { op.toReview reason evidence actor with
        lookupLeaseToken := token, lookupLeaseExpiresAt := expires, applyFailureCount := count
        }).putPayment o.payment (a.setResourceStatus .requiresReview o))
  | finalized {w o op a a' evidence c v amount actor posted} : .payment o.payment ∈ held →
      .operation o ∈ held → w.payments.get o.payment = some a → a.resourceAmount o = some amount →
      w.operations.get o = some op → op.status.terminal = false →
      verdictOf op evidence v.now = .ok (c, v) → v.now ≤ w.now →
      a.Resolves held ms w actor v o a' posted →
      (v.succeeded = true → (op.events.all fun e => some e.eventType ≠ o.eventType) = true) →
      Change cfg l held ms w ((((posted.foldl World.post w).putPayment o.payment a').putOperation o
        (op.finalized o v amount evidence c actor)).updateRecords
          fun _ => finalizeRecord o (terminalResponse o amount v) v.now)
  | expired {w p a} : .payment p ∈ held → w.payments.get p = some a →
      isAllowed a.status .expired = true → a.inFlight = false →
      Change cfg l held ms w (w.putPayment p (a.moved .expired .authorizationExpired .expiryWorker))
  | settled {w m run p c refunded amount offset j} : .merchant m ∈ held → .itemKey p ∈ held →
      w.Captured p m c → w.hasItem p = false →
      ((∀ b ∈ w.balanceTransactions, World.refundOf p b = true → b.merchant = m) →
        refunded = w.pendingRefunds p) →
      amount = c.netAmount - refunded → 0 < amount → offset = min (max (w.receivable m) 0) amount →
      j = ⟨.settlement p, m, none, settlementEntries m amount offset⟩ → j.Posts held w →
      Change cfg l held ms w (((w.addJournal j).addSettlementItem
        ⟨m, run, p, .settlement p, amount⟩).addBalanceTransaction
          ⟨m, .settlement p, .settlement, -amount, amount - offset, -offset, 0⟩)
  | payoutCreated {w t} {c : CreatePayout} : .payout c.id ∈ held → c.merchant ∈ ms → w.payouts.get c.id = none →
      0 < c.amount →
      Change cfg l held ms w ((w.putPayout c.id c.row).stampAttempt (c.id, 1) t)
  | payoutRetried {w P t} {c : CreateRetry} : l = .retryPayout c → .payout c.payout ∈ held →
      P.merchant ∈ ms →
      w.payouts.get c.payout = some P → P.status = .failed →
      (P.attempts.all fun a => a.status.terminal) = true →
      Change cfg l held ms w ((w.putPayout c.payout
        (P.retried c.payout (P.lastNumber + 1) c)).stampAttempt (c.payout, P.lastNumber + 1) t)
  | payoutSent {w rest q P a request t} : l = .payoutPrepare rest q → .payout q ∈ held →
      w.payouts.get q = some P → P.latestAttempt = some a → a.status.terminal = false →
      a.lastSentAt = none → a.evidence = [] → t ≤ w.now →
      Change cfg l held ms w ((w.putPayout q (P.updateAttempt a.attemptNumber
        fun a => a.markSent request t)).stampAttempt (q, a.attemptNumber) t)
  | payoutAmbiguous {w rest prepared obs cl cl' P a sha t} : l = .payoutRecord rest prepared obs cl →
      .payout prepared.payout ∈ held → w.payouts.get prepared.payout = some P →
      P.attempt? prepared.number = some a → a.status.terminal = false → a.requestSha256 = some sha →
      t ≤ w.now → cl' = cl.afterGrace a.lastSentAt t cfg.notFoundGraceSeconds → cl'.ambiguous = true →
      Change cfg l held ms w ((w.putPayout prepared.payout (P.observeAmbiguous prepared.payout
        prepared.number (bankEvidence a sha prepared.lookupOnly obs cl' t) cl'.code
        prepared.lookupOnly)).stampAttempt (prepared.payout, prepared.number) t)
  | payoutFailed {w rest prepared obs cl cl' P a sha t} : l = .payoutRecord rest prepared obs cl →
      .payout prepared.payout ∈ held → P.merchant ∈ ms → w.payouts.get prepared.payout = some P →
      P.attempt? prepared.number = some a → a.status.terminal = false → a.requestSha256 = some sha →
      t ≤ w.now → cl' = cl.afterGrace a.lastSentAt t cfg.notFoundGraceSeconds →
      cl'.ambiguous = false → cl'.succeeded = false →
      Change cfg l held ms w ((w.putPayout prepared.payout (P.observeFailure prepared.payout
        prepared.number (bankEvidence a sha prepared.lookupOnly obs cl' t) cl'.code t)).stampAttempt
          (prepared.payout, prepared.number) t)
  | payoutSucceeded {w rest prepared obs cl cl' P a sha t j} : l = .payoutRecord rest prepared obs cl →
      .payout prepared.payout ∈ held → P.merchant ∈ ms → w.payouts.get prepared.payout = some P →
      P.attempt? prepared.number = some a → a.status.terminal = false → a.requestSha256 = some sha →
      t ≤ w.now → cl' = cl.afterGrace a.lastSentAt t cfg.notFoundGraceSeconds →
      cl'.ambiguous = false → cl'.succeeded = true →
      j = ⟨.payout prepared.payout, P.merchant, none, payoutEntries P.merchant P.amount⟩ →
      j.Posts held w → P.events = [] →
      Change cfg l held ms w (((w.post (j, ⟨P.merchant, .payout prepared.payout, .payout, 0, -P.amount,
        0, P.amount⟩)).putPayout prepared.payout (P.observeSuccess prepared.payout prepared.number
          (bankEvidence a sha prepared.lookupOnly obs cl' t) t)).stampAttempt
            (prepared.payout, prepared.number) t)

def Changes (cfg : Service) (l : Local) (held : List Key) (ms : List MerchantId) :
    World → World → Prop :=
  Relation.ReflTransGen (Change cfg l held ms)

section Mono

variable {cfg : Service} {l : Local} {held held' : List Key} {ms ms' : List MerchantId} {w w' : World}

lemma Journal.Posts.mono {j : Journal} (h : j.Posts held w) (hheld : held ⊆ held') : j.Posts held' w :=
  ⟨hheld h.key, h.fresh, h.balanced, h.positive⟩

lemma PaymentIntent.Resolves.mono {a a' : PaymentIntent} {o : OperationId} {actor : Actor}
    {v : Verdict} {posted : List (Journal × BalanceTransaction)}
    (h : a.Resolves held ms w actor v o a' posted) (hheld : held ⊆ held') (hms : ms ⊆ ms') :
    a.Resolves held' ms' w actor v o a' posted := by
  cases h with
  | authorize hx ht hal => exact .authorize hx ht hal
  | captured hv hx hj hposts hf hg hn hz hal =>
    exact .captured hv hx hj (hposts.mono hheld) hf hg hn hz hal
  | captureDeclined hv hx hal => exact .captureDeclined hv hx hal
  | voided hv hx hal => exact .voided hv hx hal
  | voidDeclined hv hx => exact .voidDeclined hv hx
  | refunded hv hx hc hs hm hav hj hposts ha ht hal =>
    exact .refunded hv hx hc hs (hheld hm) (fun hne => hms (hav hne)) hj (hposts.mono hheld) ha ht hal
  | refundDeclined hv hx => exact .refundDeclined hv hx

lemma Change.mono (h : Change cfg l held ms w w') (hheld : held ⊆ held') (hms : ms ⊆ ms') :
    Change cfg l held' ms' w w' := by
  cases h with
  | outside hl hnow => exact .outside hl hnow
  | accounts hsub => exact .accounts hsub
  | merchant hm hsub hrow => exact .merchant (hheld hm) hsub hrow
  | event he => exact .event (hheld he)
  | record hd hnone hcopies => exact .record (hheld hd) hnone hcopies
  | recipients => exact .recipients
  | stamped => exact .stamped
  | settlementRun => exact .settlementRun
  | intent hp hnone hpos hm => exact .intent (hheld hp) hnone hpos hm
  | opened hp ho ha hop hopens ht => exact .opened (hheld hp) (hheld ho) ha hop hopens ht
  | noted ho hop hnotes => exact .noted (hheld ho) hop hnotes
  | reviewed hp ho ha hr hop hopen hl => exact .reviewed (hheld hp) (hheld ho) ha hr hop hopen hl
  | finalized hp ho ha ham hop hopen hv hnow hres hev =>
    exact .finalized (hheld hp) (hheld ho) ha ham hop hopen hv hnow (hres.mono hheld hms) hev
  | expired hp ha hal hfree => exact .expired (hheld hp) ha hal hfree
  | settled hm hi hc hitem href ham hpos hoff hj hposts =>
    exact .settled (hheld hm) (hheld hi) hc hitem href ham hpos hoff hj (hposts.mono hheld)
  | payoutCreated hq hm hnone hpos => exact .payoutCreated (hheld hq) (hms hm) hnone hpos
  | payoutRetried hl hq hm hP hs hall => exact .payoutRetried hl (hheld hq) (hms hm) hP hs hall
  | payoutSent hl hq hP ha hopen hsent hev ht =>
    exact .payoutSent hl (hheld hq) hP ha hopen hsent hev ht
  | payoutAmbiguous hl hq hP ha hopen hsha ht hcl hamb =>
    exact .payoutAmbiguous hl (hheld hq) hP ha hopen hsha ht hcl hamb
  | payoutFailed hl hq hm hP ha hopen hsha ht hcl hamb hs =>
    exact .payoutFailed hl (hheld hq) (hms hm) hP ha hopen hsha ht hcl hamb hs
  | payoutSucceeded hl hq hm hP ha hopen hsha ht hcl hamb hs hj hposts hev =>
    exact .payoutSucceeded hl (hheld hq) (hms hm) hP ha hopen hsha ht hcl hamb hs hj
      (hposts.mono hheld) hev

lemma Changes.mono (h : Changes cfg l held ms w w') (hheld : held ⊆ held') (hms : ms ⊆ ms') :
    Changes cfg l held' ms' w w' := by
  induction h with
  | refl => exact .refl
  | tail _ hstep ih => exact ih.tail (hstep.mono hheld hms)

end Mono

end RelayPay
