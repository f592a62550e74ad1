import RelayPay.Invariants.Payouts
import RelayPay.Invariants.Payments

/-! Balanced journals, and for every capture a pending remainder that settlement and refunds share. -/

namespace RelayPay

open ReadCommitted

/-- The four deltas are what the journal does to the merchant's accounts. The receivable grows on
the debit side; payout clearing is read credit-positive. -/
structure BalanceTransaction.Repeats (b : BalanceTransaction) (j : Journal) : Prop where
  journal : j.id = b.journal
  pending : b.pendingDelta = j.creditTo ⟨.pendingPayable, some b.merchant⟩
  available : b.availableDelta = j.creditTo ⟨.availablePayable, some b.merchant⟩
  receivable : b.receivableDelta = -j.creditTo ⟨.merchantReceivable, some b.merchant⟩
  payoutClearing : b.payoutClearingDelta = j.creditTo ⟨.payoutClearing, some b.merchant⟩

structure World.BooksKept (w : World) : Prop where
  balanced : ∀ j ∈ w.journals, sideTotal .debit j.postings = sideTotal .credit j.postings
  distinct : (w.journals.map Journal.id).Nodup
  repeats : ∀ b ∈ w.balanceTransactions, ∃ j ∈ w.journals, b.Repeats j

variable {j : Journal}

lemma World.BooksKept.post {w w' : World} (h : w.BooksKept) {held : List Key}
    {b : BalanceTransaction} (hj : j.Posts held w) (hb : b.Repeats j) (hjournals : w'.journals = w.journals ++ [j])
    (hbalances : w'.balanceTransactions = w.balanceTransactions ++ [b]) : w'.BooksKept := by
  have hfresh : j.id ∉ w.journals.map Journal.id := by
    have hnone := hj.fresh
    simp only [World.hasJournal, List.any_eq_false, decide_eq_true_eq] at hnone
    intro hmem
    obtain ⟨j', hj', heq⟩ := List.mem_map.1 hmem
    exact hnone j' hj' heq
  refine ⟨?_, ?_, ?_⟩
  · intro j' hj'
    rw [hjournals, List.mem_append, List.mem_singleton] at hj'
    rcases hj' with hold | rfl
    · exact h.balanced j' hold
    · exact hj.balanced
  · rw [hjournals, List.map_append, List.map_singleton]
    exact (List.perm_append_singleton ..).nodup_iff.2 (List.nodup_cons.2 ⟨hfresh, h.distinct⟩)
  · intro b' hb'
    rw [hbalances, List.mem_append, List.mem_singleton] at hb'
    rw [hjournals]
    rcases hb' with hold | rfl
    · obtain ⟨j', hj', hrepeats⟩ := h.repeats b' hold
      exact ⟨j', List.mem_append_left _ hj', hrepeats⟩
    · exact ⟨j, by simp, hb⟩

variable {m : MerchantId} {p : PaymentId}

lemma capture_repeats {x : Capture} (hj : j = ⟨.capture p, m, some (.capture p), captureEntries m x⟩) :
    (⟨m, .capture p, .capture, x.netAmount, 0, 0, 0⟩ : BalanceTransaction).Repeats j := by
  subst hj
  constructor <;> simp [Journal.creditTo_eq, captureEntries, Side.sign]

variable {amount : ℤ} {s : RefundSources}

lemma refund_repeats {r : RefundId} (hj : j = ⟨.refund p r, m, some (.refund p r), refundEntries m amount s⟩) :
    (⟨m, .refund p r, .refund, -s.pending, -s.available, s.receivable, 0⟩ : BalanceTransaction).Repeats j := by
  subst hj
  constructor <;> simp [Journal.creditTo_eq, refundEntries, Side.sign]

lemma settlement_repeats {offset : ℤ} (hj : j = ⟨.settlement p, m, none, settlementEntries m amount offset⟩) :
    (⟨m, .settlement p, .settlement, -amount, amount - offset, -offset, 0⟩ : BalanceTransaction).Repeats j := by
  subst hj
  constructor <;> simp [Journal.creditTo_eq, settlementEntries, Side.sign]

lemma payout_repeats {q : PayoutId} (hj : j = ⟨.payout q, m, none, payoutEntries m amount⟩) :
    (⟨m, .payout q, .payout, 0, -amount, 0, amount⟩ : BalanceTransaction).Repeats j := by
  subst hj
  constructor <;> simp [Journal.creditTo_eq, payoutEntries, Side.sign]

def PaymentIntent.succeededCapture (a : PaymentIntent) : Option Capture :=
  a.capture.filter fun c => c.status = .succeeded

lemma World.captured_iff {w : World} {c : Capture} :
    w.Captured p m c ↔ (w.payments.get p).map (fun a => (a.merchant, a.succeededCapture)) = some (m, some c) := by
  constructor
  · rintro ⟨a, ha, rfl, hc, hs⟩
    simp [ha, PaymentIntent.succeededCapture, hc, Option.filter, hs]
  · intro h
    obtain ⟨a, ha, heq⟩ := Option.map_eq_some_iff.1 h
    rw [Prod.mk.injEq] at heq
    obtain ⟨hc, hs⟩ := Option.filter_eq_some_iff.1 heq.2
    exact ⟨a, ha, heq.1, hc, by simpa using hs⟩

namespace World

def remainder (w : World) (p : PaymentId) (c : Capture) : ℤ :=
  c.netAmount - w.settledAmount p - w.pendingRefunds p

def pendingShare (w : World) (m : MerchantId) (p : PaymentId) (a : PaymentIntent) : ℤ :=
  if a.merchant = m then a.succeededCapture.elim 0 (w.remainder p) else 0

def pendingBalance (w : World) (m : MerchantId) : ℤ := w.creditNormal ⟨.pendingPayable, some m⟩

structure PendingKept (w : World) : Prop where
  settledOnce : (w.settlementItems.map SettlementItem.capture).Nodup
  items : ∀ i ∈ w.settlementItems, ∃ c, w.Captured i.capture i.merchant c
  refunds : ∀ b ∈ w.balanceTransactions, ∀ p, refundOf p b = true → ∃ c, w.Captured p b.merchant c
  remainder_nonneg : ∀ p m c, w.Captured p m c → 0 ≤ w.remainder p c
  pending : ∀ m, w.pendingBalance m = w.payments.total (w.pendingShare m)
  receivable_nonneg : ∀ m, 0 ≤ w.receivable m

variable {w w' : World} {p : PaymentId} {m : MerchantId} {c : Capture} {a : PaymentIntent}

lemma Captured.unique {m' : MerchantId} {c' : Capture} (h : w.Captured p m c) (h' : w.Captured p m' c') :
    m' = m ∧ c' = c := by
  rw [captured_iff] at h h'
  have heq := h'.symm.trans h
  simpa using heq

namespace PendingKept

lemma settledAmount_eq_zero (h : w.PendingKept) (hnone : ∀ m c, ¬w.Captured p m c) : w.settledAmount p = 0 := by
  have hfilter : w.settlementItems.filter (fun i => i.capture = p) = [] := by
    rw [List.filter_eq_nil_iff]
    intro i hi hp
    obtain ⟨c, hc⟩ := h.items i hi
    have hip : i.capture = p := by simpa using hp
    exact hnone _ c (hip ▸ hc)
  rw [settledAmount, hfilter]
  rfl

lemma pendingRefunds_eq_zero (h : w.PendingKept) (hnone : ∀ m c, ¬w.Captured p m c) : w.pendingRefunds p = 0 := by
  have hfilter : w.balanceTransactions.filter (refundOf p) = [] := by
    rw [List.filter_eq_nil_iff]
    intro b hb hp
    obtain ⟨c, hc⟩ := h.refunds b hb p hp
    exact hnone _ c hc
  rw [pendingRefunds, hfilter]
  rfl

lemma priorPending_eq (h : w.PendingKept) (hc : w.Captured p m c) : w.priorPending m p = w.pendingRefunds p := by
  have hfilter : (w.refundsBy m).filter (refundOf p) = w.balanceTransactions.filter (refundOf p) := by
    rw [refundsBy, List.filter_filter]
    apply List.filter_congr
    intro b hb
    cases hp : refundOf p b with
    | false => rfl
    | true =>
      obtain ⟨c', hc'⟩ := h.refunds b hb p hp
      have hm := (hc.unique hc').1
      have htype : b.type = .refund := by
        unfold refundOf at hp
        split at hp <;> simp_all
      simp [hm, htype]
  rw [priorPending, hfilter, pendingRefunds]

section Kept

variable (h : w.PendingKept) (hold : ∀ {p m c}, w.Captured p m c → w'.Captured p m c)

include h hold

lemma items_kept : ∀ i ∈ w.settlementItems, ∃ c, w'.Captured i.capture i.merchant c := by
  intro i hi
  obtain ⟨c, hc⟩ := h.items i hi
  exact ⟨c, hold hc⟩

lemma refunds_kept : ∀ b ∈ w.balanceTransactions, ∀ p, refundOf p b = true → ∃ c, w'.Captured p b.merchant c := by
  intro b hb p hp
  obtain ⟨c, hc⟩ := h.refunds b hb p hp
  exact ⟨c, hold hc⟩

lemma refunds_append {b : BalanceTransaction} (hbalances : w'.balanceTransactions = w.balanceTransactions ++ [b])
    (hb : ∀ p, refundOf p b = true → ∃ c, w'.Captured p b.merchant c) :
    ∀ b' ∈ w'.balanceTransactions, ∀ p, refundOf p b' = true → ∃ c, w'.Captured p b'.merchant c := by
  intro b' hmem
  rw [hbalances, List.mem_append, List.mem_singleton] at hmem
  rcases hmem with hmem | rfl
  · exact h.refunds_kept hold b' hmem
  · exact hb

end Kept

lemma of_eq (h : w.PendingKept) (hpayments : w'.payments = w.payments) (hjournals : w'.journals = w.journals)
    (hbalances : w'.balanceTransactions = w.balanceTransactions)
    (hitems : w'.settlementItems = w.settlementItems) : w'.PendingKept := by
  cases w
  cases w'
  cases hpayments
  cases hjournals
  cases hbalances
  cases hitems
  exact ⟨h.settledOnce, h.items, h.refunds, h.remainder_nonneg, h.pending, h.receivable_nonneg⟩

lemma put (h : w.PendingKept) {a' : PaymentIntent}
    (hpayments : w'.payments = w.payments.put p a') (hjournals : w'.journals = w.journals)
    (hbalances : w'.balanceTransactions = w.balanceTransactions) (hitems : w'.settlementItems = w.settlementItems)
    (hsame : (w.payments.get p = none ∧ a'.succeededCapture = none) ∨
      ∃ a, w.payments.get p = some a ∧ a'.merchant = a.merchant ∧
        a'.succeededCapture = a.succeededCapture) : w'.PendingKept := by
  have hcaptured : ∀ p' m c, w'.Captured p' m c ↔ w.Captured p' m c := by
    intro p' m c
    rw [captured_iff, captured_iff, hpayments, Table.get_put]
    split
    · next heq =>
      subst heq
      rcases hsame with ⟨hnone, hcapture⟩ | ⟨a, ha, hmerchant, hcapture⟩
      · simp [hnone, hcapture]
      · simp [ha, hmerchant, hcapture]
    · rfl
  have hremainder : ∀ p' c, w'.remainder p' c = w.remainder p' c := by
    intro p' c
    rw [remainder, remainder, settledAmount, hitems, ← settledAmount, pendingRefunds, hbalances, ← pendingRefunds]
  have hshare : ∀ m, w'.pendingShare m = w.pendingShare m := by
    intro m
    funext p' a
    rw [pendingShare, pendingShare]
    congr 2
    funext c
    exact hremainder p' c
  refine ⟨hitems ▸ h.settledOnce, hitems ▸ h.items_kept (hcaptured ..).2, hbalances ▸ h.refunds_kept (hcaptured ..).2, ?_, ?_, ?_⟩
  · intro p' m c hc
    rw [hremainder]
    exact h.remainder_nonneg p' m c ((hcaptured ..).1 hc)
  · intro m
    rw [hshare, hpayments]
    have hpending := h.pending m
    rw [pendingBalance, creditNormal, ← hjournals, ← creditNormal, ← pendingBalance] at hpending
    rw [hpending]
    rcases hsame with ⟨hnone, hcapture⟩ | ⟨a, ha, hmerchant, hcapture⟩
    · rw [Table.total_put_new _ hnone]
      simp [pendingShare, hcapture]
    · refine (Table.total_put_same ha ?_).symm
      rw [pendingShare, pendingShare, hmerchant, hcapture]
  · intro m
    have hreceivable := h.receivable_nonneg m
    rwa [receivable, creditNormal, ← hjournals, ← creditNormal, ← receivable] at hreceivable

end PendingKept

section Append

variable {j : Journal} {b : BalanceTransaction} {i : SettlementItem}

lemma creditNormal_append (h : w'.journals = w.journals ++ [j]) (acct : Account) :
    w'.creditNormal acct = w.creditNormal acct + j.creditTo acct := by
  simp [creditNormal, h]

lemma pendingRefunds_append (h : w'.balanceTransactions = w.balanceTransactions ++ [b]) (p : PaymentId) :
    w'.pendingRefunds p = w.pendingRefunds p + if refundOf p b then -b.pendingDelta else 0 := by
  cases hb : refundOf p b <;> simp [pendingRefunds, h, hb]

lemma settledAmount_append (h : w'.settlementItems = w.settlementItems ++ [i]) (p : PaymentId) :
    w'.settledAmount p = w.settledAmount p + if i.capture = p then i.amount else 0 := by
  by_cases hi : i.capture = p <;> simp [settledAmount, h, hi]

end Append

namespace PendingKept

variable {a' : PaymentIntent} {j : Journal} {b : BalanceTransaction}

lemma capture (h : w.PendingKept) (ha : w.payments.get p = some a) (hnone : a.succeededCapture = none)
    (hpayments : w'.payments = w.payments.put p a') (hmerchant : a'.merchant = a.merchant)
    (hcapture : a'.succeededCapture = some c) (hnonneg : 0 ≤ c.netAmount) (hjournals : w'.journals = w.journals ++ [j])
    (hj : j.postings = captureEntries a.merchant c)
    (hbalances : w'.balanceTransactions = w.balanceTransactions ++ [b]) (hb : b.journal = .capture p)
    (hitems : w'.settlementItems = w.settlementItems) : w'.PendingKept := by
  have hfree : ∀ m c, ¬w.Captured p m c := by
    intro m c hc
    rw [captured_iff, ha] at hc
    simp [hnone] at hc
  have hb' : ∀ p', refundOf p' b = false := by simp [refundOf, hb]
  have hcaptured : ∀ p' m' c', w'.Captured p' m' c' ↔
      (p' = p ∧ m' = a.merchant ∧ c' = c) ∨ w.Captured p' m' c' := by
    intro p' m' c'
    rw [captured_iff, captured_iff, hpayments, Table.get_put]
    by_cases hp : p' = p
    · subst hp
      simp [ha, hmerchant, hcapture, hnone, eq_comm]
    · simp [hp]
  have hremainder : ∀ p' c', w'.remainder p' c' = w.remainder p' c' := by
    intro p' c'
    rw [remainder, remainder, pendingRefunds_append hbalances, hb', settledAmount, hitems, ← settledAmount]
    simp
  have hzero : w.remainder p c = c.netAmount := by
    rw [remainder, h.settledAmount_eq_zero hfree, h.pendingRefunds_eq_zero hfree]
    ring
  have hold {p' m' c'} (hc' : w.Captured p' m' c') : w'.Captured p' m' c' := (hcaptured ..).2 (.inr hc')
  refine ⟨hitems ▸ h.settledOnce, hitems ▸ h.items_kept hold, h.refunds_append hold hbalances (by simp [hb']),
    ?_, ?_, ?_⟩
  · intro p' m' c' hc'
    rw [hremainder]
    rcases (hcaptured ..).1 hc' with ⟨rfl, rfl, rfl⟩ | hold
    · omega
    · exact h.remainder_nonneg p' m' c' hold
  · intro m'
    have hbefore : w.pendingShare m' p a = 0 := by simp [pendingShare, hnone]
    have hafter : w'.pendingShare m' p a' = if a.merchant = m' then c.netAmount else 0 := by
      simp [pendingShare, hmerchant, hcapture, hremainder, hzero]
    have hothers : ∀ p' a'', p' ≠ p → w'.pendingShare m' p' a'' = w.pendingShare m' p' a'' := by
      intro p' a'' _
      rw [pendingShare, pendingShare, funext (hremainder p')]
    rw [pendingBalance, creditNormal_append hjournals, ← pendingBalance, h.pending m', hpayments,
      Table.total_put_single a' ha hothers, hbefore, hafter, Journal.creditTo_eq, hj]
    simp [captureEntries, Side.sign]
  · intro m'
    have hreceivable := h.receivable_nonneg m'
    rw [receivable, creditNormal_append hjournals, Journal.creditTo_eq, hj]
    rw [receivable] at hreceivable
    simpa [captureEntries] using hreceivable

section Taken

variable {taken : ℤ} (hremainder : ∀ p' c', w'.remainder p' c' = w.remainder p' c' - if p = p' then taken else 0)

include hremainder

lemma remainder_less (h : w.PendingKept) (hown : w.Captured p m c) (hle : taken ≤ w.remainder p c) {p' : PaymentId}
    {m' : MerchantId} {c' : Capture} (hc : w.Captured p' m' c') : 0 ≤ w'.remainder p' c' := by
  rw [hremainder]
  by_cases hp : p = p'
  · subst hp
    obtain ⟨-, rfl⟩ := hown.unique hc
    rw [if_pos rfl]
    omega
  · have hnonneg := h.remainder_nonneg p' m' c' hc
    rw [if_neg hp]
    omega

lemma pendingShare_other (m' : MerchantId) : ∀ p' a'', p' ≠ p →
    w'.pendingShare m' p' a'' = w.pendingShare m' p' a'' := by
  intro p' a'' hp
  have hsame : w'.remainder p' = w.remainder p' := by
    funext c'
    rw [hremainder, if_neg (Ne.symm hp), sub_zero]
  rw [pendingShare, pendingShare, hsame]

end Taken

lemma splits_pending_le (h : w.PendingKept) (hc : w.Captured p m c)
    (hs : s.Splits w p m c amount) : s.pending ≤ w.remainder p c := by
  obtain ⟨settled, hpending, hsettled⟩ := hs.pending
  have hown : ∀ i ∈ w.settlementItems, i.capture = p → i.merchant = m := by
    intro i hi hip
    obtain ⟨c', hc'⟩ := h.items i hi
    exact (hc.unique (hip ▸ hc')).1
  have hnonneg := h.remainder_nonneg p m c hc
  have hprior := h.priorPending_eq hc
  rw [hsettled hown, hprior] at hpending
  rw [hpending]
  rw [remainder] at hnonneg ⊢
  omega

lemma refund (h : w.PendingKept) (ha : w.payments.get p = some a) (hc : a.succeededCapture = some c)
    (hpayments : w'.payments = w.payments.put p a') (hmerchant : a'.merchant = a.merchant)
    (hcapture : a'.succeededCapture = some c) {r : RefundId}
    (hs : s.Splits w p a.merchant c amount) (hjournals : w'.journals = w.journals ++ [j])
    (hj : j.postings = refundEntries a.merchant amount s)
    (hbalances : w'.balanceTransactions = w.balanceTransactions ++ [b])
    (hb : b = ⟨a.merchant, .refund p r, .refund, -s.pending, -s.available, s.receivable, 0⟩)
    (hitems : w'.settlementItems = w.settlementItems) : w'.PendingKept := by
  have hown : w.Captured p a.merchant c := by
    rw [captured_iff, ha, Option.map_some, hc]
  have hcaptured : ∀ p' m' c', w'.Captured p' m' c' ↔ w.Captured p' m' c' := by
    intro p' m' c'
    rw [captured_iff, captured_iff, hpayments, Table.get_put]
    by_cases hp : p' = p
    · subst hp
      simp [ha, hmerchant, hcapture, hc]
    · simp [hp]
  have hb' : ∀ p', refundOf p' b = decide (p = p') := by simp [refundOf, hb]
  have hremainder : ∀ p' c', w'.remainder p' c' = w.remainder p' c' - if p = p' then s.pending else 0 := by
    intro p' c'
    rw [remainder, remainder, pendingRefunds_append hbalances, hb', settledAmount, hitems, ← settledAmount]
    by_cases hp : p = p' <;> simp [hp, hb]
    ring
  refine ⟨hitems ▸ h.settledOnce, hitems ▸ h.items_kept (hcaptured ..).2, h.refunds_append (hcaptured ..).2 hbalances ?_, ?_, ?_, ?_⟩
  · intro p' hp'
    have hp : p = p' := by simpa [hb'] using hp'
    subst hp
    exact ⟨c, (hcaptured ..).2 (by rw [hb]; exact hown)⟩
  · exact fun p' m' c' hc' => h.remainder_less hremainder hown (h.splits_pending_le hown hs) ((hcaptured ..).1 hc')
  · intro m'
    have hshare : w'.pendingShare m' p a' = w.pendingShare m' p a -
        if a.merchant = m' then s.pending else 0 := by
      by_cases hm : a.merchant = m' <;> simp [pendingShare, hmerchant, hcapture, hc, hremainder, hm]
    rw [pendingBalance, creditNormal_append hjournals, ← pendingBalance, h.pending m', hpayments,
      Table.total_put_single a' ha (pendingShare_other hremainder m'), hshare, Journal.creditTo_eq, hj]
    by_cases hm : a.merchant = m' <;> simp [refundEntries, Side.sign, hm]
    ring
  · intro m'
    have hreceivable := h.receivable_nonneg m'
    have havailable := hs.available_le
    have hrest := hs.receivable
    rw [receivable, creditNormal_append hjournals, Journal.creditTo_eq, hj]
    rw [receivable] at hreceivable
    by_cases hm : a.merchant = m' <;> simp [refundEntries, Side.sign, hm] <;> omega

lemma settle (h : w.PendingKept) (hc : w.Captured p m c) (hitem : w.hasItem p = false)
    {offset : ℤ} (hamount : amount = c.netAmount - w.pendingRefunds p)
    (hoffset : offset = min (max (w.receivable m) 0) amount) {i : SettlementItem}
    (hpayments : w'.payments = w.payments) (hjournals : w'.journals = w.journals ++ [j])
    (hj : j.postings = settlementEntries m amount offset)
    (hbalances : w'.balanceTransactions = w.balanceTransactions ++ [b])
    (hb : b.journal = .settlement p) (hitems : w'.settlementItems = w.settlementItems ++ [i])
    (hcapture : i.capture = p) (hmerchant : i.merchant = m) (hi : i.amount = amount) : w'.PendingKept := by
  have hfresh : ∀ i' ∈ w.settlementItems, i'.capture ≠ p := by
    simpa [hasItem] using hitem
  have hunsettled : w.settledAmount p = 0 := by
    have hfilter : w.settlementItems.filter (fun i => i.capture = p) = [] := by
      rw [List.filter_eq_nil_iff]
      intro i' hi'
      simpa using hfresh i' hi'
    rw [settledAmount, hfilter]
    rfl
  have hb' : ∀ p', refundOf p' b = false := by simp [refundOf, hb]
  have hcaptured : ∀ p' m' c', w'.Captured p' m' c' ↔ w.Captured p' m' c' := by
    intro p' m' c'
    rw [captured_iff, captured_iff, hpayments]
  have hremainder : ∀ p' c', w'.remainder p' c' = w.remainder p' c' - if p = p' then amount else 0 := by
    intro p' c'
    rw [remainder, remainder, pendingRefunds_append hbalances, hb', settledAmount_append hitems, hcapture, hi]
    by_cases hp : p = p' <;> simp [hp]
    ring
  have hleft : w.remainder p c = amount := by
    rw [remainder, hunsettled, hamount]
    ring
  obtain ⟨a, ha, hview⟩ := Option.map_eq_some_iff.1 (captured_iff.1 hc)
  rw [Prod.mk.injEq] at hview
  obtain ⟨hm, hac⟩ := hview
  refine ⟨?_, ?_, ?_, ?_, ?_, ?_⟩
  · rw [hitems, List.map_append, List.map_singleton, hcapture]
    refine (List.perm_append_singleton ..).nodup_iff.2 (List.nodup_cons.2 ⟨?_, h.settledOnce⟩)
    intro hmem
    obtain ⟨i', hi', heq⟩ := List.mem_map.1 hmem
    exact hfresh i' hi' heq
  · intro i' hmem
    rw [hitems, List.mem_append, List.mem_singleton] at hmem
    rcases hmem with hmem | rfl
    · exact h.items_kept (hcaptured ..).2 i' hmem
    · exact ⟨c, (hcaptured ..).2 (by rw [hcapture, hmerchant]; exact hc)⟩
  · exact h.refunds_append (hcaptured ..).2 hbalances (by simp [hb'])
  · exact fun p' m' c' hc' => h.remainder_less hremainder hc hleft.ge ((hcaptured ..).1 hc')
  · intro m'
    have hshare : w'.pendingShare m' p a = w.pendingShare m' p a - if m = m' then amount else 0 := by
      by_cases hm' : m = m' <;> simp [pendingShare, hm, hac, hremainder, hm']
    rw [pendingBalance, creditNormal_append hjournals, ← pendingBalance, h.pending m', hpayments,
      Table.total_single ha (pendingShare_other hremainder m'), hshare, Journal.creditTo_eq, hj]
    by_cases hm' : m = m' <;> simp [settlementEntries, Side.sign, hm']
    ring
  · intro m'
    have hreceivable := h.receivable_nonneg m'
    rw [receivable, creditNormal_append hjournals, Journal.creditTo_eq, hj]
    rw [receivable] at hreceivable hoffset
    by_cases hm' : m = m'
    · subst hm'
      simp [settlementEntries, Side.sign]
      omega
    · simpa [settlementEntries, hm'] using hreceivable

lemma payout (h : w.PendingKept) {q : PayoutId} (hpayments : w'.payments = w.payments)
    (hjournals : w'.journals = w.journals ++ [j]) (hj : j.postings = payoutEntries m amount)
    (hbalances : w'.balanceTransactions = w.balanceTransactions ++ [b]) (hb : b.journal = .payout q)
    (hitems : w'.settlementItems = w.settlementItems) : w'.PendingKept := by
  have hb' : ∀ p', refundOf p' b = false := by simp [refundOf, hb]
  have hcaptured : ∀ p' m' c', w'.Captured p' m' c' ↔ w.Captured p' m' c' := by
    intro p' m' c'
    rw [captured_iff, captured_iff, hpayments]
  have hremainder : w'.remainder = w.remainder := by
    funext p' c'
    rw [remainder, remainder, pendingRefunds_append hbalances, hb', settledAmount, hitems, ← settledAmount]
    simp
  have hcredit : ∀ acct : Account, acct.code = .pendingPayable ∨ acct.code = .merchantReceivable →
      w'.creditNormal acct = w.creditNormal acct := by
    rintro ⟨code, merchant⟩ hcode
    rw [creditNormal_append hjournals, Journal.creditTo_eq, hj]
    rcases hcode with rfl | rfl <;> simp [payoutEntries]
  refine ⟨hitems ▸ h.settledOnce, hitems ▸ h.items_kept (hcaptured ..).2, h.refunds_append (hcaptured ..).2 hbalances (by simp [hb']),
    ?_, ?_, ?_⟩
  · intro p' m' c' hc'
    rw [hremainder]
    exact h.remainder_nonneg p' m' c' ((hcaptured ..).1 hc')
  · intro m'
    have hshare : w'.pendingShare m' = w.pendingShare m' := by
      funext p' a
      rw [pendingShare, pendingShare, hremainder]
    rw [pendingBalance, hcredit _ (.inl rfl), ← pendingBalance, h.pending m', hpayments, hshare]
  · intro m'
    rw [receivable, hcredit _ (.inr rfl)]
    exact h.receivable_nonneg m'

end PendingKept

end World

namespace PaymentIntent

variable {a a' : PaymentIntent} {o : OperationId}

lemma succeededCapture_eq_none {x : Capture} (hx : a.capture = some x) (hs : x.status ≠ .succeeded) :
    a.succeededCapture = none := by
  simp [succeededCapture, hx, Option.filter, hs]

lemma succeededCapture_eq_some {x : Capture} (hx : a.capture = some x) (hs : x.status = .succeeded) :
    a.succeededCapture = some x := by
  simp [succeededCapture, hx, Option.filter, hs]

lemma Opens.same_capture {cfg : Service} (h : a.Opens cfg o a') :
    a'.merchant = a.merchant ∧ a'.succeededCapture = a.succeededCapture := by
  cases h with
  | capture _ hnone _ _ _ _ _ _ hs _ _ _ _ =>
    exact ⟨rfl, by simp [succeededCapture, hnone, Option.filter, hs]⟩
  | _ => exact ⟨rfl, rfl⟩

lemma setResourceStatus_same_capture {s : OperationStatus} (hs : a.resourceStatus o = some s)
    (hopen : s.terminal = false) : (a.setResourceStatus .requiresReview o).merchant = a.merchant ∧
      (a.setResourceStatus .requiresReview o).succeededCapture = a.succeededCapture := by
  cases o with
  | capture p =>
    obtain ⟨x, hx, rfl⟩ := Option.map_eq_some_iff.1 hs
    have hne := not_succeeded hopen
    exact ⟨rfl, by simp [setResourceStatus, succeededCapture, hx, Option.filter, hne]⟩
  | refund p r =>
    obtain ⟨x, hx, -⟩ := Option.map_eq_some_iff.1 hs
    simp only [setResourceStatus, hx, true_and]
    rfl
  | _ => exact ⟨rfl, rfl⟩

end PaymentIntent

section Steps

variable {cfg : Service} {l : Local} {held : List Key} {ms : List MerchantId} {w w' : World}

lemma Change.booksKept (h : Change cfg l held ms w w') (hw : w.BooksKept) : w'.BooksKept := by
  cases h with
  | finalized _ _ _ _ _ _ _ _ hres _ =>
    cases hres with
    | captured _ _ hj hposts => exact hw.post hposts (capture_repeats hj) rfl rfl
    | refunded _ _ _ _ _ _ hj hposts => exact hw.post hposts (refund_repeats hj) rfl rfl
    | _ => exact ⟨hw.balanced, hw.distinct, hw.repeats⟩
  | settled _ _ _ _ _ _ _ _ hj hposts => exact hw.post hposts (settlement_repeats hj) rfl rfl
  | payoutSucceeded _ _ _ _ _ _ _ _ _ _ _ hj hposts _ =>
    exact hw.post hposts (payout_repeats hj) rfl rfl
  | _ => exact ⟨hw.balanced, hw.distinct, hw.repeats⟩

lemma PaymentIntent.Resolves.pendingKept {actor : Actor} {v : Verdict} {o : OperationId} {a a' : PaymentIntent}
    {posted : List (Journal × BalanceTransaction)} (h : a.Resolves held ms w actor v o a' posted)
    (ha : w.payments.get o.payment = some a) (hsucc : a.resourceStatus o ≠ some .succeeded)
    (hsound : w.PaymentsSound) (hw : w.PendingKept) (hpayments : w'.payments = w.payments.put o.payment a')
    (hjournals : w'.journals = w.journals ++ posted.map Prod.fst)
    (hbalances : w'.balanceTransactions = w.balanceTransactions ++ posted.map Prod.snd)
    (hitems : w'.settlementItems = w.settlementItems) : w'.PendingKept := by
  have hnothing : posted = [] → a'.merchant = a.merchant → a'.succeededCapture = a.succeededCapture →
      w'.PendingKept := by
    rintro rfl hmerchant hcapture
    exact hw.put hpayments (hjournals.trans (List.append_nil _)) (hbalances.trans (List.append_nil _)) hitems
      (.inr ⟨a, ha, hmerchant, hcapture⟩)
  cases h with
  | @captured p x j hv hx hj _ _ _ hnet _ _ =>
    have hne : x.status ≠ .succeeded := by simpa [PaymentIntent.resourceStatus, hx] using hsucc
    refine hw.capture (c := v.capture (some (.capture p)) x) ha
      (PaymentIntent.succeededCapture_eq_none hx hne) hpayments rfl ?_ hnet hjournals (by rw [hj]; rfl) hbalances rfl
      hitems
    exact PaymentIntent.succeededCapture_eq_some rfl (by simp [Verdict.capture, Verdict.status, hv])
  | @captureDeclined p x hv hx _ =>
    have hne : x.status ≠ .succeeded := by simpa [PaymentIntent.resourceStatus, hx] using hsucc
    refine hnothing rfl rfl ?_
    rw [PaymentIntent.succeededCapture_eq_none hx hne]
    exact PaymentIntent.succeededCapture_eq_none rfl (by simp [Verdict.capture, Verdict.status, hv])
  | @refunded p r x c s j target b hv hx hc hs _ _ hj _ hb _ _ =>
    obtain ⟨c', hc', hcs⟩ := (hsound _ a ha).shaped.refund_captured hx
    rw [hc] at hc'
    cases hc'
    have hcapture := PaymentIntent.succeededCapture_eq_some hc hcs
    subst hb
    exact hw.refund ha hcapture hpayments rfl hcapture hs hjournals (by rw [hj]) hbalances rfl hitems
  | _ => exact hnothing rfl rfl rfl

lemma Change.pendingKept (h : Change cfg l held ms w w') (hmirrored : w.Mirrored)
    (hpayments : w.PaymentsSound) (hw : w.PendingKept) : w'.PendingKept := by
  cases h with
  | intent _ hnone _ _ =>
    exact hw.put rfl rfl rfl rfl (.inl ⟨hnone, rfl⟩)
  | opened _ _ ha _ hopens _ =>
    exact hw.put rfl rfl rfl rfl (.inr ⟨_, ha, hopens.same_capture⟩)
  | reviewed _ _ ha _ hop hopen =>
    have hsame := PaymentIntent.setResourceStatus_same_capture (hmirrored.open_status hop ha) hopen
    exact hw.put rfl rfl rfl rfl (.inr ⟨_, ha, hsame⟩)
  | @finalized o op a a' evidence c v amount actor posted _ _ ha _ hop hopen _ _ hres _ =>
    have hstatus := hmirrored.open_status hop ha
    have hsucc : a.resourceStatus o ≠ some .succeeded := by
      simpa [hstatus] using PaymentIntent.not_succeeded hopen
    rw [foldl_post]
    exact hres.pendingKept ha hsucc hpayments hw rfl rfl rfl rfl
  | expired _ ha _ _ => exact hw.put rfl rfl rfl rfl (.inr ⟨_, ha, rfl, rfl⟩)
  | @settled m run p c refunded amount offset j _ _ hc hitem hrefunded hamount _ hoffset hj _ =>
    have hown : ∀ b ∈ w.balanceTransactions, World.refundOf p b = true → b.merchant = m := by
      intro b hb hp
      obtain ⟨c', hc'⟩ := hw.refunds b hb _ hp
      exact (hc.unique hc').1
    rw [hrefunded hown] at hamount
    exact hw.settle hc hitem hamount hoffset rfl rfl (by rw [hj]) rfl rfl rfl rfl rfl rfl
  | payoutSucceeded _ _ _ _ _ _ _ _ _ _ _ hj _ _ =>
    exact hw.payout rfl rfl (by rw [hj]) rfl rfl rfl
  | _ => exact hw.of_eq rfl rfl rfl rfl

end Steps

lemma World.Initial.booksKept {w : World} (h : w.Initial) : w.BooksKept := by
  constructor <;> simp [h.journals, h.balanceTransactions]

lemma World.Initial.pendingKept {w : World} (h : w.Initial) : w.PendingKept := by
  constructor <;> simp [h.settlementItems, h.balanceTransactions, h.payments, h.journals,
    World.captured_iff, World.pendingBalance, World.receivable, World.creditNormal]

theorem ledger_kept {cfg : Service} {out : Outside} {w : World} {c : State} (hw : w.Initial)
    (h : Reach (relaypay cfg out) (.idle w) c) :
    (∀ j ∈ c.shared.journals, sideTotal .debit j.postings = sideTotal .credit j.postings) ∧
    (∀ b ∈ c.shared.balanceTransactions, (∃ j ∈ c.shared.journals, b.Repeats j) ∧
      ∀ j ∈ c.shared.journals, j.id = b.journal → b.Repeats j) ∧
    (c.shared.settlementItems.map SettlementItem.capture).Nodup ∧
    (∀ m, c.shared.pendingBalance m = c.shared.payments.total (c.shared.pendingShare m)) ∧
    (∀ p m x, c.shared.Captured p m x → 0 ≤ c.shared.remainder p x) ∧
    ∀ m, 0 ≤ c.shared.accountBalance ⟨.merchantReceivable, some m⟩ := by
  have hinv : (c.shared.Mirrored ∧ c.shared.PaymentsSound) ∧ c.shared.BooksKept ∧
      c.shared.PendingKept := by
    have h0 := And.intro (reach_paymentsSound hw (.refl : Reach (relaypay cfg out) (.idle w) _))
      (And.intro hw.booksKept hw.pendingKept)
    refine reach_preserves (I := fun w => (w.Mirrored ∧ w.PaymentsSound) ∧ w.BooksKept ∧
      w.PendingKept) ?_ hw.mirrored h0 h
    rintro l held ms w w' hchange ⟨⟨hmirrored, hpayments⟩, hbooks, hpending⟩
    exact ⟨⟨hchange.mirrored hmirrored, hchange.paymentsSound hmirrored hpayments⟩,
      hchange.booksKept hbooks, hchange.pendingKept hmirrored hpayments hpending⟩
  obtain ⟨-, hbooks, hpending⟩ := hinv
  refine ⟨hbooks.balanced, fun b hb => ?_, hpending.settledOnce, hpending.pending,
    hpending.remainder_nonneg, hpending.receivable_nonneg⟩
  obtain ⟨j, hj, hrepeats⟩ := hbooks.repeats b hb
  refine ⟨⟨j, hj, hrepeats⟩, fun j' hj' hid => ?_⟩
  have heq : j' = j := List.inj_on_of_nodup_map hbooks.distinct hj' hj (hid.trans hrepeats.journal.symm)
  rw [heq]
  exact hrepeats

theorem ledger_kept_shop : (shopAfter shopSale).1.journals.length = 3 ∧ (∀ j ∈ (shopAfter shopSale).1.journals,
      sideTotal .debit j.postings = sideTotal .credit j.postings) ∧ (shopAfter shopSale).1.pendingBalance 1 =
      (shopAfter shopSale).1.payments.total ((shopAfter shopSale).1.pendingShare 1) := by
  obtain ⟨hbalanced, -, -, hpending, -, -⟩ := ledger_kept shopWorld_initial (shop_reach shopSale_plays)
  exact ⟨by decide +kernel, hbalanced, hpending 1⟩

end RelayPay
