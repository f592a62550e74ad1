import RelayPay.Invariants.Captures
import RelayPay.Payouts.Strategies

namespace RelayPay.Running

open ReadCommitted Txn Locking

section Item

variable (m : MerchantId) (run : KeyDigest) (refunded : PaymentId → ℤ)

def settleRecomputing (st : SettlementState) (e : PaymentId × Capture) : Tx SettlementState := do
  let balances ← deriveBalances m
  settleCapture m run refunded { st with receivableBalance := max balances.receivable 0 } e

def settleAll (step : SettlementState → PaymentId × Capture → Tx SettlementState)
    (captures : List (PaymentId × Capture)) : Tx SettlementState := do
  let balances ← deriveBalances m
  foldOver step ⟨0, max balances.receivable 0, []⟩ captures

def amountOf (e : PaymentId × Capture) : ℤ := e.2.netAmount - refunded e.1

def journalOf (p : PaymentId) (amount offset : ℤ) : Journal :=
  ⟨.settlement p, m, none, settlementEntries m amount offset⟩

def posted (w : World) (p : PaymentId) (amount offset : ℤ) : World :=
  ((w.addJournal (journalOf m p amount offset)).addSettlementItem ⟨m, run, p, .settlement p, amount⟩).addBalanceTransaction
    ⟨m, .settlement p, .settlement, -amount, amount - offset, -offset, 0⟩

def counted (st : SettlementState) (p : PaymentId) (amount : ℤ) : SettlementState :=
  ⟨st.settledAmount + amount, st.receivableBalance - min st.receivableBalance amount,
    st.items ++ [.obj [("captureId", .str (OperationId.capture p).resourcePublicId), ("amount", .int amount)]]⟩

variable {m run refunded}

lemma settlementEntries_totals (amount offset : ℤ) : sideTotal .debit (settlementEntries m amount offset) = amount ∧
    sideTotal .credit (settlementEntries m amount offset) = amount := by
  simp only [settlementEntries, sideTotal_append, sideTotal_entry, sideTotal_singleton, reduceCtorEq, if_true, if_false]
  omega

lemma settlementEntries_pos {amount offset : ℤ} (hamount : 0 < amount) (hoffset : 0 ≤ offset) (hle : offset ≤ amount) :
    ∀ e ∈ settlementEntries m amount offset, 0 < e.amount := by
  intro e he
  simp only [settlementEntries, List.mem_append, List.mem_singleton] at he
  rcases he with (rfl | he) | he
  · exact hamount
  · exact entry_pos hoffset he
  · exact entry_pos (by omega) he

lemma creditTo_journalOf (p : PaymentId) (amount offset : ℤ) :
    (journalOf m p amount offset).creditTo ⟨.merchantReceivable, some m⟩ = offset := by
  simp [journalOf, Journal.creditTo_eq, settlementEntries, Side.sign]

variable {st : SettlementState} {e : PaymentId × Capture} {w : World} {q : List Deferred}

lemma perform_postJournal {id : JournalId} {operation : Option OperationId} {entries : List Posting}
    (hdebit : 0 < sideTotal .debit entries) (hbalanced : sideTotal .debit entries = sideTotal .credit entries)
    (hpos : ∀ x ∈ entries, 0 < x.amount) : (postJournal id m operation entries).perform w q =
      if w.hasJournal id = true then .error .integrity
      else .ok ((), w.addJournal ⟨id, m, operation, entries⟩, q ++ entries.map fun x => .posting x.account x.side) := by
  have hsides : ¬(sideTotal .debit entries ≤ 0 ∨ sideTotal .debit entries ≠ sideTotal .credit entries) := by
    rintro (h | h)
    · omega
    · exact h hbalanced
  simp only [postJournal, perform_ensure_bind, perform_acquire_bind, perform_query_bind, perform_modify_bind,
    perform_enqueueAll, if_pos hsides, if_pos hpos]
  change (if w.hasJournal id = false then _ else _) = _
  cases w.hasJournal id with
  | true => rfl
  | false => rfl

lemma perform_addBalanceTransaction {b : BalanceTransaction} (h : b.pendingDelta ≠ 0) :
    (addBalanceTransaction b).perform w q = .ok ((), w.addBalanceTransaction b, q) := by
  rw [addBalanceTransaction, perform_ensure_bind, if_pos (.inl h)]
  rfl

lemma perform_settleCapture (hreceivable : 0 ≤ st.receivableBalance) : (settleCapture m run refunded st e).perform w q =
      if amountOf refunded e ≤ 0 then .ok (st, w, q)
      else if w.hasJournal (.settlement e.1) = true ∨ w.hasItem e.1 = true then .error .integrity
      else .ok (counted st e.1 (amountOf refunded e),
        posted m run w e.1 (amountOf refunded e) (min st.receivableBalance (amountOf refunded e)),
        q ++ (settlementEntries m (amountOf refunded e) (min st.receivableBalance (amountOf refunded e))).map
          fun x => .posting x.account x.side) := by
  by_cases hzero : amountOf refunded e ≤ 0
  · rw [if_pos hzero, settleCapture, if_pos (show e.2.netAmount - refunded e.1 ≤ 0 from hzero)]
    rfl
  · rw [if_neg hzero, settleCapture, if_neg (show ¬e.2.netAmount - refunded e.1 ≤ 0 from hzero)]
    set amount := amountOf refunded e with hamount
    set offset := min st.receivableBalance amount with hoffset
    obtain ⟨hdebit, hcredit⟩ := settlementEntries_totals (m := m) amount offset
    have hpost : (postJournal (.settlement e.1) m none (settlementEntries m amount offset)).perform w q = _ :=
      perform_postJournal (by omega) (hdebit.trans hcredit.symm)
        (settlementEntries_pos (by omega) (by omega) (by omega))
    change (postJournal (.settlement e.1) m none (settlementEntries m amount offset) >>= _).perform w q = _
    by_cases hjournal : w.hasJournal (.settlement e.1) = true
    · rw [if_pos hjournal] at hpost
      rw [perform_bind_error _ hpost, if_pos (.inl hjournal)]
    · rw [if_neg hjournal] at hpost
      rw [perform_bind_ok _ hpost]
      simp only [perform_acquire_bind, perform_query_bind, perform_ensure_bind, perform_modify_bind]
      change (if w.hasItem e.1 = false then _ else _) = _
      by_cases hitem : w.hasItem e.1 = true
      · rw [if_neg (by simp [hitem]), if_pos (.inr hitem)]
      · rw [if_pos (by simpa using hitem), if_neg (by simp [hjournal, hitem])]
        have hdelta : -(e.2.netAmount - refunded e.1) ≠ 0 := by
          change -amount ≠ 0
          omega
        exact perform_bind_ok _ (perform_addBalanceTransaction hdelta)

lemma receivable_posted (p : PaymentId) (amount offset : ℤ) :
    (posted m run w p amount offset).receivable m = w.receivable m - offset :=
  receivable_settled m w (.settlement p) amount offset

lemma perform_settleRecomputing (hfault : balanceFault w m = none)
    (hreceivable : st.receivableBalance = max (w.receivable m) 0) :
    (settleRecomputing m run refunded st e).perform w q = (settleCapture m run refunded st e).perform w q := by
  have hbalances : (deriveBalances m).perform w q = .ok (balances w m, w, q) := by
    rw [perform_deriveBalances, hfault]
    rfl
  rw [settleRecomputing, perform_bind_ok _ hbalances]
  have hsame : ({ st with receivableBalance := max (balances w m).receivable 0 } : SettlementState) = st := by
    change ({ st with receivableBalance := max (w.receivable m) 0 } : SettlementState) = st
    rw [← hreceivable]
  rw [hsame]

end Item

section Loop

variable {m : MerchantId} {run : KeyDigest} {refunded : PaymentId → ℤ}

lemma foldOver_recomputing (captures : List (PaymentId × Capture)) : ∀ (st : SettlementState) (w : World)
    (q : List Deferred), balanceFault w m = none → st.receivableBalance = max (w.receivable m) 0 →
    (foldOver (settleCapture m run refunded) st captures).perform w q =
      (foldOver (settleRecomputing m run refunded) st captures).perform w q := by
  induction captures with
  | nil =>
    intro st w q _ _
    rfl
  | cons e captures ih =>
    intro st w q hfault hreceivable
    have hnonneg : 0 ≤ st.receivableBalance := by omega
    rw [foldOver, foldOver, perform_bind, perform_bind, perform_settleRecomputing hfault hreceivable,
      perform_settleCapture hnonneg]
    by_cases hzero : amountOf refunded e ≤ 0
    · rw [if_pos hzero]
      exact ih st w q hfault hreceivable
    · rw [if_neg hzero]
      by_cases htaken : w.hasJournal (.settlement e.1) = true ∨ w.hasItem e.1 = true
      · rw [if_pos htaken]
        rfl
      · rw [if_neg htaken]
        refine ih _ _ _ hfault ?_
        rw [receivable_posted, counted]
        change st.receivableBalance - min st.receivableBalance (amountOf refunded e) = _
        omega

structure Unsettled (w : World) (captures : List (PaymentId × Capture)) : Prop where
  distinct : (captures.map Prod.fst).Nodup
  journals : ∀ e ∈ captures, w.hasJournal (.settlement e.1) = false
  items : ∀ e ∈ captures, w.hasItem e.1 = false

lemma Unsettled.posted {w : World} {e : PaymentId × Capture} {captures : List (PaymentId × Capture)}
    (h : Unsettled w (e :: captures)) (amount offset : ℤ) : Unsettled (posted m run w e.1 amount offset) captures := by
  have hne : ∀ e' ∈ captures, e'.1 ≠ e.1 := by
    intro e' he' hsame
    have hnodup := (List.nodup_cons.1 h.distinct).1
    exact hnodup (hsame ▸ List.mem_map_of_mem he')
  refine ⟨(List.nodup_cons.1 h.distinct).2, ?_, ?_⟩
  · intro e' he'
    have hbefore := h.journals e' (List.mem_cons_of_mem _ he')
    simp [World.hasJournal, Running.posted, journalOf, (hne e' he').symm] at hbefore ⊢
    exact hbefore
  · intro e' he'
    have hbefore := h.items e' (List.mem_cons_of_mem _ he')
    simp [World.hasItem, Running.posted, (hne e' he').symm] at hbefore ⊢
    exact hbefore

def Balanced (j : Journal) : Prop :=
  0 < sideTotal .debit j.postings ∧ sideTotal .debit j.postings = sideTotal .credit j.postings

def total (refunded : PaymentId → ℤ) (captures : List (PaymentId × Capture)) : ℤ :=
  (captures.map fun e => max (amountOf refunded e) 0).sum

def offsets (m : MerchantId) (journals : List Journal) : ℤ :=
  (journals.map fun j => j.creditTo ⟨.merchantReceivable, some m⟩).sum

lemma total_nonneg (captures : List (PaymentId × Capture)) : 0 ≤ total refunded captures := by
  apply List.sum_nonneg
  intro x hx
  obtain ⟨e, _, rfl⟩ := List.mem_map.1 hx
  exact le_max_right _ _

lemma total_perm {captures captures' : List (PaymentId × Capture)} (h : captures.Perm captures') :
    total refunded captures = total refunded captures' := (h.map _).sum_eq

lemma foldOver_totals (captures : List (PaymentId × Capture)) : ∀ (st : SettlementState) (w : World)
    (q : List Deferred), 0 ≤ st.receivableBalance → Unsettled w captures →
    ∃ st' w' q' journals, (foldOver (settleCapture m run refunded) st captures).perform w q = .ok (st', w', q') ∧
      w'.journals = w.journals ++ journals ∧ (∀ j ∈ journals, Balanced j) ∧
      st'.settledAmount = st.settledAmount + total refunded captures ∧
      offsets m journals = min st.receivableBalance (total refunded captures) := by
  induction captures with
  | nil =>
    intro st w q hnonneg _
    refine ⟨st, w, q, [], rfl, (List.append_nil _).symm, ?_, (add_zero _).symm, ?_⟩
    · rintro j ⟨⟩
    · exact (min_eq_right hnonneg).symm
  | cons e captures ih =>
    intro st w q hnonneg hunsettled
    have hsum : total refunded (e :: captures) = max (amountOf refunded e) 0 + total refunded captures := by
      rw [total, List.map_cons, List.sum_cons]
      rfl
    have hrest : 0 ≤ total refunded captures := total_nonneg captures
    rw [foldOver, perform_bind, perform_settleCapture hnonneg]
    by_cases hzero : amountOf refunded e ≤ 0
    · -- an item without an amount is passed over
      rw [if_pos hzero]
      obtain ⟨st', w', q', journals, hrun, hjournals, hbalanced, hsettled, hoffsets⟩ := ih st w q hnonneg
        ⟨(List.nodup_cons.1 hunsettled.distinct).2, fun e' he' => hunsettled.journals e' (List.mem_cons_of_mem _ he'),
          fun e' he' => hunsettled.items e' (List.mem_cons_of_mem _ he')⟩
      refine ⟨st', w', q', journals, hrun, hjournals, hbalanced, ?_, ?_⟩
      · omega
      · rw [hoffsets]
        omega
    · have hfree : ¬(w.hasJournal (.settlement e.1) = true ∨ w.hasItem e.1 = true) := by
        simp [hunsettled.journals e List.mem_cons_self, hunsettled.items e List.mem_cons_self]
      rw [if_neg hzero, if_neg hfree]
      set amount := amountOf refunded e
      set offset := min st.receivableBalance amount with hoffset
      have hnext : (counted st e.1 amount).receivableBalance = st.receivableBalance - offset := rfl
      obtain ⟨st', w', q', journals, hrun, hjournals, hbalanced, hsettled, hoffsets⟩ :=
        ih (counted st e.1 amount) (posted m run w e.1 amount offset) _ (by omega) (hunsettled.posted amount offset)
      refine ⟨st', w', q', journalOf m e.1 amount offset :: journals, hrun, ?_, ?_, ?_, ?_⟩
      · rw [hjournals]
        change (w.journals ++ [_]) ++ journals = _
        rw [List.append_assoc]
        rfl
      · intro j hj
        rcases List.mem_cons.1 hj with rfl | hj
        · obtain ⟨hdebit, hcredit⟩ := settlementEntries_totals (m := m) amount offset
          exact ⟨by rw [journalOf, hdebit]; omega, hdebit.trans hcredit.symm⟩
        · exact hbalanced j hj
      · have hcounted : (counted st e.1 amount).settledAmount = st.settledAmount + amount := rfl
        omega
      · have hcons : offsets m (journalOf m e.1 amount offset :: journals) = offset + offsets m journals := by
          rw [offsets, List.map_cons, List.sum_cons, creditTo_journalOf]
          rfl
        rw [hcons, hoffsets, hnext]
        omega

end Loop

namespace Sample

def world : World :=
  { shopWorld with
    merchants := Table.empty.put 1 ⟨true, true, 0⟩
    accounts := [⟨.pendingPayable, some 1⟩, ⟨.availablePayable, some 1⟩, ⟨.merchantReceivable, some 1⟩]
    journals := [⟨.refund 1 1, 1, none,
      [⟨⟨.merchantReceivable, some 1⟩, .debit, 500⟩, ⟨⟨.providerClearing, none⟩, .credit, 500⟩]⟩] }

def captureOf (amount : ℤ) : Capture := ⟨amount, 0, 0, none, .succeeded, none, some 0, none⟩

def captures : List (PaymentId × Capture) := [(2, captureOf 300), (3, captureOf 400), (4, captureOf 700)]

def refunded (p : PaymentId) : ℤ := if p = 3 then 400 else 0

end Sample

end RelayPay.Running
