import RelayPay.Specs.Ledger

namespace RelayPay

open ReadCommitted Txn

variable {cfg : Service} {l : Local} {x : Run}

lemma mem_addAccount {w : World} {a b : Account} : b ∈ (w.addAccount a).accounts ↔ b ∈ w.accounts ∨ b = a := by
  rw [World.addAccount_accounts]
  split
  · next ha =>
    constructor
    · exact .inl
    · rintro (hb | rfl)
      · exact hb
      · exact ha
  · simp

variable {m : MerchantId}

lemma merchant_of_default {w : World} (h : w.defaultMerchant = some m) : (w.merchants.get m).isSome := by
  obtain ⟨e, he, rfl⟩ := Option.map_eq_some_iff.1 h
  rw [Table.mem_rows.1 (List.mem_of_find?_eq_some he)]
  rfl

lemma wp_createMerchantAccount (fresh : MerchantId) (isDefault : Bool) {Q : Unit → Run → Prop}
    (h : ∀ y, Follows cfg l x y → (y.state.merchants.get fresh).isSome → Q () y) :
    (createMerchantAccount fresh isDefault).Wp locks (fun _ => True) Q x := by
  have hbody : ∀ y, Follows cfg l x y →
      (do
        acquire (.merchant fresh)
        let taken ← query fun w =>
          (w.merchants.get fresh).isSome || (isDefault && w.defaultMerchant.isSome)
        ensure (taken = false) .integrity
        modify fun w => w.putMerchant fresh ⟨isDefault, true, 0⟩
        forEach (fun code => modify fun w => w.addAccount ⟨code, some fresh⟩) merchantTemplates : Tx Unit).Wp
          locks (fun _ => True) Q y := by
    intro y hy
    simp only [wp_bind, wp_acquire, wp_query, wp_ensure, wp_modify]
    refine fun v _ => ⟨fun _ => ⟨respects_putMerchant _ _, ?_⟩, fun _ => trivial⟩
    -- the codes already passed have their accounts
    refine (wp_forEach (fun rest z => ∃ accounts, y.state.accounts ⊆ accounts ∧
      (∀ code ∈ merchantTemplates, code ∈ rest ∨ (⟨code, some fresh⟩ : Account) ∈ accounts) ∧
      z = (y.hold (.merchant fresh)).apply fun w =>
        { w.putMerchant fresh ⟨isDefault, true, 0⟩ with accounts := accounts }) ?_ merchantTemplates _
      ⟨y.state.accounts, fun _ ha => ha, fun _ hcode => .inl hcode, rfl⟩).imp ?_
    · rintro code rest z ⟨accounts, hsub, hcodes, rfl⟩
      rw [wp_modify]
      refine ⟨respects_addAccount _, _, ?_, fun code' hcode' => ?_, rfl⟩
      · exact fun a ha => mem_addAccount.2 (.inl (hsub ha))
      · rcases hcodes code' hcode' with hmem | hmem
        · rcases List.mem_cons.1 hmem with rfl | hrest
          · exact .inr (mem_addAccount.2 (.inr rfl))
          · exact .inl hrest
        · exact .inr (mem_addAccount.2 (.inl hmem))
    · rintro _ z ⟨accounts, hsub, hcodes, rfl⟩
      refine h _ ((hy.trans (.hold y _)).step (.merchant (List.mem_cons_self ..) hsub (.inr ?_))) ?_
      · exact fun code hcode => (hcodes code hcode).resolve_left List.not_mem_nil
      · simp
  rw [createMerchantAccount]
  cases isDefault
  · exact hbody x (.refl x)
  · exact hbody _ (.hold x _)

lemma wp_defaultMerchantAccountId (fresh : MerchantId) {Q : MerchantId → Run → Prop}
    (h : ∀ m y, Follows cfg l x y → (y.state.merchants.get m).isSome → Q m y) :
    (defaultMerchantAccountId fresh).Wp locks (fun _ => True) Q x := by
  simp only [defaultMerchantAccountId, wp_bind, wp_query]
  intro v hv
  cases hdefault : v.defaultMerchant with
  | some m =>
    have hevolves : Evolves v x.state := hv.1
    exact h m x (.refl x) (hevolves.merchants m (merchant_of_default hdefault))
  | none =>
    simp only [wp_bind, wp_done]
    exact wp_createMerchantAccount fresh true fun y hy hm => h fresh y hy hm

lemma wp_scopedMerchant (m : MerchantId) (lock : Bool) {Q : Merchant → Run → Prop}
    (h : ∀ M, Q M (if lock then x.hold (.merchant m) else x)) :
    (scopedMerchant m lock).Wp locks (fun _ => True) Q x := by
  have hread : ∀ y : Run, (∀ M, Q M y) → (do
      let row ← query fun w => w.merchants.get m
      require (row.filter Merchant.active) (.relayPay (notFound "Merchant account")) : Tx Merchant).Wp
        locks (fun _ => True) Q y := by
    intro y hy
    simp only [wp_bind, wp_query, wp_require]
    exact fun v _ => ⟨fun M _ => hy M, fun _ => trivial⟩
  rw [scopedMerchant]
  cases lock
  · exact hread x h
  · exact hread _ h

lemma wp_skipLocked {β : Type} (key : β → Key) (still : World → β → Bool) (E : Error → Prop)
    (bs : List β) {Q : List β → Run → Prop}
    (h : ∀ taken y, taken ⊆ bs → y.state = x.state → y.queue = x.queue → x.held ⊆ y.held →
      (∀ b ∈ taken, key b ∈ y.held) → (∀ b ∈ taken, ∃ v, Frame (key b) v x.state ∧ still v b = true) →
      Q taken y) : (skipLocked key still bs).Wp locks E Q x := by
  induction bs generalizing x Q with
  | nil =>
    exact h [] x (fun _ hb => hb) rfl rfl (fun _ hk => hk) (fun b hb => by cases hb)
      (fun b hb => by cases hb)
  | cons b bs ih =>
    simp only [skipLocked, wp_bind, wp_attempt, wp_query]
    refine ⟨fun v hv => ih fun taken y hsub hstate hqueue hheld hkeys hstill => ?_,
      fun v _ => ih fun taken y hsub hstate hqueue hheld hkeys hstill => ?_⟩
    · have hheld' : x.held ⊆ y.held := fun k hk => hheld (List.mem_cons_of_mem _ hk)
      rw [wp_done]
      split
      · next htaken =>
        refine h _ y (List.cons_subset_cons b hsub) hstate hqueue hheld' (fun b' hb' => ?_)
          fun b' hb' => ?_
        · rcases List.mem_cons.1 hb' with rfl | hmem
          · exact hheld (List.mem_cons_self ..)
          · exact hkeys b' hmem
        · rcases List.mem_cons.1 hb' with rfl | hmem
          · exact ⟨v, hv.2 _ (List.mem_cons_self ..), by simpa using htaken⟩
          · exact hstill b' hmem
      · exact h _ y (fun _ hb => List.mem_cons_of_mem _ (hsub hb)) hstate hqueue hheld' hkeys hstill
    · rw [wp_done]
      exact h _ y (fun _ hb => List.mem_cons_of_mem _ (hsub hb)) hstate hqueue hheld hkeys hstill

variable {e : PaymentId × Capture}

lemma captured_of_unsettled {w : World} (h : e ∈ w.unsettledCaptures m) : w.Captured e.1 m e.2 := by
  rw [World.unsettledCaptures, List.mem_insertionSort] at h
  obtain ⟨⟨p, a⟩, hrow, he⟩ := List.mem_filterMap.1 h
  rw [Table.mem_rows] at hrow
  simp only [Capture.unsettledIn] at he
  split at he
  · next c hc =>
    split at he
    · next hcond =>
      cases he
      exact ⟨a, hrow, hcond.2.1, hc, hcond.1⟩
    · cases he
  · cases he

lemma pendingRefunds_eq {w : World} {p : PaymentId}
    (h : ∀ b ∈ w.balanceTransactions, World.refundOf p b = true → b.merchant = m) :
    w.pendingRefunds p = w.priorPending m p := by
  have hfilter : w.balanceTransactions.filter (World.refundOf p) =
      w.balanceTransactions.filter fun b => b.merchant = m && World.refundOf p b := by
    refine List.filter_congr fun b hb => ?_
    by_cases hp : World.refundOf p b = true
    · simp [hp, h b hb hp]
    · simp [hp]
  rw [← priorPending_eq, World.pendingRefunds, hfilter]

structure Settling (m : MerchantId) (refunded : PaymentId → ℤ) (st : SettlementState)
    (rest : List (PaymentId × Capture)) (y : Run) : Prop where
  merchant : .merchant m ∈ y.held
  receivable : st.receivableBalance = max (y.state.receivable m) 0
  refunded : ∀ p, (∀ b ∈ y.state.balanceTransactions, World.refundOf p b = true → b.merchant = m) →
    refunded p = y.state.pendingRefunds p
  captured : ∀ e ∈ rest, y.state.Captured e.1 m e.2

lemma receivable_settled (m : MerchantId) (w : World) (id : JournalId) (amount offset : ℤ) :
    (w.addJournal ⟨id, m, none, settlementEntries m amount offset⟩).receivable m =
      w.receivable m - offset := by
  simp [World.receivable, Journal.creditTo_eq, settlementEntries, Side.sign]
  omega

lemma Settling.next {refunded : PaymentId → ℤ} {st : SettlementState}
    {rest : List (PaymentId × Capture)} {y z : Run} {run : KeyDigest}
    {amount offset : ℤ} {items : List Json} (h : Settling m refunded st (e :: rest) y)
    (hpos : 0 < amount) (hoff : offset = min st.receivableBalance amount) (hheld : y.held ⊆ z.held)
    (hstate : z.state = (((y.state.addJournal ⟨.settlement e.1, m, none,
      settlementEntries m amount offset⟩).addSettlementItem
        ⟨m, run, e.1, .settlement e.1, amount⟩).addBalanceTransaction
          ⟨m, .settlement e.1, .settlement, -amount, amount - offset, -offset, 0⟩)) :
    Settling m refunded ⟨st.settledAmount + amount, st.receivableBalance - offset, items⟩ rest z := by
  have hrec : z.state.receivable m = y.state.receivable m - offset := by
    rw [hstate]
    exact receivable_settled m y.state (.settlement e.1) amount offset
  refine ⟨hheld h.merchant, ?_, fun p hcond => ?_, fun e' he' => ?_⟩
  · have hbefore := h.receivable
    change st.receivableBalance - offset = max (z.state.receivable m) 0
    rw [hrec]
    omega
  · have hsame : z.state.pendingRefunds p = y.state.pendingRefunds p := by
      simp [hstate, World.pendingRefunds, World.refundOf]
    rw [hsame]
    refine h.refunded p fun b hb hp => hcond b ?_ hp
    simp [hstate, hb]
  · rw [hstate]
    exact h.captured e' (List.mem_cons_of_mem _ he')

lemma wp_settleCapture {run : KeyDigest} {refunded : PaymentId → ℤ}
    {st : SettlementState} {rest : List (PaymentId × Capture)} {y : Run} (hy : Follows cfg l x y)
    (hpayments : y.state.payments = x.state.payments) (h : Settling m refunded st (e :: rest) y) :
    (settleCapture m run refunded st e).Wp locks (fun _ => True)
      (fun st' z => (Follows cfg l x z ∧ z.state.payments = x.state.payments) ∧ Settling m refunded st' rest z) y := by
  by_cases hzero : e.2.netAmount - refunded e.1 ≤ 0
  · rw [settleCapture, if_pos hzero]
    exact ⟨⟨hy, hpayments⟩, h.merchant, h.receivable, h.refunded, fun e' he' =>
      h.captured e' (List.mem_cons_of_mem _ he')⟩
  · rw [settleCapture, if_neg hzero, wp_bind]
    have hpos : 0 < e.2.netAmount - refunded e.1 := not_le.1 hzero
    refine wp_postJournal (fun _ _ => trivial) ⟨.settlement e.1, m, none, settlementEntries m
      (e.2.netAmount - refunded e.1)
      (min st.receivableBalance (e.2.netAmount - refunded e.1))⟩ fun hposts => ?_
    simp only [wp_bind, wp_acquire, wp_query, wp_ensure, wp_modify]
    refine fun v hv => ⟨fun hitem => ⟨respects_addSettlementItem _, ?_⟩, fun _ => trivial⟩
    refine wp_addBalanceTransaction (fun _ _ => trivial) _ fun _ => ?_
    have hframe : Frame (.itemKey e.1) v _ := hv.2 _ (List.mem_cons_self ..)
    have hfree : y.state.hasItem e.1 = false := Eq.trans (Eq.symm hframe) hitem
    rw [wp_done]
    refine ⟨⟨?_, hpayments⟩, ?_⟩
    · refine hy.trans (.single ?_ (List.subset_append_left _ _) ?_)
      · exact fun k hk => List.mem_cons_of_mem _ (List.mem_cons_of_mem _ hk)
      · refine .settled (List.mem_cons_of_mem _ (List.mem_cons_of_mem _ h.merchant))
          (List.mem_cons_self ..) (h.captured e (List.mem_cons_self ..)) hfree (h.refunded e.1) rfl hpos
          (by rw [h.receivable]) rfl (hposts.mono (List.subset_cons_self _ _))
    · exact h.next hpos rfl
        (fun k hk => List.mem_cons_of_mem _ (List.mem_cons_of_mem _ hk)) rfl

lemma wp_runSettlementTransaction (m : MerchantId) (run : KeyDigest) (fingerprint : Digest) :
    (runSettlementTransaction m run fingerprint).Wp locks (fun _ => True)
      (fun _ y => Follows cfg l x y ∧ y.state.payments = x.state.payments) x := by
  simp only [runSettlementTransaction, wp_bind, wp_query]
  intro v _
  cases v.settlementRuns.get run with
  | some r =>
    simp only [wp_bind, wp_ensure, wp_require, wp_done]
    exact ⟨fun _ => ⟨fun _ _ => ⟨.refl x, trivial⟩, fun _ => trivial⟩, fun _ => trivial⟩
  | none =>
    rw [wp_bind]
    refine wp_scopedMerchant m true fun M => ?_
    simp only [wp_bind, wp_acquire, wp_query, wp_ensure, wp_modify]
    refine fun v₁ _ => ⟨fun _ _ _ => ⟨respects_putSettlementRun _ _, fun v₂ hv₂ => ?_⟩, fun _ => trivial⟩
    refine wp_skipLocked _ _ _ _ fun taken y hsub hstate hqueue hheld _ _ => ?_
    intro v₃ hv₃
    refine wp_account (fun _ _ => trivial) _ _ (wp_account (fun _ _ => trivial) _ _
      (wp_account (fun _ _ => trivial) _ _ (wp_deriveBalances (fun _ _ => trivial) _ fun b _ hrec => ?_)))
    have hm : .merchant m ∈ y.held := hheld (List.mem_cons_of_mem _ (List.mem_cons_self ..))
    have hfollows : Follows cfg l x y := by
      have hlocked : Follows cfg l x ((x.hold (.merchant m)).hold (.settlementKey run)) :=
        (Follows.hold x (.merchant m)).trans (.hold _ (.settlementKey run))
      refine (hlocked.step .settlementRun).trans ⟨hheld, ?_, ?_⟩
      · rw [hqueue]
        exact fun _ hd => hd
      · rw [hstate]
        exact .refl
    have hsettling : Settling m v₃.pendingRefunds ⟨0, max b.receivable 0, []⟩ taken y := by
      refine ⟨hm, by rw [hrec hm], fun p hcond => ?_, fun e he => ?_⟩
      · have hframe : Frame (.merchant m) v₃ y.state := hv₃.2 _ hm
        have hevolves : Evolves v₃ y.state := hv₃.1
        rw [pendingRefunds_eq hcond, pendingRefunds_eq fun b hb =>
          hcond b (hevolves.balanceTransactions hb), World.priorPending, World.priorPending, hframe.2.2.1]
      · have hevolves : Evolves v₂ _ := hv₂.1
        rw [hstate]
        exact hevolves.captured _ _ _ (captured_of_unsettled (hsub he))
    refine (wp_foldOver (fun st rest z => (Follows cfg l x z ∧ z.state.payments = x.state.payments) ∧
      Settling m v₃.pendingRefunds st rest z) (fun st e rest z hz => wp_settleCapture hz.1.1 hz.1.2 hz.2) taken _ y
        ⟨⟨hfollows, by rw [hstate]; rfl⟩, hsettling⟩).imp ?_
    rintro st z ⟨⟨hz, hpayments⟩, -⟩
    exact fun _ _ => ⟨respects_putSettlementRun _ _, hz.step .settlementRun, hpayments⟩

end RelayPay
