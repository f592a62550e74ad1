import RelayPay.Specs.Operations

namespace RelayPay

open ReadCommitted Txn

variable {cfg : Service} {l : Local} {x y : Run}

lemma reservation_mem_checked (m : MerchantId) (queue : List Deferred) : m ∈ checked (queue ++ [.reservation m]) :=
  List.mem_filterMap.2 ⟨.reservation m, by simp, rfl⟩

lemma respects_payoutRow {held : List Key} {q : PayoutId} (hq : Key.payout q ∈ held) (P : Payout)
    (a : AttemptId) (t : Time) : locks.Respects held fun w => (w.putPayout q P).stampAttempt a t :=
  (respects_stampAttempt a t).comp (respects_putPayout hq P)

lemma wp_advanceBalanceVersion (m : MerchantId) (readVersion : ℕ) (hy : Follows cfg l x y) :
    (advanceBalanceVersion m readVersion).Wp locks (fun _ => True) (fun _ z => Follows cfg l x z) y := by
  simp only [advanceBalanceVersion, wp_bind, wp_ensure, wp_acquire, wp_query]
  refine ⟨fun _ v hv => ?_, fun _ => trivial⟩
  split
  · next M hM =>
    simp only [wp_bind, wp_ensure, wp_modify]
    refine ⟨fun _ => ⟨respects_putMerchant _ _, ?_⟩, fun _ => trivial⟩
    have hevolves : Evolves v y.state := hv.1
    exact (hy.trans (.hold y _)).step (.merchant (List.mem_cons_self ..) (fun _ ha => ha)
      (.inl (hevolves.merchants m (by simp [hM]))))
  · trivial

lemma wp_createPayoutTransaction (c : CreatePayout) : (createPayoutTransaction c).Wp locks
    (fun _ => True) (fun _ y => Follows cfg l x y) x := by
  simp only [createPayoutTransaction, wp_bind, wp_query]
  intro v _
  split
  · simp only [wp_bind, wp_ensure]
    refine ⟨fun _ => ?_, fun _ => trivial⟩
    split
    · exact .refl x
    · trivial
  · simp only [wp_bind, wp_query, wp_require]
    refine fun v₁ _ => ⟨fun _ _ => ?_, fun _ => trivial⟩
    refine wp_scopedMerchant _ _ fun M => ?_
    refine wp_deriveBalances (fun _ _ => trivial) _ fun b _ _ => ?_
    rw [wp_ensure]
    refine ⟨fun hamount => ?_, fun _ => trivial⟩
    -- the merchant row is locked or not, by the guard
    have hy : Follows cfg l x (if decide (c.guard = .rowLock) = true then x.hold (.merchant c.merchant)
        else x) := by
      split
      · exact .hold x _
      · exact .refl x
    revert hy
    generalize (if decide (c.guard = .rowLock) = true then x.hold (.merchant c.merchant) else x) = y
    intro hy
    simp only [wp_acquire, wp_ensure, wp_modify, wp_enqueueAll, wp_ite, wp_bind, wp_done]
    refine ⟨fun _ v₂ hv₂ => ?_, fun _ => trivial⟩
    have hq : Key.payout c.id ∈ ((y.hold (.payout c.id)).hold (.payoutKey c.keyDigest)).held := by simp
    refine ⟨fun htaken v₃ _ => ⟨respects_payoutRow hq _ _ _, ?_⟩, fun _ => trivial⟩
    have hfree : y.state.payouts.get c.id = none := by
      have hrow := view_payout hq hv₂
      simp only [Bool.or_eq_false_iff, Option.isSome_eq_false_iff, Option.isNone_iff_eq_none] at htaken
      exact hrow.symm.trans htaken.1
    have hlocked : Follows cfg l x ((y.hold (.payout c.id)).hold (.payoutKey c.keyDigest)) :=
      (hy.trans (.hold y _)).trans (.hold _ _)
    have hrow : Follows cfg l x ⟨(y.state.putPayout c.id c.row).stampAttempt (c.id, 1) v₃.now,
        .payoutKey c.keyDigest :: .payout c.id :: y.held, y.queue ++ [.reservation c.merchant]⟩ :=
      hlocked.trans (.single (fun _ hk => hk) (List.subset_append_left _ _)
        (.payoutCreated hq (reservation_mem_checked c.merchant y.queue) hfree (by omega)))
    exact ⟨fun _ => wp_advanceBalanceVersion _ _ hrow, fun _ => hrow⟩

lemma wp_createRetry (c : CreateRetry) : (createRetry c).Wp locks (fun _ => True)
    (fun _ y => Follows cfg (.retryPayout c) x y) x := by
  simp only [createRetry, wp_bind, wp_query]
  intro v _
  split
  · simp only [wp_bind, wp_ensure, wp_require, wp_done]
    exact ⟨fun _ => ⟨fun _ _ => .refl x, fun _ => trivial⟩, fun _ => trivial⟩
  · simp only [wp_bind, wp_acquire, wp_query, wp_require, wp_ensure]
    intro v₁ hv₁
    rw [view_payout (List.mem_cons_self ..) hv₁]
    refine ⟨fun P hP => ⟨fun hfailed v₂ _ => ⟨fun _ _ => ?_, fun _ => trivial⟩, fun _ => trivial⟩, fun _ => trivial⟩
    refine wp_deriveBalances (fun _ _ => trivial) _ fun b _ _ => ⟨fun _ v₃ _ => ?_, fun _ => trivial⟩
    refine ⟨fun _ _ => ⟨fun hterminal v₄ _ => ⟨fun _ v₅ _ => ?_, fun _ => trivial⟩, fun _ => trivial⟩, fun _ => trivial⟩
    simp only [wp_modify, wp_enqueueAll, wp_done]
    have hq : Key.payout c.payout ∈ (((x.hold (.payout c.payout)).hold (.merchant P.merchant)).hold
      (.retryKey c.keyDigest)).held := by simp
    refine ⟨respects_payoutRow hq _ _ _, ?_⟩
    have hlocked : Follows cfg (.retryPayout c) x (((x.hold (.payout c.payout)).hold (.merchant P.merchant)).hold
        (.retryKey c.keyDigest)) :=
      .of_locks rfl rfl fun _ hk => by simp [hk]
    exact hlocked.trans (.single (fun _ hk => hk) (List.subset_append_left _ _)
      (.payoutRetried rfl hq (reservation_mem_checked P.merchant x.queue) hP hfailed hterminal))

def World.PayoutSend (w w' : World) (q : PayoutId) (n : ℕ) (request : Bytes) : Prop :=
  ∃ P a t, w.payouts.get q = some P ∧ P.latestAttempt = some a ∧ a.attemptNumber = n ∧
    a.status.terminal = false ∧ a.lastSentAt = none ∧ a.evidence = [] ∧
    w' = (w.putPayout q (P.updateAttempt n fun a => a.markSent request t)).stampAttempt (q, n) t

lemma wp_prepareAttemptSend (rest : List PayoutId) (q : PayoutId) {Q : PreparedAttempt → Run → Prop}
    (h : ∀ prepared y, Follows cfg (.payoutPrepare rest q) x y → prepared.payout = q →
      (prepared.lookupOnly = false → x.state.PayoutSend y.state q prepared.number
        prepared.requestBytes) → Q prepared y) : (prepareAttemptSend cfg q).Wp locks (fun _ => True) Q x := by
  simp only [prepareAttemptSend, wp_bind, wp_acquire, wp_query, wp_require]
  intro v hv
  rw [view_payout (List.mem_cons_self ..) hv]
  refine ⟨fun P hP => ⟨fun a ha => ?_, fun _ => trivial⟩, fun _ => trivial⟩
  have hlocked : Follows cfg (.payoutPrepare rest q) x
      ((x.hold (.payout q)).hold (.attempt (q, a.attemptNumber))) :=
    (Follows.hold x _).trans (.hold _ _)
  have hq : Key.payout q ∈ ((x.hold (.payout q)).hold (.attempt (q, a.attemptNumber))).held := by simp
  rw [wp_ite]
  refine ⟨fun _ => h _ _ hlocked rfl (by simp), fun hopen => ?_⟩
  cases hsent : a.lastSentAt with
  | some t =>
    simp only [wp_bind, wp_require, wp_done]
    exact ⟨fun _ _ => h _ _ hlocked rfl (by simp), fun _ => trivial⟩
  | none =>
    simp only [wp_bind, wp_query, wp_require, wp_ensure, wp_modify, wp_done]
    refine fun v₁ _ => ⟨fun b _ v₂ hv₂ => ⟨fun hev => ⟨respects_payoutRow hq _ _ _, ?_⟩,
      fun _ => trivial⟩, fun _ => trivial⟩
    have hevolves : Evolves v₂ x.state := hv₂.1
    have hopen' : a.status.terminal = false := by simpa using hopen
    have hev' : a.evidence = [] := List.isEmpty_iff.1 hev
    exact h _ _ (hlocked.step (.payoutSent rfl hq hP ha hopen' hsent hev' hevolves.now)) rfl
      fun _ => ⟨P, a, _, hP, ha, rfl, hopen', hsent, hev', rfl⟩

lemma wp_recordBankObservation {rest : List PayoutId} {prepared : PreparedAttempt}
    {obs : Option Observation} {cl : BankClassification} (hl : l = .payoutRecord rest prepared obs cl) :
    (recordBankObservation prepared obs cl cfg.notFoundGraceSeconds).Wp locks (fun _ => True)
      (fun _ y => Follows cfg l x y) x := by
  simp only [recordBankObservation, wp_bind, wp_acquire, wp_query, wp_require]
  intro v hv
  rw [view_payout (List.mem_cons_self ..) hv]
  refine ⟨fun P hP => ⟨fun a ha => ?_, fun _ => trivial⟩, fun _ => trivial⟩
  have hlocked : Follows cfg l x ((x.hold (.payout prepared.payout)).hold
      (.attempt (prepared.payout, prepared.number))) :=
    (Follows.hold x _).trans (.hold _ _)
  have hq : Key.payout prepared.payout ∈ ((x.hold (.payout prepared.payout)).hold
    (.attempt (prepared.payout, prepared.number))).held := by simp
  rw [wp_ite]
  refine ⟨fun _ => hlocked, fun hopen => ?_⟩
  have hopen' : a.status.terminal = false := by simpa using hopen
  simp only [wp_bind, wp_query, wp_require]
  refine fun v₁ hv₁ => ⟨fun sha hsha v₂ _ => ⟨fun b _ => ?_, fun _ => trivial⟩, fun _ => trivial⟩
  have hevolves : Evolves v₁ x.state := hv₁.1
  rw [wp_ite]
  refine ⟨fun hamb => ?_, fun hamb => ?_⟩
  · rw [wp_modify]
    exact ⟨respects_payoutRow hq _ _ _, hlocked.step
      (.payoutAmbiguous hl hq hP ha hopen' hsha hevolves.now rfl hamb)⟩
  rw [wp_ite]
  refine ⟨fun hfailed => ?_, fun hsucceeded => ?_⟩
  · simp only [wp_bind, wp_modify, wp_enqueueAll]
    refine ⟨respects_payoutRow hq _ _ _, hlocked.trans (.single (fun _ hk => hk)
      (List.subset_append_left _ _) (.payoutFailed hl hq (reservation_mem_checked P.merchant x.queue) hP
        ha hopen' hsha hevolves.now rfl (by simpa using hamb) (by simpa using hfailed)))⟩
  · simp only [wp_bind]
    refine wp_account (fun _ _ => trivial) _ _ (wp_account (fun _ _ => trivial) _ _ ?_)
    refine wp_postJournal (fun _ _ => trivial) ⟨.payout prepared.payout, P.merchant, none,
      payoutEntries P.merchant P.amount⟩ fun hposts => ?_
    refine wp_addBalanceTransaction (fun _ _ => trivial) _ fun _ => ?_
    simp only [wp_ensure, wp_modify, wp_enqueueAll]
    refine ⟨fun hevents => ⟨respects_payoutRow (List.mem_cons_of_mem _ hq) _ _ _, ?_⟩, fun _ => trivial⟩
    refine hlocked.trans (.single (List.subset_cons_self _ _) ?_ (.payoutSucceeded hl
      (List.mem_cons_of_mem _ hq) (reservation_mem_checked P.merchant _) hP ha hopen' hsha hevolves.now
      rfl (by simpa using hamb) (by simpa using hsucceeded) rfl hposts (List.isEmpty_iff.1 hevents)))
    exact fun _ hd => List.mem_append_left _ (List.mem_append_left _ hd)

lemma wp_claimStaleSentAttempts (limit : ℕ) : (claimStaleSentAttempts limit).Wp locks
    (fun _ => True) (fun _ y => Follows cfg l x y) x := by
  simp only [claimStaleSentAttempts, wp_bind, wp_query]
  intro v₁ _ v₂ _
  refine wp_skipLocked _ _ _ _ fun taken y _ hstate hqueue hheld _ _ => ?_
  refine (wp_forEach (fun _ z => Follows cfg l x z) ?_ taken y (.of_locks hstate hqueue hheld)).imp
    fun _ z hz => hz
  intro e rest z hz
  rw [wp_modify]
  exact ⟨respects_stampAttempt _ _, hz.step .stamped⟩

end RelayPay
