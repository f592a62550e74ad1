import RelayPay.Invariants.Ledger

/-! Where the money is: what the accounts hold follows from the captures and refunds that succeeded. -/

namespace RelayPay

open ReadCommitted

namespace PaymentIntent

variable {a a' : PaymentIntent} {o : OperationId} {k : RefundId}

lemma refunded_put (x : Refund) (h : (a.refunds.get k).map Refund.status ≠ some .succeeded) :
    { a with refunds := a.refunds.put k x }.refunded = a.refunded + if x.status = .succeeded then x.amount else 0 := by
  rw [refunded, Table.total_put]
  cases hget : a.refunds.get k with
  | none => simp [refunded]
  | some y =>
    have hy : y.status ≠ .succeeded := by simpa [hget] using h
    simp [refunded, hy]

lemma Opens.refunded {cfg : Service} (h : a.Opens cfg o a') : a'.refunded = a.refunded := by
  cases h with
  | refund _ _ hnone => exact (refunded_put _ (by simp [hnone])).trans (by simp)
  | _ => rfl

lemma setResourceStatus_refunded (hopen : a.resourceStatus o ≠ some .succeeded) :
    (a.setResourceStatus .requiresReview o).refunded = a.refunded := by
  cases o with
  | refund p k =>
    unfold setResourceStatus
    dsimp only
    split
    · exact (refunded_put _ hopen).trans (by simp)
    · rfl
  | _ => rfl

end PaymentIntent

/-- A sum over accounts that settlements and payouts leave as it is, and what each unit of a refund takes away. -/
structure Reading where
  value : List Posting → ℤ
  refunded : MerchantId → ℤ
  refund : ∀ m amount (s : RefundSources), s.receivable = amount - s.pending - s.available →
    value (refundEntries m amount s) = -(refunded m * amount)
  settlement : ∀ m amount offset, value (settlementEntries m amount offset) = 0
  payout : ∀ m amount, value (payoutEntries m amount) = 0

namespace Reading

variable (r : Reading)

def ofPayment (a : PaymentIntent) : ℤ :=
  a.succeededCapture.elim 0 (fun x => r.value (captureEntries a.merchant x)) - r.refunded a.merchant * a.refunded

def Holds (w : World) : Prop :=
  (w.journals.map fun j => r.value j.postings).sum = w.payments.total fun _ => r.ofPayment

variable {r} {w w' : World} {p : PaymentId} {a a' : PaymentIntent}

lemma ofPayment_congr (hcapture : a'.merchant = a.merchant ∧ a'.succeededCapture = a.succeededCapture)
    (hrefunded : a'.refunded = a.refunded) : r.ofPayment a' = r.ofPayment a := by
  rw [ofPayment, hcapture.1, hcapture.2, hrefunded, ofPayment]

lemma Holds.put {s : List Journal} (h : r.Holds w) (hpayments : w'.payments = w.payments.put p a')
    (hjournals : w'.journals = w.journals ++ s) (hvalue : (s.map fun j => r.value j.postings).sum =
      r.ofPayment a' - (w.payments.get p).elim 0 r.ofPayment) : r.Holds w' := by
  rw [Holds, hjournals, hpayments, Table.total_put, List.map_append, List.sum_append, h, hvalue]
  ring

lemma Holds.put_same (h : r.Holds w) (ha : w.payments.get p = some a) (hpayments : w'.payments = w.payments.put p a')
    (hjournals : w'.journals = w.journals) (hsame : r.ofPayment a' = r.ofPayment a) : r.Holds w' :=
  h.put (s := []) hpayments (by simp [hjournals]) (by simp [ha, hsame])

lemma Holds.post (h : r.Holds w) {j : Journal} (hpayments : w'.payments = w.payments)
    (hjournals : w'.journals = w.journals ++ [j]) (hj : r.value j.postings = 0) : r.Holds w' := by
  rw [Holds, hjournals, hpayments, List.map_append, List.sum_append, h]
  simp [hj]

end Reading

section Steps

variable {cfg : Service} {l : Local} {held : List Key} {ms : List MerchantId} {w w' : World} {r : Reading}

lemma PaymentIntent.Resolves.reading {actor : Actor} {v : Verdict} {o : OperationId} {a a' : PaymentIntent}
    {posted : List (Journal × BalanceTransaction)} (h : a.Resolves held ms w actor v o a' posted)
    (hopen : a.resourceStatus o ≠ some .succeeded) :
    ((posted.map Prod.fst).map fun j => r.value j.postings).sum = r.ofPayment a' - r.ofPayment a := by
  cases h with
  | @captured p x j hv hx hj =>
    have hbefore := succeededCapture_eq_none hx (by simpa [resourceStatus, hx] using hopen)
    have hafter : r.ofPayment (moved { a with capture := some (v.capture (some (.capture p)) x) } .captured
        .captureSucceeded actor) = r.value (captureEntries a.merchant x) - r.refunded a.merchant * a.refunded := by
      rw [Reading.ofPayment, succeededCapture_eq_some rfl (by simp [Verdict.capture, Verdict.status, hv])]
      rfl
    have hnow : r.ofPayment a = -(r.refunded a.merchant * a.refunded) := by simp [Reading.ofPayment, hbefore]
    simp [hafter, hnow, hj]
  | @captureDeclined p x hv hx =>
    have hbefore := succeededCapture_eq_none hx (by simpa [resourceStatus, hx] using hopen)
    have hafter : r.ofPayment (moved { a with capture := some (v.capture x.journal x) } .failed .captureDeclined
        actor) = r.ofPayment a := by
      refine Reading.ofPayment_congr ⟨rfl, ?_⟩ rfl
      rw [hbefore]
      exact succeededCapture_eq_none rfl (by simp [Verdict.capture, Verdict.status, hv])
    simp [hafter]
  | @refunded p k x c s j target b hv hx hc hs _ _ hj _ hb =>
    have hmore : b.refunded = a.refunded + x.amount := by
      rw [hb, refunded_put _ hopen]
      simp [Verdict.refund, Verdict.status, hv]
    have hafter : r.ofPayment (b.moved target .refundSucceeded actor) =
        r.ofPayment a - r.refunded a.merchant * x.amount := by
      change b.succeededCapture.elim 0 _ - r.refunded b.merchant * b.refunded = _
      rw [hmore, hb, Reading.ofPayment, mul_add, ← sub_sub]
      rfl
    simp [hafter, hj, r.refund _ _ _ hs.receivable]
  | @refundDeclined p k x hv hx =>
    have hsame : r.ofPayment { a with refunds := a.refunds.put k (v.refund x.journal x) } = r.ofPayment a := by
      refine Reading.ofPayment_congr ⟨rfl, rfl⟩ ((refunded_put _ hopen).trans ?_)
      simp [Verdict.refund, Verdict.status, hv]
    simp [hsame]
  | _ => exact (sub_self _).symm

lemma Change.reading (h : Change cfg l held ms w w') (hmirrored : w.Mirrored) (hw : r.Holds w) : r.Holds w' := by
  cases h with
  | intent _ hnone =>
    refine hw.put (s := []) rfl (by simp) ?_
    simp [hnone, Reading.ofPayment, PaymentIntent.create, PaymentIntent.succeededCapture, PaymentIntent.refunded]
  | opened _ _ ha _ hopens =>
    exact hw.put_same ha rfl rfl (Reading.ofPayment_congr hopens.same_capture hopens.refunded)
  | reviewed _ _ ha _ hop hopen =>
    have hstatus := hmirrored.open_status hop ha
    refine hw.put_same ha rfl rfl (Reading.ofPayment_congr
      (PaymentIntent.setResourceStatus_same_capture hstatus hopen) (PaymentIntent.setResourceStatus_refunded ?_))
    rw [hstatus]
    exact ne_succeeded_of_open hopen
  | finalized _ _ ha _ hop hopen _ _ hres =>
    have hvalue := hres.reading (r := r) (hmirrored.open_status hop ha ▸ ne_succeeded_of_open hopen)
    rw [foldl_post]
    refine hw.put rfl rfl ?_
    rwa [ha]
  | expired _ ha => exact hw.put_same ha rfl rfl rfl
  | settled _ _ _ _ _ _ _ _ hj => exact hw.post rfl rfl (by simp [hj, r.settlement])
  | payoutSucceeded _ _ _ _ _ _ _ _ _ _ _ hj => exact hw.post rfl rfl (by simp [hj, r.payout])
  | _ => exact hw

lemma reach_reading {out : Outside} {c : State} (r : Reading) {f : PaymentIntent → ℤ} (hf : ∀ a, r.ofPayment a = f a)
    (hw : w.Initial) (h : Reach (relaypay cfg out) (.idle w) c) :
    (c.shared.journals.map fun j => r.value j.postings).sum = c.shared.payments.total fun _ a => f a := by
  obtain rfl : r.ofPayment = f := funext hf
  refine (reach_preserves (I := fun w => w.Mirrored ∧ r.Holds w) ?_ hw.mirrored ⟨hw.mirrored, ?_⟩ h).2
  · exact fun hchange hI => ⟨hchange.mirrored hI.1, hchange.reading hI.1 hI.2⟩
  · simp [Reading.Holds, hw.journals, hw.payments]

end Steps

namespace Reading

def clearing : Reading where
  value entries := -credit entries ⟨.providerClearing, none⟩
  refunded _ := 1
  refund m amount s _ := by simp [refundEntries, Side.sign]
  settlement m amount offset := by simp [settlementEntries]
  payout m amount := by simp [payoutEntries]

def charges : Reading where
  value entries := credit entries ⟨.platformFeeRevenue, none⟩ + credit entries ⟨.gstPayable, none⟩
  refunded _ := 0
  refund m amount s _ := by simp [refundEntries]
  settlement m amount offset := by simp [settlementEntries]
  payout m amount := by simp [payoutEntries]

def merchant (m : MerchantId) : Reading where
  value entries := credit entries ⟨.pendingPayable, some m⟩ + credit entries ⟨.availablePayable, some m⟩ +
    credit entries ⟨.merchantReceivable, some m⟩ + credit entries ⟨.payoutClearing, some m⟩
  refunded m' := if m' = m then 1 else 0
  refund m' amount s h := by
    simp only [refundEntries, credit_append, credit_cons, credit_nil, credit_entry, Account.mk.injEq, Side.sign, h]
    split <;> simp_all
    ring
  settlement m' amount offset := by
    simp [settlementEntries, Side.sign]
    split <;> ring
  payout m' amount := by
    simp [payoutEntries, Side.sign]
    split <;> ring

end Reading

/-- The provider holds what was captured and not refunded. What a merchant has pending, available or paid out, less what
it owes, is what its captures left after the charges and was not refunded. -/
theorem money_accounted {cfg : Service} {out : Outside} {w : World} {c : State} (hw : w.Initial)
    (h : Reach (relaypay cfg out) (.idle w) c) :
    (c.shared.accountBalance ⟨.providerClearing, none⟩ =
      c.shared.payments.total fun _ a => a.succeededCapture.elim 0 Capture.amount - a.refunded) ∧
    (c.shared.accountBalance ⟨.platformFeeRevenue, none⟩ + c.shared.accountBalance ⟨.gstPayable, none⟩ =
      c.shared.payments.total fun _ a => a.succeededCapture.elim 0 fun x => x.feeAmount + x.gstAmount) ∧
    ∀ m, c.shared.accountBalance ⟨.pendingPayable, some m⟩ + c.shared.accountBalance ⟨.availablePayable, some m⟩ -
        c.shared.accountBalance ⟨.merchantReceivable, some m⟩ - c.shared.accountBalance ⟨.payoutClearing, some m⟩ =
      c.shared.payments.total fun _ a =>
        if a.merchant = m then a.succeededCapture.elim 0 Capture.netAmount - a.refunded else 0 := by
  refine ⟨?_, ?_, fun m => ?_⟩
  · refine Eq.trans ?_ (reach_reading .clearing (fun a => by simp [Reading.ofPayment, Reading.clearing, captureEntries, Side.sign]) hw h)
    refine (List.sum_neg _).trans ?_
    rw [List.map_map]
    rfl
  · refine Eq.trans ?_ (reach_reading .charges (fun a => by simp [Reading.ofPayment, Reading.charges, captureEntries, Side.sign]) hw h)
    exact List.sum_map_add.symm
  · refine Eq.trans ?_ (reach_reading (.merchant m) (fun a => ?_) hw h)
    · simp [Reading.merchant, List.sum_map_add, World.accountBalance, AccountCode.type, World.creditNormal,
        Journal.creditTo_eq]
    · by_cases hm : a.merchant = m <;> cases hx : a.succeededCapture <;>
        simp [Reading.ofPayment, Reading.merchant, hm, hx, captureEntries, Side.sign]

theorem money_accounted_shop : (shopAfter shopRun).1.accountBalance ⟨.providerClearing, none⟩ = 9000 := by
  obtain ⟨hclearing, -, -⟩ := money_accounted shopWorld_initial (shop_reach shopRun_plays)
  exact hclearing.trans (by decide +kernel)

end RelayPay
