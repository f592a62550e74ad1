import RelayPay.Mirror

namespace RelayPay

open ReadCommitted Txn

abbrev Run := Running World Key Deferred

def Deferred.merchant : Deferred → Option MerchantId
  | .reservation m => some m
  | .posting a side => if side = .debit ∧ a.code = .availablePayable then a.merchant else none

def checked (queue : List Deferred) : List MerchantId := queue.filterMap Deferred.merchant

def Error.illegalTransition : Error → Bool
  | .relayPay e => e.code = "ILLEGAL_PAYMENT_TRANSITION"
  | _ => false

section Reads

variable {held : List Key} {v w : World}

lemma view_payment {p : PaymentId} (h : .payment p ∈ held) (hv : locks.view held v w) :
    v.payments.get p = w.payments.get p := hv.2 _ h

lemma view_operation {o : OperationId} (h : .operation o ∈ held)
    (hv : locks.view held v w) : v.operations.get o = w.operations.get o := hv.2 _ h

lemma view_payout {q : PayoutId} (h : .payout q ∈ held) (hv : locks.view held v w) :
    v.payouts.get q = w.payouts.get q := hv.2 _ h

lemma view_record {d : KeyDigest} (h : .recordKey d ∈ held) (hv : locks.view held v w) :
    (v.records.get d).isSome = (w.records.get d).isSome := hv.2 _ h

lemma view_record_none {d : KeyDigest} (h : .recordKey d ∈ held)
    (hv : locks.view held v w) (hnone : (v.records.get d).isNone = true) : w.records.get d = none := by
  have hsome := view_record h hv
  rw [Option.isNone_iff_eq_none.1 hnone] at hsome
  exact Option.not_isSome_iff_eq_none.1 (by simp [← hsome])

end Reads

def coverageCheck (m : MerchantId) : Txn World Key Empty Error Unit := do
  acquire (.coverage m)
  let available ← query fun w => w.available m
  ensure (fitsBigint available = true) .database
  let reserved ← query fun w => w.reserved m
  ensure (fitsBigint reserved = true) .database
  ensure (reserved ≤ available) .integrity

lemma validatePayoutCoverage_eq (d : Deferred) :
    validatePayoutCoverage d = d.merchant.elim (done ()) coverageCheck := by
  cases d with
  | reservation m => rfl
  | posting account side =>
    simp only [validatePayoutCoverage, Deferred.merchant]
    split
    · next h =>
      rw [h]
      rfl
    · next m h =>
      rw [h]
      rfl

lemma wp_validatePayoutCoverage {E : Error → Prop} (hE : E .integrity ∧ E .database) (d : Deferred) (v : World)
    (held : List Key) : (validatePayoutCoverage d).Wp locks E (fun _ z => z.state = v ∧ held ⊆ z.held ∧
      ∀ m ∈ d.merchant, .coverage m ∈ z.held ∧ v.reserved m ≤ v.available m) ⟨v, held, []⟩ := by
  rw [validatePayoutCoverage_eq]
  cases d.merchant with
  | none => simp
  | some m =>
    simp only [Option.elim, coverageCheck, wp_bind, wp_acquire, wp_query, wp_ensure]
    intro v₁ hv₁
    refine ⟨fun _ v₂ hv₂ => ⟨fun _ => ⟨fun hle => ?_, fun _ => hE.1⟩, fun _ => hE.2⟩, fun _ => hE.2⟩
    have hcov₁ : Frame (.coverage m) v₁ v := hv₁.2 _ (List.mem_cons_self ..)
    have hcov₂ : Frame (.coverage m) v₂ v := hv₂.2 _ (List.mem_cons_self ..)
    refine ⟨rfl, List.subset_cons_self _ _, ?_⟩
    rintro m' ⟨⟩
    refine ⟨List.mem_cons_self .., ?_⟩
    rw [← hcov₂.1]
    exact hle.trans hcov₁.2

lemma wp_coverage {E : Error → Prop} (hE : E .integrity ∧ E .database) (queue : List Deferred) (v : World)
    (held : List Key) : (forEach validatePayoutCoverage queue).Wp locks E (fun _ z => z.state = v ∧
      held ⊆ z.held ∧ ∀ m ∈ checked queue, .coverage m ∈ z.held ∧ v.reserved m ≤ v.available m)
      ⟨v, held, []⟩ := by
  induction queue generalizing held with
  | nil => simp [forEach, checked]
  | cons d rest ih =>
    rw [forEach, wp_bind]
    refine (wp_validatePayoutCoverage hE d v held).imp ?_
    rintro _ ⟨state, held', queue'⟩ ⟨rfl, hsub, hd⟩
    cases queue' with
    | cons e _ => exact e.elim
    | nil =>
      refine (ih held').imp ?_
      rintro _ z ⟨hstate, hsub', hrest⟩
      refine ⟨hstate, fun k hk => hsub' (hsub hk), fun m hm => ?_⟩
      rcases List.mem_filterMap.1 hm with ⟨d', hd', hm'⟩
      rcases List.mem_cons.1 hd' with rfl | hmem
      · exact ⟨hsub' (hd m hm').1, (hd m hm').2⟩
      · exact hrest m (List.mem_filterMap.2 ⟨d', hmem, hm'⟩)

structure Follows (cfg : Service) (l : Local) (x y : Run) : Prop where
  held : x.held ⊆ y.held
  queue : x.queue ⊆ y.queue
  changes : Changes cfg l y.held (checked y.queue) x.state y.state

lemma checked_mono {queue queue' : List Deferred} (h : queue ⊆ queue') : checked queue ⊆ checked queue' := by
  intro m hm
  obtain ⟨d, hd, hm'⟩ := List.mem_filterMap.1 hm
  exact List.mem_filterMap.2 ⟨d, h hd, hm'⟩

namespace Follows

variable {cfg : Service} {l : Local} {x y z : Run}

lemma refl (x : Run) : Follows cfg l x x := ⟨fun _ h => h, fun _ h => h, .refl⟩

lemma trans (h : Follows cfg l x y) (h' : Follows cfg l y z) : Follows cfg l x z where
  held := fun _ hk => h'.held (h.held hk)
  queue := fun _ hd => h'.queue (h.queue hd)
  changes := (h.changes.mono h'.held (checked_mono h'.queue)).trans h'.changes

lemma hold (x : Run) (k : Key) : Follows cfg l x (x.hold k) :=
  ⟨List.subset_cons_self _ _, fun _ h => h, .refl⟩

lemma single (hheld : x.held ⊆ y.held) (hqueue : x.queue ⊆ y.queue)
    (h : Change cfg l y.held (checked y.queue) x.state y.state) : Follows cfg l x y :=
  ⟨hheld, hqueue, .single h⟩

lemma step (h : Follows cfg l x y) {w : World} (hs : Change cfg l y.held (checked y.queue) y.state w) :
    Follows cfg l x ⟨w, y.held, y.queue⟩ :=
  ⟨h.held, h.queue, Relation.ReflTransGen.tail h.changes hs⟩

end Follows

section Ledger

variable {E : Error → Prop} (hE : ∀ e, e.illegalTransition = false → E e) {x : Run}
include hE

lemma wp_account (code : AccountCode) (m : Option MerchantId) {Q : Account → Run → Prop}
    (h : Q ⟨code, m⟩ x) : (account code m).Wp locks E Q x := by
  simp only [account, wp_bind, wp_query, wp_ensure, wp_done]
  exact fun _ _ => ⟨fun _ => h, fun _ => hE _ (by simp [relayPay, Error.illegalTransition])⟩

lemma wp_platformAccount (code : AccountCode) {Q : Account → Run → Prop} (h : ∀ accounts, x.state.accounts ⊆ accounts →
      Q ⟨code, none⟩ ⟨{ x.state with accounts := accounts }, x.held, x.queue⟩) :
    (platformAccount code).Wp locks E Q x := by
  simp only [platformAccount, wp_bind, wp_modify]
  refine ⟨respects_addAccount _, wp_account hE _ _ (h _ ?_)⟩
  split
  · exact fun _ ha => ha
  · exact List.subset_append_left _ _

lemma wp_entryIf_account (amount : ℤ) (side : Side) (code : AccountCode) (m : Option MerchantId)
    {Q : List Posting → Run → Prop} (h : Q (entry amount side ⟨code, m⟩) x) :
    (entryIf amount side (account code m)).Wp locks E Q x := by
  by_cases hz : amount = 0
  · simpa [entryIf, entry, hz] using h
  · simp only [entryIf, hz, ne_eq, not_false_eq_true, if_true, wp_bind]
    refine wp_account hE _ _ ?_
    simpa [entry, hz] using h

lemma wp_entryIf_platformAccount (amount : ℤ) (side : Side) (code : AccountCode)
    {Q : List Posting → Run → Prop} (h : ∀ accounts, x.state.accounts ⊆ accounts →
      Q (entry amount side ⟨code, none⟩) ⟨{ x.state with accounts := accounts }, x.held, x.queue⟩) :
    (entryIf amount side (platformAccount code)).Wp locks E Q x := by
  by_cases hz : amount = 0
  · simpa [entryIf, entry, hz] using h x.state.accounts fun _ ha => ha
  · simp only [entryIf, hz, ne_eq, not_false_eq_true, if_true, wp_bind]
    refine wp_platformAccount hE _ fun accounts hsub => ?_
    simpa [entry, hz] using h accounts hsub

def afterPosting (x : Run) (j : Journal) : Run :=
  ⟨x.state.addJournal j, .journalKey j.id :: x.held, x.queue ++ j.postings.map fun e => .posting e.account e.side⟩

lemma wp_postJournal (j : Journal) {Q : Unit → Run → Prop}
    (h : j.Posts (.journalKey j.id :: x.held) x.state → Q () (afterPosting x j)) :
    (postJournal j.id j.merchant j.operation j.postings).Wp locks E Q x := by
  simp only [postJournal, wp_bind, wp_ensure, wp_acquire, wp_query, wp_modify, wp_enqueueAll]
  refine ⟨fun hbal => ⟨fun hpos v hv => ⟨fun hnone => ?_, fun _ => hE _ rfl⟩, fun _ => hE _ rfl⟩, fun _ => hE _ rfl⟩
  have hframe : Frame (.journalKey j.id) v x.state := hv.2 _ (List.mem_cons_self ..)
  refine ⟨respects_addJournal _, h ⟨List.mem_cons_self .., hframe ▸ hnone, ?_, hpos⟩⟩
  exact not_not.1 (not_or.1 hbal).2

lemma wp_addBalanceTransaction (b : BalanceTransaction) {Q : Unit → Run → Prop}
    (h : (b.pendingDelta ≠ 0 ∨ b.availableDelta ≠ 0 ∨ b.receivableDelta ≠ 0 ∨
      b.payoutClearingDelta ≠ 0) → Q () (x.apply fun w => w.addBalanceTransaction b)) :
    (addBalanceTransaction b).Wp locks E Q x := by
  simp only [addBalanceTransaction, wp_bind, wp_ensure, wp_modify]
  exact ⟨fun hne => ⟨respects_addBalanceTransaction b, h hne⟩, fun _ => hE _ rfl⟩

variable {p : PaymentId} {a : PaymentIntent} {Q : JournalId → Run → Prop}

lemma wp_postCaptureJournal (c : Capture) (hp : .payment p ∈ x.held) (ha : x.state.payments.get p = some a)
    (h : ∀ accounts j, x.state.accounts ⊆ accounts →
      j = ⟨.capture p, a.merchant, some (.capture p), captureEntries a.merchant c⟩ →
      j.Posts (.journalKey j.id :: x.held) { x.state with accounts := accounts } →
      0 ≤ c.feeAmount → 0 ≤ c.gstAmount → 0 ≤ c.netAmount → c.netAmount ≠ 0 →
      Q (.capture p) ((afterPosting ⟨{ x.state with accounts := accounts }, x.held, x.queue⟩ j).apply
        fun w => w.addBalanceTransaction ⟨a.merchant, .capture p, .capture, c.netAmount, 0, 0, 0⟩)) :
    (postCaptureJournal p c.amount c.feeAmount c.gstAmount).Wp locks E Q x := by
  simp only [postCaptureJournal, wp_bind, wp_ensure, wp_query, wp_require, wp_done]
  refine ⟨fun hsplit v hv => ?_, fun _ => hE _ rfl⟩
  rw [view_payment hp hv, ha]
  refine ⟨?_, fun hnone => by simp at hnone⟩
  rintro m ⟨⟩
  refine wp_account hE _ _ (wp_entryIf_account hE _ _ _ _ ?_)
  refine wp_entryIf_platformAccount hE _ _ _ fun accounts hsub => ?_
  refine wp_entryIf_platformAccount hE _ _ _ fun accounts' hsub' => ?_
  refine wp_postJournal hE ⟨.capture p, a.merchant, some (.capture p), captureEntries a.merchant c⟩
    fun hposts => ?_
  refine wp_addBalanceTransaction hE _ fun hne => ?_
  have hnet : c.netAmount ≠ 0 := by simpa [Capture.netAmount] using hne
  have hfee := not_or.1 hsplit
  have hgst := not_or.1 hfee.2
  refine h accounts' _ (fun _ hacc => hsub' (hsub hacc)) rfl hposts ?_ ?_ ?_ hnet
  · exact not_lt.1 hfee.1
  · exact not_lt.1 hgst.1
  · exact not_lt.1 hgst.2

omit hE in
lemma settledAmount_eq {w : World} {m : MerchantId} (h : ∀ i ∈ w.settlementItems, i.capture = p → i.merchant = m) :
    w.settledAmount p = (((w.settledBy m).filter fun i => i.capture = p).map SettlementItem.amount).sum := by
  have hfilter : w.settlementItems.filter (fun i => i.capture = p) =
      (w.settledBy m).filter fun i => i.capture = p := by
    rw [World.settledBy, List.filter_filter]
    refine List.filter_congr fun i hi => ?_
    by_cases hp : i.capture = p
    · simp [hp, h i hi hp]
    · simp [hp]
  rw [World.settledAmount, hfilter]

omit hE in
lemma priorPending_eq (w : World) (m : MerchantId) (p : PaymentId) :
    ((w.balanceTransactions.filter fun b => b.merchant = m && World.refundOf p b).map
      fun b => -b.pendingDelta).sum = w.priorPending m p := by
  have hfilter : w.balanceTransactions.filter (fun b => b.merchant = m && World.refundOf p b) =
      (w.refundsBy m).filter (World.refundOf p) := by
    rw [World.refundsBy, List.filter_filter]
    refine List.filter_congr fun b _ => ?_
    by_cases hp : World.refundOf p b = true
    · have htype : b.type = .refund := by
        simp only [World.refundOf] at hp
        split at hp
        · simp_all
        · cases hp
      simp [hp, htype]
    · simp [hp]
  rw [hfilter, World.priorPending]

lemma wp_reservedPayoutAmount (m : MerchantId) {Q : ℤ → Run → Prop}
    (h : ∀ reserved, 0 ≤ reserved → Q reserved x) : (reservedPayoutAmount m).Wp locks E Q x := by
  simp only [reservedPayoutAmount, wp_bind, wp_query, wp_ensure, wp_done]
  exact fun v _ => ⟨h _, fun _ => hE _ rfl⟩

lemma wp_refundSources {m : MerchantId} (amount : ℤ)
    (hp : .payment p ∈ x.held) (hm : .merchant m ∈ x.held) (ha : x.state.payments.get p = some a)
    {Q : RefundSources → Run → Prop} (h : ∀ s c, a.capture = some c → s.Splits x.state p m c amount → Q s x) :
    (refundSources p amount m).Wp locks E Q x := by
  simp only [refundSources, wp_bind, wp_query, wp_require, wp_done]
  intro v₁ hv₁ v₂ hv₂ v₃ hv₃
  rw [view_payment hp hv₃, ha]
  refine ⟨fun c hc => ?_, fun _ => hE _ rfl⟩
  refine wp_account hE _ _ fun v₄ _ => ?_
  refine wp_reservedPayoutAmount hE _ fun reserved _ => h _ c hc ⟨⟨v₁.settledAmount p, ?_, ?_⟩, ?_, ?_, rfl⟩
  · have hprior : v₂.priorPending m p = x.state.priorPending m p := by
      have hframe : Frame (.merchant m) v₂ x.state := hv₂.2 _ hm
      rw [World.priorPending, World.priorPending, hframe.2.2.1]
    simp only [priorPending_eq, hprior]
  · intro hitems
    have hframe : Frame (.merchant m) v₁ x.state := hv₁.2 _ hm
    have hevolves : Evolves v₁ x.state := hv₁.1
    rw [settledAmount_eq hitems, settledAmount_eq fun i hi => hitems i (hevolves.settlementItems hi), hframe.2.2.2]
  · simp only
    omega
  · simp only
    omega

lemma wp_postRefundJournal {r : RefundId} (amount : ℤ) (hp : .payment p ∈ x.held) (ha : x.state.payments.get p = some a)
    (h : ∀ s c j, a.capture = some c → s.Splits x.state p a.merchant c amount →
      j = ⟨.refund p r, a.merchant, some (.refund p r), refundEntries a.merchant amount s⟩ →
      j.Posts (.journalKey j.id :: .merchant a.merchant :: x.held) x.state →
      Q (.refund p r) ((afterPosting (x.hold (.merchant a.merchant)) j).apply
        fun w => w.addBalanceTransaction
          ⟨a.merchant, .refund p r, .refund, -s.pending, -s.available, s.receivable, 0⟩)) :
    (postRefundJournal p r amount).Wp locks E Q x := by
  simp only [postRefundJournal, wp_bind, wp_query, wp_require, wp_ensure, wp_acquire, wp_done]
  intro v₁ hv₁
  rw [view_payment hp hv₁, ha]
  refine ⟨fun y' hy' => ⟨fun _ v₂ hv₂ => ?_, fun _ => hE _ rfl⟩, fun _ => hE _ rfl⟩
  rw [view_payment hp hv₂, ha]
  refine ⟨?_, fun hnone => by simp at hnone⟩
  rintro m ⟨⟩
  refine wp_refundSources (x := x.hold (.merchant a.merchant)) hE _ (List.mem_cons_of_mem _ hp)
    (List.mem_cons_self ..) ha fun s c hc hs => ?_
  refine wp_entryIf_account hE _ _ _ _ (wp_entryIf_account hE _ _ _ _ (wp_entryIf_account hE _ _ _ _ ?_))
  refine wp_account hE _ _ ?_
  refine wp_postJournal hE ⟨.refund p r, a.merchant, some (.refund p r),
    refundEntries a.merchant amount s⟩ fun hposts => ?_
  exact wp_addBalanceTransaction hE _ fun _ => h s c _ hc hs rfl hposts

lemma wp_deriveBalances (m : MerchantId) {Q : MerchantBalances → Run → Prop}
    (h : ∀ b : MerchantBalances, 0 ≤ b.reserved →
      (.merchant m ∈ x.held → b.receivable = x.state.receivable m) → Q b x) : (deriveBalances m).Wp locks E Q x := by
  simp only [deriveBalances, wp_bind, wp_query, wp_done]
  refine wp_account hE _ _ fun v₁ _ => wp_account hE _ _ fun v₂ _ => wp_account hE _ _ fun v₃ hv₃ => ?_
  refine wp_reservedPayoutAmount hE _ fun reserved hres => h _ hres fun hm => ?_
  have hframe : Frame (.merchant m) v₃ x.state := hv₃.2 _ hm
  exact hframe.2.1

end Ledger

end RelayPay
