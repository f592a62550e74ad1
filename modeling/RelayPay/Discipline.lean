import RelayPay.ReadCommitted.Logic
import RelayPay.Settlement

/-! What the locks of the service protect, and that every write keeps it so. -/

namespace RelayPay

open ReadCommitted

namespace World

def Captured (w : World) (p : PaymentId) (m : MerchantId) (c : Capture) : Prop :=
  ∃ a, w.payments.get p = some a ∧ a.merchant = m ∧ a.capture = some c ∧ c.status = .succeeded

def receivable (w : World) (m : MerchantId) : ℤ := -w.creditNormal ⟨.merchantReceivable, some m⟩

def refundsBy (w : World) (m : MerchantId) : List BalanceTransaction :=
  w.balanceTransactions.filter fun b => b.merchant = m && b.type = .refund

def settledBy (w : World) (m : MerchantId) : List SettlementItem :=
  w.settlementItems.filter fun i => i.merchant = m

def hasJournal (w : World) (id : JournalId) : Bool := w.journals.any fun j => j.id = id

def hasItem (w : World) (p : PaymentId) : Bool := w.settlementItems.any fun i => i.capture = p

end World

structure IdempotencyRecord.SameBinding (r r' : IdempotencyRecord) : Prop where
  fingerprint : r'.fingerprint = r.fingerprint
  operation : r'.operation = r.operation

lemma IdempotencyRecord.SameBinding.trans {r r' r'' : IdempotencyRecord} (h : r.SameBinding r')
    (h' : r'.SameBinding r'') : r.SameBinding r'' :=
  ⟨h'.fingerprint.trans h.fingerprint, h'.operation.trans h.operation⟩

structure Evolves (w₀ w : World) : Prop where
  now : w₀.now ≤ w.now
  captured : ∀ p m c, w₀.Captured p m c → w.Captured p m c
  balanceTransactions : w₀.balanceTransactions ⊆ w.balanceTransactions
  settlementItems : w₀.settlementItems ⊆ w.settlementItems
  merchants : ∀ m, (w₀.merchants.get m).isSome → (w.merchants.get m).isSome
  records : ∀ d r, w₀.records.get d = some r → ∃ r', w.records.get d = some r' ∧ r.SameBinding r'

def Frame : Key → World → World → Prop
  | .payment p, w₀, w => w₀.payments.get p = w.payments.get p
  | .operation o, w₀, w => w₀.operations.get o = w.operations.get o
  | .merchant m, w₀, w => w₀.merchants.get m = w.merchants.get m ∧ w₀.receivable m = w.receivable m ∧
      w₀.refundsBy m = w.refundsBy m ∧ w₀.settledBy m = w.settledBy m
  | .payout q, w₀, w => w₀.payouts.get q = w.payouts.get q
  | .event e, w₀, w => w₀.pspEvents.get e = w.pspEvents.get e
  | .coverage m, w₀, w => w₀.reserved m = w.reserved m ∧ w₀.available m ≤ w.available m
  | .recordKey d, w₀, w => (w₀.records.get d).isSome = (w.records.get d).isSome
  | .journalKey j, w₀, w => w₀.hasJournal j = w.hasJournal j
  | .itemKey p, w₀, w => w₀.hasItem p = w.hasItem p
  | _, _, _ => True

lemma Evolves.refl (w : World) : Evolves w w :=
  ⟨le_rfl, fun _ _ _ h => h, fun _ h => h, fun _ h => h, fun _ h => h, fun _ r h => ⟨r, h, rfl, rfl⟩⟩

lemma Evolves.trans {w₁ w₂ w₃ : World} (h : Evolves w₁ w₂) (h' : Evolves w₂ w₃) : Evolves w₁ w₃ where
  now := h.now.trans h'.now
  captured p m c hc := h'.captured p m c (h.captured p m c hc)
  balanceTransactions := List.Subset.trans h.balanceTransactions h'.balanceTransactions
  settlementItems := List.Subset.trans h.settlementItems h'.settlementItems
  merchants m hm := h'.merchants m (h.merchants m hm)
  records d r hr := by
    obtain ⟨r₂, hr₂, hsame⟩ := h.records d r hr
    obtain ⟨r₃, hr₃, hsame'⟩ := h'.records d r₂ hr₂
    exact ⟨r₃, hr₃, hsame.trans hsame'⟩

lemma Frame.refl (k : Key) (w : World) : Frame k w w := by
  cases k <;> simp [Frame]

lemma Frame.trans {k : Key} {w₁ w₂ w₃ : World} (h : Frame k w₁ w₂) (h' : Frame k w₂ w₃) : Frame k w₁ w₃ := by
  cases k with
  | merchant m => exact ⟨h.1.trans h'.1, h.2.1.trans h'.2.1, h.2.2.1.trans h'.2.2.1, h.2.2.2.trans h'.2.2.2⟩
  | coverage m => exact ⟨h.1.trans h'.1, h.2.trans h'.2⟩
  | _ => first | exact Eq.trans h h' | trivial

def locks : Discipline World Key where
  frame := Frame
  evolves := Evolves
  frame_refl := Frame.refl
  frame_trans _ _ _ _ h h' := h.trans h'
  evolves_refl := Evolves.refl
  evolves_trans _ _ _ h h' := h.trans h'

lemma captured_putPayment {w₀ w : World} (p : PaymentId) (a : PaymentIntent)
    (h : ∀ p m c, w₀.Captured p m c → w.Captured p m c) :
    ∀ p' m c, (w₀.putPayment p a).Captured p' m c → (w.putPayment p a).Captured p' m c := by
  rintro p' m c ⟨a', hget, hrest⟩
  by_cases hp : p' = p
  · subst hp
    rw [World.putPayment_payments, Table.get_put_self] at hget
    exact ⟨a', by rwa [World.putPayment_payments, Table.get_put_self], hrest⟩
  · rw [World.putPayment_payments, Table.get_put_ne _ _ hp] at hget
    obtain ⟨a₁, hget₁, hrest₁⟩ := h p' m c ⟨a', hget, hrest⟩
    exact ⟨a₁, by rwa [World.putPayment_payments, Table.get_put_ne _ _ hp], hrest₁⟩

lemma get_put_congr {ι ρ : Type} [DecidableEq ι] {t₀ t : Table ι ρ} {a b : ι} (r : ρ)
    (h : t₀.get b = t.get b) : (t₀.put a r).get b = (t.put a r).get b := by
  rw [Table.get_put, Table.get_put, h]

@[simp] lemma creditNormal_addJournal (w : World) (j : Journal) (a : Account) :
    (w.addJournal j).creditNormal a = w.creditNormal a + j.creditTo a := by
  simp [World.creditNormal]

section Respects

variable {held : List Key}

@[simp] lemma respects_putPayment (p : PaymentId) (a : PaymentIntent) :
    locks.Respects held fun w => w.putPayment p a := by
  intro w₀ w hv
  refine ⟨⟨hv.1.now, captured_putPayment p a hv.1.captured, hv.1.balanceTransactions,
    hv.1.settlementItems, hv.1.merchants, hv.1.records⟩, fun k hk => ?_⟩
  cases k with
  | payment p' => exact get_put_congr a hk
  | _ => exact hk

lemma respects_of_frames {f : World → World} (hevolves : ∀ w₀ w, Evolves w₀ w → Evolves (f w₀) (f w))
    (hframe : ∀ w₀ w k, locks.view held w₀ w → Frame k w₀ w → Frame k (f w₀) (f w)) : locks.Respects held f :=
  fun w₀ w hv => ⟨hevolves w₀ w hv.1, fun k hk => hframe w₀ w k hv hk⟩

@[simp] lemma respects_putOperation (o : OperationId) (op : ProviderOperation) :
    locks.Respects held fun w => w.putOperation o op := by
  refine respects_of_frames (fun _ _ h => ⟨h.1, h.2, h.3, h.4, h.5, h.6⟩) fun w₀ w k _ hk => ?_
  cases k with
  | operation o' => exact get_put_congr op hk
  | _ => exact hk

@[simp] lemma respects_putEvent (e : String) (ev : PspEvent) : locks.Respects held fun w => w.putEvent e ev := by
  refine respects_of_frames (fun _ _ h => ⟨h.1, h.2, h.3, h.4, h.5, h.6⟩) fun w₀ w k _ hk => ?_
  cases k with
  | event e' => exact get_put_congr ev hk
  | _ => exact hk

@[simp] lemma respects_putMerchant (m : MerchantId) (M : Merchant) :
    locks.Respects held fun w => w.putMerchant m M := by
  refine respects_of_frames (fun _ _ h => ⟨h.1, h.2, h.3, h.4, fun m' => ?_, h.6⟩) fun w₀ w k _ hk => ?_
  · rw [World.putMerchant_merchants, World.putMerchant_merchants, Table.get_put, Table.get_put]
    split
    · exact id
    · exact h.5 m'
  cases k with
  | merchant m' => exact ⟨get_put_congr M hk.1, hk.2⟩
  | _ => exact hk

@[simp] lemma respects_putRecord (d : KeyDigest) (r : IdempotencyRecord) :
    locks.Respects held fun w => w.putRecord d r := by
  refine respects_of_frames (fun _ _ h => ⟨h.1, h.2, h.3, h.4, h.5, fun d' r' => ?_⟩) fun w₀ w k _ hk => ?_
  · rw [World.putRecord_records, World.putRecord_records, Table.get_put, Table.get_put]
    split
    · exact fun hr => ⟨r', hr, rfl, rfl⟩
    · exact h.6 d' r'
  cases k with
  | recordKey d' =>
    change ((w₀.records.put d r).get d').isSome = ((w.records.put d r).get d').isSome
    rw [Table.get_put, Table.get_put]
    split
    · rfl
    · exact hk
  | _ => exact hk

lemma respects_updateRecords {f : KeyDigest → IdempotencyRecord → IdempotencyRecord}
    (hf : ∀ d (r : IdempotencyRecord), r.SameBinding (f d r)) : locks.Respects held fun w => w.updateRecords f := by
  refine respects_of_frames (fun _ _ h => ⟨h.1, h.2, h.3, h.4, h.5, fun d r' hr' => ?_⟩)
    fun w₀ w k _ hk => ?_
  · rw [World.updateRecords_records, Table.get_mapRows] at hr'
    obtain ⟨r, hr, rfl⟩ := Option.map_eq_some_iff.1 hr'
    obtain ⟨r₁, hr₁, hsame⟩ := h.6 d r hr
    refine ⟨f d r₁, by simp [hr₁], ?_, ?_⟩
    · rw [(hf d r₁).fingerprint, hsame.fingerprint, (hf d r).fingerprint]
    · rw [(hf d r₁).operation, hsame.operation, (hf d r).operation]
  cases k with
  | recordKey d' =>
    have hsome : ∀ v : World, ((v.updateRecords f).records.get d').isSome = (v.records.get d').isSome := by
      intro v
      simp
    exact (hsome w₀).trans (Eq.trans hk (hsome w).symm)
  | _ => exact hk

@[simp] lemma respects_putSettlementRun (d : KeyDigest) (r : SettlementRun) :
    locks.Respects held fun w => w.putSettlementRun d r := by
  refine respects_of_frames (fun _ _ h => ⟨h.1, h.2, h.3, h.4, h.5, h.6⟩) fun w₀ w k _ hk => ?_
  cases k <;> exact hk

@[simp] lemma respects_stampAttempt (a : AttemptId) (t : Time) : locks.Respects held fun w => w.stampAttempt a t := by
  refine respects_of_frames (fun _ _ h => ⟨h.1, h.2, h.3, h.4, h.5, h.6⟩) fun w₀ w k _ hk => ?_
  cases k <;> exact hk

@[simp] lemma respects_addAccount (a : Account) : locks.Respects held fun w => w.addAccount a := by
  refine respects_of_frames (fun _ _ h => ⟨h.1, h.2, h.3, h.4, h.5, h.6⟩) fun w₀ w k _ hk => ?_
  cases k <;> exact hk

@[simp] lemma respects_addRecipients (rs : List EventRecipient) : locks.Respects held fun w => w.addRecipients rs := by
  refine respects_of_frames (fun _ _ h => ⟨h.1, h.2, h.3, h.4, h.5, h.6⟩) fun w₀ w k _ hk => ?_
  cases k <;> exact hk

@[simp] lemma respects_addJournal (j : Journal) : locks.Respects held fun w => w.addJournal j := by
  refine respects_of_frames (fun _ _ h => ⟨h.1, h.2, h.3, h.4, h.5, h.6⟩) fun w₀ w k _ hk => ?_
  cases k with
  | merchant m =>
    refine ⟨hk.1, ?_, hk.2.2⟩
    have hrec := hk.2.1
    simp only [World.receivable, creditNormal_addJournal] at hrec ⊢
    omega
  | coverage m =>
    have havail := hk.2
    simp only [World.available] at havail
    refine ⟨hk.1, ?_⟩
    simp only [World.available, creditNormal_addJournal]
    omega
  | journalKey id =>
    have hany : w₀.hasJournal id = w.hasJournal id := hk
    simp only [World.hasJournal] at hany
    simp [Frame, World.hasJournal, hany]
  | _ => exact hk

@[simp] lemma respects_addBalanceTransaction (b : BalanceTransaction) :
    locks.Respects held fun w => w.addBalanceTransaction b := by
  refine respects_of_frames (fun _ _ h => ⟨h.1, h.2, ?_, h.4, h.5, h.6⟩) fun w₀ w k _ hk => ?_
  · exact List.append_subset.2 ⟨List.subset_append_of_subset_left _ h.3, List.subset_append_right _ _⟩
  cases k with
  | merchant m =>
    have hrefunds : w₀.refundsBy m = w.refundsBy m := hk.2.2.1
    simp only [World.refundsBy] at hrefunds
    refine ⟨hk.1, hk.2.1, ?_, hk.2.2.2⟩
    simp [World.refundsBy, hrefunds]
  | _ => exact hk

@[simp] lemma respects_addSettlementItem (i : SettlementItem) : locks.Respects held fun w => w.addSettlementItem i := by
  refine respects_of_frames (fun _ _ h => ⟨h.1, h.2, h.3, ?_, h.5, h.6⟩) fun w₀ w k _ hk => ?_
  · exact List.append_subset.2 ⟨List.subset_append_of_subset_left _ h.4, List.subset_append_right _ _⟩
  cases k with
  | merchant m =>
    have hsettled : w₀.settledBy m = w.settledBy m := hk.2.2.2
    simp only [World.settledBy] at hsettled
    refine ⟨hk.1, hk.2.1, hk.2.2.1, ?_⟩
    simp [World.settledBy, hsettled]
  | itemKey p =>
    have hany : w₀.hasItem p = w.hasItem p := hk
    simp only [World.hasItem] at hany
    simp [Frame, World.hasItem, hany]
  | _ => exact hk

lemma respects_putPayout {q : PayoutId} (hq : Key.payout q ∈ held) (P : Payout) :
    locks.Respects held fun w => w.putPayout q P := by
  refine respects_of_frames (fun _ _ h => ⟨h.1, h.2, h.3, h.4, h.5, h.6⟩) fun w₀ w k hv hk => ?_
  have hrow : w₀.payouts.get q = w.payouts.get q := hv.2 _ hq
  cases k with
  | payout q' => exact get_put_congr P hk
  | coverage m =>
    have hres := hk.1
    simp only [World.reserved] at hres
    refine ⟨?_, hk.2⟩
    simp only [World.reserved, World.putPayout_payouts, Table.total_put, hres, hrow]
  | _ => exact hk

end Respects

end RelayPay
