import RelayPay.Changes

/-! A resource has the status of its operation, and steps keep the frames of locks they do not hold. -/

namespace RelayPay

open ReadCommitted

namespace PaymentIntent

def resourceStatus (a : PaymentIntent) : OperationId → Option OperationStatus
  | .authorize _ => a.authorization.map Authorization.status
  | .capture _ => a.capture.map Capture.status
  | .void _ => a.void.map Void.status
  | .refund _ r => (a.refunds.get r).map Refund.status

def resourceJournal (a : PaymentIntent) : OperationId → Option JournalId
  | .authorize _ => none
  | .capture _ => a.capture.bind Capture.journal
  | .void _ => none
  | .refund _ r => (a.refunds.get r).bind Refund.journal

@[simp] lemma resourceStatus_moved (a : PaymentIntent) (target : PaymentStatus) (reason : StatusReason)
    (actor : Actor) (o : OperationId) : (a.moved target reason actor).resourceStatus o = a.resourceStatus o := by
  cases o <;> rfl

@[simp] lemma resourceStatus_create (customer : ℕ) (m : MerchantId) (reference : String) (amount : ℤ)
    (actor : Actor) (o : OperationId) : (create customer m reference amount actor).resourceStatus o = none := by
  cases o <;> rfl

variable {a a' : PaymentIntent} {o o' : OperationId}

def OnlyResource (a a' : PaymentIntent) (o : OperationId) (s : OperationStatus) : Prop :=
  a'.resourceStatus o = some s ∧
    ∀ o', o' ≠ o → o'.payment = o.payment →
      a'.resourceStatus o' = a.resourceStatus o' ∧ a'.resourceJournal o' = a.resourceJournal o'

lemma Opens.onlyResource {cfg : Service} (h : a.Opens cfg o a') : a.OnlyResource a' o .processing := by
  cases h with
  | authorize _ =>
    refine ⟨rfl, fun o' hne hp => ?_⟩
    cases o' <;> simp_all [resourceStatus, resourceJournal, OperationId.payment]
  | capture _ _ _ _ _ _ _ _ hs =>
    refine ⟨by simp [resourceStatus, hs], fun o' hne hp => ?_⟩
    cases o' <;> simp_all [resourceStatus, resourceJournal, OperationId.payment]
  | void _ _ _ _ =>
    refine ⟨rfl, fun o' hne hp => ?_⟩
    cases o' <;> simp_all [resourceStatus, resourceJournal, OperationId.payment]
  | refund _ _ _ _ _ =>
    refine ⟨by simp [resourceStatus], fun o' hne hp => ?_⟩
    cases o' <;> simp_all [resourceStatus, resourceJournal, OperationId.payment, Table.get_put]

lemma setResourceStatus_onlyResource (hr : a.hasResource o = true) (s : OperationStatus) :
    a.OnlyResource (a.setResourceStatus s o) o s := by
  cases o with
  | authorize p =>
    obtain ⟨x, hx⟩ := Option.isSome_iff_exists.1 hr
    refine ⟨by simp [setResourceStatus, resourceStatus, hx], fun o' hne hp => ?_⟩
    cases o' <;> simp_all [setResourceStatus, resourceStatus, resourceJournal, OperationId.payment]
  | capture p =>
    obtain ⟨x, hx⟩ := Option.isSome_iff_exists.1 hr
    refine ⟨by simp [setResourceStatus, resourceStatus, hx], fun o' hne hp => ?_⟩
    cases o' <;> simp_all [setResourceStatus, resourceStatus, resourceJournal, OperationId.payment]
  | void p =>
    obtain ⟨x, hx⟩ := Option.isSome_iff_exists.1 hr
    refine ⟨by simp [setResourceStatus, resourceStatus, hx], fun o' hne hp => ?_⟩
    cases o' <;> simp_all [setResourceStatus, resourceStatus, resourceJournal, OperationId.payment]
  | refund p r =>
    obtain ⟨x, hx⟩ := Option.isSome_iff_exists.1 hr
    refine ⟨by simp [setResourceStatus, resourceStatus, hx], fun o' hne hp => ?_⟩
    cases o' <;> simp_all [setResourceStatus, resourceStatus, resourceJournal, OperationId.payment, Table.get_put]

lemma Resolves.onlyResource {held : List Key} {ms : List MerchantId} {w : World} {actor : Actor}
    {v : Verdict} {posted : List (Journal × BalanceTransaction)}
    (h : a.Resolves held ms w actor v o a' posted) : a.OnlyResource a' o v.status := by
  cases h with
  | authorize hx =>
    refine ⟨rfl, fun o' hne hp => ?_⟩
    cases o' <;> simp_all [resourceStatus, resourceJournal, moved, OperationId.payment]
  | captured _ hx =>
    refine ⟨rfl, fun o' hne hp => ?_⟩
    cases o' <;> simp_all [resourceStatus, resourceJournal, moved, OperationId.payment]
  | captureDeclined _ hx =>
    refine ⟨rfl, fun o' hne hp => ?_⟩
    cases o' <;> simp_all [resourceStatus, resourceJournal, moved, OperationId.payment]
  | voided _ hx =>
    refine ⟨rfl, fun o' hne hp => ?_⟩
    cases o' <;> simp_all [resourceStatus, resourceJournal, moved, OperationId.payment]
  | voidDeclined _ hx =>
    refine ⟨rfl, fun o' hne hp => ?_⟩
    cases o' <;> simp_all [resourceStatus, resourceJournal, OperationId.payment]
  | refunded _ hx _ _ _ _ _ _ ha' =>
    subst ha'
    refine ⟨by simp [resourceStatus, moved, Verdict.refund], fun o' hne hp => ?_⟩
    cases o' <;> simp_all [resourceStatus, resourceJournal, moved, OperationId.payment, Table.get_put]
  | refundDeclined _ hx =>
    refine ⟨by simp [resourceStatus, Verdict.refund], fun o' hne hp => ?_⟩
    cases o' <;> simp_all [resourceStatus, resourceJournal, OperationId.payment, Table.get_put]

end PaymentIntent

def World.Mirrored (w : World) : Prop :=
  ∀ o, (w.operations.get o).map ProviderOperation.status =
    (w.payments.get o.payment).bind fun a => a.resourceStatus o

variable {o : OperationId} {op : ProviderOperation} {a a' : PaymentIntent}

lemma World.Mirrored.of_onlyResource {w w' : World} (h : w.Mirrored) (ha : w.payments.get o.payment = some a)
    (hops : w'.operations = w.operations.put o op)
    (hpays : w'.payments = w.payments.put o.payment a') (hres : a.OnlyResource a' o op.status) : w'.Mirrored := by
  intro o'
  rw [hops, hpays]
  by_cases ho : o' = o
  · subst ho
    simp [hres.1]
  · rw [Table.get_put_ne _ _ ho, h o']
    by_cases hp : o'.payment = o.payment
    · rw [hp, Table.get_put_self, ha]
      exact (hres.2 o' ho hp).1.symm
    · rw [Table.get_put_ne _ _ hp]

lemma ProviderOperation.Notes.status {cfg : Service} {l : Local} {now : Time}
    {op' : ProviderOperation} (h : op.Notes cfg l now o op') : op'.status = op.status := by
  cases h <;> rfl

@[simp] lemma foldl_post (posted : List (Journal × BalanceTransaction)) (w : World) :
    posted.foldl World.post w = { w with
      journals := w.journals ++ posted.map Prod.fst
      balanceTransactions := w.balanceTransactions ++ posted.map Prod.snd,
      transactionStamps := posted.foldl (fun t e => t.put e.2.journal w.now) w.transactionStamps } := by
  induction posted generalizing w with
  | nil => simp
  | cons e posted ih =>
    rw [List.foldl_cons, ih]
    simp [World.post]

lemma World.Mirrored.post {w : World} (h : w.Mirrored) (posted : List (Journal × BalanceTransaction)) :
    (posted.foldl World.post w).Mirrored := by
  intro o
  rw [foldl_post]
  exact h o

lemma World.Mirrored.putPayment {w : World} (h : w.Mirrored) {p : PaymentId}
    (hres : ∀ o, o.payment = p → a'.resourceStatus o =
      (w.payments.get p).bind fun a => a.resourceStatus o) : (w.putPayment p a').Mirrored := by
  intro o
  rw [World.putPayment_operations, World.putPayment_payments, h o]
  by_cases hp : o.payment = p
  · rw [hp, Table.get_put_self]
    exact (hres o hp).symm
  · rw [Table.get_put_ne _ _ hp]

lemma World.Mirrored.putOperation {w : World} (h : w.Mirrored)
    {op' : ProviderOperation} (hop : w.operations.get o = some op) (hs : op'.status = op.status) :
    (w.putOperation o op').Mirrored := by
  intro o'
  rw [World.putOperation_operations, World.putOperation_payments, ← h o', Table.get_put]
  split
  · next ho =>
    subst ho
    simp [hop, hs]
  · rfl

variable {cfg : Service} {l : Local} {held : List Key} {ms : List MerchantId} {w w' : World}

lemma Change.mirrored (h : Change cfg l held ms w w') (hw : w.Mirrored) : w'.Mirrored := by
  cases h with
  | intent _ hnone _ _ =>
    refine hw.putPayment fun o _ => ?_
    simp [hnone]
  | opened _ _ ha _ hopens _ => exact hw.of_onlyResource ha rfl rfl hopens.onlyResource
  | noted _ hop hnotes => exact hw.putOperation hop hnotes.status
  | reviewed _ _ ha hr _ _ =>
    exact hw.of_onlyResource ha rfl rfl (PaymentIntent.setResourceStatus_onlyResource hr _)
  | finalized _ _ ha _ _ _ _ _ hres _ =>
    exact (hw.post _).of_onlyResource (by simpa using ha) rfl rfl hres.onlyResource
  | expired _ ha _ _ =>
    refine hw.putPayment fun o _ => ?_
    simp [ha]
  | _ => exact hw

section Frames

variable (w : World) {k : Key}

lemma frame_putPayment {p : PaymentId} (a : PaymentIntent) (h : k ≠ .payment p) : Frame k w (w.putPayment p a) := by
  have hk := Frame.refl k w
  cases k with
  | payment p' =>
    have hp : p' ≠ p := fun he => h (by rw [he])
    exact (Table.get_put_ne _ _ hp).symm
  | _ => exact hk

lemma frame_putOperation (op : ProviderOperation) (h : k ≠ .operation o) : Frame k w (w.putOperation o op) := by
  have hk := Frame.refl k w
  cases k with
  | operation o' =>
    have ho : o' ≠ o := fun he => h (by rw [he])
    exact (Table.get_put_ne _ _ ho).symm
  | _ => exact hk

lemma frame_putEvent {e : String} (ev : PspEvent) (h : k ≠ .event e) : Frame k w (w.putEvent e ev) := by
  have hk := Frame.refl k w
  cases k with
  | event e' =>
    have he : e' ≠ e := fun heq => h (by rw [heq])
    exact (Table.get_put_ne _ _ he).symm
  | _ => exact hk

lemma frame_putRecord {d : KeyDigest} (r : IdempotencyRecord) (h : k ≠ .recordKey d) : Frame k w (w.putRecord d r) := by
  have hk := Frame.refl k w
  cases k with
  | recordKey d' =>
    have hd : d' ≠ d := fun heq => h (by rw [heq])
    exact congrArg Option.isSome (Table.get_put_ne _ _ hd).symm
  | _ => exact hk

lemma frame_putMerchant {m : MerchantId} (M : Merchant) (h : k ≠ .merchant m) : Frame k w (w.putMerchant m M) := by
  have hk := Frame.refl k w
  cases k with
  | merchant m' =>
    have hm : m' ≠ m := fun heq => h (by rw [heq])
    exact ⟨(Table.get_put_ne _ _ hm).symm, rfl, rfl, rfl⟩
  | _ => exact hk

lemma frame_updateRecords (f : KeyDigest → IdempotencyRecord → IdempotencyRecord) : Frame k w (w.updateRecords f) := by
  have hk := Frame.refl k w
  cases k with
  | recordKey d =>
    change (w.records.get d).isSome = ((w.records.mapRows f).get d).isSome
    simp
  | _ => exact hk

lemma frame_stampAttempt (a : AttemptId) (t : Time) : Frame k w (w.stampAttempt a t) := by
  have hk := Frame.refl k w
  cases k <;> exact hk

lemma frame_addRecipients (rs : List EventRecipient) : Frame k w (w.addRecipients rs) := by
  have hk := Frame.refl k w
  cases k <;> exact hk

lemma frame_putSettlementRun (d : KeyDigest) (r : SettlementRun) : Frame k w (w.putSettlementRun d r) := by
  have hk := Frame.refl k w
  cases k <;> exact hk

lemma frame_addJournal {j : Journal} (h : k ≠ .journalKey j.id)
    (hreceivable : ∀ m, k = .merchant m → j.creditTo ⟨.merchantReceivable, some m⟩ = 0)
    (havailable : ∀ m, k = .coverage m → 0 ≤ j.creditTo ⟨.availablePayable, some m⟩) : Frame k w (w.addJournal j) := by
  have hk := Frame.refl k w
  cases k with
  | merchant m =>
    refine ⟨rfl, ?_, rfl, rfl⟩
    simp [World.receivable, hreceivable m rfl]
  | coverage m =>
    refine ⟨rfl, ?_⟩
    have hm := havailable m rfl
    simp only [World.available, creditNormal_addJournal]
    omega
  | journalKey id =>
    have hid : j.id ≠ id := fun heq => h (by rw [heq])
    simp [Frame, World.hasJournal, hid]
  | _ => exact hk

lemma frame_addBalanceTransaction {b : BalanceTransaction}
    (h : k = .merchant b.merchant → b.type ≠ .refund) : Frame k w (w.addBalanceTransaction b) := by
  have hk := Frame.refl k w
  cases k with
  | merchant m =>
    refine ⟨rfl, rfl, ?_, rfl⟩
    have hb : ¬(b.merchant = m ∧ b.type = .refund) := fun ⟨hm, ht⟩ => h (by rw [hm]) ht
    simp [World.refundsBy, hb]
  | _ => exact hk

lemma frame_addSettlementItem {i : SettlementItem} (h : k ≠ .itemKey i.capture)
    (hm : k ≠ .merchant i.merchant) : Frame k w (w.addSettlementItem i) := by
  have hk := Frame.refl k w
  cases k with
  | merchant m =>
    have hne : i.merchant ≠ m := fun heq => hm (by rw [heq])
    refine ⟨rfl, rfl, rfl, ?_⟩
    simp [World.settledBy, hne]
  | itemKey p =>
    have hne : i.capture ≠ p := fun heq => h (by rw [heq])
    simp [Frame, World.hasItem, hne]
  | _ => exact hk

lemma frame_putPayout {q : PayoutId} {P : Payout} (h : k ≠ .payout q)
    (hreserved : k = .coverage P.merchant → (w.payouts.get q).elim 0 Payout.reserved = P.reserved)
    (hmerchant : ∀ P₀, w.payouts.get q = some P₀ → P.merchant = P₀.merchant) : Frame k w (w.putPayout q P) := by
  have hk := Frame.refl k w
  cases k with
  | payout q' =>
    have hq : q' ≠ q := fun heq => h (by rw [heq])
    exact (Table.get_put_ne _ _ hq).symm
  | coverage m =>
    refine ⟨?_, le_rfl⟩
    simp only [World.reserved, World.putPayout_payouts, Table.total_put]
    by_cases hm : P.merchant = m
    · have hr := hreserved (by rw [hm])
      cases hget : w.payouts.get q with
      | none =>
        simp only [hget, Option.elim] at hr ⊢
        simp [hm, ← hr]
      | some P₀ =>
        simp only [hget, Option.elim] at hr ⊢
        simp [← hmerchant P₀ hget, hm, hr]
    · cases hget : w.payouts.get q with
      | none => simp [hm]
      | some P₀ => simp [← hmerchant P₀ hget, hm]
  | _ => exact hk

lemma frame_payoutRow {w : World} {q : PayoutId} {P P' : Payout} {a : AttemptId} {t : Time}
    (hP : w.payouts.get q = some P) (h : k ≠ .payout q) (hmerchant : P'.merchant = P.merchant)
    (hreserved : k = .coverage P.merchant → P.reserved = P'.reserved) :
    Frame k w ((w.putPayout q P').stampAttempt a t) := by
  refine (frame_putPayout w h (fun hcov => ?_) fun P₀ hP₀ => ?_).trans (frame_stampAttempt _ _ _)
  · rw [hP]
    exact hreserved (hmerchant ▸ hcov)
  · rw [hP] at hP₀
    cases hP₀
    exact hmerchant

end Frames

def Key.isCoverage : Key → Bool
  | .coverage _ => true
  | _ => false

variable {posted : List (Journal × BalanceTransaction)}

lemma PaymentIntent.Resolves.frame {actor : Actor}
    {v : Verdict} {k : Key}
    (h : a.Resolves held ms w actor v o a' posted) (hk : k ∈ held → k.isCoverage = true) (hms : ∀ m ∈ ms, k ≠ .coverage m) :
    Frame k w (posted.foldl World.post w) := by
  have hne : ∀ {k' : Key}, k' ∈ held → k'.isCoverage = false → k ≠ k' := by
    rintro k' hk' hcov rfl
    simp [hk hk'] at hcov
  cases h with
  | captured _ _ hj hposts =>
    subst hj
    refine (frame_addJournal w (hne hposts.key rfl) ?_ ?_).trans
      (frame_addBalanceTransaction _ fun _ => by simp)
    · intro m _
      simp [Journal.creditTo_eq, captureEntries]
    · intro m _
      simp [Journal.creditTo_eq, captureEntries]
  | @refunded _ _ _ _ s _ _ _ _ _ _ _ hheld havail hj hposts =>
    subst hj
    refine (frame_addJournal w (hne hposts.key rfl) ?_ ?_).trans
      (frame_addBalanceTransaction _ fun heq => absurd heq (hne hheld rfl))
    · intro m hm
      have hother : a.merchant ≠ m := fun heq => hne hheld rfl (by rw [hm, heq])
      simp [Journal.creditTo_eq, refundEntries, hother]
    · intro m hm
      have hzero : a.merchant = m → s.available = 0 := by
        intro heq
        by_contra hne
        exact hms _ (havail hne) (by rw [hm, heq])
      by_cases heq : a.merchant = m
      · simp [Journal.creditTo_eq, refundEntries, heq, hzero heq]
      · simp [Journal.creditTo_eq, refundEntries, heq]
  | _ => exact Frame.refl k w

lemma Change.frame {k : Key} (h : Change cfg l held ms w w') (hk : k ∈ held → k.isCoverage = true)
    (hms : ∀ m ∈ ms, k ≠ .coverage m) : Frame k w w' := by
  have hne : ∀ {k' : Key}, k' ∈ held → k'.isCoverage = false → k ≠ k' := by
    rintro k' hk' hcov rfl
    simp [hk hk'] at hcov
  cases h with
  | outside _ _ =>
    have hrefl := Frame.refl k w
    cases k <;> exact hrefl
  | accounts _ =>
    have hrefl := Frame.refl k w
    cases k <;> exact hrefl
  | @merchant _ M _ hm _ _ =>
    have hput := frame_putMerchant w M (hne hm rfl)
    cases k <;> exact hput
  | event he => exact frame_putEvent w _ (hne he rfl)
  | record hd _ => exact frame_putRecord w _ (hne hd rfl)
  | recipients => exact frame_addRecipients w _
  | stamped => exact frame_stampAttempt w _ _
  | settlementRun => exact frame_putSettlementRun w _ _
  | intent hp _ _ _ => exact frame_putPayment w _ (hne hp rfl)
  | opened hp ho _ _ _ _ =>
    exact (frame_putOperation w _ (hne ho rfl)).trans (frame_putPayment _ _ (hne hp rfl))
  | noted ho _ _ => exact frame_putOperation w _ (hne ho rfl)
  | reviewed hp ho _ _ _ _ =>
    exact (frame_putOperation w _ (hne ho rfl)).trans (frame_putPayment _ _ (hne hp rfl))
  | finalized hp ho _ _ _ _ _ _ hres _ =>
    exact (((hres.frame hk hms).trans (frame_putPayment _ _ (hne hp rfl))).trans
      (frame_putOperation _ _ (hne ho rfl))).trans (frame_updateRecords _ _)
  | expired hp _ _ _ => exact frame_putPayment w _ (hne hp rfl)
  | @settled m _ _ _ _ amount offset _ hm hi _ _ _ _ hpos hoff hj hposts =>
    subst hj
    refine ((frame_addJournal w (hne hposts.key rfl) ?_ ?_).trans
      (frame_addSettlementItem _ (hne hi rfl) (hne hm rfl))).trans (frame_addBalanceTransaction _ fun _ => by simp)
    · intro m' hm'
      have hmm : m ≠ m' := fun heq => hne hm rfl (by rw [hm', heq])
      simp [Journal.creditTo_eq, settlementEntries, hmm]
    · intro m' _
      have hle : offset ≤ amount := hoff ▸ min_le_right _ _
      by_cases hmm : m = m'
      · simp [Journal.creditTo_eq, settlementEntries, hmm, Side.sign, hle]
      · simp [Journal.creditTo_eq, settlementEntries, hmm]
  | payoutCreated hq hm hnone _ =>
    refine (frame_putPayout w (hne hq rfl) (fun heq => absurd heq (hms _ hm)) ?_).trans
      (frame_stampAttempt _ _ _)
    simp [hnone]
  | payoutRetried _ hq hm hP _ _ =>
    exact frame_payoutRow hP (hne hq rfl) rfl fun heq => absurd heq (hms _ hm)
  | payoutSent _ hq hP _ _ _ _ _ => exact frame_payoutRow hP (hne hq rfl) rfl fun _ => rfl
  | payoutAmbiguous _ hq hP _ _ _ _ _ _ => exact frame_payoutRow hP (hne hq rfl) rfl fun _ => rfl
  | payoutFailed _ hq hm hP _ _ _ _ _ _ _ =>
    exact frame_payoutRow hP (hne hq rfl) rfl fun heq => absurd heq (hms _ hm)
  | @payoutSucceeded _ _ _ _ _ P _ _ _ _ _ hq hm hP _ _ _ _ _ _ _ hj hposts _ =>
    subst hj
    have hjournal := frame_addJournal w (hne hposts.key rfl) (fun m _ => by
      simp [Journal.creditTo_eq, payoutEntries]) (fun m hkm => by
      have hmm : P.merchant ≠ m := fun heq => hms _ hm (by rw [hkm, heq])
      simp [Journal.creditTo_eq, payoutEntries, hmm])
    refine (hjournal.trans (frame_addBalanceTransaction _ ?_)).trans (frame_payoutRow (P := P) ?_
      (hne hq rfl) rfl fun heq => absurd heq (hms _ hm))
    · exact fun _ => by simp
    · exact hP

def PaymentIntent.KeepsCapture (a a' : PaymentIntent) : Prop :=
  a'.merchant = a.merchant ∧ ∀ c, a.capture = some c → c.status = .succeeded → a'.capture = some c

lemma captured_of_keeps {p : PaymentId} (ha : w.payments.get p = some a)
    (hpay : w'.payments = w.payments.put p a') (hkeeps : a.KeepsCapture a') :
    ∀ p' m c, w.Captured p' m c → w'.Captured p' m c := by
  rintro p' m c ⟨b, hb, hm, hc, hs⟩
  by_cases hp : p' = p
  · subst hp
    rw [ha] at hb
    cases hb
    exact ⟨a', by rw [hpay, Table.get_put_self], hkeeps.1.trans hm, hkeeps.2 c hc hs, hs⟩
  · exact ⟨b, by rw [hpay, Table.get_put_ne _ _ hp, hb], hm, hc, hs⟩

lemma PaymentIntent.Opens.keepsCapture (h : a.Opens cfg o a') : a.KeepsCapture a' := by
  cases h with
  | capture _ hnone => exact ⟨rfl, fun c hc _ => absurd hc (by simp [hnone])⟩
  | _ => exact ⟨rfl, fun c hc _ => hc⟩

lemma setResourceStatus_keepsCapture (s : OperationStatus)
    (hopen : a.resourceStatus o ≠ some .succeeded) : a.KeepsCapture (a.setResourceStatus s o) := by
  cases o with
  | capture p =>
    refine ⟨rfl, fun c hc hs => absurd ?_ hopen⟩
    simp [PaymentIntent.resourceStatus, hc, hs]
  | refund p r =>
    simp only [PaymentIntent.setResourceStatus]
    split <;> exact ⟨rfl, fun c hc _ => hc⟩
  | _ => exact ⟨rfl, fun c hc _ => hc⟩

lemma PaymentIntent.Resolves.keepsCapture {actor : Actor}
    {v : Verdict} (h : a.Resolves held ms w actor v o a' posted) (hopen : a.resourceStatus o ≠ some .succeeded) :
    a.KeepsCapture a' := by
  cases h with
  | captured _ hx =>
    refine ⟨rfl, fun c hc hs => absurd ?_ hopen⟩
    simp [PaymentIntent.resourceStatus, hc, hs]
  | captureDeclined _ hx =>
    refine ⟨rfl, fun c hc hs => absurd ?_ hopen⟩
    simp [PaymentIntent.resourceStatus, hc, hs]
  | refunded _ _ _ _ _ _ _ _ ha' =>
    subst ha'
    exact ⟨rfl, fun c hc _ => hc⟩
  | _ => exact ⟨rfl, fun c hc _ => hc⟩

lemma World.Mirrored.open_status (hw : w.Mirrored) (hop : w.operations.get o = some op)
    (ha : w.payments.get o.payment = some a) : a.resourceStatus o = some op.status := by
  have hmirror := hw o
  rw [hop, ha] at hmirror
  exact hmirror.symm

lemma ne_succeeded_of_open {s : OperationStatus} (h : s.terminal = false) :
    some s ≠ some OperationStatus.succeeded := by
  rintro ⟨⟩
  simp [OperationStatus.terminal] at h

lemma finalizeRecord_sameBinding (o : OperationId) (response : Bytes) (now : Time)
    (r : IdempotencyRecord) : r.SameBinding (finalizeRecord o response now r) := by
  rw [finalizeRecord]
  split <;> exact ⟨rfl, rfl⟩

lemma Change.evolves (h : Change cfg l held ms w w') (hw : w.Mirrored) : Evolves w w' := by
  have hrefl := Evolves.refl w
  cases h with
  | outside _ hnow => exact ⟨hnow, hrefl.2, hrefl.3, hrefl.4, hrefl.5, hrefl.6⟩
  | intent _ hnone _ _ =>
    refine ⟨le_rfl, ?_, hrefl.3, hrefl.4, hrefl.5, hrefl.6⟩
    rintro p' m c ⟨b, hb, hrest⟩
    refine ⟨b, ?_, hrest⟩
    rw [World.putPayment_payments, Table.get_put_ne, hb]
    rintro rfl
    simp [hnone] at hb
  | opened _ _ ha _ hopens _ =>
    exact ⟨le_rfl, captured_of_keeps ha rfl hopens.keepsCapture, hrefl.3, hrefl.4, hrefl.5, hrefl.6⟩
  | reviewed _ _ ha _ hop hopen =>
    have hstatus := hw.open_status hop ha
    refine ⟨le_rfl, captured_of_keeps ha rfl ?_, hrefl.3, hrefl.4, hrefl.5, hrefl.6⟩
    exact setResourceStatus_keepsCapture _ (hstatus ▸ ne_succeeded_of_open hopen)
  | @finalized o _ _ _ _ _ v amount _ _ _ _ ha _ hop hopen _ _ hres _ =>
    have hstatus := hw.open_status hop ha
    have hkeeps := hres.keepsCapture (hstatus ▸ ne_succeeded_of_open hopen)
    refine ⟨by simp, captured_of_keeps ha (by simp) hkeeps, by simp, by simp, by simp, fun d r hr => ?_⟩
    have hfinal := finalizeRecord_sameBinding o (terminalResponse o amount v) v.now r
    exact ⟨_, by simp [hr], hfinal⟩
  | expired _ ha _ _ =>
    exact ⟨le_rfl, captured_of_keeps ha rfl ⟨rfl, fun c hc _ => hc⟩, hrefl.3, hrefl.4, hrefl.5, hrefl.6⟩
  | settled =>
    exact ⟨le_rfl, hrefl.2, List.subset_append_left _ _, List.subset_append_left _ _, hrefl.5, hrefl.6⟩
  | payoutSucceeded =>
    exact ⟨le_rfl, hrefl.2, List.subset_append_left _ _, hrefl.4, hrefl.5, hrefl.6⟩
  | merchant _ _ _ =>
    refine ⟨hrefl.1, hrefl.2, hrefl.3, hrefl.4, fun m hm => ?_, hrefl.6⟩
    rw [World.putMerchant_merchants, Table.get_put]
    split
    · rfl
    · exact hm
  | record _ hnone _ =>
    refine ⟨hrefl.1, hrefl.2, hrefl.3, hrefl.4, hrefl.5, fun d r hr => ⟨r, ?_, rfl, rfl⟩⟩
    rw [World.putRecord_records, Table.get_put_ne, hr]
    rintro rfl
    simp [hnone] at hr
  | _ => exact ⟨hrefl.1, hrefl.2, hrefl.3, hrefl.4, hrefl.5, hrefl.6⟩

lemma Changes.mirrored (h : Changes cfg l held ms w w') (hw : w.Mirrored) : w'.Mirrored := by
  induction h with
  | refl => exact hw
  | tail _ hstep ih => exact hstep.mirrored ih

lemma Changes.keeps (h : Changes cfg l held ms w w') (hw : w.Mirrored) :
    Evolves w w' ∧ ∀ k, (k ∈ held → k.isCoverage = true) → (∀ m ∈ ms, k ≠ .coverage m) →
      Frame k w w' := by
  induction h with
  | refl => exact ⟨Evolves.refl w, fun k _ _ => Frame.refl k w⟩
  | tail hsteps hstep ih =>
    refine ⟨ih.1.trans (hstep.evolves (Changes.mirrored hsteps hw)), fun k hk hms => ?_⟩
    exact (ih.2 k hk hms).trans (hstep.frame hk hms)

end RelayPay
