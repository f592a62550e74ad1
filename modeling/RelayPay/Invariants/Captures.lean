import RelayPay.Invariants.Operations
import RelayPay.Specs.Completion

/-! When the split that was fixed at admission is posted. -/

namespace RelayPay

open ReadCommitted Txn

structure World.Equipped (w : World) : Prop where
  clearing : (⟨.providerClearing, none⟩ : Account) ∈ w.accounts
  merchants : ∀ m, (w.merchants.get m).isSome → ∀ code ∈ merchantTemplates,
    (⟨code, some m⟩ : Account) ∈ w.accounts

structure Capture.Split (c : Capture) : Prop where
  fee : 0 ≤ c.feeAmount
  gst : 0 ≤ c.gstAmount
  net : 0 ≤ c.netAmount
  priced : c.Priced

def PaymentIntent.SplitKept (a : PaymentIntent) : Prop := ∀ x, a.capture = some x → x.Split

structure World.Postable (w : World) : Prop where
  equipped : w.Equipped
  merchant : ∀ p a, w.payments.get p = some a → (w.merchants.get a.merchant).isSome
  split : ∀ p a, w.payments.get p = some a → a.SplitKept
  journals : ∀ j ∈ w.journals, ∀ p, j.id = .capture p → j.operation = some (.capture p)

namespace PaymentIntent

variable {a a' : PaymentIntent} {o : OperationId}

lemma SplitKept.of_capture (h : a.SplitKept) {x x' : Capture} (hx : a.capture = some x)
    (hx' : a'.capture = some x') (hamount : x'.amount = x.amount) (hfee : x'.feeAmount = x.feeAmount)
    (hgst : x'.gstAmount = x.gstAmount) : a'.SplitKept := by
  intro y hy
  rw [hx'] at hy
  cases hy
  have hsplit := h x hx
  have hnet : x'.netAmount = x.netAmount := by rw [Capture.netAmount, hamount, hfee, hgst, Capture.netAmount]
  refine ⟨hfee ▸ hsplit.fee, hgst ▸ hsplit.gst, hnet ▸ hsplit.net, ?_⟩
  rw [Capture.Priced, hamount, hfee, hgst, hnet]
  exact hsplit.priced

lemma Opens.splitKept {cfg : Service} (hopens : a.Opens cfg o a') (h : a.SplitKept) : a'.SplitKept := by
  cases hopens with
  | capture _ _ _ _ _ _ _ _ _ _ hfee hgst hnet hpriced =>
    rintro x ⟨⟩
    exact ⟨hfee, hgst, hnet, hpriced⟩
  | _ => exact h

lemma SplitKept.reviewed (h : a.SplitKept) (s : OperationStatus) : (a.setResourceStatus s o).SplitKept := by
  cases o with
  | capture p =>
    intro x' hx'
    obtain ⟨x, hx, rfl⟩ := Option.map_eq_some_iff.1 hx'
    exact h.of_capture hx hx' rfl rfl rfl _ hx'
  | refund p r =>
    simp only [setResourceStatus]
    split <;> exact h
  | _ => exact h

variable {posted : List (Journal × BalanceTransaction)} {ms : List MerchantId} {held : List Key} {actor : Actor}

lemma Resolves.splitKept {w : World}
    {v : Verdict} (hres : a.Resolves held ms w actor v o a' posted) (h : a.SplitKept) : a'.SplitKept := by
  cases hres with
  | captured _ hx => exact h.of_capture hx rfl rfl rfl rfl
  | captureDeclined _ hx => exact h.of_capture hx rfl rfl rfl rfl
  | refunded _ _ _ _ _ _ _ _ ha' =>
    subst ha'
    exact h
  | _ => exact h

lemma setResourceStatus_merchant (a : PaymentIntent) (s : OperationStatus) (o : OperationId) :
    (a.setResourceStatus s o).merchant = a.merchant := by
  cases o with
  | refund p r =>
    simp only [setResourceStatus]
    split <;> rfl
  | _ => rfl

lemma Opens.merchant {cfg : Service} (h : a.Opens cfg o a') : a'.merchant = a.merchant := by
  cases h <;> rfl

lemma Resolves.merchant {w : World}
    {v : Verdict} (h : a.Resolves held ms w actor v o a' posted) : a'.merchant = a.merchant := by
  cases h with
  | refunded _ _ _ _ _ _ _ _ ha' =>
    subst ha'
    rfl
  | _ => rfl

lemma Resolves.capture_journal {w : World}
    {v : Verdict} (h : a.Resolves held ms w actor v o a' posted) {e : Journal × BalanceTransaction} (he : e ∈ posted)
    {p : PaymentId} (hid : e.1.id = .capture p) : e.1.operation = some (.capture p) := by
  cases h with
  | captured _ _ hj =>
    rw [List.mem_singleton.1 he, hj] at hid ⊢
    cases hid
    rfl
  | refunded _ _ _ _ _ _ hj =>
    rw [List.mem_singleton.1 he, hj] at hid
    cases hid
  | _ => cases he

end PaymentIntent

namespace World.Postable

variable {w w' : World}

lemma put (h : w.Postable) {p : PaymentId} {a' : PaymentIntent}
    (hpayments : w'.payments = w.payments.put p a') (haccounts : w'.accounts = w.accounts)
    (hmerchants : w'.merchants = w.merchants) (hm : (w.merchants.get a'.merchant).isSome)
    (hsplit : a'.SplitKept) {js : List Journal} (hjournals : w'.journals = w.journals ++ js)
    (hjs : ∀ j ∈ js, ∀ p, j.id = .capture p → j.operation = some (.capture p)) : w'.Postable := by
  refine ⟨⟨haccounts ▸ h.equipped.clearing, ?_⟩, ?_, hpayments ▸ Table.forall_put h.split hsplit, fun j hj => ?_⟩
  · rw [haccounts, hmerchants]
    exact h.equipped.merchants
  · rw [hpayments, hmerchants]
    exact Table.forall_put h.merchant hm
  · rw [hjournals, List.mem_append] at hj
    exact hj.elim (h.journals j) (hjs j)

lemma post (h : w.Postable) (hpayments : w'.payments = w.payments) (haccounts : w'.accounts = w.accounts)
    (hmerchants : w'.merchants = w.merchants) {j : Journal} (hjournals : w'.journals = w.journals ++ [j])
    (hj : ∀ p, j.id ≠ .capture p) : w'.Postable := by
  refine ⟨⟨haccounts ▸ h.equipped.clearing, ?_⟩, ?_, ?_, fun j' hj' p hid => ?_⟩
  · rw [haccounts, hmerchants]
    exact h.equipped.merchants
  · rw [hpayments, hmerchants]
    exact h.merchant
  · rw [hpayments]
    exact h.split
  · rw [hjournals, List.mem_append, List.mem_singleton] at hj'
    rcases hj' with hold | rfl
    · exact h.journals j' hold p hid
    · exact absurd hid (hj p)

end World.Postable

lemma Change.postable {cfg : Service} {l : Local} {held : List Key} {ms : List MerchantId} {w w' : World}
    (h : Change cfg l held ms w w') (hw : w.Postable) : w'.Postable := by
  have hnil : ∀ j ∈ ([] : List Journal), ∀ p, j.id = .capture p → j.operation = some (.capture p) :=
    fun j hj => by cases hj
  cases h with
  | accounts hsub =>
    exact ⟨⟨hsub hw.equipped.clearing, fun m hm code hcode => hsub (hw.equipped.merchants m hm code hcode)⟩,
      hw.merchant, hw.split, hw.journals⟩
  | @merchant m M accounts _ hsub hrow =>
    have hold : ∀ m', (w.merchants.get m').isSome → ((w.putMerchant m M).merchants.get m').isSome := by
      intro m' hm'
      rw [World.putMerchant_merchants, Table.get_put]
      split
      · rfl
      · exact hm'
    refine ⟨⟨hsub hw.equipped.clearing, fun m' hm' code hcode => ?_⟩,
      fun p a ha => hold _ (hw.merchant p a ha), hw.split, hw.journals⟩
    by_cases hm : m' = m
    · subst hm
      rcases hrow with hsome | hnew
      · exact hsub (hw.equipped.merchants m' hsome code hcode)
      · exact hnew code hcode
    · rw [World.putMerchant_merchants, Table.get_put_ne _ _ hm] at hm'
      exact hsub (hw.equipped.merchants m' hm' code hcode)
  | intent _ _ _ hm =>
    exact hw.put rfl rfl rfl hm (fun x hx => by cases hx) (List.append_nil _).symm hnil
  | opened _ _ ha _ hopens _ =>
    exact hw.put rfl rfl rfl (hopens.merchant ▸ hw.merchant _ _ ha) (hopens.splitKept (hw.split _ _ ha))
      (List.append_nil _).symm hnil
  | @reviewed o _ a _ _ _ _ _ _ _ _ ha _ _ _ _ =>
    exact hw.put rfl rfl rfl (a.setResourceStatus_merchant _ o ▸ hw.merchant _ _ ha)
      ((hw.split _ _ ha).reviewed _) (List.append_nil _).symm hnil
  | @finalized o _ _ _ _ _ _ _ _ posted _ _ ha _ _ _ _ _ hres _ =>
    have hpayments : (posted.foldl World.post w).payments = w.payments := by simp
    refine hw.put (congrArg (Table.put · _ _) hpayments) (by simp) (by simp) (hres.merchant ▸ hw.merchant _ _ ha)
      (hres.splitKept (hw.split _ _ ha)) (show _ = w.journals ++ posted.map Prod.fst by simp) ?_
    intro j hj p hid
    obtain ⟨e, he, rfl⟩ := List.mem_map.1 hj
    exact hres.capture_journal he hid
  | @expired _ a _ ha _ _ =>
    have hm : (w.merchants.get a.merchant).isSome := hw.merchant _ a ha
    exact hw.put rfl rfl rfl hm (fun x hx => hw.split _ _ ha x hx)
      (List.append_nil _).symm hnil
  | settled _ _ _ _ _ _ _ _ hj _ => exact hw.post rfl rfl rfl rfl (by simp [hj])
  | payoutSucceeded _ _ _ _ _ _ _ _ _ _ _ hj _ _ => exact hw.post rfl rfl rfl rfl (by simp [hj])
  | _ => exact ⟨⟨hw.equipped.clearing, hw.equipped.merchants⟩, hw.merchant, hw.split, hw.journals⟩

lemma sideTotal_append (side : Side) (xs ys : List Posting) :
    sideTotal side (xs ++ ys) = sideTotal side xs + sideTotal side ys := by
  simp [sideTotal]

lemma sideTotal_singleton (side : Side) (e : Posting) :
    sideTotal side [e] = if e.side = side then e.amount else 0 := by
  by_cases hs : e.side = side <;> simp [sideTotal, hs]

lemma sideTotal_entry (side side' : Side) (amount : ℤ) (acct : Account) :
    sideTotal side (entry amount side' acct) = if side' = side then amount else 0 := by
  by_cases hz : amount = 0
  · simp [entry, sideTotal, hz]
  · by_cases hs : side' = side <;> simp [entry, sideTotal, hz, hs]

lemma entry_pos {amount : ℤ} {side : Side} {acct : Account} (h : 0 ≤ amount) {e : Posting}
    (he : e ∈ entry amount side acct) : 0 < e.amount := by
  by_cases hz : amount = 0
  · simp [entry, hz] at he
  · simp only [entry, hz, ne_eq, not_false_eq_true, if_true, List.mem_singleton] at he
    subst he
    change 0 < amount
    omega

def captureJournal (p : PaymentId) (m : MerchantId) (x : Capture) : Journal :=
  ⟨.capture p, m, some (.capture p), captureEntries m x⟩

def captureTransaction (p : PaymentId) (m : MerchantId) (x : Capture) : BalanceTransaction :=
  ⟨m, .capture p, .capture, x.netAmount, 0, 0, 0⟩

variable {p : PaymentId} {x : Capture}

lemma Capture.Split.accepted (h : x.Split) (hpos : 0 < x.amount)
    (m : MerchantId) {w : World} (hfresh : w.hasJournal (.capture p) = false) : (captureJournal p m x).Accepted w := by
  have hdebit : sideTotal .debit (captureEntries m x) = x.amount := by
    simp only [captureEntries, sideTotal_append, sideTotal_entry, sideTotal_singleton, reduceCtorEq, if_true,
      if_false, add_zero]
  have hcredit : sideTotal .credit (captureEntries m x) = x.amount := by
    simp only [captureEntries, sideTotal_append, sideTotal_entry, sideTotal_singleton, reduceCtorEq, if_true,
      if_false, Capture.netAmount]
    omega
  refine ⟨hdebit ▸ hpos, hdebit.trans hcredit.symm, fun e he => ?_, hfresh⟩
  simp only [captureJournal, captureEntries, List.mem_append, List.mem_singleton] at he
  rcases he with ((rfl | he) | he) | he
  · exact hpos
  · exact entry_pos h.net he
  · exact entry_pos h.fee he
  · exact entry_pos h.gst he

def World.postCapture (w : World) (p : PaymentId) (m : MerchantId) (x : Capture) : World :=
  ((w.charged x.feeAmount .platformFeeRevenue).charged x.gstAmount .gstPayable).post
    (captureJournal p m x, captureTransaction p m x)

lemma World.postCapture_journals (w : World) (p : PaymentId) (m : MerchantId) (x : Capture) :
    (w.postCapture p m x).journals = w.journals ++ [captureJournal p m x] := by
  rw [World.postCapture, World.charged_eq, World.charged_eq w]
  rfl

lemma World.postCapture_balanceTransactions (w : World) (p : PaymentId) (m : MerchantId) (x : Capture) :
    (w.postCapture p m x).balanceTransactions = w.balanceTransactions ++ [captureTransaction p m x] := by
  rw [World.postCapture, World.charged_eq, World.charged_eq w]
  rfl

variable {a : PaymentIntent}

lemma runs_postCaptureJournal {w : World} {q : List Deferred}
    {Q : JournalId → World → List Deferred → Prop} (ha : w.payments.get p = some a)
    (hclearing : (⟨.providerClearing, none⟩ : Account) ∈ w.accounts)
    (hpending : (⟨.pendingPayable, some a.merchant⟩ : Account) ∈ w.accounts) (hsplit : x.Split)
    (hpos : 0 < x.amount) (hfresh : w.hasJournal (.capture p) = false) :
    (postCaptureJournal p x.amount x.feeAmount x.gstAmount).Runs Q w q ↔ x.netAmount ≠ 0 ∧
      Q (.capture p) (w.postCapture p a.merchant x) (q ++ (captureJournal p a.merchant x).triggers) := by
  have hnonneg : ¬(x.feeAmount < 0 ∨ x.gstAmount < 0 ∨ x.amount - x.feeAmount - x.gstAmount < 0) := by
    have hnet := hsplit.net
    have hfee := hsplit.fee
    have hgst := hsplit.gst
    rw [Capture.netAmount] at hnet
    omega
  have hmoves : (captureTransaction p a.merchant x).Moves ↔ x.netAmount ≠ 0 := by
    simp [captureTransaction, BalanceTransaction.Moves]
  simp only [postCaptureJournal, runs_bind, runs_ensure, runs_query, ha, Option.map_some, runs_require,
    Option.some.injEq, exists_eq_left', runs_account, hclearing, true_and, runs_done]
  rw [and_iff_right hnonneg, runs_entryIf_account _ _ _ _ hpending, runs_entryIf_platformAccount,
    runs_entryIf_platformAccount]
  have hcharged : ((w.charged x.feeAmount .platformFeeRevenue).charged x.gstAmount .gstPayable).hasJournal
      (.capture p) = false := by
    rw [World.charged_eq, World.charged_eq w]
    exact hfresh
  refine (runs_postJournal (captureJournal p a.merchant x)).trans ?_
  rw [and_iff_right (hsplit.accepted hpos a.merchant hcharged)]
  exact (runs_addBalanceTransaction (captureTransaction p a.merchant x)).trans (and_congr_left' hmoves)

def PaymentIntent.afterCapture (a : PaymentIntent) (p : PaymentId) (x : Capture) (v : Verdict)
    (actor : Actor) : PaymentIntent :=
  PaymentIntent.moved { a with capture := some (v.capture (some (.capture p)) x) } .captured
    .captureSucceeded actor

lemma runs_finalizeResource_capture {w : World} {q : List Deferred}
    {v : Verdict} {actor : Actor} {Q : Unit → World → List Deferred → Prop}
    (hw : w.Postable) (ha : w.payments.get p = some a) (hx : a.capture = some x) (hpos : 0 < x.amount)
    (hv : v.succeeded = true) (hallowed : isAllowed a.status .captured = true)
    (hfresh : w.hasJournal (.capture p) = false) :
    (finalizeResource (.capture p) a v actor).Runs Q w q ↔ x.netAmount ≠ 0 ∧
      Q () ((w.postCapture p a.merchant x).putPayment p (a.afterCapture p x v actor))
        (q ++ (captureJournal p a.merchant x).triggers) := by
  have hpending : (⟨.pendingPayable, some a.merchant⟩ : Account) ∈ w.accounts :=
    hw.equipped.merchants _ (hw.merchant p a ha) _ (by simp [merchantTemplates])
  simp only [finalizeResource, finalizeCapture, hx, hv, if_true, runs_bind, runs_require, Option.some.injEq,
    exists_eq_left', runs_done, runs_modify]
  rw [runs_postCaptureJournal ha hw.equipped.clearing hpending (hw.split p a ha x hx) hpos hfresh,
    runs_transition (by simp), and_iff_right hallowed, World.putPayment_putPayment]
  rfl

lemma runs_coverage_of_free {w : World} {P : Unit → World → List Empty → Prop} {ds : List Deferred}
    (h : ∀ d ∈ ds, d.merchant = none) : (forEach validatePayoutCoverage ds).Runs P w [] ↔ P () w [] := by
  induction ds with
  | nil => rfl
  | cons d ds ih =>
    have hfree : validatePayoutCoverage d = done () := by
      have hd := h d (List.mem_cons_self ..)
      cases d with
      | reservation m => cases hd
      | posting acct side =>
        simp only [Deferred.merchant] at hd
        rw [validatePayoutCoverage]
        simp only [hd]
    rw [forEach, hfree, runs_bind, runs_done]
    exact ih fun d' hd' => h d' (List.mem_cons_of_mem _ hd')

lemma captureJournal_triggers_free (p : PaymentId) (m : MerchantId) (x : Capture) :
    ∀ d ∈ (captureJournal p m x).triggers, d.merchant = none := by
  intro d hd
  obtain ⟨e, he, rfl⟩ := List.mem_map.1 hd
  have hcredit : ∀ {amount : ℤ} {acct : Account}, e ∈ entry amount .credit acct → e.side ≠ .debit := by
    intro amount acct hmem
    rw [entry] at hmem
    split at hmem
    · rw [List.mem_singleton.1 hmem]
      exact Side.noConfusion
    · cases hmem
  simp only [captureJournal, captureEntries, List.mem_append, List.mem_singleton] at he
  rcases he with ((rfl | he) | he) | he
  · rfl
  all_goals simp [Deferred.merchant, hcredit he]

section Runs

variable {cfg : Service} {out : Outside} {w : World} {c : State}

lemma reach_postable (hw : w.Initial) (hset : w.Equipped) (h : Reach (relaypay cfg out) (.idle w) c) :
    c.shared.Postable := by
  refine reach_preserves (fun hchange hI => hchange.postable hI) hw.mirrored ⟨hset, ?_, ?_, ?_⟩ h
  · simp [hw.payments]
  · simp [hw.payments]
  · simp [hw.journals]

variable {op : ProviderOperation}

lemma World.Filed.fresh_capture (hw : w.Filed) (hpostable : w.Postable) (hop : w.operations.get (.capture p) = some op)
    (hopen : op.status.terminal = false) : w.hasJournal (.capture p) = false := by
  have hnone := hw.journals (.capture p)
  have hstatus := PaymentIntent.not_succeeded hopen
  simp only [hop, Option.map_some, Option.some.injEq, hstatus, and_false, if_false, List.length_eq_zero_iff] at hnone
  simp only [World.hasJournal, List.any_eq_false, decide_eq_true_eq]
  intro j hj hid
  have hmem : j ∈ w.journalsOf (.capture p) :=
    List.mem_filter.2 ⟨hj, by simp [hpostable.journals j hj p hid]⟩
  rw [hnone] at hmem
  cases hmem

lemma verdictOf_success {n : ℕ} {t : ProviderAttempt} (ht : op.attempt? n = some t)
    (hsigned : t.signatureValid = some true) (hsuccess : t.classification = some .verifiedSuccess)
    (now : Time) : verdictOf op n now = .ok (.verifiedSuccess, ⟨true, none, now⟩) := by
  simp [verdictOf, ht, hsigned, hsuccess, terminalClassification]

def finalization (o : OperationId) (evidence : ℕ) (actor : Actor) : Txn World Key Empty Error Unit :=
  (finalizeVerifiedAttempt o evidence actor).atCommit validatePayoutCoverage []

lemma finalization_capture
    {n : ℕ} {v : Verdict} {actor : Actor} {P : World → Prop} (hw : w.Postable)
    (ha : w.payments.get p = some a) (hx : a.capture = some x) (hpos : 0 < x.amount)
    (hallowed : isAllowed a.status .captured = true) (hfresh : w.hasJournal (.capture p) = false)
    (hop : w.operations.get (.capture p) = some op) (hopen : op.status.terminal = false)
    (hevents : op.events = []) (hverdict : verdictOf op n w.now = .ok (.verifiedSuccess, v)) (hv : v.succeeded = true) :
    (∃ w', (finalization (.capture p) n actor).exec w = .ok ((), w') ∧ P w') ↔
      x.netAmount ≠ 0 ∧ w.HomeOnly (.capture p) v ∧
      P (((w.postCapture p a.merchant x).putPayment p (a.afterCapture p x v actor)).announced
        (.capture p) op v x.amount n .verifiedSuccess actor) := by
  have hcommits := commits_iff (s := w) (P := fun _ w' => P w') validatePayoutCoverage
    (finalizeVerifiedAttempt (.capture p) n actor)
  have hresource : a.hasResource (.capture p) = true := by simp [PaymentIntent.hasResource, hx]
  have hamount : a.resourceAmount (.capture p) = some x.amount := by simp [PaymentIntent.resourceAmount, hx]
  rw [runs_finalizeVerifiedAttempt ha hop hresource hopen hverdict hamount,
    runs_finalizeResource_capture hw ha hx hpos hv hallowed hfresh, List.nil_append,
    runs_coverage_of_free (captureJournal_triggers_free p a.merchant x)] at hcommits
  have hhome : ((w.postCapture p a.merchant x).putPayment p (a.afterCapture p x v actor)).HomeOnly
      (.capture p) v ↔ w.HomeOnly (.capture p) v := by
    rw [World.postCapture, World.charged_eq, World.charged_eq w]
    rfl
  simp only [hevents, List.all_nil, implies_true, true_and, hhome] at hcommits
  rw [← hcommits]
  constructor
  · rintro ⟨w', hexec, hP⟩
    exact ⟨(), w', hexec, hP⟩
  · rintro ⟨⟨⟩, w', hexec, hP⟩
    exact ⟨w', hexec, hP⟩

/-- With verified success in hand, a capture is finalized in every state that is reached, unless fee and GST leave
nothing of it, or an endpoint elsewhere listens. -/
theorem capture_finalizes (hw : w.Initial) (hset : w.Equipped)
    (h : Reach (relaypay cfg out) (.idle w) c) {p : PaymentId} {op : ProviderOperation} {n : ℕ}
    {t : ProviderAttempt} (hop : c.shared.operations.get (.capture p) = some op)
    (hopen : op.status.terminal = false) (ht : op.attempt? n = some t)
    (hsigned : t.signatureValid = some true) (hsuccess : t.classification = some .verifiedSuccess) (actor : Actor) :
    ∃ a x, c.shared.payments.get p = some a ∧ a.capture = some x ∧ x.Priced ∧
      ((∃ w', (finalization (.capture p) n actor).exec c.shared = .ok ((), w')) ↔
        x.feeAmount + x.gstAmount < x.amount ∧
        ∀ e ∈ c.shared.listeners "payment.captured.v1" c.shared.now,
          e.2.environment = c.shared.environment) ∧
      ∀ w', (finalization (.capture p) n actor).exec c.shared = .ok ((), w') →
        (captureJournal p a.merchant x).Accepted c.shared ∧ (captureTransaction p a.merchant x).Moves ∧
        w'.journals = c.shared.journals ++ [captureJournal p a.merchant x] ∧
        w'.balanceTransactions = c.shared.balanceTransactions ++ [captureTransaction p a.merchant x] ∧
        (w'.operations.get (.capture p)).map ProviderOperation.status = some .succeeded := by
  obtain ⟨hmirrored, hfiled⟩ := reach_filed hw h
  obtain ⟨-, hsound⟩ := reach_paymentsSound hw h
  have hpostable := reach_postable hw hset h
  -- the payment and its capture
  have hmirror := hmirrored (.capture p)
  rw [hop, Option.map_some] at hmirror
  obtain ⟨a, ha, hstatus⟩ := Option.bind_eq_some_iff.1 hmirror.symm
  obtain ⟨x, hx, -⟩ := Option.map_eq_some_iff.1 hstatus
  have hsplit := hpostable.split p a ha x hx
  have hpos := ((hsound p a ha).shaped.capture x hx).1
  have hfresh := hfiled.fresh_capture hpostable hop hopen
  have hverdict := verdictOf_success ht hsigned hsuccess c.shared.now
  have hallowed : isAllowed a.status .captured = true :=
    (hsound p a ha).requested_allowed hstatus hopen ⟨true, none, c.shared.now⟩ rfl
  have hevents : op.events = [] := by
    have hlength := (hfiled.operations _ op hop).events
    simpa [PaymentIntent.not_succeeded hopen] using hlength
  have hhome : c.shared.HomeOnly (.capture p) ⟨true, none, c.shared.now⟩ ↔
      ∀ e ∈ c.shared.listeners "payment.captured.v1" c.shared.now,
        e.2.environment = c.shared.environment := by
    simp [World.HomeOnly, Verdict.announces, OperationId.eventType]
  have hnet : x.netAmount ≠ 0 ↔ x.feeAmount + x.gstAmount < x.amount := by
    have hnonneg := hsplit.net
    rw [Capture.netAmount] at hnonneg ⊢
    omega
  have hfinal : ∀ {P : World → Prop}, (∃ w', (finalization (.capture p) n actor).exec c.shared =
      .ok ((), w') ∧ P w') ↔ _ :=
    finalization_capture hpostable ha hx hpos hallowed hfresh hop hopen hevents hverdict rfl
  refine ⟨a, x, ha, hx, hsplit.priced, ?_, fun w' hexec => ?_⟩
  · have hcompletes := hfinal (P := fun _ => True)
    simpa only [and_true, hnet, hhome] using hcompletes
  · obtain ⟨hne, -, hw'⟩ := (hfinal (P := fun w₁ => w₁ = w')).1 ⟨w', hexec, rfl⟩
    subst hw'
    refine ⟨hsplit.accepted hpos a.merchant hfresh, .inl hne, ?_, ?_, ?_⟩
    · exact c.shared.postCapture_journals p a.merchant x
    · exact c.shared.postCapture_balanceTransactions p a.merchant x
    · simp [World.announced, ProviderOperation.finalized, Verdict.status]

end Runs

lemma shopWorld_equipped : shopWorld.Equipped := ⟨by decide, fun m hm => by simp [shopWorld] at hm⟩

def shopCaptured : List (Move Local Call Happening) := shopSale.take 21

def shopCapture (w : World) : Option ((Bool × Option Bool × Option Classification) × Bool × Bool) :=
  (w.operations.get (.capture 1)).bind fun op => (op.attempt? 1).bind fun t =>
    (w.payments.get 1).bind fun a => a.capture.map fun x =>
      ((op.status.terminal, t.signatureValid, t.classification),
        x.feeAmount + x.gstAmount < x.amount, w.endpointVersions.rows.isEmpty)

theorem capture_finalizes_shop :
    ∃ w', (finalization (.capture 1) 1 .request).exec (shopAfter shopCaptured).1 = .ok ((), w') ∧
      (w'.operations.get (.capture 1)).map ProviderOperation.status = some .succeeded := by
  have hresult : ((player shop shopRules).play shopCaptured (shopWorld, [])).bind (fun x => shopCapture x.1) =
      some ((false, some true, some .verifiedSuccess), true, true) := by decide +kernel
  obtain ⟨hreach, hcapture⟩ := shop_result hresult
  obtain ⟨op, hop, hcapture⟩ := Option.bind_eq_some_iff.1 hcapture
  obtain ⟨t, ht, hcapture⟩ := Option.bind_eq_some_iff.1 hcapture
  obtain ⟨a, ha, hcapture⟩ := Option.bind_eq_some_iff.1 hcapture
  obtain ⟨x, hx, hfound⟩ := Option.map_eq_some_iff.1 hcapture
  simp only [Prod.mk.injEq, decide_eq_true_eq, List.isEmpty_iff] at hfound
  obtain ⟨⟨hopen, hsigned, hsuccess⟩, hnet, hquiet⟩ := hfound
  obtain ⟨a', x', ha', hx', -, hiff, hrows⟩ := capture_finalizes shopWorld_initial shopWorld_equipped
    hreach hop hopen ht hsigned hsuccess .request
  obtain rfl : a = a' := Option.some.inj (ha.symm.trans ha')
  obtain rfl : x = x' := Option.some.inj (hx.symm.trans hx')
  obtain ⟨w', hw'⟩ := hiff.2 ⟨hnet, by simp [Config.resting, World.listeners, hquiet]⟩
  exact ⟨w', hw', (hrows w' hw').2.2.2.2⟩

def FeeScheduleTerms.accepted (t : FeeScheduleTerms) : Bool :=
  t.mdrBps ≤ 10000 && t.gstBps ≤ 10000 &&
    match t.minFeePaise, t.maxFeePaise with
    | some least, some most => least ≤ most
    | _, _ => true

def wholeFee : FeeScheduleTerms := ⟨10000, 0, 0, none, none⟩

def wholeFeeWorld : World := { shopWorld with feeSchedules := [⟨1, 1, 1, 0, wholeFee⟩] }

def refusedByDatabase {α : Type} : Except Error α → Bool
  | .error .integrity => true
  | _ => false

lemma refusedByDatabase_eq {α : Type} {r : Except Error α} (h : refusedByDatabase r = true) :
    r = .error .integrity := by
  unfold refusedByDatabase at h
  split at h
  · rfl
  · cases h

def wholeFeeCapture (w : World) : Option ((Bool × Option Bool × Option Classification) × ℤ × Bool × Bool) :=
  (w.operations.get (.capture 1)).bind fun op => (op.attempt? 1).bind fun t =>
    (w.payments.get 1).bind fun a => a.capture.map fun x =>
      ((op.status.terminal, t.signatureValid, t.classification), x.netAmount, w.endpointVersions.rows.isEmpty,
        refusedByDatabase ((finalization (.capture 1) 1 .request).exec w))

theorem capture_refused : wholeFee.accepted = true ∧
    ∃ (cfg : Service) (out : Outside) (w : World) (c : State), w.Initial ∧ w.Equipped ∧
      (∀ v ∈ w.feeSchedules, v.terms = wholeFee) ∧
      Reach (relaypay cfg out) (.idle w) c ∧ ∃ p a x op n t, c.shared.payments.get p = some a ∧
        a.capture = some x ∧ x.netAmount = 0 ∧ c.shared.operations.get (.capture p) = some op ∧
        op.status.terminal = false ∧ op.attempt? n = some t ∧ t.signatureValid = some true ∧
        t.classification = some .verifiedSuccess ∧ c.shared.endpointVersions.rows = [] ∧
        (finalization (.capture p) n .request).exec c.shared = .error .integrity := by
  have hresult : ((player shop shopRules).play shopCaptured (wholeFeeWorld, [])).bind
      (fun x => wholeFeeCapture x.1) =
        some ((false, some true, some .verifiedSuccess), 0, true, true) := by decide +kernel
  obtain ⟨hreach, hcapture⟩ := Player.final_result hresult
  obtain ⟨op, hop, hcapture⟩ := Option.bind_eq_some_iff.1 hcapture
  obtain ⟨t, ht, hcapture⟩ := Option.bind_eq_some_iff.1 hcapture
  obtain ⟨a, ha, hcapture⟩ := Option.bind_eq_some_iff.1 hcapture
  obtain ⟨x, hx, hfound⟩ := Option.map_eq_some_iff.1 hcapture
  simp only [Prod.mk.injEq, List.isEmpty_iff] at hfound
  obtain ⟨⟨hopen, hsigned, hsuccess⟩, hnet, hquiet, hrefused⟩ := hfound
  have hinitial : wholeFeeWorld.Initial := by constructor <;> rfl
  have hequipped : wholeFeeWorld.Equipped := ⟨shopWorld_equipped.clearing, shopWorld_equipped.merchants⟩
  exact ⟨by decide, shop, shopRules.outside, wholeFeeWorld, _, hinitial, hequipped, by simp [wholeFeeWorld],
    hreach, 1, a, x, op, 1, t, ha, hx, hnet, hop, hopen, ht, hsigned, hsuccess, hquiet, refusedByDatabase_eq hrefused⟩

end RelayPay
