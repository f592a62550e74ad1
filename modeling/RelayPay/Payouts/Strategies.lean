import RelayPay.Payouts.Locking
import RelayPay.Scenario

/-! One after another, the three ways to reserve a payout agree as long as the sums of the trigger fit. -/

namespace RelayPay.Locking

open ReadCommitted Txn

def accountMissing (code : AccountCode) : Error :=
  relayPay "LEDGER_ACCOUNT_MISSING" "Required INR ledger account is missing" 500 [("account_code", .str code.text)]

def balanceFault (w : World) (m : MerchantId) : Option Error :=
  let missing (code : AccountCode) : Option Error :=
    if ⟨code, some m⟩ ∈ w.accounts then none else some (accountMissing code)
  (missing .pendingPayable).or <| (missing .availablePayable).or <| (missing .merchantReceivable).or <|
    if 0 ≤ w.reserved m then none
    else some (.runtime "payout reservation history cannot derive a negative reservation")

def balances (w : World) (m : MerchantId) : MerchantBalances where
  pending := w.accountBalance ⟨.pendingPayable, some m⟩
  available := w.available m
  receivable := w.accountBalance ⟨.merchantReceivable, some m⟩
  reserved := w.reserved m
  payoutEligible := max (w.available m - w.reserved m) 0

def refusal (w : World) (r : ReserveRequest) : Option Error :=
  if ((w.beneficiaries.get r.beneficiary).filter Beneficiary.active).isNone then
    some (.relayPay (notFound "Beneficiary"))
  else if ((w.merchants.get r.merchant).filter Merchant.active).isNone then
    some (.relayPay (notFound "Merchant account"))
  else balanceFault w r.merchant

section Prefix

variable {w : World} {q : List Deferred} {α : Type}

lemma perform_account (code : AccountCode) (m : MerchantId) (f : Account → Tx α) :
    (account code (some m) >>= f).perform w q =
      if ⟨code, some m⟩ ∈ w.accounts then (f ⟨code, some m⟩).perform w q else .error (accountMissing code) := by
  by_cases h : (⟨code, some m⟩ : Account) ∈ w.accounts
  · rw [if_pos h]
    have haccount : (account code (some m)).perform w q = .ok (⟨code, some m⟩, w, q) := by
      simp [account, h]
    exact perform_bind_ok f haccount
  · rw [if_neg h]
    have haccount : (account code (some m)).perform w q = .error (accountMissing code) := by
      simp [account, h, accountMissing]
    exact perform_bind_error f haccount

lemma perform_reserved (m : MerchantId) (f : ℤ → Tx α) : (reservedPayoutAmount m >>= f).perform w q =
    if 0 ≤ w.reserved m then (f (w.reserved m)).perform w q
    else .error (.runtime "payout reservation history cannot derive a negative reservation") := by
  by_cases h : 0 ≤ w.reserved m
  · rw [if_pos h]
    have hreserved : (reservedPayoutAmount m).perform w q = .ok (w.reserved m, w, q) := by
      simp [reservedPayoutAmount, h]
    exact perform_bind_ok f hreserved
  · rw [if_neg h]
    have hreserved : (reservedPayoutAmount m).perform w q =
        .error (.runtime "payout reservation history cannot derive a negative reservation") := by
      simp [reservedPayoutAmount, h]
    exact perform_bind_error f hreserved

lemma perform_deriveBalances (m : MerchantId) : (deriveBalances m).perform w q =
    (balanceFault w m).elim (.ok (balances w m, w, q)) .error := by
  simp only [deriveBalances, perform_account, perform_query_bind, perform_reserved, perform_done, balanceFault]
  by_cases hpending : (⟨.pendingPayable, some m⟩ : Account) ∈ w.accounts
  · by_cases havailable : (⟨.availablePayable, some m⟩ : Account) ∈ w.accounts
    · by_cases hreceivable : (⟨.merchantReceivable, some m⟩ : Account) ∈ w.accounts
      · by_cases hreserved : 0 ≤ w.reserved m
        · have hcredit : w.accountBalance ⟨.availablePayable, some m⟩ = w.available m := rfl
          simp [hpending, havailable, hreceivable, hreserved, balances, hcredit]
        · simp [hpending, havailable, hreceivable, hreserved]
      · simp [hpending, havailable, hreceivable]
    · simp [hpending, havailable]
  · simp [hpending]

lemma perform_scopedMerchant (m : MerchantId) (lock : Bool) : (scopedMerchant m lock).perform w q =
    ((w.merchants.get m).filter Merchant.active).elim (.error (.relayPay (notFound "Merchant account")))
      fun M => .ok (M, w, q) := by
  cases lock <;> simp [scopedMerchant]

lemma perform_opening (r : ReserveRequest) (lock : Bool) (f : Merchant → MerchantBalances → Tx α) : ((do
      let beneficiary ← query fun w => w.beneficiaries.get r.beneficiary
      let _ ← require (beneficiary.filter Beneficiary.active) (.relayPay (notFound "Beneficiary"))
      let merchant ← scopedMerchant r.merchant lock
      let balances ← deriveBalances r.merchant
      f merchant balances) : Tx α).perform w q =
    (refusal w r).elim (((w.merchants.get r.merchant).filter Merchant.active).elim
      (.error (.relayPay (notFound "Merchant account"))) fun M => (f M (balances w r.merchant)).perform w q) .error := by
  simp only [perform_query_bind, perform_require_bind, refusal]
  cases (w.beneficiaries.get r.beneficiary).filter Beneficiary.active with
  | none => rfl
  | some b =>
    simp only [Option.elim, Option.isNone_some, Bool.false_eq_true, if_false]
    have hmerchant := perform_scopedMerchant (w := w) (q := q) r.merchant lock
    cases hM : (w.merchants.get r.merchant).filter Merchant.active with
    | none =>
      rw [hM] at hmerchant
      exact perform_bind_error _ hmerchant
    | some M =>
      rw [hM] at hmerchant
      refine (perform_bind_ok _ hmerchant).trans ?_
      have hbalances := perform_deriveBalances (w := w) (q := q) r.merchant
      simp only [Option.isNone_some, Bool.false_eq_true, if_false]
      cases hfault : balanceFault w r.merchant with
      | none =>
        rw [hfault] at hbalances
        exact perform_bind_ok _ hbalances
      | some e =>
        rw [hfault] at hbalances
        exact perform_bind_error _ hbalances

end Prefix

def holder (w : World) (r : ReserveRequest) : Option (PayoutId × Payout) :=
  w.payouts.rows.find? fun e => e.2.keyDigest = r.keyDigest

def inProgress : Error := relayPay "PAYOUT_IN_PROGRESS" "The payout command is still processing" 409 []

def replay (r : ReserveRequest) (P : Payout) : Except Error Reply :=
  if P.fingerprint = r.fingerprint then
    match P.responseHttpStatus, P.responseBytes with
    | some status, some body => .ok ⟨status, body, true⟩
    | _, _ => .error inProgress
  else .error keyReused

def placed (w : World) (r : ReserveRequest) (id : PayoutId) : World :=
  (w.putPayout id (r.command .rowLock id).row).stampAttempt (id, 1) w.now

def bumped (w : World) (m : MerchantId) (M : Merchant) : World :=
  w.putMerchant m { M with balanceVersion := M.balanceVersion + 1 }

def created (r : ReserveRequest) (id : PayoutId) : Reply :=
  ⟨202, payoutBody id (r.command .rowLock id).row 1, false⟩

def overdraws (w : World) (r : ReserveRequest) : Error :=
  relayPay "INSUFFICIENT_PAYOUT_BALANCE" "The payout exceeds the positive payout-eligible balance" 409
    [("payoutEligible", .int (balances w r.merchant).payoutEligible)]

section Transaction

variable {w : World} {q : List Deferred} {r : ReserveRequest} {guard : ReservationGuard} {id : PayoutId}

lemma perform_known {e : PayoutId × Payout} (h : holder w r = some e) :
    (createPayoutTransaction (r.command guard id)).perform w q = (replay r e.2).map fun reply => (reply, w, q) := by
  obtain ⟨q', P⟩ := e
  have hfind : (w.payouts.rows.find? fun e => e.2.keyDigest = (r.command guard id).keyDigest) = some (q', P) := h
  simp only [createPayoutTransaction, perform_query_bind, hfind, perform_ensure_bind, replay]
  by_cases hprint : P.fingerprint = r.fingerprint
  · have hprint' : P.fingerprint = (r.command guard id).fingerprint := hprint
    rw [if_pos hprint, if_pos hprint']
    cases P.responseHttpStatus with
    | none => rfl
    | some status =>
      cases P.responseBytes with
      | none => rfl
      | some body => rfl
  · have hprint' : ¬P.fingerprint = (r.command guard id).fingerprint := hprint
    rw [if_neg hprint, if_neg hprint']
    rfl

lemma perform_refused {e : Error} (hkey : holder w r = none) (h : refusal w r = some e) :
    (createPayoutTransaction (r.command guard id)).perform w q = .error e := by
  have hfind : (w.payouts.rows.find? fun e => e.2.keyDigest = (r.command guard id).keyDigest) = none := hkey
  simp only [createPayoutTransaction]
  rw [perform_query_bind, hfind]
  refine (perform_opening r (decide (guard = .rowLock)) _).trans ?_
  rw [h]
  rfl

lemma perform_advance {m : MerchantId} {M : Merchant} (hM : w.merchants.get m = some M) :
    (advanceBalanceVersion m M.balanceVersion).perform w q =
      if fitsBigint (M.balanceVersion + 1) = true then .ok ((), bumped w m M, q) else .error .database := by
  simp only [advanceBalanceVersion, perform_ensure_bind, perform_acquire_bind, perform_query_bind, hM]
  by_cases hfits : fitsBigint (M.balanceVersion + 1) = true
  · rw [if_pos hfits, if_pos hfits]
    rfl
  · rw [if_neg hfits, if_neg hfits]

lemma active_of_open {M : Merchant} (hopen : refusal w r = none) (hM : w.merchants.get r.merchant = some M) :
    (w.merchants.get r.merchant).filter Merchant.active = some M := by
  cases hfilter : (w.merchants.get r.merchant).filter Merchant.active with
  | some M' =>
    have hget := (Option.filter_eq_some_iff.1 hfilter).1
    rw [hM] at hget
    rw [Option.some.inj hget]
  | none =>
    rw [refusal, hfilter] at hopen
    split at hopen
    · cases hopen
    · cases hopen

lemma perform_priced (guard : ReservationGuard) {M : Merchant} (hkey : holder w r = none) (hopen : refusal w r = none)
    (hM : w.merchants.get r.merchant = some M) (hpos : 0 < r.amount) (hfresh : w.payouts.get id = none) :
    (createPayoutTransaction (r.command guard id)).perform w [] =
      if r.amount ≤ (balances w r.merchant).payoutEligible ∨ guard = .constraint then
        if fitsBigint r.amount = true then
          if guard = .version then
            if fitsBigint (M.balanceVersion + 1) = true then
              .ok (created r id, bumped (placed w r id) r.merchant M, [.reservation r.merchant])
            else .error .database
          else .ok (created r id, placed w r id, [.reservation r.merchant])
        else .error .database
      else .error (overdraws w r) := by
  have hfind : (w.payouts.rows.find? fun e => e.2.keyDigest = (r.command guard id).keyDigest) = none := hkey
  have hactive : (w.merchants.get r.merchant).filter Merchant.active = some M := active_of_open hopen hM
  have htaken : ((w.payouts.get id).isSome || w.payouts.rows.any fun e => e.2.keyDigest = r.keyDigest) = false := by
    rw [hfresh, Option.isSome_none, Bool.false_or, List.any_eq_false]
    exact List.find?_eq_none.1 hkey
  have hcheck : (¬(r.amount ≤ 0 ∨ (r.amount > (balances w r.merchant).payoutEligible ∧ guard ≠ .constraint))) ↔
      (r.amount ≤ (balances w r.merchant).payoutEligible ∨ guard = .constraint) := by
    rw [not_or, not_and_or, not_lt, not_not]
    exact and_iff_right (not_le.2 hpos)
  simp only [createPayoutTransaction]
  rw [perform_query_bind, hfind]
  refine (perform_opening r (decide (guard = .rowLock)) _).trans ?_
  rw [hopen, hactive]
  simp only [Option.elim]
  rw [perform_ensure_bind]
  refine if_congr hcheck ?_ rfl
  rw [perform_ensure_bind]
  refine if_congr Iff.rfl ?_ rfl
  rw [perform_acquire_bind, perform_acquire_bind, perform_query_bind, perform_ensure_bind]
  refine (if_pos htaken).trans ?_
  rw [perform_query_bind, perform_modify_bind, perform_enqueueAll_bind]
  cases guard with
  | version =>
    have hadvance := perform_advance (w := placed w r id) (q := [.reservation r.merchant]) hM
    rw [if_pos rfl]
    by_cases hfits : fitsBigint (M.balanceVersion + 1) = true
    · rw [if_pos hfits] at hadvance ⊢
      exact perform_bind_ok _ hadvance
    · rw [if_neg hfits] at hadvance ⊢
      exact perform_bind_error _ hadvance
  | rowLock => rfl
  | constraint => rfl

end Transaction

lemma exec_coverage (m : MerchantId) (w : World) : (forEach validatePayoutCoverage [.reservation m]).exec w =
    if fitsBigint (w.available m) = true then
      if fitsBigint (w.reserved m) = true then
        if w.reserved m ≤ w.available m then .ok ((), w) else .error .integrity
      else .error .database
    else .error .database := by
  rw [forEach, exec_bind]
  simp only [validatePayoutCoverage, exec_acquire_bind, exec_query_bind, exec_ensure_bind, exec_ensure]
  split
  · split
    · split
      · rfl
      · rfl
    · rfl
  · rfl

lemma placed_sums {w : World} {r : ReserveRequest} {id : PayoutId} (hfresh : w.payouts.get id = none) :
    (placed w r id).available r.merchant = w.available r.merchant ∧
      (placed w r id).reserved r.merchant = w.reserved r.merchant + r.amount := by
  refine ⟨rfl, ?_⟩
  have hrow : (if (r.command .rowLock id).row.merchant = r.merchant then (r.command .rowLock id).row.reserved else 0) =
      r.amount := by
    have hmerchant : (r.command .rowLock id).row.merchant = r.merchant := rfl
    rw [if_pos hmerchant]
    exact add_zero r.amount
  refine (Table.total_put_new (f := fun _ P => if P.merchant = r.merchant then P.reserved else 0)
    (r.command .rowLock id).row hfresh).trans ?_
  rw [hrow]
  rfl

def priced (guard : ReservationGuard) (M : Merchant) (w : World) (r : ReserveRequest) (id : PayoutId) :
    Except Raised (Reply × World) :=
  if r.amount ≤ (balances w r.merchant).payoutEligible ∨ guard = .constraint then
    if fitsBigint r.amount = true then
      if guard = .version ∧ fitsBigint (M.balanceVersion + 1) = false then .error (.statement .database)
      else if fitsBigint (w.available r.merchant) = true then
        if fitsBigint (w.reserved r.merchant + r.amount) = true then
          if w.reserved r.merchant + r.amount ≤ w.available r.merchant then
            .ok (created r id, if guard = .version then bumped (placed w r id) r.merchant M else placed w r id)
          else .error (.atCommit .integrity)
        else .error (.atCommit .database)
      else .error (.atCommit .database)
    else .error (.statement .database)
  else .error (.statement (overdraws w r))

section Commit

variable {w : World} {r : ReserveRequest} {guard : ReservationGuard} {ids : ℕ → PayoutId} {n : ℕ}

theorem exec_eq_transact {α : Type} (t : Tx α) (w : World) :
    (t.atCommit validatePayoutCoverage []).exec w = (transact t w).mapError Raised.error := by
  rw [perform_atCommit, transact]
  cases t.perform w [] with
  | error e => rfl
  | ok x =>
    obtain ⟨a, w', queue⟩ := x
    change ((forEach validatePayoutCoverage queue).exec w' >>= fun y => .ok (a, y.2)) = _
    simp only
    cases (forEach validatePayoutCoverage queue).exec w' with
    | error e => rfl
    | ok y => rfl

lemma transact_error {α : Type} {t : Tx α} {e : Error} (h : t.perform w [] = .error e) :
    transact t w = .error (.statement e) := by
  rw [transact, h]

lemma transact_ok {α : Type} {t : Tx α} {a : α} {w' : World} (h : t.perform w [] = .ok (a, w', [])) :
    transact t w = .ok (a, w') := by
  rw [transact, h]
  rfl

lemma transact_reserving {t : Tx Reply} {reply : Reply} {w' : World} {m : MerchantId}
    (h : t.perform w [] = .ok (reply, w', [.reservation m])) : transact t w =
      if fitsBigint (w'.available m) = true then
        if fitsBigint (w'.reserved m) = true then
          if w'.reserved m ≤ w'.available m then .ok (reply, w') else .error (.atCommit .integrity)
        else .error (.atCommit .database)
      else .error (.atCommit .database) := by
  rw [transact, h]
  simp only [exec_coverage]
  by_cases havailable : fitsBigint (w'.available m) = true
  · by_cases hreserved : fitsBigint (w'.reserved m) = true
    · by_cases hcovered : w'.reserved m ≤ w'.available m
      · simp only [havailable, hreserved, hcovered, if_true]
      · simp only [havailable, hreserved, hcovered, if_true, if_false]
    · simp only [havailable, hreserved, Bool.false_eq_true, if_true, if_false]
  · simp only [havailable, Bool.false_eq_true, if_false]

lemma transact_priced (guard : ReservationGuard) {M : Merchant} {id : PayoutId} (hkey : holder w r = none)
    (hopen : refusal w r = none) (hM : w.merchants.get r.merchant = some M) (hpos : 0 < r.amount) (hfresh : w.payouts.get id = none) :
    transact (createPayoutTransaction (r.command guard id)) w = priced guard M w r id := by
  have hperform := perform_priced guard hkey hopen hM hpos hfresh
  obtain ⟨havailable, hreserved⟩ := placed_sums (r := r) hfresh
  rw [priced]
  split at hperform
  · next hcheck =>
    rw [if_pos hcheck]
    split at hperform
    · next hamount =>
      rw [if_pos hamount]
      by_cases hguard : guard = .version
      · rw [if_pos hguard] at hperform
        simp only [hguard, true_and, if_true]
        split at hperform
        · next hversion =>
          rw [if_neg (by rw [hversion]; exact Bool.noConfusion)]
          have htransact := transact_reserving hperform
          have hsame : (bumped (placed w r id) r.merchant M).available r.merchant = w.available r.merchant ∧
              (bumped (placed w r id) r.merchant M).reserved r.merchant = w.reserved r.merchant + r.amount :=
            ⟨havailable, hreserved⟩
          rw [hsame.1, hsame.2] at htransact
          rw [← hguard]
          exact htransact
        · next hversion =>
          rw [if_pos (Bool.eq_false_iff.2 hversion), ← hguard]
          exact transact_error hperform
      · rw [if_neg hguard] at hperform
        have htransact := transact_reserving hperform
        rw [havailable, hreserved] at htransact
        simp only [hguard, false_and, if_false]
        exact htransact
    · next hamount =>
      rw [if_neg hamount]
      exact transact_error hperform
  · next hcheck =>
    rw [if_neg hcheck]
    exact transact_error hperform

lemma createPayout_ok {x : Reply × World} (h : transact (createPayoutTransaction (r.command guard (ids n))) w = .ok x) :
    createPayout r guard ids n w = .ok x := by
  rw [createPayout, h]

lemma createPayout_error {x : Raised} (h : transact (createPayoutTransaction (r.command guard (ids n))) w = .error x)
    (hagain : transact (createPayoutTransaction (r.command guard (ids (n + 1)))) w = .error x) :
    createPayout r guard ids n w = .error x := by
  rw [createPayout, h]
  simp only [hagain, ite_self]

lemma priced_error {M : Merchant} {id id' : PayoutId} {x : Raised} (h : priced guard M w r id = .error x) :
    priced guard M w r id' = .error x := by
  rw [priced] at h ⊢
  split_ifs at h ⊢ <;> exact h

def freshIds (w : World) (ids : ℕ → PayoutId) : Bool :=
  (w.payouts.get (ids 0)).isNone && (w.payouts.get (ids 1)).isNone

lemma createPayout_priced {M : Merchant} (hkey : holder w r = none) (hopen : refusal w r = none)
    (hM : w.merchants.get r.merchant = some M) (hpos : 0 < r.amount) (hfresh : freshIds w ids = true) :
    createPayout r guard ids 0 w = priced guard M w r (ids 0) := by
  obtain ⟨hfirst, hsecond⟩ := Bool.and_eq_true_iff.1 hfresh
  have htransact := transact_priced guard hkey hopen hM hpos (Option.isNone_iff_eq_none.1 hfirst)
  have hagain := transact_priced guard hkey hopen hM hpos (Option.isNone_iff_eq_none.1 hsecond)
  cases hpriced : priced guard M w r (ids 0) with
  | ok x => exact createPayout_ok (htransact.trans hpriced)
  | error x => exact createPayout_error (htransact.trans hpriced) (hagain.trans (priced_error hpriced))

end Commit

inductive Verdict where
  | replayed (reply : Reply)
  | refused (e : Error)
  | insufficient
  | reserved

def Verdict.ofReplay : Except Error Reply → Verdict
  | .ok reply => .replayed reply
  | .error e => .refused e

def verdict (w : World) (r : ReserveRequest) : Verdict :=
  match holder w r with
  | some e => .ofReplay (replay r e.2)
  | none =>
    match refusal w r with
    | some e => .refused e
    | none =>
      if r.amount ≤ (balances w r.merchant).payoutEligible then
        if fitsBigint r.amount = true ∧ fitsBigint (w.available r.merchant) = true then .reserved
        else .refused .database
      else .insufficient

def numbersFit (w : World) (r : ReserveRequest) : Bool :=
  match verdict w r with
  | .insufficient => fitsBigint (w.available r.merchant) && fitsBigint (w.reserved r.merchant + r.amount)
  | .reserved => (w.merchants.get r.merchant).all fun M => fitsBigint (M.balanceVersion + 1)
  | _ => true

def answer (loads : Bytes → Option Json) (r : ReserveRequest) (ids : ℕ → PayoutId) (w : World) :
    Except ReserveError ReserveOutcome × World :=
  if publicIdsKnown r w then
    match verdict w r with
    | .replayed reply => (outcome loads reply 1 w, w)
    | .refused e => (.error (.raised e), w)
    | .insufficient => (.ok ⟨.insufficient, none, 1⟩, w)
    | .reserved => (outcome loads (created r (ids 0)) 1 (placed w r (ids 0)), placed w r (ids 0))
  else (.error (.lookup "environment, merchant account or beneficiary not found"), w)

section Verdicts

variable {w : World} {r : ReserveRequest} {guard : ReservationGuard} {ids : ℕ → PayoutId} {n : ℕ}

lemma verdict_cases (w : World) (r : ReserveRequest) :
    (∃ e, holder w r = some e ∧ verdict w r = .ofReplay (replay r e.2)) ∨
    (holder w r = none ∧ ∃ e, refusal w r = some e ∧ verdict w r = .refused e) ∨
    (holder w r = none ∧ refusal w r = none ∧ verdict w r =
      if r.amount ≤ (balances w r.merchant).payoutEligible then
        if fitsBigint r.amount = true ∧ fitsBigint (w.available r.merchant) = true then .reserved
        else .refused .database
      else .insufficient) := by
  cases hkey : holder w r with
  | some e => exact .inl ⟨e, rfl, by rw [verdict, hkey]⟩
  | none =>
    cases hopen : refusal w r with
    | some e => exact .inr (.inl ⟨rfl, e, rfl, by rw [verdict, hkey, hopen]⟩)
    | none => exact .inr (.inr ⟨rfl, rfl, by rw [verdict, hkey, hopen]⟩)

lemma fitsBigint_iff {n : ℤ} : fitsBigint n = true ↔ -2 ^ 63 ≤ n ∧ n < 2 ^ 63 := by
  rw [fitsBigint, Bool.and_eq_true, decide_eq_true_iff, decide_eq_true_iff]

lemma reserved_nonneg_of_open (h : refusal w r = none) : 0 ≤ w.reserved r.merchant := by
  by_contra hneg
  rw [refusal] at h
  split at h
  · cases h
  · split at h
    · cases h
    · rw [balanceFault, if_neg hneg] at h
      simp only [Option.or_eq_none_iff, reduceCtorEq, and_false] at h

lemma exists_merchant_of_open (h : refusal w r = none) : ∃ M, w.merchants.get r.merchant = some M := by
  cases hM : w.merchants.get r.merchant with
  | some M => exact ⟨M, rfl⟩
  | none =>
    rw [refusal, hM] at h
    split at h
    · cases h
    · cases h

def Plain (e : Error) : Prop := staleBalanceVersion e = false ∧ insufficientBalance e = false

lemma replay_plain {P : Payout} {e : Error} (h : replay r P = .error e) : Plain e := by
  rw [replay] at h
  split at h
  · split at h
    · cases h
    · cases h
      exact ⟨rfl, by decide⟩
  · cases h
    exact ⟨rfl, by decide⟩

lemma refusal_plain {e : Error} (h : refusal w r = some e) : Plain e := by
  have hmissing : ∀ code, Plain (accountMissing code) := fun code => ⟨rfl, by cases code <;> decide⟩
  rw [refusal] at h
  split at h
  · cases h
    exact ⟨rfl, by decide⟩
  · split at h
    · cases h
      exact ⟨rfl, by decide⟩
    · simp only [balanceFault, Option.or_eq_some_iff, Option.ite_none_left_eq_some, Option.some.injEq] at h
      rcases h with ⟨-, rfl⟩ | ⟨-, ⟨-, rfl⟩ | ⟨-, ⟨-, rfl⟩ | ⟨-, ⟨-, rfl⟩⟩⟩⟩
      · exact hmissing _
      · exact hmissing _
      · exact hmissing _
      · exact ⟨rfl, rfl⟩

end Verdicts

def Reserver.tries : Reserver → Bool
  | optimistic 0 => false
  | _ => true

section Reservers

variable {a : Reserver} {create : ℕ → Except Raised (Reply × World)}

lemma execute_ok {x : Reply × World} (ha : a.tries = true) (h : create 0 = .ok x) :
    a.execute create = .ok (some x, 1) := by
  cases a with
  | pessimistic => rw [Reserver.execute, h]
  | constraintGuard => rw [Reserver.execute, h]
  | optimistic k =>
    cases k with
    | zero => cases ha
    | succ k => simp only [Reserver.execute, retrying, Nat.sub_self, Nat.mul_zero, h]

lemma execute_raised {x : Raised} (ha : a.tries = true) (h : create 0 = .error x) (hplain : Plain x.error)
    (hcheck : x.checkViolation = false) : a.execute create = .error (.raised x.error) := by
  cases a with
  | pessimistic => simp only [Reserver.execute, h, hplain.2, Bool.false_eq_true, if_false]
  | constraintGuard => simp only [Reserver.execute, h, hplain.2, hcheck, Bool.false_eq_true, if_false, ite_self]
  | optimistic k =>
    cases k with
    | zero => cases ha
    | succ k =>
      simp only [Reserver.execute, retrying, Nat.sub_self, Nat.mul_zero, h, hplain.1, hplain.2, Bool.false_eq_true,
        if_false]

lemma execute_insufficient {e : Error} (ha : a.tries = true) (h : create 0 = .error (.statement e))
    (he : insufficientBalance e = true) : a.execute create = .ok (none, 1) := by
  cases e with
  | relayPay e =>
    cases a with
    | pessimistic => simp only [Reserver.execute, h, Raised.error, he, if_true]
    | constraintGuard =>
      simp only [Reserver.execute, h, Raised.error, he, integrityError, Bool.false_eq_true, if_false, if_true]
    | optimistic k =>
      cases k with
      | zero => cases ha
      | succ k =>
        simp only [Reserver.execute, retrying, Nat.sub_self, Nat.mul_zero, h, Raised.error, staleBalanceVersion, he,
          Bool.false_eq_true, if_false, if_true]
  | _ => cases he

end Reservers

section Request

variable {w : World} {r : ReserveRequest} {guard : ReservationGuard} {ids : ℕ → PayoutId} {n : ℕ}

lemma createPayout_replayed {e : PayoutId × Payout} {reply : Reply} (hkey : holder w r = some e)
    (hreplay : replay r e.2 = .ok reply) : createPayout r guard ids n w = .ok (reply, w) := by
  apply createPayout_ok
  apply transact_ok
  rw [perform_known hkey, hreplay]
  rfl

lemma createPayout_conflict {e : PayoutId × Payout} {e' : Error} (hkey : holder w r = some e)
    (hreplay : replay r e.2 = .error e') : createPayout r guard ids n w = .error (.statement e') := by
  have htransact : ∀ id, transact (createPayoutTransaction (r.command guard id)) w = .error (.statement e') := by
    intro id
    apply transact_error
    rw [perform_known hkey, hreplay]
    rfl
  exact createPayout_error (htransact _) (htransact _)

lemma createPayout_refused {e : Error} (hkey : holder w r = none) (h : refusal w r = some e) :
    createPayout r guard ids n w = .error (.statement e) :=
  createPayout_error (transact_error (perform_refused hkey h)) (transact_error (perform_refused hkey h))

lemma priced_covered {M : Merchant} {id : PayoutId} (hle : r.amount ≤ (balances w r.merchant).payoutEligible)
    (hpos : 0 < r.amount) (hreserved : 0 ≤ w.reserved r.merchant) : priced guard M w r id =
      if fitsBigint r.amount = true then
        if guard = .version ∧ fitsBigint (M.balanceVersion + 1) = false then .error (.statement .database)
        else if fitsBigint (w.available r.merchant) = true then
          .ok (created r id, if guard = .version then bumped (placed w r id) r.merchant M else placed w r id)
        else .error (.atCommit .database)
      else .error (.statement .database) := by
  have hcovered : w.reserved r.merchant + r.amount ≤ w.available r.merchant := by
    rcases le_max_iff.1 hle with h | h
    · omega
    · exact absurd h (not_le.2 hpos)
  rw [priced, if_pos (.inl hle), if_pos hcovered]
  by_cases havailable : fitsBigint (w.available r.merchant) = true
  · have hsum : fitsBigint (w.reserved r.merchant + r.amount) = true := by
      rw [fitsBigint_iff] at havailable ⊢
      omega
    rw [if_pos hsum]
  · simp only [havailable, Bool.false_eq_true, if_false]

lemma priced_overdrawn {M : Merchant} {id : PayoutId} (hlt : (balances w r.merchant).payoutEligible < r.amount) :
    priced guard M w r id =
      if guard = .constraint then
        if fitsBigint r.amount = true ∧ fitsBigint (w.available r.merchant) = true ∧
            fitsBigint (w.reserved r.merchant + r.amount) = true then .error (.atCommit .integrity)
        else if fitsBigint r.amount = true then .error (.atCommit .database)
        else .error (.statement .database)
      else .error (.statement (overdraws w r)) := by
  have huncovered : ¬w.reserved r.merchant + r.amount ≤ w.available r.merchant := by
    have hfree : w.available r.merchant - w.reserved r.merchant ≤ (balances w r.merchant).payoutEligible :=
      le_max_left _ _
    omega
  rw [priced, if_neg huncovered]
  cases guard with
  | constraint =>
    rw [if_pos (.inr rfl), if_pos rfl]
    by_cases hamount : fitsBigint r.amount = true
    · by_cases havailable : fitsBigint (w.available r.merchant) = true
      · by_cases hsum : fitsBigint (w.reserved r.merchant + r.amount) = true
        · simp [hamount, havailable, hsum]
        · simp [hamount, havailable, hsum]
      · simp [hamount, havailable]
    · simp [hamount]
  | rowLock => simp [not_le.2 hlt]
  | version => simp [not_le.2 hlt]

def finish (loads : Bytes → Option Json) (w : World) : Execution → Except ReserveError ReserveOutcome × World
  | .error e => (.error e, w)
  | .ok (none, attempts) => (.ok ⟨.insufficient, none, attempts⟩, w)
  | .ok (some (reply, w'), attempts) => (outcome loads reply attempts w', w')

lemma reserve_eq (loads : Bytes → Option Json) (a : Reserver) : reserve loads a r ids w =
    if publicIdsKnown r w then finish loads w (a.execute fun n => createPayout r a.guard ids n w)
    else (.error (.lookup "environment, merchant account or beneficiary not found"), w) := by
  rw [reserve]
  cases a.execute fun n => createPayout r a.guard ids n w with
  | error e => rfl
  | ok x =>
    obtain ⟨result, attempts⟩ := x
    cases result with
    | none => rfl
    | some x => rfl

end Request

structure Level (w w' : World) : Prop where
  rest : w = { w' with merchants := w.merchants }
  merchants : ∀ m, (w.merchants.get m).map (fun M => (M.isDefault, M.active)) =
    (w'.merchants.get m).map fun M => (M.isDefault, M.active)

namespace Level

variable {w w' w'' : World}

lemma refl (w : World) : Level w w := ⟨rfl, fun _ => rfl⟩

lemma symm (h : Level w w') : Level w' w := by
  refine ⟨?_, fun m => (h.merchants m).symm⟩
  rw [h.rest]

lemma trans (h : Level w w') (h' : Level w' w'') : Level w w'' := by
  refine ⟨?_, fun m => (h.merchants m).trans (h'.merchants m)⟩
  rw [h.rest, h'.rest]

lemma bumped {m : MerchantId} {M : Merchant} (hM : w.merchants.get m = some M) : Level (bumped w m M) w := by
  refine ⟨rfl, fun m' => ?_⟩
  have hget : (Locking.bumped w m M).merchants.get m' =
      if m' = m then some { M with balanceVersion := M.balanceVersion + 1 } else w.merchants.get m' :=
    Table.get_put _ _ _ _
  rw [hget]
  split
  · next hm =>
    rw [hm, hM]
    rfl
  · rfl

lemma active (h : Level w w') (m : MerchantId) :
    ((w.merchants.get m).filter Merchant.active).isNone = ((w'.merchants.get m).filter Merchant.active).isNone := by
  have hm := h.merchants m
  cases hw : w.merchants.get m with
  | none =>
    rw [hw] at hm
    rw [Option.map_eq_none_iff.1 hm.symm]
  | some M =>
    rw [hw] at hm
    obtain ⟨M', hM', heq⟩ := Option.map_eq_some_iff.1 hm.symm
    have hactive : M'.active = M.active := congrArg Prod.snd heq
    rw [hM', Option.filter_some, Option.filter_some, hactive]
    cases M.active <;> rfl

lemma known (h : Level w w') (r : ReserveRequest) : publicIdsKnown r w = publicIdsKnown r w' := by
  have hmerchant : (w.merchants.get r.merchant).isSome = (w'.merchants.get r.merchant).isSome := by
    have hm := congrArg Option.isSome (h.merchants r.merchant)
    rwa [Option.isSome_map, Option.isSome_map] at hm
  have hbeneficiaries : w.beneficiaries = w'.beneficiaries := by rw [h.rest]
  rw [publicIdsKnown, publicIdsKnown, hmerchant, hbeneficiaries]

lemma refusal (h : Level w w') (r : ReserveRequest) : refusal w r = refusal w' r := by
  have hbeneficiaries : w.beneficiaries = w'.beneficiaries := by rw [h.rest]
  have hfault : balanceFault w r.merchant = balanceFault w' r.merchant := by
    rw [h.rest]
    rfl
  rw [Locking.refusal, Locking.refusal, h.active, hbeneficiaries, hfault]

lemma verdict (h : Level w w') (r : ReserveRequest) : verdict w r = verdict w' r := by
  have hholder : holder w r = holder w' r := by
    rw [h.rest]
    rfl
  have hbalances : balances w r.merchant = balances w' r.merchant := by
    rw [h.rest]
    rfl
  have havailable : w.available r.merchant = w'.available r.merchant := by
    rw [h.rest]
    rfl
  rw [Locking.verdict, Locking.verdict, hholder, h.refusal, hbalances, havailable]

lemma placed (h : Level w w') (r : ReserveRequest) (id : PayoutId) : Level (placed w r id) (placed w' r id) := by
  refine ⟨?_, h.merchants⟩
  rw [h.rest]
  rfl

lemma outcome (h : Level w w') (loads : Bytes → Option Json) (reply : Reply) (attempts : ℕ) :
    outcome loads reply attempts w = outcome loads reply attempts w' := by
  rw [h.rest]
  rfl

lemma answer (h : Level w w') (loads : Bytes → Option Json) (r : ReserveRequest) (ids : ℕ → PayoutId) :
    (answer loads r ids w).1 = (answer loads r ids w').1 ∧
      Level (answer loads r ids w).2 (answer loads r ids w').2 := by
  rw [Locking.answer, Locking.answer, h.known r, h.verdict r]
  split
  · cases Locking.verdict w' r with
    | replayed reply => exact ⟨h.outcome loads reply 1, h⟩
    | refused e => exact ⟨rfl, h⟩
    | insufficient => exact ⟨rfl, h⟩
    | reserved => exact ⟨(h.placed r (ids 0)).outcome loads _ 1, h.placed r (ids 0)⟩
  · exact ⟨rfl, h⟩

end Level

section Agreement

variable {w : World} {r : ReserveRequest} {ids : ℕ → PayoutId} {a : Reserver}
  {create : ℕ → Except Raised (Reply × World)}

lemma execute_checkViolation
    (h : create 0 = .error (.atCommit .integrity)) : Reserver.constraintGuard.execute create = .ok (none, 1) := by
  rw [Reserver.execute, h]
  rfl

lemma fits_amount (hpos : 0 < r.amount) (hopen : refusal w r = none)
    (h : fitsBigint (w.reserved r.merchant + r.amount) = true) : fitsBigint r.amount = true := by
  have hreserved := reserved_nonneg_of_open hopen
  rw [fitsBigint_iff] at h ⊢
  omega

lemma execute_covered {M : Merchant} (ha : a.tries = true) (hcreate : create 0 = priced a.guard M w r (ids 0))
    (hle : r.amount ≤ (balances w r.merchant).payoutEligible) (hpos : 0 < r.amount)
    (hopen : refusal w r = none) (hnumbers : fitsBigint r.amount = true ∧ fitsBigint (w.available r.merchant) = true)
    (hversion : fitsBigint (M.balanceVersion + 1) = true) : a.execute create = .ok (some (created r (ids 0),
      if a.guard = .version then bumped (placed w r (ids 0)) r.merchant M else placed w r (ids 0)), 1) := by
  apply execute_ok ha
  have hfits : ¬(a.guard = .version ∧ fitsBigint (M.balanceVersion + 1) = false) := by
    rintro ⟨-, hlarge⟩
    rw [hversion] at hlarge
    cases hlarge
  rw [hcreate, priced_covered hle hpos (reserved_nonneg_of_open hopen), if_pos hnumbers.1, if_neg hfits,
    if_pos hnumbers.2]

lemma execute_unfit {M : Merchant} (ha : a.tries = true) (hcreate : create 0 = priced a.guard M w r (ids 0))
    (hle : r.amount ≤ (balances w r.merchant).payoutEligible) (hpos : 0 < r.amount) (hopen : refusal w r = none)
    (hnumbers : ¬(fitsBigint r.amount = true ∧ fitsBigint (w.available r.merchant) = true)) :
    a.execute create = .error (.raised .database) := by
  obtain ⟨x, hx, herror, hcheck⟩ : ∃ x : Raised, create 0 = .error x ∧ x.error = .database ∧
      x.checkViolation = false := by
    rw [hcreate, priced_covered hle hpos (reserved_nonneg_of_open hopen)]
    split
    · next hamount =>
      split
      · exact ⟨_, rfl, rfl, rfl⟩
      · rw [if_neg fun havailable => hnumbers ⟨hamount, havailable⟩]
        exact ⟨_, rfl, rfl, rfl⟩
    · exact ⟨_, rfl, rfl, rfl⟩
  rw [execute_raised ha hx (by rw [herror]; exact ⟨rfl, rfl⟩) hcheck, herror]

lemma execute_overdrawn {M : Merchant} (ha : a.tries = true) (hcreate : create 0 = priced a.guard M w r (ids 0))
    (hlt : (balances w r.merchant).payoutEligible < r.amount) (hpos : 0 < r.amount) (hopen : refusal w r = none)
    (havailable : fitsBigint (w.available r.merchant) = true)
    (hsum : fitsBigint (w.reserved r.merchant + r.amount) = true) : a.execute create = .ok (none, 1) := by
  rw [priced_overdrawn hlt] at hcreate
  by_cases hguard : a.guard = .constraint
  · rw [if_pos hguard, if_pos ⟨fits_amount hpos hopen hsum, havailable, hsum⟩] at hcreate
    cases a with
    | constraintGuard => exact execute_checkViolation hcreate
    | _ => cases hguard
  · rw [if_neg hguard] at hcreate
    exact execute_insufficient ha hcreate (by rfl)

theorem reserve_answer (loads : Bytes → Option Json) (ha : a.tries = true) (hpos : 0 < r.amount)
    (hfresh : freshIds w ids = true) (hfits : numbersFit w r = true) : (reserve loads a r ids w).1 = (answer loads r ids w).1 ∧
      Level (reserve loads a r ids w).2 (answer loads r ids w).2 := by
  rw [reserve_eq, answer]
  split
  case isFalse => exact ⟨rfl, .refl w⟩
  rcases verdict_cases w r with ⟨e, hkey, hverdict⟩ | ⟨hkey, e, hopen, hverdict⟩ | ⟨hkey, hopen, hverdict⟩
  · cases hreplay : replay r e.2 with
    | ok reply =>
      rw [hreplay] at hverdict
      rw [hverdict, execute_ok ha (createPayout_replayed hkey hreplay)]
      exact ⟨rfl, .refl w⟩
    | error e' =>
      rw [hreplay] at hverdict
      rw [hverdict, execute_raised ha (createPayout_conflict hkey hreplay) (replay_plain hreplay) rfl]
      exact ⟨rfl, .refl w⟩
  · rw [hverdict, execute_raised ha (createPayout_refused hkey hopen) (refusal_plain hopen) rfl]
    exact ⟨rfl, .refl w⟩
  -- the amount is looked at, by the code or by the trigger
  obtain ⟨M, hM⟩ := exists_merchant_of_open hopen
  have hcreate : createPayout r a.guard ids 0 w = priced a.guard M w r (ids 0) :=
    createPayout_priced hkey hopen hM hpos hfresh
  by_cases hle : r.amount ≤ (balances w r.merchant).payoutEligible
  · rw [if_pos hle] at hverdict
    by_cases hnumbers : fitsBigint r.amount = true ∧ fitsBigint (w.available r.merchant) = true
    · rw [if_pos hnumbers] at hverdict
      rw [numbersFit, hverdict, hM, Option.all_some] at hfits
      rw [hverdict, execute_covered ha hcreate hle hpos hopen hnumbers hfits]
      have hlevel : Level (if a.guard = .version then bumped (placed w r (ids 0)) r.merchant M
          else placed w r (ids 0)) (placed w r (ids 0)) := by
        split
        · exact .bumped hM
        · exact .refl _
      exact ⟨hlevel.outcome loads _ 1, hlevel⟩
    · rw [if_neg hnumbers] at hverdict
      rw [hverdict, execute_unfit ha hcreate hle hpos hopen hnumbers]
      exact ⟨rfl, .refl w⟩
  · rw [if_neg hle] at hverdict
    rw [numbersFit, hverdict, Bool.and_eq_true] at hfits
    rw [hverdict, execute_overdrawn ha hcreate (not_le.1 hle) hpos hopen hfits.1 hfits.2]
    exact ⟨rfl, .refl w⟩

lemma known_of_open (h : refusal w r = none) : publicIdsKnown r w = true := by
  obtain ⟨M, hM⟩ := exists_merchant_of_open h
  cases hb : w.beneficiaries.get r.beneficiary with
  | some b => rw [publicIdsKnown, hM, hb, Option.isSome_some, Option.isSome_some, Bool.and_self]
  | none =>
    rw [refusal, hb] at h
    cases h

lemma outcome_ne_raised (loads : Bytes → Option Json) (reply : Reply) (attempts : ℕ) (w : World) (e : Error) :
    outcome loads reply attempts w ≠ .error (.raised e) := by
  rw [outcome]
  split
  · split
    · rintro ⟨⟩
    · rintro ⟨⟩
  · rintro ⟨⟩

theorem reserve_disagrees (loads : Bytes → Option Json) (hpos : 0 < r.amount) (hfresh : freshIds w ids = true)
    (hunfit : numbersFit w r = false) :
    ∃ b : Reserver, b.tries = true ∧ (reserve loads b r ids w).1 ≠ (reserve loads .pessimistic r ids w).1 := by
  rcases verdict_cases w r with ⟨e, hkey, hverdict⟩ | ⟨hkey, e, hopen, hverdict⟩ | ⟨hkey, hopen, hverdict⟩
  · cases hreplay : replay r e.2 <;>
    · rw [hreplay] at hverdict
      rw [numbersFit, hverdict] at hunfit
      cases hunfit
  · rw [numbersFit, hverdict] at hunfit
    cases hunfit
  obtain ⟨M, hM⟩ := exists_merchant_of_open hopen
  have hcreate : ∀ guard, createPayout r guard ids 0 w = priced guard M w r (ids 0) :=
    fun _ => createPayout_priced hkey hopen hM hpos hfresh
  have hreserve : ∀ b : Reserver, reserve loads b r ids w =
      finish loads w (b.execute fun n => createPayout r b.guard ids n w) := by
    intro b
    rw [reserve_eq, if_pos (known_of_open hopen)]
  have hplain : Plain .database := ⟨rfl, rfl⟩
  by_cases hle : r.amount ≤ (balances w r.merchant).payoutEligible
  · -- the version has no successor
    rw [if_pos hle] at hverdict
    by_cases hnumbers : fitsBigint r.amount = true ∧ fitsBigint (w.available r.merchant) = true
    · rw [if_pos hnumbers] at hverdict
      rw [numbersFit, hverdict, hM, Option.all_some] at hunfit
      refine ⟨.optimistic 1, rfl, ?_⟩
      have hraised : createPayout r .version ids 0 w = .error (.statement .database) := by
        rw [hcreate, priced_covered hle hpos (reserved_nonneg_of_open hopen), if_pos hnumbers.1, if_pos ⟨rfl, hunfit⟩]
      have hcreated : createPayout r .rowLock ids 0 w = .ok (created r (ids 0), placed w r (ids 0)) := by
        rw [hcreate, priced_covered hle hpos (reserved_nonneg_of_open hopen), if_pos hnumbers.1, if_pos hnumbers.2]
        rfl
      rw [hreserve, hreserve, execute_raised (a := .optimistic 1) (x := .statement .database) rfl hraised hplain rfl,
        execute_ok (a := .pessimistic) rfl hcreated]
      exact (outcome_ne_raised _ _ _ _ _).symm
    · rw [if_neg hnumbers] at hverdict
      rw [numbersFit, hverdict] at hunfit
      cases hunfit
  · -- the trigger cannot hold its sums
    rw [if_neg hle] at hverdict
    rw [numbersFit, hverdict] at hunfit
    refine ⟨.constraintGuard, rfl, ?_⟩
    obtain ⟨x, hx, herror, hcheck⟩ : ∃ x : Raised, createPayout r .constraint ids 0 w = .error x ∧
        x.error = .database ∧ x.checkViolation = false := by
      rw [hcreate, priced_overdrawn (not_le.1 hle), if_pos rfl, if_neg]
      · split
        · exact ⟨_, rfl, rfl, rfl⟩
        · exact ⟨_, rfl, rfl, rfl⟩
      · rintro ⟨-, havailable, hsum⟩
        rw [havailable, hsum] at hunfit
        cases hunfit
    have hmissing : createPayout r .rowLock ids 0 w = .error (.statement (overdraws w r)) := by
      rw [hcreate, priced_overdrawn (not_le.1 hle), if_neg]
      exact ReservationGuard.noConfusion
    rw [hreserve, hreserve, execute_raised (a := .constraintGuard) rfl hx (by rw [herror]; exact hplain) hcheck,
      execute_insufficient (a := .pessimistic) rfl hmissing (by rfl)]
    rintro ⟨⟩

end Agreement

def meets (loads : Bytes → Option Json) : List (Reserver × ReserveRequest × (ℕ → PayoutId)) → World → Bool
  | [], _ => true
  | (a, r, ids) :: rest, w => a.tries && decide (0 < r.amount) && freshIds w ids && numbersFit w r &&
      meets loads rest (reserve loads a r ids w).2

lemma reserveAll_level {loads : Bytes → Option Json} {xs ys : List (Reserver × ReserveRequest × (ℕ → PayoutId))}
    (h : List.Forall₂ (fun x y => x.2 = y.2) xs ys) : ∀ {w w' : World}, Level w w' → meets loads xs w = true →
      meets loads ys w' = true → (reserveAll loads xs w).1 = (reserveAll loads ys w').1 ∧
        Level (reserveAll loads xs w).2 (reserveAll loads ys w').2 := by
  induction h with
  | nil => exact fun hlevel _ _ => ⟨rfl, hlevel⟩
  | @cons x y xs ys hxy _ ih =>
    obtain ⟨a, r, ids⟩ := x
    obtain ⟨b, r', ids'⟩ := y
    cases hxy
    intro w w' hlevel hmeets hmeets'
    simp only [meets, Bool.and_eq_true, decide_eq_true_iff] at hmeets hmeets'
    obtain ⟨⟨⟨⟨ha, hpos⟩, hfresh⟩, hfits⟩, hrest⟩ := hmeets
    obtain ⟨⟨⟨⟨hb, -⟩, hfresh'⟩, hfits'⟩, hrest'⟩ := hmeets'
    -- both answer as they should, and the answers to level worlds are level
    obtain ⟨hfirst, hworld⟩ := reserve_answer loads ha hpos hfresh hfits
    obtain ⟨hfirst', hworld'⟩ := reserve_answer loads hb hpos hfresh' hfits'
    obtain ⟨hanswer, hanswers⟩ := hlevel.answer loads r ids
    have hstep : Level (reserve loads a r ids w).2 (reserve loads b r ids w').2 :=
      (hworld.trans hanswers).trans hworld'.symm
    obtain ⟨hlater, hend⟩ := ih hstep hrest hrest'
    refine ⟨?_, hend⟩
    simp only [reserveAll]
    rw [hfirst, hanswer, ← hfirst', hlater]

/-- The reservers agree on a request exactly if the numbers fit, and then on any sequence of requests. -/
theorem strategies_agree (loads : Bytes → Option Json) :
    (∀ (w : World) (r : ReserveRequest) (ids : ℕ → PayoutId), 0 < r.amount → freshIds w ids = true →
      ((∀ a b : Reserver, a.tries = true → b.tries = true → (reserve loads a r ids w).1 = (reserve loads b r ids w).1 ∧
          Level (reserve loads a r ids w).2 (reserve loads b r ids w).2) ↔ numbersFit w r = true)) ∧
    ∀ (xs ys : List (Reserver × ReserveRequest × (ℕ → PayoutId))) (w : World),
      List.Forall₂ (fun x y => x.2 = y.2) xs ys → meets loads xs w = true → meets loads ys w = true →
        (reserveAll loads xs w).1 = (reserveAll loads ys w).1 ∧
          Level (reserveAll loads xs w).2 (reserveAll loads ys w).2 := by
  refine ⟨fun w r ids hpos hfresh => ⟨fun hagree => ?_, fun hfits a b ha hb => ?_⟩,
    fun xs ys w h hmeets hmeets' => reserveAll_level h (.refl w) hmeets hmeets'⟩
  · by_contra hunfit
    obtain ⟨b, hb, hne⟩ := reserve_disagrees loads hpos hfresh (Bool.eq_false_iff.2 hunfit)
    exact hne (hagree b .pessimistic hb rfl).1
  · obtain ⟨hfirst, hworld⟩ := reserve_answer loads ha hpos hfresh hfits
    obtain ⟨hfirst', hworld'⟩ := reserve_answer loads hb hpos hfresh hfits
    exact ⟨hfirst.trans hfirst'.symm, hworld.trans hworld'.symm⟩

namespace Sample

def shopWithFunds : World :=
  { shopWorld with
    merchants := Table.empty.put 1 ⟨true, true, 0⟩
    accounts := [⟨.pendingPayable, some 1⟩, ⟨.availablePayable, some 1⟩, ⟨.merchantReceivable, some 1⟩]
    journals := [⟨.settlement 1, 1, none,
      [⟨⟨.pendingPayable, some 1⟩, .debit, 5000⟩, ⟨⟨.availablePayable, some 1⟩, .credit, 5000⟩]⟩] }

def request (amount : ℤ) (key : String) : ReserveRequest := ⟨1, 1, amount, ⟨key⟩, sha256 (encode (toString amount))⟩

def stored (id : PayoutId) : Json :=
  .obj [("amount", .int 3000), ("attemptNumber", .int 1), ("beneficiaryId", .str "bnf_1"), ("currency", .str "INR"),
    ("failureCode", .null), ("id", .str (publicId "pot" id)), ("reviewReason", .null),
    ("stableProviderKey", .str (payoutStableKey (id, 1))), ("status", .str "PROCESSING")]

def loads (body : Bytes) : Option Json := if body = canonicalJsonBytes (stored 7) then some (stored 7) else none

def requests (first second third : Reserver) : List (Reserver × ReserveRequest × (ℕ → PayoutId)) :=
  [(first, request 3000 "a", fun i => 7 + i), (second, request 2001 "b", fun i => 17 + i),
    (third, request 3000 "a", fun i => 27 + i)]

def statuses (xs : List (Except ReserveError ReserveOutcome)) : List (Option (ReserveStatus × Option PayoutId)) :=
  xs.map fun x => x.toOption.map fun y => (y.status, y.payoutId)

end Sample

section Samples

open Sample

theorem strategies_differ : 0 < (request (2 ^ 63) "a").amount ∧ freshIds shopWithFunds id = true ∧
    (reserve loads .pessimistic (request (2 ^ 63) "a") id shopWithFunds).1 = .ok ⟨.insufficient, none, 1⟩ ∧
    (reserve loads .constraintGuard (request (2 ^ 63) "a") id shopWithFunds).1 = .error (.raised .database) := by
  refine ⟨by decide, by decide, rfl, ?_⟩
  with_unfolding_all rfl

theorem strategies_agree_shop :
    statuses (reserveAll loads (requests .pessimistic .pessimistic .pessimistic) shopWithFunds).1 =
      [some (.reserved, some 7), some (.insufficient, none), some (.replayed, some 7)] ∧
    (reserveAll loads (requests .pessimistic .pessimistic .pessimistic) shopWithFunds).1 =
      (reserveAll loads (requests (.optimistic defaultMaxAttempts) .constraintGuard .constraintGuard) shopWithFunds).1 ∧
    ∀ a b : Reserver, a.tries = true → b.tries = true →
      (reserve loads a (request 5001 "c") (fun i => 37 + i) shopWithFunds).1 =
        (reserve loads b (request 5001 "c") (fun i => 37 + i) shopWithFunds).1 := by
  refine ⟨by decide +kernel, ?_, fun a b ha hb => ?_⟩
  · have hsame : List.Forall₂ (fun x y : Reserver × ReserveRequest × (ℕ → PayoutId) => x.2 = y.2)
        (requests .pessimistic .pessimistic .pessimistic)
        (requests (.optimistic defaultMaxAttempts) .constraintGuard .constraintGuard) :=
      .cons rfl (.cons rfl (.cons rfl .nil))
    exact ((strategies_agree loads).2 _ _ shopWithFunds hsame (by decide +kernel) (by decide +kernel)).1
  · have hagree := ((strategies_agree loads).1 shopWithFunds (request 5001 "c") (fun i => 37 + i) (by decide)
      (by decide)).2 (by decide +kernel)
    exact (hagree a b ha hb).1

end Samples

end RelayPay.Locking
