import RelayPay.Scenario

namespace RelayPay

open ReadCommitted

def AttemptStatus.Tallies (s : AttemptStatus) (t : OperationStatus) : Prop :=
  (s.terminal = false ∧ t.terminal = false) ∨ (s = .succeeded ∧ t = .succeeded) ∨
    (s = .failed ∧ t = .failed)

def Payout.consumed (P : Payout) : ℕ := P.reservations.countP fun r => r.action = .consumed

structure Payout.WellFormed (P : Payout) : Prop where
  amount_pos : 0 < P.amount
  numbers : P.attempts.map PayoutAttempt.attemptNumber = List.range' 1 P.attempts.length
  attempts : ∃ earlier last, P.attempts = earlier ++ [last] ∧
    (∀ a ∈ earlier, a.status = .failed) ∧ last.status.Tallies P.status
  reserved : P.reserved = if P.status.terminal then 0 else P.amount
  consumed : P.consumed = if P.status = .succeeded then 1 else 0

namespace Payout

lemma reserved_append (P P' : Payout) (r : ReservationRow)
    (h : P'.reservations = P.reservations ++ [r]) : P'.reserved = P.reserved + r.amountDelta := by
  simp [reserved, h]

lemma consumed_append (P P' : Payout) (r : ReservationRow) (h : P'.reservations = P.reservations ++ [r]) :
    P'.consumed = P.consumed + if r.action = .consumed then 1 else 0 := by
  rw [consumed, consumed, h, List.countP_append, List.countP_singleton]
  simp

lemma foldl_max_range' (k : ℕ) : (List.range' 1 k).foldl max 0 = k := by
  induction k with
  | zero => rfl
  | succ k ih =>
    rw [List.range'_concat, List.foldl_append, ih]
    simp
    omega

namespace WellFormed

variable {P P' : Payout} {n : ℕ} {a : PayoutAttempt}

lemma lastNumber_eq (h : P.WellFormed) : P.lastNumber = P.attempts.length := by
  rw [lastNumber, h.numbers, foldl_max_range']

lemma open_last (h : P.WellFormed) (ha : P.attempt? n = some a) (hopen : a.status.terminal = false) :
    ∃ earlier, P.attempts = earlier ++ [a] ∧ (∀ b ∈ earlier, b.status = .failed) ∧
      (∀ b ∈ earlier, b.attemptNumber ≠ n) ∧ a.attemptNumber = n ∧ P.status.terminal = false := by
  obtain ⟨earlier, last, hattempts, hfailed, htally⟩ := h.attempts
  have hn : a.attemptNumber = n := by simpa using List.find?_some ha
  have hmem : a ∈ earlier ++ [last] := hattempts ▸ List.mem_of_find?_eq_some ha
  have hlast : a = last := by
    rcases List.mem_append.1 hmem with hearly | hlast
    · have hterminal := hfailed a hearly
      simp [hterminal, AttemptStatus.terminal] at hopen
    · simpa using hlast
  subst hlast
  refine ⟨earlier, hattempts, hfailed, fun b hb hbn => ?_, hn, ?_⟩
  · have hnodup : (P.attempts.map PayoutAttempt.attemptNumber).Nodup := by
      rw [h.numbers]
      exact List.nodup_range'
    rw [hattempts, List.map_append, List.nodup_append] at hnodup
    exact hnodup.2.2 _ (List.mem_map_of_mem hb) _ (by simp) (hbn.trans hn.symm)
  · rcases htally with hboth | ⟨hs, -⟩ | ⟨hs, -⟩
    · exact hboth.2
    all_goals simp [hs, AttemptStatus.terminal] at hopen

lemma updateAttempt_attempts {earlier : List PayoutAttempt} {f : PayoutAttempt → PayoutAttempt}
    (hattempts : P.attempts = earlier ++ [a]) (hearly : ∀ b ∈ earlier, b.attemptNumber ≠ n)
    (hn : a.attemptNumber = n) : (P.updateAttempt n f).attempts = earlier ++ [f a] := by
  simp only [updateAttempt, hattempts, List.map_append, List.map_cons, List.map_nil, hn, if_true]
  congr 1
  rw [List.map_congr_left fun b hb => if_neg (hearly b hb), List.map_id']

lemma observed (h : P.WellFormed) (ha : P.attempt? n = some a) (hopen : a.status.terminal = false)
    {f : PayoutAttempt → PayoutAttempt} (hf : (f a).attemptNumber = a.attemptNumber)
    (hattempts : P'.attempts = (P.updateAttempt n f).attempts) (hamount : P'.amount = P.amount)
    (htally : (f a).status.Tallies P'.status)
    (hreserved : P'.reserved = if P'.status.terminal then 0 else P.amount)
    (hconsumed : P'.consumed = if P'.status = .succeeded then 1 else 0) : P'.WellFormed := by
  obtain ⟨earlier, hP, hfailed, hearly, hn, -⟩ := h.open_last ha hopen
  rw [updateAttempt_attempts hP hearly hn] at hattempts
  refine ⟨hamount ▸ h.amount_pos, ?_, ⟨earlier, f a, hattempts, hfailed, htally⟩, hamount ▸ hreserved, hconsumed⟩
  have hnumbers := h.numbers
  simp only [hP, hattempts, List.map_append, List.map_cons, List.map_nil, List.length_append,
    List.length_cons, List.length_nil, hf] at hnumbers ⊢
  exact hnumbers

lemma reserved_open (h : P.WellFormed) (hs : P.status.terminal = false) : P.reserved = P.amount := by
  rw [h.reserved, hs]
  rfl

lemma consumed_open (h : P.WellFormed) (hs : P.status ≠ .succeeded) : P.consumed = 0 := by
  rw [h.consumed, if_neg hs]

end WellFormed

lemma ne_succeeded {s : OperationStatus} (h : s.terminal = false) : s ≠ .succeeded := by
  rintro rfl
  simp [OperationStatus.terminal] at h

lemma createPayout_wellFormed (c : CreatePayout) (hpos : 0 < c.amount) : c.row.WellFormed where
  amount_pos := hpos
  numbers := rfl
  attempts := ⟨[], preparedAttempt 1 none none none, rfl, by simp, .inl ⟨rfl, rfl⟩⟩
  reserved := by simp [CreatePayout.row, respond, addHistory, reservation, addAttempt, newPayout,
    Payout.reserved, OperationStatus.terminal]
  consumed := by simp [CreatePayout.row, respond, addHistory, reservation, addAttempt, newPayout,
    Payout.consumed]

section Transitions

variable {P : Payout} {q : PayoutId} {n : ℕ} {a : PayoutAttempt} {ev : PayoutEvidence}
variable {code : Option String} {now : Time}

lemma retried_wellFormed (h : P.WellFormed) (hs : P.status = .failed) (c : CreateRetry) :
    (retried q P (P.lastNumber + 1) c).WellFormed := by
  obtain ⟨earlier, last, hattempts, hfailed, htally⟩ := h.attempts
  have hlast : last.status = .failed := by
    rcases htally with ⟨-, ht⟩ | ⟨-, ht⟩ | ⟨hl, -⟩
    · simp [hs, OperationStatus.terminal] at ht
    · simp [hs] at ht
    · exact hl
  have hzero : P.reserved = 0 := by
    rw [h.reserved, hs]
    rfl
  refine ⟨h.amount_pos, ?_, ⟨P.attempts, _, rfl, ?_, .inl ⟨rfl, rfl⟩⟩, ?_, ?_⟩
  · simp only [retried, addAttempt, addHistory, reservation, List.map_append, h.numbers,
      h.lastNumber_eq, List.map_cons, List.map_nil, preparedAttempt, List.length_append,
      List.length_cons, List.length_nil, List.range'_concat]
    congr 2
    omega
  · rw [hattempts]
    intro b hb
    rcases List.mem_append.1 hb with hearly | hl
    · exact hfailed b hearly
    · rw [List.mem_singleton.1 hl, hlast]
  · rw [reserved_append P _ ⟨P.nextReservation, .reserved, P.amount, "ADMIN_RETRY"⟩ rfl, hzero]
    simp [retried, addAttempt, addHistory, reservation, OperationStatus.terminal]
  · rw [consumed_append P _ ⟨P.nextReservation, .reserved, P.amount, "ADMIN_RETRY"⟩ rfl,
      h.consumed_open (by simp [hs])]
    simp [retried, addAttempt, addHistory, reservation]

lemma sent_wellFormed (h : P.WellFormed) (ha : P.latestAttempt = some a)
    (hopen : a.status.terminal = false) (request : Bytes) :
    (P.updateAttempt a.attemptNumber fun a => a.markSent request now).WellFormed := by
  have hnumber : a.attemptNumber = P.lastNumber := by simpa using List.find?_some ha
  have hattempt : P.attempt? a.attemptNumber = some a := by
    rw [hnumber]
    exact ha
  obtain ⟨-, -, -, -, -, hstatus⟩ := h.open_last hattempt hopen
  exact h.observed (f := fun a => a.markSent request now) hattempt hopen rfl rfl rfl
    (.inl ⟨rfl, hstatus⟩) h.reserved h.consumed

lemma ambiguous_wellFormed (h : P.WellFormed) (ha : P.attempt? n = some a)
    (hopen : a.status.terminal = false) (lookupOnly : Bool) :
    (P.observeAmbiguous q n ev code lookupOnly).WellFormed := by
  obtain ⟨-, -, -, -, -, hstatus⟩ := h.open_last ha hopen
  refine h.observed (f := fun a => { a with
    status := .ambiguous, reviewReason := code, evidence := a.evidence ++ [ev] }) ha hopen rfl rfl rfl
    (.inl ⟨rfl, rfl⟩) ?_ ?_
  · exact h.reserved_open hstatus
  · exact h.consumed_open (ne_succeeded hstatus)

lemma failure_wellFormed (h : P.WellFormed) (ha : P.attempt? n = some a)
    (hopen : a.status.terminal = false) : (P.observeFailure q n ev code now).WellFormed := by
  obtain ⟨-, -, -, -, -, hstatus⟩ := h.open_last ha hopen
  refine h.observed (f := fun a => { a with
    status := .failed, failureCode := code, evidence := a.evidence ++ [ev] }) ha hopen rfl rfl rfl
    (.inr (.inr ⟨rfl, rfl⟩)) ?_ ?_
  · rw [reserved_append P _ ⟨_, .released, -P.amount, "VERIFIED_BANK_FAILURE"⟩ rfl,
      h.reserved_open hstatus]
    simp [observeFailure, answer, respond, addHistory, reservation, OperationStatus.terminal]
  · rw [consumed_append P _ ⟨_, .released, -P.amount, "VERIFIED_BANK_FAILURE"⟩ rfl,
      h.consumed_open (ne_succeeded hstatus)]
    simp [observeFailure, answer, respond, addHistory, reservation]

lemma success_wellFormed (h : P.WellFormed) (ha : P.attempt? n = some a)
    (hopen : a.status.terminal = false) : (P.observeSuccess q n ev now).WellFormed := by
  obtain ⟨-, -, -, -, -, hstatus⟩ := h.open_last ha hopen
  refine h.observed (f := fun a => { a with
    status := .succeeded, evidence := a.evidence ++ [ev] }) ha hopen rfl rfl rfl
    (.inr (.inl ⟨rfl, rfl⟩)) ?_ ?_
  · rw [reserved_append P _ ⟨_, .consumed, -P.amount, "VERIFIED_BANK_SUCCESS"⟩ rfl,
      h.reserved_open hstatus]
    simp [observeSuccess, answer, respond, addHistory, reservation, OperationStatus.terminal]
  · rw [consumed_append P _ ⟨_, .consumed, -P.amount, "VERIFIED_BANK_SUCCESS"⟩ rfl,
      h.consumed_open (ne_succeeded hstatus)]
    simp [observeSuccess, answer, respond, addHistory, reservation]

end Transitions

end Payout

def World.PayoutsWellFormed (w : World) : Prop := ∀ q P, w.payouts.get q = some P → P.WellFormed

lemma World.PayoutsWellFormed.put {w w' : World} (h : w.PayoutsWellFormed) {q : PayoutId} {P : Payout}
    (hpayouts : w'.payouts = w.payouts.put q P) (hP : P.WellFormed) : w'.PayoutsWellFormed := by
  rw [PayoutsWellFormed, hpayouts]
  exact Table.forall_put h hP

section Steps

variable {cfg : Service} {l : Local} {held : List Key} {ms : List MerchantId} {w w' : World}

lemma Change.payoutsWellFormed (h : Change cfg l held ms w w') (hw : w.PayoutsWellFormed) : w'.PayoutsWellFormed := by
  cases h with
  | finalized =>
    intro q P hget
    exact hw q P (by simpa using hget)
  | payoutCreated _ _ _ hpos => exact hw.put rfl (Payout.createPayout_wellFormed _ hpos)
  | payoutRetried _ _ _ hP hs _ => exact hw.put rfl (Payout.retried_wellFormed (hw _ _ hP) hs _)
  | payoutSent _ _ hP ha hopen => exact hw.put rfl (Payout.sent_wellFormed (hw _ _ hP) ha hopen _)
  | payoutAmbiguous _ _ hP ha hopen =>
    exact hw.put rfl (Payout.ambiguous_wellFormed (hw _ _ hP) ha hopen _)
  | payoutFailed _ _ _ hP ha hopen => exact hw.put rfl (Payout.failure_wellFormed (hw _ _ hP) ha hopen)
  | payoutSucceeded _ _ _ hP ha hopen =>
    exact hw.put rfl (Payout.success_wellFormed (hw _ _ hP) ha hopen)
  | _ => exact hw

lemma reserved_nonneg (hw : w.PayoutsWellFormed) (m : MerchantId) : 0 ≤ w.reserved m := by
  refine Table.total_nonneg fun q P hP => ?_
  have hwf := hw q P hP
  have hpos := hwf.amount_pos
  by_cases hm : P.merchant = m
  · rw [if_pos hm, hwf.reserved]
    split <;> omega
  · rw [if_neg hm]

def World.Covers (w : World) (m : MerchantId) : Prop := w.reserved m ≤ w.available m

lemma Changes.covers (h : Changes cfg l held ms w w') (hmirrored : w.Mirrored) {m : MerchantId}
    (hw : w.Covers m) (hchecked : ∀ m ∈ ms, w'.Covers m) : w'.Covers m := by
  by_cases hm : m ∈ ms
  · exact hchecked m hm
  · have hframe : Frame (.coverage m) w w' := by
      apply (h.keeps hmirrored).2
      · exact fun _ => rfl
      · rintro m' hm' heq
        cases heq
        exact hm hm'
    calc w'.reserved m = w.reserved m := hframe.1.symm
      _ ≤ w.available m := hw
      _ ≤ w'.available m := hframe.2

def World.payoutJournals (w : World) (q : PayoutId) : List Journal :=
  w.journals.filter fun j => j.id = .payout q

def Payout.postedJournal (P : Payout) (q : PayoutId) : Journal :=
  ⟨.payout q, P.merchant, none, payoutEntries P.merchant P.amount⟩

def World.PayoutsPosted (w : World) : Prop :=
  ∀ q, w.payoutJournals q = ((w.payouts.get q).filter fun P => P.status = .succeeded).toList.map
    fun P => P.postedJournal q

lemma World.PayoutsPosted.of_unposted (hw : w.PayoutsPosted) {q : PayoutId} {P : Payout}
    (hpayouts : w'.payouts = w.payouts.put q P) (hjournals : w'.journals = w.journals)
    (hbefore : ∀ P₀, w.payouts.get q = some P₀ → P₀.status ≠ .succeeded)
    (hafter : P.status ≠ .succeeded) : w'.PayoutsPosted := by
  intro q'
  have hq' := hw q'
  rw [World.payoutJournals, hjournals, ← World.payoutJournals, hq', hpayouts, Table.get_put]
  split
  · next heq =>
    subst heq
    cases hget : w.payouts.get q' with
    | none => simp [Option.filter, hafter]
    | some P₀ => simp [Option.filter, hafter, hbefore P₀ hget]
  · rfl

lemma World.PayoutsPosted.of_other (hw : w.PayoutsPosted) {js : List Journal}
    (hpayouts : w'.payouts = w.payouts) (hjournals : w'.journals = w.journals ++ js)
    (hother : ∀ j ∈ js, ∀ q, j.id ≠ .payout q) : w'.PayoutsPosted := by
  intro q
  have hnone : js.filter (fun j => j.id = .payout q) = [] := by
    rw [List.filter_eq_nil_iff]
    intro j hj
    simpa using hother j hj q
  rw [hpayouts, ← hw q, World.payoutJournals, World.payoutJournals, hjournals, List.filter_append,
    hnone, List.append_nil]

lemma PaymentIntent.Resolves.no_payout {a a' : PaymentIntent} {o : OperationId} {actor : Actor}
    {v : Verdict} {posted : List (Journal × BalanceTransaction)} (h : a.Resolves held ms w actor v o a' posted) :
    ∀ j ∈ posted.map Prod.fst, ∀ q, j.id ≠ .payout q := by
  cases h with
  | captured _ _ hj => simp [hj]
  | refunded _ _ _ _ _ _ hj => simp [hj]
  | _ => simp

lemma Change.payoutsPosted (h : Change cfg l held ms w w') (hw : w.PayoutsWellFormed)
    (hposted : w.PayoutsPosted) : w'.PayoutsPosted := by
  -- an open payout, or none, has no journal yet
  have hopen : ∀ {q P₁ n a}, w.payouts.get q = some P₁ → P₁.attempt? n = some a →
      a.status.terminal = false → ∀ P₀, w.payouts.get q = some P₀ → P₀.status ≠ .succeeded := by
    intro q P₁ n a hP₁ ha hterminal P₀ hP₀
    rw [hP₁] at hP₀
    cases hP₀
    obtain ⟨-, -, -, -, -, hstatus⟩ := (hw q P₁ hP₁).open_last ha hterminal
    exact Payout.ne_succeeded hstatus
  cases h with
  | finalized _ _ _ _ _ _ _ _ hres _ =>
    exact hposted.of_other (by simp) (by simp) hres.no_payout
  | settled _ _ _ _ _ _ _ _ hj _ => exact hposted.of_other rfl rfl (by simp [hj])
  | payoutCreated _ _ hnone _ =>
    exact hposted.of_unposted rfl rfl (by simp [hnone]) (by simp [CreatePayout.row, Payout.respond,
      Payout.addHistory, Payout.reservation, Payout.addAttempt, newPayout])
  | payoutRetried _ _ _ hP hs _ =>
    refine hposted.of_unposted rfl rfl ?_ (by simp [Payout.retried, Payout.addAttempt,
      Payout.addHistory, Payout.reservation])
    intro P₀ hP₀
    rw [hP] at hP₀
    cases hP₀
    simp [hs]
  | payoutSent _ _ hP ha hterminal =>
    have hne := hopen hP ha hterminal _ hP
    exact hposted.of_unposted rfl rfl (hopen hP ha hterminal) hne
  | payoutAmbiguous _ _ hP ha hterminal =>
    exact hposted.of_unposted rfl rfl (hopen hP ha hterminal) (by simp [Payout.observeAmbiguous,
      Payout.answer, Payout.respond, Payout.addHistory])
  | payoutFailed _ _ _ hP ha hterminal =>
    exact hposted.of_unposted rfl rfl (hopen hP ha hterminal) (by simp [Payout.observeFailure,
      Payout.answer, Payout.respond, Payout.addHistory, Payout.reservation])
  | @payoutSucceeded _ prepared _ _ _ P _ _ _ _ _ _ _ hP ha hterminal _ _ _ _ _ hj _ _ =>
    intro q
    rw [World.payoutJournals]
    change List.filter _ (w.journals ++ [_]) =
      List.map _ (Option.filter _ ((w.payouts.put _ _).get q)).toList
    rw [List.filter_append, Table.get_put, ← World.payoutJournals, hposted q]
    by_cases hq : q = prepared.payout
    · subst hq
      have hbefore := hopen hP ha hterminal P hP
      simp [hP, Option.filter, hbefore, hj, Payout.postedJournal, Payout.observeSuccess, Payout.answer,
        Payout.respond, Payout.addHistory, Payout.reservation, Payout.updateAttempt]
    · have hne : ¬prepared.payout = q := fun heq => hq heq.symm
      simp [hq, hne, hj]
  | _ => exact hposted

end Steps

section Runs

variable {cfg : Service} {out : Outside} {w : World} {c : State}

structure World.Consistent (w : World) : Prop where
  mirrored : w.Mirrored
  payouts : w.PayoutsWellFormed

lemma Change.consistent {l : Local} {held : List Key} {ms : List MerchantId} {w' : World}
    (h : Change cfg l held ms w w') (hw : w.Consistent) : w'.Consistent :=
  ⟨h.mirrored hw.mirrored, h.payoutsWellFormed hw.payouts⟩

lemma World.Initial.consistent (h : w.Initial) : w.Consistent := by
  refine ⟨h.mirrored, fun q P hP => ?_⟩
  simp [h.payouts] at hP

lemma World.Initial.payoutsPosted (h : w.Initial) : w.PayoutsPosted := by
  intro q
  simp [World.payoutJournals, h.journals, h.payouts]

lemma areach_covers {a a' : World × List Local} (h : AReach locks (relaypay cfg out) a a')
    (hmirrored : a.1.Mirrored) {m : MerchantId} (hcovers : a.1.Covers m) : a'.1.Covers m := by
  induction h with
  | refl => exact hcovers
  | tail hreach hstep ih =>
    obtain ⟨l, keys, ms, hchanges, hchecked⟩ := astep_changes hstep
    have hmid := AReach.invariant (relaypay_disciplined cfg out) hreach hmirrored
    exact hchanges.covers hmid ih hchecked

theorem payout_coverage {m : MerchantId} (hw : w.Consistent) (hcovers : w.reserved m ≤ w.available m)
    (h : Reach (relaypay cfg out) (.idle w) c) :
    0 ≤ c.shared.reserved m ∧ c.shared.reserved m ≤ c.shared.available m := by
  have hpayouts := (reach_preserves Change.consistent hw.mirrored hw h).payouts
  have hatomic := h.atomic (relaypay_disciplined cfg out) hw.mirrored
  exact ⟨reserved_nonneg hpayouts m, areach_covers hatomic hw.mirrored hcovers⟩

theorem payout_coverage_shop : (shopAfter (shopSale ++ shopPayout.take 2)).1.reserved 1 = 2000 ∧
    0 ≤ (shopAfter (shopSale ++ shopPayout.take 2)).1.reserved 1 ∧
    (shopAfter (shopSale ++ shopPayout.take 2)).1.reserved 1 ≤
      (shopAfter (shopSale ++ shopPayout.take 2)).1.available 1 :=
  ⟨by decide +kernel, payout_coverage shopWorld_initial.consistent (by decide +kernel)
    (shop_reach (by decide +kernel))⟩

theorem payout_books (hw : w.Initial) (h : Reach (relaypay cfg out) (.idle w) c) {q : PayoutId}
    {P : Payout} (hP : c.shared.payouts.get q = some P) :
    (P.status = .processing ∨ P.status = .requiresReview → P.reserved = P.amount) ∧
    (P.status = .succeeded ∨ P.status = .failed → P.reserved = 0) ∧
    (P.status = .succeeded → c.shared.payoutJournals q = [P.postedJournal q] ∧ P.consumed = 1) ∧
    (P.status ≠ .succeeded → c.shared.payoutJournals q = [] ∧ P.consumed = 0) := by
  have hinv : c.shared.PayoutsWellFormed ∧ c.shared.PayoutsPosted := by
    have h0 := And.intro hw.consistent.payouts hw.payoutsPosted
    refine reach_preserves (I := fun w => w.PayoutsWellFormed ∧ w.PayoutsPosted) ?_ hw.mirrored h0 h
    intro l held ms w w' hchange hI
    exact ⟨hchange.payoutsWellFormed hI.1, hchange.payoutsPosted hI.1 hI.2⟩
  have hbooks := hinv.1 q P hP
  have hreserved := hbooks.reserved
  have hconsumed := hbooks.consumed
  have hjournals := hinv.2 q
  rw [hP] at hjournals
  refine ⟨?_, ?_, fun hs => ?_, fun hs => ?_⟩
  · rintro (hs | hs) <;> simpa [hs, OperationStatus.terminal] using hreserved
  · rintro (hs | hs) <;> simpa [hs, OperationStatus.terminal] using hreserved
  · simp only [Option.filter, hs, decide_true, if_true] at hjournals hconsumed
    exact ⟨hjournals, hconsumed⟩
  · simp only [Option.filter, hs, decide_false] at hjournals hconsumed
    exact ⟨hjournals, hconsumed⟩

theorem payout_books_shop : ∃ P, (shopAfter shopRun).1.payouts.get 1 = some P ∧
    P.status = .succeeded ∧ P.reserved = 0 ∧ P.consumed = 1 ∧
    (shopAfter shopRun).1.payoutJournals 1 = [P.postedJournal 1] := by
  have hstatus : ((shopAfter shopRun).1.payouts.get 1).map Payout.status = some .succeeded := by
    decide +kernel
  obtain ⟨P, hP, hs⟩ := Option.map_eq_some_iff.1 hstatus
  obtain ⟨-, hclosed, hposted, -⟩ := payout_books shopWorld_initial (shop_reach shopRun_plays) hP
  exact ⟨P, hP, hs, hclosed (.inl hs), (hposted hs).2, (hposted hs).1⟩

end Runs

end RelayPay
