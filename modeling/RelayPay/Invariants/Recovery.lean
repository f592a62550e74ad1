import RelayPay.Invariants.Custody
import RelayPay.Invariants.Operations

/-! Every open operation and payout is one that a sweep or an administrator can take up again. -/

namespace RelayPay

open ReadCommitted Txn

def World.ReportsFollowSends (w : World) : Prop := ∀ o, w.Reported o → w.Sent o

structure ProviderOperation.Recoverable (op : ProviderOperation) : Prop where
  processing : op.status = .processing → op.lastSentAt.isSome = true → op.nextLookupAt.isSome = true
  review : op.status = .requiresReview → op.lastSentAt.isSome = true

def World.OperationsRecoverable (w : World) : Prop :=
  ∀ o op, w.operations.get o = some op → op.Recoverable

section Operations

variable {cfg : Service} {out : Outside} {l l' : Local} {held : List Key} {ms : List MerchantId}
variable {w w' : World} {o : OperationId} {op op' : ProviderOperation} {now : Time}

lemma ProviderOperation.Notes.recoverable (h : op.Notes cfg l now o op') (hop : op.Recoverable) : op'.Recoverable := by
  cases h with
  | sent => exact ⟨fun _ _ => rfl, fun _ => rfl⟩
  | answered => exact ⟨fun _ _ => rfl, hop.review⟩
  | lookedUp => exact ⟨fun _ _ => rfl, hop.review⟩
  | _ => exact ⟨hop.processing, hop.review⟩

lemma ProviderOperation.Revised.recoverable (h : op.Revised cfg l now o op')
    (hl : o ∈ l.about → op.lastSentAt.isSome = true) (hop : op.Recoverable) : op'.Recoverable := by
  cases h with
  | noted hnotes => exact hnotes.recoverable hop
  | reviewed _ hreviews =>
    refine ⟨fun hs => (nomatch hs), fun _ => ?_⟩
    exact hl (Local.about_of_reviews hreviews)
  | @finalized evidence c v amount actor _ _ =>
    have hterminal := v.status_terminal
    constructor <;> intro hs
    all_goals
      change v.status = _ at hs
      simp [hs, OperationStatus.terminal] at hterminal

lemma Change.operationsRecoverable (h : Change cfg l held ms w w') (hl : ∀ o ∈ l.about, w.Sent o)
    (hw : w.OperationsRecoverable) : w'.OperationsRecoverable := by
  intro o op' hop'
  rcases h.operation o with hsame | ⟨-, t, hnew⟩ | ⟨op, op'', hop, hrevised, hop''⟩
  · exact hw o op' (hsame.symm.trans hop')
  · rw [hnew] at hop'
    cases hop'
    exact ⟨fun _ hs => (nomatch hs), fun hs => (nomatch hs)⟩
  · rw [hop''] at hop'
    cases hop'
    refine hrevised.recoverable (fun ho => ?_) (hw o op hop)
    obtain ⟨op₁, hop₁, hsent⟩ := hl o ho
    rw [hop] at hop₁
    cases hop₁
    exact hsent

lemma Act.about (h : Act cfg out l w l' w') : l'.about ⊆ l.about := by
  cases h with
  | receivePayout => simp [Local.afterBankReply_about]
  | lookupPayout => simp [Local.afterBankReply_about]
  | _ => exact fun _ ho => ho

lemma recoverable_modular :
    Modular locks (relaypay cfg out) (fun w => w.Mirrored ∧ w.ReportsFollowSends)
      World.OperationsRecoverable fun l w => ∀ o ∈ l.about, w.Sent o where
  spawn hl := by simp [(Local.starts_about hl).1]
  fail hl o ho := hl o (Local.onError_about _ _ ho)
  commit := by
    intro w l t l' y hI hJ hl ht he
    have hc := committed ht he
    refine ⟨?_, fun o ho => ?_, fun m hm o ho => hc.sent (hm o ho)⟩
    · refine (hc.preserves (I := fun w₁ => (∀ o ∈ l.about, w₁.Sent o) ∧
        w₁.OperationsRecoverable) ?_ ⟨hl, hJ⟩).2
      rintro keys ms w₁ w₂ hchange ⟨hsent, hrecoverable⟩
      exact ⟨fun o ho => hchange.sent (hsent o ho), hchange.operationsRecoverable hsent hrecoverable⟩
    · rcases (entrusts ht he).about o ho with hold | hsent | hsent | hreported
      · exact hc.sent (hl o hold)
      · exact hc.sent hsent
      · exact hsent
      · exact hc.sent (hI.2 o hreported)
  act := by
    intro l w l' w' _ hJ hl ha
    have hsent : ∀ o, w.Sent o → w'.Sent o := by
      rintro o ⟨op, hop, hsome⟩
      exact ⟨op, by rw [ha.operations, hop], hsome⟩
    refine ⟨fun o op hop => ?_, fun o ho => hsent o (hl o (ha.about ho)), fun m hm o ho => hsent o (hm o ho)⟩
    rw [ha.operations] at hop
    exact hJ o op hop
  env := by
    intro w w' _ hJ he
    refine ⟨fun o op hop => ?_, fun m hm o ho => ?_⟩
    · rw [he.operations] at hop
      exact hJ o op hop
    · obtain ⟨op, hop, hsome⟩ := hm o ho
      exact ⟨op, by rw [he.operations, hop], hsome⟩

lemma World.mem_selectOperations {p : ProviderOperation → Bool} {key : ProviderOperation → Time}
    (hop : w.operations.get o = some op) (hp : p op = true) :
    o ∈ w.selectOperations p key w.operations.rows.length := by
  have hmem : (o, op) ∈ ((w.operations.rows.filter fun e => p e.2).insertionSort fun a b =>
      key a.2 ≤ key b.2) := by
    rw [List.mem_insertionSort, List.mem_filter]
    exact ⟨Table.mem_rows.2 hop, hp⟩
  rw [selectOperations, List.take_of_length_le]
  · exact List.mem_map_of_mem (f := Prod.fst) hmem
  · rw [List.length_insertionSort]
    exact List.length_filter_le _ _

def ProviderOperation.leaseEnd (op : ProviderOperation) : Time := op.lookupLeaseExpiresAt.getD 0

lemma ProviderOperation.leaseFree_of_le (h : op.leaseEnd ≤ now) : op.leaseFree now = true := by
  unfold leaseFree
  unfold leaseEnd at h
  cases hlease : op.lookupLeaseExpiresAt with
  | none => rfl
  | some t => simpa [hlease] using h

lemma ProviderOperation.Recoverable.unsent_or_due (hop : op.Recoverable) (hs : op.status = .processing) :
    ∃ T, ∀ now, T ≤ now → op.unsent now = true ∨ op.due now = true := by
  cases hsent : op.lastSentAt with
  | none =>
    refine ⟨max op.leaseEnd (op.createdAt + seconds unsentDispatchGraceSeconds), fun now hnow => .inl ?_⟩
    have hlease := op.leaseFree_of_le ((le_max_left _ _).trans hnow)
    have hgrace : op.createdAt + seconds unsentDispatchGraceSeconds ≤ now := (le_max_right _ _).trans hnow
    simp only [unsent, hs, hsent, hlease, Option.isNone_none, Bool.and_eq_true, decide_eq_true_eq]
    exact ⟨⟨⟨trivial, trivial⟩, hgrace⟩, trivial⟩
  | some sent =>
    obtain ⟨next, hnext⟩ := Option.isSome_iff_exists.1 (hop.processing hs (by simp [hsent]))
    refine ⟨max op.leaseEnd next, fun now hnow => .inr ?_⟩
    have hlease := op.leaseFree_of_le ((le_max_left _ _).trans hnow)
    have hdue : next ≤ now := (le_max_right _ _).trans hnow
    simp [due, hs, hsent, hnext, hlease, hdue]

lemma ProviderOperation.Recoverable.claimed (hop : op.Recoverable) (hs : op.status = .requiresReview)
    (hrow : w.operations.get o = some op) (hlease : op.leaseFree w.now = true) (token : Token) :
    ∃ w', ((claimSpecificOperation o token true).atCommit validatePayoutCoverage []).exec w =
      .ok (⟨o, token⟩, w') := by
  have hcommits : (claimSpecificOperation o token true).Runs (fun c s q =>
      (forEach validatePayoutCoverage q).Runs (fun _ _ _ => c = ⟨o, token⟩) s []) w [] := by
    simp [claimSpecificOperation, hrow, hop.review hs, hs, hlease, OperationStatus.terminal, forEach]
  obtain ⟨c, w', he, rfl⟩ := (commits_iff (P := fun (c : RecoveryClaim) (_ : World) => c = ⟨o, token⟩) _ _).2 hcommits
  exact ⟨w', he⟩

end Operations

structure World.AttemptsDated (w : World) : Prop where
  stamped : ∀ q P, w.payouts.get q = some P → ∀ n ∈ P.attempts.map PayoutAttempt.attemptNumber,
    (w.attemptStamps.get (q, n)).isSome = true
  sent : ∀ k a, w.attempt k = some a → a.status = .sent → a.lastSentAt.isSome = true

section Payouts

variable {cfg : Service} {l : Local} {held : List Key} {ms : List MerchantId} {w w' : World}

lemma Payout.updateAttempt_numbers (P : Payout) (n : ℕ) {f : PayoutAttempt → PayoutAttempt}
    (hf : ∀ a, (f a).attemptNumber = a.attemptNumber) : (P.updateAttempt n f).attempts.map PayoutAttempt.attemptNumber =
      P.attempts.map PayoutAttempt.attemptNumber := by
  simp only [updateAttempt, List.map_map]
  refine List.map_congr_left fun a _ => ?_
  by_cases ha : a.attemptNumber = n <;> simp [ha, hf]

lemma Change.attemptsStamped (h : Change cfg l held ms w w') (hw : w.AttemptsDated) :
    ∀ q P, w'.payouts.get q = some P → ∀ n ∈ P.attempts.map PayoutAttempt.attemptNumber,
      (w'.attemptStamps.get (q, n)).isSome = true := by
  -- a payout is written together with the stamp of one of its attempts
  have hput : ∀ {q P n t}, w'.payouts = w.payouts.put q P →
      w'.attemptStamps = w.attemptStamps.put (q, n) t →
      (∀ n' ∈ P.attempts.map PayoutAttempt.attemptNumber, n' = n ∨
        ∃ P₀, w.payouts.get q = some P₀ ∧ n' ∈ P₀.attempts.map PayoutAttempt.attemptNumber) →
      ∀ q P, w'.payouts.get q = some P → ∀ n ∈ P.attempts.map PayoutAttempt.attemptNumber,
        (w'.attemptStamps.get (q, n)).isSome = true := by
    intro q P n t hpayouts hstamps hP q' P' hP' n' hn'
    rw [hpayouts, Table.get_put] at hP'
    rw [hstamps, Table.get_put]
    split
    · rfl
    · next hne =>
      split at hP'
      · next hq =>
        cases hP'
        subst hq
        rcases hP n' hn' with rfl | ⟨P₀, hP₀, hold⟩
        · exact absurd rfl hne
        · exact hw.stamped q' P₀ hP₀ n' hold
      · exact hw.stamped q' P' hP' n' hn'
  have hupdate : ∀ {q P P' n t f}, w'.payouts = w.payouts.put q P' →
      w'.attemptStamps = w.attemptStamps.put (q, n) t → w.payouts.get q = some P →
      P'.attempts = (P.updateAttempt n f).attempts → (∀ a, (f a).attemptNumber = a.attemptNumber) →
      ∀ q P, w'.payouts.get q = some P → ∀ n ∈ P.attempts.map PayoutAttempt.attemptNumber,
        (w'.attemptStamps.get (q, n)).isSome = true := by
    intro q P P' n t f hpayouts hstamps hP hattempts hf
    refine hput hpayouts hstamps fun n' hn' => .inr ⟨P, hP, ?_⟩
    rwa [hattempts, Payout.updateAttempt_numbers P n hf] at hn'
  cases h with
  | finalized =>
    intro q P hP n hn
    simpa using hw.stamped q P (by simpa using hP) n hn
  | @stamped a t =>
    intro q P hP n hn
    change ((w.attemptStamps.put a t).get (q, n)).isSome = true
    rw [Table.get_put]
    split
    · rfl
    · exact hw.stamped q P hP n hn
  | @payoutCreated t c =>
    have hnumbers : c.row.attempts.map PayoutAttempt.attemptNumber = [1] := rfl
    exact hput rfl rfl fun n' hn' => .inl (by simpa [hnumbers] using hn')
  | @payoutRetried P t c _ _ _ hP =>
    refine hput rfl rfl fun n' hn' => ?_
    have hnumbers : (P.retried c.payout (P.lastNumber + 1) c).attempts.map PayoutAttempt.attemptNumber =
        P.attempts.map PayoutAttempt.attemptNumber ++ [P.lastNumber + 1] := by
      simp [Payout.retried, Payout.addAttempt, Payout.addHistory, Payout.reservation, preparedAttempt]
    rw [hnumbers, List.mem_append] at hn'
    rcases hn' with hold | hnew
    · exact .inr ⟨P, hP, hold⟩
    · exact .inl (List.mem_singleton.1 hnew)
  | payoutSent _ _ hP => exact hupdate rfl rfl hP rfl fun _ => rfl
  | payoutAmbiguous _ _ hP => exact hupdate rfl rfl hP rfl fun _ => rfl
  | payoutFailed _ _ _ hP => exact hupdate rfl rfl hP rfl fun _ => rfl
  | payoutSucceeded _ _ _ hP => exact hupdate rfl rfl hP rfl fun _ => rfl
  | _ => exact hw.stamped

lemma Change.attemptsDated (h : Change cfg l held ms w w') (hw : w.AttemptsDated) : w'.AttemptsDated := by
  refine ⟨h.attemptsStamped hw, fun k a' ha' hs => ?_⟩
  rcases h.attempt k with hsame | ⟨-, -, a, ha, hfresh, -⟩ | ⟨a, a'', ha, -, hnotes, ha''⟩
  · exact hw.sent k a' (hsame.symm.trans ha') hs
  · rw [ha] at ha'
    cases ha'
    simp [hfresh] at hs
  · rw [ha''] at ha'
    cases ha'
    cases hnotes with
    | sent => rfl
    | observed _ _ _ _ _ hne => exact absurd hs hne

lemma World.Initial.attemptsDated (hw : w.Initial) : w.AttemptsDated := by
  refine ⟨fun q P hP => ?_, fun k a ha => ?_⟩
  · simp [hw.payouts] at hP
  · simp [World.attempt, hw.payouts] at ha

lemma Payout.WellFormed.open_attempt {P : Payout} (h : P.WellFormed) (hopen : P.status.terminal = false) :
    ∃ a ∈ P.attempts, a.status.terminal = false ∧ (∀ b ∈ P.attempts, b.status.terminal = false → b = a) ∧
      P.attempts.countP (fun a => !a.status.terminal) = 1 ∧ P.attempt? a.attemptNumber = some a := by
  obtain ⟨earlier, last, hattempts, hfailed, htally⟩ := h.attempts
  have hlast : last.status.terminal = false := by
    rcases htally with hboth | ⟨-, hs⟩ | ⟨-, hs⟩
    · exact hboth.1
    all_goals simp [hs, OperationStatus.terminal] at hopen
  have hearly : ∀ a ∈ earlier, a.status.terminal = true := by
    intro a ha
    simp [hfailed a ha, AttemptStatus.terminal]
  refine ⟨last, by simp [hattempts], hlast, fun b hb hb' => ?_, ?_, ?_⟩
  · rw [hattempts] at hb
    rcases List.mem_append.1 hb with hbefore | hb
    · simp [hearly b hbefore] at hb'
    · exact List.mem_singleton.1 hb
  · have hzero : earlier.countP (fun a => !a.status.terminal) = 0 := by
      rw [List.countP_eq_zero]
      intro a ha
      simp [hearly a ha]
    simp [hattempts, List.countP_append, hzero, hlast]
  · have hnodup : (P.attempts.map PayoutAttempt.attemptNumber).Nodup := by
      rw [h.numbers]
      exact List.nodup_range'
    rw [hattempts, List.map_append, List.nodup_append] at hnodup
    rw [attempt?, hattempts, List.find?_append, List.find?_eq_none.2]
    · simp
    · intro a ha
      have hne := hnodup.2.2 _ (List.mem_map_of_mem ha) last.attemptNumber (by simp)
      simpa using hne

variable {a : PayoutAttempt} {q : PayoutId}

lemma World.mem_attemptIds {P : Payout}
    (hP : w.payouts.get q = some P) (ha : a ∈ P.attempts) : (q, a.attemptNumber) ∈ w.attemptIds := by
  rw [attemptIds, List.mem_flatMap]
  exact ⟨(q, P), Table.mem_rows.2 hP, List.mem_map_of_mem (f := fun a => (q, a.attemptNumber)) ha⟩

lemma World.mem_dispatchable {P : Payout} (hP : w.payouts.get q = some P) (ha : a ∈ P.attempts)
    (hs : a.status = .prepared ∨ a.status = .ambiguous) : (q, a.attemptNumber) ∈ w.dispatchable := by
  rw [dispatchable, List.mem_flatMap]
  refine ⟨(q, P), Table.mem_rows.2 hP, ?_⟩
  refine List.mem_map_of_mem (f := fun a => (q, a.attemptNumber)) (List.mem_filter.2 ⟨ha, ?_⟩)
  simpa using hs

lemma World.AttemptsDated.selected (hw : w.AttemptsDated) {P : Payout}
    (hP : w.payouts.get q = some P) (ha : a ∈ P.attempts) (hattempt : P.attempt? a.attemptNumber = some a)
    (hopen : a.status.terminal = false) :
    ∃ T, ∀ w' : World, w'.payouts.get q = some P →
      w'.attemptStamps.get (q, a.attemptNumber) = w.attemptStamps.get (q, a.attemptNumber) →
      T ≤ w'.now → (q, a.attemptNumber) ∈ w'.dispatchable ∨
        (q, a.attemptNumber) ∈ w'.attemptIds.filter (w'.staleSent w'.now) := by
  have hcases : a.status = .prepared ∨ a.status = .ambiguous ∨ a.status = .sent := by
    cases hs : a.status <;> simp [hs, AttemptStatus.terminal] at hopen ⊢
  by_cases hsent : a.status = .sent
  · obtain ⟨sent, hsentAt⟩ := Option.isSome_iff_exists.1 (hw.sent (q, a.attemptNumber) a
      ((World.attempt_eq hP _).trans hattempt) hsent)
    obtain ⟨stamp, hstamp⟩ := Option.isSome_iff_exists.1
      (hw.stamped q P hP _ (List.mem_map_of_mem (f := PayoutAttempt.attemptNumber) ha))
    refine ⟨max (sent + seconds sentRecoveryGraceSeconds) (stamp + seconds sentRecoveryLeaseSeconds),
      fun w' hP' hstamp' hnow => .inr (List.mem_filter.2 ⟨World.mem_attemptIds hP' ha, ?_⟩)⟩
    have hgrace : sent + seconds sentRecoveryGraceSeconds ≤ w'.now := (le_max_left _ _).trans hnow
    have hlease : stamp + seconds sentRecoveryLeaseSeconds ≤ w'.now := (le_max_right _ _).trans hnow
    rw [hstamp] at hstamp'
    rw [World.staleSent, hP', Option.bind_some, hattempt, hstamp']
    simp only
    rw [hsentAt, Option.any_some, Bool.and_eq_true, Bool.and_eq_true]
    exact ⟨⟨decide_eq_true hsent, decide_eq_true hgrace⟩, decide_eq_true hlease⟩
  · refine ⟨0, fun w' hP' _ _ => .inl (World.mem_dispatchable hP' ha ?_)⟩
    rcases hcases with hs | hs | hs
    · exact .inl hs
    · exact .inr hs
    · exact absurd hs hsent

end Payouts

theorem nothing_orphaned {cfg : Service} {out : Outside} {w : World} {c : State} (hw : w.Initial)
    (h : ReachWithin (relaypay cfg out) World.ReportsFollowSends (.idle w) c) :
    (∀ o op, c.shared.operations.get o = some op → op.status = .processing →
      ∃ T, ∀ w' : World, w'.operations.get o = some op → T ≤ w'.now →
        o ∈ w'.selectOperations (fun op => op.unsent w'.now) (fun op => op.createdAt)
          w'.operations.rows.length ∨
        o ∈ w'.selectOperations (fun op => op.due w'.now) (fun op => op.nextLookupAt.getD 0)
          w'.operations.rows.length) ∧ (∀ o op, c.shared.operations.get o = some op → op.status = .requiresReview →
      ∀ (w' : World) (token : Token), w'.operations.get o = some op → op.leaseFree w'.now = true →
        ∃ w'', ((claimSpecificOperation o token true).atCommit validatePayoutCoverage []).exec w' =
          .ok (⟨o, token⟩, w'')) ∧
    ∀ q P, c.shared.payouts.get q = some P → P.status = .processing ∨ P.status = .requiresReview →
      ∃ a ∈ P.attempts, a.status.terminal = false ∧ P.attempts.countP (fun a => !a.status.terminal) = 1 ∧
        ∃ T, ∀ w' : World, w'.payouts.get q = some P →
          w'.attemptStamps.get (q, a.attemptNumber) = c.shared.attemptStamps.get (q, a.attemptNumber) →
          T ≤ w'.now → (q, a.attemptNumber) ∈ w'.dispatchable ∨
            (q, a.attemptNumber) ∈ w'.attemptIds.filter (w'.staleSent w'.now) := by
  have hreports : w.ReportsFollowSends := by
    rintro o ⟨e, ev, hev, -⟩
    simp [hw.pspEvents] at hev
  have hinitial : w.OperationsRecoverable := by
    intro o op hop
    simp [hw.operations] at hop
  have hoperations := (recoverable_modular.within (relaypay_disciplined cfg out) h hw.mirrored hreports
    hinitial).1
  have hpayouts := reach_preserves (I := fun w => w.PayoutsWellFormed ∧ w.AttemptsDated)
    (fun hchange hI => ⟨hchange.payoutsWellFormed hI.1, hchange.attemptsDated hI.2⟩) hw.mirrored
    ⟨hw.consistent.payouts, hw.attemptsDated⟩ h.reach
  refine ⟨fun o op hop hs => ?_, fun o op hop hs w' token hop' hlease => ?_, fun q P hP hs => ?_⟩
  · obtain ⟨T, hT⟩ := (hoperations o op hop).unsent_or_due hs
    refine ⟨T, fun w' hop' hnow => ?_⟩
    rcases hT w'.now hnow with hunsent | hdue
    · exact .inl (World.mem_selectOperations hop' hunsent)
    · exact .inr (World.mem_selectOperations hop' hdue)
  · exact (hoperations o op hop).claimed hs hop' hlease token
  · have hopen : P.status.terminal = false := by
      rcases hs with hs | hs <;> simp [hs, OperationStatus.terminal]
    obtain ⟨a, ha, haopen, -, hone, hattempt⟩ := (hpayouts.1 q P hP).open_attempt hopen
    exact ⟨a, ha, haopen, hone, hpayouts.2.selected hP ha hattempt haopen⟩

def shopOpen : List (Move Local Call Happening) :=
  shopSale.take 26 ++
  [.spawn (.dispatch .stop (.refund 1 1)), .run 7, .run 7, .act 7 .send,
    .act 7 (.answer (some ⟨200, [3], [], 0⟩)), .run 7, .run 7,
    .spawn (.command (.refund 1 2 500) (shopKey "refund-2")), .run 8,
    .spawn (.createPayout ⟨1, 1, 1, 2000, ⟨"payout"⟩, sha256 [], .rowLock⟩ false), .run 9,
    .spawn (.payoutBatch 10), .run 10, .run 10, .run 10]

lemma World.reportsFollowSends_of_empty {w : World} (h : w.pspEvents.rows.isEmpty = true) : w.ReportsFollowSends := by
  rintro o ⟨e, ev, hev, -⟩
  rw [List.isEmpty_iff] at h
  simpa [h] using Table.mem_rows.2 hev

lemma shopOpen_within : ReachWithin (relaypay shop shopRules.outside) World.ReportsFollowSends
    (.idle shopWorld) (.resting (shopAfter shopOpen).1 (shopAfter shopOpen).2) := by
  have hplays : shopPlays shopOpen = true := by decide +kernel
  refine (Player.final_within hplays (?_ : Player.along _ (fun w => w.pspEvents.rows.isEmpty) _ _ = true)).mono
    fun w => World.reportsFollowSends_of_empty
  decide +kernel

theorem nothing_orphaned_shop :
    (∃ op, (shopAfter shopOpen).1.operations.get (.refund 1 2) = some op ∧ op.status = .processing ∧
      ∃ T, ∀ w' : World, w'.operations.get (.refund 1 2) = some op → T ≤ w'.now →
        .refund 1 2 ∈ w'.selectOperations (fun op => op.unsent w'.now) (fun op => op.createdAt)
          w'.operations.rows.length ∨
        .refund 1 2 ∈ w'.selectOperations (fun op => op.due w'.now) (fun op => op.nextLookupAt.getD 0)
          w'.operations.rows.length) ∧ (∃ op, (shopAfter shopOpen).1.operations.get (.refund 1 1) = some op ∧
      op.status = .requiresReview ∧ ∀ (w' : World) (token : Token),
        w'.operations.get (.refund 1 1) = some op → op.leaseFree w'.now = true →
        ∃ w'', ((claimSpecificOperation (.refund 1 1) token true).atCommit validatePayoutCoverage
          []).exec w' = .ok (⟨.refund 1 1, token⟩, w'')) ∧
    ∃ P, (shopAfter shopOpen).1.payouts.get 1 = some P ∧ P.status = .processing ∧
      ∃ a ∈ P.attempts, a.status.terminal = false ∧
        P.attempts.countP (fun a => !a.status.terminal) = 1 := by
  obtain ⟨hprocessing, hreview, hpayouts⟩ := nothing_orphaned shopWorld_initial shopOpen_within
  have hrefund : ((shopAfter shopOpen).1.operations.get (.refund 1 2)).map ProviderOperation.status =
      some .processing := by decide +kernel
  have hparked : ((shopAfter shopOpen).1.operations.get (.refund 1 1)).map ProviderOperation.status =
      some .requiresReview := by decide +kernel
  have hpaying : ((shopAfter shopOpen).1.payouts.get 1).map Payout.status = some .processing := by
    decide +kernel
  obtain ⟨op, hop, hs⟩ := Option.map_eq_some_iff.1 hrefund
  obtain ⟨op', hop', hs'⟩ := Option.map_eq_some_iff.1 hparked
  obtain ⟨P, hP, hsP⟩ := Option.map_eq_some_iff.1 hpaying
  obtain ⟨a, ha, hopen, hone, -⟩ := hpayouts 1 P hP (.inl hsP)
  exact ⟨⟨op, hop, hs, hprocessing _ op hop hs⟩, ⟨op', hop', hs', hreview _ op' hop' hs'⟩,
    P, hP, hsP, a, ha, hopen, hone⟩

end RelayPay
