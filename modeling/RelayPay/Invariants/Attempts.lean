import RelayPay.Invariants.Contacts

/-! A payout attempt is sent once and opened when all before it have failed, so one transfer goes through at most. -/

namespace RelayPay

open ReadCommitted

def World.attempt (w : World) (k : AttemptId) : Option PayoutAttempt :=
  (w.payouts.get k.1).bind fun P => P.attempt? k.2

inductive PayoutAttempt.Notes (cfg : Service) (l : Local) (now : Time) (k : AttemptId)
    (a : PayoutAttempt) : PayoutAttempt → Prop
  | sent {rest request t} : l = .payoutPrepare rest k.1 → a.lastSentAt = none → t ≤ now →
      Notes cfg l now k a (a.markSent request t)
  | observed {rest prepared obs cl cl' sha t status failureCode reviewReason} :
      l = .payoutRecord rest prepared obs cl → (prepared.payout, prepared.number) = k → t ≤ now →
      cl' = cl.afterGrace a.lastSentAt t cfg.notFoundGraceSeconds →
      (status = .failed → cl'.ambiguous = false ∧ cl'.succeeded = false) → status ≠ .sent →
      Notes cfg l now k a { a with
        status := status, failureCode := failureCode, reviewReason := reviewReason,
        evidence := a.evidence ++ [bankEvidence a sha prepared.lookupOnly obs cl' t] }

def PayoutAttempt.Fresh (a : PayoutAttempt) : Prop :=
  a.status = .prepared ∧ a.lastSentAt = none ∧ a.evidence = []

lemma Payout.attempt?_updateAttempt (P : Payout) (n : ℕ) {f : PayoutAttempt → PayoutAttempt}
    (hf : ∀ a, (f a).attemptNumber = a.attemptNumber) (n' : ℕ) :
    (P.updateAttempt n f).attempt? n' = (P.attempt? n').map fun a => if n' = n then f a else a := by
  have hsame : ((fun a : PayoutAttempt => decide (a.attemptNumber = n')) ∘
      fun a => if a.attemptNumber = n then f a else a) = fun a => decide (a.attemptNumber = n') := by
    funext a
    by_cases ha : a.attemptNumber = n <;> simp [ha, hf]
  rw [attempt?, updateAttempt, List.find?_map, hsame, ← attempt?]
  cases ha : P.attempt? n' with
  | none => rfl
  | some a =>
    have hn : a.attemptNumber = n' := by simpa using List.find?_some ha
    simp [hn]

lemma Payout.attempt?_opened {P P' : Payout} {n : ℕ} {d f b}
    (h : P'.attempts = P.attempts ++ [preparedAttempt n d f b]) (n' : ℕ) :
    P'.attempt? n' = (P.attempt? n').or (if n = n' then some (preparedAttempt n d f b) else none) := by
  rw [attempt?, h, List.find?_append, ← attempt?]
  by_cases hn : n = n' <;> simp [hn, preparedAttempt]

section Steps

variable {cfg : Service} {out : Outside} {l l' : Local} {held : List Key} {ms : List MerchantId}
variable {w w' : World} {k : AttemptId} {a a' : PayoutAttempt}

variable {q : PayoutId} {P : Payout}

lemma World.attempt_put (hpayouts : w'.payouts = w.payouts.put q P)
    (k : AttemptId) : w'.attempt k = if k.1 = q then P.attempt? k.2 else w.attempt k := by
  rw [attempt, attempt, hpayouts, Table.get_put]
  split <;> rfl

lemma World.attempt_eq (hP : w.payouts.get q = some P) (n : ℕ) : w.attempt (q, n) = P.attempt? n := by
  simp [attempt, hP]

def Change.Attempt (cfg : Service) (l : Local) (w w' : World) (k : AttemptId) : Prop :=
  w'.attempt k = w.attempt k ∨ (w.attempt k = none ∧ (w.payouts.get k.1 = none ∨ ∃ c, l = .retryPayout c) ∧
    ∃ a, w'.attempt k = some a ∧ a.Fresh) ∨
  ∃ a a', w.attempt k = some a ∧ a.status.terminal = false ∧ a.Notes cfg l w.now k a' ∧ w'.attempt k = some a'

lemma Change.attempt (h : Change cfg l held ms w w') (k : AttemptId) : Change.Attempt cfg l w w' k := by
  -- an update of the attempt `n` of the payout `q`
  have hput : ∀ {q n P P' a f}, w'.payouts = w.payouts.put q P' → w.payouts.get q = some P →
      P'.attempts = (P.updateAttempt n f).attempts → (∀ b, (f b).attemptNumber = b.attemptNumber) →
      P.attempt? n = some a → a.status.terminal = false → a.Notes cfg l w.now (q, n) (f a) →
      Change.Attempt cfg l w w' k := by
    intro q n P P' a f hpayouts hP hattempts hf ha hopen hnotes
    obtain ⟨q', n'⟩ := k
    rw [Change.Attempt, World.attempt_put hpayouts]
    by_cases hq : q' = q
    · subst hq
      have hupdated : P'.attempt? n' = (P.updateAttempt n f).attempt? n' := by
        rw [Payout.attempt?, Payout.attempt?, hattempts]
      rw [if_pos rfl, World.attempt_eq hP, hupdated, Payout.attempt?_updateAttempt P n hf]
      by_cases hn : n' = n
      · subst hn
        exact .inr (.inr ⟨a, f a, ha, hopen, hnotes, by simp [ha]⟩)
      · simp [hn]
    · exact .inl (if_neg hq)
  cases h with
  | finalized => exact .inl (by simp [World.attempt])
  | @payoutCreated t c _ _ hnone _ =>
    rw [Change.Attempt, World.attempt_put (w := w) (q := c.id) (P := c.row) rfl]
    by_cases hq : k.1 = c.id
    · have hk : w.attempt k = none := by simp [World.attempt, hq, hnone]
      rw [if_pos hq, hk]
      by_cases hn : k.2 = 1
      · exact .inr (.inl ⟨rfl, .inl (hq ▸ hnone), preparedAttempt 1 none none none, by rw [hn]; rfl,
          rfl, rfl, rfl⟩)
      · left
        rw [Payout.attempt?_opened (P := newPayout c.merchant c.beneficiary c.amount c.keyDigest
          c.fingerprint) (n := 1) rfl, if_neg (Ne.symm hn)]
        rfl
    · exact .inl (if_neg hq)
  | @payoutRetried P t c hl _ _ hP _ _ =>
    rw [Change.Attempt, World.attempt_put (w := w) (q := c.payout) rfl]
    by_cases hq : k.1 = c.payout
    · have hk : w.attempt k = P.attempt? k.2 := by simp [World.attempt, hq, hP]
      rw [if_pos hq, hk, Payout.attempt?_opened (P := P) (n := P.lastNumber + 1) rfl]
      cases hn : P.attempt? k.2 with
      | some b => exact .inl rfl
      | none =>
        by_cases hnew : P.lastNumber + 1 = k.2
        · refine .inr (.inl ⟨rfl, .inr ⟨c, hl⟩, ?_⟩)
          rw [Option.none_or, if_pos hnew]
          exact ⟨_, rfl, rfl, rfl, rfl⟩
        · exact .inl (by rw [Option.none_or, if_neg hnew])
    · exact .inl (if_neg hq)
  | @payoutSent rest q P a request t hl _ hP ha hopen hsent _ ht =>
    have hnumber : a.attemptNumber = P.lastNumber := by simpa using List.find?_some ha
    have hattempt : P.attempt? a.attemptNumber = some a := by
      rw [hnumber]
      exact ha
    exact hput rfl hP (f := fun a => a.markSent request t) rfl (fun _ => rfl) hattempt hopen
      (.sent hl hsent ht)
  | payoutAmbiguous hl _ hP ha hopen _ ht hcl hamb =>
    refine hput rfl hP (f := fun a => { a with
      status := .ambiguous, reviewReason := _, evidence := a.evidence ++ [_] }) rfl (fun _ => rfl) ha
      hopen ?_
    exact .observed hl rfl ht hcl (fun hs => nomatch hs) (by simp)
  | payoutFailed hl _ _ hP ha hopen _ ht hcl hamb hs =>
    refine hput rfl hP (f := fun a => { a with
      status := .failed, failureCode := _, evidence := a.evidence ++ [_] }) rfl (fun _ => rfl) ha
      hopen ?_
    exact .observed hl rfl ht hcl (fun _ => ⟨hamb, hs⟩) (by simp)
  | payoutSucceeded hl _ _ hP ha hopen _ ht hcl _ _ _ _ _ =>
    refine hput rfl hP (f := fun a => { a with
      status := .succeeded, evidence := a.evidence ++ [_] }) rfl (fun _ => rfl) ha hopen ?_
    exact .observed hl rfl ht hcl (fun hs => nomatch hs) (by simp)
  | _ => exact .inl rfl

lemma PayoutAttempt.Notes.lastSentAt (h : a.Notes cfg l w.now k a') (hsent : a.lastSentAt.isSome = true) :
    a'.lastSentAt = a.lastSentAt := by
  cases h with
  | sent _ hnone => simp [hnone] at hsent
  | observed => rfl

structure World.AttemptsKept (w w' : World) : Prop where
  final : ∀ k a, w.attempt k = some a → a.status.terminal = true → w'.attempt k = some a
  sent : ∀ k a t, w.attempt k = some a → a.lastSentAt = some t →
    ∃ a', w'.attempt k = some a' ∧ a'.lastSentAt = some t

lemma World.AttemptsKept.refl (w : World) : w.AttemptsKept w :=
  ⟨fun _ _ ha _ => ha, fun _ a _ ha ht => ⟨a, ha, ht⟩⟩

variable {w₀ : World}

lemma Change.attemptsKept (h : Change cfg l held ms w w') (h₀ : w₀.AttemptsKept w) : w₀.AttemptsKept w' := by
  constructor
  · intro k a ha hterminal
    have hw := h₀.final k a ha hterminal
    rcases h.attempt k with hsame | ⟨hnone, -⟩ | ⟨b, -, hb, hopen, -⟩
    · rw [hsame, hw]
    · simp [hw] at hnone
    · rw [hw] at hb
      cases hb
      simp [hterminal] at hopen
  · intro k a t ha ht
    obtain ⟨b, hb, hsent⟩ := h₀.sent k a t ha ht
    rcases h.attempt k with hsame | ⟨hnone, -⟩ | ⟨b', a', hb', -, hnotes, ha'⟩
    · exact ⟨b, hsame.trans hb, hsent⟩
    · simp [hb] at hnone
    · rw [hb] at hb'
      cases hb'
      exact ⟨a', ha', (hnotes.lastSentAt (by simp [hsent])).trans hsent⟩

lemma Committed.attemptsKept (h : Committed cfg l w held l' w') : w.AttemptsKept w' :=
  h.preserves Change.attemptsKept (.refl w)

structure Opening (l : Local) (w w' : World) : Prop where
  payouts : ∀ q, w'.payouts.get q = none → w.payouts.get q = none
  opened : ∀ k, w.attempt k = none → w'.attempt k ≠ none →
    w.payouts.get k.1 = none ∨ ∃ c, l = .retryPayout c
  retry : ∀ c, l = .retryPayout c → ∀ k a, w.attempt k = some a → w'.attempt k = some a

lemma Change.payouts_persist (h : Change cfg l held ms w w')
    (hq : w'.payouts.get q = none) : w.payouts.get q = none := by
  have hput : ∀ {q' P}, w'.payouts = w.payouts.put q' P → w.payouts.get q = none := by
    intro q' P hpayouts
    rw [hpayouts, Table.get_put] at hq
    split at hq
    · cases hq
    · exact hq
  cases h with
  | finalized => simpa using hq
  | payoutCreated => exact hput rfl
  | payoutRetried => exact hput rfl
  | payoutSent => exact hput rfl
  | payoutAmbiguous => exact hput rfl
  | payoutFailed => exact hput rfl
  | payoutSucceeded => exact hput rfl
  | _ => exact hq

lemma Change.opening (h : Change cfg l held ms w w') (h₀ : Opening l w₀ w) : Opening l w₀ w' := by
  constructor
  · exact fun q hq => h₀.payouts q (h.payouts_persist hq)
  · intro k hnone hsome
    by_cases hk : w.attempt k = none
    · rcases h.attempt k with hsame | ⟨-, hfrom, -⟩ | ⟨a, -, ha, -⟩
      · exact absurd (hsame.trans hk) hsome
      · exact hfrom.imp_left (h₀.payouts k.1)
      · simp [hk] at ha
    · exact h₀.opened k hnone hk
  · intro c hl k a ha
    have hk := h₀.retry c hl k a ha
    rcases h.attempt k with hsame | ⟨hnone, -⟩ | ⟨b, a', -, -, hnotes, -⟩
    · exact hsame.trans hk
    · simp [hk] at hnone
    · subst hl
      cases hnotes with
      | sent hl => cases hl
      | observed hl => cases hl

lemma Committed.opening (h : Committed cfg l w held l' w') : Opening l w w' := by
  refine h.preserves Change.opening ⟨fun _ hq => hq, fun k hnone hsome => ?_, fun _ _ _ _ ha => ha⟩
  exact absurd hnone hsome

lemma Payout.WellFormed.attempt?_isSome (h : P.WellFormed) (n : ℕ) :
    (P.attempt? n).isSome = true ↔ 1 ≤ n ∧ n ≤ P.attempts.length := by
  have hmem : (P.attempt? n).isSome = true ↔ n ∈ P.attempts.map PayoutAttempt.attemptNumber := by
    simp [Payout.attempt?, List.find?_isSome]
  rw [hmem, h.numbers, List.mem_range'_1]
  omega

lemma Payout.WellFormed.earlier_failed (h : P.WellFormed) {n n' : ℕ}
    (ha : P.attempt? n = some a) (hn : n < n') (hn' : n' ≤ P.attempts.length) : a.status = .failed := by
  obtain ⟨earlier, last, hattempts, hfailed, -⟩ := h.attempts
  have hnumber : a.attemptNumber = n := by simpa using List.find?_some ha
  have hmem : a ∈ earlier ++ [last] := hattempts ▸ List.mem_of_find?_eq_some ha
  rcases List.mem_append.1 hmem with hearly | hlast
  · exact hfailed a hearly
  · -- the last attempt carries the highest number
    have hnumbers := congrArg List.getLast? h.numbers
    rw [hattempts, List.map_append, List.map_singleton, List.getLast?_concat, List.length_append,
      List.length_singleton, List.range'_concat, List.getLast?_concat] at hnumbers
    have hlength : P.attempts.length = earlier.length + 1 := by simp [hattempts]
    have hlast' : a = last := by simpa using hlast
    subst hlast'
    simp only [Option.some.injEq] at hnumbers
    omega

lemma Committed.retries (h : Committed cfg l w held l' w') (hw : w.PayoutsWellFormed)
    (hw' : w'.PayoutsWellFormed) {n n' : ℕ} (hnone : w.attempt (q, n) = none)
    (hsome : w'.attempt (q, n) ≠ none) (ha : w.attempt (q, n') = some a) : a.status = .failed := by
  obtain ⟨P, hP, haP⟩ := Option.bind_eq_some_iff.1 ha
  rcases h.opening.opened _ hnone hsome with hq | ⟨c, hl⟩
  · simp [hP] at hq
  · have ha' := h.opening.retry c hl _ _ ha
    obtain ⟨P', hP', haP'⟩ := Option.bind_eq_some_iff.1 ha'
    rw [World.attempt_eq hP] at hnone
    rw [World.attempt_eq hP'] at hsome
    have hold := ((hw q P hP).attempt?_isSome n').1 (by simp [haP])
    have hnew := ((hw' q P' hP').attempt?_isSome n).1 (Option.isSome_iff_ne_none.2 hsome)
    have hgap : ¬(1 ≤ n ∧ n ≤ P.attempts.length) := by
      rw [← (hw q P hP).attempt?_isSome n, hnone]
      simp
    have hearlier : n' < n := by omega
    exact (hw' q P' hP').earlier_failed haP' hearlier hnew.2

def Local.pays : Local → Option AttemptId
  | .payoutCalling _ prepared =>
    if prepared.lookupOnly then none else some (prepared.payout, prepared.number)
  | _ => none

def payPermits : Permits World Local AttemptId where
  holds := Local.pays
  issued w k := ∃ a, w.attempt k = some a ∧ a.lastSentAt.isSome = true
  spent w k := w.bank.mutations k

lemma pays_quiet (h : l.carries = false) : payPermits.holds l = none := by
  cases l <;> first | rfl | cases h

lemma World.AttemptsKept.issued (h : w.AttemptsKept w') (hissued : payPermits.issued w k) : payPermits.issued w' k := by
  obtain ⟨a, ha, hsome⟩ := hissued
  obtain ⟨t, ht⟩ := Option.isSome_iff_exists.1 hsome
  obtain ⟨a', ha', ht'⟩ := h.sent k a t ha ht
  exact ⟨a', ha', by simp [ht']⟩

lemma Committed.pays (h : Committed cfg l w held l' w') {t : Tx Local}
    (ht : transaction cfg l = some t) : payPermits.Moves l w l' w' := by
  have hspent : ∀ k, payPermits.spent w' k = payPermits.spent w k := by
    intro k
    change w'.bank.mutations k = w.bank.mutations k
    rw [(h.counterparties ht).2]
  refine ⟨fun k => h.attemptsKept.issued, fun k => ?_⟩
  rw [hspent]
  cases h.handover with
  | quiet hquiet => exact .inl (Permits.none_le (pays_quiet hquiet) _)
  | @payout rest q prepared w' hl hq hsend =>
    cases honly : prepared.lookupOnly with
    | true => exact .inl (Permits.none_le (by simp [payPermits, Local.pays, honly]) _)
    | false =>
      obtain ⟨P, a, t, hP, ha, hn, -, hnone, -, rfl⟩ := hsend honly
      have hnumber : a.attemptNumber = P.lastNumber := by simpa using List.find?_some ha
      have hattempt : P.attempt? prepared.number = some a := by
        rw [← hn, hnumber]
        exact ha
      by_cases hk : k = (q, prepared.number)
      · subst hk
        refine .inr ⟨?_, ⟨a.markSent prepared.requestBytes t, ?_, rfl⟩, ?_⟩
        · rintro ⟨b, hb, hsome⟩
          rw [World.attempt_eq hP, hattempt] at hb
          cases hb
          simp [hnone] at hsome
        · have hf : ∀ b : PayoutAttempt,
              (b.markSent prepared.requestBytes t).attemptNumber = b.attemptNumber := fun _ => rfl
          rw [World.attempt_put (w := w) (q := q) rfl, if_pos rfl,
            Payout.attempt?_updateAttempt P _ hf, hattempt]
          simp
        · have hhas := payPermits.has_le_one (.payoutCalling rest prepared) (q, prepared.number)
          omega
      · left
        rw [Permits.has, if_neg (by simp [payPermits, Local.pays, honly, hq, Ne.symm hk])]
        omega
  | expected _ _ => exact .inl (Permits.none_le rfl _)
  | prepared _ _ _ => exact .inl (Permits.none_le rfl _)
  | recording _ _ => exact .inl (Permits.none_le rfl _)

lemma Act.attempt (h : Act cfg out l w l' w') (k : AttemptId) : w'.attempt k = w.attempt k := by
  cases h <;> rfl

lemma Environment.attempt (h : Environment out w w') (k : AttemptId) : w'.attempt k = w.attempt k := by
  cases h <;> rfl

lemma afterBankReply_pays (rest : List PayoutId) (prepared : PreparedAttempt)
    (obs : Option Observation) : (Local.afterBankReply cfg rest prepared obs).pays = none := by
  unfold Local.afterBankReply
  split <;> rfl

lemma Act.pays (h : Act cfg out l w l' w') : payPermits.Moves l w l' w' := by
  have hissued : ∀ k, payPermits.issued w k → payPermits.issued w' k := by
    rintro k ⟨a, ha, hsome⟩
    exact ⟨a, by rw [h.attempt, ha], hsome⟩
  refine ⟨hissued, fun k => .inl ?_⟩
  cases h with
  | @sendPayout _ rest prepared honly =>
    have hspent : payPermits.spent (w.setBank (w.bank.contact (.mutate
        (prepared.payout, prepared.number) prepared.requestBytes))) k = payPermits.spent w k +
          if (prepared.payout, prepared.number) = k then 1 else 0 := by
      refine (w.bank.mutations_contact _ k).trans ?_
      simp [Contact.mutates, payPermits]
    have hhas : payPermits.has (.payoutCalling rest prepared) k =
        if (prepared.payout, prepared.number) = k then 1 else 0 := by
      simp [Permits.has, payPermits, Local.pays, honly]
    rw [hspent, hhas, Permits.has_eq_zero (by rfl)]
    omega
  | receivePayout _ _ => exact Permits.none_le (afterBankReply_pays _ _ _) _
  | lookupPayout _ _ _ =>
    have hspent : ∀ k', payPermits.spent (w.setBank (w.bank.contact (.lookup k'))) k =
        payPermits.spent w k := by
      intro k'
      refine (w.bank.mutations_contact _ k).trans ?_
      simp [Contact.mutates, payPermits]
    rw [hspent]
    exact Permits.none_le (afterBankReply_pays _ _ _) _
  | send _ => exact le_of_eq rfl
  | receive _ _ => exact le_of_eq rfl
  | lookup _ _ _ => exact le_of_eq rfl
  | recover _ _ => exact le_of_eq rfl

lemma payPermits_kept (cfg : Service) (out : Outside) :
    payPermits.Kept locks (relaypay cfg out) World.Mirrored where
  spawn hl := pays_quiet (Local.starts_carries hl)
  commit _ ht he := (committed ht he).pays ht
  fail l e := pays_quiet (onError_carries l e)
  act _ ha := ha.pays
  env _ he k := by
    constructor
    · rintro ⟨a, ha, hsome⟩
      exact ⟨a, by rw [he.attempt, ha], hsome⟩
    · change Counterparty.mutations _ k = Counterparty.mutations _ k
      rw [Counterparty.mutations, Counterparty.mutations, he.contacts.2]

def Observation.bankSays (cfg : Service) (x : Observation) (outcome : String) : Prop :=
  header x.headers "x-bank-signature" = some (cfg.hmacHex cfg.bankSigningSecret x.body) ∧
    ∃ r, cfg.loads x.body = some r ∧ hasStr r "outcome" outcome = true

def Observation.bankAbsent (cfg : Service) (x : Observation) : Prop :=
  x.statusCode = 404 ∧ x.bankSays cfg "NOT_FOUND"

lemma classifyBankOutcome_cases (r : Json) :
    classifyBankOutcome r = ⟨true, true, false, some true, none⟩ ∨
    (hasStr r "outcome" "DECLINED" = true ∧
      ∃ code, classifyBankOutcome r = ⟨true, false, false, some true, some code⟩) ∨
    classifyBankOutcome r = bankAmbiguous (some true) "BANK_OUTCOME_PENDING" := by
  unfold classifyBankOutcome
  split
  · exact .inl rfl
  · split
    · split
      · next hdeclined => exact .inr (.inl ⟨(Bool.and_eq_true_iff.1 hdeclined).1, _, rfl⟩)
      · exact .inr (.inr rfl)
    · exact .inr (.inr rfl)

structure BankClassification.Rests (cfg : Service) (cl : BankClassification)
    (obs : Option Observation) : Prop where
  refusal : cl.ambiguous = false → cl.succeeded = false →
    ∃ x, obs = some x ∧ x.bankSays cfg "DECLINED"
  absence : cl.ambiguous = true → cl.code = some bankNotFoundCode →
    ∃ x, obs = some x ∧ x.bankAbsent cfg
  success : cl.succeeded = true → cl.code = none
  final : cl.terminal = true → cl.ambiguous = false

variable {obs : Option Observation}

lemma bankAmbiguous_rests {s : Option Bool} {code : String}
    (h : code ≠ bankNotFoundCode) : (bankAmbiguous s code).Rests cfg obs where
  refusal := nofun
  absence _ hcode := absurd (Option.some.inj hcode) h
  success := nofun
  final := nofun

lemma classifyBankReply_rests {x : Observation} {request : BankRequest} {r : Json}
    (hsigned : header x.headers "x-bank-signature" = some (cfg.hmacHex cfg.bankSigningSecret x.body))
    (hr : cfg.loads x.body = some r) : (classifyBankReply x request r).Rests cfg (some x) := by
  unfold classifyBankReply
  split
  · next hnotfound =>
    split
    · exact ⟨nofun, fun _ _ => ⟨x, rfl, hnotfound.1, hsigned, r, hr, hnotfound.2⟩, nofun, nofun⟩
    · exact bankAmbiguous_rests (by decide)
  · split
    · exact bankAmbiguous_rests (by decide)
    · rcases classifyBankOutcome_cases r with heq | ⟨hdeclined, code, heq⟩ | heq <;> rw [heq]
      · exact ⟨nofun, nofun, fun _ => rfl, fun _ => rfl⟩
      · exact ⟨fun _ _ => ⟨x, rfl, hsigned, r, hr, hdeclined⟩, nofun, nofun, fun _ => rfl⟩
      · exact bankAmbiguous_rests (by decide)

variable {cl : BankClassification}

lemma classifyBank_rests {request : Bytes} (h : classifyBank cfg obs request = .ok cl) : cl.Rests cfg obs := by
  cases obs with
  | none =>
    cases h
    exact bankAmbiguous_rests (by decide)
  | some x =>
    simp only [classifyBank] at h
    split at h
    · cases h
      exact bankAmbiguous_rests (by decide)
    · split at h
      · cases h
        exact bankAmbiguous_rests (by decide)
      · next hsigned =>
        have hsigned := not_not.1 hsigned
        split at h
        · next response _ hresponse _ =>
          split at h
          · cases h
          · split at h
            · cases h
              exact classifyBankReply_rests hsigned hresponse
            · cases h
        · cases h
          exact bankAmbiguous_rests (by decide)

lemma BankClassification.afterGrace_cases (cl : BankClassification) (sent : Option Time) (t : Time)
    (grace : ℕ) : cl.afterGrace sent t grace = cl ∨ (cl.code = some bankNotFoundCode ∧
      cl.afterGrace sent t grace = ⟨true, false, false, some true, some bankNotFoundCode⟩) := by
  cases sent with
  | none => exact .inl rfl
  | some s =>
    simp only [afterGrace]
    split
    · next hlate => exact .inr ⟨hlate.1, rfl⟩
    · exact .inl rfl

lemma BankClassification.Rests.refused (h : cl.Rests cfg obs) {sent : Option Time} {t : Time} {grace : ℕ}
    (hamb : (cl.afterGrace sent t grace).ambiguous = false) (hs : (cl.afterGrace sent t grace).succeeded = false) :
    (∃ x, obs = some x ∧ x.bankSays cfg "DECLINED") ∨
      ((∃ x, obs = some x ∧ x.bankAbsent cfg) ∧ (cl.afterGrace sent t grace).terminal = true) := by
  rcases cl.afterGrace_cases sent t grace with hsame | ⟨hcode, hlate⟩
  · rw [hsame] at hamb hs
    exact .inl (h.refusal hamb hs)
  · cases hcl : cl.ambiguous with
    | true => exact .inr ⟨h.absence hcl hcode, by rw [hlate]⟩
    | false =>
      cases hyes : cl.succeeded with
      | true => simp [h.success hyes] at hcode
      | false => exact .inl (h.refusal hcl hyes)

def PayoutEvidence.absence (cfg : Service) (ev : PayoutEvidence) : Bool :=
  ev.classification = some .verifiedBusinessDecline && ev.responseHttpStatus = some 404 &&
    (ev.responseBytes.bind cfg.loads).any fun r => hasStr r "outcome" "NOT_FOUND"

lemma bankEvidence_absence {x : Observation} (hx : x.bankAbsent cfg)
    (hs : cl.succeeded = false) (hterminal : cl.terminal = true) (sha : Digest) (lookupOnly : Bool)
    (t : Time) : (bankEvidence a sha lookupOnly (some x) cl t).absence cfg = true := by
  obtain ⟨hstatus, -, r, hr, hout⟩ := hx
  simp [PayoutEvidence.absence, bankEvidence, hs, hterminal, hstatus, hr, hout]

def Counterparty.declined {ι : Type} [DecidableEq ι] (c : Counterparty ι) (k : ι) : Prop :=
  ∃ code t, c.effects.get k = some ⟨.declined code, t⟩

lemma Counterparty.Applies.declined {ι : Type} [DecidableEq ι] {now : Time} {c c' : Counterparty ι}
    {k k' : ι} {outcome : EffectOutcome} (h : c.Applies now k outcome c') (hk : c.declined k') : c'.declined k' := by
  obtain ⟨code, t, ht⟩ := hk
  have hother : ∀ {e}, c.effects.get k ≠ some ⟨.declined code, t⟩ →
      (c.effects.put k e).get k' = some ⟨.declined code, t⟩ := by
    intro e hne
    rw [Table.get_put_ne, ht]
    rintro rfl
    exact hne ht
  cases h with
  | first _ hnone => exact ⟨code, t, hother (by simp [hnone])⟩
  | settle hpending => exact ⟨code, t, hother (by simp [hpending])⟩

def Local.Backed (cfg : Service) (bank : Counterparty AttemptId) : Local → Prop
  | .payoutRecord _ prepared obs cl => cl.Rests cfg obs ∧ ∀ x, obs = some x →
      x.bankSays cfg "DECLINED" → bank.declined (prepared.payout, prepared.number)
  | _ => True

def World.FailuresBacked (cfg : Service) (bank : Counterparty AttemptId) (w : World) : Prop :=
  ∀ k a, w.attempt k = some a → a.status = .failed →
    bank.declined k ∨ ∃ ev ∈ a.evidence, ev.absence cfg = true

variable {bank : Counterparty AttemptId}

lemma Change.failuresBacked (h : Change cfg l held ms w w')
    (hl : l.Backed cfg bank) (hw : w.FailuresBacked cfg bank) : w'.FailuresBacked cfg bank := by
  intro k a' ha' hfailed
  rcases h.attempt k with hsame | ⟨-, -, b, hb, hfresh, -⟩ | ⟨a, b, ha, hopen, hnotes, hb⟩
  · exact hw k a' (hsame.symm.trans ha') hfailed
  · rw [ha'] at hb
    cases hb
    simp [hfresh] at hfailed
  · rw [ha'] at hb
    cases hb
    cases hnotes with
    | sent => cases hfailed
    | observed hrecord hk _ hcl hrefused =>
      subst hrecord hk hcl
      obtain ⟨hamb, hs⟩ := hrefused hfailed
      rcases hl.1.refused hamb hs with ⟨x, hx, hsays⟩ | ⟨⟨x, hx, habsent⟩, hterminal⟩
      · exact .inl (hl.2 x hx hsays)
      · subst hx
        exact .inr ⟨_, List.mem_append_right _ (List.mem_singleton_self _),
          bankEvidence_absence habsent hs hterminal _ _ _⟩

structure World.BankAccounted (cfg : Service) (w : World) : Prop where
  applied : ∀ k e, w.bank.effects.get k = some e → 0 < w.bank.mutations k
  failed : w.FailuresBacked cfg w.bank

lemma backed_quiet (h : l.carries = false) : l.Backed cfg bank := by
  cases l <;> trivial

lemma Handover.backed (h : Handover cfg l w l' w') : l'.Backed cfg bank := by
  cases h with
  | quiet hquiet => exact backed_quiet hquiet
  | _ => trivial

lemma Act.bank_effects (h : Act cfg out l w l' w') : w'.bank.effects = w.bank.effects := by
  cases h <;> rfl

lemma Act.bank_mutations (h : Act cfg out l w l' w') (k : AttemptId) : w.bank.mutations k ≤ w'.bank.mutations k := by
  cases h with
  | sendPayout | lookupPayout => exact (w.bank.mutations_contact _ k).symm ▸ Nat.le_add_right _ _
  | _ => exact le_rfl

lemma Local.Backed.mono {bank' : Counterparty AttemptId} (hl : l.Backed cfg bank)
    (h : ∀ k, bank.declined k → bank'.declined k) : l.Backed cfg bank' := by
  cases l with
  | payoutRecord => exact ⟨hl.1, fun x hx hsays => h _ (hl.2 x hx hsays)⟩
  | _ => trivial

lemma World.FailuresBacked.mono {bank' : Counterparty AttemptId} (hw : w.FailuresBacked cfg bank)
    (h : ∀ k, bank.declined k → bank'.declined k) (hsame : ∀ k, w'.attempt k = w.attempt k) :
    w'.FailuresBacked cfg bank' := by
  intro k a ha hfailed
  rw [hsame] at ha
  exact (hw k a ha hfailed).imp_left (h k)

lemma Counterparty.mutations_pos {ι : Type} [DecidableEq ι] {c : Counterparty ι} {k : ι}
    (h : c.wasSent k) : 0 < c.mutations k := by
  obtain ⟨b, hb⟩ := h
  rw [mutations, List.countP_pos_iff]
  exact ⟨_, hb, by simp [Contact.mutates]⟩

lemma Counterparty.Applies.sent {ι : Type} [DecidableEq ι] {now : Time} {c c' : Counterparty ι}
    {k k' : ι} {outcome : EffectOutcome} (h : c.Applies now k outcome c')
    (hc : ∀ k e, c.effects.get k = some e → 0 < c.mutations k) {e : Effect}
    (he : c'.effects.get k' = some e) : 0 < c'.mutations k' := by
  rw [mutations, h.contacts, ← mutations]
  cases h with
  | first hsent _ => exact Table.forall_put hc (mutations_pos hsent) k' e he
  | settle hpending => exact Table.forall_put hc (hc k _ hpending) k' e he

/-- What is assumed of the bank. A signed decline is the outcome of its key, and a not-found that is
recorded as final means that the key has no effect, then and later. -/
structure BankTrusted (cfg : Service) (out : Outside) (w : World) : Prop where
  declines : ∀ {w k lookup x}, out.bankReply w k lookup (some x) → x.bankSays cfg "DECLINED" →
    w.bank.declined k
  absences : ∀ {c}, Reach (relaypay cfg out) (.idle w) c → ∀ {k a ev}, c.shared.attempt k = some a →
    ev ∈ a.evidence → ev.absence cfg = true → c.shared.bank.effects.get k = none

lemma afterBankReply_backed (hbank : BankTrusted cfg out w₀) {lookup : Bool}
    {rest : List PayoutId} {prepared : PreparedAttempt}
    (hreply : out.bankReply w (prepared.payout, prepared.number) lookup obs) :
    (Local.afterBankReply cfg rest prepared obs).Backed cfg w.bank := by
  unfold Local.afterBankReply
  split
  · next cl hcl =>
    refine ⟨classifyBank_rests hcl, fun x hx hsays => ?_⟩
    subst hx
    exact hbank.declines hreply hsays
  · trivial

lemma Act.backed (hbank : BankTrusted cfg out w₀) (h : Act cfg out l w l' w') : l'.Backed cfg w'.bank := by
  cases h with
  | receivePayout _ hreply => exact afterBankReply_backed hbank hreply
  | lookupPayout _ _ hreply => exact (afterBankReply_backed hbank hreply).mono fun _ hk => hk
  | _ => trivial

lemma backed_modular (hbank : BankTrusted cfg out w₀) :
    Modular locks (relaypay cfg out) World.Mirrored (World.BankAccounted cfg)
      fun l w => l.Backed cfg w.bank where
  spawn hl := backed_quiet (Local.starts_carries hl)
  fail _ := backed_quiet (onError_carries _ _)
  commit := by
    intro w l t l' y _ hJ hl ht he
    have hc := committed ht he
    have hsame := (hc.counterparties ht).2
    have hfailed : (y.own w).FailuresBacked cfg w.bank :=
      hc.preserves (fun hchange => hchange.failuresBacked hl) hJ.failed
    refine ⟨⟨?_, ?_⟩, hc.handover.backed, fun m hm => ?_⟩
    · rw [hsame]
      exact hJ.applied
    · rw [hsame]
      exact hfailed
    · rw [hsame]
      exact hm
  act := by
    intro l w l' w' _ hJ _ ha
    have hdeclined : ∀ k, w.bank.declined k → w'.bank.declined k := by
      intro k hk
      rw [Counterparty.declined, ha.bank_effects]
      exact hk
    refine ⟨⟨fun k e he => ?_, hJ.failed.mono hdeclined ha.attempt⟩, ha.backed hbank, fun m hm => hm.mono hdeclined⟩
    rw [ha.bank_effects] at he
    exact (hJ.applied k e he).trans_le (ha.bank_mutations k)
  env := by
    intro w w' _ hJ he
    have hattempt := he.attempt
    cases he with
    | bankApplies _ happlies =>
      have hdeclined : ∀ k, w.bank.declined k → _ := fun k hk => happlies.declined hk
      exact ⟨⟨fun k e => happlies.sent hJ.applied, hJ.failed.mono hdeclined hattempt⟩, fun m hm => hm.mono hdeclined⟩
    | _ => exact ⟨⟨hJ.applied, hJ.failed⟩, fun m hm => hm⟩

lemma World.Initial.bankAccounted (hw : w.Initial) : w.BankAccounted cfg := by
  refine ⟨fun k e he => ?_, fun k a ha => ?_⟩
  · simp [hw.bank] at he
  · simp [World.attempt, hw.payouts] at ha

lemma World.Initial.payPermits_once (hw : w.Initial) : payPermits.Once (w, []) := by
  intro k
  simp [Permits.holders, payPermits, Counterparty.mutations, hw.bank]

lemma astep_attempt {s s' : World × List Local} (h : AStep locks (relaypay cfg out) s s') :
    (∀ k, s'.1.attempt k = s.1.attempt k) ∨ ∃ l held l', Committed cfg l s.1 held l' s'.1 := by
  cases h with
  | commit _ ht he => exact .inr ⟨_, _, _, committed ht he⟩
  | act _ ha => exact .inl ha.attempt
  | env he => exact .inl he.attempt
  | _ => exact .inl fun _ => rfl

lemma succeeded_once (hpayouts : w.PayoutsWellFormed) (hbank : w.BankAccounted cfg)
    (hissued : ∀ k, 0 < w.bank.mutations k → payPermits.issued w k)
    (habsent : ∀ k a ev, w.attempt k = some a → ev ∈ a.evidence → ev.absence cfg = true →
      w.bank.effects.get k = none)
    {n n' : ℕ} {t : Time} {e : Effect} (hn : n < n') (he : w.bank.effects.get (q, n) = some ⟨.succeeded, t⟩)
    (he' : w.bank.effects.get (q, n') = some e) : False := by
  obtain ⟨a, ha, -⟩ := hissued _ (hbank.applied _ _ he)
  obtain ⟨b, hb, -⟩ := hissued _ (hbank.applied _ _ he')
  obtain ⟨P, hP, haP⟩ := Option.bind_eq_some_iff.1 ha
  rw [World.attempt_eq hP] at hb
  have hlast := (((hpayouts q P hP).attempt?_isSome n').1 (by simp [hb])).2
  have hfailed := (hpayouts q P hP).earlier_failed haP hn hlast
  rcases hbank.failed _ a ha hfailed with ⟨code, t', hdeclined⟩ | ⟨ev, hev, hnotfound⟩
  · simp [he] at hdeclined
  · simp [habsent _ a ev ha hev hnotfound] at he

theorem payout_paid_once (hw : w.Initial) (hbank : BankTrusted cfg out w) {c : State}
    (h : Reach (relaypay cfg out) (.idle w) c) (q : PayoutId) : (∀ n, c.shared.bank.mutations (q, n) ≤ 1) ∧
    (∀ c', Step (relaypay cfg out) c c' → (∀ n, c.shared.attempt (q, n) = none → c'.shared.attempt (q, n) ≠ none →
        ∀ n' a, c.shared.attempt (q, n') = some a → a.status = .failed) ∧
      ∀ n a, c.shared.attempt (q, n) = some a → a.status = .failed →
        c'.shared.attempt (q, n) = some a) ∧
    ∀ n n' t t', c.shared.bank.effects.get (q, n) = some ⟨.succeeded, t⟩ →
      c.shared.bank.effects.get (q, n') = some ⟨.succeeded, t'⟩ → n = n' := by
  have hdisciplined := relaypay_disciplined cfg out
  have hatomic := h.atomic hdisciplined hw.mirrored
  have honce := Permits.Once.reach hdisciplined (payPermits_kept cfg out) hatomic hw.mirrored
    hw.payPermits_once
  have hbooks : ∀ {c : State}, Reach (relaypay cfg out) (.idle w) c → c.shared.PayoutsWellFormed :=
    fun hc => reach_preserves Change.payoutsWellFormed hw.mirrored hw.consistent.payouts hc
  refine ⟨fun n => ?_, fun c' hstep => ?_, fun n n' t t' he he' => ?_⟩
  · have hboth : payPermits.holders c.locs (q, n) + c.shared.bank.mutations (q, n) ≤ 1 :=
      (honce (q, n)).1
    omega
  · rcases h.next hdisciplined hw.mirrored hstep with ⟨hsame, -⟩ | hastep
    · rw [hsame]
      exact ⟨fun n hnone hsome => absurd hnone hsome, fun _ _ ha _ => ha⟩
    · rcases astep_attempt hastep with hsame | ⟨l, held, l', hc⟩
      · refine ⟨fun n hnone hsome => absurd ((hsame _).trans hnone) hsome, fun n a ha _ => ?_⟩
        exact (hsame _).trans ha
      · refine ⟨fun n hnone hsome n' a ha => ?_, fun n a ha hfailed => ?_⟩
        · exact hc.retries (hbooks h) (hbooks (h.tail hstep)) hnone hsome ha
        · exact hc.attemptsKept.final _ a ha (by simp [hfailed, AttemptStatus.terminal])
  · have haccounted := ((backed_modular hbank).reach hdisciplined hatomic hw.mirrored
      hw.bankAccounted (by simp)).1
    have hissued : ∀ k, 0 < c.shared.bank.mutations k → payPermits.issued c.shared k := by
      intro k hpos
      apply (honce k).2
      change 0 < _ + c.shared.bank.mutations k
      omega
    have habsent : ∀ k a ev, c.shared.attempt k = some a → ev ∈ a.evidence →
        ev.absence cfg = true → c.shared.bank.effects.get k = none :=
      fun k a ev => hbank.absences h
    rcases lt_trichotomy n n' with hlt | heq | hgt
    · exact (succeeded_once (hbooks h) haccounted hissued habsent hlt he he').elim
    · exact heq
    · exact (succeeded_once (hbooks h) haccounted hissued habsent hgt he' he).elim

def Local.Found : Local → Prop
  | .payoutRecord _ _ obs _ => ∀ x, obs = some x → x.statusCode ≠ 404
  | _ => True

def World.Found (w : World) : Prop :=
  ∀ k a, w.attempt k = some a → ∀ ev ∈ a.evidence, ev.responseHttpStatus ≠ some 404

lemma found_quiet (h : l.carries = false) : l.Found := by
  cases l <;> trivial

lemma Change.found (h : Change cfg l held ms w w') (hl : l.Found) (hw : w.Found) : w'.Found := by
  intro k a' ha' ev hev
  rcases h.attempt k with hsame | ⟨-, -, b, hb, -, -, hnone⟩ | ⟨a, b, ha, -, hnotes, hb⟩
  · exact hw k a' (hsame.symm.trans ha') ev hev
  · rw [ha'] at hb
    cases hb
    simp [hnone] at hev
  · rw [ha'] at hb
    cases hb
    cases hnotes with
    | sent =>
      rcases List.mem_append.1 hev with hold | hnew
      · exact hw k a ha ev hold
      · rw [List.mem_singleton.1 hnew]
        exact nofun
    | observed hrecord =>
      subst hrecord
      rcases List.mem_append.1 hev with hold | hnew
      · exact hw k a ha ev hold
      · rw [List.mem_singleton.1 hnew]
        intro hstatus
        obtain ⟨x, hx, h404⟩ := Option.map_eq_some_iff.1 hstatus
        exact hl x hx h404

lemma Handover.found (h : Handover cfg l w l' w') : l'.Found := by
  cases h with
  | quiet hquiet => exact found_quiet hquiet
  | _ => trivial

lemma found_modular (hfound : ∀ {w k lookup x}, out.bankReply w k lookup (some x) → x.statusCode ≠ 404) :
    Modular locks (relaypay cfg out) World.Mirrored World.Found fun l _ => l.Found where
  spawn hl := found_quiet (Local.starts_carries hl)
  fail _ := found_quiet (onError_carries _ _)
  commit := by
    intro w l t l' y _ hJ hl ht he
    have hc := committed ht he
    exact ⟨hc.preserves (fun hchange => hchange.found hl) hJ, hc.handover.found, fun _ hm => hm⟩
  act := by
    intro l w l' w' _ hJ _ ha
    have hreply : ∀ {rest prepared lookup obs},
        out.bankReply w (prepared.payout, prepared.number) lookup obs →
        (Local.afterBankReply cfg rest prepared obs).Found := by
      intro rest prepared lookup obs hreply
      unfold Local.afterBankReply
      split
      · rintro x rfl
        exact hfound hreply
      · trivial
    refine ⟨fun k a => ?_, ?_, fun _ hm => hm⟩
    · rw [ha.attempt]
      exact hJ k a
    · cases ha with
      | receivePayout _ hbank => exact hreply hbank
      | lookupPayout _ _ hbank => exact hreply hbank
      | _ => trivial
  env := by
    intro w w' _ hJ he
    refine ⟨fun k a => ?_, fun _ hm => hm⟩
    rw [he.attempt]
    exact hJ k a

lemma BankTrusted.of_found (hw : w.Initial)
    (hdeclines : ∀ {w k lookup x}, out.bankReply w k lookup (some x) → x.bankSays cfg "DECLINED" →
      w.bank.declined k) (hfound : ∀ {w k lookup x}, out.bankReply w k lookup (some x) → x.statusCode ≠ 404) :
    BankTrusted cfg out w where
  declines := hdeclines
  absences := by
    intro c h k a ev ha hev habsent
    have hinitial : w.Found := by
      intro k a ha
      simp [World.attempt, hw.payouts] at ha
    have hkept := ((found_modular hfound).reach (relaypay_disciplined cfg out)
      (h.atomic (relaypay_disciplined cfg out) hw.mirrored) hw.mirrored hinitial (by simp)).1
    simp only [PayoutEvidence.absence, Bool.and_eq_true, decide_eq_true_eq] at habsent
    exact absurd habsent.1.2 (hkept k a ha ev hev)

lemma shop_bankTrusted : BankTrusted shop shopRules.outside shopWorld := by
  refine .of_found shopWorld_initial ?_ ?_
  · rintro w k lookup x hreply ⟨-, r, hr, hout⟩
    simp only [Rules.outside, shopRules, Option.all_some, Bool.and_eq_true, hr, hout, Bool.not_true,
      Bool.false_or] at hreply
    obtain ⟨e, he, hdeclined⟩ := (Option.any_eq_true _ _).1 hreply.2
    split at hdeclined
    · next code houtcome => exact ⟨code, e.appliedAt, by rw [he, ← houtcome]⟩
    · cases hdeclined
  · intro w k lookup x hreply
    simp only [Rules.outside, shopRules, Option.all_some, Bool.and_eq_true, decide_eq_true_eq] at hreply
    exact hreply.1

theorem payout_paid_once_shop : ∃ t, (shopAfter shopRun).1.bank.effects.get (1, 2) = some ⟨.succeeded, t⟩ ∧
    (∀ n, (shopAfter shopRun).1.bank.mutations (1, n) ≤ 1) ∧
    ∀ n t', (shopAfter shopRun).1.bank.effects.get (1, n) = some ⟨.succeeded, t'⟩ → n = 2 := by
  have houtcome : ((shopAfter shopRun).1.bank.effects.get (1, 2)).map Effect.outcome = some .succeeded := by
    decide +kernel
  obtain ⟨⟨outcome, t⟩, he, hs⟩ := Option.map_eq_some_iff.1 houtcome
  cases hs
  obtain ⟨honce, -, hpaid⟩ :=
    payout_paid_once shopWorld_initial shop_bankTrusted (shop_reach shopRun_plays) 1
  exact ⟨t, he, honce, fun n t' he' => hpaid n 2 t' t he' he⟩

end Steps

end RelayPay
