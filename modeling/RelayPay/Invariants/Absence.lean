import RelayPay.Invariants.Attempts

/-! What a signed not-found proves: it is about the moment of the answer, and the grace period about its recording. -/

namespace RelayPay

open ReadCommitted

def World.effectOf (w : World) : OperationId ⊕ AttemptId → Option Effect
  | .inl o => w.provider.effects.get o
  | .inr k => w.bank.effects.get k

def World.sentOf (w : World) : OperationId ⊕ AttemptId → Option Time
  | .inl o => (w.operations.get o).bind ProviderOperation.lastSentAt
  | .inr k => (w.attempt k).bind PayoutAttempt.lastSentAt

def World.Absent (cfg : Service) (w : World) (key : OperationId ⊕ AttemptId) (answeredAt : Time) : Prop :=
  answeredAt ≤ w.now ∧ (w.effectOf key = none ∨
    ∃ s, w.sentOf key = some s ∧ answeredAt ≤ s + seconds cfg.notFoundGraceSeconds)

/-- What is assumed of the provider and the bank: they give a mutation its effect, if at all, within
the grace period. -/
structure Outside.Timely (cfg : Service) (out : Outside) : Prop where
  provider : ∀ {w o outcome}, out.providerApplies w o outcome → w.provider.effects.get o = none →
    ∃ s, w.sentOf (.inl o) = some s ∧ w.now ≤ s + seconds cfg.notFoundGraceSeconds
  bank : ∀ {w k outcome}, out.bankApplies w k outcome → w.bank.effects.get k = none →
    ∃ s, w.sentOf (.inr k) = some s ∧ w.now ≤ s + seconds cfg.notFoundGraceSeconds

def Observation.providerAbsent (cfg : Service) (x : Observation) : Prop :=
  x.statusCode = 404 ∧ signatureValid cfg x = true ∧
    ((cfg.loads x.body).bind validateProviderNotFound).isSome = true

structure Outside.Truthful (cfg : Service) (out : Outside) : Prop where
  provider : ∀ {w o x}, out.providerReply w o true (some x) → x.providerAbsent cfg →
    w.provider.effects.get o = none
  bank : ∀ {w k x}, out.bankReply w k true (some x) → x.bankAbsent cfg → w.bank.effects.get k = none

lemma Counterparty.Applies.effect {ι : Type} [DecidableEq ι] {now : Time} {c c' : Counterparty ι}
    {k k' : ι} {outcome : EffectOutcome} (h : c.Applies now k outcome c') (hnone : c.effects.get k' = none) :
    c'.effects.get k' = none ∨ (k' = k ∧ c.effects.get k = none) := by
  by_cases hk : k' = k
  · exact .inr ⟨hk, hk ▸ hnone⟩
  · left
    cases h <;> exact (Table.get_put_ne _ _ hk).trans hnone

section Steps

variable {cfg : Service} {out : Outside} {l l' : Local} {held : List Key} {ms : List MerchantId}
variable {w w' : World} {key : OperationId ⊕ AttemptId} {T : Time}

def World.AbsenceKept (cfg : Service) (w w' : World) : Prop :=
  ∀ key T, w.Absent cfg key T → w'.Absent cfg key T

structure World.Onward (w w' : World) : Prop where
  now : w.now ≤ w'.now
  effects : ∀ key, w'.effectOf key = w.effectOf key
  sent : ∀ key s, w.sentOf key = some s → w'.sentOf key = some s

lemma World.Onward.refl (w : World) : w.Onward w := ⟨le_rfl, fun _ => rfl, fun _ _ hs => hs⟩

lemma World.Onward.trans {w₁ w₂ w₃ : World} (h : w₁.Onward w₂) (h' : w₂.Onward w₃) : w₁.Onward w₃ where
  now := h.now.trans h'.now
  effects key := (h'.effects key).trans (h.effects key)
  sent key s hs := h'.sent key s (h.sent key s hs)

lemma World.Onward.absenceKept (h : w.Onward w') : w.AbsenceKept cfg w' := by
  rintro key T ⟨hT, hcases⟩
  refine ⟨hT.trans h.now, hcases.imp ?_ ?_⟩
  · intro hnone
    rw [h.effects, hnone]
  · rintro ⟨s, hs, hle⟩
    exact ⟨s, h.sent key s hs, hle⟩

lemma Change.now_le (h : Change cfg l held ms w w') : w.now ≤ w'.now := by
  cases h with
  | outside _ hnow => exact hnow
  | finalized => simp
  | _ => exact le_rfl

lemma Change.sentOf (h : Change cfg l held ms w w') {s : Time} (hs : w.sentOf key = some s) :
    w'.sentOf key = some s := by
  cases key with
  | inl o =>
    obtain ⟨op, hop, hsent⟩ := Option.bind_eq_some_iff.1 hs
    obtain ⟨op', hop', hsent'⟩ := h.lastSentAt hop hsent
    exact Option.bind_eq_some_iff.2 ⟨op', hop', hsent'⟩
  | inr k =>
    obtain ⟨a, ha, hsent⟩ := Option.bind_eq_some_iff.1 hs
    obtain ⟨a', ha', hsent'⟩ := (h.attemptsKept (.refl w)).sent k a s ha hsent
    exact Option.bind_eq_some_iff.2 ⟨a', ha', hsent'⟩

lemma Change.onward (h : Change cfg l held ms w w') (hl : l ≠ .finished) : w.Onward w' := by
  refine ⟨h.now_le, fun key => ?_, fun key s => h.sentOf⟩
  obtain ⟨hprovider, hbank⟩ := h.counterparties hl
  cases key with
  | inl o => exact congrArg (fun c => Table.get c.effects o) hprovider
  | inr k => exact congrArg (fun c => Table.get c.effects k) hbank

lemma Act.onward (h : Act cfg out l w l' w') : w.Onward w' := by
  refine ⟨?_, fun key => ?_, fun key s => h.change.sentOf⟩
  · cases h <;> exact le_rfl
  · cases key <;> cases h <;> rfl

lemma Environment.absenceKept (htimely : out.Timely cfg) (h : Environment out w w') : w.AbsenceKept cfg w' := by
  have hsent : ∀ key, w'.sentOf key = w.sentOf key := by
    intro key
    cases key <;> cases h <;> rfl
  rintro key T ⟨hT, hcases⟩
  -- the effect of another key, or a key that had none and still may have one
  have hkeep : w.now ≤ w'.now →
      (w.effectOf key = none → w'.effectOf key = none ∨
        ∃ s, w.sentOf key = some s ∧ w.now ≤ s + seconds cfg.notFoundGraceSeconds) →
      w'.Absent cfg key T := by
    intro hnow hstep
    refine ⟨hT.trans hnow, ?_⟩
    rw [hsent]
    rcases hcases with hnone | hearly
    · refine (hstep hnone).imp_right ?_
      rintro ⟨s, hs, hle⟩
      exact ⟨s, hs, hT.trans hle⟩
    · exact .inr hearly
  cases h with
  | tick hle => exact hkeep hle .inl
  | configure => exact hkeep le_rfl .inl
  | providerApplies hout happlies =>
    refine hkeep le_rfl fun hnone => ?_
    cases key with
    | inr k => exact .inl hnone
    | inl o' =>
      rcases happlies.effect hnone with hnone' | ⟨rfl, hfirst⟩
      · exact .inl hnone'
      · exact .inr (htimely.provider hout hfirst)
  | bankApplies hout happlies =>
    refine hkeep le_rfl fun hnone => ?_
    cases key with
    | inl o => exact .inl hnone
    | inr k' =>
      rcases happlies.effect hnone with hnone' | ⟨rfl, hfirst⟩
      · exact .inl hnone'
      · exact .inr (htimely.bank hout hfirst)

variable {cl : ClassifiedProviderResult}

lemma classifyNotFound_cases {x : Observation} {e : ExpectedProviderResult} (h : classifyNotFound cfg x e = some cl) :
    cl.classification ≠ .verifiedNotFoundFinal ∧ signatureValid cfg x = true ∧
      ((cfg.loads x.body).bind validateProviderNotFound).isSome = true := by
  unfold classifyNotFound at h
  split at h
  · cases h
  · next hsigned =>
    have hvalid : signatureValid cfg x = true := by
      simp only [Bool.or_eq_true, Bool.not_eq_true', not_or] at hsigned
      simpa using hsigned.2
    split at h
    · cases h
    · next answer hanswer =>
      refine ⟨?_, hvalid, by simp [hanswer]⟩
      split at h <;> cases h <;> exact fun hfinal => nomatch hfinal

lemma classifyResult_cases (cfg : Service) (x : Observation) (e : ExpectedProviderResult) :
    (classifyResult cfg x e).classification ≠ .verifiedNotFoundFinal ∧ (classifyResult cfg x e).action ≠ .notFound := by
  unfold classifyResult
  split
  · exact ⟨nofun, nofun⟩
  · split
    · exact ⟨nofun, nofun⟩
    · split
      · exact ⟨nofun, nofun⟩
      · split <;> exact ⟨nofun, nofun⟩

lemma classify_cases (cfg : Service) (obs : Option Observation) (e : ExpectedProviderResult) (isLookup : Bool) :
    (classifyOrTransportError cfg obs e isLookup).classification ≠ .verifiedNotFoundFinal ∧
    ((classifyOrTransportError cfg obs e isLookup).action = .notFound →
      ∃ x, obs = some x ∧ x.providerAbsent cfg) := by
  cases obs with
  | none => exact ⟨nofun, nofun⟩
  | some x =>
    simp only [classifyOrTransportError, classifyProviderObservation]
    have hagain : (if isLookup then ProviderAction.processing else .lookup) ≠ .notFound := by
      cases isLookup <;> exact nofun
    split
    · exact ⟨nofun, fun h => absurd h hagain⟩
    · split
      · next cl hcl =>
        split at hcl
        · next hlookup =>
          obtain ⟨hfinal, hsigned, hbody⟩ := classifyNotFound_cases hcl
          have hstatus : x.statusCode = 404 := by simpa using (Bool.and_eq_true_iff.1 hlookup).2
          exact ⟨hfinal, fun _ => ⟨x, rfl, hstatus, hsigned, hbody⟩⟩
        · cases hcl
      · split
        · exact ⟨nofun, fun h => absurd h hagain⟩
        · obtain ⟨hfinal, haction⟩ := classifyResult_cases cfg x e
          exact ⟨hfinal, fun h => absurd h haction⟩

lemma lookupRuling_final {sent now next : Time} {count grace : ℕ}
    (h : (lookupRuling cl sent count now next grace).classification = .verifiedNotFoundFinal)
    (hcl : cl.classification ≠ .verifiedNotFoundFinal) : cl.action = .notFound := by
  unfold lookupRuling at h
  split at h
  · next haction => exact haction
  · split at h <;> exact absurd h hcl

def World.ProviderAnswer (cfg : Service) (w : World) (o : OperationId) (obs : Option Observation) :
    Prop :=
  ∀ x, obs = some x → x.providerAbsent cfg → w.Absent cfg (.inl o) x.answeredAt

def World.BankAnswer (cfg : Service) (w : World) (k : AttemptId) (obs : Option Observation) : Prop :=
  ∀ x, obs = some x → x.bankAbsent cfg → w.Absent cfg (.inr k) x.answeredAt

def Local.Grounded (cfg : Service) (w : World) : Local → Prop
  | .awaiting _ prepared _ => prepared.alreadySent = false
  | .answered _ prepared _ obs =>
    prepared.alreadySent = true → w.ProviderAnswer cfg prepared.operation obs
  | .lookedUp _ claim _ obs => w.ProviderAnswer cfg claim.operation obs
  | .recording _ claim _ obs _ => w.ProviderAnswer cfg claim.operation obs
  | .payoutAwaiting _ prepared => prepared.lookupOnly = false
  | .payoutRecord _ prepared obs cl => cl.Rests cfg obs ∧
    (prepared.lookupOnly = true → w.BankAnswer cfg (prepared.payout, prepared.number) obs)
  | _ => True

lemma Local.Grounded.mono (hl : l.Grounded cfg w) (h : w.AbsenceKept cfg w') : l.Grounded cfg w' := by
  cases l with
  | awaiting => exact hl
  | payoutAwaiting => exact hl
  | answered => exact fun hsent x hx habsent => h _ _ (hl hsent x hx habsent)
  | lookedUp => exact fun x hx habsent => h _ _ (hl x hx habsent)
  | recording => exact fun x hx habsent => h _ _ (hl x hx habsent)
  | payoutRecord => exact ⟨hl.1, fun honly x hx habsent => h _ _ (hl.2 honly x hx habsent)⟩
  | _ => trivial

lemma grounded_quiet (h : l.carries = false) : l.Grounded cfg w := by
  cases l <;> trivial

lemma Local.Grounded.lookup (hl : l.Grounded cfg w) {h : LookupInHand} (hlookup : l.lookup? cfg = some h) :
    w.ProviderAnswer cfg h.operation h.observation := by
  cases l with
  | answered _ prepared _ _ =>
    simp only [Local.lookup?] at hlookup
    split at hlookup
    · next hsent =>
      cases hlookup
      exact hl hsent
    · cases hlookup
  | recording =>
    cases hlookup
    exact hl
  | _ => cases hlookup

lemma Handover.grounded (h : Handover cfg l w l' w') (hl : l.Grounded cfg w) : l'.Grounded cfg w' := by
  cases h with
  | quiet hquiet => exact grounded_quiet hquiet
  | recording hlooked _ =>
    subst hlooked
    exact hl
  | _ => trivial

lemma Act.grounded (htruth : out.Truthful cfg) (h : Act cfg out l w l' w') (hl : l.Grounded cfg w) :
    l'.Grounded cfg w' := by
  have hanswer : ∀ {o obs}, AnsweredNow w obs → out.providerReply w o true obs →
      w.ProviderAnswer cfg o obs := by
    intro o obs hnow hreply x hx habsent
    subst hx
    exact ⟨le_of_eq (hnow x rfl), .inl (htruth.provider hreply habsent)⟩
  have hbank : ∀ {rest prepared obs}, AnsweredNow w obs → (prepared.lookupOnly = true →
      out.bankReply w (prepared.payout, prepared.number) true obs) →
      (Local.afterBankReply cfg rest prepared obs).Grounded cfg w := by
    intro rest prepared obs hnow hreply
    unfold Local.afterBankReply
    split
    · next cl hcl =>
      refine ⟨classifyBank_rests hcl, fun honly x hx habsent => ?_⟩
      subst hx
      exact ⟨le_of_eq (hnow x rfl), .inl (htruth.bank (hreply honly) habsent)⟩
    · trivial
  have hkept : w.AbsenceKept cfg w' := h.onward.absenceKept
  cases h with
  | send hunsent => exact hunsent
  | receive => exact fun hsent => absurd hsent (by simp [show _ = false from hl])
  | lookup _ hnow hreply => exact fun _ x hx habsent => hkept _ _ (hanswer hnow hreply x hx habsent)
  | recover hnow hreply => exact fun x hx habsent => hkept _ _ (hanswer hnow hreply x hx habsent)
  | sendPayout hunsent => exact hunsent
  | receivePayout hnow => exact hbank hnow fun honly => absurd honly (by simp [show _ = false from hl])
  | lookupPayout _ hnow hreply => exact (hbank hnow fun _ => hreply).mono hkept

structure World.AbsenceGrounded (cfg : Service) (w : World) : Prop where
  operations : ∀ o op, w.operations.get o = some op → ∀ t ∈ op.attempts,
    t.classification = some .verifiedNotFoundFinal →
      ∃ T, t.answeredAt = some T ∧ w.Absent cfg (.inl o) T
  attempts : ∀ k a, w.attempt k = some a → ∀ ev ∈ a.evidence, ev.kind = .lookup →
    ev.absence cfg = true → ∃ T, ev.answeredAt = some T ∧ w.Absent cfg (.inr k) T

lemma World.AbsenceGrounded.mono (hw : w.AbsenceGrounded cfg) (h : w.AbsenceKept cfg w')
    (hoperations : w'.operations = w.operations) (hattempt : ∀ k, w'.attempt k = w.attempt k) :
    w'.AbsenceGrounded cfg := by
  constructor
  · intro o op hop t ht hfinal
    rw [hoperations] at hop
    obtain ⟨T, hT, habsent⟩ := hw.operations o op hop t ht hfinal
    exact ⟨T, hT, h _ _ habsent⟩
  · intro k a ha ev hev hkind hfinal
    rw [hattempt] at ha
    obtain ⟨T, hT, habsent⟩ := hw.attempts k a ha ev hev hkind hfinal
    exact ⟨T, hT, h _ _ habsent⟩

lemma ProviderOperation.Notes.absence {o : OperationId} {op op' : ProviderOperation}
    (h : op.Notes cfg l w.now o op') (hl : l.Grounded cfg w) {t : ProviderAttempt}
    (ht : t ∈ op'.attempts) (hfinal : t.classification = some .verifiedNotFoundFinal) :
    t ∈ op.attempts ∨ ∃ T, t.answeredAt = some T ∧ w.Absent cfg (.inl o) T := by
  cases h with
  | sent =>
    rcases List.mem_append.1 ht with hold | hnew
    · exact .inl hold
    · rw [List.mem_singleton.1 hnew] at hfinal
      cases hfinal
  | answered =>
    obtain ⟨x, hx, rfl⟩ := List.mem_map.1 ht
    split at hfinal
    · exact absurd (Option.some.inj hfinal) (classify_cases _ _ _ _).1
    · next hother => exact .inl (by rwa [if_neg hother])
  | @lookedUp h t' cl hlookup ho _ hcl _ _ =>
    rcases List.mem_append.1 ht with hold | hnew
    · exact .inl hold
    · rw [List.mem_singleton.1 hnew] at hfinal ⊢
      subst hcl ho
      obtain ⟨hnever, habsent⟩ := classify_cases cfg h.observation h.expected true
      obtain ⟨x, hx, hsays⟩ := habsent (lookupRuling_final (Option.some.inj hfinal) hnever)
      exact .inr ⟨x.answeredAt, by simp [ProviderAttempt.record, hx], hl.lookup hlookup x hx hsays⟩
  | webhook =>
    rcases List.mem_append.1 ht with hold | hnew
    · exact .inl hold
    · rw [List.mem_singleton.1 hnew, webhookAttempt] at hfinal
      split at hfinal <;> cases hfinal
  | leased => exact .inl ht
  | applyFailed => exact .inl ht

lemma BankClassification.Rests.recorded {cl : BankClassification} {obs : Option Observation}
    (h : cl.Rests cfg obs) {a : PayoutAttempt} {sha : Digest} {lookupOnly : Bool} {sent : Option Time}
    {t : Time} {grace : ℕ}
    (habs : (bankEvidence a sha lookupOnly obs (cl.afterGrace sent t grace) t).absence cfg = true) :
    ∃ x, obs = some x ∧ x.bankAbsent cfg := by
  cases obs with
  | none => simp [PayoutEvidence.absence, bankEvidence] at habs
  | some x =>
    simp only [PayoutEvidence.absence, bankEvidence, Option.map_some, Option.some.injEq,
      Option.bind_some, Bool.and_eq_true, decide_eq_true_eq, Option.any_eq_true] at habs
    obtain ⟨⟨hverdict, hstatus⟩, r, hr, hout⟩ := habs
    have hs : (cl.afterGrace sent t grace).succeeded = false := by
      cases hs : (cl.afterGrace sent t grace).succeeded with
      | false => rfl
      | true => simp [hs] at hverdict
    have hterminal : (cl.afterGrace sent t grace).terminal = true := by
      cases hterminal : (cl.afterGrace sent t grace).terminal with
      | true => rfl
      | false => simp [hs, hterminal] at hverdict
    have hamb : (cl.afterGrace sent t grace).ambiguous = false := by
      rcases cl.afterGrace_cases sent t grace with hsame | ⟨-, hlate⟩
      · rw [hsame] at hterminal ⊢
        exact h.final hterminal
      · rw [hlate]
    rcases h.refused hamb hs with ⟨y, hy, hsigned, -⟩ | ⟨habsent, -⟩
    · cases hy
      exact ⟨x, rfl, hstatus, hsigned, r, hr, hout⟩
    · exact habsent

lemma PayoutAttempt.Notes.absence {k : AttemptId} {a a' : PayoutAttempt}
    (h : a.Notes cfg l w.now k a') (hl : l.Grounded cfg w) {ev : PayoutEvidence}
    (hev : ev ∈ a'.evidence) (hkind : ev.kind = .lookup) (habs : ev.absence cfg = true) :
    ev ∈ a.evidence ∨ ∃ T, ev.answeredAt = some T ∧ w.Absent cfg (.inr k) T := by
  cases h with
  | sent =>
    rcases List.mem_append.1 hev with hold | hnew
    · exact .inl hold
    · rw [List.mem_singleton.1 hnew] at hkind
      cases hkind
  | @observed rest prepared obs cl cl' sha t _ _ _ hrecord hk _ hcl _ =>
    subst hrecord hk hcl
    rcases List.mem_append.1 hev with hold | hnew
    · exact .inl hold
    · rw [List.mem_singleton.1 hnew] at hkind habs ⊢
      have honly : prepared.lookupOnly = true := by
        by_contra honly
        simp [bankEvidence, honly] at hkind
      obtain ⟨x, hx, habsent⟩ := hl.1.recorded habs
      exact .inr ⟨x.answeredAt, by simp [bankEvidence, hx], hl.2 honly x hx habsent⟩

lemma Change.absenceGrounded (h : Change cfg l held ms w w') (hfinished : l ≠ .finished)
    (hl : l.Grounded cfg w) (hw : w.AbsenceGrounded cfg) : w'.AbsenceGrounded cfg := by
  have hkept : w.AbsenceKept cfg w' := (h.onward hfinished).absenceKept
  constructor
  · intro o op' hop' t ht hfinal
    have hold : ∀ {op}, w.operations.get o = some op → t ∈ op.attempts →
        ∃ T, t.answeredAt = some T ∧ w'.Absent cfg (.inl o) T := by
      intro op hop hmem
      obtain ⟨T, hT, habsent⟩ := hw.operations o op hop t hmem hfinal
      exact ⟨T, hT, hkept _ _ habsent⟩
    rcases h.operation o with hsame | ⟨-, t₀, hnew⟩ | ⟨op, op₁, hop, hrevised, hop₁⟩
    · exact hold (hsame.symm.trans hop') ht
    · rw [hop'] at hnew
      cases hnew
      cases ht
    · rw [hop'] at hop₁
      cases hop₁
      cases hrevised with
      | noted hnotes =>
        rcases hnotes.absence hl ht hfinal with hmem | ⟨T, hT, habsent⟩
        · exact hold hop hmem
        · exact ⟨T, hT, hkept _ _ habsent⟩
      | reviewed => exact hold hop ht
      | finalized => exact hold hop ht
  · intro k a' ha' ev hev hkind habs
    have hold : ∀ {a}, w.attempt k = some a → ev ∈ a.evidence →
        ∃ T, ev.answeredAt = some T ∧ w'.Absent cfg (.inr k) T := by
      intro a ha hmem
      obtain ⟨T, hT, habsent⟩ := hw.attempts k a ha ev hmem hkind habs
      exact ⟨T, hT, hkept _ _ habsent⟩
    rcases h.attempt k with hsame | ⟨-, -, b, hb, -, -, hnone⟩ | ⟨a, b, ha, -, hnotes, hb⟩
    · exact hold (hsame.symm.trans ha') hev
    · rw [ha'] at hb
      cases hb
      simp [hnone] at hev
    · rw [ha'] at hb
      cases hb
      rcases hnotes.absence hl hev hkind habs with hmem | ⟨T, hT, habsent⟩
      · exact hold ha hmem
      · exact ⟨T, hT, hkept _ _ habsent⟩

lemma le_foldl_max {l : List ℕ} {x : ℕ} (h : x ∈ l) (n : ℕ) : x ≤ l.foldl max n := by
  induction l generalizing n with
  | nil => cases h
  | cons y l ih =>
    rcases List.mem_cons.1 h with rfl | hmem
    · have hle : ∀ (l : List ℕ) n, n ≤ l.foldl max n := by
        intro l
        induction l with
        | nil => exact fun n => le_rfl
        | cons z l ih => exact fun n => (le_max_left n z).trans (ih _)
      exact (le_max_right n x).trans (hle l _)
    · exact ih hmem _

structure ProviderOperation.Documented (op : ProviderOperation) : Prop where
  distinct : (op.attempts.map ProviderAttempt.sequence).Nodup
  lookups : ∀ t ∈ op.attempts, t.classification = some .verifiedNotFoundFinal → t.kind = .lookup
  cited : ∀ row ∈ op.history, row.reason = .evidence .verifiedNotFoundFinal →
    ∃ t ∈ op.attempts, row.evidenceAttempt = some t.sequence ∧
      t.classification = some .verifiedNotFoundFinal

namespace ProviderOperation

variable {o : OperationId} {op op' : ProviderOperation} {now : Time}

lemma Documented.append (h : op.Documented) {t : ProviderAttempt}
    (hattempts : op'.attempts = op.attempts ++ [t]) (hhistory : op'.history = op.history)
    (hfresh : ∀ x ∈ op.attempts, x.sequence ≠ t.sequence)
    (hkind : t.classification = some .verifiedNotFoundFinal → t.kind = .lookup) : op'.Documented := by
  constructor
  · rw [hattempts, List.map_append, List.map_singleton, List.nodup_append]
    refine ⟨h.distinct, by simp, ?_⟩
    intro n hn n' hn'
    obtain ⟨x, hx, rfl⟩ := List.mem_map.1 hn
    rw [List.mem_singleton.1 hn']
    exact hfresh x hx
  · intro x hx hfinal
    rw [hattempts] at hx
    rcases List.mem_append.1 hx with hold | hnew
    · exact h.lookups x hold hfinal
    · rw [List.mem_singleton.1 hnew] at hfinal ⊢
      exact hkind hfinal
  · intro row hrow hreason
    rw [hhistory] at hrow
    obtain ⟨x, hx, hcites⟩ := h.cited row hrow hreason
    exact ⟨x, hattempts ▸ List.mem_append_left _ hx, hcites⟩

lemma nextSequence_fresh (op : ProviderOperation) : ∀ x ∈ op.attempts, x.sequence ≠ op.nextSequence := by
  intro x hx
  have hle := le_foldl_max (List.mem_map_of_mem (f := ProviderAttempt.sequence) hx) 0
  unfold nextSequence
  omega

lemma Documented.answerMutation (h : op.Documented) {x : ProviderAttempt} {obs : Option Observation}
    (hx : op.mutation? = some x) (hcl : cl.classification ≠ .verifiedNotFoundFinal) :
    (op.answerMutation x obs cl now).Documented := by
  have hmem : x ∈ op.attempts := List.mem_of_find?_eq_some hx
  have hkind : x.kind = .mutation := by simpa using List.find?_some hx
  constructor
  · have hsame : (op.answerMutation x obs cl now).attempts.map ProviderAttempt.sequence =
        op.attempts.map ProviderAttempt.sequence := by
      rw [ProviderOperation.answerMutation, List.map_map]
      refine List.map_congr_left fun t _ => ?_
      simp only [Function.comp]
      split <;> rfl
    rw [hsame]
    exact h.distinct
  · intro t ht hfinal
    obtain ⟨t', ht', rfl⟩ := List.mem_map.1 ht
    split at hfinal
    · exact absurd (Option.some.inj hfinal) hcl
    · next hother =>
      rw [if_neg hother]
      exact h.lookups t' ht' hfinal
  · intro row hrow hreason
    obtain ⟨t, ht, hcites, hfinal⟩ := h.cited row hrow hreason
    have hother : t.sequence ≠ x.sequence := by
      intro hseq
      have heq := List.inj_on_of_nodup_map h.distinct ht hmem hseq
      rw [heq] at hfinal
      have hlookup := h.lookups x hmem hfinal
      rw [hkind] at hlookup
      cases hlookup
    exact ⟨t, List.mem_map.2 ⟨t, ht, if_neg hother⟩, hcites, hfinal⟩

lemma Notes.documented (h : op.Notes cfg l now o op') (hop : op.Documented) : op'.Documented := by
  cases h with
  | sent _ _ _ hfree =>
    refine hop.append rfl rfl (fun x hx => ?_) nofun
    have hne : x.sequence ≠ 1 := by simpa using List.all_eq_true.1 hfree x hx
    exact hne
  | answered _ _ _ hx => exact hop.answerMutation hx (classify_cases _ _ _ _).1
  | lookedUp => exact hop.append rfl rfl op.nextSequence_fresh fun _ => rfl
  | webhook =>
    refine hop.append rfl rfl op.nextSequence_fresh fun hfinal => ?_
    rw [webhookAttempt] at hfinal
    split at hfinal <;> cases hfinal
  | leased => exact ⟨hop.distinct, hop.lookups, hop.cited⟩
  | applyFailed => exact ⟨hop.distinct, hop.lookups, hop.cited⟩

lemma verdictOf_cites {evidence : ℕ} {c : Classification} {v : Verdict} (h : verdictOf op evidence now = .ok (c, v)) :
    ∃ t ∈ op.attempts, t.sequence = evidence ∧ t.classification = some c := by
  simp only [verdictOf] at h
  split at h
  · cases h
  · next t ht =>
    have hseq : t.sequence = evidence := by simpa using List.find?_some ht
    refine ⟨t, List.mem_of_find?_eq_some ht, hseq, ?_⟩
    split at h
    · cases h
    · split at h
      · cases h
      · next c' hc' =>
        split at h
        · cases h
        · split at h
          · cases h
            exact hc'
          · split at h <;> cases h
            exact hc'

lemma Revised.documented (h : op.Revised cfg l now o op') (hop : op.Documented) : op'.Documented := by
  -- a row of the history is added that cites what it rests on
  have hrow : ∀ {row}, op'.attempts = op.attempts → op'.history = op.history ++ [row] →
      (row.reason = .evidence .verifiedNotFoundFinal → ∃ t ∈ op.attempts,
        row.evidenceAttempt = some t.sequence ∧ t.classification = some .verifiedNotFoundFinal) →
      op'.Documented := by
    intro row hattempts hhistory hcites
    refine ⟨hattempts ▸ hop.distinct, hattempts ▸ hop.lookups, fun row' hrow' hreason => ?_⟩
    rw [hattempts]
    rw [hhistory] at hrow'
    rcases List.mem_append.1 hrow' with hold | hnew
    · exact hop.cited row' hold hreason
    · rw [List.mem_singleton.1 hnew] at hreason ⊢
      exact hcites hreason
  cases h with
  | noted hnotes => exact hnotes.documented hop
  | reviewed => exact hrow rfl rfl nofun
  | finalized _ hv =>
    refine hrow rfl rfl fun hreason => ?_
    obtain ⟨t, ht, hseq, hc⟩ := verdictOf_cites hv
    cases hreason
    exact ⟨t, ht, by rw [hseq], hc⟩

end ProviderOperation

def World.Documented (w : World) : Prop := ∀ o op, w.operations.get o = some op → op.Documented

lemma Change.documented (h : Change cfg l held ms w w') (hw : w.Documented) : w'.Documented := by
  intro o op' hop'
  rcases h.operation o with hsame | ⟨-, t, hnew⟩ | ⟨op, op₁, hop, hrevised, hop₁⟩
  · exact hw o op' (hsame.symm.trans hop')
  · rw [hop'] at hnew
    cases hnew
    exact ⟨by simp [newOperation], by simp [newOperation], by simp [newOperation]⟩
  · rw [hop'] at hop₁
    cases hop₁
    exact hrevised.documented (hw o op hop)

def World.Closed (w : World) : OperationId ⊕ AttemptId → Option Time → Prop
  | .inl o, s => ∃ op, w.operations.get o = some op ∧ op.status.terminal = true ∧ op.lastSentAt = s
  | .inr k, s => ∃ a, w.attempt k = some a ∧ a.status.terminal = true ∧ a.lastSentAt = s

lemma World.Closed.sentOf {s : Option Time} (h : w.Closed key s) : w.sentOf key = s := by
  cases key with
  | inl o =>
    obtain ⟨op, hop, -, hs⟩ := h
    simp [World.sentOf, hop, hs]
  | inr k =>
    obtain ⟨a, ha, -, hs⟩ := h
    simp [World.sentOf, ha, hs]

lemma Change.closed {s : Option Time} (h : Change cfg l held ms w w') (hw : w.Closed key s) : w'.Closed key s := by
  cases key with
  | inl o =>
    obtain ⟨op, hop, hterminal, hs⟩ := hw
    rcases h.operation o with hsame | ⟨hnone, -⟩ | ⟨op₁, op', hop₁, hrevised, hop'⟩
    · exact ⟨op, hsame.trans hop, hterminal, hs⟩
    · simp [hop] at hnone
    · rw [hop] at hop₁
      cases hop₁
      cases hrevised with
      | noted hnotes =>
        cases hnotes with
        | sent _ hopen => simp [hterminal] at hopen
        | _ => exact ⟨_, hop', hterminal, hs⟩
      | reviewed hopen => simp [hterminal] at hopen
      | finalized hopen => simp [hterminal] at hopen
  | inr k =>
    obtain ⟨a, ha, hterminal, hs⟩ := hw
    exact ⟨a, (h.attemptsKept (.refl w)).final k a ha hterminal, hterminal, hs⟩

lemma Committed.onward (h : Committed cfg l w held l' w') {t : Tx Local}
    (ht : transaction cfg l = some t) : w.Onward w' :=
  h.preserves (I := fun w₁ => w.Onward w₁)
    (fun hchange hw => hw.trans (hchange.onward (transaction_ne_finished ht))) (.refl w)

lemma Environment.operations (h : Environment out w w') : w'.operations = w.operations := by
  cases h <;> rfl

lemma grounded_modular (htimely : out.Timely cfg) (htruth : out.Truthful cfg) :
    Modular locks (relaypay cfg out) World.Mirrored (World.AbsenceGrounded cfg)
      fun l w => l.Grounded cfg w where
  spawn hl := grounded_quiet (Local.starts_carries hl)
  fail _ := grounded_quiet (onError_carries _ _)
  commit := by
    intro w l t l' y _ hJ hl ht he
    have hc := committed ht he
    have hkept : w.AbsenceKept cfg (y.own w) := (hc.onward ht).absenceKept
    have hfinished := transaction_ne_finished ht
    refine ⟨?_, hc.handover.grounded hl, fun m hm => hm.mono hkept⟩
    refine (hc.preserves (I := fun w₁ => w.Onward w₁ ∧ w₁.AbsenceGrounded cfg) ?_ ⟨.refl w, hJ⟩).2
    rintro keys ms w₁ w₂ hchange ⟨honward, hgrounded⟩
    exact ⟨honward.trans (hchange.onward hfinished),
      hchange.absenceGrounded hfinished (hl.mono honward.absenceKept) hgrounded⟩
  act := by
    intro l w l' w' _ hJ hl ha
    have hkept : w.AbsenceKept cfg w' := ha.onward.absenceKept
    exact ⟨hJ.mono hkept ha.operations ha.attempt, ha.grounded htruth hl, fun m hm => hm.mono hkept⟩
  env := by
    intro w w' _ hJ he
    have hkept := he.absenceKept htimely
    exact ⟨hJ.mono hkept he.operations he.attempt, fun m hm => hm.mono hkept⟩

lemma areach_absenceKept (htimely : out.Timely cfg) {a a' : World × List Local}
    (h : AReach locks (relaypay cfg out) a a') : a.1.AbsenceKept cfg a'.1 := by
  induction h with
  | refl => exact fun _ _ habsent => habsent
  | tail _ hstep ih =>
    intro key T habsent
    have hmid := ih key T habsent
    cases hstep with
    | commit _ ht he => exact ((committed ht he).onward ht).absenceKept _ _ hmid
    | act _ ha => exact ha.onward.absenceKept _ _ hmid
    | env he => exact he.absenceKept htimely _ _ hmid
    | _ => exact hmid

lemma areach_effectOf (htimely : out.Timely cfg) {a a' : World × List Local}
    (h : AReach locks (relaypay cfg out) a a') {sent : Option Time} (hclosed : a.1.Closed key sent)
    (habsent : a.1.Absent cfg key T) (hlate : ∀ s, sent = some s → s + seconds cfg.notFoundGraceSeconds < T) :
    a'.1.effectOf key = none := by
  have hclosed' : a'.1.Closed key sent := areach_preserves Change.closed h hclosed
  rcases (areach_absenceKept htimely h key T habsent).2 with hnone | ⟨s, hs, hle⟩
  · exact hnone
  · rw [hclosed'.sentOf] at hs
    exact absurd hle (not_le.2 (hlate s hs))

lemma World.Initial.absenceGrounded (hw : w.Initial) : w.AbsenceGrounded cfg := by
  constructor
  · intro o op hop
    simp [hw.operations] at hop
  · intro k a ha
    simp [World.attempt, hw.payouts] at ha

lemma World.Initial.documented (hw : w.Initial) : w.Documented := by
  intro o op hop
  simp [hw.operations] at hop

end Steps

def ProviderOperation.FailedAsAbsent (op : ProviderOperation) : Prop :=
  op.status = .failed ∧ ∃ row ∈ op.history, row.toStatus = .failed ∧
    row.reason = .evidence .verifiedNotFoundFinal

def PayoutAttempt.FailedAsAbsent (cfg : Service) (a : PayoutAttempt) : Prop :=
  a.status = .failed ∧ ∃ ev ∈ a.evidence, ev.kind = .lookup ∧ ev.absence cfg = true

/-- Every not-found on record as final was answered after the grace period, and not only recorded
after it. -/
structure World.AnsweredLate (cfg : Service) (w : World) : Prop where
  operations : ∀ o op, w.operations.get o = some op → ∀ t ∈ op.attempts,
    t.classification = some .verifiedNotFoundFinal → ∀ s T, op.lastSentAt = some s →
      t.answeredAt = some T → s + seconds cfg.notFoundGraceSeconds < T
  attempts : ∀ k a, w.attempt k = some a → ∀ ev ∈ a.evidence, ev.kind = .lookup →
    ev.absence cfg = true → ∀ s T, a.lastSentAt = some s → ev.answeredAt = some T →
      s + seconds cfg.notFoundGraceSeconds < T

theorem absence_final {cfg : Service} {out : Outside} {w : World} (hw : w.Initial)
    (htimely : out.Timely cfg) (htruth : out.Truthful cfg) {c c' : State}
    (h : Reach (relaypay cfg out) (.idle w) c) (hlate : c.shared.AnsweredLate cfg)
    (h' : Reach (relaypay cfg out) c c') : (∀ o op, c.shared.operations.get o = some op → op.FailedAsAbsent →
      c'.shared.provider.effects.get o = none) ∧
    ∀ k a, c.shared.attempt k = some a → a.FailedAsAbsent cfg →
      c'.shared.bank.effects.get k = none := by
  have hdisciplined := relaypay_disciplined cfg out
  have hgrounded := ((grounded_modular htimely htruth).reach hdisciplined
    (h.atomic hdisciplined hw.mirrored) hw.mirrored hw.absenceGrounded (by simp)).1
  have hdocumented := reach_preserves Change.documented hw.mirrored hw.documented h
  have hrun := h.atomic_from hdisciplined hw.mirrored h'
  constructor
  · rintro o op hop ⟨hfailed, row, hrow, -, hreason⟩
    obtain ⟨t, ht, -, hfinal⟩ := (hdocumented o op hop).cited row hrow hreason
    obtain ⟨T, hT, habsent⟩ := hgrounded.operations o op hop t ht hfinal
    have hclosed : c.shared.Closed (.inl o) op.lastSentAt :=
      ⟨op, hop, by simp [hfailed, OperationStatus.terminal], rfl⟩
    exact areach_effectOf htimely hrun hclosed habsent
      fun s hs => hlate.operations o op hop t ht hfinal s T hs hT
  · rintro k a ha ⟨hfailed, ev, hev, hkind, habs⟩
    obtain ⟨T, hT, habsent⟩ := hgrounded.attempts k a ha ev hev hkind habs
    have hclosed : c.shared.Closed (.inr k) a.lastSentAt :=
      ⟨a, ha, by simp [hfailed, AttemptStatus.terminal], rfl⟩
    exact areach_effectOf htimely hrun hclosed habsent
      fun s hs => hlate.attempts k a ha ev hev hkind habs s T hs hT

lemma withinGrace_sound {w : World} {sent : Option Time} (h : withinGrace w sent = true) :
    ∃ s, sent = some s ∧ w.now ≤ s + seconds shop.notFoundGraceSeconds := by
  obtain ⟨s, hs, hle⟩ := (Option.any_eq_true _ _).1 h
  exact ⟨s, hs, of_decide_eq_true hle⟩

lemma shop_timely : shopRules.outside.Timely shop where
  provider h _ := withinGrace_sound h
  bank h _ := withinGrace_sound h

lemma shop_truthful : shopRules.outside.Truthful shop where
  provider := by
    rintro w o x hreply ⟨hstatus, -⟩
    simpa [Rules.outside, shopRules, hstatus] using hreply
  bank := by
    rintro w k x hreply ⟨hstatus, -⟩
    simp [Rules.outside, shopRules, hstatus] at hreply

def shopLookup (t : Time) : List (Move Local Call Happening) :=
  shopSale.take 4 ++ [.spawn (.dispatch .stop (.authorize 1)), .run 2, .run 2, .act 2 .send,
    .env (.tick t), .spawn (.dispatch .stop (.authorize 1)), .run 3, .run 3,
    .act 3 (.answer (signedBy "x-provider-signature" 404 [4] t))]

def shopAbsent : List (Move Local Call Happening) := shopLookup (seconds 601) ++ [.run 3, .run 3]

def OperationHistory.summary (r : OperationHistory) : OperationStatus × Option Classification :=
  (r.toStatus, match r.reason with | .evidence c => some c | .review _ => none)

lemma failedAsAbsent_of_summary {op : ProviderOperation} (hstatus : op.status = .failed)
    (hhistory : op.history.map OperationHistory.summary = [(.failed, some .verifiedNotFoundFinal)]) :
    op.FailedAsAbsent := by
  obtain ⟨row, hrow, hsummary⟩ := List.map_eq_singleton_iff.1 hhistory
  refine ⟨hstatus, row, by simp [hrow], congrArg Prod.fst hsummary, ?_⟩
  have hreason := congrArg Prod.snd hsummary
  cases hr : row.reason with
  | evidence c =>
    simp only [OperationHistory.summary, hr, Option.some.injEq] at hreason
    rw [hreason]
  | review reason => simp [OperationHistory.summary, hr] at hreason

def ProviderOperation.answeredLate (cfg : Service) (op : ProviderOperation) : Bool :=
  op.attempts.all fun t => t.classification ≠ some .verifiedNotFoundFinal ||
    op.lastSentAt.all fun s => t.answeredAt.all fun T => s + seconds cfg.notFoundGraceSeconds < T

lemma answeredLate_of_rows {cfg : Service} {w : World}
    (hoperations : (w.operations.rows.all fun e => e.2.answeredLate cfg) = true)
    (hpayouts : w.payouts.rows = []) : w.AnsweredLate cfg where
  operations := by
    intro o op hop t ht hfinal s T hs hT
    have hrow := List.all_eq_true.1 (List.all_eq_true.1 hoperations _ (Table.mem_rows.2 hop)) t ht
    rcases Bool.or_eq_true_iff.1 hrow with hother | hlate
    · exact absurd hfinal (of_decide_eq_true hother)
    · rw [hs, hT, Option.all_some, Option.all_some] at hlate
      exact of_decide_eq_true hlate
  attempts := by
    intro k a ha
    obtain ⟨P, hP, -⟩ := Option.bind_eq_some_iff.1 ha
    have hmem := Table.mem_rows.2 hP
    simp [hpayouts] at hmem

theorem absence_final_shop : ∃ op, (shopAfter shopAbsent).1.operations.get (.authorize 1) = some op ∧
    op.FailedAsAbsent ∧ (shopAfter shopAbsent).1.provider.effects.get (.authorize 1) = none := by
  have hrow : ((shopAfter shopAbsent).1.operations.get (.authorize 1)).map
      (fun op => (op.status, op.history.map OperationHistory.summary)) =
        some (.failed, [(.failed, some .verifiedNotFoundFinal)]) := by decide +kernel
  obtain ⟨op, hop, hsummary⟩ := Option.map_eq_some_iff.1 hrow
  have habsent := failedAsAbsent_of_summary (congrArg Prod.fst hsummary) (congrArg Prod.snd hsummary)
  have hpayouts : (shopAfter shopAbsent).1.payouts.rows.isEmpty = true := by decide +kernel
  have hlate : (shopAfter shopAbsent).1.AnsweredLate shop :=
    answeredLate_of_rows (by decide +kernel) (List.isEmpty_iff.1 hpayouts)
  have hplays : shopPlays shopAbsent = true := by decide +kernel
  exact ⟨op, hop, habsent, (absence_final shopWorld_initial shop_timely shop_truthful
    (shop_reach hplays) hlate .refl).1 _ op hop habsent⟩

def shopStale : List (Move Local Call Happening) :=
  shopLookup 0 ++ [.env (.providerApplies (.authorize 1) .succeeded), .env (.tick (seconds 600)), .run 3, .run 3]

/-- Timely, truthful, and still an operation that went through at the provider is FAILED here. -/
theorem absence_not_final : ∃ (cfg : Service) (out : Outside) (w : World) (c : State), w.Initial ∧
    out.Timely cfg ∧ out.Truthful cfg ∧ Reach (relaypay cfg out) (.idle w) c ∧
    ∃ o op t, c.shared.operations.get o = some op ∧ op.FailedAsAbsent ∧
      c.shared.provider.effects.get o = some ⟨.succeeded, t⟩ := by
  have hrow : ((shopAfter shopStale).1.operations.get (.authorize 1)).map
      (fun op => (op.status, op.history.map OperationHistory.summary)) =
        some (.failed, [(.failed, some .verifiedNotFoundFinal)]) := by decide +kernel
  obtain ⟨op, hop, hsummary⟩ := Option.map_eq_some_iff.1 hrow
  have habsent := failedAsAbsent_of_summary (congrArg Prod.fst hsummary) (congrArg Prod.snd hsummary)
  have heffect : ((shopAfter shopStale).1.provider.effects.get (.authorize 1)).map Effect.outcome =
      some .succeeded := by decide +kernel
  obtain ⟨⟨outcome, t⟩, he, houtcome⟩ := Option.map_eq_some_iff.1 heffect
  cases houtcome
  have hplays : shopPlays shopStale = true := by decide +kernel
  exact ⟨shop, shopRules.outside, shopWorld, _, shopWorld_initial, shop_timely, shop_truthful,
    shop_reach hplays, .authorize 1, op, t, hop, habsent, he⟩

end RelayPay
