import RelayPay.Codec.JsonCanonical
import RelayPay.Invariants.Absence

/-! What a reply must be for an outcome to rest on it. The bank's is classified without knowing what was asked. -/

namespace RelayPay

open ReadCommitted Txn

structure Observation.Attests (cfg : Service) (x : Observation) (e : ExpectedProviderResult)
    (o : EventOutcome) : Prop where
  status : 200 ≤ x.statusCode ∧ x.statusCode < 300
  signed : signatureValid cfg x = true
  result : ∃ r, (cfg.loads x.body).bind validateProviderResult = some r ∧ r.identity = e ∧ r.outcome = o

structure Observation.AttestsAbsence (cfg : Service) (x : Observation) (e : ExpectedProviderResult) :
    Prop where
  status : x.statusCode = 404
  body : x.body.isEmpty = false
  signed : signatureValid cfg x = true
  answer : ∃ a, (cfg.loads x.body).bind validateProviderNotFound = some a ∧
    a.accountId = e.accountId ∧ a.stableKey = e.stableKey

def Observation.bankSigned (cfg : Service) (x : Observation) : Prop :=
  header x.headers "x-bank-signature" = some (cfg.hmacHex cfg.bankSigningSecret x.body)

structure Observation.BankSays (cfg : Service) (x : Observation) (good : Json → Prop) : Prop where
  status : x.statusCode < 500
  body : x.body.isEmpty = false
  signed : x.bankSigned cfg
  answer : ∃ r, cfg.loads x.body = some r ∧ r.isObject = true ∧ good r

namespace BankRequest

def Succeeds (request : BankRequest) (r : Json) : Prop :=
  request.matches r = true ∧ hasStr r "outcome" "SUCCEEDED" = true

def Declines (request : BankRequest) (r : Json) : Prop :=
  request.matches r = true ∧ hasStr r "outcome" "DECLINED" = true ∧
    ∃ code, r.get? "declineCode" = some code ∧ code.truthy = true

def Absent (request : BankRequest) (r : Json) : Prop :=
  hasStr r "outcome" "NOT_FOUND" = true ∧ hasStr r "accountId" request.accountId = true ∧
    hasStr r "stableKey" request.stableKey = true ∧ notFoundShape r = true

end BankRequest

def Observation.BankAbsent (cfg : Service) (x : Observation) (request : BankRequest) : Prop :=
  x.statusCode = 404 ∧ x.BankSays cfg request.Absent

section Provider

variable {cfg : Service} {x : Observation} {e : ExpectedProviderResult} {isLookup : Bool}

lemma ExpectedProviderResult.agrees_iff (a b : ExpectedProviderResult) : a.agrees b = true ↔ a = b := by
  cases a
  cases b
  simp [agrees, and_assoc]

lemma classifyNotFound_action {cl : ClassifiedProviderResult} (h : classifyNotFound cfg x e = some cl) :
    cl.action = .review ∨ cl.action = .notFound := by
  unfold classifyNotFound at h
  split at h
  · cases h
  · split at h
    · cases h
    · split at h <;> cases h
      · exact .inl rfl
      · exact .inr rfl

lemma classifyNotFound_iff : (∃ cl, classifyNotFound cfg x e = some cl ∧ cl.action = .notFound) ↔
    x.body.isEmpty = false ∧ signatureValid cfg x = true ∧
      ∃ a, (cfg.loads x.body).bind validateProviderNotFound = some a ∧
        a.accountId = e.accountId ∧ a.stableKey = e.stableKey := by
  unfold classifyNotFound
  by_cases hgate : (x.body.isEmpty || !signatureValid cfg x) = true
  · rw [if_pos hgate]
    constructor
    · rintro ⟨cl, ⟨⟩, -⟩
    · rintro ⟨hbody, hsigned, -⟩
      simp [hbody, hsigned] at hgate
  · rw [if_neg hgate]
    have hopen : x.body.isEmpty = false ∧ signatureValid cfg x = true := by simpa using hgate
    cases hanswer : (cfg.loads x.body).bind validateProviderNotFound with
    | none => simp
    | some a =>
      by_cases hother : a.accountId ≠ e.accountId ∨ a.stableKey ≠ e.stableKey
      · simp only [if_pos hother, Option.some.injEq, exists_eq_left']
        constructor
        · intro h
          cases h
        · rintro ⟨-, -, hacc, hkey⟩
          rcases hother with h | h
          · exact absurd hacc h
          · exact absurd hkey h
      · simp only [if_neg hother, Option.some.injEq, exists_eq_left', true_iff]
        obtain ⟨hacc, hkey⟩ := not_or.1 hother
        exact ⟨hopen.1, hopen.2, not_not.1 hacc, not_not.1 hkey⟩

def EventOutcome.action : EventOutcome → ProviderAction
  | .succeeded => .finalizeSuccess
  | .declined => .finalizeFailure
  | .pending => .processing

lemma classifyResult_action (o : EventOutcome) : (classifyResult cfg x e).action = o.action ↔
    signatureValid cfg x = true ∧
      ∃ r, (cfg.loads x.body).bind validateProviderResult = some r ∧ r.identity = e ∧ r.outcome = o := by
  have hreview : ProviderAction.review ≠ o.action := by cases o <;> decide
  unfold classifyResult
  cases hsigned : signatureValid cfg x with
  | false => simpa using hreview
  | true =>
    cases hresult : (cfg.loads x.body).bind validateProviderResult with
    | none => simpa using hreview
    | some r =>
      cases hagrees : r.identity.agrees e with
      | false =>
        have hne : r.identity ≠ e := by
          rw [Ne, ← ExpectedProviderResult.agrees_iff, hagrees]
          decide
        simpa [hagrees, hne, mismatchedEvidence] using hreview
      | true =>
        obtain rfl := (ExpectedProviderResult.agrees_iff _ _).1 hagrees
        cases hout : r.outcome <;> cases o <;> simp [hagrees, hout, EventOutcome.action]

lemma classify_ways (cfg : Service) (x : Observation) (e : ExpectedProviderResult) (isLookup : Bool) :
    (classifyProviderObservation cfg x e isLookup).action ∈ [.processing, .lookup] ∨
      (isLookup = true ∧ x.statusCode = 404 ∧
        classifyNotFound cfg x e = some (classifyProviderObservation cfg x e isLookup)) ∨
      ((200 ≤ x.statusCode ∧ x.statusCode < 300) ∧
        classifyProviderObservation cfg x e isLookup = classifyResult cfg x e) := by
  have hagain : (if isLookup then ProviderAction.processing else .lookup) ∈
      [ProviderAction.processing, .lookup] := by
    cases isLookup <;> decide
  simp only [classifyProviderObservation]
  split
  · exact .inl hagain
  · split
    · next answer hanswer =>
      split at hanswer
      · next hlookup =>
        obtain ⟨hl, hstatus⟩ := Bool.and_eq_true_iff.1 hlookup
        exact .inr (.inl ⟨hl, of_decide_eq_true hstatus, hanswer⟩)
      · cases hanswer
    · split
      · exact .inl hagain
      · next hok => exact .inr (.inr ⟨not_not.1 hok, rfl⟩)

lemma classify_action_of_outcome {o : EventOutcome} (ho : o ≠ .pending) :
    (classifyProviderObservation cfg x e isLookup).action = o.action ↔ x.Attests cfg e o := by
  constructor
  · intro h
    rcases classify_ways cfg x e isLookup with hagain | ⟨-, -, hnotfound⟩ | ⟨hok, hresult⟩
    · rw [h] at hagain
      cases o <;> simp [EventOutcome.action] at hagain ho
    · rcases classifyNotFound_action hnotfound with hact | hact
      all_goals
        rw [hact] at h
        cases o <;> cases h
    · rw [hresult] at h
      obtain ⟨hsigned, hsaid⟩ := (classifyResult_action o).1 h
      exact ⟨hok, hsigned, hsaid⟩
  · rintro ⟨hstatus, hsigned, hsaid⟩
    have hserver : ¬500 ≤ x.statusCode := by omega
    have hfound : (isLookup && decide (x.statusCode = 404)) = false := by
      have hne : x.statusCode ≠ 404 := by omega
      simp [hne]
    have hresult : classifyProviderObservation cfg x e isLookup = classifyResult cfg x e := by
      simp [classifyProviderObservation, hserver, hfound, hstatus]
    rw [hresult]
    exact (classifyResult_action o).2 ⟨hsigned, hsaid⟩

lemma classify_notFound_iff : (classifyProviderObservation cfg x e isLookup).action = .notFound ↔
    isLookup = true ∧ x.AttestsAbsence cfg e := by
  constructor
  · intro h
    rcases classify_ways cfg x e isLookup with hagain | ⟨hl, hstatus, hnotfound⟩ | ⟨-, hresult⟩
    · rw [h] at hagain
      simp at hagain
    · obtain ⟨hbody, hsigned, hbound⟩ := classifyNotFound_iff.1 ⟨_, hnotfound, h⟩
      exact ⟨hl, hstatus, hbody, hsigned, hbound⟩
    · rw [hresult] at h
      exact absurd h (classifyResult_cases cfg x e).2
  · rintro ⟨rfl, hstatus, hbody, hsigned, hbound⟩
    obtain ⟨cl, hcl, hact⟩ := classifyNotFound_iff.2 ⟨hbody, hsigned, hbound⟩
    simp [classifyProviderObservation, hstatus, hcl, hact]

end Provider

section Bank

variable {cfg : Service} {x : Observation} {request : BankRequest} {r : Json}

lemma hasStr_unique {k s s' : String} (h : hasStr r k s = true) (h' : hasStr r k s' = true) : s = s' := by
  unfold hasStr at h h'
  cases hk : r.get? k with
  | none => simp [hk] at h
  | some v =>
    rw [hk] at h h'
    cases v <;> simp_all [Json.eqStr]

inductive BankClassification.Reads (x : Observation) (request : BankRequest) (r : Json) :
    BankClassification → Prop
  | success : request.Succeeds r → Reads x request r ⟨true, true, false, some true, none⟩
  | decline {code} : request.Declines r → Reads x request r ⟨true, false, false, some true, some code⟩
  | absent : x.statusCode = 404 → request.Absent r → Reads x request r (bankAmbiguous (some true) bankNotFoundCode)
  | other {signature code} : ¬request.Succeeds r → ¬request.Declines r →
      ¬(x.statusCode = 404 ∧ request.Absent r) → code ≠ bankNotFoundCode →
      Reads x request r (bankAmbiguous signature code)

lemma classifyBankReply_reads (x : Observation) (request : BankRequest) (r : Json) :
    (classifyBankReply x request r).Reads x request r := by
  unfold classifyBankReply
  split
  · next hnotfound =>
    have hyes : ¬request.Succeeds r := fun h => absurd (hasStr_unique hnotfound.2 h.2) (by decide)
    have hno : ¬request.Declines r := fun h => absurd (hasStr_unique hnotfound.2 h.2.1) (by decide)
    split
    · next hbound =>
      simp only [Bool.and_eq_true] at hbound
      exact .absent hnotfound.1 ⟨hnotfound.2, hbound.1.1, hbound.1.2, hbound.2⟩
    · next hbound =>
      refine .other hyes hno (fun h => hbound ?_) (by decide)
      simp [h.2.2.1, h.2.2.2.1, h.2.2.2.2]
  · next hnotfound =>
    have habsent : ¬(x.statusCode = 404 ∧ request.Absent r) := fun h => hnotfound ⟨h.1, h.2.1⟩
    split
    · next hmatch =>
      have hmatch : ¬request.matches r = true := by simpa using hmatch
      exact .other (fun h => hmatch h.1) (fun h => hmatch h.1) habsent (by decide)
    · next hmatch =>
      have hmatch : request.matches r = true := by simpa using hmatch
      unfold classifyBankOutcome
      split
      · next hyes => exact .success ⟨hmatch, hyes⟩
      · next hyes =>
        have hyes : ¬request.Succeeds r := fun h => hyes h.2
        split
        · next code hcode =>
          split
          · next hdeclined =>
            obtain ⟨hout, htruthy⟩ := Bool.and_eq_true_iff.1 hdeclined
            exact .decline ⟨hmatch, hout, code, hcode, htruthy⟩
          · next hdeclined =>
            refine .other hyes (fun h => hdeclined ?_) habsent (by decide)
            obtain ⟨-, hout, code', hcode', htruthy⟩ := h
            rw [hcode, Option.some.injEq] at hcode'
            simp [hout, hcode', htruthy]
        · next hcode =>
          refine .other hyes (fun h => ?_) habsent (by decide)
          obtain ⟨-, -, code, hcode', -⟩ := h
          rw [hcode] at hcode'
          cases hcode'

inductive BankClassification.Knows (cfg : Service) (obs : Option Observation) (request : BankRequest) :
    BankClassification → Prop
  | reply {x r cl} : obs = some x → x.BankSays cfg (· = r) → cl.Reads x request r → Knows cfg obs request cl
  | nothing {signature code} : (∀ x good, obs = some x → ¬x.BankSays cfg good) → code ≠ bankNotFoundCode →
      Knows cfg obs request (bankAmbiguous signature code)

lemma Observation.BankSays.iff (h : x.BankSays cfg (· = r)) (good : Json → Prop) : x.BankSays cfg good ↔ good r := by
  obtain ⟨r', hr', hobject, rfl⟩ := h.answer
  constructor
  · intro hgood
    obtain ⟨r'', hr'', -, hg⟩ := hgood.answer
    rw [hr', Option.some.injEq] at hr''
    exact hr'' ▸ hg
  · exact fun hg => ⟨h.status, h.body, h.signed, r', hr', hobject, hg⟩

lemma Observation.BankSays.not_bankAbsent (h : x.BankSays cfg request.Declines) : ¬x.BankAbsent cfg request := by
  rintro ⟨-, habsent⟩
  obtain ⟨r, hr, -, hdeclined⟩ := h.answer
  obtain ⟨r', hr', -, hnone⟩ := habsent.answer
  rw [hr, Option.some.injEq] at hr'
  subst hr'
  exact absurd (hasStr_unique hdeclined.2.1 hnone.1) (by decide)

lemma classifyBank_knows {obs : Option Observation} {bytes : Bytes} {j : Json} {cl : BankClassification}
    (hbytes : cfg.loads bytes = some j) (hj : BankRequest.ofJson j = some request)
    (h : classifyBank cfg obs bytes = .ok cl) : cl.Knows cfg obs request := by
  cases obs with
  | none =>
    cases h
    exact .nothing (by rintro x good ⟨⟩) (by decide)
  | some x =>
    simp only [classifyBank, hbytes] at h
    split at h
    · next hunread =>
      cases h
      refine .nothing ?_ (by decide)
      rintro _ good ⟨⟩ hsaid
      rcases hunread with hserver | hempty
      · exact absurd hsaid.status (not_lt.2 hserver)
      · simp [hsaid.body] at hempty
    · next hread =>
      have hstatus : x.statusCode < 500 := not_le.1 fun hserver => hread (.inl hserver)
      have hbody : x.body.isEmpty = false := Bool.eq_false_iff.2 fun hempty => hread (.inr hempty)
      split at h
      · next hforged =>
        cases h
        refine .nothing ?_ (by decide)
        rintro _ good ⟨⟩ hsaid
        exact hforged hsaid.signed
      · next hsigned =>
        cases hr : cfg.loads x.body with
        | none =>
          rw [hr] at h
          cases h
          refine .nothing ?_ (by decide)
          rintro _ good ⟨⟩ hsaid
          obtain ⟨r, hr', -⟩ := hsaid.answer
          rw [hr] at hr'
          cases hr'
        | some r =>
          simp only [hr, hj] at h
          split at h
          · next hobject =>
            cases h
            exact .reply rfl ⟨hstatus, hbody, not_not.1 hsigned, r, hr, hobject, rfl⟩
              (classifyBankReply_reads x request r)
          · cases h

def BankClassification.status (cl : BankClassification) : AttemptStatus :=
  if cl.ambiguous then .ambiguous else if cl.succeeded then .succeeded else .failed

def PayoutAttempt.Late (a : PayoutAttempt) (grace : ℕ) (now : Time) : Prop :=
  ∃ sent, a.lastSentAt = some sent ∧ sent + seconds grace ≤ now

section Grace

variable {obs : Option Observation} {cl : BankClassification} {a : PayoutAttempt} {grace : ℕ} {now : Time}

lemma afterGrace_early (h : cl.code ≠ some bankNotFoundCode ∨ ¬a.Late grace now) :
    cl.afterGrace a.lastSentAt now grace = cl := by
  cases hsent : a.lastSentAt with
  | none => rfl
  | some sent =>
    rw [BankClassification.afterGrace, if_neg]
    rintro ⟨hcode, hlate⟩
    rcases h with h | h
    · exact h hcode
    · exact h ⟨sent, hsent, hlate⟩

lemma afterGrace_late (hcode : cl.code = some bankNotFoundCode) (h : a.Late grace now) :
    cl.afterGrace a.lastSentAt now grace = ⟨true, false, false, some true, some bankNotFoundCode⟩ := by
  obtain ⟨sent, hsent, hlate⟩ := h
  rw [hsent, BankClassification.afterGrace, if_pos ⟨hcode, hlate⟩]

lemma BankClassification.Reads.status (h : cl.Reads x request r) :
    ((cl.afterGrace a.lastSentAt now grace).status = .succeeded ↔ request.Succeeds r) ∧
      ((cl.afterGrace a.lastSentAt now grace).status = .failed ↔
        request.Declines r ∨ ((x.statusCode = 404 ∧ request.Absent r) ∧ a.Late grace now)) := by
  cases h with
  | success hyes =>
    have hno : ¬request.Declines r := fun h => absurd (hasStr_unique hyes.2 h.2.1) (by decide)
    have habsent : ¬request.Absent r := fun h => absurd (hasStr_unique hyes.2 h.1) (by decide)
    rw [afterGrace_early (.inl (by simp))]
    simp [BankClassification.status, hyes, hno, habsent]
  | decline hno =>
    have hyes : ¬request.Succeeds r := fun h => absurd (hasStr_unique hno.2.1 h.2) (by decide)
    -- a decline code that reads like the not-found code makes no difference
    rcases BankClassification.afterGrace_cases _ a.lastSentAt now grace with hsame | ⟨-, hlate⟩
    · rw [hsame]
      simp [BankClassification.status, hyes, hno]
    · rw [hlate]
      simp [BankClassification.status, hyes, hno]
  | absent hstatus habsent =>
    have hyes : ¬request.Succeeds r := fun h => absurd (hasStr_unique habsent.1 h.2) (by decide)
    have hno : ¬request.Declines r := fun h => absurd (hasStr_unique habsent.1 h.2.1) (by decide)
    by_cases hlate : a.Late grace now
    · rw [afterGrace_late rfl hlate]
      simp [BankClassification.status, hyes, hstatus, habsent, hlate]
    · rw [afterGrace_early (.inr hlate)]
      simp [BankClassification.status, bankAmbiguous, hyes, hno, hlate]
  | other hyes hno habsent hcode =>
    rw [afterGrace_early (.inl fun h => hcode (Option.some.inj h))]
    simp only [BankClassification.status, bankAmbiguous, if_true, hyes, hno, habsent, false_and, or_self]
    decide

lemma BankClassification.Knows.status (h : cl.Knows cfg obs request) :
    ((cl.afterGrace a.lastSentAt now grace).status = .succeeded ↔
        ∃ x, obs = some x ∧ x.BankSays cfg request.Succeeds) ∧
      ((cl.afterGrace a.lastSentAt now grace).status = .failed ↔ (∃ x, obs = some x ∧ x.BankSays cfg request.Declines) ∨
          ((∃ x, obs = some x ∧ x.BankAbsent cfg request) ∧ a.Late grace now)) := by
  cases h with
  | nothing hnothing hcode =>
    rw [afterGrace_early (.inl fun h => hcode (Option.some.inj h))]
    have hnone : ∀ good, ¬∃ x, obs = some x ∧ x.BankSays cfg good := by
      rintro good ⟨x, hx, hsaid⟩
      exact hnothing x good hx hsaid
    have habsent : ¬∃ x, obs = some x ∧ x.BankAbsent cfg request := by
      rintro ⟨x, hx, -, hsaid⟩
      exact hnothing x _ hx hsaid
    simp [hnone, habsent, BankClassification.status, bankAmbiguous]
  | @reply x r _ hx hsaid hreads =>
    subst hx
    simpa [Observation.BankAbsent, hsaid.iff] using hreads.status

end Grace

section Record

variable {prepared : PreparedAttempt} {obs : Option Observation} {cl : BankClassification} {grace : ℕ}
variable {w w' : World} {q q' : List Deferred} {P : Payout} {a : PayoutAttempt}

lemma attempt_observed {f : PayoutAttempt → PayoutAttempt} {P' : Payout} {t : Time} {s : AttemptStatus}
    (hP' : P'.attempts = (P.updateAttempt prepared.number f).attempts)
    (hf : ∀ a, (f a).attemptNumber = a.attemptNumber) (hs : ∀ a, (f a).status = s)
    (ha : P.attempt? prepared.number = some a) :
    ∃ a', ((w.putPayout prepared.payout P').stampAttempt (prepared.payout, prepared.number) t).attempt
      (prepared.payout, prepared.number) = some a' ∧ a'.status = s := by
  have hrow : P'.attempt? prepared.number = (P.updateAttempt prepared.number f).attempt? prepared.number := by
    rw [Payout.attempt?, hP', Payout.attempt?]
  refine ⟨f a, ?_, hs a⟩
  rw [World.attempt_put (q := prepared.payout) (P := P') rfl, if_pos rfl, hrow,
    Payout.attempt?_updateAttempt P _ hf, ha, Option.map_some, if_pos rfl]

lemma recordBankObservation_status (hP : w.payouts.get prepared.payout = some P)
    (ha : P.attempt? prepared.number = some a) (hopen : a.status.terminal = false)
    (h : (recordBankObservation prepared obs cl grace).perform w q = .ok ((), w', q')) :
    ∃ a', w'.attempt (prepared.payout, prepared.number) = some a' ∧
      a'.status = (cl.afterGrace a.lastSentAt w.now grace).status := by
  simp only [recordBankObservation, perform_acquire_bind, perform_query_bind, perform_require_bind, hP, ha,
    Option.elim_some, hopen, Bool.false_eq_true, if_false] at h
  cases hsha : a.requestSha256 with
  | none =>
    rw [hsha] at h
    cases h
  | some sha =>
    cases hb : w.beneficiaries.get P.beneficiary with
    | none =>
      rw [hsha, hb] at h
      cases h
    | some b =>
      rw [hsha, hb] at h
      simp only [Option.elim_some] at h
      unfold BankClassification.status
      split at h
      · next hamb =>
        cases h
        rw [if_pos hamb]
        exact attempt_observed rfl (fun _ => rfl) (fun _ => rfl) ha
      · next hamb =>
        rw [if_neg hamb]
        split at h
        · next hfailed =>
          cases h
          rw [if_neg (by simpa using hfailed)]
          exact attempt_observed rfl (fun _ => rfl) (fun _ => rfl) ha
        · next hsucceeded =>
          rw [if_pos (by simpa using hsucceeded)]
          -- the journal of the transfer is posted before the row is written
          obtain ⟨x₁, -, h⟩ := perform_bind_eq_ok _ h
          obtain ⟨x₂, -, h⟩ := perform_bind_eq_ok _ h
          obtain ⟨x₃, -, h⟩ := perform_bind_eq_ok _ h
          obtain ⟨x₄, -, h⟩ := perform_bind_eq_ok _ h
          rw [perform_ensure_bind] at h
          split at h
          · cases h
            exact attempt_observed rfl (fun _ => rfl) (fun _ => rfl) ha
          · cases h

def World.OwnRequests (cfg : Service) (w : World) : Prop :=
  ∀ (k : AttemptId) P a bytes, w.payouts.get k.1 = some P → P.attempt? k.2 = some a → a.requestBytes = some bytes →
    ∃ b, bytes = canonicalJsonBytes (bankRequest cfg k.1 P b k.2).json

lemma World.OwnRequests.sent {n : ℕ} {b : Beneficiary} {k : PayoutId} {t : Time} (hown : w.OwnRequests cfg)
    (hP : w.payouts.get k = some P) : ((w.putPayout k (P.updateAttempt n fun a =>
      a.markSent (canonicalJsonBytes (bankRequest cfg k P b n).json) t)).stampAttempt (k, n) t).OwnRequests cfg := by
  rintro ⟨k', n'⟩ P' a' bytes hP' ha' hbytes
  change Table.get (Table.put w.payouts k _) k' = some P' at hP'
  rw [Table.get_put] at hP'
  split at hP'
  · next hk =>
    subst hk
    cases hP'
    have hf : ∀ a : PayoutAttempt, (a.markSent (canonicalJsonBytes (bankRequest cfg k' P b n).json) t).attemptNumber =
        a.attemptNumber := fun _ => rfl
    rw [Payout.attempt?_updateAttempt P n hf] at ha'
    obtain ⟨a, ha, rfl⟩ := Option.map_eq_some_iff.1 ha'
    split at hbytes
    · next hn =>
      cases hbytes
      exact ⟨b, by rw [hn]; rfl⟩
    · exact hown (_, n') P a bytes hP ha hbytes
  · exact hown (k', n') P' a' bytes hP' ha' hbytes

lemma prepareAttemptSend_request {q : PayoutId} {d d' : List Deferred} (hown : w.OwnRequests cfg)
    (h : (prepareAttemptSend cfg q).perform w d = .ok (prepared, w', d')) (hopen : prepared.terminal = false) :
    w'.OwnRequests cfg ∧ ∃ P b, w'.payouts.get prepared.payout = some P ∧
      prepared.requestBytes = canonicalJsonBytes (bankRequest cfg prepared.payout P b prepared.number).json := by
  simp only [prepareAttemptSend, perform_acquire_bind, perform_query_bind, perform_require_bind] at h
  cases hP : w.payouts.get q with
  | none =>
    rw [hP] at h
    cases h
  | some P =>
    cases ha : P.latestAttempt with
    | none =>
      rw [hP, Option.elim_some, ha] at h
      cases h
    | some a =>
      have hn : P.attempt? a.attemptNumber = some a := by
        have hlast : a.attemptNumber = P.lastNumber := by
          simpa using List.find?_some ha
        rw [hlast]
        exact ha
      rw [hP, Option.elim_some, ha, Option.elim_some] at h
      split at h
      · cases h
        cases hopen
      · split at h
        · rw [perform_require_bind] at h
          cases hbytes : a.requestBytes with
          | none =>
            rw [hbytes] at h
            cases h
          | some bytes =>
            rw [hbytes] at h
            cases h
            obtain ⟨b, hb⟩ := hown (q, a.attemptNumber) P a bytes hP hn hbytes
            exact ⟨hown, P, b, hP, hb⟩
        · simp only [perform_query_bind, perform_require_bind, perform_ensure_bind, perform_modify_bind,
            perform_done] at h
          cases hb : w.beneficiaries.get P.beneficiary with
          | none =>
            rw [hb] at h
            cases h
          | some b =>
            rw [hb, Option.elim_some] at h
            split at h
            · cases h
              exact ⟨hown.sent hP, _, b, Table.get_put_self .., rfl⟩
            · cases h

end Record

end Bank

lemma BankRequest.ofJson_json (r : BankRequest) : BankRequest.ofJson r.json = some r := by
  simp [BankRequest.ofJson, BankRequest.json, strField, intField, Json.get?]

/-- A reply makes an operation final exactly if it is a signed result about it, and is an absence exactly if it is a
lookup's signed 404 about it; a payout attempt becomes final exactly on a signed reply about it. An absence fails an
attempt only on a lookup, unless a mutation is answered so and that is recorded after the grace period. -/
theorem outcomes_rest_on_evidence (cfg : Service) (issued : String → Bytes → Prop)
    (hreads : ∀ r : BankRequest, cfg.loads (canonicalJsonBytes r.json) = some r.json) :
    (∀ (x : Observation) (e : ExpectedProviderResult) (isLookup : Bool),
      (signatureValid cfg x = true → issued cfg.providerSigningSecret x.body) →
      ((classifyProviderObservation cfg x e isLookup).action = .finalizeSuccess ↔ x.Attests cfg e .succeeded) ∧
      ((classifyProviderObservation cfg x e isLookup).action = .finalizeFailure ↔ x.Attests cfg e .declined) ∧
      ((classifyProviderObservation cfg x e isLookup).action = .notFound ↔
        isLookup = true ∧ x.AttestsAbsence cfg e) ∧ ((classifyProviderObservation cfg x e isLookup).action ∈
        [.finalizeSuccess, .finalizeFailure, .notFound] → issued cfg.providerSigningSecret x.body)) ∧
    (∀ (w w' : World) (q : PayoutId) (prepared : PreparedAttempt) (d : List Deferred), w.OwnRequests cfg →
      (prepareAttemptSend cfg q).perform w [] = .ok (prepared, w', d) → prepared.terminal = false →
      w'.OwnRequests cfg ∧ ∃ P b, w'.payouts.get prepared.payout = some P ∧
        prepared.requestBytes = canonicalJsonBytes (bankRequest cfg prepared.payout P b prepared.number).json) ∧
    (∀ (w w' : World) (d : List Deferred) (prepared : PreparedAttempt) (P : Payout) (b : Beneficiary)
        (a a' : PayoutAttempt) (obs : Option Observation) (cl : BankClassification) (grace : ℕ),
      prepared.requestBytes = canonicalJsonBytes (bankRequest cfg prepared.payout P b prepared.number).json →
      w.payouts.get prepared.payout = some P → P.attempt? prepared.number = some a → a.status.terminal = false →
      (∀ x, obs = some x → x.bankSigned cfg → issued cfg.bankSigningSecret x.body) →
      classifyBank cfg obs prepared.requestBytes = .ok cl →
      (recordBankObservation prepared obs cl grace).perform w [] = .ok ((), w', d) →
      w'.attempt (prepared.payout, prepared.number) = some a' → (a'.status = .succeeded ↔ ∃ x, obs = some x ∧
        x.BankSays cfg (bankRequest cfg prepared.payout P b prepared.number).Succeeds) ∧ (a'.status = .failed ↔
        (∃ x, obs = some x ∧ x.BankSays cfg (bankRequest cfg prepared.payout P b prepared.number).Declines) ∨
          ((∃ x, obs = some x ∧ x.BankAbsent cfg (bankRequest cfg prepared.payout P b prepared.number)) ∧
            a.Late grace w.now)) ∧
      (a'.status.terminal = true → ∃ x, obs = some x ∧ issued cfg.bankSigningSecret x.body) ∧ ((a'.status = .failed →
          (∃ x, obs = some x ∧ x.BankAbsent cfg (bankRequest cfg prepared.payout P b prepared.number)) →
          prepared.lookupOnly = true) ↔
        prepared.lookupOnly = true ∨
          (¬∃ x, obs = some x ∧ x.BankAbsent cfg (bankRequest cfg prepared.payout P b prepared.number)) ∨
          ¬a.Late grace w.now)) := by
  refine ⟨?_, fun w w' q prepared d hown h hopen => prepareAttemptSend_request hown h hopen, ?_⟩
  · intro x e isLookup hissued
    have hyes : (classifyProviderObservation cfg x e isLookup).action = .finalizeSuccess ↔
        x.Attests cfg e .succeeded := classify_action_of_outcome (o := .succeeded) (by decide)
    have hno : (classifyProviderObservation cfg x e isLookup).action = .finalizeFailure ↔
        x.Attests cfg e .declined := classify_action_of_outcome (o := .declined) (by decide)
    have habsent : (classifyProviderObservation cfg x e isLookup).action = .notFound ↔
        isLookup = true ∧ x.AttestsAbsence cfg e := classify_notFound_iff
    refine ⟨hyes, hno, habsent, fun hact => hissued ?_⟩
    simp only [List.mem_cons, List.not_mem_nil, or_false] at hact
    rcases hact with h | h | h
    · exact (hyes.1 h).signed
    · exact (hno.1 h).signed
    · exact (habsent.1 h).2.signed
  · intro w w' d prepared P b a a' obs cl grace hbytes hP ha hopen hissued hcl hrun ha'
    rw [hbytes] at hcl
    have hknows := classifyBank_knows (hreads _) (BankRequest.ofJson_json _) hcl
    obtain ⟨a'', ha'', hstatus⟩ := recordBankObservation_status hP ha hopen hrun
    rw [ha', Option.some.injEq] at ha''
    subst ha''
    obtain ⟨hyes, hfailed⟩ := hstatus ▸ hknows.status
    refine ⟨hyes, hfailed, fun hterminal => ?_, ?_⟩
    · have hsaid : ∃ x good, obs = some x ∧ x.BankSays cfg good := by
        simp only [AttemptStatus.terminal, Bool.or_eq_true, decide_eq_true_eq] at hterminal
        rcases hterminal with h | h
        · obtain ⟨x, hx, hsaid⟩ := hyes.1 h
          exact ⟨x, _, hx, hsaid⟩
        · rcases hfailed.1 h with ⟨x, hx, hsaid⟩ | ⟨⟨x, hx, -, hsaid⟩, -⟩
          · exact ⟨x, _, hx, hsaid⟩
          · exact ⟨x, _, hx, hsaid⟩
      obtain ⟨x, good, hx, hsaid⟩ := hsaid
      exact ⟨x, hx, hissued x hx hsaid.signed⟩
    · constructor
      · intro h
        by_contra hcond
        obtain ⟨honly, habsent, hlate⟩ : prepared.lookupOnly ≠ true ∧ _ ∧ _ := by
          simpa only [not_or, not_not] using hcond
        exact honly (h (hfailed.2 (.inr ⟨habsent, hlate⟩)) habsent)
      · rintro (honly | habsent | hearly) hf hab
        · exact honly
        · exact absurd hab habsent
        · rcases hfailed.1 hf with ⟨x, hx, hdeclined⟩ | ⟨-, hlate⟩
          · obtain ⟨y, hy, habsent⟩ := hab
            rw [hx, Option.some.injEq] at hy
            exact absurd (hy ▸ habsent) hdeclined.not_bankAbsent
          · exact absurd hlate hearly

section Desk

def desk : Service := { shop with loads := Json.loads }

def deskRequest : BankRequest := ⟨"bank", 2000, "ben-ref", "INR", publicId "pot" 1, payoutStableKey (1, 1)⟩

def deskAttempt : PayoutAttempt := (preparedAttempt 1 none none none).markSent (canonicalJsonBytes deskRequest.json) 0

def deskPayout : Payout := (newPayout 1 1 2000 ⟨"payout"⟩ (sha256 [])).addAttempt deskAttempt

def deskWorld : World :=
  { shopWorld with now := seconds defaultNotFoundGraceSeconds, payouts := Table.empty.put 1 deskPayout }

def deskPrepared : PreparedAttempt := ⟨1, 1, canonicalJsonBytes deskRequest.json, false, false⟩

def deskAbsence : Json := .obj [
  ("accountId", .str deskRequest.accountId), ("outcome", .str "NOT_FOUND"), ("stableKey", .str deskRequest.stableKey)]

def deskReply : Observation := ⟨404, canonicalJsonBytes deskAbsence, [("X-Bank-Signature", "sig")], 0⟩

lemma desk_reads (r : BankRequest) : desk.loads (canonicalJsonBytes r.json) = some r.json := by
  have hkeys : ["accountId", "amount", "beneficiaryReference", "currency", "payoutReference",
      "stableKey"].Pairwise (· < ·) := by decide
  have hloads : desk.loads = Json.loads := rfl
  rw [hloads, BankRequest.json]
  refine Json.loads_sortedObject (by rfl) hkeys ?_
  simp only [List.mem_cons, List.not_mem_nil, or_false]
  rintro f (rfl | rfl | rfl | rfl | rfl | rfl)
  all_goals exact ⟨by constructor, by simp only [Json.sorted]⟩

lemma deskReply_reads : desk.loads deskReply.body = some deskAbsence := by
  have hkeys : ["accountId", "outcome", "stableKey"].Pairwise (· < ·) := by decide
  have hloads : desk.loads = Json.loads := rfl
  rw [hloads, deskReply, deskAbsence]
  refine Json.loads_sortedObject (by rfl) hkeys ?_
  simp only [List.mem_cons, List.not_mem_nil, or_false]
  rintro f (rfl | rfl | rfl)
  all_goals exact ⟨.str _, by simp only [Json.sorted]⟩

lemma deskReply_signed : deskReply.bankSigned desk := by
  have hname : "X-Bank-Signature".toLower = "x-bank-signature" := by decide +kernel
  simp [Observation.bankSigned, header, deskReply, hname, desk, shop]

lemma deskReply_absent : deskReply.BankAbsent desk deskRequest := by
  refine ⟨rfl, by decide, ?_, deskReply_signed, deskAbsence, deskReply_reads, rfl, ?_⟩
  · cases hbody : deskReply.body with
    | nil =>
      have hnothing : desk.loads [] = none := by decide +kernel
      have hreads := deskReply_reads
      rw [hbody, hnothing] at hreads
      cases hreads
    | cons c cs => rfl
  · simp [BankRequest.Absent, deskAbsence, hasStr, Json.get?, Json.eqStr, notFoundShape, onlyFields]

lemma deskReply_classified : classifyBank desk (some deskReply) deskPrepared.requestBytes =
    .ok (bankAmbiguous (some true) bankNotFoundCode) := by
  have hrequest : desk.loads deskPrepared.requestBytes = some deskRequest.json := desk_reads deskRequest
  have hgate : ¬(500 ≤ deskReply.statusCode ∨ deskReply.body.isEmpty = true) := by
    rintro (h | h)
    · exact absurd h (by decide)
    · simp [deskReply_absent.2.body] at h
  obtain ⟨hout, hacc, hkey, hshape⟩ : deskRequest.Absent deskAbsence := by
    simp [BankRequest.Absent, deskAbsence, hasStr, Json.get?, Json.eqStr, notFoundShape, onlyFields]
  have hobject : deskAbsence.isObject = true := rfl
  have hsigned : ¬header deskReply.headers "x-bank-signature" ≠
      some (desk.hmacHex desk.bankSigningSecret deskReply.body) := not_not.2 deskReply_signed
  have hstatus : deskReply.statusCode = 404 := rfl
  have hreply : classifyBankReply deskReply deskRequest deskAbsence = bankAmbiguous (some true) bankNotFoundCode := by
    simp only [classifyBankReply, hstatus, hout, hacc, hkey, hshape, and_self, Bool.and_self, if_true]
  simp only [classifyBank, if_neg hgate, if_neg hsigned, deskReply_reads, hrequest, BankRequest.ofJson_json, hobject,
    if_true, hreply]

def deskLookup : PreparedAttempt := { deskPrepared with lookupOnly := true }

theorem outcomes_rest_on_evidence_desk : ∃ w' d a',
    (recordBankObservation deskLookup (some deskReply) (bankAmbiguous (some true) bankNotFoundCode)
      defaultNotFoundGraceSeconds).perform deskWorld [] = .ok ((), w', d) ∧ w'.attempt (1, 1) = some a' ∧
    (a'.status = .failed ↔ (∃ x, some deskReply = some x ∧ x.BankSays desk deskRequest.Declines) ∨
      ((∃ x, some deskReply = some x ∧ x.BankAbsent desk deskRequest) ∧
        deskAttempt.Late defaultNotFoundGraceSeconds deskWorld.now)) := by
  refine ⟨_, _, _, rfl, rfl, ?_⟩
  exact ((outcomes_rest_on_evidence desk (fun _ b => b = deskReply.body) desk_reads).2.2 deskWorld _ _ deskLookup
    deskPayout ⟨true, "ben-ref"⟩ deskAttempt _ (some deskReply) (bankAmbiguous (some true) bankNotFoundCode)
    defaultNotFoundGraceSeconds rfl rfl rfl rfl (fun x hx _ => by cases hx; rfl) deskReply_classified rfl rfl).2.1

theorem mutation_reply_fails_attempt : ∃ w' d a',
    (recordBankObservation deskPrepared (some deskReply) (bankAmbiguous (some true) bankNotFoundCode)
      defaultNotFoundGraceSeconds).perform deskWorld [] = .ok ((), w', d) ∧
    w'.attempt (1, 1) = some a' ∧ a'.status = .failed ∧ a'.failureCode = some "BANK_EFFECT_NOT_FOUND" ∧
    classifyBank desk (some deskReply) deskPrepared.requestBytes = .ok (bankAmbiguous (some true) bankNotFoundCode) ∧
    deskReply.BankAbsent desk deskRequest ∧ deskPrepared.lookupOnly = false :=
  ⟨_, _, _, rfl, rfl, rfl, rfl, deskReply_classified, deskReply_absent, rfl⟩

end Desk

end RelayPay
