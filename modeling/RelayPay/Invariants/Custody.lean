import RelayPay.Invariants.Absence

namespace RelayPay

open ReadCommitted Txn

def Cont.claimed : Cont → List OperationId
  | .poll rest => rest.map RecoveryClaim.operation
  | _ => []

def Local.about : Local → List OperationId
  | .dispatch cont _ => cont.claimed
  | .expecting cont prepared => prepared.operation :: cont.claimed
  | .calling cont prepared _ => prepared.operation :: cont.claimed
  | .awaiting cont prepared _ => prepared.operation :: cont.claimed
  | .answered cont prepared _ _ => prepared.operation :: cont.claimed
  | .lookingUp cont claim _ => claim.operation :: cont.claimed
  | .lookedUp cont claim _ _ => claim.operation :: cont.claimed
  | .recording cont claim _ _ _ => claim.operation :: cont.claimed
  | .finalizing cont o _ _ => o :: cont.claimed
  | .applyFailed cont o _ => o :: cont.claimed
  | .reviewing cont o _ _ _ => o :: cont.claimed
  | .pspReview _ o _ => [o]
  | .pspFinalize _ _ o _ => [o]
  | .pspApplyFailed _ o _ => [o]
  | _ => []

def Local.Keeps (l l' : Local) : Prop := l'.about ⊆ l.about ∧ l'.reviews = none

namespace Local

variable {l : Local} {o : OperationId}

variable {reason : String}

lemma about_of_reviews (h : l.reviews = some (o, reason)) : o ∈ l.about := by
  cases l <;> simp only [reviews, reduceCtorEq, Option.some.injEq, Prod.mk.injEq] at h <;>
    simp [about, h.1]

lemma starts_about (h : l.starts = true) : l.about = [] ∧ l.reviews = none := by
  cases l with
  | dispatch cont o =>
    cases cont with
    | stop => exact ⟨rfl, rfl⟩
    | _ => cases h
  | _ => first | exact ⟨rfl, rfl⟩ | cases h

lemma resume_about (cont : Cont) : (resume cont).about ⊆ cont.claimed := by
  rcases cont with _ | ⟨_ | _⟩ | ⟨_ | _⟩ <;> simp [resume, about, Cont.claimed]

lemma resume_reviews (cont : Cont) : (resume cont).reviews = none := by
  rcases cont with _ | ⟨_ | _⟩ | ⟨_ | _⟩ <;> rfl

lemma failed_about (cont : Cont) : (failed cont).about ⊆ cont.claimed := by
  cases cont with
  | sweep rest base limit => exact resume_about _
  | _ => simp [failed, about]

lemma failed_reviews (cont : Cont) : (failed cont).reviews = none := by
  cases cont with
  | sweep rest base limit => exact resume_reviews _
  | _ => rfl

lemma nextEvent_about (rest : List EventClaim) : (nextEvent rest).about = [] ∧ (nextEvent rest).reviews = none := by
  cases rest <;> exact ⟨rfl, rfl⟩

lemma nextPayout_about (rest : List PayoutId) : (nextPayout rest).about = [] ∧ (nextPayout rest).reviews = none := by
  cases rest <;> exact ⟨rfl, rfl⟩

lemma afterBankReply_about (cfg : Service) (rest : List PayoutId) (prepared : PreparedAttempt)
    (obs : Option Observation) : (afterBankReply cfg rest prepared obs).about = [] ∧
      (afterBankReply cfg rest prepared obs).reviews = none := by
  unfold afterBankReply
  split <;> exact ⟨rfl, rfl⟩

lemma applyOutcome_about (cont : Cont) (o : OperationId) (actor : Actor) (r : Option RecordedOutcome) :
    (applyOutcome cont o actor r).about ⊆ o :: cont.claimed := by
  have hresume : (resume cont).about ⊆ o :: cont.claimed :=
    List.subset_cons_of_subset _ (resume_about cont)
  cases r with
  | none => exact hresume
  | some r =>
    rw [applyOutcome]
    cases r.action <;> first | exact hresume | exact fun _ h => h

lemma applyOutcome_reviews {cont : Cont} {o' : OperationId} {actor : Actor}
    {r : Option RecordedOutcome} (h : (applyOutcome cont o actor r).reviews = some (o', reason)) :
    o' = o ∧ ∃ n, r = some n ∧ reason = n.reviewReason.getD "INVALID_EVIDENCE" := by
  cases r with
  | none => simp [applyOutcome, resume_reviews] at h
  | some n =>
    rw [applyOutcome] at h
    cases hn : n.action <;> simp only [hn, resume_reviews, reduceCtorEq] at h
    all_goals cases h
    exact ⟨rfl, n, rfl, rfl⟩

lemma afterPrepare_about (rest : List EventClaim) (c : EventClaim) (e : Option PreparedEvent) :
    ∀ o ∈ (afterPrepare rest c e).about, ∃ p, e = some p ∧ p.operation = o := by
  cases e with
  | none => simp [afterPrepare, nextEvent_about]
  | some p =>
    intro o ho
    rw [afterPrepare] at ho
    split at ho
    case h_1 | h_3 => exact ⟨p, rfl, (List.mem_singleton.1 ho).symm⟩
    all_goals simp [nextEvent_about] at ho

lemma afterPrepare_reviews {rest : List EventClaim} {c : EventClaim} {e : Option PreparedEvent}
    (h : (afterPrepare rest c e).reviews = some (o, reason)) : ∃ p, e = some p ∧ p.reviewReason = some reason := by
  cases e with
  | none => simp [afterPrepare, nextEvent_about] at h
  | some p =>
    rw [afterPrepare] at h
    split at h
    case h_1 hreason =>
      cases h
      exact ⟨p, rfl, hreason⟩
    case h_3 => cases h
    all_goals simp [nextEvent_about] at h

lemma onError_about (l : Local) (e : Error) : (onError l e).about ⊆ l.about := by
  have hfailed : ∀ (cont : Cont) (o : OperationId), (failed cont).about ⊆ o :: cont.claimed :=
    fun cont o => List.subset_cons_of_subset o (failed_about cont)
  have hevents : ∀ (rest : List EventClaim) (os : List OperationId), (nextEvent rest).about ⊆ os := by
    simp [nextEvent_about]
  unfold onError
  split
  case h_2 => exact failed_about _
  case h_7 => split <;> first | exact hfailed _ _ | exact fun _ h => h
  case h_13 => split <;> first | exact hevents _ _ | exact fun _ h => h
  all_goals first | exact hfailed _ _ | exact hevents _ _ | exact List.nil_subset _

lemma onError_reviews {e : Error} (h : (onError l e).reviews = some (o, reason)) :
    reason = "APPLY_FAILURE" := by
  unfold onError at h
  split at h
  case h_7 | h_13 =>
    split at h
    · cases h
      rfl
    · simp [failed_reviews, nextEvent_about] at h
  all_goals first | cases h | simp [failed_reviews, nextEvent_about] at h

end Local

structure Entrusts (cfg : Service) (l : Local) (w : World) (l' : Local) (w' : World) : Prop where
  about : ∀ o ∈ l'.about, o ∈ l.about ∨ w.Sent o ∨ w'.Sent o ∨ w.Reported o
  parks : ∀ o, l'.reviews = some (o, "PROVIDER_INDETERMINATE") → ∃ h r, h.operation = o ∧
    w.LookupRecorded cfg w' h r ∧ r.reviewReason = some "PROVIDER_INDETERMINATE"

section Commit

variable {cfg : Service} {l l' : Local} {w w' : World} {t : Tx Local} {y : Pending World Key Empty}

lemma Local.Keeps.entrusts (h : l.Keeps l') : Entrusts cfg l w l' w' :=
  ⟨fun _ ho => .inl (h.1 ho), fun _ hr => by simp [h.2] at hr⟩

lemma entrusts_of_keeps {α : Type} {u : Tx α} {f : α → Local}
    (he : Eval locks w ((u >>= fun a => done (f a)).atCommit validatePayoutCoverage []) .init (.ok l') y)
    (hf : ∀ a, l.Keeps (f a)) : Entrusts cfg l w l' (y.own w) := by
  have hreturns : (u >>= fun a => done (f a)).Returns l.Keeps :=
    (returns_of_forall (fun _ => trivial) u).bind (P := fun _ => True) fun a _ => hf a
  exact (he.returns (hreturns.atCommit _ _) rfl).entrusts

lemma at_commit {P : Local → World → Prop} (he : Eval locks w (t.atCommit validatePayoutCoverage []) .init (.ok l') y)
    (h : t.Wp locks (fun _ => True) (fun l' y => P l' y.state) ⟨w, [], []⟩) : P l' (y.own w) := by
  have hwp : t.Wp locks (fun _ => True) (fun l' y => (forEach validatePayoutCoverage y.queue).Wp locks
      (fun _ => True) (fun _ z => P l' z.state) ⟨y.state, y.held, []⟩) ⟨w, [], []⟩ := by
    refine h.imp fun l' y hP => ?_
    refine (wp_coverage ⟨trivial, trivial⟩ y.queue y.state y.held).imp ?_
    rintro _ z ⟨hstate, -, -⟩
    rw [hstate]
    exact hP
  exact (he.commits hwp).1 l' rfl

lemma entrusts_applyOutcome {cont : Cont} {h : LookupInHand} {actor : Actor}
    {r : Option RecordedOutcome} (hl : l.about = h.operation :: cont.claimed)
    (hr : ∀ n, r = some n → n.reviewReason = some "PROVIDER_INDETERMINATE" →
      w.LookupRecorded cfg w' h n) : Entrusts cfg l w (.applyOutcome cont h.operation actor r) w' := by
  refine ⟨fun o ho => .inl (hl ▸ Local.applyOutcome_about _ _ _ _ ho), fun o ho => ?_⟩
  obtain ⟨rfl, n, rfl, hreason⟩ := Local.applyOutcome_reviews ho
  have hindeterminate : n.reviewReason = some "PROVIDER_INDETERMINATE" := by
    cases hn : n.reviewReason with
    | none => simp [hn] at hreason
    | some reason => simpa [hn] using hreason.symm
  exact ⟨h, n, rfl, hr n rfl hindeterminate, hindeterminate⟩

lemma invalidEvidence_ne (action : ProviderAction) :
    invalidEvidence action ≠ some "PROVIDER_INDETERMINATE" := by
  unfold invalidEvidence
  split <;> simp

lemma wp_recordAnswer_entrusts (cont : Cont) (prepared : PreparedOperation) (e : ExpectedProviderResult)
    (obs : Option Observation) : (recordAnswer cfg prepared e obs).Wp locks (fun _ => True)
      (fun r y => Entrusts cfg (.answered cont prepared e obs) w
        (.applyOutcome cont prepared.operation .request r) y.state) ⟨w, [], []⟩ := by
  rw [recordAnswer, wp_ite]
  refine ⟨fun hsent => ?_, fun hsent => ?_⟩
  · refine wp_recordLookupObservation (l := .answered cont prepared e obs)
      (h := ⟨prepared.operation, obs, e, defaultNotFoundGraceSeconds⟩)
      (by simp [Local.lookup?, hsent]) none fun r y _ hr => ?_
    exact entrusts_applyOutcome rfl fun n hn _ => hr n hn
  · refine wp_completeMutation (by simpa using hsent)
      fun r y (_ : Follows cfg (.answered cont prepared e obs) _ y) hr => ?_
    refine entrusts_applyOutcome (h := ⟨prepared.operation, obs, e, 0⟩) rfl fun n hn hreason => ?_
    rw [hr n hn] at hreason
    exact absurd hreason (invalidEvidence_ne _)

lemma entrusts (ht : transaction cfg l = some t)
    (he : Eval locks w (t.atCommit validatePayoutCoverage []) .init (.ok l') y) : Entrusts cfg l w l' (y.own w) := by
  cases l <;> simp only [transaction, Option.some.injEq, reduceCtorEq] at ht <;> subst ht
  case dispatch cont o =>
    refine at_commit he ?_
    rw [wp_bind]
    refine wp_prepareFirstSend cont o fun prepared y _ ho _ hsent => ?_
    rw [wp_done]
    split
    · exact Local.Keeps.entrusts ⟨Local.resume_about cont, Local.resume_reviews cont⟩
    · next hopen =>
      refine ⟨fun o' ho' => ?_, fun o' ho' => by cases ho'⟩
      rcases List.mem_cons.1 ho' with rfl | hrest
      · exact .inr (.inr (.inl (ho ▸ hsent (by simpa using hopen))))
      · exact .inl hrest
  case answered cont prepared e obs =>
    refine at_commit he ?_
    rw [wp_map]
    exact wp_recordAnswer_entrusts cont prepared e obs
  case recording cont claim actor obs e =>
    refine at_commit he ?_
    rw [wp_bind]
    refine wp_recordLookupObservation (l := .recording cont claim actor obs e)
      (h := ⟨claim.operation, obs, e, cfg.notFoundGraceSeconds⟩) rfl _ fun r y _ hr => ?_
    exact entrusts_applyOutcome rfl fun n hn _ => hr n hn
  case claimDue base limit =>
    refine at_commit he ?_
    rw [wp_bind]
    refine wp_claimOperations _ _ base limit
      fun claims y (_ : Follows cfg (.claimDue base limit) _ y) hselected => ?_
    refine ⟨fun o ho => ?_, fun o ho => ?_⟩
    · obtain ⟨c, hc, rfl⟩ := List.mem_map.1 (Local.resume_about _ ho)
      obtain ⟨now, op, hop, hdue⟩ := hselected c hc
      simp only [ProviderOperation.due, Bool.and_eq_true] at hdue
      exact .inr (.inl ⟨op, hop, hdue.1.1.2⟩)
    · simp [Local.resume_reviews] at ho
  case adminLookup o token =>
    refine at_commit he ?_
    rw [wp_bind]
    refine wp_claimSpecificOperation o token true
      fun c y (_ : Follows cfg (.adminLookup o token) _ y) ho hsent => ?_
    refine ⟨fun o' ho' => ?_, fun o' ho' => by cases ho'⟩
    rw [List.mem_singleton.1 ho', ho]
    exact .inr (.inl hsent)
  case pspPrepare rest c =>
    refine at_commit he ?_
    rw [wp_map]
    refine wp_prepareEvent (l := .pspPrepare rest c) c fun r y _ hr => ?_
    refine ⟨fun o ho => ?_, fun o ho => ?_⟩
    · obtain ⟨p, hp, rfl⟩ := Local.afterPrepare_about _ _ _ o ho
      exact .inr (.inr (.inr (hr p hp).1))
    · obtain ⟨p, hp, hreason⟩ := Local.afterPrepare_reviews ho
      have hwebhook := (hr p hp).2 _ hreason
      simp [webhookReviews] at hwebhook
  case finalizing | applyFailed | reviewing =>
    exact entrusts_of_keeps he fun _ =>
      ⟨List.subset_cons_of_subset _ (Local.resume_about _), Local.resume_reviews _⟩
  case claimUnsent =>
    exact entrusts_of_keeps he fun _ => ⟨Local.resume_about _, Local.resume_reviews _⟩
  case pspReview | claimEvents | pspApplyFailed | pspFinish =>
    exact entrusts_of_keeps he fun _ => by simp [Local.Keeps, Local.nextEvent_about]
  case payoutClaim | payoutRecord =>
    exact entrusts_of_keeps he fun _ => by simp [Local.Keeps, Local.nextPayout_about]
  case payoutPrepare =>
    refine entrusts_of_keeps he fun prepared => ?_
    split
    · simp [Local.Keeps, Local.nextPayout_about]
    · exact ⟨List.nil_subset _, rfl⟩
  case expecting | lookedUp =>
    exact entrusts_of_keeps he fun _ => ⟨fun _ ho => ho, rfl⟩
  all_goals exact entrusts_of_keeps he fun _ => ⟨List.nil_subset _, rfl⟩

end Commit

end RelayPay
