import RelayPay.Specs.Payouts

/-! The service as a system of whole transactions, to which every interleaving comes. -/

namespace RelayPay

open ReadCommitted Txn

def Local.carries : Local → Bool
  | expecting _ _ => true
  | calling _ _ _ => true
  | awaiting _ _ _ => true
  | answered _ _ _ _ => true
  | lookedUp _ _ _ _ => true
  | recording _ _ _ _ _ => true
  | payoutCalling _ _ => true
  | payoutAwaiting _ _ => true
  | payoutRecord _ _ _ _ => true
  | _ => false

inductive Handover (cfg : Service) (l : Local) (w : World) : Local → World → Prop
  | quiet {l' w'} : l'.carries = false → Handover cfg l w l' w'
  | prepared {cont o prepared w'} : l = .dispatch cont o → prepared.operation = o →
      (prepared.alreadySent = false → w.FirstSend w' o prepared.requestBytes) →
      Handover cfg l w (.expecting cont prepared) w'
  | expected {cont prepared e} : l = .expecting cont prepared → e.About cfg prepared.operation →
      Handover cfg l w (.calling cont prepared e) w
  | recording {cont claim actor obs e} : l = .lookedUp cont claim actor obs →
      e.About cfg claim.operation → Handover cfg l w (.recording cont claim actor obs e) w
  | payout {rest q prepared w'} : l = .payoutPrepare rest q → prepared.payout = q →
      (prepared.lookupOnly = false → w.PayoutSend w' q prepared.number prepared.requestBytes) →
      Handover cfg l w (.payoutCalling rest prepared) w'

namespace Local

@[simp] lemma resume_carries (cont : Cont) : (resume cont).carries = false := by
  rcases cont with _ | ⟨_ | _⟩ | ⟨_ | _⟩ <;> rfl

@[simp] lemma failed_carries (cont : Cont) : (failed cont).carries = false := by
  cases cont
  · rfl
  · exact resume_carries _
  · rfl

@[simp] lemma nextEvent_carries (rest : List EventClaim) : (nextEvent rest).carries = false := by
  cases rest <;> rfl

@[simp] lemma nextPayout_carries (rest : List PayoutId) : (nextPayout rest).carries = false := by
  cases rest <;> rfl

@[simp] lemma applyOutcome_carries (cont : Cont) (o : OperationId) (actor : Actor)
    (r : Option RecordedOutcome) : (applyOutcome cont o actor r).carries = false := by
  cases r with
  | none => exact resume_carries cont
  | some r =>
    rw [applyOutcome]
    cases r.action <;> first | rfl | exact resume_carries cont

@[simp] lemma afterPrepare_carries (rest : List EventClaim) (c : EventClaim) (e : Option PreparedEvent) :
    (afterPrepare rest c e).carries = false := by
  cases e with
  | none => exact nextEvent_carries rest
  | some e =>
    rw [afterPrepare]
    split <;> first | rfl | exact nextEvent_carries rest

end Local

lemma onError_carries (l : Local) (e : Error) : (onError l e).carries = false := by
  unfold onError
  split <;> first | rfl | simp | (split <;> first | rfl | simp)

section Commit

variable {cfg : Service} {l : Local} {w : World}

lemma wp_quiet {α : Type} {t : Tx α} {f : α → Local} (hf : ∀ a, (f a).carries = false)
    (h : t.Wp locks (fun _ => True) (fun _ y => Follows cfg l ⟨w, [], []⟩ y) ⟨w, [], []⟩) :
    (t >>= fun a => done (f a)).Wp locks (fun _ => True)
      (fun l' y => Follows cfg l ⟨w, [], []⟩ y ∧ Handover cfg l w l' y.state) ⟨w, [], []⟩ := by
  rw [wp_bind]
  exact h.imp fun a y hy => ⟨hy, .quiet (hf a)⟩

lemma wp_command (c : Command) (k : KeyedRequest) : (c.transaction cfg k).Wp locks (fun _ => True)
      (fun _ y => Follows cfg l ⟨w, [], []⟩ y) ⟨w, [], []⟩ := by
  cases c with
  | createIntent c => exact wp_createPaymentIntent c k
  | authorize p => exact wp_initiateAuthorization p k
  | capture p amount => exact wp_initiateCapture p amount k
  | void p => exact wp_initiateVoid p k
  | refund p r amount => exact wp_initiateRefund p r amount k

lemma wp_race (c : Command) (k : KeyedRequest) :
    (c.race k).Wp locks (fun _ => True) (fun _ y => Follows cfg l ⟨w, [], []⟩ y) ⟨w, [], []⟩ := by
  cases c with
  | createIntent c => exact wp_recoverIntentRace c k
  | _ => exact wp_recoverOperationRace k

lemma wp_recordAnswer (cont : Cont) (prepared : PreparedOperation) (e : ExpectedProviderResult)
    (obs : Option Observation) : (recordAnswer cfg prepared e obs).Wp locks (fun _ => True)
      (fun _ y => Follows cfg (.answered cont prepared e obs) ⟨w, [], []⟩ y) ⟨w, [], []⟩ := by
  rw [recordAnswer, wp_ite]
  constructor
  · intro hsent
    exact wp_recordLookupObservation (h := ⟨prepared.operation, obs, e, defaultNotFoundGraceSeconds⟩)
      (by simp [Local.lookup?, hsent]) none fun _ _ hy _ => hy
  · intro hsent
    exact wp_completeMutation (by simpa using hsent) fun _ _ hy _ => hy

lemma finalize_any {o : OperationId} {attempt : ℕ} {actor : Actor} :
    (finalizeVerifiedAttempt o attempt actor).Wp locks (fun _ => True)
      (fun _ y => Follows cfg l ⟨w, [], []⟩ y) ⟨w, [], []⟩ :=
  wp_mono (wp_finalizeVerifiedAttempt o attempt actor) (fun _ _ => trivial) fun _ _ hy => hy

lemma wp_transaction {t : Tx Local} (ht : transaction cfg l = some t) :
    t.Wp locks (fun _ => True) (fun l' y => Follows cfg l ⟨w, [], []⟩ y ∧
      Handover cfg l w l' y.state) ⟨w, [], []⟩ := by
  cases l <;> simp only [transaction, Option.some.injEq, reduceCtorEq] at ht <;> subst ht
  case command c k => exact wp_quiet (fun _ => rfl) (wp_command c k)
  case commandRace c k => exact wp_quiet (fun _ => rfl) (wp_race c k)
  case dispatch cont o =>
    rw [wp_bind]
    refine wp_prepareFirstSend cont o fun prepared y hy ho hsend _ => ?_
    rw [wp_done]
    split
    · exact ⟨hy, .quiet (Local.resume_carries cont)⟩
    · exact ⟨hy, .prepared rfl ho hsend⟩
  case expecting cont prepared =>
    rw [wp_map]
    exact wp_expectedResult _ fun e he => ⟨.refl _, .expected rfl he⟩
  case answered cont prepared e obs =>
    exact wp_quiet (fun r => Local.applyOutcome_carries _ _ _ r) (wp_recordAnswer cont prepared e obs)
  case claimUnsent base limit =>
    exact wp_quiet (fun _ => Local.resume_carries _) (wp_claimOperations _ _ base limit fun _ _ hy _ => hy)
  case claimDue base limit =>
    exact wp_quiet (fun _ => Local.resume_carries _) (wp_claimOperations _ _ base limit fun _ _ hy _ => hy)
  case adminLookup o token =>
    exact wp_quiet (fun _ => rfl) (wp_claimSpecificOperation o token true fun _ _ hy _ _ => hy)
  case lookedUp cont claim actor obs =>
    rw [wp_map]
    exact wp_expectedResult _ fun e he => ⟨.refl _, .recording rfl he⟩
  case recording cont claim actor obs e =>
    exact wp_quiet (fun r => Local.applyOutcome_carries _ _ _ r) (wp_recordLookupObservation
      (h := ⟨claim.operation, obs, e, cfg.notFoundGraceSeconds⟩) rfl _ fun _ _ hy _ => hy)
  case finalizing cont o attempt actor => exact wp_quiet (fun _ => Local.resume_carries _) finalize_any
  case applyFailed cont o attempt =>
    exact wp_quiet (fun _ => Local.resume_carries _) (wp_recordApplyFailure rfl attempt)
  case reviewing cont o attempt reason actor =>
    exact wp_quiet (fun _ => Local.resume_carries _) (wp_markOperationForReview rfl _ actor)
  case acceptEvent headers body => exact wp_quiet (fun _ => rfl) (wp_acceptPspEvent headers body)
  case claimEvents base limit =>
    exact wp_quiet (fun _ => Local.nextEvent_carries _) (wp_claimPspEvents base limit)
  case pspPrepare rest c => exact wp_quiet (fun _ => Local.afterPrepare_carries _ _ _) (wp_prepareEvent c fun _ _ hy _ => hy)
  case pspReview rest o reason =>
    exact wp_quiet (fun _ => Local.nextEvent_carries _) (wp_markOperationForReview rfl none _)
  case pspFinalize rest c o attempt => exact wp_quiet (fun _ => rfl) finalize_any
  case pspApplyFailed rest o attempt =>
    exact wp_quiet (fun _ => Local.nextEvent_carries _) (wp_recordApplyFailure rfl attempt)
  case pspFinish rest c => exact wp_quiet (fun _ => Local.nextEvent_carries _) (wp_finishApplied c)
  case expire batchSize => exact wp_quiet (fun _ => rfl) (wp_expireAuthorizations batchSize)
  case createMerchant m => exact wp_quiet (fun _ => rfl) (wp_createMerchantAccount m false fun _ hy _ => hy)
  case settle m run fingerprint again =>
    exact wp_quiet (fun _ => rfl) ((wp_runSettlementTransaction m run fingerprint).imp fun _ _ h => h.1)
  case createPayout c again => exact wp_quiet (fun _ => rfl) (wp_createPayoutTransaction c)
  case retryPayout c => exact wp_quiet (fun _ => rfl) (wp_createRetry c)
  case payoutBatch limit =>
    refine wp_quiet (fun _ => rfl) ?_
    rw [selectPayoutBatch, wp_query]
    exact fun _ _ => .refl _
  case payoutClaim limit ids =>
    exact wp_quiet (fun _ => Local.nextPayout_carries _) (wp_claimStaleSentAttempts limit)
  case payoutPrepare rest q =>
    rw [wp_bind]
    refine wp_prepareAttemptSend rest q fun prepared y hy hq hsend => ?_
    rw [wp_done]
    split
    · exact ⟨hy, .quiet (Local.nextPayout_carries rest)⟩
    · exact ⟨hy, .payout rfl hq hsend⟩
  case payoutRecord rest prepared obs cl =>
    exact wp_quiet (fun _ => Local.nextPayout_carries _) (wp_recordBankObservation rfl)

end Commit

structure Committed (cfg : Service) (l : Local) (w : World) (held : List Key) (l' : Local)
    (w' : World) : Prop where
  handover : Handover cfg l w l' w'
  changes : ∃ keys ms, keys ⊆ held ∧ (∀ m ∈ ms, Key.coverage m ∈ held) ∧ Changes cfg l keys ms w w' ∧
    ∀ m ∈ ms, w'.reserved m ≤ w'.available m

variable {cfg : Service} {w : World}

lemma committed {l l' : Local} {t : Tx Local} {y : Pending World Key Empty} (ht : transaction cfg l = some t)
    (he : Eval locks w (t.atCommit validatePayoutCoverage []) .init (.ok l') y) :
    Committed cfg l w y.held l' (y.own w) := by
  have hwp : t.Wp locks (fun _ => True) (fun l' y => (forEach validatePayoutCoverage y.queue).Wp locks
      (fun _ => True) (fun _ z => Committed cfg l w z.held l' z.state) ⟨y.state, y.held, []⟩)
      ⟨w, [], []⟩ := by
    refine (wp_transaction ht).imp ?_
    rintro l' y ⟨hfollows, hhandover⟩
    refine (wp_coverage ⟨trivial, trivial⟩ y.queue y.state y.held).imp ?_
    rintro _ z ⟨hstate, hheld, hcovered⟩
    rw [hstate]
    exact ⟨hhandover, y.held, checked y.queue, hheld, fun m hm => (hcovered m hm).1, hfollows.changes,
      fun m hm => (hcovered m hm).2⟩
  exact (he.commits hwp).1 l' rfl

variable {out : Outside} {w' : World}

lemma Act.change {l l' : Local} (h : Act cfg out l w l' w') : Change cfg .finished [] [] w w' := by
  cases h <;> exact .outside rfl le_rfl

lemma Environment.change (h : Environment out w w') : Change cfg .finished [] [] w w' := by
  cases h with
  | tick hle => exact .outside rfl hle
  | _ => exact .outside rfl le_rfl

lemma Changes.keeps_locks {l : Local} {keys held : List Key} {ms : List MerchantId}
    (h : Changes cfg l keys ms w w') (hw : w.Mirrored) (hkeys : keys ⊆ held)
    (hms : ∀ m ∈ ms, Key.coverage m ∈ held) : locks.Keeps held w w' ∧ w'.Mirrored := by
  obtain ⟨hevolves, hframe⟩ := h.keeps hw
  refine ⟨⟨hevolves, fun k hk => hframe k (fun hmem => absurd (hkeys hmem) hk) ?_⟩, h.mirrored hw⟩
  rintro m hm rfl
  exact hk (hms m hm)

theorem relaypay_disciplined (cfg : Service) (out : Outside) :
    Disciplined locks (relaypay cfg out) World.Mirrored where
  commit hw ht he := by
    obtain ⟨keys, ms, hkeys, hms, hchanges, -⟩ := (committed ht he).changes
    exact hchanges.keeps_locks hw hkeys hms
  act hw ha := Changes.keeps_locks (.single ha.change) hw (fun _ hk => hk) (fun _ hm => nomatch hm)
  env hw he := by
    have hchange : Changes cfg .finished [] [] _ _ := .single he.change
    exact hchange.keeps_locks hw (fun _ hk => hk) (fun _ hm => nomatch hm)

lemma astep_changes {a a' : World × List Local} (h : AStep locks (relaypay cfg out) a a') :
    ∃ l keys ms, Changes cfg l keys ms a.1 a'.1 ∧ ∀ m ∈ ms, a'.1.reserved m ≤ a'.1.available m := by
  cases h with
  | commit _ ht he =>
    obtain ⟨keys, ms, -, -, hchanges, hcovered⟩ := (committed ht he).changes
    exact ⟨_, keys, ms, hchanges, hcovered⟩
  | act _ ha => exact ⟨_, [], [], .single ha.change, fun _ hm => nomatch hm⟩
  | env he => exact ⟨_, [], [], .single he.change, fun _ hm => nomatch hm⟩
  | _ => exact ⟨.finished, [], [], .refl, fun _ hm => nomatch hm⟩

variable {I : World → Prop}

lemma Changes.preserves {l : Local} {held : List Key} {ms : List MerchantId}
    (hI : ∀ {w w'}, Change cfg l held ms w w' → I w → I w') (h : Changes cfg l held ms w w') (h0 : I w) : I w' := by
  induction h with
  | refl => exact h0
  | tail _ hchange ih => exact hI hchange ih

lemma Committed.preserves {l l' : Local} {held : List Key} (h : Committed cfg l w held l' w')
    (hI : ∀ {keys ms w w'}, Change cfg l keys ms w w' → I w → I w') (h0 : I w) : I w' := by
  obtain ⟨keys, ms, -, -, hchanges, -⟩ := h.changes
  exact hchanges.preserves hI h0

theorem areach_preserves (hI : ∀ {l held ms w w'}, Change cfg l held ms w w' → I w → I w') {a a' : World × List Local}
    (h : AReach locks (relaypay cfg out) a a') (h0 : I a.1) : I a'.1 := by
  induction h with
  | refl => exact h0
  | tail _ hstep ih =>
    obtain ⟨l, keys, ms, hchanges, -⟩ := astep_changes hstep
    exact hchanges.preserves hI ih

theorem reach_preserves (hI : ∀ {l held ms w w'}, Change cfg l held ms w w' → I w → I w')
    (hw : w.Mirrored) (h0 : I w) {c : State} (h : Reach (relaypay cfg out) (.idle w) c) : I c.shared :=
  areach_preserves hI (h.atomic (relaypay_disciplined cfg out) hw) h0

structure World.Initial (w : World) : Prop where
  payments : w.payments = .empty
  operations : w.operations = .empty
  records : w.records = .empty
  pspEvents : w.pspEvents = .empty
  journals : w.journals = []
  balanceTransactions : w.balanceTransactions = []
  settlementRuns : w.settlementRuns = .empty
  settlementItems : w.settlementItems = []
  payouts : w.payouts = .empty
  provider : w.provider = ⟨.empty, []⟩
  bank : w.bank = ⟨.empty, []⟩

lemma World.Initial.mirrored (h : w.Initial) : w.Mirrored := by
  intro o
  rw [h.operations, h.payments]
  rfl

end RelayPay
