import RelayPay.Specs.Finalizer

namespace RelayPay

open ReadCommitted Txn

variable {cfg : Service} {l : Local} {x y : Run}

def ExpectedProviderResult.About (e : ExpectedProviderResult) (cfg : Service) (o : OperationId) : Prop :=
  e.accountId = cfg.providerAccountId ∧ e.stableKey = o.stableKey

variable {Q : ExpectedProviderResult → Run → Prop}

lemma wp_expectedResultFor (o : OperationId) (h : ∀ e : ExpectedProviderResult, e.About cfg o → Q e y) :
    (expectedResultFor cfg o).Wp locks (fun _ => True) Q y := by
  simp only [expectedResultFor, wp_bind, wp_query, wp_require, wp_done]
  exact fun v _ => ⟨fun _ _ => h _ ⟨rfl, rfl⟩, fun _ => trivial⟩

lemma wp_expectedResult (o : OperationId) (h : ∀ e : ExpectedProviderResult, e.About cfg o → Q e y) :
    (expectedResult cfg o).Wp locks (fun _ => True) Q y := by
  simp only [expectedResult, wp_bind, wp_query, wp_require]
  exact fun v _ => ⟨fun _ _ => wp_expectedResultFor o h, fun _ => trivial⟩

def World.Sent (w : World) (o : OperationId) : Prop :=
  ∃ op, w.operations.get o = some op ∧ op.lastSentAt.isSome = true

def World.FirstSend (w w' : World) (o : OperationId) (request : Bytes) : Prop :=
  ∃ op t, w.operations.get o = some op ∧ op.status.terminal = false ∧ op.lastSentAt = none ∧
    w' = w.putOperation o (op.firstSend request t)

lemma wp_prepareFirstSend (cont : Cont) (o : OperationId) {Q : PreparedOperation → Run → Prop}
    (h : ∀ prepared y, Follows cfg (.dispatch cont o) x y → prepared.operation = o →
      (prepared.alreadySent = false → x.state.FirstSend y.state o prepared.requestBytes) →
      (prepared.terminal = false → y.state.Sent o) → Q prepared y) : (prepareFirstSend cfg o).Wp locks (fun _ => True) Q x := by
  simp only [prepareFirstSend, wp_bind, wp_acquire, wp_query, wp_require]
  intro v hv
  rw [view_operation (List.mem_cons_self ..) hv]
  refine ⟨fun op hop => ?_, fun _ => trivial⟩
  rw [wp_ite]
  refine ⟨fun _ => h _ _ (.hold x _) rfl (by simp) (by simp), fun hopen => ?_⟩
  cases hsent : op.lastSentAt with
  | some t =>
    simp only [wp_bind, wp_require, wp_done]
    exact ⟨fun _ _ => h _ _ (.hold x _) rfl (by simp) fun _ => ⟨op, hop, by simp [hsent]⟩,
      fun _ => trivial⟩
  | none =>
    simp only [wp_bind]
    refine wp_expectedResultFor o fun e _ => ?_
    simp only [wp_query, wp_ensure, wp_modify, wp_done]
    refine fun w₀ hw₀ => ⟨fun hseq => ⟨respects_putOperation _ _, ?_⟩, fun _ => trivial⟩
    have hevolves : Evolves w₀ x.state := hw₀.1
    have hopen' : op.status.terminal = false := by simpa using hopen
    refine h _ _ ((Follows.hold x _).step (.noted (List.mem_cons_self ..) hop (.sent rfl hopen' hsent
      hseq hevolves.now))) rfl (fun _ => ⟨op, _, hop, hopen', hsent, rfl⟩)
      fun _ => ⟨_, Table.get_put_self _ _ _, rfl⟩

lemma wp_completeMutation {cont : Cont} {prepared : PreparedOperation} {e : ExpectedProviderResult}
    {obs : Option Observation} (hsent : prepared.alreadySent = false)
    {Q : Option RecordedOutcome → Run → Prop} (h : ∀ r y, Follows cfg (.answered cont prepared e obs) x y →
      (∀ n, r = some n → n.reviewReason = invalidEvidence n.action) → Q r y) :
    (completeMutation prepared.operation obs (classifyOrTransportError cfg obs e false)).Wp locks
      (fun _ => True) Q x := by
  simp only [completeMutation, wp_bind, wp_acquire, wp_query, wp_require]
  intro v hv
  rw [view_operation (List.mem_cons_self ..) hv]
  refine ⟨fun op hop => ?_, fun _ => trivial⟩
  cases hmut : op.mutation? with
  | none => exact h _ _ (.hold x _) (by simp)
  | some t =>
    simp only
    rw [wp_ite]
    refine ⟨fun _ => h _ _ (.hold x _) (by simp), fun hcompleted => ?_⟩
    simp only [wp_bind, wp_query, wp_modify, wp_done]
    refine fun w₀ hw₀ => ⟨respects_putOperation _ _, ?_⟩
    have hevolves : Evolves w₀ x.state := hw₀.1
    refine h _ _ ((Follows.hold x _).step (.noted (List.mem_cons_self ..) hop
      (.answered rfl rfl hsent hmut ?_ hevolves.now))) ?_
    · simpa using hcompleted
    · rintro n ⟨⟩
      rfl

def World.LookupRecorded (cfg : Service) (w w' : World) (h : LookupInHand) (r : RecordedOutcome) : Prop :=
  ∃ op cl ruling t next, w.operations.get h.operation = some op ∧
    cl = classifyOrTransportError cfg h.observation h.expected true ∧
    ruling = lookupRuling cl (op.lastSentAt.getD 0) (1 + op.lookups) t next h.graceSeconds ∧
    w'.operations.get h.operation = some (op.recordLookup h.operation h.observation cl ruling t) ∧
    r = ⟨op.nextSequence, ruling.action, ruling.reviewReason⟩

lemma wp_recordLookupObservation {h : LookupInHand} (hl : l.lookup? cfg = some h)
    (token : Option Token) {Q : Option RecordedOutcome → Run → Prop}
    (hQ : ∀ r y, Follows cfg l x y → (∀ n, r = some n → x.state.LookupRecorded cfg y.state h n) → Q r y) :
    (recordLookupObservation h.operation token h.observation
      (classifyOrTransportError cfg h.observation h.expected true) h.graceSeconds).Wp locks (fun _ => True) Q x := by
  simp only [recordLookupObservation, wp_bind, wp_acquire, wp_query]
  intro v hv
  rw [view_operation (List.mem_cons_self ..) hv]
  generalize hop : (Running.hold x (.operation h.operation)).state.operations.get h.operation = found
  change x.state.operations.get h.operation = found at hop
  cases found with
  | none => exact hQ _ _ (.hold x _) (by simp)
  | some op =>
    simp only
    rw [wp_ite]
    refine ⟨fun _ => hQ _ _ (.hold x _) (by simp), fun hopen => ?_⟩
    rw [wp_ite]
    refine ⟨fun _ => hQ _ _ (.hold x _) (by simp), fun _ => ?_⟩
    simp only [wp_bind, wp_query, wp_ensure, wp_modify, wp_done]
    refine fun w₀ hw₀ => ⟨fun hsent => ⟨respects_putOperation _ _, ?_⟩, fun _ => trivial⟩
    have hevolves : Evolves w₀ x.state := hw₀.1
    refine hQ _ _ ((Follows.hold x _).step (.noted (List.mem_cons_self ..) hop
      (.lookedUp hl rfl (by simpa using hopen) rfl hsent hevolves.now))) ?_
    rintro n ⟨⟩
    exact ⟨op, _, _, w₀.now, _, hop, rfl, rfl, Table.get_put_self _ _ _, rfl⟩

lemma wp_leaseOperation {now : Time} {claims : List RecoveryClaim} {c : RecoveryClaim}
    (hy : Follows cfg l x y) (ho : .operation c.operation ∈ y.held) :
    (leaseOperation now claims c).Wp locks (fun _ => True)
      (fun claims' z => Follows cfg l x z ∧ z.held = y.held ∧ claims' ⊆ claims ++ [c]) y := by
  simp only [leaseOperation, wp_bind, wp_query]
  intro v hv
  rw [view_operation ho hv]
  cases hop : y.state.operations.get c.operation with
  | none => exact ⟨hy, rfl, List.subset_append_left _ _⟩
  | some op =>
    simp only [wp_bind, wp_modify, wp_done]
    exact ⟨respects_putOperation _ _, hy.step (.noted ho hop .leased), rfl, fun _ hc => hc⟩

lemma mem_of_zipIdx_map {β γ : Type} {bs : List β} {f : β × ℕ → γ} {g : γ → β}
    (hg : ∀ e, g (f e) = e.1) {c : γ} (h : c ∈ bs.zipIdx.map f) : g c ∈ bs := by
  obtain ⟨e, he, rfl⟩ := List.mem_map.1 h
  rw [hg]
  exact (List.mem_zipIdx he).2.2 ▸ List.getElem_mem _

def World.Selects (w : World) (select : Time → ProviderOperation → Bool) (o : OperationId) : Prop :=
  ∃ now op, w.operations.get o = some op ∧ select now op = true

lemma wp_claimOperations (select : Time → ProviderOperation → Bool) (key : ProviderOperation → Time)
    (base : Token) (limit : ℕ) {Q : List RecoveryClaim → Run → Prop}
    (h : ∀ claims y, Follows cfg l x y → (∀ c ∈ claims, x.state.Selects select c.operation) →
      Q claims y) : (claimOperations select key base limit).Wp locks (fun _ => True) Q x := by
  simp only [claimOperations, wp_bind, wp_query]
  intro v₁ _ v₂ _
  refine wp_skipLocked _ _ _ _ fun taken y _ hstate hqueue hheld hkeys hstill => ?_
  -- what is claimed and what is still to be claimed was selected, and the rest is locked
  refine (wp_foldOver (fun claims rest z => Follows cfg l x z ∧
    (∀ c ∈ rest, Key.operation c.operation ∈ z.held) ∧
    ∀ c ∈ claims ++ rest, x.state.Selects select c.operation) ?_ _ [] y
    ⟨.of_locks hstate hqueue hheld, fun c hc => ?_, fun c hc => ?_⟩).imp
    fun claims z hz => h claims z hz.1 fun c hc => hz.2.2 c (List.mem_append_left _ hc)
  · rintro claims c rest z ⟨hz, hlocked, hselected⟩
    refine (wp_leaseOperation hz (hlocked c (List.mem_cons_self ..))).imp ?_
    rintro claims' z' ⟨hz', hsame, hsub⟩
    refine ⟨hz', fun c' hc' => hsame ▸ hlocked c' (List.mem_cons_of_mem _ hc'), fun c' hc' => ?_⟩
    rcases List.mem_append.1 hc' with hnew | hrest
    · refine hselected c' ?_
      rcases List.mem_append.1 (hsub hnew) with hold | hlast
      · exact List.mem_append_left _ hold
      · exact List.mem_append_right _ (List.mem_singleton.1 hlast ▸ List.mem_cons_self ..)
    · exact hselected c' (List.mem_append_right _ (List.mem_cons_of_mem _ hrest))
  · exact hkeys _ (mem_of_zipIdx_map (g := RecoveryClaim.operation) (fun _ => rfl) hc)
  · obtain ⟨v, hframe, hselect⟩ :=
      hstill _ (mem_of_zipIdx_map (g := RecoveryClaim.operation) (fun _ => rfl) hc)
    obtain ⟨op, hop, hselect⟩ := (Option.any_eq_true _ _).1 hselect
    have hrow : v.operations.get c.operation = x.state.operations.get c.operation := hframe
    exact ⟨v₁.now, op, hrow ▸ hop, hselect⟩

lemma wp_claimSpecificOperation (o : OperationId) (token : Token) (requireReview : Bool)
    {Q : RecoveryClaim → Run → Prop} (h : ∀ c y, Follows cfg l x y → c.operation = o → x.state.Sent o → Q c y) :
    (claimSpecificOperation o token requireReview).Wp locks (fun _ => True) Q x := by
  simp only [claimSpecificOperation, wp_bind, wp_query, wp_acquire, wp_require, wp_ensure, wp_modify, wp_done]
  intro v₁ _ v₂ hv₂
  rw [view_operation (List.mem_cons_self ..) hv₂]
  refine ⟨fun op hop => ⟨fun hsent => ⟨fun _ => ⟨fun _ => ⟨fun _ => ⟨respects_putOperation _ _, ?_⟩,
    fun _ => trivial⟩, fun _ => trivial⟩, fun _ => trivial⟩, fun _ => trivial⟩, fun _ => trivial⟩
  exact h _ _ ((Follows.hold x _).step (.noted (List.mem_cons_self ..) hop .leased)) rfl
    ⟨op, hop, hsent⟩

lemma wp_acceptPspEvent (headers : List (String × String)) (body : Bytes) :
    (acceptPspEvent cfg headers body).Wp locks (fun _ => True) (fun _ y => Follows cfg l x y) x := by
  simp only [acceptPspEvent, wp_bind, wp_query]
  intro v₁ _
  cases verifySimulatorWebhook cfg headers body v₁.now with
  | error e => trivial
  | ok verified =>
    simp only [wp_bind, wp_query]
    intro v₂ _
    cases v₂.pspEvents.get verified.eventId with
    | some ev =>
      simp only [wp_bind, wp_ensure, wp_done]
      exact ⟨fun _ => .refl x, fun _ => trivial⟩
    | none =>
      simp only [wp_bind, wp_query, wp_acquire, wp_ensure, wp_modify, wp_done]
      refine fun v₃ _ v₄ _ => ⟨fun _ => ⟨respects_putEvent _ _, ?_⟩, fun _ => trivial⟩
      exact (Follows.hold x _).step (.event (List.mem_cons_self ..))

lemma wp_leaseEvent {now : Time} {claims : List EventClaim} {c : EventClaim}
    (hy : Follows cfg l x y) (he : .event c.event ∈ y.held) : (leaseEvent now claims c).Wp locks (fun _ => True)
      (fun _ z => Follows cfg l x z ∧ z.held = y.held) y := by
  simp only [leaseEvent, wp_bind, wp_query]
  intro v _
  cases v.pspEvents.get c.event with
  | none => exact ⟨hy, rfl⟩
  | some ev =>
    simp only [wp_ite, wp_bind, wp_modify, wp_done]
    exact ⟨fun _ => ⟨respects_putEvent _ _, hy.step (.event he), rfl⟩,
      fun _ => ⟨respects_putEvent _ _, hy.step (.event he), rfl⟩⟩

lemma wp_claimPspEvents (base : Token) (limit : ℕ) : (claimPspEvents base limit).Wp locks
    (fun _ => True) (fun _ y => Follows cfg l x y) x := by
  simp only [claimPspEvents, wp_bind, wp_query]
  intro v₁ _ v₂ _
  refine wp_skipLocked _ _ _ _ fun taken y _ hstate hqueue hheld hkeys _ => ?_
  refine (wp_foldOver (fun _ rest z => Follows cfg l x z ∧ ∀ c ∈ rest, Key.event c.event ∈ z.held) ?_
    _ [] y ⟨.of_locks hstate hqueue hheld, fun c hc => ?_⟩).imp fun _ z hz => hz.1
  · rintro claims c rest z ⟨hz, hlocked⟩
    refine (wp_leaseEvent hz (hlocked c (List.mem_cons_self ..))).imp ?_
    rintro claims' z' ⟨hz', hsame⟩
    exact ⟨hz', fun c' hc' => hsame ▸ hlocked c' (List.mem_cons_of_mem _ hc')⟩
  · exact hkeys _ (mem_of_zipIdx_map (g := EventClaim.event) (fun _ => rfl) hc)

lemma wp_finishEvent (e : String) (ev : PspEvent) (status : PspStatus) (outcomeCode : Option String)
    (hy : Follows cfg l x y) (he : .event e ∈ y.held) {Q : Unit → Run → Prop} (h : ∀ z, Follows cfg l x z → Q () z) :
    (finishEvent e ev status outcomeCode).Wp locks (fun _ => True) Q y := by
  simp only [finishEvent, wp_bind, wp_query, wp_modify]
  exact fun v _ => ⟨respects_putEvent _ _, h _ (hy.step (.event he))⟩

lemma decideEvent_apply {status : OperationStatus} {applied succeeded : Bool} {outcome : EventOutcome}
    (h : decideEvent status applied outcome = .apply succeeded) : status.terminal = false := by
  simp only [decideEvent] at h
  cases hterminal : status.terminal
  · rfl
  · split at h
    · cases h
    · cases outcome <;> simp only [hterminal] at h
      · cases h
      all_goals split_ifs at h; simp_all

lemma decideEvent_review {status : OperationStatus} {applied : Bool} {outcome : EventOutcome}
    {reason : String} (h : decideEvent status applied outcome = .review reason) :
    reason = "CONTRADICTS_TERMINAL_STATE" := by
  simp only [decideEvent] at h
  split at h
  · cases h
  · cases outcome <;> simp only at h
    · cases h
    all_goals
      split_ifs at h
      cases h
      rfl

def World.Reported (w : World) (o : OperationId) : Prop :=
  ∃ e ev, w.pspEvents.get e = some ev ∧ ev.operation = some o

def webhookReviews : List String :=
  ["INVALID_EVIDENCE", "MISMATCHED_EVIDENCE", "CONTRADICTS_TERMINAL_STATE"]

lemma wp_recordDecision {e : String} {ev : PspEvent} {o : OperationId} {op : ProviderOperation}
    {result : ProviderResult} {applied : Bool} (hy : Follows cfg l x y) (he : .event e ∈ y.held)
    (ho : .operation o ∈ y.held) (hop : y.state.operations.get o = some op) {Q : PreparedEvent → Run → Prop}
    (h : ∀ prepared z, Follows cfg l x z → prepared.operation = o →
      (∀ reason, prepared.reviewReason = some reason → reason ∈ webhookReviews) → Q prepared z) :
    (recordDecision e ev o op result (decideEvent op.status applied result.outcome)).Wp locks (fun _ => True) Q y := by
  cases hdecision : decideEvent op.status applied result.outcome with
  | ignore reason =>
    simp only [recordDecision, wp_bind, wp_done]
    exact wp_finishEvent _ _ _ _ hy he fun z hz => h _ z hz rfl (by simp)
  | review reason =>
    simp only [recordDecision, wp_bind, wp_done]
    refine wp_finishEvent _ _ _ _ hy he fun z hz => h _ z hz rfl ?_
    rintro _ ⟨⟩
    simp [decideEvent_review hdecision, webhookReviews]
  | apply succeeded =>
    simp only [recordDecision, wp_bind, wp_query, wp_modify, wp_done]
    refine fun v _ => ⟨respects_putOperation _ _,
      h _ _ (hy.step (.noted ho hop (.webhook ?_))) rfl (by simp)⟩
    exact decideEvent_apply hdecision

lemma wp_prepareEvent (c : EventClaim) {Q : Option PreparedEvent → Run → Prop}
    (h : ∀ r y, Follows cfg l x y → (∀ e, r = some e → x.state.Reported e.operation ∧
      ∀ reason, e.reviewReason = some reason → reason ∈ webhookReviews) → Q r y) :
    (prepareEvent cfg c).Wp locks (fun _ => True) Q x := by
  simp only [prepareEvent, wp_bind, wp_acquire, wp_query]
  intro v₁ hv₁
  split
  · exact h _ _ (.hold x _) (by simp)
  · next ev o hrow =>
    have hreported : x.state.Reported o := by
      have hframe : v₁.pspEvents.get c.event = x.state.pspEvents.get c.event :=
        hv₁.2 _ (List.mem_cons_self ..)
      obtain ⟨ev', hev', hmap⟩ := Option.bind_eq_some_iff.1 hrow
      obtain ⟨o', ho', hpair⟩ := Option.map_eq_some_iff.1 hmap
      cases hpair
      exact ⟨c.event, ev, hframe ▸ (Option.filter_eq_some_iff.1 hev').1, ho'⟩
    -- every way out is about the operation that the event was matched to
    have hQ : ∀ {prepared : PreparedEvent} {z : Run}, Follows cfg l x z → prepared.operation = o →
        (∀ reason, prepared.reviewReason = some reason → reason ∈ webhookReviews) →
        Q (some prepared) z := by
      intro prepared z hz ho hreason
      refine h _ _ hz ?_
      rintro e ⟨⟩
      exact ⟨ho ▸ hreported, hreason⟩
    simp only [wp_bind, wp_acquire, wp_query, wp_require]
    intro v₂ hv₂
    rw [view_operation (List.mem_cons_self ..) hv₂]
    refine ⟨fun op hop => ?_, fun _ => trivial⟩
    have hlocked : Follows cfg l x ((x.hold (.event c.event)).hold (.operation o)) :=
      (Follows.hold x _).trans (.hold _ _)
    have he : Key.event c.event ∈ ((x.hold (.event c.event)).hold (.operation o)).held := by simp
    have ho : Key.operation o ∈ ((x.hold (.event c.event)).hold (.operation o)).held := by simp
    split
    · exact hQ hlocked rfl (by simp)
    · split
      · simp only [wp_bind, wp_done]
        exact wp_finishEvent _ _ _ _ hlocked he fun z hz => hQ hz rfl (by simp [webhookReviews])
      · next result _ =>
        simp only [wp_bind]
        refine wp_expectedResultFor o fun e _ => ?_
        rw [wp_ite]
        refine ⟨fun _ => ?_, fun _ => ?_⟩
        · simp only [wp_bind, wp_done]
          exact wp_finishEvent _ _ _ _ hlocked he fun z hz => hQ hz rfl (by simp [webhookReviews])
        · simp only [wp_bind, wp_query, wp_done]
          exact fun v₃ _ => wp_recordDecision hlocked he ho hop fun _ z hz => hQ hz

lemma wp_finishApplied (c : EventClaim) : (finishApplied c).Wp locks (fun _ => True)
    (fun _ y => Follows cfg l x y) x := by
  simp only [finishApplied, wp_bind, wp_acquire, wp_query]
  intro v _
  split
  · exact .hold x _
  · rw [wp_ite]
    refine ⟨fun _ => ?_, fun _ => .hold x _⟩
    exact wp_finishEvent _ _ _ _ (.hold x _) (List.mem_cons_self ..) fun z hz => hz

end RelayPay
