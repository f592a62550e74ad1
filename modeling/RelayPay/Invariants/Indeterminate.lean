import RelayPay.Invariants.Custody

/-! When an operation is parked as indeterminate: the limit counts every recorded lookup. -/

namespace RelayPay

open ReadCommitted

def Classification.indeterminate : Classification → Bool
  | .ambiguousTransport => true
  | .ambiguousHttp5xx => true
  | .nonBusinessHttp4xx => true
  | .verifiedPending => true
  | _ => false

def ProviderAttempt.indeterminate (t : ProviderAttempt) : Bool :=
  t.classification.any Classification.indeterminate

namespace ProviderOperation

def lookupLog (op : ProviderOperation) : List ProviderAttempt :=
  op.attempts.filter fun t => t.kind = .lookup

def indeterminateLookups (op : ProviderOperation) : ℕ :=
  op.lookupLog.countP ProviderAttempt.indeterminate

def Overdue (op : ProviderOperation) : Prop :=
  ∃ before t, before ++ [t] <+: op.lookupLog ∧ 4 ≤ before.length ∧ t.indeterminate = true

def Parked (op : ProviderOperation) : Prop :=
  op.reviewReason = some "PROVIDER_INDETERMINATE" ∨
    ∃ row ∈ op.history, row.reason = .review "PROVIDER_INDETERMINATE"

variable {cfg : Service} {l : Local} {now : Time} {o : OperationId} {op op' : ProviderOperation}

lemma Overdue.mono (h : op.Overdue) (hlog : op.lookupLog <+: op'.lookupLog) : op'.Overdue := by
  obtain ⟨before, t, hbefore, hlength, ht⟩ := h
  exact ⟨before, t, hbefore.trans hlog, hlength, ht⟩

lemma lookupLog_append {t : ProviderAttempt} (h : op'.attempts = op.attempts ++ [t]) :
    op.lookupLog <+: op'.lookupLog := by
  rw [lookupLog, lookupLog, h, List.filter_append]
  exact List.prefix_append _ _

lemma Documented.lookupLog_answered (h : op.Documented) {x : ProviderAttempt}
    {obs : Option Observation} {cl : ClassifiedProviderResult} (hx : op.mutation? = some x) :
    (op.answerMutation x obs cl now).lookupLog = op.lookupLog := by
  have hmem : x ∈ op.attempts := List.mem_of_find?_eq_some hx
  have hkind : x.kind = .mutation := by simpa using List.find?_some hx
  have hsame : ((fun t : ProviderAttempt => decide (t.kind = .lookup)) ∘
      fun t => if t.sequence = x.sequence then t.record obs cl now else t) =
        fun t => decide (t.kind = .lookup) := by
    funext t
    by_cases ht : t.sequence = x.sequence <;> simp [ht, ProviderAttempt.record]
  rw [lookupLog, lookupLog, ProviderOperation.answerMutation, List.filter_map, hsame]
  refine (List.map_congr_left fun t ht => ?_).trans (List.map_id _)
  obtain ⟨ht, hlookup⟩ := List.mem_filter.1 ht
  refine if_neg fun hseq => ?_
  rw [List.inj_on_of_nodup_map h.distinct ht hmem hseq, hkind] at hlookup
  simp at hlookup

lemma Revised.lookupLog (h : op.Revised cfg l now o op') (hop : op.Documented) : op.lookupLog <+: op'.lookupLog := by
  cases h with
  | noted hnotes =>
    cases hnotes with
    | sent => exact lookupLog_append rfl
    | answered _ _ _ hx => exact (hop.lookupLog_answered hx).symm ▸ List.prefix_rfl
    | lookedUp => exact lookupLog_append rfl
    | webhook => exact lookupLog_append rfl
    | leased => exact List.prefix_rfl
    | applyFailed => exact List.prefix_rfl
  | reviewed => exact List.prefix_rfl
  | finalized => exact List.prefix_rfl

lemma Revised.parked (h : op.Revised cfg l now o op')
    (hl : l.reviews = some (o, "PROVIDER_INDETERMINATE") → op.Overdue) (hparked : op'.Parked) :
    op.Parked ∨ op.Overdue := by
  cases h with
  | noted hnotes =>
    have hsame : op'.reviewReason = op.reviewReason ∧ op'.history = op.history := by
      cases hnotes <;> exact ⟨rfl, rfl⟩
    rw [Parked, hsame.1, hsame.2] at hparked
    exact .inl hparked
  | reviewed _ hreviews =>
    rcases hparked with hreason | ⟨row, hrow, hreason⟩
    · cases hreason
      exact .inr (hl hreviews)
    · rcases List.mem_append.1 hrow with hold | hnew
      · exact .inl (.inr ⟨row, hold, hreason⟩)
      · rw [List.mem_singleton.1 hnew] at hreason
        cases hreason
        exact .inr (hl hreviews)
  | finalized =>
    rcases hparked with hreason | ⟨row, hrow, hreason⟩
    · cases hreason
    · rcases List.mem_append.1 hrow with hold | hnew
      · exact .inl (.inr ⟨row, hold, hreason⟩)
      · rw [List.mem_singleton.1 hnew] at hreason
        cases hreason

end ProviderOperation

section Ruling

variable {cfg : Service} {e : ExpectedProviderResult}

def ClassifiedProviderResult.Sorted (cl : ClassifiedProviderResult) : Prop :=
  cl.action = .lookup ∨ cl.action = .processing → cl.classification.indeterminate = true

lemma classifyResult_sorted (cfg : Service) (x : Observation) (e : ExpectedProviderResult) :
    (classifyResult cfg x e).Sorted := by
  unfold classifyResult
  split
  · simp [ClassifiedProviderResult.Sorted]
  · split
    · simp [ClassifiedProviderResult.Sorted]
    · split
      · simp [ClassifiedProviderResult.Sorted, mismatchedEvidence]
      · split <;> simp [ClassifiedProviderResult.Sorted, Classification.indeterminate]

variable {cl : ClassifiedProviderResult}

lemma classifyNotFound_sorted {x : Observation} (h : classifyNotFound cfg x e = some cl) : cl.Sorted := by
  unfold classifyNotFound at h
  split at h
  · cases h
  · split at h
    · cases h
    · split at h <;> cases h <;> simp [ClassifiedProviderResult.Sorted, mismatchedEvidence]

lemma classify_sorted (cfg : Service) (obs : Option Observation) (e : ExpectedProviderResult)
    (isLookup : Bool) : (classifyOrTransportError cfg obs e isLookup).Sorted := by
  cases obs with
  | none => exact fun _ => rfl
  | some x =>
    simp only [classifyOrTransportError, classifyProviderObservation]
    split
    · exact fun _ => rfl
    · split
      · next cl hcl =>
        split at hcl
        · exact classifyNotFound_sorted hcl
        · cases hcl
      · split
        · exact fun _ => rfl
        · exact classifyResult_sorted cfg x e

lemma lookupRuling_notFound {sent t next : Time} {count grace : ℕ}
    (h : cl.action = .notFound) : ∃ c a n, lookupRuling cl sent count t next grace = ⟨c, a, none, n⟩ := by
  rw [lookupRuling, if_pos h]
  dsimp only
  split
  · exact ⟨_, _, _, rfl⟩
  · exact ⟨_, _, _, rfl⟩

lemma lookupRuling_parks {sent t next : Time} {count grace : ℕ}
    (h : (lookupRuling cl sent count t next grace).reviewReason = some "PROVIDER_INDETERMINATE") :
    (cl.action = .lookup ∨ cl.action = .processing) ∧ 5 ≤ count ∧
      (lookupRuling cl sent count t next grace).classification = cl.classification := by
  by_cases hnot : cl.action = .notFound
  · obtain ⟨c, a, n, hruling⟩ := lookupRuling_notFound hnot
    rw [hruling] at h
    cases h
  · rw [lookupRuling, if_neg hnot] at h ⊢
    by_cases hparks : (cl.action = .lookup ∨ cl.action = .processing) ∧ indeterminateAfter ≤ count
    · rw [if_pos hparks]
      exact ⟨hparks.1, hparks.2, rfl⟩
    · rw [if_neg hparks] at h
      exact absurd h (invalidEvidence_ne _)

lemma ProviderOperation.length_lookupLog (op : ProviderOperation) : op.lookupLog.length = op.lookups :=
  List.countP_eq_length_filter.symm

lemma ProviderOperation.lookupLog_recordLookup (op : ProviderOperation) (o : OperationId)
    (obs : Option Observation) (cl : ClassifiedProviderResult) (ruling : LookupRuling) (t : Time) :
    ∃ x, x.classification = some ruling.classification ∧
      (op.recordLookup o obs cl ruling t).lookupLog = op.lookupLog ++ [x] := by
  refine ⟨{ (lookupAttempt o op.nextSequence t).record obs cl t with
    classification := some ruling.classification }, rfl, ?_⟩
  rw [lookupLog, lookupLog, recordLookup, List.filter_append]
  rfl

lemma World.LookupRecorded.overdue {w w' : World} {h : LookupInHand} {r : RecordedOutcome}
    (hrecorded : w.LookupRecorded cfg w' h r)
    (hreason : r.reviewReason = some "PROVIDER_INDETERMINATE") :
    ∃ op, w'.operations.get h.operation = some op ∧ op.Overdue := by
  obtain ⟨op, cl, ruling, t, next, -, rfl, rfl, hop', rfl⟩ := hrecorded
  obtain ⟨haction, hcount, hclass⟩ := lookupRuling_parks hreason
  obtain ⟨x, hx, hlog⟩ := op.lookupLog_recordLookup h.operation h.observation
    (classifyOrTransportError cfg h.observation h.expected true) _ t
  refine ⟨_, hop', op.lookupLog, x, hlog ▸ List.prefix_rfl, ?_, ?_⟩
  · rw [op.length_lookupLog]
    omega
  · rw [ProviderAttempt.indeterminate, hx, hclass, Option.any_some]
    exact classify_sorted _ _ _ _ haction

end Ruling

section Runs

variable {cfg : Service} {out : Outside} {l l' : Local} {held : List Key} {ms : List MerchantId}
variable {w w' : World} {o : OperationId}

structure World.ParkedOverdue (w : World) : Prop where
  documented : w.Documented
  parked : ∀ o op, w.operations.get o = some op → op.Parked → op.Overdue

def World.Overdue (w : World) (o : OperationId) : Prop :=
  ∃ op, w.operations.get o = some op ∧ op.Overdue

lemma Change.overdue (h : Change cfg l held ms w w') (hw : w.Documented) (ho : w.Overdue o) : w'.Overdue o := by
  obtain ⟨op, hop, hoverdue⟩ := ho
  rcases h.operation o with hsame | ⟨hnone, -⟩ | ⟨op₁, op', hop₁, hrevised, hop'⟩
  · exact ⟨op, hsame.trans hop, hoverdue⟩
  · simp [hop] at hnone
  · rw [hop] at hop₁
    cases hop₁
    exact ⟨op', hop', hoverdue.mono (hrevised.lookupLog (hw o op hop))⟩

lemma Change.parkedOverdue (h : Change cfg l held ms w w')
    (hl : ∀ o, l.reviews = some (o, "PROVIDER_INDETERMINATE") → w.Overdue o) (hw : w.ParkedOverdue) :
    w'.ParkedOverdue := by
  refine ⟨h.documented hw.documented, fun o op' hop' hparked => ?_⟩
  rcases h.operation o with hsame | ⟨-, t, hnew⟩ | ⟨op, op₁, hop, hrevised, hop₁⟩
  · exact hw.parked o op' (hsame.symm.trans hop') hparked
  · rw [hnew] at hop'
    cases hop'
    simp [ProviderOperation.Parked, newOperation] at hparked
  · rw [hop₁] at hop'
    cases hop'
    have hlog := hrevised.lookupLog (hw.documented o op hop)
    have hreviews : l.reviews = some (o, "PROVIDER_INDETERMINATE") → op.Overdue := by
      intro hl'
      obtain ⟨op₂, hop₂, hoverdue⟩ := hl o hl'
      rw [hop] at hop₂
      cases hop₂
      exact hoverdue
    rcases hrevised.parked hreviews hparked with hbefore | hoverdue
    · exact (hw.parked o op hop hbefore).mono hlog
    · exact hoverdue.mono hlog

lemma Act.reviews (h : Act cfg out l w l' w') : l'.reviews = none := by
  cases h with
  | receivePayout => exact (Local.afterBankReply_about _ _ _ _).2
  | lookupPayout => exact (Local.afterBankReply_about _ _ _ _).2
  | _ => rfl

lemma overdue_modular : Modular locks (relaypay cfg out) World.Mirrored World.ParkedOverdue
    fun l w => ∀ o, l.reviews = some (o, "PROVIDER_INDETERMINATE") → w.Overdue o where
  spawn hl := by simp [(Local.starts_about hl).2]
  fail _ o ho := by
    have hreason := Local.onError_reviews ho
    simp at hreason
  commit := by
    intro w l t l' y _ hJ hl ht he
    have hc := committed ht he
    -- the log of an operation only grows, so what was overdue stays so
    have hkept : ∀ o, w.Overdue o → (y.own w).Overdue o := by
      intro o ho
      refine (hc.preserves (I := fun w₁ => w₁.Documented ∧ w₁.Overdue o) ?_ ⟨hJ.documented, ho⟩).2
      exact fun hchange hI => ⟨hchange.documented hI.1, hchange.overdue hI.1 hI.2⟩
    refine ⟨?_, fun o ho => ?_, fun m hm o ho => hkept o (hm o ho)⟩
    · refine (hc.preserves (I := fun w₁ => w₁.ParkedOverdue ∧
        ∀ o, l.reviews = some (o, "PROVIDER_INDETERMINATE") → w₁.Overdue o) ?_ ⟨hJ, hl⟩).1
      rintro keys ms w₁ w₂ hchange ⟨hparked, hrely⟩
      exact ⟨hchange.parkedOverdue hrely hparked, fun o ho => hchange.overdue hparked.documented (hrely o ho)⟩
    · obtain ⟨h, r, rfl, hrecorded, hreason⟩ := (entrusts ht he).parks o ho
      exact hrecorded.overdue hreason
  act := by
    intro l w l' w' _ hJ hl ha
    refine ⟨⟨fun o op hop => ?_, fun o op hop => ?_⟩, by simp [ha.reviews], fun m hm o ho => ?_⟩
    · exact hJ.documented o op (ha.operations ▸ hop)
    · exact hJ.parked o op (ha.operations ▸ hop)
    · obtain ⟨op, hop, hoverdue⟩ := hm o ho
      exact ⟨op, ha.operations ▸ hop, hoverdue⟩
  env := by
    intro w w' _ hJ he
    refine ⟨⟨fun o op hop => ?_, fun o op hop => ?_⟩, fun m hm o ho => ?_⟩
    · exact hJ.documented o op (he.operations ▸ hop)
    · exact hJ.parked o op (he.operations ▸ hop)
    · obtain ⟨op, hop, hoverdue⟩ := hm o ho
      exact ⟨op, he.operations ▸ hop, hoverdue⟩

lemma ProviderOperation.Overdue.indeterminate {op : ProviderOperation} (h : op.Overdue)
    (hfirst : ∀ t ∈ op.lookupLog.take 4, t.indeterminate = true) : 5 ≤ op.indeterminateLookups := by
  obtain ⟨before, t, ⟨after, hlog⟩, hlength, ht⟩ := h
  have htake : op.lookupLog.take 4 = before.take 4 := by
    rw [← hlog, List.append_assoc, List.take_append_of_le_length hlength]
  have hfour : (before.take 4).countP ProviderAttempt.indeterminate = 4 := by
    rw [List.countP_eq_length.2 (htake ▸ hfirst), List.length_take]
    omega
  have hbefore : 4 ≤ before.countP ProviderAttempt.indeterminate :=
    hfour.symm.trans_le ((List.take_sublist 4 before).countP_le)
  rw [indeterminateLookups, ← hlog, List.countP_append, List.countP_append, List.countP_singleton, ht]
  simp only [if_true]
  omega

theorem parked_after_five (hw : w.Initial) {c : State} (h : Reach (relaypay cfg out) (.idle w) c)
    {op : ProviderOperation} (hop : c.shared.operations.get o = some op) (hparked : op.Parked)
    (hfirst : ∀ t ∈ op.lookupLog.take 4, t.indeterminate = true) : 5 ≤ op.indeterminateLookups := by
  have hinitial : w.ParkedOverdue :=
    ⟨hw.documented, fun o op hop => by simp [hw.operations] at hop⟩
  have hkept := (overdue_modular.reach (relaypay_disciplined cfg out)
    (h.atomic (relaypay_disciplined cfg out) hw.mirrored) hw.mirrored hinitial (by simp)).1
  exact (hkept.parked o op hop hparked).indeterminate hfirst

end Runs

def shopLookups (answers : List (Option Observation)) : List (Move Local Call Happening) :=
  shopSale.take 4 ++ [.spawn (.dispatch .stop (.authorize 1)), .run 2, .run 2, .act 2 .send,
    .act 2 (.answer none), .run 2] ++
  answers.zipIdx.flatMap (fun a => [.spawn (.dispatch .stop (.authorize 1)), .run (a.2 + 3), .run (a.2 + 3),
    .act (a.2 + 3) (.answer a.1), .run (a.2 + 3)]) ++ [.run (answers.length + 2)]

def shopSilent : List (Move Local Call Happening) := shopLookups (List.replicate 5 none)

theorem parked_after_five_shop : ∃ op, (shopAfter shopSilent).1.operations.get (.authorize 1) = some op ∧
    op.reviewReason = some "PROVIDER_INDETERMINATE" ∧ 5 ≤ op.indeterminateLookups := by
  have hresult : ((player shop shopRules).play shopSilent (shopWorld, [])).bind (fun x =>
      (x.1.operations.get (.authorize 1)).map fun op =>
        (op.reviewReason, (op.lookupLog.take 4).all ProviderAttempt.indeterminate)) =
      some (some "PROVIDER_INDETERMINATE", true) := by decide +kernel
  obtain ⟨hreach, hrow⟩ := shop_result (f := fun w => (w.operations.get (.authorize 1)).map _) hresult
  obtain ⟨op, hop, hsummary⟩ := Option.map_eq_some_iff.1 hrow
  have hreason := congrArg Prod.fst hsummary
  exact ⟨op, hop, hreason, parked_after_five shopWorld_initial hreach hop (.inl hreason)
    (List.all_eq_true.1 (congrArg Prod.snd hsummary))⟩

def shopAbsences : List (Move Local Call Happening) :=
  shopLookups (List.replicate 4 (signedBy "x-provider-signature" 404 [4] 0) ++ [none])

theorem parked_after_one : ∃ (cfg : Service) (out : Outside) (w : World) (c : State), w.Initial ∧
    Reach (relaypay cfg out) (.idle w) c ∧ ∃ o op, c.shared.operations.get o = some op ∧
      op.status = .requiresReview ∧ op.reviewReason = some "PROVIDER_INDETERMINATE" ∧
      op.lookupLog.map ProviderAttempt.classification =
        List.replicate 4 (some .verifiedNotFoundWithinGrace) ++ [some .ambiguousTransport] ∧
      op.indeterminateLookups = 1 := by
  have hresult : ((player shop shopRules).play shopAbsences (shopWorld, [])).bind (fun x =>
      (x.1.operations.get (.authorize 1)).map fun op => (op.status, op.reviewReason,
        op.lookupLog.map ProviderAttempt.classification, op.indeterminateLookups)) =
      some (.requiresReview, some "PROVIDER_INDETERMINATE",
        List.replicate 4 (some .verifiedNotFoundWithinGrace) ++ [some .ambiguousTransport], 1) := by
    decide +kernel
  obtain ⟨hreach, hrow⟩ := shop_result (f := fun w => (w.operations.get (.authorize 1)).map _) hresult
  obtain ⟨op, hop, hsummary⟩ := Option.map_eq_some_iff.1 hrow
  simp only [Prod.mk.injEq] at hsummary
  exact ⟨shop, shopRules.outside, shopWorld, _, shopWorld_initial, hreach, .authorize 1, op, hop, hsummary⟩

end RelayPay
