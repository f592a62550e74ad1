import RelayPay.Invariants.Captures
import RelayPay.ReadCommitted.Blind

/-! Who is told of a finalized operation, and what endpoints of other environments have to do with it. -/

namespace RelayPay

open ReadCommitted Txn

def World.retold (w : World) (versions : Table EndpointVersionId EndpointVersion)
    (environment : EnvironmentId) (recipients : List EventRecipient) : World :=
  { w with
    endpointVersions := versions, environment := environment, eventRecipients := recipients }

section Blind

variable {versions : Table EndpointVersionId EndpointVersion} {environment : EnvironmentId}
variable {told : List EventRecipient}

lemma blind_account (code : AccountCode) (m : Option MerchantId) :
    (account code m).Blind fun w => w.retold versions environment told :=
  (blind_query fun _ => by rfl).bind fun _ => (blind_ensure _ _).bind fun _ => blind_done _

lemma blind_platformAccount (code : AccountCode) :
    (platformAccount code).Blind fun w => w.retold versions environment told :=
  (blind_modify fun _ => by rfl).bind fun _ => blind_account code none

lemma blind_entryIf {acct : Tx Account} (h : acct.Blind fun w => w.retold versions environment told)
    (amount : ℤ) (side : Side) : (entryIf amount side acct).Blind fun w => w.retold versions environment told := by
  rw [entryIf]
  split
  · exact h.bind fun _ => blind_done _
  · exact blind_done _

lemma blind_postJournal (id : JournalId) (m : MerchantId) (o : Option OperationId) (entries : List Posting) :
    (postJournal id m o entries).Blind fun w => w.retold versions environment told :=
  (blind_ensure _ _).bind fun _ => (blind_ensure _ _).bind fun _ => (blind_acquire _).bind fun _ =>
    (blind_query fun _ => by rfl).bind fun _ => (blind_ensure _ _).bind fun _ =>
      (blind_modify fun _ => by rfl).bind fun _ => blind_enqueueAll _

lemma blind_addBalanceTransaction (b : BalanceTransaction) :
    (addBalanceTransaction b).Blind fun w => w.retold versions environment told :=
  (blind_ensure _ _).bind fun _ => blind_modify fun _ => by rfl

lemma blind_postCaptureJournal (p : PaymentId) (amount fee gst : ℤ) :
    (postCaptureJournal p amount fee gst).Blind fun w => w.retold versions environment told :=
  (blind_ensure _ _).bind fun _ => (blind_query fun _ => by rfl).bind fun _ => (blind_require _ _).bind fun _ =>
    (blind_account _ _).bind fun _ => (blind_entryIf (blind_account _ _) _ _).bind fun _ =>
      (blind_entryIf (blind_platformAccount _) _ _).bind fun _ =>
        (blind_entryIf (blind_platformAccount _) _ _).bind fun _ =>
          (blind_postJournal _ _ _ _).bind fun _ =>
            (blind_addBalanceTransaction _).bind fun _ => blind_done _

lemma blind_refundSources (p : PaymentId) (amount : ℤ) (m : MerchantId) :
    (refundSources p amount m).Blind fun w => w.retold versions environment told :=
  (blind_query fun _ => by rfl).bind fun _ => (blind_query fun _ => by rfl).bind fun _ =>
    (blind_query fun _ => by rfl).bind fun _ => (blind_require _ _).bind fun _ =>
      (blind_account _ _).bind fun _ => (blind_query fun _ => by rfl).bind fun _ =>
        ((blind_query fun _ => by rfl).bind fun _ => (blind_ensure _ _).bind fun _ => blind_done _).bind
          fun _ => blind_done _

lemma blind_postRefundJournal (p : PaymentId) (r : RefundId) (amount : ℤ) :
    (postRefundJournal p r amount).Blind fun w => w.retold versions environment told :=
  (blind_query fun _ => by rfl).bind fun _ => (blind_require _ _).bind fun _ => (blind_ensure _ _).bind fun _ =>
    (blind_query fun _ => by rfl).bind fun _ => (blind_require _ _).bind fun _ =>
      (blind_acquire _).bind fun _ => (blind_refundSources _ _ _).bind fun _ =>
        (blind_entryIf (blind_account _ _) _ _).bind fun _ =>
          (blind_entryIf (blind_account _ _) _ _).bind fun _ =>
            (blind_entryIf (blind_account _ _) _ _).bind fun _ =>
              (blind_account _ _).bind fun _ => (blind_postJournal _ _ _ _).bind fun _ =>
                (blind_addBalanceTransaction _).bind fun _ => blind_done _

lemma blind_transition (p : PaymentId) (a : PaymentIntent) (target : PaymentStatus) (reason : StatusReason)
    (actor : Actor) : (transition p a target reason actor).Blind fun w => w.retold versions environment told :=
  (blind_acquire _).bind fun _ => (blind_query fun _ => by rfl).bind fun _ => (blind_require _ _).bind fun _ =>
    (blind_ensure _ _).bind fun _ => (blind_ensure _ _).bind fun _ => blind_modify fun _ => by rfl

lemma blind_finalizeResource (o : OperationId) (a : PaymentIntent) (v : Verdict) (actor : Actor) :
    (finalizeResource o a v actor).Blind fun w => w.retold versions environment told := by
  cases o with
  | authorize p =>
    exact (blind_require _ _).bind fun _ => (blind_modify fun _ => by rfl).bind fun _ => blind_transition _ _ _ _ _
  | capture p =>
    refine (blind_require _ _).bind fun _ => ?_
    rw [finalizeCapture]
    split
    · exact (blind_postCaptureJournal _ _ _ _).bind fun _ => (blind_done _).bind fun _ =>
        (blind_modify fun _ => by rfl).bind fun _ => blind_transition _ _ _ _ _
    · exact (blind_done _).bind fun _ => (blind_modify fun _ => by rfl).bind fun _ => blind_transition _ _ _ _ _
  | void p =>
    refine (blind_require _ _).bind fun _ => (blind_modify fun _ => by rfl).bind fun _ => ?_
    split
    · exact blind_transition _ _ _ _ _
    · exact blind_done _
  | refund p r =>
    have htarget : (refundTargetStatus p).Blind fun w => w.retold versions environment told :=
      (blind_query fun _ => by rfl).bind fun _ => (blind_query fun _ => by rfl).bind fun _ => blind_done _
    refine (blind_require _ _).bind fun _ => ?_
    rw [finalizeRefund]
    split
    · exact (blind_postRefundJournal _ _ _).bind fun _ => (blind_done _).bind fun _ =>
        (blind_modify fun _ => by rfl).bind fun _ => htarget.bind fun _ => blind_transition _ _ _ _ _
    · exact (blind_done _).bind fun _ => (blind_modify fun _ => by rfl).bind fun _ => blind_done _

lemma blind_validatePayoutCoverage (d : Deferred) :
    (validatePayoutCoverage d).Blind fun w => w.retold versions environment told := by
  rw [validatePayoutCoverage_eq]
  cases d.merchant with
  | none => exact blind_done _
  | some m =>
    exact (blind_acquire _).bind fun _ => (blind_query fun _ => by rfl).bind fun _ => (blind_ensure _ _).bind fun _ =>
      (blind_query fun _ => by rfl).bind fun _ => (blind_ensure _ _).bind fun _ => blind_ensure _ _

end Blind

namespace World

def withEndpoints (w : World) (versions : Table EndpointVersionId EndpointVersion) : World :=
  { w with endpointVersions := versions }

def homeVersions (w : World) : Table EndpointVersionId EndpointVersion :=
  w.endpointVersions.filter fun _ e => e.environment = w.environment

def announcement (w : World) (o : OperationId) (evidence : ℕ) : Option String :=
  match w.operations.get o with
  | none => none
  | some op =>
    if op.status.terminal then none
    else match verdictOf op evidence w.now with
      | .ok (_, v) => v.announces o
      | .error _ => none

def HeardAtHome (w : World) (o : OperationId) (evidence : ℕ) : Prop :=
  ∀ t, w.announcement o evidence = some t → ∀ e ∈ w.listeners t w.now, e.2.environment = w.environment

def toTell (w : World) (o : OperationId) (evidence : ℕ) : List EventRecipient :=
  match w.announcement o evidence with
  | some t => (w.listeners t w.now).map fun e => ⟨o, t, e.1⟩
  | none => []

end World

lemma finalization_exec {w w' : World} {o : OperationId} {n : ℕ} {actor : Actor} :
    (finalization o n actor).exec w = .ok ((), w') ↔ (finalizeVerifiedAttempt o n actor).Runs
      (fun _ s q => (forEach validatePayoutCoverage q).Runs (fun _ s' _ => s' = w') s []) w [] := by
  rw [← commits_iff (P := fun _ s' => s' = w')]
  constructor
  · exact fun h => ⟨(), w', h, rfl⟩
  · rintro ⟨⟨⟩, s', h, rfl⟩
    exact h

lemma finalization_verdict {w : World} {o : OperationId} {n : ℕ} {actor : Actor} {a : PaymentIntent}
    {op : ProviderOperation} {c : Classification} {v : Verdict} {amount : ℤ}
    (ha : w.payments.get o.payment = some a) (hop : w.operations.get o = some op)
    (hr : a.hasResource o = true) (hopen : op.status.terminal = false)
    (hv : verdictOf op n w.now = .ok (c, v)) (hamount : a.resourceAmount o = some amount) :
    (∀ versions w', (finalization o n actor).exec (w.withEndpoints versions) ≠ .ok ((), w')) ∨
    ∃ w₁ : World, ∀ versions w', (finalization o n actor).exec (w.withEndpoints versions) = .ok ((), w') ↔
      (w.withEndpoints versions).HomeOnly o v ∧ w' = w₁.retold versions w.environment
        (w.eventRecipients ++ (w.withEndpoints versions).recipients o v) := by
  -- both halves of the transaction are blind to the endpoints
  have hexec : ∀ versions w', (finalization o n actor).exec (w.withEndpoints versions) = .ok ((), w') ↔
      (finalizeResource o a v actor).Runs (fun _ s q =>
        (v.succeeded = true → (op.events.all fun e => some e.eventType ≠ o.eventType) = true) ∧
        (w.withEndpoints versions).HomeOnly o v ∧
        (forEach validatePayoutCoverage q).Runs (fun _ s' _ => s'.retold versions w.environment
            (w.eventRecipients ++ (w.withEndpoints versions).recipients o v) = w')
          ((s.putOperation o (op.finalized o v amount n c actor)).updateRecords
            fun _ => finalizeRecord o (terminalResponse o amount v) v.now) []) w [] := by
    intro versions w'
    rw [finalization_exec]
    refine (runs_finalizeVerifiedAttempt (w := w.withEndpoints versions) ha hop hr hopen hv hamount).trans ?_
    have hresource : (finalizeResource o a v actor).Blind
        fun s => s.retold versions w.environment w.eventRecipients := blind_finalizeResource o a v actor
    refine hresource.runs.trans (runs_congr fun _ s q => ?_)
    have htriggers : (forEach validatePayoutCoverage q).Blind fun s' => s'.retold versions w.environment
        (w.eventRecipients ++ (w.withEndpoints versions).recipients o v) :=
      blind_forEach (fun d => blind_validatePayoutCoverage d) q
    refine and_congr_right fun _ => and_congr_right fun _ => ?_
    change (forEach validatePayoutCoverage q).Runs _ (World.retold ((s.putOperation o
      (op.finalized o v amount n c actor)).updateRecords
        fun _ => finalizeRecord o (terminalResponse o amount v) v.now) versions w.environment
          (w.eventRecipients ++ (w.withEndpoints versions).recipients o v)) [] ↔ _
    exact htriggers.runs
  by_cases hresource : (finalizeResource o a v actor).Runs (fun _ _ _ => True) w []
  · obtain ⟨_, s, q, hends⟩ := hresource.ends
    simp only [hends] at hexec
    by_cases hevents : v.succeeded = true → (op.events.all fun e => some e.eventType ≠ o.eventType) = true
    · by_cases htriggers : (forEach validatePayoutCoverage q).Runs (fun _ _ _ => True)
          ((s.putOperation o (op.finalized o v amount n c actor)).updateRecords
            fun _ => finalizeRecord o (terminalResponse o amount v) v.now) []
      · obtain ⟨_, w₁, _, hfired⟩ := htriggers.ends
        refine .inr ⟨w₁, fun versions w' => ?_⟩
        rw [hexec, and_iff_right hevents, hfired, eq_comm]
      · exact .inl fun versions w' h => htriggers (((hexec versions w').1 h).2.2.imp fun _ _ _ _ => trivial)
    · exact .inl fun versions w' h => hevents ((hexec versions w').1 h).1
  · exact .inl fun versions w' h => hresource (((hexec versions w').1 h).imp fun _ _ _ _ => trivial)

lemma PaymentIntent.resourceAmount_of_hasResource {a : PaymentIntent} {o : OperationId}
    (h : a.hasResource o = true) : ∃ amount, a.resourceAmount o = some amount := by
  cases o with
  | authorize p =>
    obtain ⟨x, hx⟩ := Option.isSome_iff_exists.1 h
    exact ⟨x.amount, by simp [resourceAmount, hx]⟩
  | capture p =>
    obtain ⟨x, hx⟩ := Option.isSome_iff_exists.1 h
    exact ⟨x.amount, by simp [resourceAmount, hx]⟩
  | void p =>
    obtain ⟨x, hx⟩ := Option.isSome_iff_exists.1 h
    exact ⟨x.amount, by simp [resourceAmount, hx]⟩
  | refund p r =>
    obtain ⟨x, hx⟩ := Option.isSome_iff_exists.1 h
    exact ⟨x.amount, by simp [resourceAmount, hx]⟩

section Cases

variable {w : World} {o : OperationId} {n : ℕ} {actor : Actor} {a : PaymentIntent} {op : ProviderOperation}

lemma finalization_terminal (ha : w.payments.get o.payment = some a) (hop : w.operations.get o = some op)
    (hr : a.hasResource o = true) (hterminal : op.status.terminal = true) {w' : World} :
    (finalization o n actor).exec w = .ok ((), w') ↔
      (op.terminalHttpStatus.isSome ∧ op.terminalResponseBytes.isSome) ∧ w = w' := by
  rw [finalization_exec, finalizeVerifiedAttempt, runs_bind, runs_lockedGraph]
  simp only [ha, hop, hr, Option.some.injEq, exists_and_left, exists_eq_left', true_and, hterminal, if_true,
    runs_ensure]
  rfl

lemma finalization_unverified (ha : w.payments.get o.payment = some a)
    (hop : w.operations.get o = some op) (hr : a.hasResource o = true)
    (hopen : op.status.terminal = false) {e : Error} (hv : verdictOf op n w.now = .error e) (w' : World) :
    (finalization o n actor).exec w ≠ .ok ((), w') := by
  rw [ne_eq, finalization_exec, finalizeVerifiedAttempt, runs_bind, runs_lockedGraph]
  simp only [ha, hop, hr, Option.some.injEq, exists_and_left, exists_eq_left', true_and, hopen,
    Bool.false_eq_true, if_false, runs_bind, runs_query, hv, runs_raise, not_false_eq_true]

lemma World.announcement_eq_none (hop : w.operations.get o = some op)
    (hterminal : op.status.terminal = true) : w.announcement o n = none := by
  simp [World.announcement, hop, hterminal]

lemma World.announcement_eq {c : Classification} {v : Verdict} (hop : w.operations.get o = some op)
    (hopen : op.status.terminal = false) (hv : verdictOf op n w.now = .ok (c, v)) :
    w.announcement o n = v.announces o := by
  simp [World.announcement, hop, hopen, hv]

end Cases

lemma finalization_endpoints (w : World) (o : OperationId) (n : ℕ) (actor : Actor) :
    (∀ versions w', (finalization o n actor).exec (w.withEndpoints versions) ≠ .ok ((), w')) ∨
    ∃ w₁ : World, ∀ versions w', (finalization o n actor).exec (w.withEndpoints versions) = .ok ((), w') ↔
      (w.withEndpoints versions).HeardAtHome o n ∧ w' = w₁.retold versions w.environment
        (w.eventRecipients ++ (w.withEndpoints versions).toTell o n) := by
  by_cases hfound : ∃ a op, w.payments.get o.payment = some a ∧ w.operations.get o = some op ∧
      a.hasResource o = true
  · obtain ⟨a, op, ha, hop, hr⟩ := hfound
    cases hstatus : op.status.terminal with
    | true =>
      have hsilent : ∀ versions, (w.withEndpoints versions).announcement o n = none :=
        fun versions => World.announcement_eq_none hop hstatus
      by_cases hstored : op.terminalHttpStatus.isSome ∧ op.terminalResponseBytes.isSome
      · refine .inr ⟨w, fun versions w' => ?_⟩
        rw [finalization_terminal (w := w.withEndpoints versions) ha hop hr hstatus, and_iff_right hstored,
          World.HeardAtHome, World.toTell, hsilent, List.append_nil, eq_comm]
        simp [World.withEndpoints, World.retold]
      · refine .inl fun versions w' h => hstored ?_
        exact ((finalization_terminal (w := w.withEndpoints versions) ha hop hr hstatus).1 h).1
    | false =>
      cases hv : verdictOf op n w.now with
      | error e =>
        exact .inl fun versions => finalization_unverified (w := w.withEndpoints versions) ha hop hr hstatus hv
      | ok cv =>
        obtain ⟨c, v⟩ := cv
        obtain ⟨amount, hamount⟩ := PaymentIntent.resourceAmount_of_hasResource hr
        have hannounced : ∀ versions, (w.withEndpoints versions).announcement o n = v.announces o :=
          fun versions => World.announcement_eq hop hstatus hv
        have hnow := verdictOf_now hv
        refine (finalization_verdict ha hop hr hstatus hv hamount).imp_right ?_
        rintro ⟨w₁, hw₁⟩
        refine ⟨w₁, fun versions w' => ?_⟩
        rw [hw₁, World.HeardAtHome, World.toTell, hannounced, World.HomeOnly, World.recipients, hnow]
        rfl
  · refine .inl fun versions w' h => hfound ?_
    rw [finalization_exec, finalizeVerifiedAttempt, runs_bind, runs_lockedGraph] at h
    obtain ⟨a, op, ha, hop, hr, -⟩ := h
    exact ⟨a, op, ha, hop, hr⟩

lemma World.listeners_home {w : World} (t : String) (now : Time) : (w.withEndpoints w.homeVersions).listeners t now =
      (w.listeners t now).filter fun e => e.2.environment = w.environment := by
  -- both are sorted by id, and an id has one version
  have hsorted : ∀ l : List (EndpointVersionId × EndpointVersion),
      (l.insertionSort fun a b => a.1 ≤ b.1).Pairwise fun a b => a.1 ≤ b.1 := List.pairwise_insertionSort _
  refine List.Perm.eq_of_pairwise ?_ (hsorted _) ((hsorted _).filter _) ?_
  · rintro ⟨i, e⟩ ⟨j, e'⟩ hi hj hij hji
    simp only [listeners, List.mem_insertionSort, List.mem_filter, withEndpoints, homeVersions,
      Table.rows_filter, Table.mem_rows] at hi hj
    obtain rfl : i = j := le_antisymm hij hji
    rw [Option.some.inj (hi.1.1.symm.trans hj.1.1)]
  · refine (List.perm_insertionSort _ _).trans ?_
    refine List.Perm.trans ?_ ((List.perm_insertionSort _ _).symm.filter _)
    simp only [withEndpoints, homeVersions, Table.rows_filter, List.filter_filter, Bool.and_comm]
    exact List.Perm.refl _

/-- Endpoints of other environments stay out of a finalization exactly if none listens to its event. -/
theorem told_at_home (w : World) (o : OperationId) (n : ℕ) (actor : Actor) :
    (∀ w', (finalization o n actor).exec w = .ok ((), w') ↔ w.HeardAtHome o n ∧
      ∃ w₁, (finalization o n actor).exec (w.withEndpoints w.homeVersions) = .ok ((), w₁) ∧
        w' = w₁.withEndpoints w.endpointVersions) ∧
    ∀ w₁, (finalization o n actor).exec (w.withEndpoints w.homeVersions) = .ok ((), w₁) →
      w₁.eventRecipients = w.eventRecipients ++ match w.announcement o n with
        | some t => ((w.listeners t w.now).filter fun e => e.2.environment = w.environment).map
            fun e => ⟨o, t, e.1⟩
        | none => [] := by
  have hhome : (w.withEndpoints w.homeVersions).HeardAtHome o n := by
    intro t _ e he
    rw [World.listeners_home, List.mem_filter] at he
    exact of_decide_eq_true he.2
  have htold : w.HeardAtHome o n → (w.withEndpoints w.homeVersions).toTell o n = w.toTell o n := by
    intro hheard
    have hsame : (w.withEndpoints w.homeVersions).announcement o n = w.announcement o n := rfl
    rw [World.toTell, World.toTell, hsame]
    split
    · rename_i t ht
      rw [show (w.withEndpoints w.homeVersions).now = w.now from rfl, World.listeners_home,
        List.filter_eq_self.2 fun e he => decide_eq_true (hheard t ht e he)]
    · rfl
  obtain hnever | ⟨w₀, hw₀⟩ := finalization_endpoints w o n actor
  · refine ⟨fun w' => ⟨fun h => absurd h (hnever w.endpointVersions w'), ?_⟩,
      fun w₁ h => absurd h (hnever w.homeVersions w₁)⟩
    rintro ⟨-, w₁, h, -⟩
    exact absurd h (hnever w.homeVersions w₁)
  · refine ⟨fun w' => ?_, fun w₁ h => ?_⟩
    · refine (hw₀ w.endpointVersions w').trans (and_congr_right fun hheard => ?_)
      simp only [hw₀ w.homeVersions, hhome, true_and, exists_eq_left, htold hheard]
      rfl
    · obtain ⟨-, rfl⟩ := (hw₀ w.homeVersions w₁).1 h
      change w.eventRecipients ++ (w.withEndpoints w.homeVersions).toTell o n = _
      rw [World.toTell]
      simp only [World.listeners_home]
      rfl

def strangeEndpoint : EndpointVersion := ⟨2, true, ["payment.authorized.v1"], 0, none⟩

def strangeWorld : World := { shopWorld with endpointVersions := Table.empty.put 1 strangeEndpoint }

def strangeRun : List (Move Local Call Happening) :=
  shopSale.take 4 ++ dispatched 2 (.authorize 1) [1] ++ [.run 2] ++ [3, 4].flatMap fun i =>
    [.spawn (.dispatch .stop (.authorize 1)), .run i, .run i,
      .act i (.answer (signedBy "x-provider-signature" 200 [1] 0)), .run i, .run i, .run i]

def strangeReview (w : World) : Option ((OperationStatus × Option String) × Bool × Option OperationStatus) :=
  (w.operations.get (.authorize 1)).map fun op => ((op.status, op.reviewReason),
    refusedByDatabase ((finalization (.authorize 1) 1 .request).exec w),
    match (finalization (.authorize 1) 1 .request).exec (w.withEndpoints w.homeVersions) with
    | .ok (_, w') => (w'.operations.get (.authorize 1)).map ProviderOperation.status
    | .error _ => none)

theorem sent_to_review : ∃ (cfg : Service) (out : Outside) (w : World) (c : State), w.Initial ∧
    (∀ i e, w.endpointVersions.get i = some e → e.environment ≠ w.environment) ∧
    Reach (relaypay cfg out) (.idle w) c ∧ ∃ o op n, c.shared.operations.get o = some op ∧
      op.status = .requiresReview ∧ op.reviewReason = some "APPLY_FAILURE" ∧
      (finalization o n .request).exec c.shared = .error .integrity ∧
      ∃ w₁, (finalization o n .request).exec (c.shared.withEndpoints c.shared.homeVersions) = .ok ((), w₁) ∧
        (w₁.operations.get o).map ProviderOperation.status = some .succeeded := by
  have hresult : ((player shop shopRules).play strangeRun (strangeWorld, [])).bind
      (fun x => strangeReview x.1) =
        some ((.requiresReview, some "APPLY_FAILURE"), true, some .succeeded) := by decide +kernel
  obtain ⟨hreach, hreview⟩ := Player.final_result hresult
  obtain ⟨op, hop, hfound⟩ := Option.map_eq_some_iff.1 hreview
  simp only [Prod.mk.injEq] at hfound
  obtain ⟨⟨hstatus, hreason⟩, hrefused, hhome⟩ := hfound
  have hinitial : strangeWorld.Initial := by constructor <;> rfl
  have hstrange : ∀ i e, strangeWorld.endpointVersions.get i = some e →
      e.environment ≠ strangeWorld.environment := by
    intro i e he
    by_cases hi : i = 1
    · subst hi
      obtain rfl : strangeEndpoint = e := by simpa [strangeWorld] using he
      decide
    · rw [strangeWorld, Table.get_put_ne _ _ hi] at he
      cases he
  refine ⟨shop, shopRules.outside, strangeWorld, _, hinitial, hstrange, hreach, .authorize 1, op, 1, hop,
    hstatus, hreason, refusedByDatabase_eq hrefused, ?_⟩
  split at hhome
  · rename_i w₁ hw₁
    exact ⟨w₁, hw₁, hhome⟩
  · cases hhome

end RelayPay
