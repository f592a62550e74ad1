import RelayPay.Invariants.Payments

/-! A provider operation is decided once, and nothing of it changes afterwards. -/

namespace RelayPay

open ReadCommitted

lemma Verdict.status_terminal (v : Verdict) : v.status.terminal = true := by
  cases hv : v.succeeded <;> simp [Verdict.status, hv, OperationStatus.terminal]

def StatusReason.isAbout : StatusReason → OperationId → Bool
  | .authorizationSucceeded, .authorize _ => true
  | .authorizationDeclined, .authorize _ => true
  | .captureSucceeded, .capture _ => true
  | .captureDeclined, .capture _ => true
  | .voidSucceeded, .void _ => true
  | .refundSucceeded, .refund _ _ => true
  | _, _ => false

namespace PaymentIntent

def statusRows (a : PaymentIntent) (o : OperationId) : List StatusRow :=
  a.history.filter fun r => r.reason.isAbout o

def decisions (a : PaymentIntent) : OperationId → ℤ
  | .authorize _ => if a.authorization.any fun x => x.status.terminal then 1 else 0
  | .capture _ => if a.capture.any fun x => x.status.terminal then 1 else 0
  | .void _ => if a.void.any fun x => x.status = .succeeded then 1 else 0
  | .refund _ _ => a.refunds.total fun _ x => if x.status = .succeeded then 1 else 0

def Accounted (a : PaymentIntent) : Prop := ∀ o, ((a.statusRows o).length : ℤ) = a.decisions o

variable {a a' : PaymentIntent} {o : OperationId}

lemma Accounted.of_same (h : a.Accounted) (hhistory : a'.history = a.history)
    (hdecisions : ∀ o, a'.decisions o = a.decisions o) : a'.Accounted := by
  intro o
  rw [hdecisions, ← h o, statusRows, statusRows, hhistory]

lemma Accounted.moved (h : a.Accounted) {b : PaymentIntent} (hhistory : b.history = a.history)
    {target : PaymentStatus} {reason : StatusReason} {actor : Actor}
    (hdecisions : ∀ o, b.decisions o = a.decisions o + if reason.isAbout o then 1 else 0) :
    (b.moved target reason actor).Accounted := by
  intro o
  have hrows : ((b.moved target reason actor).statusRows o).length =
      (a.statusRows o).length + if reason.isAbout o then 1 else 0 := by
    cases hr : reason.isAbout o <;>
      simp [statusRows, PaymentIntent.moved, hhistory, List.filter_append, hr]
  have hsame : (b.moved target reason actor).decisions o = b.decisions o := by cases o <;> rfl
  have hbefore := h o
  rw [hsame, hdecisions, hrows, ← hbefore]
  push_cast
  rfl

lemma create_accounted (customer : ℕ) (m : MerchantId) (reference : String) (amount : ℤ)
    (actor : Actor) : (create customer m reference amount actor).Accounted := by
  intro o
  cases o <;> simp [statusRows, create, StatusReason.isAbout, decisions]

lemma Opens.accounted {cfg : Service} (hopens : a.Opens cfg o a') (h : a.Accounted) : a'.Accounted := by
  cases hopens with
  | authorize hnone =>
    refine h.of_same rfl fun o => ?_
    cases o <;> simp [decisions, hnone, OperationStatus.terminal]
  | capture _ hnone _ _ _ _ _ _ hs =>
    refine h.of_same rfl fun o => ?_
    cases o <;> simp [decisions, hnone, hs, OperationStatus.terminal]
  | void hnone _ _ _ =>
    refine h.of_same rfl fun o => ?_
    cases o <;> simp [decisions, hnone]
  | refund _ _ hnone _ _ =>
    refine h.of_same rfl fun o => ?_
    cases o <;> simp [decisions, Table.total_put_new _ hnone]

lemma Accounted.reviewed (h : a.Accounted) {s : OperationStatus} (hs : a.resourceStatus o = some s)
    (hopen : s.terminal = false) : (a.setResourceStatus .requiresReview o).Accounted := by
  have hsucc := not_succeeded hopen
  cases o with
  | authorize p =>
    obtain ⟨x, hx, rfl⟩ := Option.map_eq_some_iff.1 hs
    refine h.of_same rfl fun o => ?_
    cases o <;> simp [decisions, setResourceStatus, hx, hopen]
    rfl
  | capture p =>
    obtain ⟨x, hx, rfl⟩ := Option.map_eq_some_iff.1 hs
    refine h.of_same rfl fun o => ?_
    cases o <;> simp [decisions, setResourceStatus, hx, hopen]
    rfl
  | void p =>
    obtain ⟨x, hx, rfl⟩ := Option.map_eq_some_iff.1 hs
    refine h.of_same rfl fun o => ?_
    cases o <;> simp [decisions, setResourceStatus, hx, hsucc]
  | refund p r =>
    obtain ⟨x, hx, rfl⟩ := Option.map_eq_some_iff.1 hs
    simp only [setResourceStatus, hx]
    refine h.of_same rfl fun o => ?_
    cases o <;> try rfl
    simp only [decisions]
    refine Table.total_put_same hx ?_
    simp [hsucc]

lemma Resolves.accounted {held : List Key} {ms : List MerchantId} {w : World} {actor : Actor}
    {v : Verdict} {posted : List (Journal × BalanceTransaction)}
    (hres : a.Resolves held ms w actor v o a' posted) (h : a.Accounted) {s : OperationStatus}
    (hs : a.resourceStatus o = some s) (hopen : s.terminal = false) : a'.Accounted := by
  have hsucc := not_succeeded hopen
  have hterminal := v.status_terminal
  cases hres with
  | authorize hx _ _ =>
    simp only [resourceStatus, hx, Option.map_some, Option.some.injEq] at hs
    subst hs
    refine h.moved ?_ fun o => ?_
    · rfl
    cases hv : v.succeeded <;> cases o <;>
      simp [decisions, hx, hopen, Verdict.authorization, hterminal, StatusReason.isAbout]
  | captured hv hx _ _ _ _ _ _ _ =>
    simp only [resourceStatus, hx, Option.map_some, Option.some.injEq] at hs
    subst hs
    refine h.moved ?_ fun o => ?_
    · rfl
    cases o <;> simp [decisions, hx, hopen, Verdict.capture, hterminal, StatusReason.isAbout]
  | captureDeclined hv hx _ =>
    simp only [resourceStatus, hx, Option.map_some, Option.some.injEq] at hs
    subst hs
    refine h.moved ?_ fun o => ?_
    · rfl
    cases o <;> simp [decisions, hx, hopen, Verdict.capture, hterminal, StatusReason.isAbout]
  | voided hv hx _ =>
    simp only [resourceStatus, hx, Option.map_some, Option.some.injEq] at hs
    subst hs
    refine h.moved ?_ fun o => ?_
    · rfl
    cases o <;> simp [decisions, hx, hsucc, Verdict.void, Verdict.status, hv, StatusReason.isAbout]
  | voidDeclined hv hx =>
    simp only [resourceStatus, hx, Option.map_some, Option.some.injEq] at hs
    subst hs
    refine h.of_same rfl fun o => ?_
    cases o <;> simp [decisions, hx, hsucc, Verdict.void, Verdict.status, hv]
  | refunded hv hx _ _ _ _ _ _ hb _ _ =>
    simp only [resourceStatus, hx, Option.map_some, Option.some.injEq] at hs
    subst hs
    subst hb
    refine h.moved ?_ fun o => ?_
    · rfl
    cases o <;> simp [decisions, StatusReason.isAbout]
    rw [Table.total_put, hx]
    simp [Verdict.refund, Verdict.status, hv, hsucc]
  | refundDeclined hv hx =>
    simp only [resourceStatus, hx, Option.map_some, Option.some.injEq] at hs
    subst hs
    refine h.of_same rfl fun o => ?_
    cases o <;> try rfl
    simp only [decisions]
    refine Table.total_put_same hx ?_
    simp [Verdict.refund, Verdict.status, hv, hsucc]

lemma Accounted.expire (h : a.Accounted) (actor : Actor) :
    (a.moved .expired .authorizationExpired actor).Accounted := by
  refine h.moved rfl fun o => ?_
  cases o <;> simp [StatusReason.isAbout]

end PaymentIntent

def World.journalsOf (w : World) (o : OperationId) : List Journal :=
  w.journals.filter fun j => j.operation = some o

def OperationId.posts : OperationId → Bool
  | .capture _ => true
  | .refund _ _ => true
  | _ => false

def ProviderOperation.terminalRows (op : ProviderOperation) : ℕ :=
  op.history.countP fun r => r.toStatus.terminal

structure ProviderOperation.Filed (op : ProviderOperation) (o : OperationId) : Prop where
  entries : op.terminalRows = if op.status.terminal then 1 else 0
  events : op.events.length = if op.status = .succeeded ∧ o.eventType.isSome then 1 else 0

structure World.Filed (w : World) : Prop where
  operations : ∀ o op, w.operations.get o = some op → op.Filed o
  journals : ∀ o, (w.journalsOf o).length =
    if o.posts ∧ (w.operations.get o).map ProviderOperation.status = some .succeeded then 1 else 0
  payments : ∀ p a, w.payments.get p = some a → a.Accounted

lemma newOperation_filed (o : OperationId) (t : Time) : (newOperation t).Filed o := ⟨rfl, rfl⟩

namespace ProviderOperation

variable {cfg : Service} {l : Local} {now : Time} {o : OperationId} {op op' : ProviderOperation}

lemma Notes.outcome (h : op.Notes cfg l now o op') :
    op'.status = op.status ∧ op'.terminalResponseBytes = op.terminalResponseBytes ∧
      op'.events = op.events ∧ op'.history = op.history := by
  cases h <;> exact ⟨rfl, rfl, rfl, rfl⟩

lemma Notes.filed (h : op.Notes cfg l now o op') (hop : op.Filed o) : op'.Filed o := by
  obtain ⟨hstatus, -, hevents, hhistory⟩ := h.outcome
  constructor
  · rw [terminalRows, hhistory, hstatus]
    exact hop.entries
  · rw [hevents, hstatus]
    exact hop.events

lemma Filed.toReview (hop : op.Filed o) (hopen : op.status.terminal = false)
    (hstatus : op'.status = .requiresReview) (hevents : op'.events = op.events) {r : OperationHistory}
    (hhistory : op'.history = op.history ++ [r]) (hr : r.toStatus = .requiresReview) : op'.Filed o := by
  constructor
  · have hentries := hop.entries
    rw [hopen] at hentries
    rw [terminalRows, hhistory, List.countP_append, ← terminalRows, hentries, hstatus]
    simp [hr, OperationStatus.terminal]
  · rw [hevents, hop.events, hstatus]
    simp [PaymentIntent.not_succeeded hopen]

lemma Filed.finalized (hop : op.Filed o) (hopen : op.status.terminal = false) (v : Verdict)
    (amount : ℤ) (evidence : ℕ) (c : Classification) (actor : Actor) :
    (op.finalized o v amount evidence c actor).Filed o := by
  have hentries := hop.entries
  have hevents := hop.events
  rw [hopen] at hentries
  rw [if_neg fun h => PaymentIntent.not_succeeded hopen h.1] at hevents
  constructor
  · change (op.history ++ [_]).countP _ = if v.status.terminal then 1 else 0
    rw [List.countP_append, ← terminalRows, hentries]
    simp [v.status_terminal]
  · cases hv : v.succeeded <;> cases ht : o.eventType <;>
      simp [ProviderOperation.finalized, hevents, Verdict.status, hv, finalizedEvents, ht]

end ProviderOperation

variable {posted : List (Journal × BalanceTransaction)} {o : OperationId} {actor : Actor} {v : Verdict}
  {a a' : PaymentIntent}

lemma PaymentIntent.Resolves.posted_operation {held : List Key} {ms : List MerchantId} {w : World}
        (h : a.Resolves held ms w actor v o a' posted) :
    posted.map (fun e => e.1.operation) = if o.posts ∧ v.succeeded then [some o] else [] := by
  cases h with
  | captured hv _ hj => simp [hj, hv, OperationId.posts]
  | captureDeclined hv => simp [hv]
  | refunded hv _ _ _ _ _ hj => simp [hj, hv, OperationId.posts]
  | refundDeclined hv => simp [hv]
  | _ => simp [OperationId.posts]

lemma PaymentIntent.Resolves.operation_eq {held : List Key} {ms : List MerchantId} {w : World}
        (h : a.Resolves held ms w actor v o a' posted) : ∀ j ∈ posted.map Prod.fst, j.operation = some o := by
  intro j hj
  obtain ⟨e, he, rfl⟩ := List.mem_map.1 hj
  have hmem : e.1.operation ∈ posted.map fun e => e.1.operation := List.mem_map_of_mem he
  rw [h.posted_operation] at hmem
  split at hmem
  · simpa using hmem
  · simp at hmem

variable {js : List Journal}

lemma World.journalsOf_append {w w' : World} (h : w'.journals = w.journals ++ js) (o : OperationId) :
    w'.journalsOf o = w.journalsOf o ++ js.filter fun j => j.operation = some o := by
  rw [journalsOf, h, List.filter_append, ← journalsOf]

lemma World.journalsOf_same {w w' : World} (h : w'.journals = w.journals ++ js)
    (hjs : ∀ j ∈ js, j.operation ≠ some o) : w'.journalsOf o = w.journalsOf o := by
  have hnone : js.filter (fun j => j.operation = some o) = [] := by
    rw [List.filter_eq_nil_iff]
    intro j hj
    simpa using hjs j hj
  rw [journalsOf_append h, hnone, List.append_nil]

lemma length_filter_operation (js : List Journal) (o : OperationId) :
    (js.filter fun j => j.operation = some o).length = (js.map Journal.operation).count (some o) := by
  induction js with
  | nil => rfl
  | cons j js ih =>
    by_cases hj : j.operation = some o <;> simp [hj, ih]

namespace World.Filed

variable {w w' : World} {o : OperationId} {op : ProviderOperation} {p : PaymentId} {a : PaymentIntent}

lemma putPayment (h : w.Filed) (ha : a.Accounted) : (w.putPayment p a).Filed := by
  exact ⟨h.operations, h.journals, Table.forall_put h.payments ha⟩

lemma putOperation (h : w.Filed) (hop : op.Filed o)
    (hstatus : (w.operations.get o).map ProviderOperation.status = some .succeeded ↔
      op.status = .succeeded) : (w.putOperation o op).Filed := by
  refine ⟨Table.forall_put h.operations hop, fun o' => ?_, h.payments⟩
  have hjournals := h.journals o'
  rw [journalsOf] at hjournals ⊢
  rw [World.putOperation_journals, World.putOperation_operations, Table.get_put, hjournals]
  by_cases ho : o' = o
  · subst ho
    simp [hstatus]
  · rw [if_neg ho]

end World.Filed

section Steps

variable {cfg : Service} {l : Local} {held : List Key} {ms : List MerchantId} {w w' : World}

lemma World.Filed.finalized {op : ProviderOperation} (h : w.Filed)
    (hmirrored : w.Mirrored) (ha : w.payments.get o.payment = some a) (hop : w.operations.get o = some op)
    (hopen : op.status.terminal = false) (hres : a.Resolves held ms w actor v o a' posted)
    {op' : ProviderOperation} (hfiled : op'.Filed o) (hstatus : op'.status = v.status)
    (hoperations : w'.operations = w.operations.put o op') (hpayments : w'.payments = w.payments.put o.payment a')
    (hjournals : w'.journals = w.journals ++ posted.map Prod.fst) : w'.Filed := by
  refine ⟨hoperations ▸ Table.forall_put h.operations hfiled, ?_, hpayments ▸ Table.forall_put h.payments ?_⟩
  · intro o'
    have hbefore := h.journals o'
    have hposted := hres.posted_operation
    rw [World.journalsOf_append hjournals, List.length_append, hbefore, length_filter_operation,
      List.map_map, Function.comp_def, hposted, hoperations, Table.get_put]
    by_cases ho : o' = o
    · subst ho
      have hnot := PaymentIntent.not_succeeded hopen
      cases hv : v.succeeded <;> cases hp : o'.posts <;> simp [hop, hnot, hstatus, Verdict.status, hv]
    · have hne : ¬o = o' := fun heq => ho heq.symm
      rw [if_neg ho]
      by_cases hposts : o.posts = true ∧ v.succeeded = true <;> simp [hposts, hne]
  · exact hres.accounted (h.payments _ a ha) (hmirrored.open_status hop ha) hopen

lemma World.Filed.of_journals (h : w.Filed)
    (hoperations : w'.operations = w.operations) (hpayments : w'.payments = w.payments)
    (hjournals : w'.journals = w.journals ++ js) (hjs : ∀ j ∈ js, j.operation = none) : w'.Filed := by
  refine ⟨hoperations ▸ h.operations, fun o => ?_, hpayments ▸ h.payments⟩
  rw [World.journalsOf_same hjournals fun j hj => by simp [hjs j hj], hoperations]
  exact h.journals o

lemma Change.filed (h : Change cfg l held ms w w') (hmirrored : w.Mirrored) (hw : w.Filed) : w'.Filed := by
  cases h with
  | intent _ _ _ _ => exact hw.putPayment (PaymentIntent.create_accounted _ _ _ _ _)
  | @opened o a a' t _ _ ha hnone hopens _ =>
    refine (hw.putOperation (newOperation_filed o t) ?_).putPayment (hopens.accounted (hw.payments _ _ ha))
    simp [hnone, newOperation]
  | noted _ hop hnotes =>
    refine hw.putOperation (hnotes.filed (hw.operations _ _ hop)) ?_
    simp [hop, hnotes.outcome.1]
  | @reviewed o op a reason evidence actor token expires count _ _ ha _ hop hopen =>
    have hfiled : ProviderOperation.Filed { op.toReview reason evidence actor with
        lookupLeaseToken := token, lookupLeaseExpiresAt := expires, applyFailureCount := count } o := by
      refine (hw.operations _ _ hop).toReview hopen rfl rfl rfl ?_
      rfl
    refine (hw.putOperation hfiled ?_).putPayment
      ((hw.payments _ _ ha).reviewed (hmirrored.open_status hop ha) hopen)
    simp [hop, PaymentIntent.not_succeeded hopen, ProviderOperation.toReview]
  | @finalized o op a a' evidence c v amount actor posted _ _ ha _ hop hopen _ _ hres _ =>
    have hfiled := (hw.operations _ _ hop).finalized hopen v amount evidence c actor
    exact hw.finalized hmirrored ha hop hopen hres hfiled rfl (by simp) (by simp)
      (by simp)
  | expired _ ha _ _ => exact hw.putPayment ((hw.payments _ _ ha).expire _)
  | settled _ _ _ _ _ _ _ _ hj _ => exact hw.of_journals rfl rfl rfl (by simp [hj])
  | payoutSucceeded _ _ _ _ _ _ _ _ _ _ _ hj _ _ => exact hw.of_journals rfl rfl rfl (by simp [hj])
  | _ => exact ⟨hw.operations, hw.journals, hw.payments⟩

end Steps

structure Outcome where
  status : OperationStatus
  terminalResponseBytes : Option Bytes
  events : List MerchantEvent
  resourceStatus : Option OperationStatus
  resourceJournal : Option JournalId
  journals : List Journal

def World.outcome (w : World) (o : OperationId) : Option Outcome :=
  (w.operations.get o).map fun op => {
    status := op.status
    terminalResponseBytes := op.terminalResponseBytes
    events := op.events
    resourceStatus := (w.payments.get o.payment).bind fun a => a.resourceStatus o
    resourceJournal := (w.payments.get o.payment).bind fun a => a.resourceJournal o
    journals := w.journalsOf o }

section Stands

variable {cfg : Service} {l : Local} {held : List Key} {ms : List MerchantId} {w w' : World}
variable {o : OperationId} {op : ProviderOperation}

lemma World.outcome_of_other {o' : OperationId} (ho : o ≠ o') {op' : ProviderOperation}
    {s : OperationStatus} (ha : w.payments.get o'.payment = some a)
    (hoperations : w'.operations = w.operations.put o' op')
    (hpayments : w'.payments = w.payments.put o'.payment a') (hres : a.OnlyResource a' o' s)
    (hjournals : w'.journalsOf o = w.journalsOf o) : w'.outcome o = w.outcome o := by
  have hresource : ((w'.payments.get o.payment).bind fun a => a.resourceStatus o) =
        ((w.payments.get o.payment).bind fun a => a.resourceStatus o) ∧
      ((w'.payments.get o.payment).bind fun a => a.resourceJournal o) =
        ((w.payments.get o.payment).bind fun a => a.resourceJournal o) := by
    rw [hpayments, Table.get_put]
    split
    · next hp =>
      obtain ⟨hstatus, hjournal⟩ := hres.2 o ho hp
      rw [hp, ha]
      exact ⟨hstatus, hjournal⟩
    · exact ⟨rfl, rfl⟩
  rw [outcome, outcome, hoperations, Table.get_put_ne _ _ ho, hresource.1, hresource.2, hjournals]

lemma World.outcome_of_payment {p : PaymentId} (ha : w.payments.get p = some a)
    (hpayments : w'.payments = w.payments.put p a') (hoperations : w'.operations = w.operations)
    (hjournals : w'.journals = w.journals)
    (hsame : ∀ o, a'.resourceStatus o = a.resourceStatus o ∧ a'.resourceJournal o = a.resourceJournal o) :
    w'.outcome o = w.outcome o := by
  rw [outcome, outcome, hoperations, journalsOf, hjournals, ← journalsOf, hpayments, Table.get_put]
  split
  · next hp =>
    subst hp
    simp [ha, hsame o]
  · rfl

lemma World.outcome_of_journals (hoperations : w'.operations = w.operations)
    (hpayments : w'.payments = w.payments) (hjournals : w'.journals = w.journals ++ js)
    (hjs : ∀ j ∈ js, j.operation = none) : w'.outcome o = w.outcome o := by
  rw [outcome, outcome, hoperations, hpayments, journalsOf_same hjournals fun j hj => by simp [hjs j hj]]

lemma World.outcome_resourceStatus (ha : w.payments.get o.payment = some a)
    {x : Outcome} (hx : w.outcome o = some x) : x.resourceStatus = a.resourceStatus o := by
  obtain ⟨op, -, rfl⟩ := Option.map_eq_some_iff.1 hx
  simp [ha]

lemma ne_of_open {o' : OperationId} {op' : ProviderOperation} (hop : w.operations.get o = some op)
    (hterminal : op.status.terminal = true) (hop' : w.operations.get o' = some op')
    (hopen : op'.status.terminal = false) : o ≠ o' := by
  rintro rfl
  rw [hop] at hop'
  cases hop'
  rw [hterminal] at hopen
  cases hopen

lemma Change.outcome (h : Change cfg l held ms w w') (hop : w.operations.get o = some op)
    (hterminal : op.status.terminal = true) : w'.outcome o = w.outcome o := by
  cases h with
  | @intent p customer m reference amount _ hnone _ =>
    simp only [World.outcome, World.journalsOf, World.putPayment_operations,
      World.putPayment_journals, World.putPayment_payments, Table.get_put]
    split
    · next hp =>
      subst hp
      rw [hnone]
      cases o <;> rfl
    · rfl
  | @opened o' a a' t _ _ ha hnone hopens _ =>
    have hne : o ≠ o' := by
      rintro rfl
      rw [hop] at hnone
      cases hnone
    exact World.outcome_of_other hne ha rfl rfl hopens.onlyResource rfl
  | @noted o' op' op'' _ hop' hnotes =>
    obtain ⟨hstatus, hbytes, hevents, -⟩ := hnotes.outcome
    simp only [World.outcome, World.journalsOf, World.putOperation_operations,
      World.putOperation_journals, World.putOperation_payments, Table.get_put]
    split
    · next ho =>
      subst ho
      simp [hop', hstatus, hbytes, hevents]
    · rfl
  | reviewed _ _ ha hr hop' hopen =>
    exact World.outcome_of_other (ne_of_open hop hterminal hop' hopen) ha rfl rfl
      (PaymentIntent.setResourceStatus_onlyResource hr _) rfl
  | finalized _ _ ha _ hop' hopen _ _ hres _ =>
    have hne := ne_of_open hop hterminal hop' hopen
    refine World.outcome_of_other hne ha (by simp; rfl) (by simp) hres.onlyResource ?_
    refine World.journalsOf_same (by simp; rfl) fun j hj => ?_
    rw [hres.operation_eq j hj]
    exact fun heq => hne (Option.some.inj heq).symm
  | expired _ ha _ _ =>
    refine World.outcome_of_payment ha rfl rfl rfl fun o => ?_
    cases o <;> exact ⟨rfl, rfl⟩
  | settled _ _ _ _ _ _ _ _ hj _ => exact World.outcome_of_journals rfl rfl rfl (by simp [hj])
  | payoutSucceeded _ _ _ _ _ _ _ _ _ _ _ hj _ _ =>
    exact World.outcome_of_journals rfl rfl rfl (by simp [hj])
  | _ => rfl

lemma PaymentIntent.Resolves.history_prefix (h : a.Resolves held ms w actor v o a' posted) :
    a.history <+: a'.history := by
  cases h with
  | refunded _ _ _ _ _ _ _ _ hb _ _ =>
    subst hb
    exact List.prefix_append _ _
  | voidDeclined => exact List.prefix_rfl
  | refundDeclined => exact List.prefix_rfl
  | _ => exact List.prefix_append _ _

lemma Change.history_prefix (h : Change cfg l held ms w w') {p : PaymentId} (ha : w.payments.get p = some a) :
    ∃ a', w'.payments.get p = some a' ∧ a.history <+: a'.history := by
  -- one payment is put, with a history that extends the old one
  have hput : ∀ {p' b b'}, w.payments.get p' = some b → b.history <+: b'.history →
      w'.payments = w.payments.put p' b' → ∃ a', w'.payments.get p = some a' ∧ a.history <+: a'.history := by
    intro p' b b' hb hextends hpayments
    rw [hpayments, Table.get_put]
    split
    · next hp =>
      subst hp
      rw [ha] at hb
      cases hb
      exact ⟨b', rfl, hextends⟩
    · exact ⟨a, ha, List.prefix_rfl⟩
  cases h with
  | @intent p' _ _ _ _ _ hnone _ =>
    have hne : p ≠ p' := by
      rintro rfl
      rw [ha] at hnone
      cases hnone
    exact ⟨a, (Table.get_put_ne _ _ hne).trans ha, List.prefix_rfl⟩
  | opened _ _ hb _ hopens _ =>
    refine hput hb ?_ rfl
    cases hopens <;> exact List.prefix_rfl
  | @reviewed o b _ _ _ _ _ _ _ _ _ hb _ _ _ =>
    refine hput hb ?_ rfl
    cases o with
    | refund p r =>
      unfold PaymentIntent.setResourceStatus
      dsimp only
      split <;> exact List.prefix_rfl
    | _ => exact List.prefix_rfl
  | finalized _ _ hb _ _ _ _ _ hres _ => exact hput hb hres.history_prefix (by simp)
  | expired _ hb _ _ => exact hput hb (List.prefix_append _ _) rfl
  | _ => exact ⟨a, ha, List.prefix_rfl⟩

end Stands

section Runs

variable {cfg : Service} {out : Outside} {w : World} {c : State} {o : OperationId}
variable {op : ProviderOperation}

lemma reach_filed (hw : w.Initial) (h : Reach (relaypay cfg out) (.idle w) c) : c.shared.Mirrored ∧ c.shared.Filed := by
  have h0 : w.Mirrored ∧ w.Filed := by
    refine ⟨hw.mirrored, ?_, ?_, ?_⟩ <;>
      simp [hw.operations, hw.payments, World.journalsOf, hw.journals]
  refine reach_preserves (I := fun w => w.Mirrored ∧ w.Filed) ?_ hw.mirrored h0 h
  intro l held ms w w' hchange hI
  exact ⟨hchange.mirrored hI.1, hchange.filed hI.1 hI.2⟩

lemma areach_outcome {a a' : World × List Local} (h : AReach locks (relaypay cfg out) a a')
    (hop : a.1.operations.get o = some op) (hterminal : op.status.terminal = true) :
    a'.1.outcome o = a.1.outcome o := by
  refine areach_preserves (I := fun w' => w'.outcome o = a.1.outcome o) ?_ h rfl
  intro l held ms w w' hchange hsame
  rw [← hsame]
  have hget : (w.outcome o).map Outcome.status = some op.status := by
    rw [hsame, World.outcome, hop]
    rfl
  obtain ⟨x, hx, hstatus⟩ := Option.map_eq_some_iff.1 hget
  obtain ⟨op', hop', rfl⟩ := Option.map_eq_some_iff.1 hx
  have hsucceeds : op'.status = op.status := hstatus
  exact hchange.outcome hop' (hsucceeds ▸ hterminal)

lemma areach_history {a a' : World × List Local} (h : AReach locks (relaypay cfg out) a a')
    {p : PaymentId} {b : PaymentIntent} (hb : a.1.payments.get p = some b) :
    ∃ b', a'.1.payments.get p = some b' ∧ b.history <+: b'.history := by
  refine areach_preserves (I := fun w' => ∃ b', w'.payments.get p = some b' ∧ b.history <+: b'.history)
    ?_ h ⟨b, hb, List.prefix_rfl⟩
  rintro l held ms w w' hchange ⟨b', hb', hextends⟩
  obtain ⟨b'', hb'', hmore⟩ := hchange.history_prefix hb'
  exact ⟨b'', hb'', hextends.trans hmore⟩

lemma PaymentIntent.statusRows_eq (ha : a.Accounted) (ha' : a'.Accounted)
    (hextends : a.history <+: a'.history) (hstatus : a'.resourceStatus o = a.resourceStatus o)
    (hkind : ∀ p r, o ≠ .refund p r) : a'.statusRows o = a.statusRows o := by
  have hdecisions : a'.decisions o = a.decisions o := by
    cases o with
    | authorize p =>
      cases hx : a.authorization <;> cases hx' : a'.authorization <;>
        simp_all [resourceStatus, decisions]
    | capture p =>
      cases hx : a.capture <;> cases hx' : a'.capture <;> simp_all [resourceStatus, decisions]
    | void p =>
      cases hx : a.void <;> cases hx' : a'.void <;> simp_all [resourceStatus, decisions]
    | refund p r => exact absurd rfl (hkind p r)
  have hlength : (a.statusRows o).length = (a'.statusRows o).length := by
    have hbefore := ha o
    have hafter := ha' o
    omega
  exact ((hextends.filter _).eq_of_length hlength).symm

theorem operation_decided_once (hw : w.Initial) (h : Reach (relaypay cfg out) (.idle w) c)
    (hop : c.shared.operations.get o = some op) :
    (op.history.countP fun r => r.toStatus.terminal) = (if op.status.terminal then 1 else 0) ∧
    (o.posts = true → op.status = .succeeded → (c.shared.journalsOf o).length = 1 ∧ op.events.length = 1) ∧
    (op.status = .failed → c.shared.journalsOf o = [] ∧ op.events = []) ∧
    (op.status.terminal = true → ∀ c', Reach (relaypay cfg out) c c' →
      c'.shared.outcome o = c.shared.outcome o ∧
      ∃ a a', c.shared.payments.get o.payment = some a ∧ c'.shared.payments.get o.payment = some a' ∧
        a.history <+: a'.history ∧ ((a.statusRows o).length : ℤ) = a.decisions o ∧
        ((a'.statusRows o).length : ℤ) = a'.decisions o ∧
        ((∀ p r, o ≠ .refund p r) → a'.statusRows o = a.statusRows o)) := by
  obtain ⟨hmirrored, hfiled⟩ := reach_filed hw h
  have hbooks := hfiled.operations o op hop
  have hjournals := hfiled.journals o
  have hevents := hbooks.events
  rw [hop, Option.map_some] at hjournals
  refine ⟨hbooks.entries, fun hposts hs => ?_, fun hs => ?_, fun hterminal c' h' => ?_⟩
  · have htype : o.eventType.isSome = true := by cases o <;> simp_all [OperationId.posts, OperationId.eventType]
    rw [hs] at hjournals hevents
    exact ⟨by simpa [hposts] using hjournals, by simpa [htype] using hevents⟩
  · rw [hs] at hjournals hevents
    exact ⟨by simpa using hjournals, by simpa using hevents⟩
  · have hatomic := h.atomic_from (relaypay_disciplined cfg out) hw.mirrored h'
    obtain ⟨-, hfiled'⟩ := reach_filed hw (h.trans h')
    have hsame := areach_outcome hatomic hop hterminal
    have hresource := hmirrored o
    rw [hop, Option.map_some] at hresource
    obtain ⟨a, ha, hstatus⟩ := Option.bind_eq_some_iff.1 hresource.symm
    obtain ⟨a', ha', hextends⟩ := areach_history hatomic ha
    have haccounted := hfiled.payments _ a ha
    have haccounted' := hfiled'.payments _ a' ha'
    refine ⟨hsame, a, a', ha, ha', hextends, haccounted o, haccounted' o, fun hkind => ?_⟩
    refine PaymentIntent.statusRows_eq haccounted haccounted' hextends ?_ hkind
    have hx : ∃ x, c.shared.outcome o = some x := ⟨_, by rw [World.outcome, hop, Option.map_some]⟩
    obtain ⟨x, hx⟩ := hx
    rw [← World.outcome_resourceStatus ha hx, ← World.outcome_resourceStatus ha' (hsame.trans hx)]

theorem operation_decided_once_shop : ∃ op,
    (shopAfter shopSale).1.operations.get (.capture 1) = some op ∧ op.status = .succeeded ∧
    (op.history.countP fun r => r.toStatus.terminal) = 1 ∧
    ((shopAfter shopSale).1.journalsOf (.capture 1)).length = 1 ∧ op.events.length = 1 := by
  have hstatus : ((shopAfter shopSale).1.operations.get (.capture 1)).map ProviderOperation.status =
      some .succeeded := by decide +kernel
  obtain ⟨op, hop, hs⟩ := Option.map_eq_some_iff.1 hstatus
  obtain ⟨hentries, hposted, -, -⟩ :=
    operation_decided_once shopWorld_initial (shop_reach shopSale_plays) hop
  rw [hs] at hentries
  exact ⟨op, hop, hs, hentries, hposted rfl hs⟩

end Runs

end RelayPay
