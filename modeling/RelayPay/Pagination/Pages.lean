import Mathlib.Data.Prod.Lex
import RelayPay.Pagination.Cursor
import RelayPay.Relational.Keyset

namespace RelayPay.Pagination

open Keyset (Page turn descending below select follow)

inductive EnvironmentType where
  | test | liveLike
  deriving DecidableEq

structure Environment where
  id : Uuid
  publicId : String
  organisationId : Uuid
  environmentType : EnvironmentType
  active : Bool

structure PaymentIntent where
  id : Uuid
  publicId : String
  organisationId : Uuid
  environmentId : Uuid
  merchantReference : String
  amount : ℤ
  currency : String
  createdAt : DateTime

structure Stage where
  organisationId : Uuid
  environmentId : Uuid
  paymentIntentId : Uuid
  status : String

inductive Value where
  | json (j : Json)
  | time (t : DateTime)
  | uuid (u : Uuid)
  | bytes (b : Bytes)

structure ResourceRow where
  id : Uuid
  organisationId : Option Uuid
  environmentId : Option Uuid
  createdAt : DateTime
  columns : String → Value

structure Database where
  environments : List Environment
  paymentIntents : List PaymentIntent
  authorizations : List Stage
  captures : List Stage
  sources : String → List ResourceRow

def place (createdAt : DateTime) (id : Uuid) : ℤ ×ₗ Uuid := toLex (createdAt.instant, id)

def positionOf (createdAt : DateTime) (id : Uuid) : CursorPosition := ⟨createdAt, String.ofList id.text⟩

def resolveEnvironmentId (db : Database) (organisationId : Uuid) (environmentId : Option Uuid) : Except Error Uuid :=
  let query := db.environments.filter fun e => e.organisationId = organisationId ∧ e.active
  let query : List Environment := match environmentId with
    | none => query.filter fun e => e.environmentType = .test
    | some id => query.filter fun e => e.id = id
  match query with
  | e :: _ => .ok e.id
  | [] => .error (.relayPay (notFound "Environment"))

structure PaymentItem where
  id : String
  merchantReference : String
  amount : ℤ
  currency : String
  authorizationStatus : Option String
  captureStatus : Option String
  createdAt : String

def paymentsInScope (db : Database) (organisationId environmentId : Uuid) (merchantReference : Option String) :
    List PaymentIntent :=
  (db.paymentIntents.filter fun p => p.organisationId = organisationId ∧ p.environmentId = environmentId).filter
    fun p => merchantReference.elim true fun reference => p.merchantReference = reference

def stageStatus (stages : List Stage) (organisationId environmentId paymentIntentId : Uuid) : Option String :=
  ((stages.filter fun s => s.organisationId = organisationId ∧ s.environmentId = environmentId).reverse.find?
    fun s => s.paymentIntentId = paymentIntentId).map Stage.status

def paymentItem (db : Database) (organisationId environmentId : Uuid) (p : PaymentIntent) : PaymentItem where
  id := p.publicId
  merchantReference := p.merchantReference
  amount := p.amount
  currency := p.currency
  authorizationStatus := stageStatus db.authorizations organisationId environmentId p.id
  captureStatus := stageStatus db.captures organisationId environmentId p.id
  createdAt := String.ofList p.createdAt.isoformat

section Listings

variable (mac : Bytes → Bytes → Bytes) (secret : String) (db : Database)

def listPayments (organisationId : Uuid) (environmentId : Option Uuid) (limit : ℕ) (merchantReference : Option String)
    (after : Option String) : Except Error (Page PaymentItem String) := do
  let filters : Filters := [("merchantReference", Json.ofOptStr merchantReference)]
  let position ← after.mapM fun token => decodeCursor mac secret token filters
  let environment ← resolveEnvironmentId db organisationId environmentId
  let statement := paymentsInScope db organisationId environment merchantReference
  let position ← position.mapM fun p =>
    (Uuid.ofText p.identifier.toList).elim (.error (.relayPay invalidCursor)) fun id => .ok (p.createdAt, id)
  let statement := statement.filter fun r => position.elim true fun p =>
    r.createdAt.instant < p.1.instant ∨ (r.createdAt.instant = p.1.instant ∧ r.id < p.2)
  let payments := (descending (fun r => place r.createdAt r.id) statement).take (limit + 1)
  .ok (turn limit payments (paymentItem db organisationId environment)
    fun last => encodeCursor mac secret (positionOf last.createdAt last.id) filters)

inductive Column where
  | plain (name : String)
  | masked (name : String)
  | hexOf (name : String)
  | const (text : String)

structure ResourceQuery where
  source : String
  fields : List (String × Column)

def deliveryFields : List (String × Column) :=
  [("id", .plain "public_id"), ("status", .plain "status"), ("attemptCount", .plain "attempt_count")]

def requestFields : List (String × Column) :=
  [("id", .plain "request_id"), ("method", .plain "method"), ("route", .plain "route"),
    ("statusCode", .plain "status_code"), ("durationMs", .plain "duration_ms")]

def resources : List (String × ResourceQuery) :=
  [("merchant-accounts", ⟨"merchant_accounts", [("id", .plain "public_id"), ("reference", .plain "reference"),
      ("name", .plain "name"), ("currency", .plain "currency"), ("status", .plain "status"),
      ("isDefault", .plain "is_default")]⟩),
    ("settlements", ⟨"settlement_runs", [("id", .plain "public_id"), ("status", .plain "status"),
      ("settledAmount", .plain "settled_amount"), ("completedAt", .plain "completed_at")]⟩),
    ("beneficiaries", ⟨"beneficiaries", [("id", .plain "public_id"), ("reference", .plain "reference"),
      ("displayName", .plain "display_name"), ("bankAccountReference", .masked "bank_account_reference"),
      ("currency", .plain "currency"), ("status", .plain "status")]⟩),
    ("payouts", ⟨"payouts", [("id", .plain "public_id"), ("amount", .plain "amount"), ("currency", .plain "currency"),
      ("status", .plain "status"), ("failureCode", .plain "failure_code"), ("reviewReason", .plain "review_reason")]⟩),
    ("connectors", ⟨"connectors", [("id", .plain "public_id"), ("reference", .plain "reference"),
      ("kind", .plain "kind"), ("status", .plain "status"), ("circuitState", .plain "circuit_state"),
      ("consecutiveFailures", .plain "consecutive_failures")]⟩),
    ("inbound-webhooks", ⟨"inbound_webhook_events", [("id", .plain "public_id"),
      ("providerEventId", .plain "provider_event_id"), ("status", .plain "status"),
      ("attemptCount", .plain "attempt_count"), ("payloadSha256", .hexOf "payload_sha256")]⟩),
    ("outbound-webhooks", ⟨"webhook_deliveries", deliveryFields ++ [("nextAttemptAt", .plain "next_attempt_at"),
      ("deliveredAt", .plain "delivered_at")]⟩),
    ("dead-letters", ⟨"webhook_deliveries", deliveryFields ++ [("deadLetteredAt", .plain "dead_lettered_at"),
      ("kind", .const "OUTBOUND_WEBHOOK")]⟩),
    ("reconciliation", ⟨"reconciliation_mismatches", [("id", .plain "public_id"), ("type", .plain "mismatch_type"),
      ("status", .plain "workflow_status"), ("acknowledgementNote", .plain "acknowledgement_note"),
      ("resolutionNote", .plain "resolution_note")]⟩),
    ("api-keys", ⟨"api_keys", [("id", .plain "public_id"), ("name", .plain "name"), ("scopes", .plain "scopes"),
      ("status", .plain "status"), ("revokedAt", .plain "revoked_at")]⟩),
    ("audit-logs", ⟨"audit_records", [("id", .plain "public_id"), ("actorType", .plain "actor_type"),
      ("action", .plain "action"), ("targetType", .plain "target_type"), ("targetId", .plain "target_id"),
      ("details", .plain "details")]⟩),
    ("usage", ⟨"request_logs", requestFields⟩),
    ("operational-metrics", ⟨"request_logs", requestFields⟩),
    ("payments", ⟨"payment_intents", [("id", .plain "public_id"), ("merchantReference", .plain "merchant_reference"),
      ("amount", .plain "amount"), ("currency", .plain "currency"), ("status", .plain "status")]⟩),
    ("journals", ⟨"journals", [("id", .plain "public_id"), ("journalType", .plain "journal_type"),
      ("referenceType", .plain "reference_type"), ("currency", .plain "currency"), ("postedAt", .plain "posted_at")]⟩),
    ("fee-schedules", ⟨"fee_schedule_rows", [("id", .plain "public_id"),
      ("merchantAccountId", .plain "merchant_public_id"), ("version", .plain "version"),
      ("effectiveFrom", .plain "effective_from"), ("mdrBps", .plain "mdr_bps"), ("fixedPaise", .plain "fixed_paise"),
      ("gstBps", .plain "gst_bps"), ("minFeePaise", .plain "min_fee_paise"), ("maxFeePaise", .plain "max_fee_paise"),
      ("refundFeePolicy", .plain "refund_fee_policy")]⟩)]

def statusFilterResources : List String := ["payments"]

def paymentStatuses : List String :=
  ["created", "requires_action", "authorised", "captured", "partially_refunded", "refunded", "failed", "expired",
    "cancelled"]

def hexText (bytes : Bytes) : String :=
  String.ofList (bytes.flatMap fun b => [Json.hexDigit (b.toNat / 16), Json.hexDigit (b.toNat % 16)])

def jsonValue : Value → Json
  | .json j => j
  | .time t => .str (String.ofList t.isoformat)
  | .uuid u => .str (String.ofList u.text)
  | .bytes b => .str (hexText b)

def Column.eval (row : ResourceRow) : Column → Value
  | .plain name => row.columns name
  | .masked name =>
    match row.columns name with
    | .json (.str s) => .json (.str ("••••" ++ String.ofList (s.toList.drop (s.length - 4))))
    | _ => .json (.str "••••")
  | .hexOf name =>
    match row.columns name with
    | .bytes b => .json (.str (hexText b))
    | _ => .json .null
  | .const text => .json (.str text)

structure Principal where
  organisationId : Uuid
  organisationPublicId : String

def environmentScope (principal : Principal) (environmentPublicId : String) : Except Error Environment :=
  match db.environments.find? fun e =>
      e.organisationId = principal.organisationId ∧ e.publicId = environmentPublicId ∧ e.active with
  | some e => .ok e
  | none => .error (.relayPay (notFound "Environment"))

def invalidStatusFilter (message : String) : RelayPayError where
  code := "VALIDATION_ERROR"
  message := "Request validation failed"
  httpStatus := 422
  details := .obj [("errors", .arr [.obj [("type", .str "value_error"), ("loc", .arr [.str "query", .str "status"]),
    ("msg", .str message)]])]

def resourceNotSupported : RelayPayError where
  code := "RESOURCE_NOT_SUPPORTED"
  message := "The requested operations resource is not supported"
  httpStatus := 404

def checkStatusFilter (resource : String) : Option String → Except Error Unit
  | none => .ok ()
  | some status =>
    if resource ∉ statusFilterResources then
      .error (.relayPay (invalidStatusFilter (resource ++ " cannot be filtered by status")))
    else if status ∉ paymentStatuses then .error (.relayPay (invalidStatusFilter "Unknown payment status"))
    else .ok ()

def hasStatus (status : String) (row : ResourceRow) : Bool :=
  match row.columns "status" with
  | .json j => j.eqStr status
  | _ => false

def resourceInScope (definition : ResourceQuery) (resource : String) (organisationId environmentId : Uuid)
    (status : Option String) : List ResourceRow :=
  ((db.sources definition.source).filter fun r =>
    r.organisationId = some organisationId ∧ r.environmentId = some environmentId).filter fun r =>
      (resource = "dead-letters" → hasStatus "DEAD_LETTER" r) ∧ status.elim true fun s => hasStatus s r

def resourceItem (definition : ResourceQuery) (r : ResourceRow) : List (String × Json) :=
  definition.fields.map (fun f => (f.1, jsonValue (f.2.eval r))) ++ [("createdAt", jsonValue (.time r.createdAt))]

def listOperationsResource (principal : Principal) (environmentPublicId resource : String) (limit : ℕ)
    (status : Option String) (after : Option String) : Except Error (Page (List (String × Json)) String) := do
  let definition ← (resources.lookup resource).elim (.error (.relayPay resourceNotSupported)) .ok
  checkStatusFilter resource status
  let environment ← environmentScope db principal environmentPublicId
  let filters : Filters := [("organisationId", .str principal.organisationPublicId),
    ("environmentId", .str environmentPublicId), ("resource", .str resource)] ++
    status.elim [] fun s => [("status", .str s)]
  let position ← after.mapM fun token => decodeCursor mac secret token filters
  -- the cast of the identifier is the database's, which has no error of its own for it
  let position ← position.mapM fun p =>
    (Uuid.ofText p.identifier.toList).elim (.error .database) fun id => .ok (place p.createdAt id)
  let rows := resourceInScope db definition resource principal.organisationId environment.id status
  let rows := rows.filter fun r => position.elim true fun p => decide (place r.createdAt r.id < p)
  let rows := (descending (fun r => place r.createdAt r.id) rows).take (limit + 1)
  .ok (turn limit rows (resourceItem definition)
    fun last => encodeCursor mac secret (positionOf last.createdAt last.id) filters)

end Listings

def paymentPlace (p : PaymentIntent) : ℤ ×ₗ Uuid := place p.createdAt p.id

def rowPlace (r : ResourceRow) : ℤ ×ₗ Uuid := place r.createdAt r.id

lemma place_lt {createdAt createdAt' : DateTime} {id id' : Uuid} : place createdAt id < place createdAt' id' ↔
    createdAt.instant < createdAt'.instant ∨ (createdAt.instant = createdAt'.instant ∧ id < id') := by
  rw [place, place, Prod.Lex.toLex_lt_toLex]

section Fetch

variable (mac : Bytes → Bytes → Bytes) (secret : String) {db : Database} (limit : ℕ)

lemma listPayments_eq {organisationId environment : Uuid} {environmentId : Option Uuid}
    (merchantReference : Option String)
    (hscope : resolveEnvironmentId db organisationId environmentId = .ok environment) (position : Option PaymentIntent) :
    let cursor (p : PaymentIntent) := encodeCursor mac secret (positionOf p.createdAt p.id)
      [("merchantReference", Json.ofOptStr merchantReference)]
    listPayments mac secret db organisationId environmentId limit merchantReference (position.map cursor) =
      .ok (turn limit (select paymentPlace limit (position.map paymentPlace)
        (paymentsInScope db organisationId environment merchantReference))
        (paymentItem db organisationId environment) cursor) := by
  intro cursor
  cases position with
  | none =>
    simp only [listPayments, Option.map_none, Option.mapM_none, hscope]
    rfl
  | some p =>
    have hid : Uuid.ofText (positionOf p.createdAt p.id).identifier.toList = some p.id := by
      rw [positionOf, String.toList_ofList, Uuid.ofText_text]
    have hbelow : below paymentPlace (some (paymentPlace p))
        (paymentsInScope db organisationId environment merchantReference) =
        (paymentsInScope db organisationId environment merchantReference).filter fun r =>
          r.createdAt.instant < p.createdAt.instant ∨ (r.createdAt.instant = p.createdAt.instant ∧ r.id < p.id) := by
      apply List.filter_congr
      intro r _
      exact decide_eq_decide.2 place_lt
    simp only [listPayments, cursor, Option.map_some, Option.mapM_some, decodeCursor_encodeCursor, hscope, select,
      hbelow, bind, Except.bind, Functor.map, Except.map, hid, Option.elim_some]
    rfl

lemma listOperationsResource_eq {principal : Principal} {environment : Environment} {environmentPublicId : String}
    {resource : String} {definition : ResourceQuery} (hresource : resources.lookup resource = some definition)
    (hscope : environmentScope db principal environmentPublicId = .ok environment) (position : Option ResourceRow) :
    let cursor (r : ResourceRow) := encodeCursor mac secret (positionOf r.createdAt r.id)
      [("organisationId", .str principal.organisationPublicId), ("environmentId", .str environmentPublicId),
        ("resource", .str resource)]
    listOperationsResource mac secret db principal environmentPublicId resource limit none (position.map cursor) =
      .ok (turn limit (select rowPlace limit (position.map rowPlace)
        (resourceInScope db definition resource principal.organisationId environment.id none))
        (resourceItem definition) cursor) := by
  intro cursor
  cases position with
  | none =>
    simp only [listOperationsResource, hresource, checkStatusFilter, Option.map_none, Option.mapM_none, hscope]
    rfl
  | some r =>
    have hid : Uuid.ofText (positionOf r.createdAt r.id).identifier.toList = some r.id := by
      rw [positionOf, String.toList_ofList, Uuid.ofText_text]
    simp only [listOperationsResource, hresource, checkStatusFilter, cursor, Option.map_some, Option.mapM_some,
      Option.elim_none, List.append_nil, decodeCursor_encodeCursor, hscope, bind, Except.bind, Functor.map,
      Except.map, hid, Option.elim_some]
    rfl

end Fetch

section Rows

variable {ρ β : Type} (id : ρ → Uuid) (createdAt : ρ → DateTime)

/-- From page to page the rows of the first one stay, and those that come are created later. What else is stored in a
row may change, but not what is told of it. -/
structure OnlyLater (told : ρ → β) (rows : ℕ → List ρ) : Prop where
  ids : ∀ k, ((rows k).map id).Nodup
  stays : ∀ k, ∀ r ∈ rows 0, ∃ r' ∈ rows k, id r' = id r ∧ (createdAt r').instant = (createdAt r).instant ∧
    told r' = told r
  later : ∀ k, ∀ r ∈ rows k, (∃ r₀ ∈ rows 0, id r₀ = id r) ∨
    ∀ r₀ ∈ rows 0, (createdAt r₀).instant < (createdAt r).instant

def NewestFirst (visited : List ρ) : Prop :=
  visited.Pairwise fun a b => (createdAt b).instant < (createdAt a).instant ∨
    ((createdAt b).instant = (createdAt a).instant ∧ id b < id a)

variable {id createdAt}

lemma nodup_places {rows : List ρ} (h : (rows.map id).Nodup) :
    (rows.map fun r => place (createdAt r) (id r)).Nodup := by
  have hid : (rows.map fun r => place (createdAt r) (id r)).map (fun p => (ofLex p).2) = rows.map id := by
    rw [List.map_map]
    rfl
  rw [← hid] at h
  exact h.of_map

lemma OnlyLater.grows {told : ρ → β} {rows : ℕ → List ρ} (h : OnlyLater id createdAt told rows) :
    Keyset.Grows Prod.fst fun k => (rows k).map (Keyset.tag (fun r => place (createdAt r) (id r)) told) where
  distinct k := by
    rw [List.map_map]
    exact nodup_places (h.ids k)
  stays k := by
    intro m hm
    obtain ⟨r, hr, rfl⟩ := List.mem_map.1 hm
    obtain ⟨r', hr', hid, hcreated, htold⟩ := h.stays k r hr
    refine List.mem_map.2 ⟨r', hr', ?_⟩
    rw [Keyset.tag, Keyset.tag, place, place, hid, hcreated, htold]
  later k := by
    intro m hm
    obtain ⟨r, hr, rfl⟩ := List.mem_map.1 hm
    rcases h.later k r hr with ⟨r₀, hr₀, hid⟩ | hlater
    · left
      -- the row of that identifier is the one that stayed
      obtain ⟨r', hr', hid', hcreated, htold⟩ := h.stays k r₀ hr₀
      have hsame : r' = r := List.inj_on_of_nodup_map (h.ids k) hr' hr (hid'.trans hid)
      subst hsame
      refine List.mem_map.2 ⟨r₀, hr₀, ?_⟩
      rw [Keyset.tag, Keyset.tag, place, place, hid, hcreated, htold]
    · right
      intro m₀ hm₀
      obtain ⟨r₀, hr₀, rfl⟩ := List.mem_map.1 hm₀
      exact place_lt.2 (.inl (hlater r₀ hr₀))

lemma newestFirst_descending {rows : List ρ} (h : (rows.map id).Nodup) :
    NewestFirst id createdAt (descending (fun r => place (createdAt r) (id r)) rows) := by
  refine (Keyset.descending_strict (nodup_places h)).imp ?_
  intro a b hab
  exact place_lt.1 hab

end Rows

def entryId (item : List (String × Json)) : Option Json := item.lookup "id"

def rowId (definition : ResourceQuery) (r : ResourceRow) : Option Json := entryId (resourceItem definition r)

theorem pages_visit_once (mac : Bytes → Bytes → Bytes) (secret : String) (limit : ℕ) (hlimit : 0 < limit)
    (db : ℕ → Database) :
    (∀ (organisationId environment : Uuid) (environmentId : Option Uuid) (merchantReference : Option String),
      (∀ k, resolveEnvironmentId (db k) organisationId environmentId = .ok environment) →
      let payments k := paymentsInScope (db k) organisationId environment merchantReference
      OnlyLater PaymentIntent.id PaymentIntent.createdAt PaymentIntent.publicId payments →
      ∃ visited, visited.Perm (payments 0) ∧ NewestFirst PaymentIntent.id PaymentIntent.createdAt visited ∧
        ∀ fuel > (payments 0).length,
          (follow (fun k => listPayments mac secret (db k) organisationId environmentId limit merchantReference)
            fuel 0 none).map (List.map PaymentItem.id) = some (visited.map PaymentIntent.publicId)) ∧
    (∀ (principal : Principal) (environment : Environment) (environmentPublicId resource : String)
        (definition : ResourceQuery), resources.lookup resource = some definition →
      (∀ k, environmentScope (db k) principal environmentPublicId = .ok environment) →
      let rows k := resourceInScope (db k) definition resource principal.organisationId environment.id none
      OnlyLater ResourceRow.id ResourceRow.createdAt (rowId definition) rows →
      ∃ visited, visited.Perm (rows 0) ∧ NewestFirst ResourceRow.id ResourceRow.createdAt visited ∧
        ∀ fuel > (rows 0).length,
          (follow (fun k => listOperationsResource mac secret (db k) principal environmentPublicId resource limit none)
            fuel 0 none).map (List.map entryId) = some (visited.map (rowId definition))) ∧
    ∀ (position : CursorPosition) (filters : Filters),
      decodeCursor mac secret (encodeCursor mac secret position filters) filters = .ok position := by
  refine ⟨?_, ?_, decodeCursor_encodeCursor mac secret⟩
  · intro organisationId environment environmentId merchantReference hscope payments hlater
    refine ⟨descending paymentPlace (payments 0), List.perm_insertionSort _ _, newestFirst_descending (hlater.ids 0), ?_⟩
    intro fuel hfuel
    exact Keyset.follow_visits hlater.grows hlimit
      (fun k position => listPayments_eq mac secret limit merchantReference (hscope k) position)
      (fun k p => rfl) hfuel
  · intro principal environment environmentPublicId resource definition hresource hscope rows hlater
    refine ⟨descending rowPlace (rows 0), List.perm_insertionSort _ _, newestFirst_descending (hlater.ids 0), ?_⟩
    intro fuel hfuel
    exact Keyset.follow_visits hlater.grows hlimit
      (fun k position => listOperationsResource_eq mac secret limit hresource (hscope k) position)
      (fun k r => rfl) hfuel

namespace Sample

def midnight (second : Fin 60) : DateTime where
  year := 2026
  month := 1
  day := 1
  hour := 0
  minute := 0
  second := second
  microsecond := 0
  offset := some ⟨false, 0, 0, 0, 0, by decide, by decide, by decide, by decide⟩
  year_range := by decide
  month_range := by decide
  day_range := by decide
  hour_lt := by decide
  minute_lt := by decide
  second_lt := second.isLt
  microsecond_lt := by decide

def intent (id : Uuid) (publicId : String) (second : Fin 60) : PaymentIntent :=
  ⟨id, publicId, 1, 2, "order", 500, "INR", midnight second⟩

def db (k : ℕ) : Database where
  environments := [⟨2, "env_test", 1, .test, true⟩]
  paymentIntents := if k = 0 then [intent 7 "pi_7" 0, intent 9 "pi_9" 0]
    else [intent 7 "pi_7" 0, intent 9 "pi_9" 0, intent 3 "pi_3" 1]
  authorizations := []
  captures := []
  sources := fun _ => []

lemma onlyLater : OnlyLater PaymentIntent.id PaymentIntent.createdAt PaymentIntent.publicId
    fun k => paymentsInScope (db k) 1 2 none := by
  have hfirst : paymentsInScope (db 0) 1 2 none = [intent 7 "pi_7" 0, intent 9 "pi_9" 0] := rfl
  have hnext : ∀ k, paymentsInScope (db (k + 1)) 1 2 none =
      [intent 7 "pi_7" 0, intent 9 "pi_9" 0, intent 3 "pi_3" 1] := fun _ => rfl
  constructor
  · intro k
    cases k with
    | zero => exact hfirst ▸ (by decide +kernel)
    | succ k => exact hnext k ▸ (by decide +kernel)
  · intro k r hr
    refine ⟨r, ?_, rfl, rfl, rfl⟩
    cases k with
    | zero => exact hr
    | succ k =>
      rw [hfirst] at hr
      rw [hnext]
      exact List.mem_append_left [intent 3 "pi_3" 1] hr
  · intro k r hr
    cases k with
    | zero => exact .inl ⟨r, hr, rfl⟩
    | succ k =>
      rw [hnext] at hr
      rcases List.mem_append.1 (show r ∈ [intent 7 "pi_7" 0, intent 9 "pi_9" 0] ++ [intent 3 "pi_3" 1] from hr)
        with hr | hr
      · exact .inl ⟨r, hfirst ▸ hr, rfl⟩
      · right
        rw [List.mem_singleton.1 hr, hfirst]
        decide +kernel

end Sample

theorem pages_visit_once_tie : ∃ visited, visited.Perm (paymentsInScope (Sample.db 0) 1 2 none) ∧
    NewestFirst PaymentIntent.id PaymentIntent.createdAt visited ∧
    ∀ fuel > (paymentsInScope (Sample.db 0) 1 2 none).length,
      (follow (fun k => listPayments (fun _ message => message) "secret" (Sample.db k) 1 none 1 none) fuel 0 none).map
        (List.map PaymentItem.id) = some (visited.map PaymentIntent.publicId) :=
  (pages_visit_once (fun _ message => message) "secret" 1 (by decide) Sample.db).1 1 2 none none (fun _ => rfl)
    Sample.onlyLater

end RelayPay.Pagination
