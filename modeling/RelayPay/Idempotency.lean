import Mathlib.Data.String.Basic
import RelayPay.Codec.JsonCanonical
import RelayPay.Relational.Aggregate

/-! The fingerprint of a request: its canonical bytes are the same exactly if the requests ask for the same. -/

namespace RelayPay

namespace Json

/-- Equal up to the order of the keys of objects, at any depth: the least congruence that reorders entries. -/
inductive Same : Json → Json → Prop where
  | refl (j : Json) : Same j j
  | symm {a b : Json} (h : Same a b) : Same b a
  | trans {a b c : Json} (h : Same a b) (h' : Same b c) : Same a c
  | reorder {fields fields' : List (String × Json)} (h : fields.Perm fields') : Same (obj fields) (obj fields')
  | item {before after : List Json} {a b : Json} (h : Same a b) :
      Same (arr (before ++ a :: after)) (arr (before ++ b :: after))
  | field {before after : List (String × Json)} {key : String} {a b : Json} (h : Same a b) :
      Same (obj (before ++ (key, a) :: after)) (obj (before ++ (key, b) :: after))

lemma same_map_items {f : Json → Json} (items : List Json) : ∀ before : List Json, (∀ x ∈ items, Same x (f x)) →
    Same (arr (before ++ items)) (arr (before ++ items.map f)) := by
  induction items with
  | nil => exact fun before _ => .refl _
  | cons x items ih =>
    intro before h
    have hfirst : Same (arr (before ++ x :: items)) (arr (before ++ f x :: items)) := .item (h x List.mem_cons_self)
    have hrest := ih (before ++ [f x]) fun y hy => h y (List.mem_cons_of_mem x hy)
    rw [List.append_assoc, List.append_assoc] at hrest
    exact hfirst.trans hrest

lemma same_map_fields {f : Json → Json} (fields : List (String × Json)) : ∀ before : List (String × Json),
    (∀ x ∈ fields, Same x.2 (f x.2)) → Same (obj (before ++ fields)) (obj (before ++ fields.map (onValue f))) := by
  induction fields with
  | nil => exact fun before _ => .refl _
  | cons x fields ih =>
    intro before h
    have hfirst : Same (obj (before ++ (x.1, x.2) :: fields)) (obj (before ++ (x.1, f x.2) :: fields)) :=
      .field (h x List.mem_cons_self)
    have hrest := ih (before ++ [(x.1, f x.2)]) fun y hy => h y (List.mem_cons_of_mem x hy)
    rw [List.append_assoc, List.append_assoc] at hrest
    exact hfirst.trans hrest

lemma same_sorted {j : Json} (hj : Plain j) : Same j j.sorted := by
  induction hj with
  | null => exact .refl _
  | bool b => exact .refl _
  | int n => exact .refl _
  | str s => exact .refl _
  | @arr items _ ih =>
    rw [sorted, sortedItems_eq]
    exact same_map_items items [] ih
  | @obj fields _ _ ih =>
    rw [sorted, sortedEntries_eq]
    exact (same_map_fields fields [] ih).trans (.reorder (List.perm_insertionSort _ _).symm)

lemma insertionSort_perm {α : Type} {fields fields' : List (String × α)} (h : fields.Perm fields')
    (hkeys : (fields.map Prod.fst).Nodup) :
    fields.insertionSort (fun a b => a.1 ≤ b.1) = fields'.insertionSort (fun a b => a.1 ≤ b.1) :=
  Relational.sort_perm h fun _ ha _ hb => List.inj_on_of_nodup_map hkeys ha hb

lemma Plain.items {items : List Json} (h : Plain (.arr items)) : ∀ x ∈ items, Plain x := by
  cases h with
  | arr hitems => exact hitems

lemma Plain.fields {fields : List (String × Json)} (h : Plain (.obj fields)) :
    (fields.map Prod.fst).Nodup ∧ ∀ f ∈ fields, Plain f.2 := by
  cases h with
  | obj hkeys hfields => exact ⟨hkeys, hfields⟩

lemma plain_item {before after : List Json} {a b : Json} (hab : Plain a → Plain b)
    (h : Plain (.arr (before ++ a :: after))) : Plain (.arr (before ++ b :: after)) := by
  refine .arr ?_
  intro x hx
  rcases List.mem_append.1 hx with hx | hx
  · exact h.items x (List.mem_append_left _ hx)
  · rcases List.mem_cons.1 hx with rfl | hx
    · exact hab (h.items a (List.mem_append_right _ List.mem_cons_self))
    · exact h.items x (List.mem_append_right _ (List.mem_cons_of_mem _ hx))

lemma plain_field {before after : List (String × Json)} {key : String} {a b : Json} (hab : Plain a → Plain b)
    (h : Plain (.obj (before ++ (key, a) :: after))) : Plain (.obj (before ++ (key, b) :: after)) := by
  obtain ⟨hkeys, hfields⟩ := h.fields
  refine .obj ?_ ?_
  · simpa using hkeys
  · intro x hx
    rcases List.mem_append.1 hx with hx | hx
    · exact hfields x (List.mem_append_left _ hx)
    · rcases List.mem_cons.1 hx with rfl | hx
      · exact hab (hfields (key, a) (List.mem_append_right _ List.mem_cons_self))
      · exact hfields x (List.mem_append_right _ (List.mem_cons_of_mem _ hx))

lemma Same.render_eq {a b : Json} (h : Same a b) : (Plain a ↔ Plain b) ∧ (Plain a → a.render = b.render) := by
  induction h with
  | refl j => exact ⟨Iff.rfl, fun _ => rfl⟩
  | symm _ ih => exact ⟨ih.1.symm, fun hb => (ih.2 (ih.1.2 hb)).symm⟩
  | trans _ _ ih ih' => exact ⟨ih.1.trans ih'.1, fun ha => (ih.2 ha).trans (ih'.2 (ih.1.1 ha))⟩
  | @reorder fields fields' hperm =>
    constructor
    · constructor
      · intro h
        refine .obj ((hperm.map Prod.fst).nodup_iff.1 h.fields.1) fun f hf => h.fields.2 f (hperm.mem_iff.2 hf)
      · intro h
        refine .obj ((hperm.map Prod.fst).nodup_iff.2 h.fields.1) fun f hf => h.fields.2 f (hperm.mem_iff.1 hf)
    · intro h
      have hkeys : ((fields.map (onValue render)).map Prod.fst).Nodup := by
        rw [List.map_map]
        exact h.fields.1
      rw [render, render, renderEntries_eq, renderEntries_eq, renderFields, renderFields,
        insertionSort_perm (hperm.map (onValue render)) hkeys]
  | @item before after a b _ ih =>
    refine ⟨⟨plain_item ih.1.1, plain_item ih.1.2⟩, fun h => ?_⟩
    have hab := ih.2 (h.items a (List.mem_append_right _ List.mem_cons_self))
    rw [render, render, renderItems_eq, renderItems_eq, List.map_append, List.map_append, List.map_cons, List.map_cons,
      hab]
  | @field before after key a b _ ih =>
    refine ⟨⟨plain_field ih.1.1, plain_field ih.1.2⟩, fun h => ?_⟩
    have hab := ih.2 (h.fields.2 (key, a) (List.mem_append_right _ List.mem_cons_self))
    rw [render, render, renderEntries_eq, renderEntries_eq, List.map_append, List.map_append, List.map_cons,
      List.map_cons, onValue, onValue, hab]

lemma sorted_eq_of_bytes {a b : Json} (ha : Plain a) (hb : Plain b) (h : canonicalJsonBytes a = canonicalJsonBytes b) :
    a.sorted = b.sorted := by
  have hloads := loads_canonicalJsonBytes ha
  rw [h, loads_canonicalJsonBytes hb] at hloads
  exact (Option.some.inj hloads).symm

lemma canonicalJsonBytes_eq_iff {a b : Json} (ha : Plain a) (hb : Plain b) :
    canonicalJsonBytes a = canonicalJsonBytes b ↔ Same a b := by
  constructor
  · intro h
    have hsorted := sorted_eq_of_bytes ha hb h
    exact (same_sorted ha).trans (hsorted ▸ (same_sorted hb).symm)
  · intro h
    rw [canonicalJsonBytes, canonicalJsonBytes, h.render_eq.2 ha]

end Json

structure Fingerprint where
  canonicalBytes : Bytes
  sha256 : Digest
  safeSummary : Json

structure RequestParts where
  apiVersion : String
  method : String
  routeTemplate : String
  pathParams : List (String × String)
  body : Json

namespace RequestParts

-- `str.upper`
variable (upper : String → String)

def params (r : RequestParts) : Json := .obj (r.pathParams.map fun p => (p.1, .str p.2))

def summary (r : RequestParts) : Json :=
  .obj [("api_version", .str r.apiVersion), ("method", .str (upper r.method)), ("route_template", .str r.routeTemplate),
    ("path_params", r.params), ("body", r.body)]

def buildFingerprint (r : RequestParts) : Fingerprint :=
  let canonical := canonicalJsonBytes (r.summary upper)
  ⟨canonical, RelayPay.sha256 canonical, r.summary upper⟩

structure WellFormed (r : RequestParts) : Prop where
  pathParams : (r.pathParams.map Prod.fst).Nodup
  body : r.body.Plain

structure Agree (r r' : RequestParts) : Prop where
  apiVersion : r.apiVersion = r'.apiVersion
  method : upper r.method = upper r'.method
  routeTemplate : r.routeTemplate = r'.routeTemplate
  pathParams : r.pathParams.Perm r'.pathParams
  body : r.body.Same r'.body

variable {upper} {r r' : RequestParts}

lemma WellFormed.params (h : r.WellFormed) : r.params.Plain := by
  refine .obj ?_ ?_
  · rw [List.map_map]
    exact h.pathParams
  · intro f hf
    obtain ⟨p, _, rfl⟩ := List.mem_map.1 hf
    exact .str p.2

lemma WellFormed.summary (h : r.WellFormed) : (r.summary upper).Plain := by
  have hkeys : ["api_version", "method", "route_template", "path_params", "body"].Nodup := by decide
  refine .obj hkeys ?_
  intro f hf
  simp only [List.mem_cons, List.not_mem_nil, or_false] at hf
  rcases hf with rfl | rfl | rfl | rfl | rfl
  · exact .str _
  · exact .str _
  · exact .str _
  · exact h.params
  · exact h.body

lemma sort_summary (apiVersion method routeTemplate params body : Json) :
    [("api_version", apiVersion), ("method", method), ("route_template", routeTemplate), ("path_params", params),
        ("body", body)].insertionSort (fun a b => a.1 ≤ b.1) =
      [("api_version", apiVersion), ("body", body), ("method", method), ("path_params", params),
        ("route_template", routeTemplate)] := by
  have hparams : ¬"path_params" ≤ "body" := by decide
  have hroute : ¬"route_template" ≤ "body" ∧ ¬"route_template" ≤ "path_params" := by decide
  have hmethod : ¬"method" ≤ "body" ∧ "method" ≤ "path_params" := by decide
  have hversion : "api_version" ≤ "body" := by decide
  simp only [List.insertionSort_cons, List.insertionSort_nil, List.orderedInsert_nil, List.orderedInsert_cons,
    hparams, hroute.1, hroute.2, hmethod.1, hmethod.2, hversion, if_true, if_false]

lemma sorted_summary (r : RequestParts) : (r.summary upper).sorted =
    .obj [("api_version", .str r.apiVersion), ("body", r.body.sorted), ("method", .str (upper r.method)),
      ("path_params", r.params.sorted), ("route_template", .str r.routeTemplate)] := by
  rw [RequestParts.summary, Json.sorted]
  simp only [Json.sortedEntries, sort_summary]
  rfl

lemma pathParams_perm (h : r.params.sorted = r'.params.sorted) : r.pathParams.Perm r'.pathParams := by
  have hsorted : ∀ r : RequestParts, r.params.sorted =
      .obj ((r.pathParams.map fun p => (p.1, Json.str p.2)).insertionSort fun a b => a.1 ≤ b.1) := by
    intro r
    rw [RequestParts.params, Json.sorted, Json.sortedEntries_eq, List.map_map]
    rfl
  rw [hsorted, hsorted] at h
  have hperm := (List.perm_insertionSort (fun a b => a.1 ≤ b.1) (r.pathParams.map fun p => (p.1, Json.str p.2))).symm
  rw [Json.obj.inj h] at hperm
  refine (List.map_perm_map_iff ?_).1 (hperm.trans (List.perm_insertionSort _ _))
  rintro ⟨k, v⟩ ⟨k', v'⟩ hp
  cases hp
  rfl

lemma agree_iff (h : r.WellFormed) (h' : r'.WellFormed) :
    canonicalJsonBytes (r.summary upper) = canonicalJsonBytes (r'.summary upper) ↔ Agree upper r r' := by
  constructor
  · intro hbytes
    have hsorted := Json.sorted_eq_of_bytes h.summary h'.summary hbytes
    rw [sorted_summary, sorted_summary] at hsorted
    have hfields := Json.obj.inj hsorted
    simp only [List.cons.injEq, Prod.mk.injEq, true_and, and_true, Json.str.injEq] at hfields
    obtain ⟨hversion, hbody, hmethod, hparams, hroute⟩ := hfields
    refine ⟨hversion, hmethod, hroute, pathParams_perm hparams, ?_⟩
    exact (Json.same_sorted h.body).trans (hbody ▸ (Json.same_sorted h'.body).symm)
  · intro hagree
    rw [Json.canonicalJsonBytes_eq_iff h.summary h'.summary, RequestParts.summary, RequestParts.summary,
      hagree.apiVersion, hagree.method, hagree.routeTemplate]
    have hparams : Json.Same r.params r'.params := .reorder (hagree.pathParams.map _)
    have hfirst := @Json.Same.field [("api_version", .str r'.apiVersion), ("method", .str (upper r'.method)),
      ("route_template", .str r'.routeTemplate)] [("body", r.body)] "path_params" _ _ hparams
    have hsecond := @Json.Same.field [("api_version", .str r'.apiVersion), ("method", .str (upper r'.method)),
      ("route_template", .str r'.routeTemplate), ("path_params", r'.params)] [] "body" _ _ hagree.body
    exact hfirst.trans hsecond

end RequestParts

section Sample

def sampleRequest (body : List (String × Json)) : RequestParts :=
  ⟨"2026-01-01", "post", "/payouts", [("environment", "env_1")], .obj body⟩

lemma sampleRequest_wellFormed {body : List (String × Json)}
    (h : body.Perm [("amount", .int 3000), ("currency", .str "INR")]) : (sampleRequest body).WellFormed := by
  have hkeys : ["amount", "currency"].Nodup := by decide
  refine ⟨List.nodup_singleton _, .obj ((h.map Prod.fst).nodup_iff.2 hkeys) ?_⟩
  intro f hf
  have hf' := h.mem_iff.1 hf
  simp only [List.mem_cons, List.not_mem_nil, or_false] at hf'
  rcases hf' with rfl | rfl
  · exact .int 3000
  · exact .str "INR"

end Sample

end RelayPay
