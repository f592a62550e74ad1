import Mathlib.Algebra.Order.Ring.Int
import Mathlib.Data.List.Dedup
import Mathlib.Data.List.Nodup
import Mathlib.Data.List.Perm.Basic
import Mathlib.Data.List.Sort
import Mathlib.Tactic.Common

/-! Tables as lists of rows: the groups of rows that share a key, and aggregates that skip NULL. -/

namespace Relational

variable {ρ κ β γ : Type}

def maxNonNull (values : List (Option ℤ)) : Option ℤ := (values.filterMap id).max?

@[simp] lemma maxNonNull_singleton (v : Option ℤ) : maxNonNull [v] = v := by
  cases v with
  | none => rfl
  | some x => rfl

lemma max_perm {values values' : List ℤ} (h : values.Perm values') : values.max? = values'.max? := by
  cases hmax : values.max? with
  | none =>
    have hnil := List.max?_eq_none_iff.1 hmax
    subst hnil
    rw [h.nil_eq.symm]
    rfl
  | some a =>
    obtain ⟨ha, hle⟩ := List.max?_eq_some_iff.1 hmax
    symm
    exact List.max?_eq_some_iff.2 ⟨h.mem_iff.1 ha, fun b hb => hle b (h.mem_iff.2 hb)⟩

lemma maxNonNull_perm {values values' : List (Option ℤ)} (h : values.Perm values') :
    maxNonNull values = maxNonNull values' :=
  max_perm (h.filterMap id)

section Groups

variable [DecidableEq κ]

def rowsOf (key : ρ → κ) (rows : List ρ) (k : κ) : List ρ := rows.filter fun r => key r = k

def groupBy (key : ρ → κ) (aggregate : κ → List ρ → β) (rows : List ρ) : List β :=
  (rows.map key).dedup.map fun k => aggregate k (rowsOf key rows k)

variable {key : ρ → κ} {aggregate : κ → List ρ → β} {rows : List ρ} {k : κ} {r : ρ}

lemma mem_rowsOf : r ∈ rowsOf key rows k ↔ r ∈ rows ∧ key r = k := by
  simp [rowsOf]

lemma rowsOf_ne_nil : rowsOf key rows k ≠ [] ↔ ∃ r ∈ rows, key r = k := by
  constructor
  · intro h
    obtain ⟨r, hr⟩ := List.exists_mem_of_ne_nil _ h
    exact ⟨r, mem_rowsOf.1 hr⟩
  · rintro ⟨r, hr, hk⟩
    exact List.ne_nil_of_mem (mem_rowsOf.2 ⟨hr, hk⟩)

lemma rowsOf_singleton (h : rowsOf key rows k = [r]) : r ∈ rows ∧ key r = k :=
  mem_rowsOf.1 (h ▸ List.mem_singleton_self r)

lemma mem_groupBy {b : β} : b ∈ groupBy key aggregate rows ↔
    ∃ k, rowsOf key rows k ≠ [] ∧ b = aggregate k (rowsOf key rows k) := by
  simp only [groupBy, List.mem_map, List.mem_dedup, rowsOf_ne_nil]
  constructor
  · rintro ⟨k, ⟨r, hr, rfl⟩, rfl⟩
    exact ⟨key r, ⟨r, hr, rfl⟩, rfl⟩
  · rintro ⟨k, ⟨r, hr, rfl⟩, rfl⟩
    exact ⟨key r, ⟨r, hr, rfl⟩, rfl⟩

lemma groupBy_nodup {name : β → κ} (hname : ∀ k g, name (aggregate k g) = k) :
    ((groupBy key aggregate rows).map name).Nodup := by
  have hkeys : (groupBy key aggregate rows).map name = (rows.map key).dedup := by
    rw [groupBy, List.map_map]
    conv_rhs => rw [← List.map_id (rows.map key).dedup]
    apply List.map_congr_left
    intro k _
    exact hname k _
  rw [hkeys]
  exact List.nodup_dedup _

lemma groupBy_perm {rows' : List ρ} (haggregate : ∀ k {g g'}, g.Perm g' → aggregate k g = aggregate k g')
    (h : rows.Perm rows') : (groupBy key aggregate rows).Perm (groupBy key aggregate rows') := by
  have hsame : ∀ k, aggregate k (rowsOf key rows k) = aggregate k (rowsOf key rows' k) :=
    fun k => haggregate k (h.filter _)
  simp only [groupBy, hsame]
  exact (h.map key).dedup.map _

lemma rowsOf_unique {rows' : List ρ} (h : rows.Perm rows') (hkeys : (rows.map key).Nodup) (k : κ) :
    rowsOf key rows k = rowsOf key rows' k := by
  have hperm : (rowsOf key rows k).Perm (rowsOf key rows' k) := h.filter _
  have hnodup : ((rowsOf key rows k).map key).Nodup := hkeys.sublist (List.filter_sublist.map key)
  cases hrows : rowsOf key rows k with
  | nil => rw [hrows] at hperm; exact hperm.nil_eq
  | cons a rest =>
    cases rest with
    | nil => rw [hrows] at hperm; exact (List.singleton_perm.1 hperm)
    | cons b rest =>
      have ha : key a = k := (mem_rowsOf.1 (hrows ▸ List.mem_cons_self)).2
      have hb : key b = k := (mem_rowsOf.1 (hrows ▸ List.mem_cons_of_mem _ List.mem_cons_self)).2
      simp [hrows, ha, hb] at hnodup

end Groups

lemma sort_perm {K : Type} [LinearOrder K] {key : ρ → K} {rows rows' : List ρ} (h : rows.Perm rows')
    (hkey : ∀ a ∈ rows, ∀ b ∈ rows, key a = key b → a = b) :
    rows.insertionSort (fun a b => key a ≤ key b) = rows'.insertionSort fun a b => key a ≤ key b := by
  have htotal : Std.Total fun a b : ρ => key a ≤ key b := ⟨fun a b => le_total (key a) (key b)⟩
  have htrans : IsTrans ρ fun a b => key a ≤ key b := ⟨fun _ _ _ => le_trans⟩
  have hleft := List.perm_insertionSort (fun a b => key a ≤ key b) rows
  have hright := List.perm_insertionSort (fun a b => key a ≤ key b) rows'
  refine (hleft.trans (h.trans hright.symm)).eq_of_pairwise ?_ (List.pairwise_insertionSort _ rows)
    (List.pairwise_insertionSort _ rows')
  intro a b ha hb hab hba
  exact hkey a (hleft.mem_iff.1 ha) b (h.mem_iff.2 (hright.mem_iff.1 hb)) (le_antisymm hab hba)

def select (table : List β) (p : β → Bool) (f : β → γ) : List γ := (table.filter p).map f

lemma mem_select {table : List β} {p : β → Bool} {f : β → γ} {c : γ} :
    c ∈ select table p f ↔ ∃ b ∈ table, p b = true ∧ c = f b := by
  simp only [select, List.mem_map, List.mem_filter]
  constructor
  · rintro ⟨b, ⟨hb, hp⟩, rfl⟩
    exact ⟨b, hb, hp, rfl⟩
  · rintro ⟨b, hb, hp, rfl⟩
    exact ⟨b, ⟨hb, hp⟩, rfl⟩

lemma select_nodup {table : List β} {p : β → Bool} {f : β → γ} {name : β → κ} {label : γ → κ}
    (hlabel : ∀ b, p b = true → label (f b) = name b) (h : (table.map name).Nodup) :
    ((select table p f).map label).Nodup := by
  have hnames : (select table p f).map label = (table.filter p).map name := by
    rw [select, List.map_map]
    apply List.map_congr_left
    intro b hb
    exact hlabel b (List.mem_filter.1 hb).2
  rw [hnames]
  exact h.sublist (List.filter_sublist.map name)

lemma select_perm {table table' : List β} {p : β → Bool} {f : β → γ} (h : table.Perm table') :
    (select table p f).Perm (select table' p f) :=
  (h.filter p).map f

lemma nodup_parts {parts : List (κ × List β)} (tag : β → κ) (htags : (parts.map Prod.fst).Nodup)
    (htag : ∀ part ∈ parts, ∀ b ∈ part.2, tag b = part.1) (hparts : ∀ part ∈ parts, part.2.Nodup) :
    (parts.flatMap Prod.snd).Nodup := by
  induction parts with
  | nil => exact List.nodup_nil
  | cons part rest ih =>
    rw [List.map_cons, List.nodup_cons] at htags
    have hrest := ih htags.2 (fun q hq => htag q (List.mem_cons_of_mem _ hq))
      fun q hq => hparts q (List.mem_cons_of_mem _ hq)
    rw [List.flatMap_cons, List.nodup_append']
    refine ⟨hparts part (by simp), hrest, ?_⟩
    intro b hb hflat
    obtain ⟨q, hq, hbq⟩ := List.mem_flatMap.1 hflat
    have hsame : part.1 = q.1 :=
      (htag part (by simp) b hb).symm.trans (htag q (List.mem_cons_of_mem _ hq) b hbq)
    exact htags.1 (hsame ▸ List.mem_map_of_mem hq)

lemma filter_flatMap_tag [DecidableEq κ] {parts : List β} {f : β → List γ} {name : β → κ} {tag : γ → κ}
    (htag : ∀ a ∈ parts, ∀ b ∈ f a, tag b = name a) (hnodup : (parts.map name).Nodup) {a : β}
    (ha : a ∈ parts) : (parts.flatMap f).filter (fun b => tag b = name a) = f a := by
  induction parts with
  | nil => cases ha
  | cons p rest ih =>
    rw [List.map_cons, List.nodup_cons] at hnodup
    have hrest := ih (fun q hq => htag q (List.mem_cons_of_mem _ hq)) hnodup.2
    rw [List.flatMap_cons, List.filter_append]
    rcases List.mem_cons.1 ha with rfl | hmem
    · have hall : (f a).filter (fun b => tag b = name a) = f a := by
        rw [List.filter_eq_self]
        intro b hb
        simpa using htag a List.mem_cons_self b hb
      have hnone : (rest.flatMap f).filter (fun b => tag b = name a) = [] := by
        rw [List.filter_eq_nil_iff]
        intro b hb heq
        obtain ⟨q, hq, hbq⟩ := List.mem_flatMap.1 hb
        have hname : name q = name a :=
          (htag q (List.mem_cons_of_mem _ hq) b hbq).symm.trans (by simpa using heq)
        exact hnodup.1 (hname ▸ List.mem_map_of_mem hq)
      rw [hall, hnone, List.append_nil]
    · have hnone : (f p).filter (fun b => tag b = name a) = [] := by
        rw [List.filter_eq_nil_iff]
        intro b hb heq
        have hname : name a = name p :=
          (by simpa using heq : tag b = name a).symm.trans (htag p List.mem_cons_self b hb)
        exact hnodup.1 (hname ▸ List.mem_map_of_mem hmem)
      rw [hnone, List.nil_append]
      exact hrest hmem

end Relational
