import Mathlib.Data.List.Sort
import Mathlib.Tactic.Common

/-! Reading an ordered table page by page, from the position of the last row that was shown. -/

namespace Keyset

variable {α β ι τ ε K : Type}

structure Page (ι τ : Type) where
  data : List ι
  nextCursor : Option τ

def follow (fetch : ℕ → Option τ → Except ε (Page ι τ)) : (fuel k : ℕ) → Option τ → Option (List ι)
  | 0, _, _ => none
  | fuel + 1, k, after =>
    match fetch k after with
    | .error _ => none
    | .ok page =>
      match page.nextCursor with
      | none => some page.data
      | some token => (follow fetch fuel (k + 1) (some token)).map (page.data ++ ·)

section Step

variable {fetch : ℕ → Option τ → Except ε (Page ι τ)} {k : ℕ} {after : Option τ} {page : Page ι τ}

lemma follow_last (hfetch : fetch k after = .ok page) (hnext : page.nextCursor = none) (fuel : ℕ) :
    follow fetch (fuel + 1) k after = some page.data := by
  simp only [follow, hfetch, hnext]

lemma follow_more {token : τ} (hfetch : fetch k after = .ok page) (hnext : page.nextCursor = some token) (fuel : ℕ) :
    follow fetch (fuel + 1) k after = (follow fetch fuel (k + 1) (some token)).map (page.data ++ ·) := by
  simp only [follow, hfetch, hnext]

end Step

def turn (limit : ℕ) (found : List α) (item : α → ι) (token : α → τ) : Page ι τ where
  data := (found.take limit).map item
  nextCursor := if limit < found.length then (found.take limit).getLast?.map token else none

section Order

variable [LinearOrder K] (key : α → K)

def descending (rows : List α) : List α := rows.insertionSort fun a b => key b ≤ key a

def below (position : Option K) (rows : List α) : List α :=
  rows.filter fun r => position.elim true fun p => decide (key r < p)

def select (limit : ℕ) (position : Option K) (rows : List α) : List α :=
  (descending key (below key position rows)).take (limit + 1)

variable {key}

variable {rows : List α}

lemma mem_descending {r : α} : r ∈ descending key rows ↔ r ∈ rows :=
  (List.perm_insertionSort _ rows).mem_iff

lemma mem_below {position : Option K} {r : α} :
    r ∈ below key position rows ↔ r ∈ rows ∧ ∀ p, position = some p → key r < p := by
  cases position with
  | none => simp [below]
  | some p => simp [below]

lemma descending_sorted (rows : List α) : (descending key rows).Pairwise fun a b => key b ≤ key a := by
  have htotal : Std.Total fun a b : α => key b ≤ key a := ⟨fun a b => le_total (key b) (key a)⟩
  have htrans : IsTrans α fun a b => key b ≤ key a := ⟨fun a b c hab hbc => hbc.trans hab⟩
  exact List.pairwise_insertionSort _ rows

lemma descending_strict (h : (rows.map key).Nodup) : (descending key rows).Pairwise fun a b => key b < key a := by
  have hne : (descending key rows).Pairwise fun a b => key a ≠ key b := by
    have hperm := (List.perm_insertionSort (fun a b => key b ≤ key a) rows).map key
    exact List.pairwise_map.1 (hperm.nodup_iff.2 h)
  refine (descending_sorted rows).imp₂ ?_ hne
  intro a b hle hne
  exact lt_of_le_of_ne hle hne.symm

lemma descending_ext {rows' : List α} (h : (rows.map key).Nodup) (h' : (rows'.map key).Nodup)
    (hmem : ∀ r, r ∈ rows ↔ r ∈ rows') : descending key rows = descending key rows' := by
  have hperm : rows.Perm rows' := (List.perm_ext_iff_of_nodup h.of_map h'.of_map).2 hmem
  have hsorted : (descending key rows).Perm (descending key rows') :=
    (List.perm_insertionSort _ rows).trans (hperm.trans (List.perm_insertionSort _ rows').symm)
  refine hsorted.eq_of_pairwise ?_ (descending_strict h) (descending_strict h')
  intro a b _ _ hab hba
  exact absurd (hab.trans hba) (lt_irrefl _)

lemma nodup_below (h : (rows.map key).Nodup) (position : Option K) : ((below key position rows).map key).Nodup :=
  h.sublist (List.filter_sublist.map key)

lemma descending_below_last (h : (rows.map key).Nodup) {position : Option K} {n : ℕ} {last : α}
    (hlast : ((descending key (below key position rows)).take n).getLast? = some last) :
    descending key (below key (some (key last)) rows) = (descending key (below key position rows)).drop n := by
  set found := descending key (below key position rows) with hfound
  have hstrict : found.Pairwise fun a b => key b < key a := descending_strict (nodup_below h position)
  obtain ⟨shown, hshown⟩ := List.getLast?_eq_some_iff.1 hlast
  have hsplit : found = (shown ++ [last]) ++ found.drop n := by rw [← hshown, List.take_append_drop]
  rw [hsplit] at hstrict
  obtain ⟨hbefore, hafter, hcross⟩ := List.pairwise_append.1 hstrict
  have hmem : ∀ r, r ∈ below key (some (key last)) rows ↔ r ∈ found.drop n := by
    intro r
    rw [mem_below]
    constructor
    · rintro ⟨hr, hlt⟩
      have hrfound : r ∈ found := by
        rw [hfound, mem_descending, mem_below]
        refine ⟨hr, fun p hp => (hlt _ rfl).trans ?_⟩
        have hlastfound : last ∈ found := List.mem_of_mem_take (List.mem_of_getLast? hlast)
        exact (mem_below.1 (mem_descending.1 hlastfound)).2 p hp
      rw [hsplit] at hrfound
      rcases List.mem_append.1 hrfound with hr | hr
      · -- a row the page showed is not below its last row
        exfalso
        rcases List.mem_append.1 hr with hr | hr
        · have hgt := (List.pairwise_append.1 hbefore).2.2 r hr last (List.mem_singleton_self last)
          exact lt_asymm hgt (hlt _ rfl)
        · rw [List.mem_singleton.1 hr] at hlt
          exact lt_irrefl _ (hlt _ rfl)
      · exact hr
    · intro hr
      have hrfound : r ∈ found := List.mem_of_mem_drop hr
      refine ⟨(mem_below.1 (mem_descending.1 hrfound)).1, ?_⟩
      rintro p ⟨⟩
      exact hcross last (by simp) r hr
  have hdrop : descending key (found.drop n) = found.drop n := by
    refine List.Pairwise.insertionSort_eq (hafter.imp ?_)
    intro a b hab
    exact hab.le
  rw [← hdrop]
  refine descending_ext (nodup_below h _) ?_ hmem
  exact (hafter.imp fun hab => hab.ne').map key (fun _ _ hab => hab)

def tag (key : α → K) (mark : α → β) (r : α) : K × β := (key r, mark r)

variable (key) (mark : α → β)

lemma descending_tag (rows : List α) :
    (descending key rows).map (tag key mark) = descending Prod.fst (rows.map (tag key mark)) := by
  apply List.map_insertionSort
  intro a _ b _
  exact Iff.rfl

lemma select_tag (limit : ℕ) (position : Option K) (rows : List α) :
    (select key limit position rows).map (tag key mark) = select Prod.fst limit position (rows.map (tag key mark)) := by
  have hbelow : below Prod.fst position (rows.map (tag key mark)) = (below key position rows).map (tag key mark) := by
    rw [below, below, List.filter_map]
    rfl
  rw [select, select, hbelow, ← descending_tag, List.map_take]

end Order

structure Grows [LinearOrder K] (key : α → K) (rows : ℕ → List α) : Prop where
  distinct : ∀ k, ((rows k).map key).Nodup
  stays : ∀ k, ∀ r ∈ rows 0, r ∈ rows k
  later : ∀ k, ∀ r ∈ rows k, r ∈ rows 0 ∨ ∀ r₀ ∈ rows 0, key r₀ < key r

lemma Grows.descending_eq [LinearOrder K] {key : α → K} {rows : ℕ → List α} (h : Grows key rows) (k : ℕ) {p : α}
    (hp : p ∈ rows 0) :
    descending key (below key (some (key p)) (rows k)) = descending key (below key (some (key p)) (rows 0)) := by
  apply descending_ext (nodup_below (h.distinct k) _) (nodup_below (h.distinct 0) _)
  intro r
  rw [mem_below, mem_below]
  constructor
  · rintro ⟨hr, hlt⟩
    refine ⟨(h.later k r hr).resolve_right ?_, hlt⟩
    intro hlater
    exact lt_asymm (hlater p hp) (hlt _ rfl)
  · rintro ⟨hr, hlt⟩
    exact ⟨h.stays k r hr, hlt⟩

section Follow

variable [LinearOrder K] {key : α → K} {mark : α → β} {rows : ℕ → List α} {limit : ℕ}
  {fetch : ℕ → Option τ → Except ε (Page ι τ)} {item : ℕ → α → ι} {token : α → τ} {label : ι → β}

lemma follow_from (h : Grows Prod.fst fun k => (rows k).map (tag key mark)) (hlimit : 0 < limit)
    (hfetch : ∀ k (position : Option α), fetch k (position.map token) =
      .ok (turn limit (select key limit (position.map key) (rows k)) (item k) token))
    (hlabel : ∀ k r, label (item k r) = mark r) (fuel : ℕ) :
    ∀ (k : ℕ) (position : Option α),
      (k = 0 ∧ position = none ∨ ∃ p, position = some p ∧ tag key mark p ∈ (rows 0).map (tag key mark)) →
      (descending Prod.fst (below Prod.fst (position.map key) ((rows 0).map (tag key mark)))).length < fuel →
      (follow fetch fuel k (position.map token)).map (List.map label) =
        some ((descending Prod.fst (below Prod.fst (position.map key) ((rows 0).map (tag key mark)))).map Prod.snd) := by
  induction fuel with
  | zero =>
    intro k position _ hfuel
    omega
  | succ fuel ih =>
    intro k position hposition hfuel
    set rest := descending Prod.fst (below Prod.fst (position.map key) ((rows 0).map (tag key mark))) with hrest
    -- the rows found now bear the marks of those that were there at first
    have hfound : (select key limit (position.map key) (rows k)).map (tag key mark) = rest.take (limit + 1) := by
      rw [select_tag, select, hrest]
      congr 1
      rcases hposition with ⟨rfl, rfl⟩ | ⟨p, rfl, hp⟩
      · rfl
      · exact h.descending_eq k hp
    set found := select key limit (position.map key) (rows k)
    have hshown : (found.take limit).map (tag key mark) = rest.take limit := by
      rw [List.map_take, hfound, List.take_take, Nat.min_eq_left (Nat.le_succ limit)]
    have hdata : ((turn limit found (item k) token).data).map label = (rest.take limit).map Prod.snd := by
      rw [← hshown, turn, List.map_map, List.map_map]
      apply List.map_congr_left
      intro r _
      exact hlabel k r
    have hlength : limit < found.length ↔ limit < rest.length := by
      have := congrArg List.length hfound
      rw [List.length_map, List.length_take] at this
      omega
    by_cases hmore : limit < found.length
    · obtain ⟨last, hlast⟩ : ∃ last, (found.take limit).getLast? = some last := by
        cases hl : (found.take limit).getLast? with
        | some last => exact ⟨last, rfl⟩
        | none =>
          have hnil := congrArg List.length (List.getLast?_eq_none_iff.1 hl)
          rw [List.length_take, List.length_nil] at hnil
          omega
      have hcursor : (turn limit found (item k) token).nextCursor = some (token last) := by
        rw [turn, if_pos hmore, hlast]
        rfl
      have hlastTag : (rest.take limit).getLast? = some (tag key mark last) := by
        rw [← hshown, List.getLast?_map, hlast]
        rfl
      have hnext : descending Prod.fst (below Prod.fst (some (key last)) ((rows 0).map (tag key mark))) =
          rest.drop limit := descending_below_last (h.distinct 0) hlastTag
      have hmem : tag key mark last ∈ (rows 0).map (tag key mark) := by
        have hin := List.mem_of_mem_take (List.mem_of_getLast? hlastTag)
        exact (mem_below.1 (mem_descending.1 hin)).1
      have hstep := ih (k + 1) (some last) (.inr ⟨last, rfl, hmem⟩) (by
        rw [Option.map_some, hnext, List.length_drop]
        omega)
      rw [Option.map_some, Option.map_some, hnext] at hstep
      rw [follow_more (hfetch k position) hcursor, Option.map_map]
      obtain ⟨shown, hfollow, hshown⟩ := Option.map_eq_some_iff.1 hstep
      rw [hfollow, Option.map_some, Function.comp_apply, List.map_append, hdata, hshown, ← List.map_append,
        List.take_append_drop]
    · have hcursor : (turn limit found (item k) token).nextCursor = none := by
        rw [turn, if_neg hmore]
      rw [follow_last (hfetch k position) hcursor, Option.map_some]
      have hall : rest.take limit = rest := by
        rw [List.take_of_length_le]
        omega
      rw [hdata, hall]

theorem follow_visits (h : Grows Prod.fst fun k => (rows k).map (tag key mark)) (hlimit : 0 < limit)
    (hfetch : ∀ k (position : Option α), fetch k (position.map token) =
      .ok (turn limit (select key limit (position.map key) (rows k)) (item k) token))
    (hlabel : ∀ k r, label (item k r) = mark r) {fuel : ℕ} (hfuel : (rows 0).length < fuel) :
    (follow fetch fuel 0 none).map (List.map label) = some ((descending key (rows 0)).map mark) := by
  have hbelow : below Prod.fst none ((rows 0).map (tag key mark)) = (rows 0).map (tag key mark) := by
    simp [below]
  have hvisits := follow_from h hlimit hfetch hlabel fuel 0 none (.inl ⟨rfl, rfl⟩) (by
    rw [Option.map_none, hbelow, ← descending_tag, List.length_map, descending, List.length_insertionSort]
    exact hfuel)
  rw [Option.map_none, Option.map_none, hbelow, ← descending_tag, List.map_map] at hvisits
  exact hvisits

end Follow

end Keyset
