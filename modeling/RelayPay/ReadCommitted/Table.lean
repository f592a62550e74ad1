import Mathlib.Algebra.BigOperators.Group.List.Basic
import Mathlib.Algebra.Order.BigOperators.Group.List
import Mathlib.Algebra.Order.Group.Int
import Mathlib.Data.List.AList
import Mathlib.Tactic.Common
import Mathlib.Tactic.Ring

namespace ReadCommitted

structure Table (ι ρ : Type) [DecidableEq ι] where
  alist : AList fun _ : ι => ρ

namespace Table

variable {ι ρ : Type} [DecidableEq ι]

def empty : Table ι ρ := ⟨∅⟩

def get (t : Table ι ρ) (a : ι) : Option ρ := t.alist.lookup a

def put (t : Table ι ρ) (a : ι) (r : ρ) : Table ι ρ := ⟨t.alist.insert a r⟩

def update (t : Table ι ρ) (a : ι) (f : ρ → ρ) : Table ι ρ :=
  match t.get a with
  | some r => t.put a (f r)
  | none => t

def rows (t : Table ι ρ) : List (ι × ρ) := t.alist.entries.map fun e => (e.1, e.2)

def total (t : Table ι ρ) (f : ι → ρ → ℤ) : ℤ := (t.rows.map fun e => f e.1 e.2).sum

def count (t : Table ι ρ) (p : ι → ρ → Bool) : ℕ := t.rows.countP fun e => p e.1 e.2

def mapRows (t : Table ι ρ) (f : ι → ρ → ρ) : Table ι ρ where
  alist := {
    entries := t.alist.entries.map fun e => ⟨e.1, f e.1 e.2⟩
    nodupKeys := by
      have hkeys : (t.alist.entries.map fun e => (⟨e.1, f e.1 e.2⟩ : (_ : ι) × ρ)).keys =
          t.alist.entries.keys := by
        simp [List.keys, Function.comp_def]
      rw [List.NodupKeys, hkeys]
      exact t.alist.nodupKeys }

def filter (t : Table ι ρ) (keep : ι → ρ → Bool) : Table ι ρ where
  alist := {
    entries := t.alist.entries.filter fun e => keep e.1 e.2
    nodupKeys := t.alist.nodupKeys.sublist (List.filter_sublist ..) }

@[simp] lemma rows_filter (t : Table ι ρ) (keep : ι → ρ → Bool) :
    (t.filter keep).rows = t.rows.filter fun e => keep e.1 e.2 := by
  simp only [rows, filter, List.filter_map]
  rfl

@[simp] lemma get_empty (a : ι) : (empty : Table ι ρ).get a = none := rfl

@[simp] lemma total_empty (f : ι → ρ → ℤ) : (empty : Table ι ρ).total f = 0 := rfl

@[simp] lemma get_put_self (t : Table ι ρ) (a : ι) (r : ρ) : (t.put a r).get a = some r :=
  AList.lookup_insert t.alist

variable {a : ι}

lemma get_put_ne (t : Table ι ρ) {b : ι} (r : ρ) (h : b ≠ a) : (t.put a r).get b = t.get b :=
  AList.lookup_insert_ne h

lemma get_put (t : Table ι ρ) (a b : ι) (r : ρ) :
    (t.put a r).get b = if b = a then some r else t.get b := by
  split
  · next h => rw [h, get_put_self]
  · next h => exact t.get_put_ne r h

lemma forall_written {t t' : Table ι ρ} {r : ρ} {P : ι → ρ → Prop}
    (hget : ∀ b, t'.get b = if b = a then some r else t.get b) (h : ∀ b r', t.get b = some r' → P b r') (ha : P a r)
    (b : ι) (r' : ρ) (hb : t'.get b = some r') : P b r' := by
  rw [hget] at hb
  split at hb
  · next heq =>
    cases hb
    exact heq ▸ ha
  · exact h b r' hb

lemma get_written {t t' : Table ι ρ} {b : ι} {r r' : ρ} (hget : t'.get b = if b = a then some r else t.get b)
    (hnew : r' ≠ r) (hold : t.get a ≠ some r') : t'.get b = some r' ↔ t.get b = some r' := by
  rw [hget]
  split
  · next heq =>
    subst heq
    exact iff_of_false (fun h => hnew (Option.some.inj h).symm) hold
  · exact Iff.rfl

lemma forall_put {t : Table ι ρ} {r : ρ} {P : ι → ρ → Prop} (h : ∀ b r', t.get b = some r' → P b r') (ha : P a r) :
    ∀ b r', (t.put a r).get b = some r' → P b r' :=
  forall_written (fun b => get_put t a b r) h ha

lemma get_put_new {t : Table ι ρ} {b : ι} {r : ρ} (r' : ρ) (ha : t.get a = none) (hb : t.get b = some r) :
    (t.put a r').get b = some r := by
  rw [get_put_ne, hb]
  rintro rfl
  rw [ha] at hb
  cases hb

lemma get_update (t : Table ι ρ) (a b : ι) (f : ρ → ρ) :
    (t.update a f).get b = if b = a then (t.get a).map f else t.get b := by
  rw [update]
  cases h : t.get a with
  | none =>
    by_cases hb : b = a
    · rw [if_pos hb, hb]
      exact h
    · rw [if_neg hb]
  | some r => exact get_put t a b (f r)

variable {t : Table ι ρ}

lemma update_eq {r : ρ} (h : t.get a = some r) (f : ρ → ρ) : t.update a f = t.put a (f r) := by
  rw [update, h]

section Rel

variable {P : ρ → ρ → Prop} (hsame : ∀ r, P r r) {b : ι}
include hsame

lemma rel_self (o : Option ρ) : Option.Rel P o o := by
  cases o with
  | none => exact .none
  | some r => exact .some (hsame r)

lemma rel_put {r r' : ρ} (hrow : t.get a = some r) (ha : b = a → P r r') :
    Option.Rel P (t.get b) ((t.put a r').get b) := by
  rw [get_put]
  split
  · next hb =>
    rw [hb, hrow]
    exact .some (ha hb)
  · exact rel_self hsame _

lemma rel_update {f : ρ → ρ} (ha : ∀ r, b = a → P r (f r)) : Option.Rel P (t.get b) ((t.update a f).get b) := by
  cases hrow : t.get a with
  | none =>
    rw [update, hrow]
    exact rel_self hsame _
  | some r =>
    rw [update_eq hrow]
    exact rel_put hsame hrow (ha r)

end Rel

lemma rel_left {P : ρ → ρ → Prop} {o o' : Option ρ} {r : ρ} (h : Option.Rel P o o') (ho : o = some r) :
    ∃ r', o' = some r' ∧ P r r' := by
  subst ho
  cases h with
  | some h => exact ⟨_, rfl, h⟩

lemma rel_right {P : ρ → ρ → Prop} {o o' : Option ρ} {r' : ρ} (h : Option.Rel P o o') (ho' : o' = some r') :
    ∃ r, o = some r ∧ P r r' := by
  subst ho'
  cases h with
  | some h => exact ⟨_, rfl, h⟩

@[simp] lemma put_put (t : Table ι ρ) (a : ι) (r r' : ρ) : (t.put a r).put a r' = t.put a r' := by
  rw [put, put, put, AList.insert_insert]

lemma mem_rows {r : ρ} : (a, r) ∈ t.rows ↔ t.get a = some r := by
  rw [get, ← Option.mem_def, AList.mem_lookup_iff, rows, List.mem_map]
  constructor
  · rintro ⟨⟨a', r'⟩, hmem, heq⟩
    cases heq
    exact hmem
  · exact fun hmem => ⟨⟨a, r⟩, hmem, rfl⟩

lemma rows_nodup (t : Table ι ρ) : (t.rows.map Prod.fst).Nodup := by
  have hkeys : t.rows.map Prod.fst = t.alist.entries.keys := by
    simp [rows, List.keys, Function.comp_def]
  rw [hkeys]
  exact t.alist.nodupKeys

@[simp] lemma get_mapRows (t : Table ι ρ) (f : ι → ρ → ρ) (a : ι) : (t.mapRows f).get a = (t.get a).map (f a) := by
  obtain ⟨⟨es, hes⟩⟩ := t
  change List.dlookup a (es.map fun e => (⟨e.1, f e.1 e.2⟩ : (_ : ι) × ρ)) =
    Option.map (f a) (List.dlookup a es : Option ρ)
  clear hes
  induction es with
  | nil => rfl
  | cons e es ih =>
    obtain ⟨b, r⟩ := e
    by_cases h : a = b
    · subst h
      simp
    · simp [List.dlookup_cons_ne, h, ih]

private lemma sum_kerase (f : ι → ρ → ℤ) (a : ι) (es : List ((_ : ι) × ρ)) : ((es.kerase a).map fun e => f e.1 e.2).sum
      = (es.map fun e => f e.1 e.2).sum - (es.dlookup a).elim 0 (f a) := by
  induction es with
  | nil => simp
  | cons e es ih =>
    obtain ⟨b, r⟩ := e
    by_cases h : a = b
    · subst h
      simp
    · rw [List.kerase_cons_ne h, List.dlookup_cons_ne _ _ h]
      simp only [List.map_cons, List.sum_cons, ih]
      ring

private lemma countP_kerase (p : ι → ρ → Bool) (a : ι) (es : List ((_ : ι) × ρ)) :
    (es.kerase a).countP (fun e => p e.1 e.2) + (if (es.dlookup a).any (p a) then 1 else 0)
      = es.countP fun e => p e.1 e.2 := by
  induction es with
  | nil => simp
  | cons e es ih =>
    obtain ⟨b, r⟩ := e
    by_cases h : a = b
    · subst h
      simp [List.countP_cons]
    · rw [List.kerase_cons_ne h, List.dlookup_cons_ne _ _ h, List.countP_cons, List.countP_cons, ← ih]
      omega

lemma count_put (t : Table ι ρ) (p : ι → ρ → Bool) (a : ι) (r : ρ) :
    (t.put a r).count p + (if (t.get a).any (p a) then 1 else 0) =
      t.count p + if p a r then 1 else 0 := by
  have hrows : ∀ t : Table ι ρ, t.count p = t.alist.entries.countP fun e => p e.1 e.2 := by
    intro t
    simp [count, rows, List.countP_map, Function.comp_def]
  have herase := countP_kerase p a t.alist.entries
  rw [hrows, hrows, put, AList.entries_insert, List.countP_cons, get, AList.lookup]
  dsimp only
  omega

lemma count_eq_zero {p : ι → ρ → Bool} (h : ∀ a r, t.get a = some r → p a r = false) : t.count p = 0 := by
  apply List.countP_eq_zero.2
  intro e he
  simp [h e.1 e.2 (mem_rows.1 he)]

lemma total_eq (t : Table ι ρ) (f : ι → ρ → ℤ) : t.total f = (t.alist.entries.map fun e => f e.1 e.2).sum := by
  simp [total, rows, Function.comp_def]

lemma total_put (t : Table ι ρ) (f : ι → ρ → ℤ) (a : ι) (r : ρ) :
    (t.put a r).total f = t.total f + f a r - (t.get a).elim 0 (f a) := by
  have hsum := sum_kerase f a t.alist.entries
  rw [total_eq, put, AList.entries_insert, List.map_cons, List.sum_cons, hsum, total_eq, get, AList.lookup]
  ring

variable {f : ι → ρ → ℤ}

lemma total_put_new (r : ρ) (h : t.get a = none) : (t.put a r).total f = t.total f + f a r := by
  rw [total_put, h]
  simp

lemma total_put_same {r r' : ρ} (h : t.get a = some r) (hf : f a r' = f a r) : (t.put a r').total f = t.total f := by
  rw [total_put, h, hf]
  simp

variable {f' : ι → ρ → ℤ}

lemma total_put_single {r : ρ} (r' : ρ) (h : t.get a = some r) (hne : ∀ b s, b ≠ a → f' b s = f b s) :
    (t.put a r').total f' = t.total f + f' a r' - f a r := by
  have hlookup : t.alist.entries.dlookup a = some r := h
  have hsum := sum_kerase f a t.alist.entries
  have hsame : ((t.alist.entries.kerase a).map fun e => f' e.1 e.2) =
      (t.alist.entries.kerase a).map fun e => f e.1 e.2 := by
    apply List.map_congr_left
    intro e he
    apply hne
    rintro rfl
    exact List.notMem_keys_kerase _ t.alist.nodupKeys (List.mem_keys_of_mem he)
  rw [hlookup] at hsum
  rw [total_eq, put, AList.entries_insert, List.map_cons, List.sum_cons, hsame, hsum, total_eq]
  simp only [Option.elim_some]
  ring

lemma total_single {r : ρ} (h : t.get a = some r)
    (hne : ∀ b s, b ≠ a → f' b s = f b s) : t.total f' = t.total f + f' a r - f a r := by
  rw [← total_put_single r h hne, total_put_same h rfl]

lemma total_nonneg (h : ∀ a r, t.get a = some r → 0 ≤ f a r) : 0 ≤ t.total f := by
  refine List.sum_nonneg fun x hx => ?_
  obtain ⟨⟨a, r⟩, hmem, rfl⟩ := List.mem_map.1 hx
  exact h a r (mem_rows.1 hmem)

lemma total_mono {g : ι → ρ → ℤ} (h : ∀ a r, t.get a = some r → f a r ≤ g a r) : t.total f ≤ t.total g := by
  apply List.sum_le_sum
  intro e he
  exact h e.1 e.2 (mem_rows.1 he)

lemma total_congr {t' : Table ι ρ} (hrows : t.rows = t'.rows)
    (h : ∀ a r, t.get a = some r → f a r = f' a r) : t.total f = t'.total f' := by
  rw [total, total, ← hrows]
  refine congrArg List.sum (List.map_congr_left fun e he => ?_)
  exact h e.1 e.2 (mem_rows.1 he)

lemma total_eq_of_get {t' : Table ι ρ} (f : ι → ρ → ℤ) (h : ∀ a, t.get a = t'.get a) : t.total f = t'.total f := by
  have hnodup : ∀ t : Table ι ρ, t.rows.Nodup := fun t => t.rows_nodup.of_map
  have hperm : t.rows.Perm t'.rows := by
    apply (List.perm_ext_iff_of_nodup (hnodup t) (hnodup t')).2
    rintro ⟨a, r⟩
    rw [mem_rows, mem_rows, h]
  exact (hperm.map _).sum_eq

end Table

def patched {β : Type} [DecidableEq β] (loaded new current : β) : β := if new = loaded then current else new

@[simp] lemma patched_self {β : Type} [DecidableEq β] (loaded current : β) :
    patched loaded loaded current = current := if_pos rfl

lemma patched_of_ne {β : Type} [DecidableEq β] {loaded new : β} (h : new ≠ loaded) (current : β) :
    patched loaded new current = new := if_neg h

@[simp] lemma patched_current {β : Type} [DecidableEq β] (loaded new : β) : patched loaded new loaded = new := by
  unfold patched
  split
  · next h => exact h.symm
  · rfl

lemma patched_or {β : Type} [DecidableEq β] (loaded new current : β) :
    patched loaded new current = current ∨ patched loaded new current = new := by
  unfold patched
  split
  · exact .inl rfl
  · exact .inr rfl

end ReadCommitted
