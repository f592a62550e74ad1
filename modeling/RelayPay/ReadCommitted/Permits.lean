import Mathlib.Algebra.GroupWithZero.Nat
import RelayPay.ReadCommitted.Reduction

/-! Assertions about a process that no other breaks, and actions that one process may take once. -/

namespace ReadCommitted

section Assertions

variable {σ κ δ ε lam : Type}

/-- `L` is what a process relies on in its local state, and `J` an invariant of the database: each
process keeps `J` and its own assertion, and breaks no other's. -/
structure Modular (D : Discipline σ κ) (S : System σ κ δ ε lam) (I J : σ → Prop)
    (L : lam → σ → Prop) : Prop where
  spawn : ∀ {l s}, S.spawn l → L l s
  commit : ∀ {s l t l' y}, I s → J s → L l s → S.txn l = some t →
    Eval D s (t.atCommit S.fire []) .init (.ok l') y →
    J (y.own s) ∧ L l' (y.own s) ∧ ∀ m, L m s → L m (y.own s)
  fail : ∀ {l e s}, L l s → L (S.handler l e) s
  act : ∀ {l s l' s'}, I s → J s → L l s → S.act l s l' s' → J s' ∧ L l' s' ∧ ∀ m, L m s → L m s'
  env : ∀ {s s'}, I s → J s → S.env s s' → J s' ∧ ∀ m, L m s → L m s'

variable {D : Discipline σ κ} {S : System σ κ δ ε lam} {I J : σ → Prop} {L : lam → σ → Prop}

lemma Modular.set {s s' : σ} {ls : List lam} {i : ℕ} {l' : lam} (hl' : L l' s')
    (hkeep : ∀ m, L m s → L m s') (hls : ∀ l ∈ ls, L l s) : ∀ l ∈ ls.set i l', L l s' := by
  intro l hl
  rcases List.mem_or_eq_of_mem_set hl with hold | rfl
  · exact hkeep l (hls l hold)
  · exact hl'

lemma Modular.step (hM : Modular D S I J L) {a a' : σ × List lam} (h : AStep D S a a') (hI : I a.1)
    (hJ : J a.1) (hL : ∀ l ∈ a.2, L l a.1) : J a'.1 ∧ ∀ l ∈ a'.2, L l a'.1 := by
  cases h with
  | spawn hl =>
    refine ⟨hJ, fun l hmem => ?_⟩
    rcases List.mem_append.1 hmem with hold | hnew
    · exact hL l hold
    · rw [List.mem_singleton.1 hnew]
      exact hM.spawn hl
  | commit hi ht he =>
    obtain ⟨hJ', hl', hkeep⟩ := hM.commit hI hJ (hL _ (List.mem_of_getElem? hi)) ht he
    exact ⟨hJ', Modular.set hl' hkeep hL⟩
  | fail hi _ _ =>
    exact ⟨hJ, Modular.set (hM.fail (hL _ (List.mem_of_getElem? hi))) (fun _ hm => hm) hL⟩
  | crash => exact ⟨hJ, fun l hl => hL l (List.mem_of_mem_eraseIdx hl)⟩
  | act hi ha =>
    obtain ⟨hJ', hl', hkeep⟩ := hM.act hI hJ (hL _ (List.mem_of_getElem? hi)) ha
    exact ⟨hJ', Modular.set hl' hkeep hL⟩
  | env he =>
    obtain ⟨hJ', hkeep⟩ := hM.env hI hJ he
    exact ⟨hJ', fun l hl => hkeep l (hL l hl)⟩

theorem Modular.reach (hM : Modular D S I J L) (hS : Disciplined D S I) {a a' : σ × List lam}
    (h : AReach D S a a') (hI : I a.1) (hJ : J a.1) (hL : ∀ l ∈ a.2, L l a.1) : J a'.1 ∧ ∀ l ∈ a'.2, L l a'.1 := by
  induction h with
  | refl => exact ⟨hJ, hL⟩
  | tail hreach hstep ih => exact hM.step hstep (AReach.invariant hS hreach hI) ih.1 ih.2

theorem Modular.within {P : σ → Prop} (hM : Modular D S (fun s => I s ∧ P s) J L)
    (hS : Disciplined D S I) {s : σ} {c : Config σ κ ε lam} (h : ReachWithin S P (.idle s) c) (hI : I s)
    (hP : P s) (hJ : J s) : J c.shared ∧ ∀ l ∈ c.locs, L l c.shared := by
  -- carried along: the property of the state that was left, so that the step into the next one may use it
  have hrun : P c.shared ∧ J c.shared ∧ ∀ l ∈ c.locs, L l c.shared := by
    induction h with
    | refl => exact ⟨hP, hJ, by simp [Config.idle, Config.locs]⟩
    | tail hreach hstep ih =>
      obtain ⟨hP', hJ', hL'⟩ := ih
      have hreach' := ReachWithin.reach hreach
      have hI' := (hreach'.atomic hS hI).invariant hS hI
      refine ⟨hstep.2, ?_⟩
      rcases hreach'.next hS hI hstep.1 with ⟨hshared, hlocs⟩ | hastep
      · rw [hshared, hlocs]
        exact ⟨hJ', hL'⟩
      · exact hM.step hastep ⟨hI', hP'⟩ hJ' hL'
  exact hrun.2

end Assertions

/-! A commit issues the permit for an action, a process carries it, the action spends it, and a crash loses it. -/

structure Permits (σ lam ι : Type) where
  holds : lam → Option ι
  issued : σ → ι → Prop
  spent : σ → ι → ℕ

variable {σ κ δ ε lam ι : Type} [DecidableEq ι]

namespace Permits

def has (P : Permits σ lam ι) (l : lam) (k : ι) : ℕ := if P.holds l = some k then 1 else 0

def holders (P : Permits σ lam ι) (ls : List lam) (k : ι) : ℕ := (ls.map fun l => P.has l k).sum

structure Moves (P : Permits σ lam ι) (l : lam) (s : σ) (l' : lam) (s' : σ) : Prop where
  issued : ∀ k, P.issued s k → P.issued s' k
  count : ∀ k, P.has l' k + P.spent s' k ≤ P.has l k + P.spent s k ∨
    (¬P.issued s k ∧ P.issued s' k ∧ P.has l' k + P.spent s' k ≤ P.has l k + P.spent s k + 1)

structure Kept (P : Permits σ lam ι) (D : Discipline σ κ) (S : System σ κ δ ε lam)
    (I : σ → Prop) : Prop where
  spawn : ∀ {l}, S.spawn l → P.holds l = none
  commit : ∀ {s l t l' y}, I s → S.txn l = some t →
    Eval D s (t.atCommit S.fire []) .init (.ok l') y → P.Moves l s l' (y.own s)
  fail : ∀ l e, P.holds (S.handler l e) = none
  act : ∀ {l s l' s'}, I s → S.act l s l' s' → P.Moves l s l' s'
  env : ∀ {s s'}, I s → S.env s s' →
    ∀ k, (P.issued s k → P.issued s' k) ∧ P.spent s' k = P.spent s k

def Once (P : Permits σ lam ι) (a : σ × List lam) : Prop :=
  ∀ k, P.holders a.2 k + P.spent a.1 k ≤ 1 ∧
    (0 < P.holders a.2 k + P.spent a.1 k → P.issued a.1 k)

variable {P : Permits σ lam ι} {D : Discipline σ κ} {S : System σ κ δ ε lam} {I : σ → Prop}

lemma has_eq_zero {l : lam} (h : P.holds l = none) (k : ι) : P.has l k = 0 := by
  simp [has, h]

lemma has_le_one (l : lam) (k : ι) : P.has l k ≤ 1 := by
  unfold has
  split <;> omega

lemma none_le {l l' : lam} {k : ι} (h : P.holds l' = none) (n : ℕ) : P.has l' k + n ≤ P.has l k + n := by
  rw [has_eq_zero h]
  omega

lemma holders_append (ls : List lam) (l : lam) (k : ι) : P.holders (ls ++ [l]) k = P.holders ls k + P.has l k := by
  simp [holders]

lemma holders_set {ls : List lam} {i : ℕ} {l : lam} (h : ls[i]? = some l) (l' : lam) (k : ι) :
    P.holders (ls.set i l') k + P.has l k = P.holders ls k + P.has l' k := by
  induction ls generalizing i with
  | nil => simp at h
  | cons x ls ih =>
    cases i with
    | zero =>
      cases h
      simp [holders]
      omega
    | succ i =>
      have hrest := ih h
      simp only [holders, List.set_cons_succ, List.map_cons, List.sum_cons] at hrest ⊢
      omega

lemma holders_eraseIdx (ls : List lam) (i : ℕ) (k : ι) : P.holders (ls.eraseIdx i) k ≤ P.holders ls k := by
  induction ls generalizing i with
  | nil => simp
  | cons x ls ih =>
    cases i with
    | zero => simp [holders]
    | succ i =>
      have hrest := ih i
      simp only [holders, List.eraseIdx_cons_succ, List.map_cons, List.sum_cons] at hrest ⊢
      omega

lemma has_le_holders {ls : List lam} {l : lam} (h : l ∈ ls) (k : ι) : P.has l k ≤ P.holders ls k := by
  induction h with
  | head _ =>
    simp [holders]
  | tail _ _ ih =>
    simp only [holders, List.map_cons, List.sum_cons] at ih ⊢
    omega

lemma Once.moves {s s' : σ} {ls : List lam} (ho : P.Once (s, ls)) {i : ℕ} {l l' : lam}
    (hi : ls[i]? = some l) (h : P.Moves l s l' s') : P.Once (s', ls.set i l') := by
  intro k
  obtain ⟨hle, hissued⟩ := ho k
  have hset := P.holders_set hi l' k
  dsimp only at hle hissued ⊢
  rcases h.count k with hcount | ⟨hnot, hnew, hcount⟩
  · constructor
    · omega
    · intro hpos
      exact h.issued k (hissued (by omega))
  · -- nobody held or spent a permit that was not issued
    have hzero : ¬0 < P.holders ls k + P.spent s k := fun hpos => hnot (hissued hpos)
    exact ⟨by omega, fun _ => hnew⟩

lemma Once.step (hP : P.Kept D S I) {a a' : σ × List lam} (h : AStep D S a a') (hI : I a.1)
    (ho : P.Once a) : P.Once a' := by
  cases h with
  | @spawn s ls l hl =>
    intro k
    have hsame : P.holders (ls ++ [l]) k = P.holders ls k := by
      rw [holders_append, has_eq_zero (hP.spawn hl), Nat.add_zero]
    simpa only [hsame] using ho k
  | commit hi ht he => exact ho.moves hi (hP.commit hI ht he)
  | @fail s ls i l t e hi ht _ =>
    refine ho.moves hi ⟨fun _ hissued => hissued, fun k => .inl ?_⟩
    rw [has_eq_zero (hP.fail l e)]
    omega
  | @crash s ls i =>
    intro k
    obtain ⟨hle, hissued⟩ := ho k
    have herase := P.holders_eraseIdx ls i k
    dsimp only at hle hissued ⊢
    exact ⟨by omega, fun hpos => hissued (by omega)⟩
  | act hi ha => exact ho.moves hi (hP.act hI ha)
  | env he =>
    intro k
    obtain ⟨hissued, hspent⟩ := hP.env hI he k
    obtain ⟨hle, hold⟩ := ho k
    dsimp only at hle hold ⊢
    rw [hspent]
    exact ⟨hle, fun hpos => hissued (hold hpos)⟩

theorem Once.reach (hS : Disciplined D S I) (hP : P.Kept D S I) {a a' : σ × List lam}
    (h : AReach D S a a') (hI : I a.1) (ho : P.Once a) : P.Once a' := by
  induction h with
  | refl => exact ho
  | tail hreach hstep ih => exact Once.step hP hstep (AReach.invariant hS hreach hI) ih

end Permits

end ReadCommitted
