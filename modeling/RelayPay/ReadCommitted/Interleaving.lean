import Mathlib.Logic.Relation
import RelayPay.ReadCommitted.Program

/-! Processes that run transactions one statement at a time; a session sees committed state and its own writes. -/

namespace ReadCommitted

/-- In local state `l` a process runs the transaction `txn l`, or acts on the world outside. `handler` is where an abort
leaves it, `dbError` the errors the database itself may end a transaction with. -/
structure System (σ κ δ ε lam : Type) where
  txn : lam → Option (Txn σ κ δ ε lam)
  fire : δ → Txn σ κ Empty ε Unit
  handler : lam → ε → lam
  dbError : ε → Prop
  act : lam → σ → lam → σ → Prop
  env : σ → σ → Prop
  spawn : lam → Prop

structure Session (σ κ ε lam : Type) where
  body : Txn σ κ Empty ε lam
  own : σ → σ
  held : List κ

structure Process (σ κ ε lam : Type) where
  loc : lam
  session : Option (Session σ κ ε lam)

structure Config (σ κ ε lam : Type) where
  shared : σ
  procs : List (Process σ κ ε lam)

variable {σ κ δ ε lam : Type}

def Process.held (P : Process σ κ ε lam) : List κ := P.session.elim [] Session.held

def Config.put (c : Config σ κ ε lam) (i : ℕ) (P : Process σ κ ε lam) : Config σ κ ε lam :=
  { c with procs := c.procs.set i P }

def Config.Free (c : Config σ κ ε lam) (i : ℕ) (k : κ) : Prop :=
  ∀ (j : ℕ) (P : Process σ κ ε lam), j ≠ i → c.procs[j]? = some P → k ∉ P.held

/-- One statement of a session. A blocked `lock` has no step; a contended `tryLock` skips. -/
inductive Session.Step (free : κ → Prop) (s : σ) : Session σ κ ε lam → Session σ κ ε lam → Prop
  | read {next own held} : Step free s ⟨.read next, own, held⟩ ⟨next (own s), own, held⟩
  | lock {k next own held} : free k → Step free s ⟨.lock k next, own, held⟩ ⟨next, own, k :: held⟩
  | take {k next own held} : free k →
      Step free s ⟨.tryLock k next, own, held⟩ ⟨next true, own, k :: held⟩
  | skip {k next own held} : Step free s ⟨.tryLock k next, own, held⟩ ⟨next false, own, held⟩
  | write {f next own held} : Step free s ⟨.write f next, own, held⟩ ⟨next, f ∘ own, held⟩

inductive Step (S : System σ κ δ ε lam) : Config σ κ ε lam → Config σ κ ε lam → Prop
  | spawn {c l} : S.spawn l → Step S c { c with procs := c.procs ++ [⟨l, none⟩] }
  | start {c i l t} : c.procs[i]? = some ⟨l, none⟩ → S.txn l = some t →
      Step S c (c.put i ⟨l, some ⟨t.atCommit S.fire [], id, []⟩⟩)
  | statement {c i l b b'} : c.procs[i]? = some ⟨l, some b⟩ → b.Step (c.Free i) c.shared b' →
      Step S c (c.put i ⟨l, some b'⟩)
  | commit {c i l l' own held} : c.procs[i]? = some ⟨l, some ⟨.done l', own, held⟩⟩ →
      Step S c ⟨own c.shared, c.procs.set i ⟨l', none⟩⟩
  | abort {c i l e own held} : c.procs[i]? = some ⟨l, some ⟨.raise e, own, held⟩⟩ →
      Step S c (c.put i ⟨S.handler l e, none⟩)
  | dbAbort {c i l b e} : c.procs[i]? = some ⟨l, some b⟩ → S.dbError e →
      Step S c (c.put i ⟨S.handler l e, none⟩)
  | crash {c i} : Step S c { c with procs := c.procs.eraseIdx i }
  | act {c i l l' s'} : c.procs[i]? = some ⟨l, none⟩ → S.act l c.shared l' s' →
      Step S c ⟨s', c.procs.set i ⟨l', none⟩⟩
  | env {c s'} : S.env c.shared s' → Step S c { c with shared := s' }

def Reach (S : System σ κ δ ε lam) : Config σ κ ε lam → Config σ κ ε lam → Prop :=
  Relation.ReflTransGen (Step S)

def ReachBy (S : System σ κ δ ε lam) (R : Config σ κ ε lam → Config σ κ ε lam → Prop) :
    Config σ κ ε lam → Config σ κ ε lam → Prop :=
  Relation.ReflTransGen fun c c' => Step S c c' ∧ R c c'

variable {c c' : Config σ κ ε lam}

lemma ReachBy.reach {R : Config σ κ ε lam → Config σ κ ε lam → Prop} (h : ReachBy S R c c') : Reach S c c' := by
  induction h with
  | refl => exact .refl
  | tail _ hstep ih => exact ih.tail hstep.1

def ReachWithin (S : System σ κ δ ε lam) (P : σ → Prop) : Config σ κ ε lam → Config σ κ ε lam → Prop :=
  Relation.ReflTransGen fun c c' => Step S c c' ∧ P c'.shared

lemma ReachWithin.reach {P : σ → Prop} (h : ReachWithin S P c c') : Reach S c c' := by
  induction h with
  | refl => exact .refl
  | tail _ hstep ih => exact ih.tail hstep.1

lemma ReachWithin.mono {P Q : σ → Prop} {S : System σ κ δ ε lam}
    (h : ReachWithin S P c c') (hPQ : ∀ s, P s → Q s) : ReachWithin S Q c c' := by
  induction h with
  | refl => exact .refl
  | tail _ hstep ih => exact ih.tail ⟨hstep.1, hPQ _ hstep.2⟩

def Config.idle (s : σ) : Config σ κ ε lam := ⟨s, []⟩

lemma Reach.crashes (S : System σ κ δ ε lam) (s : σ) (procs : List (Process σ κ ε lam)) :
    Reach S ⟨s, procs⟩ (.idle s) := by
  induction procs with
  | nil => exact .refl
  | cons P procs ih =>
    have hstep : Step S ⟨s, P :: procs⟩ ⟨s, procs⟩ := .crash (i := 0)
    exact .head hstep ih

def Config.locs (c : Config σ κ ε lam) : List lam := c.procs.map Process.loc

def Exclusive (c : Config σ κ ε lam) : Prop :=
  ∀ (i j : ℕ) (P Q : Process σ κ ε lam) (k : κ), i ≠ j → c.procs[i]? = some P →
    c.procs[j]? = some Q → k ∈ P.held → k ∉ Q.held

lemma Config.locs_put (c : Config σ κ ε lam) (i : ℕ) (P : Process σ κ ε lam) :
    (c.put i P).locs = c.locs.set i P.loc := by
  simp [Config.locs, Config.put, List.map_set]

variable {P : Process σ κ ε lam} {i : ℕ}

lemma Config.locs_get (h : c.procs[i]? = some P) : c.locs[i]? = some P.loc := by
  simp [Config.locs, h]

lemma Config.put_get (h : c.procs[i]? = some P) (Q : Process σ κ ε lam) : (c.put i Q).procs[i]? = some Q := by
  have hi : i < c.procs.length := (List.getElem?_eq_some_iff.1 h).1
  simp [Config.put, hi]

lemma Config.put_get_cases {j : ℕ} {Q : Process σ κ ε lam}
    (h : (c.put i P).procs[j]? = some Q) : (j = i ∧ Q = P) ∨ (j ≠ i ∧ c.procs[j]? = some Q) := by
  simp only [Config.put, List.getElem?_set] at h
  split at h
  · split at h
    · exact .inl ⟨by omega, (Option.some.inj h).symm⟩
    · cases h
  · exact .inr ⟨by omega, h⟩

lemma Session.Step.held_cases {free : κ → Prop} {s : σ} {b b' : Session σ κ ε lam}
    (h : b.Step free s b') : b'.held = b.held ∨ ∃ k, free k ∧ b'.held = k :: b.held := by
  cases h with
  | read => exact .inl rfl
  | lock hk => exact .inr ⟨_, hk, rfl⟩
  | take hk => exact .inr ⟨_, hk, rfl⟩
  | skip => exact .inl rfl
  | write => exact .inl rfl

lemma Exclusive.put_of_subset (hc : Exclusive c) (hP : ∀ k ∈ P.held, c.Free i k) : Exclusive (c.put i P) := by
  intro a b A B k hab ha hb hA hB
  rcases Config.put_get_cases ha with ⟨rfl, rfl⟩ | ⟨hai, ha'⟩
  · rcases Config.put_get_cases hb with ⟨rfl, -⟩ | ⟨hbi, hb'⟩
    · exact hab rfl
    · exact hP k hA b B hbi hb' hB
  · rcases Config.put_get_cases hb with ⟨rfl, rfl⟩ | ⟨hbi, hb'⟩
    · exact hP k hB a A hai ha' hA
    · exact hc a b A B k hab ha' hb' hA hB

lemma Exclusive.free (hc : Exclusive c) (h : c.procs[i]? = some P) : ∀ k ∈ P.held, c.Free i k :=
  fun k hk _ Q hj hQ => hc _ _ P Q k (Ne.symm hj) h hQ hk

lemma exclusive_idle (s : σ) : Exclusive (Config.idle s : Config σ κ ε lam) := by
  intro i j P Q k _ h
  simp [Config.idle] at h

lemma getElem?_of_eraseIdx {α : Type} {l : List α} {j : ℕ} {a : α}
    (h : (l.eraseIdx i)[j]? = some a) : l[if j < i then j else j + 1]? = some a := by
  rw [List.getElem?_eraseIdx] at h
  split <;> simp_all

lemma Step.exclusive {S : System σ κ δ ε lam} (h : Step S c c') (hc : Exclusive c) : Exclusive c' := by
  -- a process that ends its session or has none holds nothing
  have hnone : ∀ (i : ℕ) (l : lam), Exclusive (c.put i ⟨l, none⟩) := fun i l =>
    hc.put_of_subset fun k hk => by simp [Process.held] at hk
  cases h with
  | spawn _ =>
    intro i j P Q k hij hi hj hP hQ
    simp only [List.getElem?_append] at hi hj
    split at hi <;> split at hj
    · exact hc i j P Q k hij hi hj hP hQ
    · simp only [List.getElem?_singleton] at hj
      split at hj <;> simp_all [Process.held]
      subst hj; simp at hQ
    · simp only [List.getElem?_singleton] at hi
      split at hi <;> simp_all [Process.held]
      subst hi; simp at hP
    · simp only [List.getElem?_singleton] at hi
      split at hi <;> simp_all [Process.held]
      subst hi; simp at hP
  | start _ _ => exact hc.put_of_subset fun k hk => by simp [Process.held] at hk
  | statement hi hb =>
    refine hc.put_of_subset fun k hk => ?_
    rcases hb.held_cases with hh | ⟨k', hk', hh⟩
    · exact hc.free hi k (by simpa [Process.held, hh] using hk)
    · simp only [Process.held, Option.elim, hh, List.mem_cons] at hk
      rcases hk with rfl | hk
      · exact hk'
      · exact hc.free hi k hk
  | commit _ => exact hnone _ _
  | abort _ => exact hnone _ _
  | dbAbort _ _ => exact hnone _ _
  | crash =>
    intro i j P Q k hij hi hj
    refine hc _ _ P Q k ?_ (getElem?_of_eraseIdx hi) (getElem?_of_eraseIdx hj)
    split <;> split <;> omega
  | act _ _ => exact hnone _ _
  | env _ => exact hc

end ReadCommitted
