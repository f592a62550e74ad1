import Mathlib.Data.List.InsertIdx
import RelayPay.ReadCommitted.Interleaving

/-! Every interleaving is a run of whole transactions, if locks protect frames: relations no other commit breaks. -/

namespace ReadCommitted

variable {σ κ δ ε lam α : Type}

structure Discipline (σ κ : Type) where
  frame : κ → σ → σ → Prop
  evolves : σ → σ → Prop
  frame_refl : ∀ k s, frame k s s
  frame_trans : ∀ k s₁ s₂ s₃, frame k s₁ s₂ → frame k s₂ s₃ → frame k s₁ s₃
  evolves_refl : ∀ s, evolves s s
  evolves_trans : ∀ s₁ s₂ s₃, evolves s₁ s₂ → evolves s₂ s₃ → evolves s₁ s₃

namespace Discipline

variable (D : Discipline σ κ)

def view (held : List κ) (s₀ s : σ) : Prop := D.evolves s₀ s ∧ ∀ k ∈ held, D.frame k s₀ s

def Keeps (held : List κ) (s s' : σ) : Prop := D.evolves s s' ∧ ∀ k, k ∉ held → D.frame k s s'

lemma view_refl (held : List κ) (s : σ) : D.view held s s :=
  ⟨D.evolves_refl s, fun k _ => D.frame_refl k s⟩

variable {D}

lemma view.trans {held : List κ} {s₁ s₂ s₃ : σ} (h : D.view held s₁ s₂) (h' : D.view held s₂ s₃) : D.view held s₁ s₃ :=
  ⟨D.evolves_trans _ _ _ h.1 h'.1, fun k hk => D.frame_trans k _ _ _ (h.2 k hk) (h'.2 k hk)⟩

lemma view.anti {held held' : List κ} {s₁ s₂ : σ} (h : D.view held' s₁ s₂)
    (hsub : ∀ k ∈ held, k ∈ held') : D.view held s₁ s₂ :=
  ⟨h.1, fun k hk => h.2 k (hsub k hk)⟩

lemma Keeps.view {held held' : List κ} {s s' : σ} (h : D.Keeps held s s')
    (hdis : ∀ k ∈ held', k ∉ held) : D.view held' s s' :=
  ⟨h.1, fun k hk => h.2 k (hdis k hk)⟩

end Discipline

/-- What a transaction has accumulated: its uncommitted writes as a function of the
committed state, the locks it holds and its queue of deferred triggers. -/
structure Pending (σ κ δ : Type) where
  own : σ → σ
  held : List κ
  queue : List δ

namespace Pending

def init : Pending σ κ δ := ⟨id, [], []⟩
def hold (x : Pending σ κ δ) (k : κ) : Pending σ κ δ := { x with held := k :: x.held }
def apply (x : Pending σ κ δ) (f : σ → σ) : Pending σ κ δ := { x with own := f ∘ x.own }
def push (x : Pending σ κ δ) (ds : List δ) : Pending σ κ δ := { x with queue := x.queue ++ ds }

variable (x : Pending σ κ δ) (k : κ) (f : σ → σ) (ds : List δ)

@[simp] lemma init_own : (init : Pending σ κ δ).own = id := rfl
@[simp] lemma init_held : (init : Pending σ κ δ).held = [] := rfl
@[simp] lemma init_queue : (init : Pending σ κ δ).queue = [] := rfl
@[simp] lemma hold_own : (x.hold k).own = x.own := rfl
@[simp] lemma hold_held : (x.hold k).held = k :: x.held := rfl
@[simp] lemma hold_queue : (x.hold k).queue = x.queue := rfl
@[simp] lemma apply_own (s : σ) : (x.apply f).own s = f (x.own s) := rfl
@[simp] lemma apply_held : (x.apply f).held = x.held := rfl
@[simp] lemma apply_queue : (x.apply f).queue = x.queue := rfl
@[simp] lemma push_own : (x.push ds).own = x.own := rfl
@[simp] lemma push_held : (x.push ds).held = x.held := rfl
@[simp] lemma push_queue : (x.push ds).queue = x.queue ++ ds := rfl

end Pending

variable (D : Discipline σ κ)

inductive Eval (s : σ) : Txn σ κ δ ε α → Pending σ κ δ → Except ε α → Pending σ κ δ → Prop
  | done {a x} : Eval s (.done a) x (.ok a) x
  | raise {e x} : Eval s (.raise e) x (.error e) x
  | read {next x s₀ r y} : D.view x.held s₀ s → Eval s (next (x.own s₀)) x r y →
      Eval s (.read next) x r y
  | lock {k next x r y} : Eval s next (x.hold k) r y → Eval s (.lock k next) x r y
  | take {k next x r y} : Eval s (next true) (x.hold k) r y → Eval s (.tryLock k next) x r y
  | skip {k next x r y} : Eval s (next false) x r y → Eval s (.tryLock k next) x r y
  | write {f next x r y} : Eval s next (x.apply f) r y → Eval s (.write f next) x r y
  | defer {d next x r y} : Eval s next (x.push [d]) r y → Eval s (.defer d next) x r y

variable {D}

inductive AStep (D : Discipline σ κ) (S : System σ κ δ ε lam) : σ × List lam → σ × List lam → Prop
  | spawn {s ls l} : S.spawn l → AStep D S (s, ls) (s, ls ++ [l])
  | commit {s ls i l t l' y} : ls[i]? = some l → S.txn l = some t →
      Eval D s (t.atCommit S.fire []) .init (.ok l') y → AStep D S (s, ls) (y.own s, ls.set i l')
  | fail {s ls i l t e} : ls[i]? = some l → S.txn l = some t →
      (S.dbError e ∨ ∃ y, Eval D s (t.atCommit S.fire []) .init (.error e) y) →
      AStep D S (s, ls) (s, ls.set i (S.handler l e))
  | crash {s ls i} : AStep D S (s, ls) (s, ls.eraseIdx i)
  | act {s ls i l l' s'} : ls[i]? = some l → S.act l s l' s' → AStep D S (s, ls) (s', ls.set i l')
  | env {s ls s'} : S.env s s' → AStep D S (s, ls) (s', ls)

def AReach (D : Discipline σ κ) (S : System σ κ δ ε lam) : σ × List lam → σ × List lam → Prop :=
  Relation.ReflTransGen (AStep D S)

/-- Where the invariant `I` holds, commits keep it and every frame they hold no lock for; what
happens outside transactions keeps all frames. -/
structure Disciplined (D : Discipline σ κ) (S : System σ κ δ ε lam) (I : σ → Prop) : Prop where
  commit : ∀ {s l t l' y}, I s → S.txn l = some t →
    Eval D s (t.atCommit S.fire []) .init (.ok l') y → D.Keeps y.held s (y.own s) ∧ I (y.own s)
  act : ∀ {l s l' s'}, I s → S.act l s l' s' → D.Keeps [] s s' ∧ I s'
  env : ∀ {s s'}, I s → S.env s s' → D.Keeps [] s s' ∧ I s'

def Process.Tracked (D : Discipline σ κ) (S : System σ κ δ ε lam) (s₀ : σ)
    (P : Process σ κ ε lam) : Prop :=
  ∀ b, P.session = some b → ∃ t, S.txn P.loc = some t ∧
    ∀ s r y, D.view b.held s₀ s → Eval D s b.body ⟨b.own, b.held, []⟩ r y →
      Eval D s (t.atCommit S.fire []) .init r y

def Tracked (D : Discipline σ κ) (S : System σ κ δ ε lam) (c : Config σ κ ε lam) : Prop :=
  ∀ (i : ℕ) (P : Process σ κ ε lam), c.procs[i]? = some P → P.Tracked D S c.shared

section

variable {S : System σ κ δ ε lam} {I : σ → Prop} {c c' : Config σ κ ε lam}

lemma Process.Tracked.none (s₀ : σ) (l : lam) : Process.Tracked D S s₀ ⟨l, none⟩ :=
  fun _ hb => nomatch hb

lemma Process.Tracked.view {s₀ s₁ : σ} {P : Process σ κ ε lam} (h : P.Tracked D S s₀)
    (hv : D.view P.held s₀ s₁) : P.Tracked D S s₁ := by
  intro b hb
  obtain ⟨t, ht, htr⟩ := h b hb
  have hheld : P.held = b.held := by simp [Process.held, hb]
  rw [hheld] at hv
  exact ⟨t, ht, fun s r y hs he => htr s r y (hv.trans hs) he⟩

lemma Process.Tracked.statement {s₀ : σ} {l : lam} {b b' : Session σ κ ε lam} {free : κ → Prop}
    (h : Process.Tracked D S s₀ ⟨l, some b⟩) (hb : b.Step free s₀ b') : Process.Tracked D S s₀ ⟨l, some b'⟩ := by
  intro b₁ hb₁
  obtain rfl : b' = b₁ := Option.some.inj hb₁
  obtain ⟨t, ht, htr⟩ := h b rfl
  refine ⟨t, ht, fun s r y hv he => ?_⟩
  cases hb with
  | read => exact htr s r y hv (.read hv he)
  | lock _ => exact htr s r y (hv.anti fun k hk => List.mem_cons_of_mem _ hk) (.lock he)
  | take _ => exact htr s r y (hv.anti fun k hk => List.mem_cons_of_mem _ hk) (.take he)
  | skip => exact htr s r y hv (.skip he)
  | write => exact htr s r y hv (.write he)

lemma Tracked.set {s' : σ} {i : ℕ} {P' : Process σ κ ε lam} (h : Tracked D S c)
    (hother : ∀ (j : ℕ) (P : Process σ κ ε lam), j ≠ i → c.procs[j]? = some P →
      D.view P.held c.shared s') (hP : P'.Tracked D S s') : Tracked D S ⟨s', c.procs.set i P'⟩ := by
  intro j P hj
  rcases Config.put_get_cases (c := c) hj with ⟨-, rfl⟩ | ⟨hji, hj'⟩
  · exact hP
  · exact (h j P hj').view (hother j P hji hj')

lemma Tracked.put {i : ℕ} {P' : Process σ κ ε lam} (h : Tracked D S c)
    (hP : P'.Tracked D S c.shared) : Tracked D S (c.put i P') :=
  h.set (fun _ P _ _ => D.view_refl P.held c.shared) hP

lemma Process.Tracked.finish {l : lam} {b : Session σ κ ε lam} {r : Except ε lam} {s : σ}
    (h : Process.Tracked D S s ⟨l, some b⟩) (he : Eval D s b.body ⟨b.own, b.held, []⟩ r ⟨b.own, b.held, []⟩) :
    ∃ t, S.txn l = some t ∧ Eval D s (t.atCommit S.fire []) .init r ⟨b.own, b.held, []⟩ := by
  obtain ⟨t, ht, htr⟩ := h b rfl
  exact ⟨t, ht, htr s r _ (D.view_refl _ _) he⟩

lemma Step.tracked (hS : Disciplined D S I) (h : Step S c c') (hx : Exclusive c)
    (hI : I c.shared) (hc : Tracked D S c) : Tracked D S c' := by
  cases h with
  | spawn _ =>
    intro i P hi
    simp only [List.getElem?_append, List.getElem?_singleton] at hi
    split at hi
    · exact hc i P hi
    · split at hi
      · obtain rfl := Option.some.inj hi
        exact Process.Tracked.none _ _
      · cases hi
  | start _ ht =>
    refine hc.put fun b hb => ?_
    obtain rfl := Option.some.inj hb
    exact ⟨_, ht, fun s r y _ he => he⟩
  | statement hi hb => exact hc.put ((hc _ _ hi).statement hb)
  | commit hi =>
    obtain ⟨t, ht, he⟩ := (hc _ _ hi).finish .done
    have hk := (hS.commit hI ht he).1
    refine hc.set (fun j P hj hP => hk.view fun k hkP => ?_) (Process.Tracked.none _ _)
    exact hx j _ P _ k hj hP hi hkP
  | abort _ => exact hc.put (Process.Tracked.none _ _)
  | dbAbort _ _ => exact hc.put (Process.Tracked.none _ _)
  | crash => exact fun i P hi => hc _ P (getElem?_of_eraseIdx hi)
  | act hi ha =>
    have hk := (hS.act hI ha).1
    exact hc.set (fun j P _ _ => hk.view fun k _ => List.not_mem_nil) (Process.Tracked.none _ _)
  | env he =>
    have hk := (hS.env hI he).1
    exact fun i P hi => (hc i P hi).view (hk.view fun k _ => List.not_mem_nil)

lemma set_get_self {β : Type} {l : List β} {i : ℕ} {b : β} (h : l[i]? = some b) : l.set i b = l := by
  apply List.ext_getElem?
  intro j
  rw [List.getElem?_set]
  split
  · next hij =>
    subst hij
    split
    · exact h.symm
    · next hlen => rw [List.getElem?_eq_none (by omega)]
  · rfl

lemma Step.refines (h : Step S c c') (hc : Tracked D S c) : (c'.shared = c.shared ∧ c'.locs = c.locs) ∨
      AStep D S (c.shared, c.locs) (c'.shared, c'.locs) := by
  cases h with
  | @spawn l hl =>
    right
    have hstep : AStep D S (c.shared, c.locs) (c.shared, c.locs ++ [l]) := .spawn hl
    simpa [Config.locs] using hstep
  | start hi _ =>
    left
    exact ⟨rfl, by rw [Config.locs_put, set_get_self (Config.locs_get hi)]⟩
  | statement hi _ =>
    left
    exact ⟨rfl, by rw [Config.locs_put, set_get_self (Config.locs_get hi)]⟩
  | commit hi =>
    right
    obtain ⟨t, ht, he⟩ := (hc _ _ hi).finish .done
    have hstep := AStep.commit (Config.locs_get hi) ht he
    rwa [← Config.locs_put (P := ⟨_, none⟩)] at hstep
  | abort hi =>
    right
    obtain ⟨t, ht, he⟩ := (hc _ _ hi).finish .raise
    rw [Config.locs_put]
    exact AStep.fail (Config.locs_get hi) ht (.inr ⟨_, he⟩)
  | dbAbort hi he =>
    right
    obtain ⟨t, ht, -⟩ := hc _ _ hi _ rfl
    rw [Config.locs_put]
    exact AStep.fail (Config.locs_get hi) ht (.inl he)
  | @crash i =>
    right
    have hstep : AStep D S (c.shared, c.locs) (c.shared, c.locs.eraseIdx i) := .crash
    rwa [Config.locs, List.eraseIdx_map] at hstep
  | act hi ha =>
    right
    have hstep := AStep.act (D := D) (Config.locs_get hi) ha
    rwa [← Config.locs_put (P := ⟨_, none⟩)] at hstep
  | env he => exact .inr (.env he)

lemma AStep.invariant (hS : Disciplined D S I) {a a' : σ × List lam} (h : AStep D S a a') (hI : I a.1) : I a'.1 := by
  cases h with
  | spawn _ => exact hI
  | commit _ ht he => exact (hS.commit hI ht he).2
  | fail _ _ _ => exact hI
  | crash => exact hI
  | act _ ha => exact (hS.act hI ha).2
  | env he => exact (hS.env hI he).2

lemma AReach.invariant (hS : Disciplined D S I) {a a' : σ × List lam} (h : AReach D S a a') (hI : I a.1) : I a'.1 := by
  induction h with
  | refl => exact hI
  | tail _ hstep ih => exact hstep.invariant hS ih

lemma AStep.evolves (hS : Disciplined D S I) {a a' : σ × List lam} (h : AStep D S a a')
    (hI : I a.1) : D.evolves a.1 a'.1 := by
  cases h with
  | spawn _ => exact D.evolves_refl _
  | commit _ ht he => exact (hS.commit hI ht he).1.1
  | fail _ _ _ => exact D.evolves_refl _
  | crash => exact D.evolves_refl _
  | act _ ha => exact (hS.act hI ha).1.1
  | env he => exact (hS.env hI he).1.1

lemma AReach.evolves (hS : Disciplined D S I) {a a' : σ × List lam} (h : AReach D S a a')
    (hI : I a.1) : D.evolves a.1 a'.1 := by
  induction h with
  | refl => exact D.evolves_refl _
  | tail hreach hstep ih => exact D.evolves_trans _ _ _ ih (hstep.evolves hS (AReach.invariant hS hreach hI))

lemma Step.simulates (hS : Disciplined D S I) (h : Step S c c') (hI : I c.shared)
    (hx : Exclusive c) (hc : Tracked D S c) :
    AReach D S (c.shared, c.locs) (c'.shared, c'.locs) ∧ I c'.shared ∧ Exclusive c' ∧
      Tracked D S c' := by
  have hreach : AReach D S (c.shared, c.locs) (c'.shared, c'.locs) := by
    rcases h.refines hc with ⟨hs, hl⟩ | hastep
    · rw [hs, hl]
      exact .refl
    · exact .single hastep
  exact ⟨hreach, hreach.invariant hS hI, h.exclusive hx, h.tracked hS hx hI hc⟩

lemma Reach.simulates (hS : Disciplined D S I) (h : Reach S c c') (hI : I c.shared)
    (hx : Exclusive c) (hc : Tracked D S c) :
    AReach D S (c.shared, c.locs) (c'.shared, c'.locs) ∧ I c'.shared ∧ Exclusive c' ∧
      Tracked D S c' := by
  induction h with
  | refl => exact ⟨.refl, hI, hx, hc⟩
  | tail _ hstep ih =>
    obtain ⟨hreach, hI', hx', hc'⟩ := ih
    obtain ⟨hreach', hrest⟩ := hstep.simulates hS hI' hx' hc'
    exact ⟨hreach.trans hreach', hrest⟩

lemma tracked_idle (s : σ) : Tracked D S (Config.idle s) := fun i P hi => by
  simp [Config.idle] at hi

theorem Reach.atomic (hS : Disciplined D S I) {s : σ} (hI : I s) (h : Reach S (.idle s) c) :
    AReach D S (s, []) (c.shared, c.locs) :=
  (h.simulates hS hI (exclusive_idle s) (tracked_idle s)).1

theorem Reach.atomic_from (hS : Disciplined D S I) {s : σ} (hI : I s) (h : Reach S (.idle s) c)
    (h' : Reach S c c') : AReach D S (c.shared, c.locs) (c'.shared, c'.locs) := by
  obtain ⟨-, hI', hx, hc⟩ := h.simulates hS hI (exclusive_idle s) (tracked_idle s)
  exact (h'.simulates hS hI' hx hc).1

theorem Reach.next (hS : Disciplined D S I) {s : σ} (hI : I s) (h : Reach S (.idle s) c)
    (h' : Step S c c') : (c'.shared = c.shared ∧ c'.locs = c.locs) ∨
      AStep D S (c.shared, c.locs) (c'.shared, c'.locs) := by
  obtain ⟨-, -, -, hc⟩ := h.simulates hS hI (exclusive_idle s) (tracked_idle s)
  exact h'.refines hc

theorem Reach.raises (hS : Disciplined D S I) {s : σ} (hI : I s) (h : Reach S (.idle s) c) {i : ℕ}
    {l : lam} {e : ε} {own : σ → σ} {held : List κ} (hi : c.procs[i]? = some ⟨l, some ⟨.raise e, own, held⟩⟩) :
    ∃ t y, S.txn l = some t ∧ Eval D c.shared (t.atCommit S.fire []) .init (.error e) y := by
  obtain ⟨-, -, -, hc⟩ := h.simulates hS hI (exclusive_idle s) (tracked_idle s)
  obtain ⟨t, ht, he⟩ := (hc i _ hi).finish .raise
  exact ⟨t, _, ht, he⟩

end

end ReadCommitted
