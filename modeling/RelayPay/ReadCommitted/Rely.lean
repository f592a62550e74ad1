import RelayPay.ReadCommitted.Reduction
import RelayPay.ReadCommitted.Script

/-! Rely and guarantee for runs under a condition on who may stand side by side. -/

namespace ReadCommitted

variable {σ κ δ ε lam α β : Type}

namespace Discipline

def assuming (D : Discipline σ κ) (A : σ → Prop) : Discipline σ κ where
  frame := D.frame
  evolves s₀ s := D.evolves s₀ s ∧ (A s → A s₀)
  frame_refl := D.frame_refl
  frame_trans := D.frame_trans
  evolves_refl s := ⟨D.evolves_refl s, fun h => h⟩
  evolves_trans _ _ _ h h' := ⟨D.evolves_trans _ _ _ h.1 h'.1, fun ha => h.2 (h'.2 ha)⟩

lemma view.assuming {D : Discipline σ κ} {A : σ → Prop} {held : List κ} {s₀ s : σ} (h : D.view held s₀ s)
    (hA : A s₀) : (D.assuming A).view held s₀ s :=
  ⟨⟨h.1, fun _ => hA⟩, h.2⟩

def Saw (D : Discipline σ κ) (held : List κ) (s : σ) (p : σ → Prop) : Prop := ∃ s₀, D.view held s₀ s ∧ p s₀

lemma Saw.anti {D : Discipline σ κ} {held held' : List κ} {s : σ} {p : σ → Prop} (h : D.Saw held' s p)
    (hsub : held ⊆ held') : D.Saw held s p := by
  obtain ⟨s₀, hview, hp⟩ := h
  exact ⟨s₀, hview.anti fun k hk => hsub hk, hp⟩

end Discipline

namespace Txn

/-- Continued from `x` and committed on `s`, whatever its statements see, `t` raises only errors in
`E` and finishes only in `Q`. -/
def Closes (D : Discipline σ κ) (E : ε → Prop) (s : σ) :
    Txn σ κ δ ε α → (α → Pending σ κ δ → Prop) → Pending σ κ δ → Prop
  | done a, Q, x => Q a x
  | raise e, _, _ => E e
  | read next, Q, x => ∀ s₀, D.view x.held s₀ s → (next (x.own s₀)).Closes D E s Q x
  | lock k next, Q, x => next.Closes D E s Q (x.hold k)
  | tryLock k next, Q, x => (next true).Closes D E s Q (x.hold k) ∧ (next false).Closes D E s Q x
  | write f next, Q, x => next.Closes D E s Q (x.apply f)
  | defer d next, Q, x => next.Closes D E s Q (x.push [d])

variable {D : Discipline σ κ} {E : ε → Prop} {s : σ} {Q : α → Pending σ κ δ → Prop} {x : Pending σ κ δ}

lemma Closes.imp {Q' : α → Pending σ κ δ → Prop} {t : Txn σ κ δ ε α} (h : t.Closes D E s Q x)
    (hQ : ∀ a y, Q a y → Q' a y) : t.Closes D E s Q' x := by
  induction t generalizing x with
  | done a => exact hQ a x h
  | raise e => exact h
  | read next ih => exact fun s₀ hv => ih _ (h s₀ hv)
  | lock k next ih => exact ih h
  | tryLock k next ih => exact ⟨ih true h.1, ih false h.2⟩
  | write f next ih => exact ih h
  | defer d next ih => exact ih h

@[simp] lemma closes_done (a : α) : (done a : Txn σ κ δ ε α).Closes D E s Q x ↔ Q a x := Iff.rfl

@[simp] lemma closes_raise (e : ε) : (raise e : Txn σ κ δ ε α).Closes D E s Q x ↔ E e := Iff.rfl

@[simp] lemma closes_query (q : σ → α) : (query q : Txn σ κ δ ε α).Closes D E s Q x ↔
    ∀ s₀, D.view x.held s₀ s → Q (q (x.own s₀)) x := Iff.rfl

@[simp] lemma closes_acquire (k : κ) (Q : Unit → Pending σ κ δ → Prop) :
    (acquire k : Txn σ κ δ ε Unit).Closes D E s Q x ↔ Q () (x.hold k) := Iff.rfl

@[simp] lemma closes_attempt (k : κ) (Q : Bool → Pending σ κ δ → Prop) :
    (attempt k : Txn σ κ δ ε Bool).Closes D E s Q x ↔ Q true (x.hold k) ∧ Q false x := Iff.rfl

@[simp] lemma closes_modify (f : σ → σ) (Q : Unit → Pending σ κ δ → Prop) :
    (modify f : Txn σ κ δ ε Unit).Closes D E s Q x ↔ Q () (x.apply f) := Iff.rfl

@[simp] lemma closes_ensure (c : Prop) [Decidable c] (e : ε) (Q : Unit → Pending σ κ δ → Prop) :
    (ensure c e : Txn σ κ δ ε Unit).Closes D E s Q x ↔ (c → Q () x) ∧ (¬c → E e) := by
  by_cases h : c <;> simp [ensure, h]

@[simp] lemma closes_require (o : Option α) (e : ε) :
    (require o e : Txn σ κ δ ε α).Closes D E s Q x ↔ (∀ a, o = some a → Q a x) ∧ (o = none → E e) := by
  cases o <;> simp [require]

lemma closes_ite (c : Prop) [Decidable c] (t u : Txn σ κ δ ε α) :
    (if c then t else u).Closes D E s Q x ↔ (c → t.Closes D E s Q x) ∧ (¬c → u.Closes D E s Q x) := by
  by_cases h : c <;> simp [h]

@[simp] lemma closes_bind (t : Txn σ κ δ ε α) (f : α → Txn σ κ δ ε β) {Q : β → Pending σ κ δ → Prop} :
    (t >>= f).Closes D E s Q x ↔ t.Closes D E s (fun a y => (f a).Closes D E s Q y) x := by
  change (t.bind f).Closes D E s Q x ↔ _
  induction t generalizing x with
  | done a => rfl
  | raise e => rfl
  | read next ih => exact forall₂_congr fun s₀ _ => ih _
  | lock k next ih => exact ih
  | tryLock k next ih => exact and_congr (ih true) (ih false)
  | write g next ih => exact ih
  | defer d next ih => exact ih

lemma closes_forEach {f : β → Txn σ κ δ ε Unit} (I : List β → Pending σ κ δ → Prop)
    (hstep : ∀ b bs y, I (b :: bs) y → (f b).Closes D E s (fun _ y' => I bs y') y) :
    ∀ (bs : List β) (x : Pending σ κ δ), I bs x → (forEach f bs).Closes D E s (fun _ y => I [] y) x := by
  intro bs
  induction bs with
  | nil => exact fun x h => h
  | cons b bs ih =>
    intro x h
    rw [forEach, closes_bind]
    exact (hstep b bs x h).imp fun _ y hy => ih y hy

lemma closes_atCommit {fire : Empty → Txn σ κ Empty ε Unit} {t : Txn σ κ Empty ε α}
    {Q : α → Pending σ κ Empty → Prop} {x : Pending σ κ Empty} (h : t.Closes D E s Q x) :
    (t.atCommit fire []).Closes D E s Q x := by
  rwa [atCommit_empty]

end Txn

variable {s : σ}

lemma Eval.closes {D : Discipline σ κ} {t : Txn σ κ δ ε α} {x y : Pending σ κ δ} {r : Except ε α}
    {E : ε → Prop} {Q : α → Pending σ κ δ → Prop} (h : Eval D s t x r y) (hc : t.Closes D E s Q x) :
    (∀ a, r = .ok a → Q a y) ∧ ∀ e, r = .error e → E e := by
  induction h with
  | done =>
    constructor
    · rintro a ⟨⟩
      exact hc
    · rintro e ⟨⟩
  | raise =>
    constructor
    · rintro a ⟨⟩
    · rintro e ⟨⟩
      exact hc
  | read hv _ ih => exact ih (hc _ hv)
  | lock _ ih => exact ih hc
  | take _ ih => exact ih hc.1
  | skip _ ih => exact ih hc.2
  | write _ ih => exact ih hc
  | defer _ ih => exact ih hc

structure Setting (σ κ lam : Type) where
  beside : lam → List κ → lam → List κ → Prop
  allowed : σ → σ → Prop

def Setting.Apart (T : Setting σ κ lam) (c : Config σ κ ε lam) : Prop :=
  ∀ (i j : ℕ) (P Q : Process σ κ ε lam), i ≠ j → c.procs[i]? = some P → c.procs[j]? = some Q →
    T.beside P.loc P.held Q.loc Q.held

def ReachIn (T : Setting σ κ lam) (S : System σ κ δ ε lam) : Config σ κ ε lam → Config σ κ ε lam → Prop :=
  Relation.ReflTransGen fun c c' => Step S c c' ∧ T.Apart c' ∧ T.allowed c.shared c'.shared

lemma ReachIn.reach {T : Setting σ κ lam} {S : System σ κ δ ε lam} {c c' : Config σ κ ε lam}
    (h : ReachIn T S c c') : Reach S c c' := by
  induction h with
  | refl => exact .refl
  | tail _ hstep ih => exact ih.tail hstep.1

def Setting.free : Setting σ κ lam := ⟨fun _ _ _ _ => True, fun _ _ => True⟩

lemma Reach.free {S : System σ κ δ ε lam} {c c' : Config σ κ ε lam} (h : Reach S c c') : ReachIn .free S c c' := by
  induction h with
  | refl => exact .refl
  | tail _ hstep ih => exact ih.tail ⟨hstep, fun _ _ _ _ _ _ _ => trivial, trivial⟩

section Rule

variable (T : Setting σ κ lam) (D : lam → Discipline σ κ) (S : System σ κ δ ε lam) (G : σ → σ → Prop)
  (J : σ → Prop) (L : lam → σ → Prop)

structure Other (l : lam) (held : List κ) (m : lam) (hs : List κ) : Prop where
  left : T.beside l held m hs
  right : T.beside m hs l held
  locks : ∀ k ∈ hs, k ∉ held

def Guarantees (l : lam) (held : List κ) (l' : lam) (s s' : σ) : Prop :=
  ∀ m hs, Other T l held m hs → Other T l' [] m hs → L m s → (D m).view hs s s' ∧ L m s'

lemma guarantees_of_keeps {D : Discipline σ κ} {l l' : lam} {held : List κ} {s' : σ} (h : D.Keeps held s s')
    (hL : ∀ m, L m s → L m s') : Guarantees T (fun _ => D) L l held l' s s' :=
  fun m _ hother _ hm => ⟨h.view hother.locks, hL m hm⟩

/-- `J` is kept, the assertion `L l` of a process holds where it stands, and every step is in `G`. -/
structure Relies : Prop where
  grows_refl : ∀ s, G s s
  grows_trans : ∀ {s₁ s₂ s₃}, G s₁ s₂ → G s₂ s₃ → G s₁ s₃
  spawn : ∀ {l s}, J s → S.spawn l → L l s
  commit : ∀ {s l t l' y}, J s → L l s → S.txn l = some t →
    Eval ((D l).assuming fun s => J s ∧ L l s) s (t.atCommit S.fire []) .init (.ok l') y →
    T.allowed s (y.own s) →
    G s (y.own s) ∧ J (y.own s) ∧ L l' (y.own s) ∧ Guarantees T D L l y.held l' s (y.own s)
  fail : ∀ {s l e}, J s → L l s → L (S.handler l e) s
  act : ∀ {s l l' s'}, J s → L l s → S.act l s l' s' → T.allowed s s' →
    G s s' ∧ J s' ∧ L l' s' ∧ Guarantees T D L l [] l' s s'
  env : ∀ {s s'}, J s → S.env s s' → T.allowed s s' →
    G s s' ∧ J s' ∧ ∀ m hs, L m s → (D m).view hs s s' ∧ L m s'

structure Standing (c : Config σ κ ε lam) : Prop where
  apart : T.Apart c
  exclusive : Exclusive c
  inv : J c.shared
  local_ : ∀ (i : ℕ) (P : Process σ κ ε lam), c.procs[i]? = some P → L P.loc c.shared
  tracked : ∀ (i : ℕ) (P : Process σ κ ε lam), c.procs[i]? = some P →
    P.Tracked ((D P.loc).assuming fun s => J s ∧ L P.loc s) S c.shared

variable {T D S G J L} {c c' : Config σ κ ε lam}

lemma standing_idle (hJ : J s) : Standing T D S J L (Config.idle s : Config σ κ ε lam) where
  apart i j P Q _ hi := by simp [Config.idle] at hi
  exclusive := exclusive_idle s
  inv := hJ
  local_ i P hi := by simp [Config.idle] at hi
  tracked i P hi := by simp [Config.idle] at hi

lemma Standing.put (h : Standing T D S J L c) {i : ℕ} {P' : Process σ κ ε lam} (hapart : T.Apart (c.put i P'))
    (hexclusive : Exclusive (c.put i P')) (hlocal : L P'.loc c.shared)
    (htracked : P'.Tracked ((D P'.loc).assuming fun s => J s ∧ L P'.loc s) S c.shared) :
    Standing T D S J L (c.put i P') := by
  refine ⟨hapart, hexclusive, h.inv, ?_, ?_⟩
  · intro j P hj
    rcases Config.put_get_cases hj with ⟨-, rfl⟩ | ⟨-, hj'⟩
    · exact hlocal
    · exact h.local_ j P hj'
  · intro j P hj
    rcases Config.put_get_cases hj with ⟨-, rfl⟩ | ⟨-, hj'⟩
    · exact htracked
    · exact h.tracked j P hj'

lemma Standing.moves (h : Standing T D S J L c) {i : ℕ} {P : Process σ κ ε lam} {l' : lam} {s' : σ}
    (hi : c.procs[i]? = some P) (hapart : T.Apart ⟨s', c.procs.set i ⟨l', none⟩⟩)
    (hexclusive : Exclusive (⟨s', c.procs.set i ⟨l', none⟩⟩ : Config σ κ ε lam)) (hJ : J s') (hL : L l' s')
    (hG : Guarantees T D L P.loc P.held l' c.shared s') : Standing T D S J L ⟨s', c.procs.set i ⟨l', none⟩⟩ := by
  have hother : ∀ (j : ℕ) (Q : Process σ κ ε lam), j ≠ i → c.procs[j]? = some Q →
      (D Q.loc).view Q.held c.shared s' ∧ L Q.loc s' := by
    intro j Q hj hQ
    have hbefore : Other T P.loc P.held Q.loc Q.held :=
      ⟨h.apart i j P Q hj.symm hi hQ, h.apart j i Q P hj hQ hi, fun k hk => h.exclusive j i Q P k hj hQ hi hk⟩
    have hnew : (c.procs.set i ⟨l', none⟩)[i]? = some ⟨l', none⟩ := Config.put_get hi ⟨l', none⟩
    have hold : (c.procs.set i ⟨l', none⟩)[j]? = some Q := by rw [List.getElem?_set_ne hj.symm, hQ]
    have hafter : Other T l' [] Q.loc Q.held :=
      ⟨hapart i j _ Q hj.symm hnew hold, hapart j i Q _ hj hold hnew, fun k _ => List.not_mem_nil⟩
    exact hG Q.loc Q.held hbefore hafter (h.local_ j Q hQ)
  refine ⟨hapart, hexclusive, hJ, ?_, ?_⟩
  · intro j Q hj
    rcases Config.put_get_cases (c := c) hj with ⟨-, rfl⟩ | ⟨hji, hj'⟩
    · exact hL
    · exact (hother j Q hji hj').2
  · intro j Q hj
    rcases Config.put_get_cases (c := c) hj with ⟨-, rfl⟩ | ⟨hji, hj'⟩
    · exact Process.Tracked.none _ _
    · exact (h.tracked j Q hj').view ((hother j Q hji hj').1.assuming ⟨h.inv, h.local_ j Q hj'⟩)

lemma Relies.step (hR : Relies T D S G J L) (hstep : Step S c c') (hapart : T.Apart c')
    (hallowed : T.allowed c.shared c'.shared) (h : Standing T D S J L c) :
    G c.shared c'.shared ∧ Standing T D S J L c' := by
  have hexclusive := hstep.exclusive h.exclusive
  cases hstep with
  | @spawn l hl =>
    refine ⟨hR.grows_refl _, hapart, hexclusive, h.inv, ?_, ?_⟩
    all_goals
      intro i P hi
      simp only [List.getElem?_append, List.getElem?_singleton] at hi
      split at hi
    · exact h.local_ i P hi
    · split at hi
      · obtain rfl := Option.some.inj hi
        exact hR.spawn h.inv hl
      · cases hi
    · exact h.tracked i P hi
    · split at hi
      · obtain rfl := Option.some.inj hi
        exact Process.Tracked.none _ _
      · cases hi
  | start hi ht =>
    have hlocal := h.local_ _ _ hi
    refine ⟨hR.grows_refl _, h.put hapart hexclusive hlocal fun b hb => ?_⟩
    obtain rfl := Option.some.inj hb
    exact ⟨_, ht, fun s r y _ he => he⟩
  | statement hi hb =>
    have hlocal := h.local_ _ _ hi
    exact ⟨hR.grows_refl _, h.put hapart hexclusive hlocal ((h.tracked _ _ hi).statement hb)⟩
  | commit hi =>
    obtain ⟨t, ht, he⟩ := (h.tracked _ _ hi).finish .done
    obtain ⟨hgrows, hJ, hL, hG⟩ := hR.commit h.inv (h.local_ _ _ hi) ht he hallowed
    exact ⟨hgrows, h.moves hi hapart hexclusive hJ hL hG⟩
  | abort hi =>
    exact ⟨hR.grows_refl _, h.put hapart hexclusive (hR.fail h.inv (h.local_ _ _ hi)) (Process.Tracked.none _ _)⟩
  | dbAbort hi _ =>
    exact ⟨hR.grows_refl _, h.put hapart hexclusive (hR.fail h.inv (h.local_ _ _ hi)) (Process.Tracked.none _ _)⟩
  | crash =>
    exact ⟨hR.grows_refl _, hapart, hexclusive, h.inv, fun i P hi => h.local_ _ P (getElem?_of_eraseIdx hi),
      fun i P hi => h.tracked _ P (getElem?_of_eraseIdx hi)⟩
  | act hi ha =>
    obtain ⟨hgrows, hJ, hL, hG⟩ := hR.act h.inv (h.local_ _ _ hi) ha hallowed
    exact ⟨hgrows, h.moves hi hapart hexclusive hJ hL hG⟩
  | env he =>
    obtain ⟨hgrows, hJ, hothers⟩ := hR.env h.inv he hallowed
    refine ⟨hgrows, hapart, hexclusive, hJ, fun i P hi => (hothers P.loc P.held (h.local_ i P hi)).2, ?_⟩
    intro i P hi
    have hlocal := h.local_ i P hi
    exact (h.tracked i P hi).view ((hothers P.loc P.held hlocal).1.assuming ⟨h.inv, hlocal⟩)

lemma Relies.run (hR : Relies T D S G J L) (hreach : ReachIn T S c c') (h : Standing T D S J L c) :
    G c.shared c'.shared ∧ Standing T D S J L c' := by
  induction hreach with
  | refl => exact ⟨hR.grows_refl _, h⟩
  | tail _ hstep ih =>
    obtain ⟨hgrows, hstanding⟩ := ih
    obtain ⟨hgrows', hstanding'⟩ := hR.step hstep.1 hstep.2.1 hstep.2.2 hstanding
    exact ⟨hR.grows_trans hgrows hgrows', hstanding'⟩

theorem Relies.reach (hR : Relies T D S G J L) (hJ : J s) (h : ReachIn T S (.idle s) c) :
    J c.shared ∧ ∀ l ∈ c.locs, L l c.shared := by
  have hstanding := (hR.run h (standing_idle hJ)).2
  refine ⟨hstanding.inv, fun l hl => ?_⟩
  obtain ⟨P, hP, rfl⟩ := List.mem_map.1 hl
  obtain ⟨i, hi⟩ := List.getElem?_of_mem hP
  exact hstanding.local_ i P hi

theorem Relies.later (hR : Relies T D S G J L) (hJ : J s) (h : ReachIn T S (.idle s) c)
    (h' : ReachIn T S c c') : G c.shared c'.shared :=
  (hR.run h' (hR.run h (standing_idle hJ)).2).1

end Rule

structure Referee (T : Setting σ κ lam) where
  runs : lam → lam → Bool
  rests : lam → lam → Bool
  allows : σ → σ → Bool
  runs_sound : ∀ {l m}, runs l m = true → ∀ held, T.beside l held m [] ∧ T.beside m [] l held
  rests_sound : ∀ {l m}, rests l m = true → T.beside l [] m []
  allows_sound : ∀ {s s'}, allows s s' = true → T.allowed s s'

namespace Referee

variable {T : Setting σ κ lam} {S : System σ κ δ ε lam} (ref : Referee T)

def resting (ls : List lam) : Bool :=
  ls.zipIdx.all fun e => ls.zipIdx.all fun e' => e.2 == e'.2 || ref.rests e.1 e'.1

def running (i : ℕ) (l : lam) (ls : List lam) : Bool := ls.zipIdx.all fun e => e.2 == i || ref.runs l e.1

def stands (s : σ) (ls : List lam) : Move lam α β → Bool
  | .run i => (ls[i]?).all fun l => ref.running i l ls && ref.allows s s
  | _ => true

def play (p : Player S α β) : List (Move lam α β) → σ × List lam → Option (σ × List lam)
  | [], x => some x
  | m :: ms, x =>
    if ref.stands x.1 x.2 m then
      (p.move m x).bind fun x' => if ref.resting x'.2 && ref.allows x.1 x'.1 then play p ms x' else none
    else none

variable {ref}

variable {ls : List lam}

lemma rests_of (h : ref.resting ls = true) {i j : ℕ} {l m : lam} (hij : i ≠ j)
    (hi : ls[i]? = some l) (hj : ls[j]? = some m) : T.beside l [] m [] := by
  have hl : (l, i) ∈ ls.zipIdx := List.mem_zipIdx_iff_getElem?.2 hi
  have hm : (m, j) ∈ ls.zipIdx := List.mem_zipIdx_iff_getElem?.2 hj
  have htest := List.all_eq_true.1 (List.all_eq_true.1 h _ hl) _ hm
  rcases Bool.or_eq_true_iff.1 htest with heq | htest
  · exact absurd (beq_iff_eq.1 heq) hij
  · exact ref.rests_sound htest

lemma runs_of {i : ℕ} {l : lam} (h : ref.running i l ls = true) {j : ℕ} {m : lam} (hj : j ≠ i)
    (hm : ls[j]? = some m) (held : List κ) : T.beside l held m [] ∧ T.beside m [] l held := by
  have htest := List.all_eq_true.1 h (m, j) (List.mem_zipIdx_iff_getElem?.2 hm)
  rcases Bool.or_eq_true_iff.1 htest with heq | htest
  · exact absurd (beq_iff_eq.1 heq) hj
  · exact ref.runs_sound htest held

lemma resting_eq {i : ℕ} {P : Process σ κ ε lam}
    (h : (Config.resting s ls : Config σ κ ε lam).procs[i]? = some P) : ∃ l, ls[i]? = some l ∧ P = ⟨l, none⟩ := by
  simp only [Config.resting, List.getElem?_map, Option.map_eq_some_iff] at h
  obtain ⟨l, hl, rfl⟩ := h
  exact ⟨l, hl, rfl⟩

lemma apart_resting (h : ref.resting ls = true) : T.Apart (Config.resting s ls : Config σ κ ε lam) := by
  intro i j P Q hij hi hj
  obtain ⟨l, hl, rfl⟩ := resting_eq hi
  obtain ⟨m, hm, rfl⟩ := resting_eq hj
  exact rests_of h hij hl hm

lemma apart_running {i : ℕ} {l : lam} (h : ref.resting ls = true)
    (hrun : ref.running i l ls = true) (b : Session σ κ ε lam) :
    T.Apart ((Config.resting s ls : Config σ κ ε lam).put i ⟨l, some b⟩) := by
  intro j j' P Q hne hj hj'
  rcases Config.put_get_cases hj with ⟨rfl, rfl⟩ | ⟨hji, hj⟩
  · rcases Config.put_get_cases hj' with ⟨rfl, rfl⟩ | ⟨hji', hj'⟩
    · exact absurd rfl hne
    · obtain ⟨m, hm, rfl⟩ := resting_eq hj'
      exact (runs_of hrun hji' hm b.held).1
  · obtain ⟨m, hm, rfl⟩ := resting_eq hj
    rcases Config.put_get_cases hj' with ⟨rfl, rfl⟩ | ⟨hji', hj'⟩
    · exact (runs_of hrun hji hm b.held).2
    · obtain ⟨m', hm', rfl⟩ := resting_eq hj'
      exact rests_of h hne hm hm'

lemma move_in {p : Player S α β} {m : Move lam α β} {x x' : σ × List lam} (h : p.move m x = some x')
    (hrest : ref.resting x.2 = true) (hstands : ref.stands x.1 x.2 m = true) (hrest' : ref.resting x'.2 = true)
    (hallows : ref.allows x.1 x'.1 = true) : ReachIn T S (.resting x.1 x.2) (.resting x'.1 x'.2) := by
  have hend : T.Apart (Config.resting x'.1 x'.2 : Config σ κ ε lam) ∧ T.allowed x.1 x'.1 :=
    ⟨apart_resting hrest', ref.allows_sound hallows⟩
  refine Player.move_by (R := fun c c' => T.Apart c' ∧ T.allowed c.shared c'.shared) h hend ?_
  rintro i l rfl hi b
  simp only [stands, hi, Option.all_some, Bool.and_eq_true] at hstands
  have hrun : ∀ b, T.Apart ((Config.resting x.1 x.2 : Config σ κ ε lam).put i ⟨l, some b⟩) ∧ T.allowed x.1 x.1 :=
    fun b => ⟨apart_running hrest hstands.1 b, ref.allows_sound hstands.2⟩
  exact ⟨hrun b, hrun, hend⟩

theorem play_in {p : Player S α β} {ms : List (Move lam α β)} {x x' : σ × List lam}
    (hrest : ref.resting x.2 = true) (h : ref.play p ms x = some x') :
    ref.resting x'.2 = true ∧ ReachIn T S (.resting x.1 x.2) (.resting x'.1 x'.2) := by
  induction ms generalizing x with
  | nil =>
    cases h
    exact ⟨hrest, .refl⟩
  | cons m ms ih =>
    rw [play] at h
    split at h
    · next hstands =>
      obtain ⟨y, hy, h⟩ := Option.bind_eq_some_iff.1 h
      split at h
      · next htests =>
        obtain ⟨hrest', hallows⟩ := Bool.and_eq_true_iff.1 htests
        obtain ⟨hrest'', hreach⟩ := ih hrest' h
        exact ⟨hrest'', Relation.ReflTransGen.trans (move_in hy hrest hstands hrest' hallows) hreach⟩
      · cases h
    · cases h

theorem stages {γ γ' : Type} (ref : Referee T) (p : Player S α β) (s : σ) (ms ms' : List (Move lam α β))
    (f : σ → Option γ) (f' : σ → Option γ') (a : γ) (a' : γ')
    (h : ((ref.play p ms (s, [])).bind fun x => (f x.1).bind fun b =>
      (ref.play p ms' x).bind fun y => (f' y.1).map fun b' => (b, b')) = some (a, a')) :
    ∃ c c' : Config σ κ ε lam, ReachIn T S (.idle s) c ∧ ReachIn T S c c' ∧ f c.shared = some a ∧
      f' c'.shared = some a' := by
  obtain ⟨x, hx, h⟩ := Option.bind_eq_some_iff.1 h
  obtain ⟨b, hb, h⟩ := Option.bind_eq_some_iff.1 h
  obtain ⟨y, hy, h⟩ := Option.bind_eq_some_iff.1 h
  obtain ⟨b', hb', h⟩ := Option.map_eq_some_iff.1 h
  cases h
  obtain ⟨hrest, hreach⟩ := play_in (x := (s, [])) rfl hx
  exact ⟨.resting x.1 x.2, .resting y.1 y.2, hreach, (play_in hrest hy).2, hb, hb'⟩

end Referee

def Referee.free : Referee (Setting.free : Setting σ κ lam) where
  runs _ _ := true
  rests _ _ := true
  allows _ _ := true
  runs_sound _ _ := ⟨trivial, trivial⟩
  rests_sound _ := trivial
  allows_sound _ := trivial

end ReadCommitted
