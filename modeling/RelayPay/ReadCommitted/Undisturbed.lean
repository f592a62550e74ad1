import RelayPay.ReadCommitted.Rely

/-! Runs in which the rows an open transaction is about stand still. -/

namespace ReadCommitted

variable {σ κ δ ε lam α β : Type}

/-- For each place where a process may stand, what must not change while its transaction is open. -/
structure Stillness (σ lam : Type) where
  keep : lam → σ → σ → Prop
  refl : ∀ l s, keep l s s
  trans : ∀ {l s₁ s₂ s₃}, keep l s₁ s₂ → keep l s₂ s₃ → keep l s₁ s₃

def Stillness.none : Stillness σ lam := ⟨fun _ _ _ => True, fun _ _ => trivial, fun _ _ => trivial⟩

def Stillness.Undisturbed (K : Stillness σ lam) (c c' : Config σ κ ε lam) : Prop :=
  ∀ (j : ℕ) (P : Process σ κ ε lam), c.procs[j]? = some P → P.session.isSome = true → c'.procs[j]? = some P →
    K.keep P.loc c.shared c'.shared

def ReachStill (K : Stillness σ lam) (A : σ → σ → Prop) (S : System σ κ δ ε lam) :
    Config σ κ ε lam → Config σ κ ε lam → Prop :=
  ReachBy S fun c c' => K.Undisturbed c c' ∧ A c.shared c'.shared

def Discipline.still (D : Discipline σ κ) (K : Stillness σ lam) (l : lam) : Discipline σ κ where
  frame := D.frame
  evolves s s' := D.evolves s s' ∧ K.keep l s s'
  frame_refl := D.frame_refl
  frame_trans := D.frame_trans
  evolves_refl s := ⟨D.evolves_refl s, K.refl l s⟩
  evolves_trans _ _ _ h h' := ⟨D.evolves_trans _ _ _ h.1 h'.1, K.trans h.2 h'.2⟩

section Rule

variable (K : Stillness σ lam) (A : σ → σ → Prop) (D : Discipline σ κ) (S : System σ κ δ ε lam) (J : σ → Prop)

/-- `J` is kept by every step, where the reads of a transaction are those of the state it commits on as far as
its locks and the condition reach. -/
structure Isolates : Prop where
  commit : ∀ {s l t l' y}, J s → S.txn l = some t →
    Eval (D.still K l) s (t.atCommit S.fire []) .init (.ok l') y → A s (y.own s) →
    D.Keeps y.held s (y.own s) ∧ J (y.own s)
  act : ∀ {s l l' s'}, J s → S.act l s l' s' → A s s' → D.Keeps [] s s' ∧ J s'
  env : ∀ {s s'}, J s → S.env s s' → A s s' → D.Keeps [] s s' ∧ J s'

structure Settled (c : Config σ κ ε lam) : Prop where
  exclusive : Exclusive c
  inv : J c.shared
  tracked : ∀ (i : ℕ) (P : Process σ κ ε lam), c.procs[i]? = some P → P.Tracked (D.still K P.loc) S c.shared

variable {K A D S J} {c c' : Config σ κ ε lam}

lemma settled_idle {s : σ} (hJ : J s) : Settled K D S J (Config.idle s : Config σ κ ε lam) where
  exclusive := exclusive_idle s
  inv := hJ
  tracked i P hi := by simp [Config.idle] at hi

lemma Process.Tracked.undisturbed {P : Process σ κ ε lam} {s s' : σ} (h : P.Tracked (D.still K P.loc) S s)
    (hview : D.view P.held s s') (hkeep : P.session.isSome = true → K.keep P.loc s s') :
    P.Tracked (D.still K P.loc) S s' := by
  intro b hb
  have hopen : P.session.isSome = true := by rw [hb]; rfl
  exact h.view ⟨⟨hview.1, hkeep hopen⟩, hview.2⟩ b hb

lemma Settled.put (h : Settled K D S J c) {i : ℕ} {P' : Process σ κ ε lam} (hexclusive : Exclusive (c.put i P'))
    (htracked : P'.Tracked (D.still K P'.loc) S c.shared) : Settled K D S J (c.put i P') := by
  refine ⟨hexclusive, h.inv, fun j P hj => ?_⟩
  rcases Config.put_get_cases hj with ⟨-, rfl⟩ | ⟨-, hj'⟩
  · exact htracked
  · exact h.tracked j P hj'

lemma Settled.moves (h : Settled K D S J c) {i : ℕ} {P : Process σ κ ε lam} {l' : lam} {s' : σ}
    (hi : c.procs[i]? = some P) (hexclusive : Exclusive (⟨s', c.procs.set i ⟨l', none⟩⟩ : Config σ κ ε lam))
    (hstill : K.Undisturbed c ⟨s', c.procs.set i ⟨l', none⟩⟩) (hkeeps : D.Keeps P.held c.shared s') (hJ : J s') :
    Settled K D S J ⟨s', c.procs.set i ⟨l', none⟩⟩ := by
  refine ⟨hexclusive, hJ, fun j Q hj => ?_⟩
  rcases Config.put_get_cases (c := c) hj with ⟨-, rfl⟩ | ⟨hji, hj'⟩
  · exact Process.Tracked.none _ _
  · refine (h.tracked j Q hj').undisturbed (hkeeps.view fun k hk => h.exclusive j i Q P k hji hj' hi hk) ?_
    intro hopen
    exact hstill j Q hj' hopen hj

lemma Isolates.step (hR : Isolates K A D S J) (hstep : Step S c c') (hstill : K.Undisturbed c c')
    (hallowed : A c.shared c'.shared) (h : Settled K D S J c) : Settled K D S J c' := by
  have hexclusive := hstep.exclusive h.exclusive
  cases hstep with
  | spawn hl =>
    refine ⟨hexclusive, h.inv, fun i P hi => ?_⟩
    simp only [List.getElem?_append, List.getElem?_singleton] at hi
    split at hi
    · exact h.tracked i P hi
    · split at hi
      · obtain rfl := Option.some.inj hi
        exact Process.Tracked.none _ _
      · cases hi
  | start hi ht =>
    refine h.put hexclusive fun b hb => ?_
    obtain rfl := Option.some.inj hb
    exact ⟨_, ht, fun s r y _ he => he⟩
  | statement hi hb => exact h.put hexclusive ((h.tracked _ _ hi).statement hb)
  | commit hi =>
    obtain ⟨t, ht, he⟩ := (h.tracked _ _ hi).finish .done
    obtain ⟨hkeeps, hJ⟩ := hR.commit h.inv ht he hallowed
    exact h.moves hi hexclusive hstill hkeeps hJ
  | abort hi => exact h.put hexclusive (Process.Tracked.none _ _)
  | dbAbort hi _ => exact h.put hexclusive (Process.Tracked.none _ _)
  | crash => exact ⟨hexclusive, h.inv, fun i P hi => h.tracked _ P (getElem?_of_eraseIdx hi)⟩
  | act hi ha =>
    obtain ⟨hkeeps, hJ⟩ := hR.act h.inv ha hallowed
    exact h.moves hi hexclusive hstill hkeeps hJ
  | env he =>
    obtain ⟨hkeeps, hJ⟩ := hR.env h.inv he hallowed
    refine ⟨hexclusive, hJ, fun i P hi => (h.tracked i P hi).undisturbed (hkeeps.view fun k _ => List.not_mem_nil) ?_⟩
    intro hopen
    exact hstill i P hi hopen hi

theorem Isolates.reach (hR : Isolates K A D S J) {s : σ} (hJ : J s) (h : ReachStill K A S (.idle s) c) :
    J c.shared := by
  have hsettled : Settled K D S J c := by
    induction h with
    | refl => exact settled_idle hJ
    | tail _ hstep ih => exact hR.step hstep.1 hstep.2.1 hstep.2.2 ih
  exact hsettled.inv

end Rule

lemma Reach.still {S : System σ κ δ ε lam} {c c' : Config σ κ ε lam} (h : Reach S c c') :
    ReachStill .none (fun _ _ => True) S c c' := by
  induction h with
  | refl => exact .refl
  | tail _ hstep ih => exact ih.tail ⟨hstep, fun _ _ _ _ _ => trivial, trivial⟩

namespace Player

variable {S : System σ κ δ ε lam}

def serial (p : Player S α β) (allows : σ → σ → Bool) : List (Move lam α β) → σ × List lam → Option (σ × List lam)
  | [], x => some x
  | m :: ms, x => (p.move m x).bind fun x' => if allows x.1 x'.1 then serial p allows ms x' else none

variable {p : Player S α β} {K : Stillness σ lam} {A : σ → σ → Prop}

lemma undisturbed_resting (s : σ) (ls : List lam) (c' : Config σ κ ε lam) : K.Undisturbed (.resting s ls) c' := by
  intro j P hj hopen
  simp only [Config.resting, List.getElem?_map, Option.map_eq_some_iff] at hj
  obtain ⟨l, -, rfl⟩ := hj
  cases hopen

lemma undisturbed_shared {c c' : Config σ κ ε lam} (h : c'.shared = c.shared) : K.Undisturbed c c' := by
  intro j P _ _ _
  rw [h]
  exact K.refl _ _

lemma undisturbed_last {s s' : σ} {ls ls' : List lam} {i : ℕ} {l : lam} {b : Session σ κ ε lam} :
    K.Undisturbed ((Config.resting s ls).put i ⟨l, some b⟩) (.resting s' ls') := by
  intro j P _ hopen hj'
  simp only [Config.resting, List.getElem?_map, Option.map_eq_some_iff] at hj'
  obtain ⟨l', -, rfl⟩ := hj'
  cases hopen

lemma move_still (hrefl : ∀ s, A s s) {m : Move lam α β} {x x' : σ × List lam} (h : p.move m x = some x')
    (hA : A x.1 x'.1) : ReachStill K A S (.resting x.1 x.2) (.resting x'.1 x'.2) := by
  refine move_by (R := fun c c' => K.Undisturbed c c' ∧ A c.shared c'.shared) h ⟨undisturbed_resting _ _ _, hA⟩ ?_
  intro i l _ _ b
  exact ⟨⟨undisturbed_resting _ _ _, hrefl _⟩, fun _ => ⟨undisturbed_shared rfl, hrefl _⟩, undisturbed_last, hA⟩

lemma serial_still {allows : σ → σ → Bool} (hallows : ∀ s s', allows s s' = true → A s s') (hrefl : ∀ s, A s s)
    {ms : List (Move lam α β)} {x x' : σ × List lam} (h : p.serial allows ms x = some x') :
    ReachStill K A S (.resting x.1 x.2) (.resting x'.1 x'.2) := by
  induction ms generalizing x with
  | nil =>
    cases h
    exact .refl
  | cons m ms ih =>
    rw [serial] at h
    obtain ⟨y, hy, h⟩ := Option.bind_eq_some_iff.1 h
    split at h
    · next htest => exact (move_still hrefl hy (hallows _ _ htest)).trans (ih h)
    · cases h

end Player

end ReadCommitted
