import RelayPay.ReadCommitted.Interleaving

/-! Runs in which one process moves at a time, as a list of moves that can be evaluated. -/

namespace ReadCommitted

variable {σ κ δ ε lam α β : Type} {S : System σ κ δ ε lam} {P : σ → Prop}

def Config.resting (s : σ) (ls : List lam) : Config σ κ ε lam := ⟨s, ls.map fun l => ⟨l, none⟩⟩

variable {i : ℕ} {c : Config σ κ ε lam}

lemma Config.free_put (h : ∀ k, c.Free i k) (P : Process σ κ ε lam) : ∀ k, (c.put i P).Free i k := by
  intro k j Q hj hQ
  rcases Config.put_get_cases hQ with ⟨hji, -⟩ | ⟨-, hQ'⟩
  · exact absurd hji hj
  · exact h k j Q hj hQ'

def System.ends (S : System σ κ δ ε lam) (l : lam) (s : σ) : Except ε (lam × σ) → lam × σ
  | .ok x => x
  | .error e => (S.handler l e, s)

variable {R : Config σ κ ε lam → Config σ κ ε lam → Prop} {s : σ} {l : lam} {r : Except ε (lam × σ)}

lemma ReachBy.session (t : Txn σ κ Empty ε lam) :
    ∀ {c : Config σ κ ε lam} {own : σ → σ} {held : List κ}, c.shared = s →
      c.procs[i]? = some ⟨l, some ⟨t, own, held⟩⟩ → (∀ k, c.Free i k) → t.exec (own s) = r →
      (∀ b b', R (c.put i ⟨l, some b⟩) (c.put i ⟨l, some b'⟩)) →
      (∀ b, R (c.put i ⟨l, some b⟩) ⟨(S.ends l s r).2, c.procs.set i ⟨(S.ends l s r).1, none⟩⟩) →
      ReachBy S R c ⟨(S.ends l s r).2, c.procs.set i ⟨(S.ends l s r).1, none⟩⟩ := by
  have hput : ∀ {c : Config σ κ ε lam} {P : Process σ κ ε lam}, c.procs[i]? = some P → c.put i P = c := by
    intro c P hi
    obtain ⟨hlt, rfl⟩ := List.getElem?_eq_some_iff.1 hi
    simp [Config.put]
  -- one statement, and the rest from the state after it
  have hstep : ∀ {c : Config σ κ ε lam} {b b' : Session σ κ ε lam}, c.shared = s →
      c.procs[i]? = some ⟨l, some b⟩ → b.Step (c.Free i) c.shared b' →
      (∀ b b', R (c.put i ⟨l, some b⟩) (c.put i ⟨l, some b'⟩)) →
      (∀ b, R (c.put i ⟨l, some b⟩) ⟨(S.ends l s r).2, c.procs.set i ⟨(S.ends l s r).1, none⟩⟩) →
      ((∀ b₁ b₂, R ((c.put i ⟨l, some b'⟩).put i ⟨l, some b₁⟩) ((c.put i ⟨l, some b'⟩).put i ⟨l, some b₂⟩)) →
        (∀ b₁, R ((c.put i ⟨l, some b'⟩).put i ⟨l, some b₁⟩)
          ⟨(S.ends l s r).2, (c.put i ⟨l, some b'⟩).procs.set i ⟨(S.ends l s r).1, none⟩⟩) →
        ReachBy S R (c.put i ⟨l, some b'⟩)
          ⟨(S.ends l s r).2, (c.put i ⟨l, some b'⟩).procs.set i ⟨(S.ends l s r).1, none⟩⟩) →
      ReachBy S R c ⟨(S.ends l s r).2, c.procs.set i ⟨(S.ends l s r).1, none⟩⟩ := by
    intro c b b' hc hi hb hR hend hrest
    have hset : (c.put i ⟨l, some b'⟩).procs.set i ⟨(S.ends l s r).1, none⟩ =
        c.procs.set i ⟨(S.ends l s r).1, none⟩ := by simp [Config.put]
    have htwice : ∀ P : Process σ κ ε lam, (c.put i ⟨l, some b'⟩).put i P = c.put i P := by simp [Config.put]
    have hfirst := hR b b'
    rw [hput hi] at hfirst
    rw [hset] at hrest
    simp only [htwice] at hrest
    exact .head ⟨.statement hi hb, hfirst⟩ (hrest hR hend)
  induction t with
  | done a =>
    rintro c own held rfl hi _ rfl _ hend
    have hlast := hend ⟨.done a, own, held⟩
    rw [hput hi] at hlast
    exact .single ⟨.commit hi, hlast⟩
  | raise e =>
    rintro c own held rfl hi _ rfl _ hend
    have hlast := hend ⟨.raise e, own, held⟩
    rw [hput hi] at hlast
    exact .single ⟨.abort hi, hlast⟩
  | read next ih =>
    rintro c own held rfl hi hfree he hR hend
    exact hstep rfl hi .read hR hend (ih _ rfl (Config.put_get hi _) (Config.free_put hfree _) he)
  | lock k next ih =>
    rintro c own held rfl hi hfree he hR hend
    exact hstep rfl hi (.lock (hfree k)) hR hend (ih rfl (Config.put_get hi _) (Config.free_put hfree _) he)
  | tryLock k next ih =>
    rintro c own held rfl hi hfree he hR hend
    exact hstep rfl hi (.take (hfree k)) hR hend (ih _ rfl (Config.put_get hi _) (Config.free_put hfree _) he)
  | write f next ih =>
    rintro c own held rfl hi hfree he hR hend
    exact hstep rfl hi .write hR hend (ih rfl (Config.put_get hi _) (Config.free_put hfree _) he)
  | defer d => exact d.elim

lemma resting_get {ls : List lam} (h : ls[i]? = some l) :
    (Config.resting s ls : Config σ κ ε lam).procs[i]? = some ⟨l, none⟩ := by
  simp [Config.resting, h]

lemma resting_free (s : σ) (ls : List lam) (i : ℕ) (k : κ) : (Config.resting s ls : Config σ κ ε lam).Free i k := by
  intro j P _ hP
  simp only [Config.resting, List.getElem?_map, Option.map_eq_some_iff] at hP
  obtain ⟨l, -, rfl⟩ := hP
  simp [Process.held]

theorem ReachBy.solo {ls : List lam}
    {t : Txn σ κ δ ε lam} (hi : ls[i]? = some l) (ht : S.txn l = some t) (he : (t.atCommit S.fire []).exec s = r)
    (hstart : ∀ b, R (.resting s ls) ((Config.resting s ls).put i ⟨l, some b⟩))
    (hR : ∀ b b', R ((Config.resting s ls).put i ⟨l, some b⟩) ((Config.resting s ls).put i ⟨l, some b'⟩))
    (hend : ∀ b, R ((Config.resting s ls).put i ⟨l, some b⟩) (.resting (S.ends l s r).2 (ls.set i (S.ends l s r).1))) :
    ReachBy S R (.resting s ls) (.resting (S.ends l s r).2 (ls.set i (S.ends l s r).1)) := by
  have hi' : (Config.resting s ls : Config σ κ ε lam).procs[i]? = some ⟨l, none⟩ := resting_get hi
  have hset : ∀ P : Process σ κ ε lam, ((Config.resting s ls).put i P).procs.set i ⟨(S.ends l s r).1, none⟩ =
      (ls.set i (S.ends l s r).1).map fun l => ⟨l, none⟩ := by
    simp [Config.put, Config.resting, List.map_set]
  have htwice : ∀ P Q : Process σ κ ε lam, ((Config.resting s ls).put i P).put i Q = (Config.resting s ls).put i Q := by
    simp [Config.put]
  have hrun := ReachBy.session (S := S) (R := R) (s := s) (t.atCommit S.fire []) (by rfl)
    (Config.put_get hi' ⟨l, some ⟨t.atCommit S.fire [], id, []⟩⟩)
    (Config.free_put (resting_free s ls i) _) he
  simp only [htwice, hset] at hrun
  exact .head ⟨.start hi' ht, hstart _⟩ (hrun hR hend)

theorem Reach.alone {s' : σ} {l' : lam} {t : Txn σ κ δ ε lam} (hl : S.spawn l) (ht : S.txn l = some t)
    (he : (t.atCommit S.fire []).exec s = .ok (l', s')) : Reach S (.idle s) (.resting s' [l']) := by
  have hspawn : Step S (.idle s) (.resting s [l]) := .spawn (c := .idle s) hl
  have hfirst : [l][0]? = some l := rfl
  have hrun := ReachBy.solo (R := fun _ _ => True) hfirst ht he (fun _ => trivial) (fun _ _ => trivial) fun _ => trivial
  exact .head hspawn hrun.reach

structure Player (S : System σ κ δ ε lam) (α β : Type) where
  spawn : lam → Bool
  act : α → lam → σ → Option (lam × σ)
  env : β → σ → Option σ
  spawn_sound : ∀ {l}, spawn l = true → S.spawn l
  act_sound : ∀ {a l s l' s'}, act a l s = some (l', s') → S.act l s l' s'
  env_sound : ∀ {b s s'}, env b s = some s' → S.env s s'

inductive Move (lam α β : Type) where
  | spawn (l : lam)
  | run (i : ℕ)
  | act (i : ℕ) (a : α)
  | env (b : β)

namespace Player

variable (p : Player S α β)

def move : Move lam α β → σ × List lam → Option (σ × List lam)
  | .spawn l, (s, ls) => if p.spawn l then some (s, ls ++ [l]) else none
  | .run i, (s, ls) => do
    let l ← ls[i]?
    let t ← S.txn l
    match S.ends l s ((t.atCommit S.fire []).exec s) with
    | (l', s') => some (s', ls.set i l')
  | .act i a, (s, ls) => do
    let l ← ls[i]?
    let (l', s') ← p.act a l s
    some (s', ls.set i l')
  | .env b, (s, ls) => (p.env b s).map fun s' => (s', ls)

def play : List (Move lam α β) → σ × List lam → Option (σ × List lam)
  | [], x => some x
  | m :: ms, x => (p.move m x).bind (play ms)

variable {p}

lemma move_by {m : Move lam α β} {x x' : σ × List lam}
    (h : p.move m x = some x') (hone : R (.resting x.1 x.2) (.resting x'.1 x'.2))
    (hrun : ∀ i l, m = .run i → x.2[i]? = some l → ∀ b, R (.resting x.1 x.2) ((Config.resting x.1 x.2).put i ⟨l, some b⟩) ∧
      (∀ b', R ((Config.resting x.1 x.2).put i ⟨l, some b⟩) ((Config.resting x.1 x.2).put i ⟨l, some b'⟩)) ∧
      R ((Config.resting x.1 x.2).put i ⟨l, some b⟩) (.resting x'.1 x'.2)) :
    ReachBy S R (.resting x.1 x.2) (.resting x'.1 x'.2) := by
  obtain ⟨s, ls⟩ := x
  cases m with
  | spawn l =>
    simp only [move] at h
    split at h
    · next hl =>
      cases h
      have hstep : Step S (.resting s ls) _ := .spawn (p.spawn_sound hl)
      exact .single ⟨by simpa [Config.resting] using hstep, hone⟩
    · cases h
  | run i =>
    simp only [move, Option.bind_eq_bind, Option.bind_eq_some_iff] at h
    obtain ⟨l, hi, t, ht, h⟩ := h
    cases h
    have hR := hrun i l rfl hi
    exact .solo hi ht rfl (fun b => (hR b).1) (fun b => (hR b).2.1) fun b => (hR b).2.2
  | act i a =>
    simp only [move, Option.bind_eq_bind, Option.bind_eq_some_iff] at h
    obtain ⟨l, hi, ⟨l', s'⟩, ha, h⟩ := h
    cases h
    have hstep : Step S (.resting s ls) _ := .act (resting_get hi) (p.act_sound ha)
    exact .single ⟨by simpa [Config.resting, List.map_set] using hstep, hone⟩
  | env b =>
    simp only [move, Option.map_eq_some_iff] at h
    obtain ⟨s', hs', rfl⟩ := h
    exact .single ⟨.env (p.env_sound hs'), hone⟩

lemma move_within {m : Move lam α β} {x x' : σ × List lam} (h : p.move m x = some x') (hx : P x.1)
    (hx' : P x'.1) : ReachWithin S P (.resting x.1 x.2) (.resting x'.1 x'.2) :=
  move_by (R := fun _ c' => P c'.shared) h hx' fun _ _ _ _ _ => ⟨hx, fun _ => hx, hx'⟩

def along (p : Player S α β) (test : σ → Bool) : List (Move lam α β) → σ × List lam → Bool
  | [], x => test x.1
  | m :: ms, x => test x.1 && (p.move m x).all (p.along test ms)

variable {ms : List (Move lam α β)} {test : σ → Bool}

lemma along_test {x : σ × List lam} (h : p.along test ms x = true) : test x.1 = true := by
  cases ms with
  | nil => exact h
  | cons m ms => exact (Bool.and_eq_true_iff.1 h).1

theorem play_within {x x' : σ × List lam} (h : p.play ms x = some x') (htest : p.along test ms x = true) :
    ReachWithin S (fun s => test s = true) (.resting x.1 x.2) (.resting x'.1 x'.2) := by
  induction ms generalizing x with
  | nil =>
    cases h
    exact .refl
  | cons m ms ih =>
    obtain ⟨y, hy, hrest⟩ := Option.bind_eq_some_iff.1 h
    have halong : p.along test ms y = true := by
      have hall := (Bool.and_eq_true_iff.1 htest).2
      rwa [hy] at hall
    have hfirst := move_within (P := fun s => test s = true) hy (along_test htest) (along_test halong)
    exact hfirst.trans (ih hrest halong)

def final (p : Player S α β) (ms : List (Move lam α β)) (s : σ) : σ × List lam :=
  (p.play ms (s, [])).getD (s, [])

theorem final_within (h : (p.play ms (s, [])).isSome = true) (htest : p.along test ms (s, []) = true) :
    ReachWithin S (fun s => test s = true) (.idle s) (.resting (p.final ms s).1 (p.final ms s).2) := by
  obtain ⟨x, hx⟩ := Option.isSome_iff_exists.1 h
  have hfinal : p.final ms s = x := by rw [final, hx, Option.getD_some]
  rw [hfinal]
  exact play_within hx htest

theorem final_reach (h : (p.play ms (s, [])).isSome = true) :
    Reach S (.idle s) (.resting (p.final ms s).1 (p.final ms s).2) := by
  have htrue : ∀ (ms : List (Move lam α β)) (x : σ × List lam),
      p.along (fun _ => true) ms x = true := by
    intro ms
    induction ms with
    | nil => exact fun _ => rfl
    | cons m ms ih => exact fun x => by cases hm : p.move m x <;> simp [along, hm, ih]
  exact (final_within h (htrue ms (s, []))).reach

theorem final_result {γ : Type} {f : σ → Option γ} {a : γ} (h : ((p.play ms (s, [])).bind fun x => f x.1) = some a) :
    Reach S (.idle s) (.resting (p.final ms s).1 (p.final ms s).2) ∧ f (p.final ms s).1 = some a := by
  obtain ⟨x, hx, hf⟩ := Option.bind_eq_some_iff.1 h
  refine ⟨final_reach (by rw [hx]; rfl), ?_⟩
  rw [final, hx]
  exact hf

end Player

inductive Tick (lam α β : Type) where
  | spawn (l : lam)
  | start (i : ℕ)
  | statement (i : ℕ)
  | finish (i : ℕ)
  | crash (i : ℕ)
  | act (i : ℕ) (a : α)
  | env (b : β)

def Session.next (free : κ → Bool) (s : σ) (b : Session σ κ ε lam) : Option (Session σ κ ε lam) :=
  match b.body with
  | .read next => some ⟨next (b.own s), b.own, b.held⟩
  | .lock k next => if free k then some ⟨next, b.own, k :: b.held⟩ else none
  | .tryLock k next =>
    if free k then some ⟨next true, b.own, k :: b.held⟩ else some ⟨next false, b.own, b.held⟩
  | .write f next => some ⟨next, f ∘ b.own, b.held⟩
  | _ => none

lemma Session.next_step {free : κ → Bool} {Free : κ → Prop} (hfree : ∀ k, free k = true → Free k)
    {b b' : Session σ κ ε lam} (h : b.next free s = some b') : b.Step Free s b' := by
  obtain ⟨body, own, held⟩ := b
  cases body with
  | read next =>
    cases h
    exact .read
  | lock k next =>
    simp only [Session.next] at h
    split at h
    · next hk =>
      cases h
      exact .lock (hfree k hk)
    · cases h
  | tryLock k next =>
    simp only [Session.next] at h
    split at h
    · next hk =>
      cases h
      exact .take (hfree k hk)
    · cases h
      exact .skip
  | write f next =>
    cases h
    exact .write
  | done a => cases h
  | raise e => cases h
  | defer d => exact d.elim

namespace Player

def close (S : System σ κ δ ε lam) (c : Config σ κ ε lam) (i : ℕ) (l : lam) (b : Session σ κ ε lam) :
    Option (Config σ κ ε lam) :=
  match b.body with
  | .done l' => some ⟨b.own c.shared, c.procs.set i ⟨l', none⟩⟩
  | .raise e => some (c.put i ⟨S.handler l e, none⟩)
  | _ => none

lemma close_step {c' : Config σ κ ε lam} {b : Session σ κ ε lam}
    (hi : c.procs[i]? = some ⟨l, some b⟩) (h : close S c i l b = some c') : Step S c c' := by
  obtain ⟨body, own, held⟩ := b
  cases body with
  | done l' =>
    cases h
    exact .commit hi
  | raise e =>
    cases h
    exact .abort hi
  | _ => cases h

end Player

section Ticks

variable [DecidableEq κ]

def Config.frees (c : Config σ κ ε lam) (i : ℕ) (k : κ) : Bool :=
  c.procs.zipIdx.all fun e => e.2 == i || decide (k ∉ e.1.held)

lemma Config.free_of_frees {k : κ} (h : c.frees i k = true) : c.Free i k := by
  intro j P hj hP
  have hmem : (P, j) ∈ c.procs.zipIdx := List.mem_zipIdx_iff_getElem?.2 hP
  have htest := List.all_eq_true.1 h _ hmem
  simp only [Bool.or_eq_true, beq_iff_eq, decide_eq_true_eq] at htest
  rcases htest with heq | hfree
  · exact absurd heq hj
  · exact hfree

namespace Player

variable (p : Player S α β)

def tick (c : Config σ κ ε lam) : Tick lam α β → Option (Config σ κ ε lam)
  | .spawn l => if p.spawn l then some { c with procs := c.procs ++ [⟨l, none⟩] } else none
  | .start i => do
    let P ← c.procs[i]?
    let t ← S.txn P.loc
    if P.session.isNone then some (c.put i ⟨P.loc, some ⟨t.atCommit S.fire [], id, []⟩⟩) else none
  | .statement i => do
    let P ← c.procs[i]?
    let b ← P.session
    let b' ← b.next (c.frees i) c.shared
    some (c.put i ⟨P.loc, some b'⟩)
  | .finish i => do
    let P ← c.procs[i]?
    let b ← P.session
    close S c i P.loc b
  | .crash i => some { c with procs := c.procs.eraseIdx i }
  | .act i a => do
    let P ← c.procs[i]?
    let x ← p.act a P.loc c.shared
    if P.session.isNone then some ⟨x.2, c.procs.set i ⟨x.1, none⟩⟩ else none
  | .env b => (p.env b c.shared).map fun s' => { c with shared := s' }

def ticks : List (Tick lam α β) → Config σ κ ε lam → Option (Config σ κ ε lam)
  | [], c => some c
  | m :: ms, c => (p.tick c m).bind (ticks ms)

variable {p}

lemma tick_step {c' : Config σ κ ε lam} {m : Tick lam α β} (h : p.tick c m = some c') : Step S c c' := by
  have hnone : ∀ {P : Process σ κ ε lam}, P.session.isNone = true → P = ⟨P.loc, none⟩ := by
    rintro ⟨l, _ | b⟩ hP
    · rfl
    · cases hP
  have hsome : ∀ {P : Process σ κ ε lam} {b : Session σ κ ε lam}, P.session = some b → P = ⟨P.loc, some b⟩ := by
    rintro ⟨l, _⟩ b rfl
    rfl
  cases m with
  | spawn l =>
    simp only [tick] at h
    split at h
    · next hl =>
      cases h
      exact .spawn (p.spawn_sound hl)
    · cases h
  | start i =>
    simp only [tick, Option.bind_eq_bind, Option.bind_eq_some_iff] at h
    obtain ⟨P, hi, t, ht, h⟩ := h
    split at h
    · next hrest =>
      cases h
      rw [hnone hrest] at hi
      exact .start hi ht
    · cases h
  | statement i =>
    simp only [tick, Option.bind_eq_bind, Option.bind_eq_some_iff] at h
    obtain ⟨P, hi, b, hb, b', hb', h⟩ := h
    cases h
    rw [hsome hb] at hi
    exact .statement hi (Session.next_step (fun k hk => Config.free_of_frees hk) hb')
  | finish i =>
    simp only [tick, Option.bind_eq_bind, Option.bind_eq_some_iff] at h
    obtain ⟨P, hi, b, hb, h⟩ := h
    rw [hsome hb] at hi
    exact close_step hi h
  | crash i =>
    cases h
    exact .crash
  | act i a =>
    simp only [tick, Option.bind_eq_bind, Option.bind_eq_some_iff] at h
    obtain ⟨P, hi, ⟨l', s'⟩, ha, h⟩ := h
    split at h
    · next hrest =>
      cases h
      rw [hnone hrest] at hi
      exact .act hi (p.act_sound ha)
    · cases h
  | env b =>
    simp only [tick, Option.map_eq_some_iff] at h
    obtain ⟨s', hs', rfl⟩ := h
    exact .env (p.env_sound hs')

theorem ticks_reach {ms : List (Tick lam α β)} {c' : Config σ κ ε lam} (h : p.ticks ms c = some c') : Reach S c c' := by
  induction ms generalizing c with
  | nil =>
    cases h
    exact .refl
  | cons m ms ih =>
    obtain ⟨d, hd, hrest⟩ := Option.bind_eq_some_iff.1 h
    exact .head (tick_step hd) (ih hrest)

theorem ticks_result {γ : Type} {f : σ → Option γ} {a : γ} {ms : List (Tick lam α β)}
    (h : ((p.ticks ms (.idle s)).bind fun c => f c.shared) = some a) :
    ∃ c, Reach S (.idle s) c ∧ f c.shared = some a := by
  obtain ⟨c, hc, hf⟩ := Option.bind_eq_some_iff.1 h
  exact ⟨c, ticks_reach hc, hf⟩

end Player

end Ticks

end ReadCommitted
