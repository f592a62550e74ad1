import RelayPay.ReadCommitted.Reduction
import RelayPay.ReadCommitted.Solo

/-! Weakest preconditions under a lock discipline: what the held locks do not frame may be read stale. -/

namespace ReadCommitted

variable {σ κ δ ε lam α β : Type}

namespace Discipline

variable {D : Discipline σ κ}

def Respects (D : Discipline σ κ) (held : List κ) (f : σ → σ) : Prop :=
  ∀ s₀ s, D.view held s₀ s →
    D.evolves (f s₀) (f s) ∧ ∀ k, D.frame k s₀ s → D.frame k (f s₀) (f s)

lemma respects_id (held : List κ) : D.Respects held id := fun _ _ hv => ⟨hv.1, fun _ hk => hk⟩

lemma Respects.view {held : List κ} {f : σ → σ} {s₀ s : σ} (hf : D.Respects held f)
    (hv : D.view held s₀ s) : D.view held (f s₀) (f s) :=
  ⟨(hf s₀ s hv).1, fun k hk => (hf s₀ s hv).2 k (hv.2 k hk)⟩

lemma Respects.mono {held held' : List κ} {f : σ → σ} (hf : D.Respects held f)
    (hsub : ∀ k ∈ held, k ∈ held') : D.Respects held' f :=
  fun s₀ s hv => hf s₀ s (hv.anti hsub)

lemma Respects.comp {held : List κ} {f g : σ → σ} (hg : D.Respects held g)
    (hf : D.Respects held f) : D.Respects held (g ∘ f) := by
  intro s₀ s hv
  have hv' := hf.view hv
  exact ⟨(hg _ _ hv').1, fun k hk => (hg _ _ hv').2 k ((hf s₀ s hv).2 k hk)⟩

end Discipline

/-- A transaction under way: the state as it would be if it committed now, its locks, and the
triggers it has queued. -/
structure Running (σ κ δ : Type) where
  state : σ
  held : List κ
  queue : List δ

namespace Running

variable (x : Running σ κ δ) (k : κ) (f : σ → σ) (ds : List δ)

@[simps] def hold : Running σ κ δ := { x with held := k :: x.held }
@[simps] def apply : Running σ κ δ := { x with state := f x.state }
@[simps] def push : Running σ κ δ := { x with queue := x.queue ++ ds }

end Running

namespace Txn

/-- `t.Wp D E Q x`: continued from `x`, whatever its statements see, `t` makes only writes that
respect the discipline, raises only errors in `E` and finishes only in `Q`. -/
def Wp (D : Discipline σ κ) (E : ε → Prop) :
    Txn σ κ δ ε α → (α → Running σ κ δ → Prop) → Running σ κ δ → Prop
  | done a, Q, x => Q a x
  | raise e, _, _ => E e
  | read next, Q, x => ∀ s₀, D.view x.held s₀ x.state → (next s₀).Wp D E Q x
  | lock k next, Q, x => next.Wp D E Q (x.hold k)
  | tryLock k next, Q, x => (next true).Wp D E Q (x.hold k) ∧ (next false).Wp D E Q x
  | write f next, Q, x => D.Respects x.held f ∧ next.Wp D E Q (x.apply f)
  | defer d next, Q, x => next.Wp D E Q (x.push [d])

variable {D : Discipline σ κ} {E : ε → Prop} {Q : α → Running σ κ δ → Prop} {x : Running σ κ δ}

variable {t : Txn σ κ δ ε α} {Q' : α → Running σ κ δ → Prop}

lemma wp_mono {E' : ε → Prop} (h : t.Wp D E Q x) (hE : ∀ e, E e → E' e) (hQ : ∀ a y, Q a y → Q' a y) :
    t.Wp D E' Q' x := by
  induction t generalizing x with
  | done a => exact hQ a x h
  | raise e => exact hE e h
  | read next ih => exact fun s₀ hv => ih _ (h s₀ hv)
  | lock k next ih => exact ih h
  | tryLock k next ih => exact ⟨ih true h.1, ih false h.2⟩
  | write f next ih => exact ⟨h.1, ih h.2⟩
  | defer d next ih => exact ih h

lemma Wp.imp (h : t.Wp D E Q x) (hQ : ∀ a y, Q a y → Q' a y) : t.Wp D E Q' x :=
  wp_mono h (fun _ he => he) hQ

@[simp] lemma wp_pure (a : α) : (pure a : Txn σ κ δ ε α).Wp D E Q x ↔ Q a x := Iff.rfl

@[simp] lemma wp_done (a : α) : (done a : Txn σ κ δ ε α).Wp D E Q x ↔ Q a x := Iff.rfl

@[simp] lemma wp_raise (e : ε) : (raise e : Txn σ κ δ ε α).Wp D E Q x ↔ E e := Iff.rfl

@[simp] lemma wp_query (q : σ → α) :
    (query q : Txn σ κ δ ε α).Wp D E Q x ↔ ∀ s₀, D.view x.held s₀ x.state → Q (q s₀) x :=
  Iff.rfl

@[simp] lemma wp_acquire (k : κ) (Q : Unit → Running σ κ δ → Prop) :
    (acquire k : Txn σ κ δ ε Unit).Wp D E Q x ↔ Q () (x.hold k) := Iff.rfl

@[simp] lemma wp_attempt (k : κ) (Q : Bool → Running σ κ δ → Prop) :
    (attempt k : Txn σ κ δ ε Bool).Wp D E Q x ↔ Q true (x.hold k) ∧ Q false x := Iff.rfl

@[simp] lemma wp_modify (f : σ → σ) (Q : Unit → Running σ κ δ → Prop) :
    (modify f : Txn σ κ δ ε Unit).Wp D E Q x ↔ D.Respects x.held f ∧ Q () (x.apply f) := Iff.rfl

@[simp] lemma wp_enqueueAll (ds : List δ) (Q : Unit → Running σ κ δ → Prop) :
    (enqueueAll ds : Txn σ κ δ ε Unit).Wp D E Q x ↔ Q () (x.push ds) := by
  induction ds generalizing x with
  | nil => simp [enqueueAll, Running.push]
  | cons d ds ih =>
    have hpush : (x.push [d]).push ds = x.push (d :: ds) := by simp [Running.push]
    rw [← hpush, ← ih]
    rfl

@[simp] lemma wp_ensure (c : Prop) [Decidable c] (e : ε) (Q : Unit → Running σ κ δ → Prop) :
    (ensure c e : Txn σ κ δ ε Unit).Wp D E Q x ↔ (c → Q () x) ∧ (¬c → E e) := by
  by_cases h : c <;> simp [ensure, h]

@[simp] lemma wp_require (o : Option α) (e : ε) :
    (require o e : Txn σ κ δ ε α).Wp D E Q x ↔ (∀ a, o = some a → Q a x) ∧ (o = none → E e) := by
  cases o <;> simp [require]

lemma wp_ite (c : Prop) [Decidable c] (t u : Txn σ κ δ ε α) :
    (if c then t else u).Wp D E Q x ↔ (c → t.Wp D E Q x) ∧ (¬c → u.Wp D E Q x) := by
  by_cases h : c <;> simp [h]

@[simp] lemma wp_bind (t : Txn σ κ δ ε α) (f : α → Txn σ κ δ ε β) {Q : β → Running σ κ δ → Prop} :
    (t >>= f).Wp D E Q x ↔ t.Wp D E (fun a y => (f a).Wp D E Q y) x := by
  change (t.bind f).Wp D E Q x ↔ _
  induction t generalizing x with
  | done a => rfl
  | raise e => rfl
  | read next ih => exact forall₂_congr fun s₀ _ => ih _
  | lock k next ih => exact ih
  | tryLock k next ih => exact and_congr (ih true) (ih false)
  | write g next ih => exact and_congr_right fun _ => ih
  | defer d next ih => exact ih

@[simp] lemma wp_map (g : α → β) (t : Txn σ κ δ ε α) {Q : β → Running σ κ δ → Prop} :
    (g <$> t).Wp D E Q x ↔ t.Wp D E (fun a y => Q (g a) y) x :=
  wp_bind t fun a => done (g a)

lemma wp_foldOver {f : α → β → Txn σ κ δ ε α} (I : α → List β → Running σ κ δ → Prop)
    (hstep : ∀ a b bs y, I a (b :: bs) y → (f a b).Wp D E (fun a' y' => I a' bs y') y) :
    ∀ (bs : List β) (a : α) (x : Running σ κ δ), I a bs x → (foldOver f a bs).Wp D E (fun a' y => I a' [] y) x := by
  intro bs
  induction bs with
  | nil => exact fun a x h => h
  | cons b bs ih =>
    intro a x h
    rw [foldOver, wp_bind]
    exact (hstep a b bs x h).imp fun a' y hy => ih a' y hy

lemma wp_forEach {f : β → Txn σ κ δ ε Unit} (I : List β → Running σ κ δ → Prop)
    (hstep : ∀ b bs y, I (b :: bs) y → (f b).Wp D E (fun _ y' => I bs y') y) :
    ∀ (bs : List β) (x : Running σ κ δ), I bs x → (forEach f bs).Wp D E (fun _ y => I [] y) x := by
  intro bs
  induction bs with
  | nil => exact fun x h => h
  | cons b bs ih =>
    intro x h
    rw [forEach, wp_bind]
    exact (hstep b bs x h).imp fun _ y hy => ih y hy

lemma wp_atCommit (fire : δ → Txn σ κ Empty ε Unit) (t : Txn σ κ δ ε α)
    (Q : α → Running σ κ Empty → Prop) (x : Running σ κ δ) : (t.atCommit fire x.queue).Wp D E Q ⟨x.state, x.held, []⟩ ↔
      t.Wp D E (fun a y => (forEach fire y.queue).Wp D E (fun _ z => Q a z)
        ⟨y.state, y.held, []⟩) x := by
  induction t generalizing x with
  | done a => simp only [atCommit, wp_bind, wp_done]
  | raise e => rfl
  | read next ih => exact forall₂_congr fun s₀ _ => ih _ x
  | lock k next ih => exact ih (x.hold k)
  | tryLock k next ih => exact and_congr (ih true (x.hold k)) (ih false x)
  | write f next ih => exact and_congr_right fun _ => ih (x.apply f)
  | defer d next ih => exact ih (x.push [d])

lemma Wp.perform {a : α} {s' : σ} {q' : List δ} (h : t.Wp D E Q x) (ht : t.perform x.state x.queue = .ok (a, s', q')) :
    ∃ held, Q a ⟨s', held, q'⟩ := by
  induction t generalizing x with
  | done b =>
    cases ht
    exact ⟨x.held, h⟩
  | raise e => cases ht
  | read next ih => exact ih _ (h _ (D.view_refl _ _)) ht
  | lock k next ih => exact ih h ht
  | tryLock k next ih => exact ih true h.1 ht
  | write f next ih => exact ih h.2 ht
  | defer d next ih => exact ih h ht

def Returns (P : α → Prop) : Txn σ κ δ ε α → Prop
  | done a => P a
  | raise _ => True
  | read next => ∀ s, (next s).Returns P
  | lock _ next => next.Returns P
  | tryLock _ next => ∀ b, (next b).Returns P
  | write _ next => next.Returns P
  | defer _ next => next.Returns P

lemma returns_of_forall {P : α → Prop} (h : ∀ a, P a) (t : Txn σ κ δ ε α) : t.Returns P := by
  induction t with
  | done a => exact h a
  | raise e => trivial
  | read next ih => exact ih
  | lock k next ih => exact ih
  | tryLock k next ih => exact ih
  | write f next ih => exact ih
  | defer d next ih => exact ih

lemma Returns.bind {P : α → Prop} {P' : β → Prop} {f : α → Txn σ κ δ ε β}
    (h : t.Returns P) (hf : ∀ a, P a → (f a).Returns P') : (t >>= f).Returns P' := by
  change (t.bind f).Returns P'
  induction t with
  | done a => exact hf a h
  | raise e => trivial
  | read next ih => exact fun s => ih s (h s)
  | lock k next ih => exact ih h
  | tryLock k next ih => exact fun b => ih b (h b)
  | write g next ih => exact ih h
  | defer d next ih => exact ih h

lemma Returns.atCommit {P : α → Prop} (h : t.Returns P)
    (fire : δ → Txn σ κ Empty ε Unit) (queue : List δ) : (t.atCommit fire queue).Returns P := by
  induction t generalizing queue with
  | done a => exact (returns_of_forall (fun _ => trivial) _).bind (P := fun _ => True) fun _ _ => h
  | raise e => trivial
  | read next ih => exact fun s => ih s (h s) queue
  | lock k next ih => exact ih h queue
  | tryLock k next ih => exact fun b => ih b (h b) queue
  | write f next ih => exact ih h queue
  | defer d next ih => exact ih h (queue ++ [d])

end Txn

variable {D : Discipline σ κ} {r : Except ε α}

lemma Eval.returns {s : σ} {t : Txn σ κ δ ε α} {x y : Pending σ κ δ}
    {P : α → Prop} (h : Eval D s t x r y) (ht : t.Returns P) {a : α} (hr : r = .ok a) : P a := by
  induction h with
  | done =>
    cases hr
    exact ht
  | raise => cases hr
  | read _ _ ih => exact ih (ht _) hr
  | lock _ ih => exact ih ht hr
  | take _ ih => exact ih (ht true) hr
  | skip _ ih => exact ih (ht false) hr
  | write _ ih => exact ih ht hr
  | defer _ ih => exact ih ht hr

lemma Eval.wp {s : σ} {t : Txn σ κ δ ε α} {x y : Pending σ κ δ}
    {E : ε → Prop} {Q : α → Running σ κ δ → Prop} (h : Eval D s t x r y)
    (hx : D.Respects x.held x.own) (hw : t.Wp D E Q ⟨x.own s, x.held, x.queue⟩) :
    (∀ a, r = .ok a → Q a ⟨y.own s, y.held, y.queue⟩) ∧ (∀ e, r = .error e → E e) := by
  induction h with
  | done =>
    constructor
    · rintro a ⟨⟩
      exact hw
    · rintro e ⟨⟩
  | raise =>
    constructor
    · rintro a ⟨⟩
    · rintro e ⟨⟩
      exact hw
  | read hv _ ih => exact ih hx (hw _ (hx.view hv))
  | lock _ ih => exact ih (hx.mono fun k hk => List.mem_cons_of_mem _ hk) hw
  | take _ ih => exact ih (hx.mono fun k hk => List.mem_cons_of_mem _ hk) hw.1
  | skip _ ih => exact ih hx hw.2
  | write _ ih => exact ih (hw.1.comp hx) hw.2
  | defer _ ih => exact ih hx hw

variable {Q : α → Running σ κ Empty → Prop}

lemma Eval.commits {s : σ} {t : Txn σ κ δ ε α} {y : Pending σ κ Empty}
    {E : ε → Prop}
    {fire : δ → Txn σ κ Empty ε Unit} (h : Eval D s (t.atCommit fire []) .init r y)
    (hw : t.Wp D E (fun a y => (Txn.forEach fire y.queue).Wp D E (fun _ z => Q a z)
      ⟨y.state, y.held, []⟩) ⟨s, [], []⟩) :
    (∀ a, r = .ok a → Q a ⟨y.own s, y.held, y.queue⟩) ∧ (∀ e, r = .error e → E e) :=
  h.wp (D.respects_id []) ((Txn.wp_atCommit fire t Q ⟨s, [], []⟩).2 hw)

lemma Eval.commits_plain {s : σ} {t : Txn σ κ Empty ε α} {y : Pending σ κ Empty}
    {E : ε → Prop}
    {fire : Empty → Txn σ κ Empty ε Unit} (h : Eval D s (t.atCommit fire []) .init r y) (hw : t.Wp D E Q ⟨s, [], []⟩) :
    (∀ a, r = .ok a → Q a ⟨y.own s, y.held, y.queue⟩) ∧ (∀ e, r = .error e → E e) := by
  rw [Txn.atCommit_empty] at h
  exact h.wp (D.respects_id []) hw

end ReadCommitted
