import RelayPay.ReadCommitted.Program

/-! A transaction that runs by itself: what it takes for it to come to its end. -/

namespace ReadCommitted

variable {σ κ δ ε α β : Type}

namespace Txn

/-- Run by itself from `s` with the triggers `q` queued, `t` raises nothing and ends in `Q`. -/
def Runs : Txn σ κ δ ε α → (α → σ → List δ → Prop) → σ → List δ → Prop
  | done a, Q, s, q => Q a s q
  | raise _, _, _, _ => False
  | read next, Q, s, q => (next s).Runs Q s q
  | lock _ next, Q, s, q => next.Runs Q s q
  | tryLock _ next, Q, s, q => (next true).Runs Q s q
  | write f next, Q, s, q => next.Runs Q (f s) q
  | defer d next, Q, s, q => next.Runs Q s (q ++ [d])

variable {Q : α → σ → List δ → Prop} {s : σ} {q : List δ}

variable {t : Txn σ κ δ ε α} {Q' : α → σ → List δ → Prop}

lemma Runs.imp (h : t.Runs Q s q) (hQ : ∀ a s q, Q a s q → Q' a s q) : t.Runs Q' s q := by
  induction t generalizing s q with
  | done a => exact hQ a s q h
  | raise e => exact h
  | read next ih => exact ih s h
  | lock k next ih => exact ih h
  | tryLock k next ih => exact ih true h
  | write f next ih => exact ih h
  | defer d next ih => exact ih h

lemma runs_congr (h : ∀ a s q, Q a s q ↔ Q' a s q) : t.Runs Q s q ↔ t.Runs Q' s q :=
  ⟨fun ht => ht.imp fun a s q => (h a s q).1, fun ht => ht.imp fun a s q => (h a s q).2⟩

@[simp] lemma runs_done (a : α) : (done a : Txn σ κ δ ε α).Runs Q s q ↔ Q a s q := Iff.rfl

@[simp] lemma runs_raise (e : ε) : (raise e : Txn σ κ δ ε α).Runs Q s q ↔ False := Iff.rfl

@[simp] lemma runs_query (g : σ → α) : (query g : Txn σ κ δ ε α).Runs Q s q ↔ Q (g s) s q := Iff.rfl

@[simp] lemma runs_acquire (k : κ) (Q : Unit → σ → List δ → Prop) :
    (acquire k : Txn σ κ δ ε Unit).Runs Q s q ↔ Q () s q := Iff.rfl

@[simp] lemma runs_attempt (k : κ) (Q : Bool → σ → List δ → Prop) :
    (attempt k : Txn σ κ δ ε Bool).Runs Q s q ↔ Q true s q := Iff.rfl

@[simp] lemma runs_modify (f : σ → σ) (Q : Unit → σ → List δ → Prop) :
    (modify f : Txn σ κ δ ε Unit).Runs Q s q ↔ Q () (f s) q := Iff.rfl

@[simp] lemma runs_enqueueAll (ds : List δ) (Q : Unit → σ → List δ → Prop) :
    (enqueueAll ds : Txn σ κ δ ε Unit).Runs Q s q ↔ Q () s (q ++ ds) := by
  induction ds generalizing q with
  | nil => simp [enqueueAll]
  | cons d ds ih =>
    have happend : q ++ d :: ds = (q ++ [d]) ++ ds := by simp
    rw [happend, ← ih]
    rfl

@[simp] lemma runs_ensure (c : Prop) [Decidable c] (e : ε) (Q : Unit → σ → List δ → Prop) :
    (ensure c e : Txn σ κ δ ε Unit).Runs Q s q ↔ c ∧ Q () s q := by
  by_cases h : c <;> simp [ensure, h]

@[simp] lemma runs_require (o : Option α) (e : ε) :
    (require o e : Txn σ κ δ ε α).Runs Q s q ↔ ∃ a, o = some a ∧ Q a s q := by
  cases o <;> simp [require]

@[simp] lemma runs_bind (t : Txn σ κ δ ε α) (f : α → Txn σ κ δ ε β) {Q : β → σ → List δ → Prop} :
    (t >>= f).Runs Q s q ↔ t.Runs (fun a s q => (f a).Runs Q s q) s q := by
  change (t.bind f).Runs Q s q ↔ _
  induction t generalizing s q with
  | done a => rfl
  | raise e => rfl
  | read next ih => exact ih s
  | lock k next ih => exact ih
  | tryLock k next ih => exact ih true
  | write g next ih => exact ih
  | defer d next ih => exact ih

lemma Runs.ends (h : t.Runs Q s q) : ∃ a s' q', ∀ Q' : α → σ → List δ → Prop, t.Runs Q' s q ↔ Q' a s' q' := by
  induction t generalizing s q with
  | done a => exact ⟨a, s, q, fun _ => Iff.rfl⟩
  | raise e => exact h.elim
  | read next ih => exact ih s h
  | lock k next ih => exact ih h
  | tryLock k next ih => exact ih true h
  | write f next ih => exact ih h
  | defer d next ih => exact ih h

lemma runs_forEach {f : β → Txn σ κ δ ε Unit} (I : List β → σ → List δ → Prop)
    (hstep : ∀ b bs s q, I (b :: bs) s q → (f b).Runs (fun _ s' q' => I bs s' q') s q) :
    ∀ (bs : List β) (s : σ) (q : List δ), I bs s q → (forEach f bs).Runs (fun _ s' q' => I [] s' q') s q := by
  intro bs
  induction bs with
  | nil => exact fun s q h => h
  | cons b bs ih =>
    intro s q h
    rw [forEach, runs_bind]
    exact (hstep b bs s q h).imp fun _ s' q' h' => ih s' q' h'

lemma exec_bind (t : Txn σ κ Empty ε α) (f : α → Txn σ κ Empty ε β) (s : σ) :
    (t >>= f).exec s = t.exec s >>= fun x => (f x.1).exec x.2 := by
  change (t.bind f).exec s = _
  induction t generalizing s with
  | done a => rfl
  | raise e => rfl
  | read next ih => exact ih s s
  | lock k next ih => exact ih s
  | tryLock k next ih => exact ih true s
  | write g next ih => exact ih (g s)
  | defer d => exact d.elim

lemma exec_bind_ok {t : Txn σ κ Empty ε α} {a : α} {s' : σ} (h : t.exec s = .ok (a, s'))
    (f : α → Txn σ κ Empty ε β) : (t >>= f).exec s = (f a).exec s' := by
  rw [exec_bind, h]
  rfl

lemma exec_bind_error {t : Txn σ κ Empty ε α} {e : ε} (h : t.exec s = .error e)
    (f : α → Txn σ κ Empty ε β) : (t >>= f).exec s = .error e := by
  rw [exec_bind, h]
  rfl

@[simp] lemma exec_query_bind (q : σ → α) (f : α → Txn σ κ Empty ε β) :
    (query q >>= f).exec s = (f (q s)).exec s := rfl

@[simp] lemma exec_acquire_bind (k : κ) (f : Unit → Txn σ κ Empty ε β) :
    (acquire k >>= f).exec s = (f ()).exec s := rfl

@[simp] lemma exec_attempt_bind (k : κ) (f : Bool → Txn σ κ Empty ε β) :
    (attempt k >>= f).exec s = (f true).exec s := rfl

@[simp] lemma exec_modify_bind (g : σ → σ) (f : Unit → Txn σ κ Empty ε β) :
    (modify g >>= f).exec s = (f ()).exec (g s) := rfl

@[simp] lemma exec_ensure (c : Prop) [Decidable c] (e : ε) :
    (ensure c e : Txn σ κ Empty ε Unit).exec s = if c then .ok ((), s) else .error e := by
  by_cases hc : c
  · rw [if_pos hc, ensure, if_pos hc]
    rfl
  · rw [if_neg hc, ensure, if_neg hc]
    rfl

@[simp] lemma exec_ensure_bind (c : Prop) [Decidable c] (e : ε) (f : Unit → Txn σ κ Empty ε β) :
    (ensure c e >>= f).exec s = if c then (f ()).exec s else .error e := by
  by_cases hc : c
  · rw [if_pos hc, ensure, if_pos hc]
    rfl
  · rw [if_neg hc, ensure, if_neg hc]
    rfl

lemma exec_iff {P : α → σ → Prop} (t : Txn σ κ Empty ε α) :
    (∃ a s', t.exec s = .ok (a, s') ∧ P a s') ↔ t.Runs (fun a s' _ => P a s') s [] := by
  induction t generalizing s with
  | done a =>
    constructor
    · rintro ⟨a', s', he, hP⟩
      cases he
      exact hP
    · exact fun hP => ⟨a, s, rfl, hP⟩
  | raise e => simp [exec]
  | read next ih => exact ih s
  | lock k next ih => exact ih
  | tryLock k next ih => exact ih true
  | write f next ih => exact ih
  | defer d => exact d.elim

def perform : Txn σ κ δ ε α → σ → List δ → Except ε (α × σ × List δ)
  | done a, s, q => .ok (a, s, q)
  | raise e, _, _ => .error e
  | read next, s, q => (next s).perform s q
  | lock _ next, s, q => next.perform s q
  | tryLock _ next, s, q => (next true).perform s q
  | write f next, s, q => next.perform (f s) q
  | defer d next, s, q => next.perform s (q ++ [d])

section Perform

variable (f : α → Txn σ κ δ ε β)

lemma perform_bind (t : Txn σ κ δ ε α) : (t >>= f).perform s q =
    t.perform s q >>= fun x => (f x.1).perform x.2.1 x.2.2 := by
  change (t.bind f).perform s q = _
  induction t generalizing s q with
  | done a => rfl
  | raise e => rfl
  | read next ih => exact ih s
  | lock k next ih => exact ih
  | tryLock k next ih => exact ih true
  | write g next ih => exact ih
  | defer d next ih => exact ih

lemma perform_bind_ok {x : α × σ × List δ} (h : t.perform s q = .ok x) :
    (t >>= f).perform s q = (f x.1).perform x.2.1 x.2.2 := by
  rw [perform_bind, h]
  rfl

lemma perform_bind_error {e : ε} (h : t.perform s q = .error e) : (t >>= f).perform s q = .error e := by
  rw [perform_bind, h]
  rfl

lemma perform_bind_eq_ok {y : β × σ × List δ} (h : (t >>= f).perform s q = .ok y) :
    ∃ x, t.perform s q = .ok x ∧ (f x.1).perform x.2.1 x.2.2 = .ok y := by
  rw [perform_bind] at h
  cases ht : t.perform s q with
  | error e =>
    rw [ht] at h
    cases h
  | ok x =>
    rw [ht] at h
    exact ⟨x, rfl, h⟩

@[simp] lemma perform_done (a : α) : (done a : Txn σ κ δ ε α).perform s q = .ok (a, s, q) := rfl

@[simp] lemma perform_raise (e : ε) : (raise e : Txn σ κ δ ε α).perform s q = .error e := rfl

@[simp] lemma perform_require (o : Option α) (e : ε) :
    (require o e : Txn σ κ δ ε α).perform s q = o.elim (.error e) fun a => .ok (a, s, q) := by
  cases o <;> rfl

@[simp] lemma perform_done_bind (a : α) : (done a >>= f).perform s q = (f a).perform s q := rfl

@[simp] lemma perform_query_bind (g : σ → α) : (query g >>= f).perform s q = (f (g s)).perform s q := rfl

@[simp] lemma perform_acquire_bind (k : κ) (f : Unit → Txn σ κ δ ε β) :
    (acquire k >>= f).perform s q = (f ()).perform s q := rfl

@[simp] lemma perform_modify_bind (g : σ → σ) (f : Unit → Txn σ κ δ ε β) :
    (modify g >>= f).perform s q = (f ()).perform (g s) q := rfl

@[simp] lemma perform_enqueueAll (ds : List δ) :
    (enqueueAll ds : Txn σ κ δ ε Unit).perform s q = .ok ((), s, q ++ ds) := by
  induction ds generalizing q with
  | nil => rw [List.append_nil, enqueueAll, perform_done]
  | cons d ds ih =>
    have hrest := ih (q := q ++ [d])
    rw [List.append_assoc] at hrest
    exact hrest

@[simp] lemma perform_enqueueAll_bind (ds : List δ) (f : Unit → Txn σ κ δ ε β) :
    (enqueueAll ds >>= f).perform s q = (f ()).perform s (q ++ ds) :=
  perform_bind_ok f (perform_enqueueAll ds)

@[simp] lemma perform_ensure_bind (c : Prop) [Decidable c] (e : ε) (f : Unit → Txn σ κ δ ε β) :
    (ensure c e >>= f).perform s q = if c then (f ()).perform s q else .error e := by
  by_cases hc : c
  · rw [if_pos hc, ensure, if_pos hc]
    rfl
  · rw [if_neg hc, ensure, if_neg hc]
    rfl

@[simp] lemma perform_require_bind (o : Option α) (e : ε) :
    (require o e >>= f).perform s q = o.elim (.error e) fun a => (f a).perform s q := by
  cases o <;> rfl

lemma perform_atCommit (fire : δ → Txn σ κ Empty ε Unit) (t : Txn σ κ δ ε α) : (t.atCommit fire q).exec s =
    t.perform s q >>= fun x => (forEach fire x.2.2).exec x.2.1 >>= fun y => .ok (x.1, y.2) := by
  induction t generalizing s q with
  | done a => exact exec_bind _ _ _
  | raise e => rfl
  | read next ih => exact ih s
  | lock k next ih => exact ih
  | tryLock k next ih => exact ih true
  | write g next ih => exact ih
  | defer d next ih => exact ih

end Perform

lemma runs_atCommit (fire : δ → Txn σ κ Empty ε Unit) (t : Txn σ κ δ ε α)
    (P : α → σ → List Empty → Prop) : (t.atCommit fire q).Runs P s [] ↔
      t.Runs (fun a s' q' => (forEach fire q').Runs (fun _ s'' r => P a s'' r) s' []) s q := by
  induction t generalizing s q with
  | done a => simp [atCommit]
  | raise e => rfl
  | read next ih => exact ih s
  | lock k next ih => exact ih
  | tryLock k next ih => exact ih true
  | write f next ih => exact ih
  | defer d next ih => exact ih

theorem commits_iff {P : α → σ → Prop} (fire : δ → Txn σ κ Empty ε Unit) (t : Txn σ κ δ ε α) :
    (∃ a s', (t.atCommit fire []).exec s = .ok (a, s') ∧ P a s') ↔
      t.Runs (fun a s' q' => (forEach fire q').Runs (fun _ s'' _ => P a s'') s' []) s [] :=
  (exec_iff _).trans (runs_atCommit fire t _)

end Txn

end ReadCommitted
