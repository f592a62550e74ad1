import RelayPay.ReadCommitted.Solo

/-! Transactions that do not see a part of the state. -/

namespace ReadCommitted

variable {σ κ δ ε α β : Type} {f : σ → σ}

namespace Txn

def Blind (f : σ → σ) : Txn σ κ δ ε α → Prop
  | done _ => True
  | raise _ => True
  | read next => ∀ s, next (f s) = next s ∧ (next s).Blind f
  | lock _ next => next.Blind f
  | tryLock _ next => ∀ b, (next b).Blind f
  | write g next => (∀ s, g (f s) = f (g s)) ∧ next.Blind f
  | defer _ next => next.Blind f

@[simp] lemma blind_done (a : α) : (done a : Txn σ κ δ ε α).Blind f := trivial

@[simp] lemma blind_raise (e : ε) : (raise e : Txn σ κ δ ε α).Blind f := trivial

@[simp] lemma blind_acquire (k : κ) : (acquire k : Txn σ κ δ ε Unit).Blind f := trivial

@[simp] lemma blind_ensure (c : Prop) [Decidable c] (e : ε) : (ensure c e : Txn σ κ δ ε Unit).Blind f := by
  by_cases h : c <;> simp [ensure, h]

@[simp] lemma blind_require (o : Option α) (e : ε) : (require o e : Txn σ κ δ ε α).Blind f := by
  cases o <;> simp [require]

@[simp] lemma blind_enqueueAll (ds : List δ) : (enqueueAll ds : Txn σ κ δ ε Unit).Blind f := by
  induction ds with
  | nil => trivial
  | cons d ds ih => exact ih

lemma blind_query {g : σ → α} (h : ∀ s, g (f s) = g s) : (query g : Txn σ κ δ ε α).Blind f :=
  fun s => ⟨congrArg done (h s), trivial⟩

lemma blind_modify {g : σ → σ} (h : ∀ s, g (f s) = f (g s)) : (modify g : Txn σ κ δ ε Unit).Blind f :=
  ⟨h, trivial⟩

lemma Blind.bind {t : Txn σ κ δ ε α} {k : α → Txn σ κ δ ε β} (ht : t.Blind f) (hk : ∀ a, (k a).Blind f) :
    (t >>= k).Blind f := by
  change (t.bind k).Blind f
  induction t with
  | done a => exact hk a
  | raise e => trivial
  | read next ih => exact fun s => ⟨congrArg (Txn.bind · k) (ht s).1, ih s (ht s).2⟩
  | lock key next ih => exact ih ht
  | tryLock key next ih => exact fun b => ih b (ht b)
  | write g next ih => exact ⟨ht.1, ih ht.2⟩
  | defer d next ih => exact ih ht

lemma blind_forEach {g : β → Txn σ κ δ ε Unit} (h : ∀ b, (g b).Blind f) (bs : List β) : (forEach g bs).Blind f := by
  induction bs with
  | nil => trivial
  | cons b bs ih => exact (h b).bind fun _ => ih

lemma Blind.runs {t : Txn σ κ δ ε α} (h : t.Blind f) {Q : α → σ → List δ → Prop} {s : σ} {q : List δ} :
    t.Runs Q (f s) q ↔ t.Runs (fun a s' q' => Q a (f s') q') s q := by
  induction t generalizing s q with
  | done a => rfl
  | raise e => rfl
  | read next ih =>
    change (next (f s)).Runs Q (f s) q ↔ _
    rw [(h s).1]
    exact ih s (h s).2
  | lock k next ih => exact ih h
  | tryLock k next ih => exact ih true (h true)
  | write g next ih =>
    change next.Runs Q (g (f s)) q ↔ _
    rw [h.1 s]
    exact ih h.2
  | defer d next ih => exact ih h

end Txn

end ReadCommitted
