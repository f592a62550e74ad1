import RelayPay.Specs.Finalizer

/-! What the ledger functions and the finalizer need to come to their end when nothing else runs. -/

namespace RelayPay

open ReadCommitted Txn

variable {w : World} {q : List Deferred}

lemma runs_account (code : AccountCode) (m : Option MerchantId) {Q : Account → World → List Deferred → Prop} :
    (account code m).Runs Q w q ↔ (⟨code, m⟩ : Account) ∈ w.accounts ∧ Q ⟨code, m⟩ w q := by
  simp [account]

lemma runs_platformAccount (code : AccountCode) {Q : Account → World → List Deferred → Prop} :
    (platformAccount code).Runs Q w q ↔ Q ⟨code, none⟩ (w.addAccount ⟨code, none⟩) q := by
  simp only [platformAccount, runs_bind, runs_modify, runs_account, mem_addAccount, or_true, true_and]

lemma runs_entryIf_account (amount : ℤ) (side : Side) (code : AccountCode) (m : Option MerchantId)
    {Q : List Posting → World → List Deferred → Prop} (hm : (⟨code, m⟩ : Account) ∈ w.accounts) :
    (entryIf amount side (account code m)).Runs Q w q ↔ Q (entry amount side ⟨code, m⟩) w q := by
  by_cases hz : amount = 0 <;> simp [entryIf, entry, hz, runs_account, hm]

def World.charged (w : World) (amount : ℤ) (code : AccountCode) : World :=
  if amount ≠ 0 then w.addAccount ⟨code, none⟩ else w

lemma World.charged_eq (w : World) (amount : ℤ) (code : AccountCode) :
    w.charged amount code = { w with accounts := (w.charged amount code).accounts } := by
  rw [World.charged]
  split <;> rfl

lemma runs_entryIf_platformAccount (amount : ℤ) (side : Side) (code : AccountCode)
    {Q : List Posting → World → List Deferred → Prop} : (entryIf amount side (platformAccount code)).Runs Q w q ↔
      Q (entry amount side ⟨code, none⟩) (w.charged amount code) q := by
  by_cases hz : amount = 0 <;> simp [entryIf, entry, World.charged, hz, runs_platformAccount]

structure Journal.Accepted (j : Journal) (w : World) : Prop where
  total : 0 < sideTotal .debit j.postings
  balanced : sideTotal .debit j.postings = sideTotal .credit j.postings
  positive : ∀ e ∈ j.postings, 0 < e.amount
  fresh : w.hasJournal j.id = false

def Journal.triggers (j : Journal) : List Deferred := j.postings.map fun e => .posting e.account e.side

variable {Q : Unit → World → List Deferred → Prop}

lemma runs_postJournal (j : Journal) : (postJournal j.id j.merchant j.operation j.postings).Runs Q w q ↔
      j.Accepted w ∧ Q () (w.addJournal j) (q ++ j.triggers) := by
  simp only [postJournal, runs_bind, runs_ensure, runs_acquire, runs_query, runs_modify, runs_enqueueAll,
    not_or, not_le, not_not]
  constructor
  · rintro ⟨⟨htotal, hbalanced⟩, hpositive, hfresh, hQ⟩
    exact ⟨⟨htotal, hbalanced, hpositive, hfresh⟩, hQ⟩
  · rintro ⟨h, hQ⟩
    exact ⟨⟨h.total, h.balanced⟩, h.positive, h.fresh, hQ⟩

def BalanceTransaction.Moves (b : BalanceTransaction) : Prop :=
  b.pendingDelta ≠ 0 ∨ b.availableDelta ≠ 0 ∨ b.receivableDelta ≠ 0 ∨ b.payoutClearingDelta ≠ 0

lemma runs_addBalanceTransaction (b : BalanceTransaction) :
    (addBalanceTransaction b).Runs Q w q ↔ b.Moves ∧ Q () (w.addBalanceTransaction b) q := by
  simp only [addBalanceTransaction, runs_bind, runs_ensure, runs_modify, BalanceTransaction.Moves]

lemma runs_transition {p : PaymentId} {a : PaymentIntent} {target : PaymentStatus} {reason : StatusReason}
    {actor : Actor} (ha : w.payments.get p = some a) :
    (transition p a target reason actor).Runs Q w q ↔ isAllowed a.status target = true ∧
      Q () (w.putPayment p (a.moved target reason actor)) q := by
  simp [transition, ha]

lemma runs_lockedGraph {o : OperationId} {Q : PaymentIntent × ProviderOperation → World → List Deferred → Prop} :
    (lockedGraph o).Runs Q w q ↔ ∃ a op, w.payments.get o.payment = some a ∧
      w.operations.get o = some op ∧ a.hasResource o = true ∧ Q (a, op) w q := by
  simp only [lockedGraph, runs_bind, runs_query, runs_require, runs_acquire, runs_ensure, runs_done]
  constructor
  · rintro ⟨-, -, a, ha, op, hop, hr, hQ⟩
    exact ⟨a, op, ha, hop, hr, hQ⟩
  · rintro ⟨a, op, ha, hop, hr, hQ⟩
    exact ⟨op, hop, a, ha, op, hop, hr, hQ⟩

def Verdict.announces (v : Verdict) (o : OperationId) : Option String :=
  if v.succeeded then o.eventType else none

def World.HomeOnly (w : World) (o : OperationId) (v : Verdict) : Prop :=
  ∀ t, v.announces o = some t → ∀ e ∈ w.listeners t v.now, e.2.environment = w.environment

def World.recipients (w : World) (o : OperationId) (v : Verdict) : List EventRecipient :=
  match v.announces o with
  | some t => (w.listeners t v.now).map fun e => ⟨o, t, e.1⟩
  | none => []

lemma runs_appendRecipients (o : OperationId) (v : Verdict) : (appendRecipients o v).Runs Q w q ↔
      w.HomeOnly o v ∧ Q () (w.addRecipients (w.recipients o v)) q := by
  have hnone : w.addRecipients [] = w := by simp [World.addRecipients]
  cases ht : o.eventType with
  | none => simp [appendRecipients, World.HomeOnly, World.recipients, Verdict.announces, ht, hnone]
  | some t =>
    cases hv : v.succeeded <;>
      simp [appendRecipients, World.HomeOnly, World.recipients, Verdict.announces, ht, hv, hnone]

def World.announced (w : World) (o : OperationId) (op : ProviderOperation) (v : Verdict) (amount : ℤ)
    (evidence : ℕ) (c : Classification) (actor : Actor) : World :=
  ((w.addRecipients (w.recipients o v)).putOperation o
    (op.finalized o v amount evidence c actor)).updateRecords
      fun _ => finalizeRecord o (terminalResponse o amount v) v.now

lemma runs_finalizeVerifiedAttempt {o : OperationId} {a : PaymentIntent} {op : ProviderOperation}
    {evidence : ℕ} {c : Classification} {v : Verdict} {amount : ℤ} {actor : Actor}
    (ha : w.payments.get o.payment = some a) (hop : w.operations.get o = some op) (hr : a.hasResource o = true)
    (hopen : op.status.terminal = false) (hv : verdictOf op evidence w.now = .ok (c, v))
    (hamount : a.resourceAmount o = some amount) : (finalizeVerifiedAttempt o evidence actor).Runs Q w q ↔
      (finalizeResource o a v actor).Runs (fun _ w' q' =>
        (v.succeeded = true → (op.events.all fun e => some e.eventType ≠ o.eventType) = true) ∧
        w'.HomeOnly o v ∧ Q () (w'.announced o op v amount evidence c actor) q') w q := by
  have hnow := verdictOf_now hv
  rw [← hnow] at hv
  rw [finalizeVerifiedAttempt, runs_bind, runs_lockedGraph]
  simp only [ha, hop, hr, Option.some.injEq, exists_and_left, exists_eq_left', true_and, hopen,
    Bool.false_eq_true, if_false, runs_bind, runs_query, ← hnow, hv, hamount, runs_require, runs_ensure,
    runs_appendRecipients, runs_modify]
  rfl

end RelayPay
