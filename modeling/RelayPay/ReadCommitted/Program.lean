import Mathlib.Tactic.Common

namespace ReadCommitted

/-- A transaction that reads and writes a state `σ`, takes locks `κ`, queues deferred
triggers `δ`, fails with `ε` and returns `α`. Each `read` is one statement with its own snapshot. -/
inductive Txn (σ κ δ ε α : Type) where
  | done (a : α)
  | raise (e : ε)
  | read (next : σ → Txn σ κ δ ε α)
  | lock (k : κ) (next : Txn σ κ δ ε α)
  | tryLock (k : κ) (next : Bool → Txn σ κ δ ε α)
  | write (f : σ → σ) (next : Txn σ κ δ ε α)
  | defer (d : δ) (next : Txn σ κ δ ε α)

variable {σ κ δ ε α β γ : Type}

namespace Txn

protected def bind : Txn σ κ δ ε α → (α → Txn σ κ δ ε β) → Txn σ κ δ ε β
  | done a, f => f a
  | raise e, _ => raise e
  | read next, f => read fun s => (next s).bind f
  | lock k next, f => lock k (next.bind f)
  | tryLock k next, f => tryLock k fun b => (next b).bind f
  | write g next, f => write g (next.bind f)
  | defer d next, f => defer d (next.bind f)

instance : Monad (Txn σ κ δ ε) where
  pure := done
  bind := Txn.bind

def query (q : σ → α) : Txn σ κ δ ε α := read fun s => done (q s)
def acquire (k : κ) : Txn σ κ δ ε Unit := lock k (done ())
def attempt (k : κ) : Txn σ κ δ ε Bool := tryLock k done
def modify (f : σ → σ) : Txn σ κ δ ε Unit := write f (done ())

def enqueueAll : List δ → Txn σ κ δ ε Unit
  | [] => done ()
  | d :: ds => defer d (enqueueAll ds)

def ensure (c : Prop) [Decidable c] (e : ε) : Txn σ κ δ ε Unit :=
  if c then done () else raise e

def require (o : Option α) (e : ε) : Txn σ κ δ ε α :=
  match o with
  | some a => done a
  | none => raise e

def forEach (f : β → Txn σ κ δ ε Unit) : List β → Txn σ κ δ ε Unit
  | [] => done ()
  | b :: bs => f b >>= fun _ => forEach f bs

def foldOver (f : α → β → Txn σ κ δ ε α) : α → List β → Txn σ κ δ ε α
  | a, [] => done a
  | a, b :: bs => f a b >>= fun a' => foldOver f a' bs

def atCommit (fire : δ → Txn σ κ Empty ε Unit) : Txn σ κ δ ε α → List δ → Txn σ κ Empty ε α
  | done a, queue => forEach fire queue >>= fun _ => done a
  | raise e, _ => raise e
  | read next, queue => read fun s => (next s).atCommit fire queue
  | lock k next, queue => lock k (next.atCommit fire queue)
  | tryLock k next, queue => tryLock k fun b => (next b).atCommit fire queue
  | write f next, queue => write f (next.atCommit fire queue)
  | defer d next, queue => next.atCommit fire (queue ++ [d])

lemma atCommit_empty (fire : Empty → Txn σ κ Empty ε Unit) (t : Txn σ κ Empty ε α) : t.atCommit fire [] = t := by
  induction t with
  | done a => rfl
  | raise e => rfl
  | read next ih => exact congrArg read (funext ih)
  | lock k next ih => exact congrArg (lock k) ih
  | tryLock k next ih => exact congrArg (tryLock k) (funext ih)
  | write f next ih => exact congrArg (write f) ih
  | defer d => exact d.elim

def exec : Txn σ κ Empty ε α → σ → Except ε (α × σ)
  | done a, s => .ok (a, s)
  | raise e, _ => .error e
  | read next, s => (next s).exec s
  | lock _ next, s => next.exec s
  | tryLock _ next, s => (next true).exec s
  | write f next, s => next.exec (f s)

end Txn

end ReadCommitted
