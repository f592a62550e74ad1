import RelayPay.Payouts
import RelayPay.ReadCommitted.Solo

/-! The three ways to reserve a payout: a row lock, a compare-and-swap on its version, the coverage trigger alone. -/

namespace RelayPay.Locking

open ReadCommitted Txn

inductive Raised where
  | statement (e : Error)
  | atCommit (e : Error)

def Raised.error : Raised → Error
  | statement e => e
  | atCommit e => e

def integrityError : Error → Bool
  | .integrity => true
  | _ => false

def staleBalanceVersion : Error → Bool
  | .staleBalanceVersion => true
  | _ => false

def insufficientBalance : Error → Bool
  | .relayPay e => e.code = "INSUFFICIENT_PAYOUT_BALANCE"
  | _ => false

def Raised.checkViolation : Raised → Bool
  | atCommit .integrity => true
  | _ => false

def transact {α : Type} (t : Tx α) (w : World) : Except Raised (α × World) :=
  match t.perform w [] with
  | .error e => .error (.statement e)
  | .ok (a, w', queue) =>
    match (forEach validatePayoutCoverage queue).exec w' with
    | .error e => .error (.atCommit e)
    | .ok (_, w'') => .ok (a, w'')

structure ReserveRequest where
  merchant : MerchantId
  beneficiary : BeneficiaryId
  amount : ℤ
  keyDigest : KeyDigest
  fingerprint : Digest

def ReserveRequest.command (r : ReserveRequest) (guard : ReservationGuard) (id : PayoutId) : CreatePayout :=
  ⟨id, r.merchant, r.beneficiary, r.amount, r.keyDigest, r.fingerprint, guard⟩

def createPayout (r : ReserveRequest) (guard : ReservationGuard) (ids : ℕ → PayoutId) (n : ℕ) (w : World) :
    Except Raised (Reply × World) :=
  match transact (createPayoutTransaction (r.command guard (ids n))) w with
  | .error e =>
    if integrityError e.error then transact (createPayoutTransaction (r.command guard (ids (n + 1)))) w else .error e
  | .ok x => .ok x

inductive Reserver where
  | pessimistic
  | optimistic (maxAttempts : ℕ)
  | constraintGuard

def Reserver.guard : Reserver → ReservationGuard
  | pessimistic => .rowLock
  | optimistic _ => .version
  | constraintGuard => .constraint

def defaultMaxAttempts : ℕ := 1000

inductive ReserveError where
  | raised (e : Error)
  | optimisticReservationExhausted (maxAttempts : ℕ)
  | lookup (message : String)
  | malformed

abbrev Execution := Except ReserveError (Option (Reply × World) × ℕ)

def retrying (create : ℕ → Except Raised (Reply × World)) (maxAttempts : ℕ) : ℕ → ℕ → Execution
  | 0, _ => .error (.optimisticReservationExhausted maxAttempts)
  | k + 1, attempt =>
    match create (2 * (attempt - 1)) with
    | .ok x => .ok (some x, attempt)
    | .error e =>
      if staleBalanceVersion e.error then retrying create maxAttempts k (attempt + 1)
      else if insufficientBalance e.error then .ok (none, attempt)
      else .error (.raised e.error)

def Reserver.execute (create : ℕ → Except Raised (Reply × World)) : Reserver → Execution
  | pessimistic =>
    match create 0 with
    | .ok x => .ok (some x, 1)
    | .error e => if insufficientBalance e.error then .ok (none, 1) else .error (.raised e.error)
  | optimistic maxAttempts => retrying create maxAttempts maxAttempts 1
  | constraintGuard =>
    match create 0 with
    | .ok x => .ok (some x, 1)
    | .error e =>
      if integrityError e.error then
        if e.checkViolation then .ok (none, 1) else .error (.raised e.error)
      else if insufficientBalance e.error then .ok (none, 1)
      else .error (.raised e.error)

inductive ReserveStatus where
  | reserved | insufficient | replayed
  deriving DecidableEq

structure ReserveOutcome where
  status : ReserveStatus
  payoutId : Option PayoutId
  attempts : ℕ
  deriving DecidableEq

def outcome (loads : Bytes → Option Json) (reply : Reply) (attempts : ℕ) (w : World) :
    Except ReserveError ReserveOutcome :=
  match (loads reply.body).bind (·.get? "id") with
  | some (.str id) =>
    match w.payouts.rows.find? fun e => publicId "pot" e.1 = id with
    | some e => .ok ⟨if reply.replayed then .replayed else .reserved, some e.1, attempts⟩
    | none => .error (.lookup ("payout " ++ id ++ " not found after creation"))
  | _ => .error .malformed

def publicIdsKnown (r : ReserveRequest) (w : World) : Bool :=
  (w.merchants.get r.merchant).isSome && (w.beneficiaries.get r.beneficiary).isSome

def reserve (loads : Bytes → Option Json) (reserver : Reserver) (r : ReserveRequest) (ids : ℕ → PayoutId)
    (w : World) : Except ReserveError ReserveOutcome × World :=
  if publicIdsKnown r w then
    match reserver.execute fun n => createPayout r reserver.guard ids n w with
    | .error e => (.error e, w)
    | .ok (none, attempts) => (.ok ⟨.insufficient, none, attempts⟩, w)
    | .ok (some (reply, w'), attempts) => (outcome loads reply attempts w', w')
  else (.error (.lookup "environment, merchant account or beneficiary not found"), w)

def reserveAll (loads : Bytes → Option Json) :
    List (Reserver × ReserveRequest × (ℕ → PayoutId)) → World → List (Except ReserveError ReserveOutcome) × World
  | [], w => ([], w)
  | (reserver, r, ids) :: rest, w =>
    let first := reserve loads reserver r ids w
    let later := reserveAll loads rest first.2
    (first.1 :: later.1, later.2)

end RelayPay.Locking
