import RelayPay.Payments.Commands

namespace RelayPay

open ReadCommitted Txn

def PaymentIntent.inFlight (a : PaymentIntent) : Bool := a.capture.isSome || (openVoid a).isSome

def PaymentIntent.expirable (a : PaymentIntent) (now : Time) : Bool :=
  a.status = .authorised &&
    ((succeededAuthorization a).any fun x => x.expiresAt.any fun t => t ≤ now) && !a.inFlight

def PaymentIntent.holdEnd (a : PaymentIntent) : Time := (a.authorization.bind (·.expiresAt)).getD 0

def World.expirable (w : World) (now : Time) (limit : ℕ) : List PaymentId :=
  (((w.payments.rows.filter fun e => e.2.expirable now).insertionSort fun a b =>
    a.2.holdEnd ≤ b.2.holdEnd).take limit).map Prod.fst

def expireOne (expired : ℕ) (p : PaymentId) : Tx ℕ := do
  let row ← query fun w => w.payments.get p
  let a ← require row (.runtime "payment intent vanished while transitioning")
  let inFlight ← query fun w => (w.payments.get p).any PaymentIntent.inFlight
  if inFlight then done expired
  else do
    transition p a .expired .authorizationExpired .expiryWorker
    done (expired + 1)

def expireAuthorizations (batchSize : ℕ) : Tx ℕ := do
  let now ← query World.now
  let candidates ← query fun w => w.expirable now batchSize
  let payments ← skipLocked Key.payment
    (fun w p => (w.payments.get p).any fun a => a.status = .authorised) candidates
  foldOver expireOne 0 payments

end RelayPay
