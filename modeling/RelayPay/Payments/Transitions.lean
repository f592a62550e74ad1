import RelayPay.Schema

namespace RelayPay

open ReadCommitted Txn

def allowedTransitions : List (PaymentStatus × PaymentStatus) := [
  (.created, .requiresAction),
  (.created, .authorised),
  (.created, .failed),
  (.created, .cancelled),
  (.requiresAction, .authorised),
  (.requiresAction, .failed),
  (.requiresAction, .cancelled),
  (.requiresAction, .expired),
  (.authorised, .captured),
  (.authorised, .cancelled),
  (.authorised, .expired),
  (.authorised, .failed),
  (.captured, .partiallyRefunded),
  (.captured, .refunded),
  (.partiallyRefunded, .partiallyRefunded),
  (.partiallyRefunded, .refunded)]

def isAllowed (source target : PaymentStatus) : Bool := (source, target) ∈ allowedTransitions

def PaymentIntent.create (customer : ℕ) (merchant : MerchantId) (merchantReference : String)
    (amount : ℤ) (actor : Actor) : PaymentIntent where
  customer := customer
  merchant := merchant
  merchantReference := merchantReference
  amount := amount
  status := .created
  statusVersion := 0
  history := [⟨none, .created, .paymentCreated, actor, 0⟩]
  authorization := none
  capture := none
  void := none
  refunds := .empty

def PaymentIntent.moved (a : PaymentIntent) (target : PaymentStatus) (reason : StatusReason)
    (actor : Actor) : PaymentIntent :=
  { a with
    status := target
    statusVersion := a.statusVersion + 1
    history := a.history ++ [⟨some a.status, target, reason, actor, a.statusVersion + 1⟩] }

def transition (p : PaymentId) (a : PaymentIntent) (target : PaymentStatus) (reason : StatusReason)
    (actor : Actor) : Tx Unit := do
  acquire (.payment p)
  let row ← query fun w => w.payments.get p
  let current ← require row (.runtime "payment intent vanished while transitioning")
  ensure (current.status = a.status ∧ current.statusVersion = a.statusVersion)
    (relayPay "PAYMENT_STATE_STALE"
      "The payment changed since it was loaded; reload it under the payment lock" 409
      [("expectedStatus", .str a.status.text), ("actualStatus", .str current.status.text)])
  ensure (isAllowed current.status target = true)
    (relayPay "ILLEGAL_PAYMENT_TRANSITION"
      ("Payment cannot move from " ++ current.status.text ++ " to " ++ target.text) 409
      [("from", .str current.status.text), ("to", .str target.text)])
  modify fun w => w.putPayment p (a.moved target reason actor)

end RelayPay
