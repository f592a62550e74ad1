import RelayPay.ReadCommitted.Script
import RelayPay.Schema

/-! The commerce store: orders, the payments linked to them, and the events that synchronise both. -/

namespace RelayPay.Commerce

open ReadCommitted Txn

abbrev OrderId := ℕ
abbrev LinkedPayment := ℕ

inductive OrderStatus where
  | opened | paid | refunded
  deriving DecidableEq

inductive LinkStatus where
  | linked | paid | refunded
  deriving DecidableEq

structure CommerceOrder where
  totalAmount : ℤ
  status : OrderStatus
  deriving DecidableEq

structure CommercePaymentLink where
  order : OrderId
  linkedAmount : ℤ
  status : LinkStatus
  deriving DecidableEq

inductive EventType where
  | paymentCaptured
  | refundSucceeded
  | other (text : String)
  deriving DecidableEq

structure CommerceState where
  orders : Table OrderId CommerceOrder
  links : Table LinkedPayment CommercePaymentLink
  delivered : List (LinkedPayment × EventType)

def CommerceState.start : CommerceState := ⟨.empty, .empty, []⟩

inductive CommerceKey where
  | order (o : OrderId)
  | link (p : LinkedPayment)
  deriving DecidableEq

abbrev CommerceTx (α : Type) := Txn CommerceState CommerceKey Empty Error α

namespace CommerceState

variable (s : CommerceState)

def putOrder (o : OrderId) (order : CommerceOrder) : CommerceState := { s with orders := s.orders.put o order }

def putLink (p : LinkedPayment) (link : CommercePaymentLink) : CommerceState := { s with links := s.links.put p link }

def deliver (p : LinkedPayment) (type : EventType) : CommerceState := { s with delivered := (p, type) :: s.delivered }

def paid (o : OrderId) : ℤ :=
  s.links.total fun _ link => if link.order = o ∧ link.status = .paid then link.linkedAmount else 0

def linked (o : OrderId) : ℤ := s.links.total fun _ link => if link.order = o then link.linkedAmount else 0

end CommerceState

def linkNotFound (providerEventId : String) : Error :=
  relayPay "COMMERCE_PAYMENT_LINK_NOT_FOUND" "Payment link was not found" 404
    [("providerEventId", .str providerEventId)]

def unsupported : Error :=
  relayPay "COMMERCE_EVENT_UNSUPPORTED" "Commerce synchronization does not support this event type" 422 []

def flushOrder (o : OrderId) (loaded : CommerceOrder) (status : OrderStatus) : CommerceTx Unit :=
  if status = loaded.status then done ()
  else do
    acquire (.order o)
    modify fun s => { s with orders := s.orders.update o fun order => { order with status := status } }

def markLink (p : LinkedPayment) (link : CommercePaymentLink) (status : LinkStatus) (type : EventType) :
    CommerceTx Unit :=
  modify fun s => (s.putLink p { link with status := status }).deliver p type

def synchronizeEvent (p : LinkedPayment) (type : EventType) (providerEventId : String) : CommerceTx Unit := do
  acquire (.link p)
  let found ← query fun s => s.links.get p
  let link ← require found (linkNotFound providerEventId)
  let loaded ← query fun s => s.orders.get link.order
  let order ← require loaded (.runtime "commerce order graph is missing")
  match type with
  | .paymentCaptured => do
    markLink p link .paid type
    -- the sum sees the link as this transaction leaves it and the others as they are committed
    let paid ← query fun s => s.paid link.order
    if paid = order.totalAmount then flushOrder link.order order .paid else done ()
  | .refundSucceeded => do
    flushOrder link.order order .refunded
    markLink p link .refunded type
  | .other _ => raise unsupported

inductive Caller where
  | syncing (p : LinkedPayment) (type : EventType) (providerEventId : String)
  | finished

inductive Environment : CommerceState → CommerceState → Prop
  | createOrder {s o order} : s.orders.get o = none → 0 < order.totalAmount → order.status = .opened →
      Environment s (s.putOrder o order)
  | linkPayment {s p link order} : s.links.get p = none → s.orders.get link.order = some order →
      0 < link.linkedAmount → s.linked link.order + link.linkedAmount ≤ order.totalAmount → link.status = .linked →
      Environment s (s.putLink p link)

def commerce : System CommerceState CommerceKey Empty Error Caller where
  txn
    | .syncing p type providerEventId => some do
        synchronizeEvent p type providerEventId
        done .finished
    | .finished => none
  fire := Empty.elim
  handler _ _ := .finished
  dbError _ := True
  act _ _ _ _ := False
  env := Environment
  spawn _ := True

end RelayPay.Commerce
