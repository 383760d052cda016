import Mathlib.Data.List.Basic

/-!
# Event names, domain events and the transport envelope

The Go `int` is `Int64`, so arithmetic wraps as it does at run time. A time is
the instant it denotes; locations and monotonic readings have no observer here.
An interface value of type `cqrs.DomainEvent` is one of the three structs which
implement it, or `none` for the nil interface.
-/

namespace GoOdin

/-- An instant, in nanoseconds since the Unix epoch. -/
structure Time where
  unixNano : Int
  deriving DecidableEq, Repr

/-- The zero `time.Time`: January 1 of year 1, UTC. -/
def Time.zero : Time := ⟨-62135596800000000000⟩

namespace Events

def loyaltyCredited : String := "loyalty.account.credited"
def loyaltyCreditFailed : String := "loyalty.account.credit_failed"
def orderCompleted : String := "orders.order.completed"
def orderFulfillmentReady : String := "orders.fulfillment.ready"

/-- The saga spells this topic out; `pkg/events` has no constant for it. -/
def inventoryReserved : String := "inventory.stock.reserved"

end Events

structure LoyaltyCreditedEvent where
  loyaltyAccountID : String
  customerID : String
  orderID : String
  pointsEarned : Int64
  newBalance : Int64
  newTier : String
  occurredAt : Time
  deriving DecidableEq, Repr

structure LoyaltyCreditFailedEvent where
  customerID : String
  orderID : String
  reason : String
  occurredAt : Time
  deriving DecidableEq, Repr

structure OrderCompletedPayload where
  orderID : String
  customerID : String
  totalAmount : Float
  deriving Repr

/-- A non-nil `cqrs.DomainEvent`, by its dynamic type. -/
inductive DomainEvent where
  | loyaltyCredited (event : LoyaltyCreditedEvent)
  | loyaltyCreditFailed (event : LoyaltyCreditFailedEvent)
  | orderCompleted (payload : OrderCompletedPayload)
  deriving Repr

/-- The `OccurredAt` method. An order payload carries no time of its own. -/
def DomainEvent.occurredAt : DomainEvent → Time
  | .loyaltyCredited event => event.occurredAt
  | .loyaltyCreditFailed event => event.occurredAt
  | .orderCompleted _ => Time.zero

/-- `cqrs.EventEnvelope`. Fields a composite literal leaves out have their Go
zero values. -/
structure EventEnvelope where
  eventID : String
  correlationID : String
  causationID : String
  eventName : String
  occurredAt : Time := Time.zero
  otelCarrier : List (String × String) := []
  payload : Option DomainEvent := none
  deriving Repr

end GoOdin
