import GoOdin.Cqrs.Codec
import GoOdin.Orders.OrderRepository

/-!
# `OrderDetailListenerImpl`

The orders context answers requests for the details of an order. A request that does not
decode and one for an order that is not found are logged and get no answer at all; whoever
asked waits until their own timeout.

The data of a message is a JSON document, or nothing: a reply whose encoding failed is sent
as an empty message, since the error of `json.Marshal` is dropped.
-/

namespace GoOdin.Orders

/-- `msg.Data`. None is no bytes. -/
abbrev MsgData := Option Json

structure OrderDetailRequestWire where
  orderID : String := ""

structure OrderDetailReplyWire where
  orderID : String
  customerName : String
  totalAmount : Float
  status : String

def subjectGetOrderDetail : String := "orders.get.detail"

namespace OrderDetailRequestWire

def decodeField (req : OrderDetailRequestWire) (entry : String × Json) :
    Except UnmarshalTypeError OrderDetailRequestWire :=
  match entry.1 with
  | "order_id" => do return { req with orderID := ← decodeString entry.1 req.orderID entry.2 }
  | _ => .ok req

/-- `json.Unmarshal(msg.Data, &req)`; no bytes are no document. -/
def unmarshal : MsgData → Option OrderDetailRequestWire
  | none => none
  | some .null => some {}
  | some (.obj fields) => (fields.foldlM decodeField {}).toOption
  | some _ => none

end OrderDetailRequestWire

/-- A `float64` field. -/
def decodeFloat (field : String) (old : Float) : Json → Except UnmarshalTypeError Float
  | .null => .ok old
  | .float value => .ok value
  | .int value => .ok (Float.ofInt value.toInt)
  | _ => .error ⟨field⟩

def OrderDetailReplyWire.marshal (reply : OrderDetailReplyWire) : Except MarshalError Json := do
  let totalAmount ← marshalFloat reply.totalAmount
  return .obj
    [("order_id", .str reply.orderID), ("customer_name", .str reply.customerName),
      ("total_amount", totalAmount), ("status", .str reply.status)]

/-- The callback that `Start` subscribes: the reply it sends, if it sends one. -/
def OrderDetailListenerImpl.onMessage (repo : Tables) (msg : MsgData) : Option MsgData :=
  match OrderDetailRequestWire.unmarshal msg with
  | none => none
  | some req =>
      match OrderGormRepository.findByID repo req.orderID with
      | none => none
      | some order =>
          some (OrderDetailReplyWire.marshal
            ⟨order.id, order.customerName, order.totalAmount, order.status⟩).toOption

end GoOdin.Orders
