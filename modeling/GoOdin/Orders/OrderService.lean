import GoOdin.Orders.OrderRepository

/-!
# `OrderServiceImpl.CreateOrder`

The data of a new order is copied four times: from the request into the rows, from the rows
into the result of the repository, and from there into the response. The repository leaves
out the status of the order and the prices of its items, so the response has neither.
Logging and tracing are left out.
-/

namespace GoOdin.Orders

open Memory OrderGormRepository

variable {E : Type*}

structure CreateOrderResponse where
  id : String
  createdAt : Int64
  updatedAt : Int64
  status : String
  customerName : String
  totalAmount : Float
  address : String
  items : List OrderItemRequest

inductive OrderError where
  | orderFailedToCreate
deriving DecidableEq

namespace OrderServiceImpl

/-- `CreateOrder`; with an error the response is empty. -/
def createOrder (faults : Nat → Option E) (drawn : Nat → BaseModel) (db : Tables)
    (payload : CreateOrderRequest) : Except OrderError CreateOrderResponse × Tables :=
  match saveOrder faults drawn db payload with
  | (.error _, db) => (.error .orderFailedToCreate, db)
  | (.ok order, db) =>
      (.ok { id := order.id, createdAt := order.createdAt, updatedAt := order.updatedAt,
             customerName := order.customerName, status := order.status,
             totalAmount := order.totalAmount, address := order.address, items := order.items },
        db)

/-- The response says of the order what `FindByID` says afterwards, and of the items what
the request said. -/
structure Describes (db : Tables) (payload : CreateOrderRequest)
    (response : CreateOrderResponse) : Prop where
  order : ∃ found, findByID db response.id = some found ∧ response.id = found.id ∧
    response.customerName = found.customerName ∧ response.totalAmount = found.totalAmount ∧
    response.address = found.address ∧ response.status = found.status
  items : response.items = payload.items

variable {faults : Nat → Option E} {drawn : Nat → BaseModel} {db after : Tables}
variable {payload : CreateOrderRequest} {response : CreateOrderResponse}

/-- What a response is made of. -/
theorem createOrder_eq_ok (succeeds : createOrder faults drawn db payload = (.ok response, after)) :
    let p := newOrder (drawn payload.items.length) payload
    after.orders = db.orders.insert p ∧
      response = { id := p.id, createdAt := p.created, updatedAt := p.updated, status := "",
                   customerName := p.customerName, totalAmount := p.totalAmount,
                   address := p.address, items := payload.items.map resultItem } := by
  intro p
  obtain ⟨err, -, run⟩ | ⟨items, err, -, -, run⟩ | ⟨items, saved, -, -, run⟩ :=
    saveOrder_cases faults drawn db payload
  · rw [createOrder, run] at succeeds
    cases succeeds
  · rw [createOrder, run] at succeeds
    cases succeeds
  · obtain rfl := saveItems_ok saved
    rw [createOrder, run] at succeeds
    cases succeeds
    exact ⟨rfl, rfl⟩

/-- The response agrees with the stored order in everything but the status. -/
theorem createOrder_found (succeeds : createOrder faults drawn db payload = (.ok response, after)) :
    findByID after response.id =
      some { id := response.id, customerName := response.customerName,
             totalAmount := response.totalAmount, address := response.address,
             status := "PENDING" } := by
  obtain ⟨orders, rfl⟩ := createOrder_eq_ok succeeds
  rw [findByID, orders, Table.find_insert_self]
  rfl

/-- For every request, every state of the tables and all inserts with which `CreateOrder`
succeeds: its response does not describe the stored order, which is pending. -/
theorem createOrder_never_describes
    (succeeds : createOrder faults drawn db payload = (.ok response, after)) :
    ¬ Describes after payload response := by
  rintro ⟨⟨found, lookup, -, -, -, -, status⟩, -⟩
  rw [createOrder_found succeeds] at lookup
  cases lookup
  have unset : response.status = "" := by
    obtain ⟨-, rfl⟩ := createOrder_eq_ok succeeds
    rfl
  have pending : "" = "PENDING" := unset.symm.trans status
  exact absurd pending (by decide)

/-- An order with two items. -/
theorem createOrder_never_describes_two_items :
    let payload : CreateOrderRequest :=
      ⟨"Budi", 30, "Jakarta", [⟨"123", "Rumah", 1, 10⟩, ⟨"124", "Pagar", 1, 20⟩]⟩
    let drawn : Nat → BaseModel := fun j => ⟨["01A", "01B", "01C"].getD j "", 0, 0⟩
    ∃ response after, createOrder (fun _ => (none : Option String)) drawn .empty payload =
        (.ok response, after) ∧ ¬ Describes after payload response := by
  intro payload drawn
  obtain ⟨response, after, succeeds⟩ : ∃ response after,
      createOrder (fun _ => (none : Option String)) drawn .empty payload =
        (.ok response, after) := ⟨_, _, rfl⟩
  exact ⟨response, after, succeeds, createOrder_never_describes succeeds⟩

/-- An order with one item: stored as pending, answered with no status, and the price of
the item is gone. -/
theorem createOrder_drops_status_and_price :
    let payload : CreateOrderRequest := ⟨"Budi", 10, "Jakarta", [⟨"123", "Rumah", 1, 10⟩]⟩
    let drawn : Nat → BaseModel := fun j => ⟨if j = 0 then "01A" else "01B", 0, 0⟩
    ∃ response after found,
      createOrder (fun _ => (none : Option String)) drawn .empty payload =
          (.ok response, after) ∧
        findByID after response.id = some found ∧ found.status = "PENDING" ∧
        response.status = "" ∧ response.items = [⟨"123", "Rumah", 1, 0⟩] := by
  intro payload drawn
  exact ⟨_, _, _, rfl, rfl, rfl, rfl, rfl⟩

end OrderServiceImpl

end GoOdin.Orders
