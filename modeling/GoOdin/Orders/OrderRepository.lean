import GoOdin.Memory.Table

/-!
# `OrderGormRepository`

`SaveOrder` inserts the items one after another and then the order, each insert on its own.
An insert that fails ends the function and undoes none of those before it.

The n-th insert of a call may be refused by the database, and the base columns of its row
(the id drawn by `BeforeCreate` and the times) are given; an id that is taken is refused by
the primary key. Columns that nothing reads are left out, and so is the soft deletion of
rows, since no order is ever deleted.
-/

namespace GoOdin.Orders

open Memory

variable {E : Type*}

/-- The columns of `BaseModel` that a row is given when it is inserted. -/
structure BaseModel where
  id : String
  created : Int64
  updated : Int64

/-- A row of `orders`. -/
structure Order extends BaseModel where
  customerName : String
  totalAmount : Float
  status : String
  address : String

/-- A row of `order_items`; nothing in it says which order it belongs to. -/
structure OrderItem extends BaseModel where
  productId : String
  productName : String
  price : Float

structure Tables where
  orders : Table Order (·.id)
  orderItems : Table OrderItem (·.id)

def Tables.empty : Tables := ⟨.empty, .empty⟩

structure OrderItemRequest where
  productId : String
  productName : String
  quantity : Int32
  price : Float

structure CreateOrderRequest where
  customerName : String
  totalAmount : Float
  address : String
  items : List OrderItemRequest

structure CreateOrderRepositoryResult where
  id : String
  customerName : String
  totalAmount : Float
  address : String
  items : List OrderItemRequest
  status : String
  createdAt : Int64
  updatedAt : Int64

structure GetOrderByIDResult where
  id : String
  customerName : String
  totalAmount : Float
  address : String
  status : String

namespace OrderGormRepository

def newItem (base : BaseModel) (item : OrderItemRequest) : OrderItem :=
  { base with productId := item.productId, productName := item.productName, price := item.price }

def newOrder (base : BaseModel) (payload : CreateOrderRequest) : Order :=
  { base with
    customerName := payload.customerName
    totalAmount := payload.totalAmount
    address := payload.address
    status := "PENDING" }

/-- What the result says of an item: the price is left at its zero value. -/
def resultItem (item : OrderItemRequest) : OrderItemRequest :=
  { productId := item.productId, productName := item.productName, quantity := item.quantity,
    price := 0 }

/-- What the result says of the order: the status is left at its zero value. -/
def resultOf (p : Order) (items : List OrderItemRequest) : CreateOrderRepositoryResult :=
  { id := p.id, customerName := p.customerName, totalAmount := p.totalAmount,
    address := p.address, createdAt := p.created, updatedAt := p.updated, items := items,
    status := "" }

/-- The loop of `SaveOrder` from the i-th insert on, with the items collected so far. -/
def saveItems (faults : Nat → Option E) (drawn : Nat → BaseModel) :
    Nat → List OrderItemRequest → Tables → List OrderItemRequest →
      Except (InsertError E) (List OrderItemRequest) × Tables
  | _, items, db, [] => (.ok items, db)
  | i, items, db, item :: rest =>
      match db.orderItems.create (faults i) (newItem (drawn i) item) with
      | .error err => (.error err, db)
      | .ok orderItems =>
          saveItems faults drawn (i + 1) (items ++ [resultItem item]) { db with orderItems } rest

def saveOrder (faults : Nat → Option E) (drawn : Nat → BaseModel) (db : Tables)
    (payload : CreateOrderRequest) :
    Except (InsertError E) CreateOrderRepositoryResult × Tables :=
  let n := payload.items.length
  match saveItems faults drawn 0 [] db payload.items with
  | (.error err, db) => (.error err, db)
  | (.ok items, db) =>
      let p := newOrder (drawn n) payload
      match db.orders.create (faults n) p with
      | .error err => (.error err, db)
      | .ok orders => (.ok (resultOf p items), { db with orders })

/-- `none` is gorm's `record not found`. -/
def findByID (db : Tables) (orderID : String) : Option GetOrderByIDResult :=
  (db.orders.find orderID).map fun m =>
    { id := m.id, customerName := m.customerName, totalAmount := m.totalAmount,
      address := m.address, status := m.status }

variable {faults : Nat → Option E} {drawn : Nat → BaseModel} {db : Tables}
variable {i : Nat} {acc items : List OrderItemRequest} {item : OrderItemRequest}

/-! ### The loop over the items -/

/-- One item is inserted and the loop goes on, or the insert fails and ends it. -/
theorem saveItems_cons_cases (faults : Nat → Option E) (drawn : Nat → BaseModel) (i : Nat)
    (acc : List OrderItemRequest) (db : Tables) (item : OrderItemRequest)
    (items : List OrderItemRequest) :
    (faults i = none ∧ db.orderItems.find (drawn i).id = none ∧
        saveItems faults drawn i acc db (item :: items) =
          saveItems faults drawn (i + 1) (acc ++ [resultItem item])
            { db with orderItems := db.orderItems.insert (newItem (drawn i) item) } items) ∨
      ((faults i ≠ none ∨ db.orderItems.find (drawn i).id ≠ none) ∧
        ∃ err, saveItems faults drawn i acc db (item :: items) = (.error err, db)) := by
  obtain ⟨passes, free, created⟩ | ⟨fails, err, refused⟩ :=
    db.orderItems.create_cases (faults i) (newItem (drawn i) item)
  · exact .inl ⟨passes, free, by rw [saveItems, created]⟩
  · exact .inr ⟨fails, err, by rw [saveItems, refused]⟩

/-- The loop does not touch the orders. -/
theorem orders_saveItems :
    (saveItems faults drawn i acc db items).2.orders = db.orders := by
  induction items generalizing i acc db with
  | nil => rfl
  | cons item items ih =>
      obtain ⟨-, -, next⟩ | ⟨-, err, stopped⟩ :=
        saveItems_cons_cases faults drawn i acc db item items
      · rw [next, ih]
      · rw [stopped]

/-- A row that is there stays there. -/
theorem find_saveItems_ne_none {id : String} (present : db.orderItems.find id ≠ none) :
    (saveItems faults drawn i acc db items).2.orderItems.find id ≠ none := by
  induction items generalizing i acc db with
  | nil => exact present
  | cons item items ih =>
      obtain ⟨-, -, next⟩ | ⟨-, err, stopped⟩ :=
        saveItems_cons_cases faults drawn i acc db item items
      · rw [next]
        exact ih (Table.find_insert_ne_none present _)
      · rw [stopped]
        exact present

/-- The items of the result are those of the request, in order and without their prices. -/
theorem saveItems_ok {result : List OrderItemRequest}
    (saved : (saveItems faults drawn i acc db items).1 = .ok result) :
    result = acc ++ items.map resultItem := by
  induction items generalizing i acc db with
  | nil =>
      cases saved
      simp
  | cons item items ih =>
      obtain ⟨-, -, next⟩ | ⟨-, err, stopped⟩ :=
        saveItems_cons_cases faults drawn i acc db item items
      · rw [next] at saved
        rw [ih saved]
        simp
      · rw [stopped] at saved
        cases saved

/-- The j-th insert of a loop that began with the i-th fails if it is reached: it is refused,
or its id is taken, by a row of before or by an item inserted meanwhile. -/
def ItemFails (faults : Nat → Option E) (drawn : Nat → BaseModel) (db : Tables) (i j : Nat) :
    Prop :=
  faults j ≠ none ∨ db.orderItems.find (drawn j).id ≠ none ∨
    ∃ k, i ≤ k ∧ k < j ∧ (drawn k).id = (drawn j).id

/-- Inserting the i-th item turns a conflict with it into a conflict with the table. -/
theorem itemFails_insert {j : Nat} (later : i < j) :
    ItemFails faults drawn
        { db with orderItems := db.orderItems.insert (newItem (drawn i) item) } (i + 1) j ↔
      ItemFails faults drawn db i j := by
  have conflict : (db.orderItems.insert (newItem (drawn i) item)).find (drawn j).id ≠ none ↔
      (drawn i).id = (drawn j).id ∨ db.orderItems.find (drawn j).id ≠ none := by
    rw [Ne, Table.find_insert_eq_none_iff, not_and_or, not_not]
    rfl
  rw [ItemFails, conflict, ItemFails]
  constructor
  · rintro (refused | (same | taken) | ⟨k, first, earlier, same⟩)
    · exact .inl refused
    · exact .inr (.inr ⟨i, Nat.le_refl i, later, same⟩)
    · exact .inr (.inl taken)
    · exact .inr (.inr ⟨k, by omega, earlier, same⟩)
  · rintro (refused | taken | ⟨k, first, earlier, same⟩)
    · exact .inl refused
    · exact .inr (.inl (.inr taken))
    · by_cases here : k = i
      · subst here
        exact .inr (.inl (.inl same))
      · exact .inr (.inr ⟨k, by omega, earlier, same⟩)

/-- The loop ends well exactly if none of its inserts fails. -/
theorem saveItems_ok_iff :
    (∃ result, (saveItems faults drawn i acc db items).1 = .ok result) ↔
      ∀ j, i ≤ j → j < i + items.length → ¬ ItemFails faults drawn db i j := by
  induction items generalizing i acc db with
  | nil => exact iff_of_true ⟨acc, rfl⟩ fun j first last => by simp at last; omega
  | cons item items ih =>
      rw [List.length_cons]
      obtain ⟨passes, free, next⟩ | ⟨fails, err, stopped⟩ :=
        saveItems_cons_cases faults drawn i acc db item items
      · rw [next, ih]
        constructor
        · intro rest j first last
          by_cases here : j = i
          · subst here
            rintro (refused | taken | ⟨k, after, before, -⟩)
            · exact refused passes
            · exact taken free
            · omega
          · have later : i < j := by omega
            exact (itemFails_insert later).not.mp (rest j (by omega) (by omega))
        · intro all j first last
          have later : i < j := by omega
          exact (itemFails_insert later).not.mpr (all j (by omega) (by omega))
      · rw [stopped]
        refine iff_of_false (fun ⟨result, saved⟩ => nomatch saved) fun all => ?_
        refine all i (Nat.le_refl i) (by omega) ?_
        obtain refused | taken := fails
        · exact .inl refused
        · exact .inr (.inl taken)

/-! ### The whole call -/

variable {payload : CreateOrderRequest}

/-- The j-th insert of the call fails if it is reached. The last one is that of the order. -/
def InsertFails (faults : Nat → Option E) (drawn : Nat → BaseModel) (db : Tables)
    (payload : CreateOrderRequest) (j : Nat) : Prop :=
  if j < payload.items.length then ItemFails faults drawn db 0 j
  else faults j ≠ none ∨ db.orders.find (drawn j).id ≠ none

theorem insertFails_item {j : Nat} (isItem : j < payload.items.length) :
    InsertFails faults drawn db payload j ↔ ItemFails faults drawn db 0 j := by
  rw [InsertFails, if_pos isItem]

theorem insertFails_order {j : Nat} (isOrder : ¬ j < payload.items.length) :
    InsertFails faults drawn db payload j ↔
      faults j ≠ none ∨ db.orders.find (drawn j).id ≠ none := by
  rw [InsertFails, if_neg isOrder]

/-- All that a call can do: fail at an item, fail at the order with all items inserted, or
insert everything. -/
theorem saveOrder_cases (faults : Nat → Option E) (drawn : Nat → BaseModel) (db : Tables)
    (payload : CreateOrderRequest) :
    let n := payload.items.length
    let loop := saveItems faults drawn 0 [] db payload.items
    (∃ err, loop.1 = .error err ∧ saveOrder faults drawn db payload = (.error err, loop.2)) ∨
      (∃ items err, loop.1 = .ok items ∧ (faults n ≠ none ∨ db.orders.find (drawn n).id ≠ none) ∧
        saveOrder faults drawn db payload = (.error err, loop.2)) ∨
      ∃ items, loop.1 = .ok items ∧ faults n = none ∧ db.orders.find (drawn n).id = none ∧
        saveOrder faults drawn db payload =
          (.ok (resultOf (newOrder (drawn n) payload) items),
            { loop.2 with orders := db.orders.insert (newOrder (drawn n) payload) }) := by
  intro n loop
  have orders : loop.2.orders = db.orders := orders_saveItems
  cases result : loop.1 with
  | error err =>
      have shape : saveItems faults drawn 0 [] db payload.items = (.error err, loop.2) :=
        Prod.ext result rfl
      exact .inl ⟨err, rfl, by rw [saveOrder, shape]⟩
  | ok items =>
      have shape : saveItems faults drawn 0 [] db payload.items = (.ok items, loop.2) :=
        Prod.ext result rfl
      obtain ⟨passes, free, created⟩ | ⟨fails, err, refused⟩ :=
        loop.2.orders.create_cases (faults n) (newOrder (drawn n) payload)
      · refine .inr (.inr ⟨items, rfl, passes, orders ▸ free, ?_⟩)
        rw [saveOrder, shape]
        dsimp only
        rw [created, orders]
      · refine .inr (.inl ⟨items, err, rfl, orders ▸ fails, ?_⟩)
        rw [saveOrder, shape]
        dsimp only
        rw [refused]

/-- A call succeeds exactly if none of its inserts fails. -/
theorem saveOrder_ok_iff :
    (∃ result, (saveOrder faults drawn db payload).1 = .ok result) ↔
      ∀ j ≤ payload.items.length, ¬ InsertFails faults drawn db payload j := by
  have split : (∀ j ≤ payload.items.length, ¬ InsertFails faults drawn db payload j) ↔
      (∃ items, (saveItems faults drawn 0 [] db payload.items).1 = .ok items) ∧
        ¬ (faults payload.items.length ≠ none ∨
          db.orders.find (drawn payload.items.length).id ≠ none) := by
    rw [saveItems_ok_iff]
    constructor
    · intro all
      refine ⟨fun j _ last => ?_, ?_⟩
      · rw [Nat.zero_add] at last
        exact (insertFails_item last).not.mp (all j (Nat.le_of_lt last))
      · exact (insertFails_order (Nat.lt_irrefl _)).not.mp (all _ (Nat.le_refl _))
    · rintro ⟨items, order⟩ j bound
      by_cases last : j < payload.items.length
      · exact (insertFails_item last).not.mpr (items j (Nat.zero_le j) (by omega))
      · obtain rfl : j = payload.items.length := by omega
        exact (insertFails_order last).not.mpr order
  rw [split]
  obtain ⟨err, failed, run⟩ | ⟨items, err, saved, fails, run⟩ | ⟨items, saved, passes, free, run⟩ :=
    saveOrder_cases faults drawn db payload
  · rw [run, failed]
    exact iff_of_false (fun ⟨_, ok⟩ => nomatch ok) fun ⟨⟨_, ok⟩, _⟩ => nomatch ok
  · rw [run]
    exact iff_of_false (fun ⟨_, ok⟩ => nomatch ok) fun ⟨_, order⟩ => order fails
  · rw [run]
    refine iff_of_true ⟨_, rfl⟩ ⟨⟨items, saved⟩, ?_⟩
    rintro (refused | taken)
    · exact refused passes
    · exact taken free

/-- After an item has been inserted, an error leaves it behind. -/
theorem saveOrder_ne_of_first {item : OrderItemRequest} {items : List OrderItemRequest}
    (request : payload.items = item :: items) (passes : faults 0 = none)
    (free : db.orderItems.find (drawn 0).id = none)
    {err : InsertError E} (failed : (saveOrder faults drawn db payload).1 = .error err) :
    (saveOrder faults drawn db payload).2 ≠ db := by
  have kept : (saveItems faults drawn 0 [] db payload.items).2.orderItems.find (drawn 0).id ≠
      none := by
    rw [request]
    obtain ⟨-, -, next⟩ | ⟨fails, -⟩ := saveItems_cons_cases faults drawn 0 [] db item items
    · rw [next]
      refine find_saveItems_ne_none ?_
      have inserted := db.orderItems.find_insert_self (newItem (drawn 0) item)
      exact fun none => nomatch inserted.symm.trans none
    · obtain refused | taken := fails
      · exact absurd passes refused
      · exact absurd free taken
  have tables : (saveOrder faults drawn db payload).2 =
      (saveItems faults drawn 0 [] db payload.items).2 := by
    obtain ⟨err, -, run⟩ | ⟨items, err, -, -, run⟩ | ⟨items, -, -, -, run⟩ :=
      saveOrder_cases faults drawn db payload
    · rw [run]
    · rw [run]
    · rw [run] at failed
      cases failed
  intro same
  rw [← tables, same] at kept
  exact kept free

/-- A first insert that fails leaves nothing behind. -/
theorem saveOrder_eq_of_first_fails (fails : InsertFails faults drawn db payload 0) :
    (saveOrder faults drawn db payload).2 = db := by
  cases request : payload.items with
  | nil =>
      have loop : saveItems faults drawn 0 [] db payload.items = (.ok [], db) := by
        rw [request]
        rfl
      rw [insertFails_order (by simp [request])] at fails
      obtain ⟨err, -, run⟩ | ⟨items, err, -, -, run⟩ | ⟨items, -, passes, free, run⟩ :=
        saveOrder_cases faults drawn db payload
      · rw [run, loop]
      · rw [run, loop]
      · rw [request] at passes free
        obtain refused | taken := fails
        · exact absurd passes refused
        · exact absurd free taken
  | cons item items =>
      rw [insertFails_item (by simp [request])] at fails
      obtain ⟨passes, free, -⟩ | ⟨-, err, stopped⟩ :=
        saveItems_cons_cases faults drawn 0 [] db item items
      · obtain refused | taken | ⟨k, -, before, -⟩ := fails
        · exact absurd passes refused
        · exact absurd free taken
        · omega
      · rw [← request] at stopped
        obtain ⟨err, -, run⟩ | ⟨items, err, saved, -⟩ | ⟨items, saved, -⟩ :=
          saveOrder_cases faults drawn db payload
        · rw [run, stopped]
        · rw [stopped] at saved
          cases saved
        · rw [stopped] at saved
          cases saved

/-- For every request, every state of the tables and every choice of failing inserts: a call
that returns an error leaves both tables as they were exactly if its first insert fails or
none does. -/
theorem saveOrder_all_or_nothing_iff (faults : Nat → Option E) (drawn : Nat → BaseModel)
    (db : Tables) (payload : CreateOrderRequest) :
    (∀ err, (saveOrder faults drawn db payload).1 = .error err →
        (saveOrder faults drawn db payload).2 = db) ↔
      InsertFails faults drawn db payload 0 ∨
        ∀ j ≤ payload.items.length, ¬ InsertFails faults drawn db payload j := by
  constructor
  · intro unchanged
    by_contra partly
    obtain ⟨first, some⟩ := not_or.mp partly
    rw [← saveOrder_ok_iff] at some
    cases failed : (saveOrder faults drawn db payload).1 with
    | ok result => exact some ⟨result, failed⟩
    | error err =>
        cases request : payload.items with
        | nil =>
            -- the order is the only insert, and it does not fail
            refine some (saveOrder_ok_iff.mpr fun j bound => ?_)
            rw [request, List.length_nil] at bound
            obtain rfl : j = 0 := by omega
            exact first
        | cons item items =>
            rw [insertFails_item (by simp [request]), ItemFails, not_or, not_or, not_not,
              not_not] at first
            exact saveOrder_ne_of_first request first.1 first.2.1 failed (unchanged err failed)
  · rintro (first | none) err failed
    · exact saveOrder_eq_of_first_fails first
    · obtain ⟨result, saved⟩ := saveOrder_ok_iff.mpr none
      exact nomatch failed.symm.trans saved

/-- Two items, and the second is refused: the first stays in `order_items` without an order. -/
theorem saveOrder_leaves_item_behind :
    let drawn : Nat → BaseModel := fun j => ⟨if j = 0 then "01A" else "01B", 0, 0⟩
    let faults : Nat → Option String := fun j => if j = 1 then some "connection reset" else none
    let payload : CreateOrderRequest :=
      ⟨"Budi", 30, "Jakarta", [⟨"123", "Rumah", 1, 10⟩, ⟨"456", "Tanah", 1, 20⟩]⟩
    let call := saveOrder faults drawn .empty payload
    call.1.toOption.isNone = true ∧ (call.2.orderItems.find "01A").isSome = true ∧
      call.2 ≠ .empty := by
  intro drawn faults payload call
  have kept : (call.2.orderItems.find "01A").isSome = true := by decide
  refine ⟨by decide, kept, fun same => ?_⟩
  rw [same] at kept
  cases kept

end OrderGormRepository

end GoOdin.Orders
