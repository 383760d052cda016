import GoOdin.Choreography.OneByOne
import Mathlib.Data.List.Count

/-!
# What the choreography has done when it comes to rest

When every execution has returned and every envelope has reached its handler at least once,
each completed order was credited once and each completed order with reserved stock was
announced once. The commands handled are then those that the orders are due, and a handler's
store says of them what it says after one delivery of each.

The saga is taken to be subscribed and to keep its state in a map; the source does neither. An
account that is credited over HTTP as well gets more than its orders earn.
-/

namespace GoOdin.Choreography

open Interaction Loyalty OnOrderCompletedHandler

/-- All executions have returned, and every envelope of a topic has been delivered to the
handler of that topic. -/
structure AtRest (orders : List (OrderAmbient × EventEnvelope))
    (sagas : List (Saga.OrderFulfillmentSaga.Ambient × EventEnvelope)) (s : System) : Prop where
  ordersReturned : AllReturned s.orders
  sagasReturned : AllReturned s.sagas
  orders : ∀ env ∈ s.log, env.eventName = Events.orderCompleted → ∃ d ∈ orders, d.2 = env
  sagas : ∀ env ∈ s.log, env.eventName = Events.loyaltyCredited ∨
    env.eventName = Events.inventoryReserved → ∃ d ∈ sagas, d.2 = env

/-- The command an order is due. -/
def due (overflow : Int64) (order : EventEnvelope × OrderCompletedPayload) :
    CreditLoyaltyRequest where
  customerID := order.2.customerID
  orderID := order.2.orderID
  points := orderPoints overflow order.2.totalAmount
  correlationID := order.1.correlationID
  causationEventID := order.1.eventID

/-- The points of a customer's completed orders. -/
def earned (overflow : Int64) (customerID : String) (log : List EventEnvelope) : Int :=
  (((ordersOf log).filter (·.2.customerID = customerID)).map
    fun order => (orderPoints overflow order.2.totalAmount).toInt).sum

/-- The envelope announces the credit of this event. -/
def isCreditOf (eventID : String) (env : EventEnvelope) : Bool :=
  decide (env.eventName = Events.loyaltyCredited ∧ env.causationID = eventID)

theorem isCreditOf_eq_false {eventID : String} {env : EventEnvelope}
    (other : env.eventName ≠ Events.loyaltyCredited) : isCreditOf eventID env = false :=
  decide_eq_false fun credit => other credit.1

theorem isReady_eq_false {c : String} {env : EventEnvelope}
    (other : env.eventName ≠ Events.orderFulfillmentReady) :
    Saga.OrderFulfillmentSaga.isReady c env = false :=
  decide_eq_false fun ready => other ready.1

/-- The handlers publish on topics of their own. -/
theorem external_name {env : EventEnvelope} (external : isExternal env = true) :
    env.eventName ≠ Events.loyaltyCredited ∧ env.eventName ≠ Events.orderFulfillmentReady := by
  rw [isExternal, Bool.or_eq_true, beq_iff_eq, beq_iff_eq] at external
  obtain named | named := external <;> rw [named] <;> decide

theorem balanceOf_due (overflow : Int64) (customerID : String) (log : List EventEnvelope) :
    Ledger.balanceOf customerID ((ordersOf log).map (due overflow)) =
      earned overflow customerID log := by
  rw [Ledger.balanceOf, List.filter_map, List.map_map]
  rfl

theorem ordersOf_eq_nil {log : List EventEnvelope}
    (others : ∀ env ∈ log, env.eventName ≠ Events.orderCompleted) : ordersOf log = [] := by
  refine List.eq_nil_iff_forall_not_mem.mpr fun order mem => ?_
  obtain ⟨published, named, -⟩ := mem_ordersOf.mp mem
  exact others order.1 published named

section Rest

variable {overflow : Int64} {outside : List EventEnvelope}
  {orders : List (OrderAmbient × EventEnvelope)}
  {sagas : List (Saga.OrderFulfillmentSaga.Ambient × EventEnvelope)} {s : System}
  (kept : Kept overflow outside orders sagas s) (rest : AtRest orders sagas s)
include kept rest

theorem loyalty_names : LoyaltyEventsOnly s.loyalty := by
  rw [kept.loyalty.settled rest.ordersReturned]
  exact loyaltyEventsOnly_run orders

theorem saga_names : ∀ env ∈ s.saga.published, env.eventName = Events.orderFulfillmentReady := by
  rw [kept.saga.settled rest.sagasReturned]
  exact Saga.OrderFulfillmentSaga.published_run sagas

/-- The orders of the log all came from outside. -/
theorem ordersOf_log : (ordersOf s.log).Perm (ordersOf outside) := by
  have perm : (ordersOf s.log).Perm
      (ordersOf (outside ++ (s.loyalty.published ++ s.saga.published))) :=
    kept.log.filterMap order?
  have none : ordersOf (s.loyalty.published ++ s.saga.published) = [] := by
    refine ordersOf_eq_nil fun env mem => ?_
    obtain loyalty | saga := List.mem_append.mp mem
    · obtain named | named := loyalty_names kept rest env loyalty <;> rw [named] <;> decide
    · rw [saga_names kept rest env saga]
      decide
  have split : ordersOf (outside ++ (s.loyalty.published ++ s.saga.published)) =
      ordersOf outside ++ ordersOf (s.loyalty.published ++ s.saga.published) :=
    List.filterMap_append
  rwa [split, none, List.append_nil] at perm

/-- The commands that were handled are those that the orders are due. -/
theorem mem_requested (cmd : CreditLoyaltyRequest) :
    cmd ∈ orders.filterMap requested ↔ cmd ∈ (ordersOf s.log).map (due overflow) := by
  rw [List.mem_filterMap, List.mem_map]
  constructor
  · rintro ⟨d, mem, asks⟩
    obtain ⟨payload, typed, rfl⟩ := requested_eq_some asks
    obtain ⟨rfl, named, published⟩ := kept.orders d mem
    exact ⟨(d.2, payload), mem_ordersOf.mpr ⟨published, named, typed⟩, rfl⟩
  · rintro ⟨order, mem, rfl⟩
    obtain ⟨published, named, typed⟩ := mem_ordersOf.mp mem
    obtain ⟨d, delivered, same⟩ := rest.orders order.1 published named
    obtain ⟨rfl, -⟩ := kept.orders d delivered
    refine ⟨d, delivered, ?_⟩
    rw [requested, same, typed]
    rfl

/-- An event id stands for one order. -/
theorem due_keys_nodup :
    (((ordersOf s.log).map (due overflow)).map (·.causationEventID)).Nodup := by
  rw [List.map_map]
  exact (((ordersOf_log kept rest).map _).nodup_iff).mpr kept.distinct

/-- The ledger has one entry for each order. -/
theorem ledger_perm :
    (Ledger.effective (orders.filterMap requested)).Perm ((ordersOf s.log).map (due overflow)) := by
  have keys := due_keys_nodup kept rest
  have asked := mem_requested kept rest
  have keyed : ∀ cmd ∈ orders.filterMap requested, cmd.causationEventID ≠ "" := by
    intro cmd mem
    obtain ⟨order, found, rfl⟩ := List.mem_map.mp ((asked cmd).mp mem)
    exact kept.keyed order ((ordersOf_log kept rest).mem_iff.mp found)
  have positive : ∀ cmd ∈ orders.filterMap requested, 0 < cmd.points := by
    intro cmd mem
    obtain ⟨order, found, rfl⟩ := List.mem_map.mp ((asked cmd).mp mem)
    exact orderPoints_pos _ _
  have unique : ∀ a ∈ orders.filterMap requested, ∀ b ∈ orders.filterMap requested,
      a.causationEventID = b.causationEventID → a = b := fun a aMem b bMem same =>
    List.inj_on_of_nodup_map keys ((asked a).mp aMem) ((asked b).mp bMem) same
  refine (List.perm_ext_iff_of_nodup ?_ (List.Nodup.of_map _ keys)).mpr fun cmd => ?_
  · exact List.Nodup.of_map _ (Ledger.effective_keys_nodup keyed)
  · rw [Ledger.mem_effective positive unique, asked]

omit rest in
/-- What never comes from outside was published by one of the handlers. -/
theorem countP_log {q : EventEnvelope → Bool}
    (inside : ∀ env, isExternal env = true → q env = false) :
    s.log.countP q = s.loyalty.published.countP q + s.saga.published.countP q := by
  have none : outside.countP q = 0 :=
    List.countP_eq_zero.mpr fun env mem => by simp [inside env (kept.external env mem)]
  rw [kept.log.countP_eq, List.countP_append, List.countP_append, none, Nat.zero_add]

/-- The saga has been given what is in the log. -/
theorem occurred_iff {eventName c : String}
    (subscribed : eventName = Events.loyaltyCredited ∨ eventName = Events.inventoryReserved) :
    Saga.OrderFulfillmentSaga.Occurred eventName c sagas ↔
      ∃ env ∈ s.log, env.eventName = eventName ∧ env.correlationID = c := by
  constructor
  · rintro ⟨d, mem, same, named⟩
    exact ⟨d.2, kept.sagas d mem, named, same⟩
  · rintro ⟨env, mem, rfl, same⟩
    obtain ⟨d, delivered, rfl⟩ := rest.sagas env mem subscribed
    exact ⟨d, delivered, same, rfl⟩

theorem countP_ready (c : String) :
    s.log.countP (Saga.OrderFulfillmentSaga.isReady c) =
      (Saga.OrderFulfillmentSaga.readyFor c s.saga).length := by
  have silent : s.loyalty.published.countP (Saga.OrderFulfillmentSaga.isReady c) = 0 := by
    refine List.countP_eq_zero.mpr fun env mem => ?_
    rw [isReady_eq_false]
    · exact Bool.false_ne_true
    · obtain named | named := loyalty_names kept rest env mem <;> rw [named] <;> decide
  rw [countP_log kept fun env external => isReady_eq_false (external_name external).2, silent,
    Nat.zero_add, List.countP_eq_length_filter]
  rfl

variable (fits : ∀ customerID, earned overflow customerID s.log < 2 ^ 63)
include fits

theorem loyalty_represents :
    Ledger.Represents (credits s.loyalty) (Ledger.effective (orders.filterMap requested)) := by
  rw [kept.loyalty.settled rest.ordersReturned]
  refine deliveries_represent kept.fresh fun customerID => ?_
  rw [Ledger.balanceOf_perm (ledger_perm kept rest), balanceOf_due]
  exact fits customerID

/-- Each order has one credit in the log. -/
theorem countP_credit {order : EventEnvelope × OrderCompletedPayload}
    (mem : order ∈ ordersOf s.log) : s.log.countP (isCreditOf order.1.eventID) = 1 := by
  have silent : s.saga.published.countP (isCreditOf order.1.eventID) = 0 := by
    refine List.countP_eq_zero.mpr fun env mem => ?_
    have named := saga_names kept rest env mem
    rw [isCreditOf_eq_false (by rw [named]; decide)]
    exact Bool.false_ne_true
  have ids : (credits s.loyalty).published.map (·.causationID) =
      (Ledger.effective (orders.filterMap requested)).map (·.causationEventID) :=
    (loyalty_represents kept rest fits).map_published fun env entry announces => announces.2.2.1
  have perm := (ledger_perm kept rest).map (·.causationEventID)
  calc s.log.countP (isCreditOf order.1.eventID)
    _ = s.loyalty.published.countP (isCreditOf order.1.eventID) := by
        rw [countP_log kept fun env external => isCreditOf_eq_false (external_name external).1,
          silent, Nat.add_zero]
    _ = ((credits s.loyalty).published.map (·.causationID)).count order.1.eventID := by
        rw [List.count, List.countP_map, credits, List.countP_filter]
        refine List.countP_congr fun env _ => ?_
        simp [isCreditOf, and_comm]
    _ = 1 := by
        rw [ids, perm.count_eq]
        refine List.count_eq_one_of_mem (due_keys_nodup kept rest) ?_
        exact List.mem_map.mpr ⟨due overflow order, List.mem_map_of_mem mem, rfl⟩

/-- A credit of this correlation id is in the log if an order of it is. -/
theorem credit_mem_log_iff (c : String) :
    (∃ env ∈ s.log, env.eventName = Events.loyaltyCredited ∧ env.correlationID = c) ↔
      ∃ order ∈ ordersOf s.log, order.1.correlationID = c := by
  have ids : (credits s.loyalty).published.map (·.correlationID) =
      (Ledger.effective (orders.filterMap requested)).map (·.correlationID) :=
    (loyalty_represents kept rest fits).map_published fun env entry announces => announces.2.1
  have perm := (ledger_perm kept rest).map (·.correlationID)
  have due : c ∈ ((ordersOf s.log).map (due overflow)).map (·.correlationID) ↔
      ∃ order ∈ ordersOf s.log, order.1.correlationID = c := by
    rw [List.map_map, List.mem_map]
    rfl
  rw [← due, ← perm.mem_iff, ← ids, List.mem_map]
  constructor
  · rintro ⟨env, mem, named, same⟩
    refine ⟨env, List.mem_filter.mpr ⟨?_, decide_eq_true named⟩, same⟩
    obtain outside | inside := List.mem_append.mp (kept.log.mem_iff.mp mem)
    · exact absurd named (external_name (kept.external env outside)).1
    · obtain loyalty | saga := List.mem_append.mp inside
      · exact loyalty
      · rw [saga_names kept rest env saga] at named
        exact absurd named (by decide)
  · rintro ⟨env, mem, same⟩
    obtain ⟨published, named⟩ := List.mem_filter.mp mem
    refine ⟨env, kept.log.mem_iff.mpr ?_, of_decide_eq_true named, same⟩
    exact List.mem_append_right _ (List.mem_append_left _ published)

end Rest

/-- The state after these actions, from empty stores. -/
abbrev after (actions : List Action) : System := runFrom step (start .empty .empty) actions

/-- After these actions nothing is left to be done. -/
def Rests (actions : List Action) : Prop :=
  AtRest (orderDeliveries (transitions step (start .empty .empty) actions))
    (sagaDeliveries (transitions step (start .empty .empty) actions)) (after actions)

section Sample

/-- The sample order is about to be saved. -/
def sampleHalfway : System where
  loyalty := .empty
  saga := .empty
  log := [sampleOrder]
  running := [.order ((CreditLoyaltyHandler.saveAggregate sampleOrderAmbient.command sampleRequest
    (CreditLoyaltyHandler.creditedAggregate .empty sampleOrderAmbient.command sampleRequest)
      ).andThen (compensate sampleOrderAmbient sampleOrder ⟨"order-1", "customer-1", 100.0⟩))]

theorem after_sampleBeginning : after sampleBeginning = sampleHalfway := by
  have positive : 0 < sampleRequest.points := orderPoints_pos _ _
  have reached : after sampleBeginning =
      { sampleHalfway with
        running := [.order ((CreditLoyaltyHandler.mutate sampleOrderAmbient.command sampleRequest
          ⟨(newLoyaltyAggregate sampleOrderAmbient.command "customer-1").account, []⟩).andThen
            (compensate sampleOrderAmbient sampleOrder ⟨"order-1", "customer-1", 100.0⟩))] } := rfl
  rw [reached, CreditLoyaltyHandler.mutate_of_pos _ _ _ positive]
  rfl

theorem sample_orderly :
    Admitted step (Orderly 0) (start .empty .empty) (sampleBeginning ++ sampleEnd) := by
  refine admitted_append.mpr ⟨⟨⟨by decide, nofun⟩, ?_, rfl, rfl, trivial⟩, ?_⟩
  · refine ⟨allReturned_threadsOf nofun, rfl, fun env mem => ?_⟩
    cases mem
    exact ⟨rfl, fun cmd _ _ row found => absurd found List.not_mem_nil⟩
  · rw [show runFrom step _ sampleBeginning = _ from after_sampleBeginning]
    refine ⟨rfl, rfl, rfl, trivial, ?_, rfl, rfl, ?_, rfl, rfl, rfl, rfl, trivial⟩
    · refine allReturned_threadsOf ?_
      decide
    · refine allReturned_threadsOf ?_
      decide

theorem sample_rests : Rests (sampleBeginning ++ sampleEnd) := by
  have reached : after (sampleBeginning ++ sampleEnd) = runFrom step sampleHalfway sampleEnd := by
    rw [after, runFrom_append, show runFrom step _ sampleBeginning = _ from after_sampleBeginning]
  have steps : transitions step (start .empty .empty) (sampleBeginning ++ sampleEnd) =
      transitions step (start .empty .empty) sampleBeginning ++
        transitions step sampleHalfway sampleEnd := by
    rw [transitions_append, show runFrom step _ sampleBeginning = _ from after_sampleBeginning]
  have log : (runFrom step sampleHalfway sampleEnd).log = sampleLog := by
    rw [← reached]
    exact sample_run.1
  rw [Rests, steps, reached]
  refine ⟨allReturned_threadsOf (by decide), allReturned_threadsOf (by decide), ?_, ?_⟩
  · rw [log, show orderDeliveries _ = [(sampleOrderAmbient, sampleOrder)] from rfl]
    intro env mem named
    simp only [sampleLog, List.mem_cons, List.not_mem_nil, or_false] at mem
    obtain rfl | rfl | rfl | rfl := mem
    · exact ⟨_, List.mem_singleton_self _, rfl⟩
    all_goals exact absurd named (by decide)
  · rw [log, show sagaDeliveries _ = [(⟨"01FIRST", ⟨1700000003000000000⟩⟩, sampleLog[1]),
      (⟨"01READY", ⟨1700000004000000000⟩⟩, sampleStock)] from rfl]
    intro env mem named
    simp only [sampleLog, List.mem_cons, List.not_mem_nil, or_false] at mem
    obtain rfl | rfl | rfl | rfl := mem
    · exact absurd named (by decide)
    · exact ⟨_, List.mem_cons_self, rfl⟩
    · exact ⟨_, List.mem_cons_of_mem _ (List.mem_singleton_self _), rfl⟩
    · exact absurd named (by decide)

theorem sample_fits (customerID : String) :
    earned 0 customerID (after (sampleBeginning ++ sampleEnd)).log < 2 ^ 63 := by
  have log : (after (sampleBeginning ++ sampleEnd)).log = sampleLog := sample_run.1
  have orders : ordersOf sampleLog = [(sampleOrder, ⟨"order-1", "customer-1", 100.0⟩)] := rfl
  rw [earned, log, orders, List.filter_cons]
  split
  · simpa using Int64.toInt_lt _
  · simp

end Sample

/-- Orders are completed and stock is reserved in any order; envelopes are delivered in any
order and any number of times, to handlers that take one at a time and may overlap with each
other; no call fails. When everything has been delivered and all executions have returned,
the balance of every customer is the sum of the points of their orders, and each order has
one credit in the log. -/
theorem orders_credited_once (overflow : Int64) (actions : List Action)
    (orderly : Admitted step (Orderly overflow) (start .empty .empty) actions)
    (rest : Rests actions)
    (fits : ∀ customerID, earned overflow customerID (after actions).log < 2 ^ 63) :
    let s := after actions
    (∀ customerID row, s.loyalty.accounts.findByCustomer customerID = some row →
      row.balance.toInt = earned overflow customerID s.log ∧
      row.tier = (calculateTier ⟨row.balance⟩).name) ∧
    (∀ customerID, (s.loyalty.accounts.findByCustomer customerID).isSome ↔
      ∃ order ∈ ordersOf s.log, order.2.customerID = customerID) ∧
    ∀ order ∈ ordersOf s.log, s.log.countP (isCreditOf order.1.eventID) = 1 := by
  intro s
  have kept := kept_run orderly
  have rep := loyalty_represents kept rest fits
  have perm := ledger_perm kept rest
  refine ⟨fun customerID row found => ⟨?_, rep.tier customerID row found⟩, fun customerID => ?_,
    fun order mem => countP_credit kept rest fits mem⟩
  · rw [rep.balance customerID row found, Ledger.balanceOf_perm perm, balanceOf_due]
  · refine (rep.account customerID).trans ?_
    constructor
    · rintro ⟨cmd, mem, same⟩
      obtain ⟨order, found, rfl⟩ := List.mem_map.mp (perm.mem_iff.mp mem)
      exact ⟨order, found, same⟩
    · rintro ⟨order, mem, same⟩
      exact ⟨due overflow order, perm.mem_iff.mpr (List.mem_map_of_mem mem), same⟩

/-- The sample order is credited once. -/
theorem orders_credited_once_sample :
    (after (sampleBeginning ++ sampleEnd)).log.countP (isCreditOf "01ORDER") = 1 := by
  have credited := (orders_credited_once 0 _ sample_orderly sample_rests sample_fits).2.2
  have log : (after (sampleBeginning ++ sampleEnd)).log = sampleLog := sample_run.1
  rw [log] at credited ⊢
  exact credited (sampleOrder, ⟨"order-1", "customer-1", 100.0⟩) List.mem_cons_self

/-- In the same runs, an order is announced as ready once for every correlation id with a
completed order and reserved stock, and for no other. -/
theorem orders_fulfilled_once (overflow : Int64) (actions : List Action)
    (orderly : Admitted step (Orderly overflow) (start .empty .empty) actions)
    (rest : Rests actions)
    (fits : ∀ customerID, earned overflow customerID (after actions).log < 2 ^ 63) (c : String) :
    let log := (after actions).log
    let complete := (∃ order ∈ ordersOf log, order.1.correlationID = c) ∧
      ∃ env ∈ log, env.eventName = Events.inventoryReserved ∧ env.correlationID = c
    (complete → log.countP (Saga.OrderFulfillmentSaga.isReady c) = 1) ∧
      (¬ complete → log.countP (Saga.OrderFulfillmentSaga.isReady c) = 0) := by
  intro log complete
  have kept := kept_run orderly
  have both : Saga.OrderFulfillmentSaga.BothOccurred c
      (sagaDeliveries (transitions step (start .empty .empty) actions)) ↔ complete := by
    rw [Saga.OrderFulfillmentSaga.BothOccurred, occurred_iff kept rest (.inl rfl),
      occurred_iff kept rest (.inr rfl), credit_mem_log_iff kept rest fits]
  have counted : log.countP (Saga.OrderFulfillmentSaga.isReady c) = _ := countP_ready kept rest c
  rw [counted, kept.saga.settled rest.sagasReturned, Saga.OrderFulfillmentSaga.length_readyFor]
  exact ⟨fun holds => if_pos (both.mpr holds), fun fails => if_neg fun now => fails (both.mp now)⟩

/-- And announced once. -/
theorem orders_fulfilled_once_sample :
    (after (sampleBeginning ++ sampleEnd)).log.countP
      (Saga.OrderFulfillmentSaga.isReady "trace-1") = 1 := by
  have announced :=
    (orders_fulfilled_once 0 _ sample_orderly sample_rests sample_fits "trace-1").1
  have log : (after (sampleBeginning ++ sampleEnd)).log = sampleLog := sample_run.1
  rw [log] at announced ⊢
  refine announced ⟨⟨(sampleOrder, ⟨"order-1", "customer-1", 100.0⟩), List.mem_cons_self, rfl⟩,
    sampleStock, ?_, rfl, rfl⟩
  exact List.mem_cons_of_mem _ (List.mem_cons_of_mem _ List.mem_cons_self)

end GoOdin.Choreography
