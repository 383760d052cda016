import GoOdin.Choreography.Sound
import GoOdin.Interaction.OneAtATime
import GoOdin.Loyalty.OrderLedger
import GoOdin.Saga.Sequential

/-!
# One envelope at a time for each handler

Each handler takes one envelope at a time; the two work side by side, deliveries may come in
any order and any number of times, and no call fails. The two handlers share nothing but the
log, so each store is the one that its deliveries leave when they are handled one after
another, and the log is what was published from outside and by the two of them, in some
order.

As in `GoOdin.Choreography.Sound`, deliveries to the saga are those of the system that it is
written for, not of the source as it is wired, and nobody credits points over HTTP meanwhile.
-/

namespace GoOdin.Choreography

open Interaction Loyalty OnOrderCompletedHandler

def Execution.order? : Execution → Option (LoyaltyProgram Unit)
  | .order program => some program
  | .saga _ => none

def Execution.saga? : Execution → Option Saga.SagaProgram
  | .order _ => none
  | .saga program => some program

/-- The executions of `OnOrderCompletedHandler`. -/
def System.orders (s : System) : Nat → Option (LoyaltyProgram Unit) :=
  threadsOf Execution.order? s.running

/-- The executions of the saga. -/
def System.sagas (s : System) : Nat → Option Saga.SagaProgram :=
  threadsOf Execution.saga? s.running

/-- An order is published with an event id of its own, a handler is given an envelope when
it has returned from the one before, and calls do not fail. `overflow` is what the platform
makes of a total that does not fit into `int`. -/
def Orderly (overflow : Int64) (s : System) : Action → Prop
  | .external .orderCompleted env => env.eventID ≠ "" ∧
      ∀ other ∈ s.log, other.eventName = Events.orderCompleted → other.eventID ≠ env.eventID
  | .external .inventoryReserved _ => True
  | .deliverOrder place amb => AllReturned s.orders ∧ amb.overflow = overflow ∧
      ∀ env ∈ s.log[place]?,
        env.eventName = Events.orderCompleted ∧ DrawsFresh s.loyalty (amb, env)
  | .deliverSaga _ _ => AllReturned s.sagas
  | .call _ fault => fault = none

/-- What a step publishes from outside. -/
def publication : System × Action → Option EventEnvelope
  | (_, .external topic env) => some { env with eventName := topic.eventName }
  | _ => none

/-- What a step delivers to `OnOrderCompletedHandler`. -/
def orderDelivery : System × Action → Option (OrderAmbient × EventEnvelope)
  | (s, .deliverOrder place amb) => s.log[place]?.map (amb, ·)
  | _ => none

/-- What a step delivers to the saga. -/
def sagaDelivery : System × Action → Option (Saga.OrderFulfillmentSaga.Ambient × EventEnvelope)
  | (s, .deliverSaga place amb) => s.log[place]?.map (amb, ·)
  | _ => none

/-- Everything published from outside in these steps. -/
def publications (past : List (System × Action)) : List EventEnvelope := past.filterMap publication

/-- Everything delivered to `OnOrderCompletedHandler`. -/
def orderDeliveries (past : List (System × Action)) : List (OrderAmbient × EventEnvelope) :=
  past.filterMap orderDelivery

/-- Everything delivered to the saga. -/
def sagaDeliveries (past : List (System × Action)) :
    List (Saga.OrderFulfillmentSaga.Ambient × EventEnvelope) :=
  past.filterMap sagaDelivery

private theorem filterMap_concat {α β : Type*} (f : α → Option β) (l : List α) (x : α) :
    (l ++ [x]).filterMap f = l.filterMap f ++ (f x).toList := by
  rw [List.filterMap_append, List.filterMap_cons, List.filterMap_nil]
  cases f x <;> rfl

/-- An envelope that is an order, with its payload. -/
def order? (env : EventEnvelope) : Option (EventEnvelope × OrderCompletedPayload) :=
  if env.eventName = Events.orderCompleted then
    match env.payload with
    | some (.orderCompleted payload) => some (env, payload)
    | _ => none
  else none

/-- The orders of a log. -/
def ordersOf (log : List EventEnvelope) : List (EventEnvelope × OrderCompletedPayload) :=
  log.filterMap order?

theorem order?_eq_some {env : EventEnvelope} {order : EventEnvelope × OrderCompletedPayload} :
    order? env = some order ↔ order.1 = env ∧ env.eventName = Events.orderCompleted ∧
      env.payload = some (.orderCompleted order.2) := by
  rw [order?]
  split
  · next named =>
      split
      · next payload typed =>
          rw [Option.some_inj, typed]
          constructor
          · rintro rfl
            exact ⟨rfl, named, rfl⟩
          · rintro ⟨rfl, -, same⟩
            cases same
            rfl
      · next untyped =>
          refine iff_of_false (by simp) ?_
          rintro ⟨-, -, typed⟩
          exact untyped _ typed
  · next other =>
      refine iff_of_false (by simp) ?_
      rintro ⟨-, named, -⟩
      exact other named

theorem mem_ordersOf {log : List EventEnvelope}
    {order : EventEnvelope × OrderCompletedPayload} :
    order ∈ ordersOf log ↔ order.1 ∈ log ∧ order.1.eventName = Events.orderCompleted ∧
      order.1.payload = some (.orderCompleted order.2) := by
  rw [ordersOf, List.mem_filterMap]
  constructor
  · rintro ⟨env, mem, found⟩
    obtain ⟨rfl, rest⟩ := order?_eq_some.mp found
    exact ⟨mem, rest⟩
  · rintro ⟨mem, rest⟩
    exact ⟨order.1, mem, order?_eq_some.mpr ⟨rfl, rest⟩⟩

/-- Each handler's store is on its way to the one that its deliveries leave when they are
handled one after another, and everything in the log was published by someone. -/
structure Kept (overflow : Int64) (outside : List EventEnvelope)
    (orders : List (OrderAmbient × EventEnvelope))
    (sagas : List (Saga.OrderFulfillmentSaga.Ambient × EventEnvelope)) (s : System) : Prop where
  log : s.log.Perm (outside ++ (s.loyalty.published ++ s.saga.published))
  external : ∀ env ∈ outside, isExternal env = true
  keyed : ∀ order ∈ ordersOf outside, order.1.eventID ≠ ""
  distinct : ((ordersOf outside).map (·.1.eventID)).Nodup
  loyalty : Owes (serve.withFaults fun _ => none) s.orders s.loyalty
    (runFrom delivered .empty orders)
  fresh : Admitted delivered DrawsFresh .empty orders
  orders : ∀ d ∈ orders,
    d.1.overflow = overflow ∧ d.2.eventName = Events.orderCompleted ∧ d.2 ∈ s.log
  saga : Owes (Saga.serve.withFaults fun _ => none) s.sagas s.saga
    (runFrom Saga.OrderFulfillmentSaga.handled .empty sagas)
  sagas : ∀ d ∈ sagas, d.2 ∈ s.log

theorem kept_start (overflow : Int64) : Kept overflow [] [] [] (start .empty .empty) where
  log := .refl _
  external _ mem := absurd mem List.not_mem_nil
  keyed _ mem := absurd mem List.not_mem_nil
  distinct := List.nodup_nil
  loyalty := .nothing (fun _ _ mem => by cases mem) rfl
  fresh := trivial
  orders _ mem := absurd mem List.not_mem_nil
  saga := .nothing (fun _ _ mem => by cases mem) rfl
  sagas _ mem := absurd mem List.not_mem_nil

section Step

variable {overflow : Int64} {outside : List EventEnvelope}
  {orders : List (OrderAmbient × EventEnvelope)}
  {sagas : List (Saga.OrderFulfillmentSaga.Ambient × EventEnvelope)} {s : System}

/-- The log goes on being made up of what was published, whoever publishes next. -/
theorem perm_publish {log first second : List EventEnvelope} (perm : log.Perm (first ++ second))
    (new : List EventEnvelope) : (log ++ new).Perm ((first ++ new) ++ second) := by
  refine (perm.append_right new).trans ?_
  rw [List.append_assoc, List.append_assoc]
  exact List.perm_append_comm.append_left first

/-- A loyalty call only adds to what is published. -/
theorem loyalty_published_append (s : LoyaltyStore) (c : LoyaltyCall) :
    let served := serve.withFaults (fun _ => none) s c
    served.2.published = s.published ++ served.2.published.drop s.published.length := by
  intro served
  have result : served = serve s c := Service.withFaults_none rfl s
  rw [result]
  cases c with
  | «exists» key => simp [serve]
  | findByCustomerID customerID => simp [serve]
  | save agg =>
      cases outcome : s.save agg with
      | error e => simp [serve, outcome, writeReply]
      | ok t => simp [serve, outcome, writeReply, (CreditLoyaltyHandler.save_frame outcome).2]
  | publish envelopes => simp [serve, LoyaltyStore.publish]
  | mark key =>
      cases outcome : s.mark key with
      | error e => simp [serve, outcome, writeReply]
      | ok t => simp [serve, outcome, writeReply, (LoyaltyStore.mark_ok outcome).2]

/-- So does a call of the saga. -/
theorem saga_published_append (s : Saga.SagaStore) (c : Saga.SagaCall) :
    let served := Saga.serve.withFaults (fun _ => none) s c
    served.2.published = s.published ++ served.2.published.drop s.published.length := by
  intro served
  have result : served = Saga.serve s c := Service.withFaults_none rfl s
  rw [result]
  cases c <;> simp [Saga.serve]

/-- An order from outside brings an event id that is not in use. -/
theorem Kept.new_order (kept : Kept overflow outside orders sagas s) {topic : ExternalTopic}
    {env : EventEnvelope} (orderly : Orderly overflow s (.external topic env))
    {order : EventEnvelope × OrderCompletedPayload}
    (new : order? { env with eventName := topic.eventName } = some order) :
    order.1.eventID ≠ "" ∧ order.1.eventID ∉ (ordersOf outside).map (·.1.eventID) := by
  obtain ⟨same, named, -⟩ := order?_eq_some.mp new
  rw [same]
  cases topic with
  | inventoryReserved =>
      have named : Events.inventoryReserved = Events.orderCompleted := named
      exact absurd named (by decide)
  | orderCompleted =>
      refine ⟨orderly.1, fun used => ?_⟩
      obtain ⟨other, mem, sameID⟩ := List.mem_map.mp used
      obtain ⟨published, completed, -⟩ := mem_ordersOf.mp mem
      exact orderly.2 other.1 (kept.log.mem_iff.mpr (List.mem_append_left _ published)) completed
        sameID

theorem Kept.publish (kept : Kept overflow outside orders sagas s) {topic : ExternalTopic}
    {env : EventEnvelope} (orderly : Orderly overflow s (.external topic env)) :
    Kept overflow (outside ++ [{ env with eventName := topic.eventName }]) orders sagas
      (step s (.external topic env)) := by
  have split : ordersOf (outside ++ [{ env with eventName := topic.eventName }]) =
      ordersOf outside ++ (order? { env with eventName := topic.eventName }).toList := by
    rw [ordersOf, filterMap_concat]
    rfl
  have known : ∀ e ∈ s.log, e ∈ (step s (.external topic env)).log :=
    fun e mem => List.mem_append_left _ mem
  exact
    { log := perm_publish kept.log _
      external := fun e mem => by
        obtain old | new := List.mem_append.mp mem
        · exact kept.external e old
        · rw [List.mem_singleton.mp new]
          cases topic <;> rfl
      keyed := fun order mem => by
        rw [split] at mem
        obtain old | new := List.mem_append.mp mem
        · exact kept.keyed order old
        · exact (kept.new_order orderly (Option.mem_toList.mp new)).1
      distinct := by
        rw [split]
        cases new : order? { env with eventName := topic.eventName } with
        | none => simpa using kept.distinct
        | some order =>
            rw [Option.toList_some, List.map_append, List.map_singleton, ← List.concat_eq_append,
              List.nodup_concat]
            exact ⟨(kept.new_order orderly new).2, kept.distinct⟩
      loyalty := kept.loyalty
      fresh := kept.fresh
      orders := fun d mem => ⟨(kept.orders d mem).1, (kept.orders d mem).2.1,
        known _ (kept.orders d mem).2.2⟩
      saga := kept.saga
      sagas := fun d mem => known _ (kept.sagas d mem) }

theorem Kept.deliverOrder (kept : Kept overflow outside orders sagas s) {place : Nat}
    {amb : OrderAmbient} {env : EventEnvelope} (found : s.log[place]? = some env)
    (orderly : Orderly overflow s (.deliverOrder place amb)) :
    Kept overflow outside (orders ++ [(amb, env)]) sagas
      (step s (.deliverOrder place amb)) := by
  obtain ⟨returned, platform, accepted⟩ := orderly
  obtain ⟨named, fresh⟩ := accepted env found
  have settled := kept.loyalty.settled returned
  rw [step, found]
  exact
    { kept with
      loyalty := by
        rw [runFrom_concat, ← settled, System.orders, threadsOf_concat]
        exact .start returned _ _ _
      fresh := by
        rw [admitted_append, ← settled]
        exact ⟨kept.fresh, fresh, trivial⟩
      orders := fun d mem => by
        obtain old | new := List.mem_append.mp mem
        · exact kept.orders d old
        · obtain rfl := List.mem_singleton.mp new
          exact ⟨platform, named, List.mem_of_getElem? found⟩
      saga := by
        rw [System.sagas, threadsOf_concat_none rfl]
        exact kept.saga }

theorem Kept.deliverSaga (kept : Kept overflow outside orders sagas s) {place : Nat}
    {amb : Saga.OrderFulfillmentSaga.Ambient} {env : EventEnvelope}
    (found : s.log[place]? = some env)
    (returned : AllReturned s.sagas) :
    Kept overflow outside orders (sagas ++ [(amb, env)]) (step s (.deliverSaga place amb)) := by
  have settled := kept.saga.settled returned
  rw [step, found]
  exact
    { kept with
      loyalty := by
        rw [System.orders, threadsOf_concat_none rfl]
        exact kept.loyalty
      saga := by
        rw [runFrom_concat, ← settled, System.sagas, threadsOf_concat]
        exact .start returned _ _ _
      sagas := fun d mem => by
        obtain old | new := List.mem_append.mp mem
        · exact kept.sagas d old
        · obtain rfl := List.mem_singleton.mp new
          exact List.mem_of_getElem? found }

theorem Kept.call (kept : Kept overflow outside orders sagas s) (execution : Nat) :
    Kept overflow outside orders sagas (step s (.call execution none)) := by
  rw [step]
  simp only [Option.map_none]
  split
  · next c next found =>
      have grown := loyalty_published_append s.loyalty c
      exact
        { kept with
          log := by
            have parts : s.log.Perm ((outside ++ s.loyalty.published) ++ s.saga.published) := by
              rw [List.append_assoc]
              exact kept.log
            have perm := perm_publish parts
              ((serve.withFaults (fun _ => none) s.loyalty c).2.published.drop
                s.loyalty.published.length)
            rwa [List.append_assoc outside, ← grown, List.append_assoc] at perm
          loyalty := by
            have here : s.orders execution = some (.call c next) := by
              rw [System.orders, threadsOf, found]
              rfl
            rw [System.orders, threadsOf_set found]
            exact kept.loyalty.call here
          orders := fun d mem => by
            obtain ⟨platform, named, published⟩ := kept.orders d mem
            exact ⟨platform, named, List.mem_append_left _ published⟩
          saga := by
            rw [System.sagas, threadsOf_set_none found rfl rfl]
            exact kept.saga
          sagas := fun d mem => List.mem_append_left _ (kept.sagas d mem) }
  · next c next found =>
      have grown := saga_published_append s.saga c
      exact
        { kept with
          log := by
            have perm := kept.log.append_right
              ((Saga.serve.withFaults (fun _ => none) s.saga c).2.published.drop
                s.saga.published.length)
            rwa [List.append_assoc, List.append_assoc, ← grown] at perm
          loyalty := by
            rw [System.orders, threadsOf_set_none found rfl rfl]
            exact kept.loyalty
          orders := fun d mem => by
            obtain ⟨platform, named, published⟩ := kept.orders d mem
            exact ⟨platform, named, List.mem_append_left _ published⟩
          saga := by
            have here : s.sagas execution = some (.call c next) := by
              rw [System.sagas, threadsOf, found]
              rfl
            rw [System.sagas, threadsOf_set found]
            exact kept.saga.call here
          sagas := fun d mem => List.mem_append_left _ (kept.sagas d mem) }
  · exact kept

end Step

/-- The stores are where the deliveries of these steps take them. -/
def KeptAfter (overflow : Int64) (s : System) (past : List (System × Action)) : Prop :=
  Kept overflow (publications past) (orderDeliveries past) (sagaDeliveries past) s

theorem kept_run {overflow : Int64} {actions : List Action}
    (orderly : Admitted step (Orderly overflow) (start .empty .empty) actions) :
    KeptAfter overflow (runFrom step (start .empty .empty) actions)
      (transitions step (start .empty .empty) actions) := by
  refine orderly.invariant_transitions (fun s past action kept orderly => ?_) (kept_start overflow)
  have kept : Kept overflow (publications past) (orderDeliveries past) (sagaDeliveries past) s :=
    kept
  rw [KeptAfter, publications, orderDeliveries, sagaDeliveries, filterMap_concat, filterMap_concat,
    filterMap_concat]
  cases action with
  | external topic env =>
      simp only [publication, orderDelivery, sagaDelivery, Option.toList, List.append_nil]
      exact kept.publish orderly
  | deliverOrder place amb =>
      cases found : s.log[place]? with
      | none =>
          simp only [publication, orderDelivery, sagaDelivery, found, Option.map_none,
            Option.toList, List.append_nil, step]
          exact kept
      | some env =>
          simp only [publication, orderDelivery, sagaDelivery, found, Option.map_some,
            Option.toList, List.append_nil]
          exact kept.deliverOrder found orderly
  | deliverSaga place amb =>
      cases found : s.log[place]? with
      | none =>
          simp only [publication, orderDelivery, sagaDelivery, found, Option.map_none,
            Option.toList, List.append_nil, step]
          exact kept
      | some env =>
          simp only [publication, orderDelivery, sagaDelivery, found, Option.map_some,
            Option.toList, List.append_nil]
          exact kept.deliverSaga found orderly
  | call execution fault =>
      obtain rfl : fault = none := orderly
      simp only [publication, orderDelivery, sagaDelivery, Option.toList, List.append_nil]
      exact kept.call execution

end GoOdin.Choreography
