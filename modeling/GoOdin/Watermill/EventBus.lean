import GoOdin.Cqrs.Codec
import Mathlib.Data.List.Forall2
import Mathlib.Logic.Function.Basic

/-!
# The event bus over Watermill

`Publish` encodes each envelope and hands it to one of two transports; `Subscribe`
adds a router handler whose callback decodes a message and calls the subscribed
handler. The two meet only through the message. The publishers and the subscriber
factory are outside the repository: a publisher is the error it returns for a
message, and the factory is the error it returns for a topic.

`drivers/watermill` and `drivers/watermill_fx` have the same bus.
-/

namespace GoOdin.Watermill

/-- The map `criticalTopics`; every other topic reads as false. -/
def criticalTopics (topic : String) : Bool :=
  ["orders.order.completed", "loyalty.account.credited", "loyalty.account.credit_failed",
    "orders.fulfillment.ready", "orders.order.failed"].contains topic

inductive Transport where
  | sql
  | channel
  deriving DecidableEq, Repr

/-- A Watermill message: its id and the encoded envelope. -/
structure Message where
  uuid : String
  payload : Json

/-- A message that a transport accepted for a topic. -/
structure Sent where
  transport : Transport
  topic : String
  message : Message

/-- Errors of the bus. Causes outside the repository are known by their text. -/
inductive BusError where
  | marshalFailed (err : MarshalError)
  | publishFailed (topic : String) (err : String)
  | sqlSubscriber (err : String)

def BusError.message : BusError → String
  | .marshalFailed err => "eventBus.Publish: marshal failed: " ++ err.message
  | .publishFailed topic err => "eventBus.Publish: topic=" ++ topic ++ ": " ++ err
  | .sqlSubscriber err => "eventBus.Subscribe: SQL subscriber: " ++ err

/-- `message.Publisher`: the error it returns, or none. -/
abbrev Publisher := String → Message → Option String

/-- `cqrs.EventHandler`: the error that `Handle` returns, or none. -/
abbrev EventHandler := EventEnvelope → Option String

/-- A handler in the router. -/
structure Registration where
  name : String
  topic : String
  transport : Transport
  handler : EventHandler

structure EventBus where
  gcPublisher : Publisher
  sqlPublisher : Option Publisher := none
  /-- The error of creating the SQL subscriber of a topic, or none. -/
  sqlSubscriberFn : Option (String → Option String) := none
  subscribers : String → List EventHandler := fun _ => []
  router : List Registration := []

namespace EventBus

def setSQLBackend (b : EventBus) (pub : Option Publisher)
    (subFn : Option (String → Option String)) : EventBus :=
  { b with sqlPublisher := pub, sqlSubscriberFn := subFn }

/-- Where `Publish` sends a topic. -/
def publisherFor (b : EventBus) (topic : String) : Transport × Publisher :=
  match criticalTopics topic, b.sqlPublisher with
  | true, some pub => (.sql, pub)
  | _, _ => (.channel, b.gcPublisher)

/-- One round of the loop in `Publish`. The injected trace context replaces the
carrier of the envelope. -/
def publishOne (b : EventBus) (carrier : List (String × String)) (uuid : String)
    (env : EventEnvelope) : Except BusError Sent :=
  match { env with otelCarrier := carrier }.marshalJSON with
  | .error e => .error (.marshalFailed e)
  | .ok payload =>
      match (b.publisherFor env.eventName).2 env.eventName ⟨uuid, payload⟩ with
      | some err => .error (.publishFailed env.eventName err)
      | none => .ok ⟨(b.publisherFor env.eventName).1, env.eventName, ⟨uuid, payload⟩⟩

/-- `Publish`: the messages handed over, and the error that ended the loop, if any. -/
def publish (b : EventBus) (carrier : List (String × String)) :
    List (String × EventEnvelope) → List Sent × Option BusError
  | [] => ([], none)
  | (uuid, env) :: rest =>
      match b.publishOne carrier uuid env with
      | .error e => ([], some e)
      | .ok sent => (sent :: (b.publish carrier rest).1, (b.publish carrier rest).2)

/-- The router entry that `Subscribe` adds. The number in the name is the count of
subscriptions of the topic, this one included. -/
def addHandler (b : EventBus) (eventName : String) (transport : Transport)
    (handler : EventHandler) : EventBus :=
  { b with
    router := b.router ++
      [{ name := "event_handler." ++ eventName ++ "." ++ toString (b.subscribers eventName).length
         topic := eventName
         transport := transport
         handler := handler }] }

/-- `Subscribe`. The subscription is counted before the SQL subscriber is created, and
stays counted when that fails. -/
def subscribe (b : EventBus) (eventName : String) (handler : EventHandler) :
    EventBus × Option BusError :=
  let b := { b with
    subscribers := Function.update b.subscribers eventName (b.subscribers eventName ++ [handler]) }
  match criticalTopics eventName, b.sqlSubscriberFn with
  | true, some subFn =>
      match subFn eventName with
      | some err => (b, some (.sqlSubscriber err))
      | none => (b.addHandler eventName .sql handler, none)
  | _, _ => (b.addHandler eventName .channel handler, none)

end EventBus

/-- The callback in the router: the calls it makes to the handler, and the error it
returns. A message that does not decode is logged, acknowledged and dropped. -/
def Registration.onMessage (reg : Registration) (msg : Message) :
    List EventEnvelope × Option String :=
  match EventEnvelope.unmarshalJSON msg.payload with
  | .error _ => ([], none)
  | .ok env => ([env], reg.handler env)

variable {b : EventBus} {carrier : List (String × String)} {uuid : String}
  {env : EventEnvelope} {sent : Sent}

/-- A message handed over holds the encoded envelope and goes to its topic. -/
theorem EventBus.publishOne_eq_ok (published : b.publishOne carrier uuid env = .ok sent) :
    sent.topic = env.eventName ∧
      { env with otelCarrier := carrier }.marshalJSON = .ok sent.message.payload := by
  unfold publishOne at published
  split at published
  · cases published
  · next payload encoded =>
      split at published
      · cases published
      · cases published
        exact ⟨rfl, encoded⟩

/-- A `Publish` that returns nil handed over one message for each envelope, in order. -/
theorem EventBus.publish_eq_ok {envelopes : List (String × EventEnvelope)} {log : List Sent}
    (published : b.publish carrier envelopes = (log, none)) :
    List.Forall₂ (fun entry sent => b.publishOne carrier entry.1 entry.2 = .ok sent)
      envelopes log := by
  induction envelopes generalizing log with
  | nil =>
      cases published
      exact .nil
  | cons entry rest ih =>
      obtain ⟨uuid, env⟩ := entry
      rw [publish] at published
      split at published
      · cases published
      · next sent first =>
          obtain ⟨rfl, later⟩ := Prod.mk.inj published
          exact .cons first (ih (Prod.ext rfl later))

/-- A `Subscribe` that returns nil installed a callback for the handler. -/
theorem EventBus.subscribe_eq_ok {b' : EventBus} {eventName : String} {handler : EventHandler}
    (subscribed : b.subscribe eventName handler = (b', none)) :
    ∃ reg ∈ b'.router, reg.topic = eventName ∧ reg.handler = handler := by
  unfold subscribe at subscribed
  dsimp only at subscribed
  split at subscribed
  · split at subscribed
    · cases subscribed
    · cases subscribed
      exact ⟨_, List.mem_append_right _ (List.mem_singleton.mpr rfl), rfl, rfl⟩
  · cases subscribed
    exact ⟨_, List.mem_append_right _ (List.mem_singleton.mpr rfl), rfl, rfl⟩

/-- The callback calls its handler once, with the published envelope. -/
def RoundTrips (reg : Registration) (env : EventEnvelope) (msg : Message) : Prop :=
  ∃ got, (reg.onMessage msg).1 = [got] ∧ got.eventID = env.eventID ∧
    got.correlationID = env.correlationID ∧ got.causationID = env.causationID ∧
    got.eventName = env.eventName ∧ got.occurredAt = env.occurredAt ∧ got.payload = env.payload

/-- An envelope without a payload reaches its subscribers. -/
theorem roundTrips_of_nil (published : b.publishOne carrier uuid env = .ok sent)
    (nil : env.payload = none) (reg : Registration) : RoundTrips reg env sent.message := by
  have decoded := EventEnvelope.unmarshalJSON_of_nil (EventBus.publishOne_eq_ok published).2 nil
  refine ⟨{ env with otelCarrier := carrier }, ?_, rfl, rfl, rfl, rfl, rfl, rfl⟩
  simp only [Registration.onMessage, decoded]

/-- An envelope with a payload is acknowledged without a call. -/
theorem onMessage_of_event (published : b.publishOne carrier uuid env = .ok sent)
    {event : DomainEvent} (carries : env.payload = some event) (reg : Registration) :
    reg.onMessage sent.message = ([], none) := by
  have refused :=
    EventEnvelope.unmarshalJSON_of_event (EventBus.publishOne_eq_ok published).2 carries
  simp only [Registration.onMessage, refused]

/-- After a `Publish` that returns nil, no envelope with a payload reaches any handler
subscribed to its topic: the callback acknowledges the message and calls nobody. -/
theorem published_payload_never_handled (b : EventBus) (carrier : List (String × String))
    (envelopes : List (String × EventEnvelope)) (log : List Sent)
    (published : b.publish carrier envelopes = (log, none)) :
    List.Forall₂ (fun entry sent => ∀ event, entry.2.payload = some event →
      ∀ reg ∈ b.router, reg.topic = sent.topic →
        reg.onMessage sent.message = ([], none) ∧ ¬ RoundTrips reg entry.2 sent.message)
      envelopes log := by
  refine (EventBus.publish_eq_ok published).imp ?_
  intro entry sent published event carries reg _ _
  have dropped := onMessage_of_event published carries reg
  refine ⟨dropped, ?_⟩
  rintro ⟨got, calls, _⟩
  rw [dropped] at calls
  cases calls

/-- A bus in memory with one subscriber for credited accounts. -/
def sampleBus : EventBus :=
  (EventBus.subscribe { gcPublisher := fun _ _ => none } Events.loyaltyCredited fun _ => none).1

/-- What the credit handler publishes. -/
def sampleEnvelope : EventEnvelope where
  eventID := "01CREDITED"
  correlationID := "trace-1"
  causationID := "01ORDER"
  eventName := Events.loyaltyCredited
  occurredAt := ⟨1700000001000000000⟩
  payload := some (.loyaltyCredited
    { loyaltyAccountID := "01ACCOUNT", customerID := "customer-1", orderID := "order-1"
      pointsEarned := 10, newBalance := 110, newTier := "BRONZE"
      occurredAt := ⟨1700000001000000000⟩ })

theorem published_payload_never_handled_credited :
    List.Forall₂ (fun entry sent => ∀ event, entry.2.payload = some event →
      ∀ reg ∈ sampleBus.router, reg.topic = sent.topic →
        reg.onMessage sent.message = ([], none) ∧ ¬ RoundTrips reg entry.2 sent.message)
      [("01MESSAGE", sampleEnvelope)] (sampleBus.publish [] [("01MESSAGE", sampleEnvelope)]).1 :=
  published_payload_never_handled sampleBus [] [("01MESSAGE", sampleEnvelope)] _ rfl

/-- A credit is published without an error, and the callback of its subscriber
acknowledges the message without calling the handler. -/
theorem credited_event_dropped :
    (sampleBus.publish [] [("01MESSAGE", sampleEnvelope)]).2 = none ∧
      (sampleBus.publish [] [("01MESSAGE", sampleEnvelope)]).1.length = 1 ∧
      sampleBus.router.length = 1 ∧
      ∀ sent ∈ (sampleBus.publish [] [("01MESSAGE", sampleEnvelope)]).1,
        ∀ reg ∈ sampleBus.router,
          reg.topic = sent.topic ∧ ¬ RoundTrips reg sampleEnvelope sent.message := by
  refine ⟨rfl, rfl, rfl, ?_⟩
  intro sent published reg subscribed
  obtain rfl := List.mem_singleton.mp published
  obtain rfl := List.mem_singleton.mp subscribed
  refine ⟨rfl, ?_⟩
  rintro ⟨got, calls, _⟩
  cases calls

end GoOdin.Watermill
