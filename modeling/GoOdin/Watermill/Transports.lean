import GoOdin.Interaction.Run
import GoOdin.Watermill.EventBus

/-!
# On which transport publishers and subscribers meet

`Publish` looks at `sqlPublisher` and `Subscribe` at `sqlSubscriberFn`, each at the
moment of its own call. A handler stays on the transport it was given when it was
subscribed. The two sides of a critical topic therefore agree as long as nobody
changes the backend under a subscribed handler and the two fields are set together.

The router holds exactly the handlers whose `Subscribe` returned nil.
-/

namespace GoOdin.Watermill

open Interaction

/-- A call on the bus. -/
inductive BusCall where
  | setSQLBackend (pub : Option Publisher) (subFn : Option (String → Option String))
  | subscribe (eventName : String) (handler : EventHandler)
  | publish (carrier : List (String × String)) (envelopes : List (String × EventEnvelope))

namespace EventBus

/-- `newEventBus`, over this in-memory channel. -/
def new (gcPublisher : Publisher) : EventBus := { gcPublisher := gcPublisher }

/-- The bus after one call. `Publish` changes nothing of it. -/
def apply (b : EventBus) : BusCall → EventBus
  | .setSQLBackend pub subFn => b.setSQLBackend pub subFn
  | .subscribe eventName handler => (b.subscribe eventName handler).1
  | .publish _ _ => b

/-- Each message handed over goes to the transport on which every handler of its topic
is listening. -/
def ReachesSubscribers (b : EventBus) (carrier : List (String × String))
    (envelopes : List (String × EventEnvelope)) : Prop :=
  ∀ sent ∈ (b.publish carrier envelopes).1, ∀ reg ∈ b.router,
    reg.topic = sent.topic → reg.transport = sent.transport

/-- The transport of a handler is the one on which its topic is published. -/
def Matches (b : EventBus) (reg : Registration) : Prop :=
  reg.transport = (b.publisherFor reg.topic).1

/-- Every handler in the router matches its topic. -/
def Matched (b : EventBus) : Prop :=
  ∀ reg ∈ b.router, b.Matches reg

variable {b : EventBus} {carrier : List (String × String)}

theorem publisherFor_transport (b : EventBus) (topic : String) :
    (b.publisherFor topic).1 =
      if criticalTopics topic = true ∧ b.sqlPublisher.isSome then .sql else .channel := by
  unfold publisherFor
  cases criticalTopics topic <;> cases b.sqlPublisher <;> rfl

theorem publishOne_transport {uuid : String} {env : EventEnvelope} {sent : Sent}
    (published : b.publishOne carrier uuid env = .ok sent) :
    sent.transport = (b.publisherFor sent.topic).1 := by
  unfold publishOne at published
  split at published
  · cases published
  · split at published
    · cases published
    · cases published
      rfl

/-- A message handed over is on the transport chosen for its topic. -/
theorem publish_transport {envelopes : List (String × EventEnvelope)} {sent : Sent}
    (handed : sent ∈ (b.publish carrier envelopes).1) :
    sent.transport = (b.publisherFor sent.topic).1 := by
  induction envelopes with
  | nil => exact absurd handed List.not_mem_nil
  | cons entry rest ih =>
      obtain ⟨uuid, env⟩ := entry
      rw [publish] at handed
      split at handed
      · exact absurd handed List.not_mem_nil
      · next first published =>
          rcases List.mem_cons.mp handed with rfl | later
          · exact publishOne_transport published
          · exact ih later

/-- Handlers that match their topics miss no message. -/
theorem reachesSubscribers_of_matches (matched : b.Matched)
    (envelopes : List (String × EventEnvelope)) : b.ReachesSubscribers carrier envelopes := by
  intro sent handed reg subscribed same
  rw [matched reg subscribed, publish_transport handed, same]

/-- What one `Subscribe` adds to the router: nothing when the SQL subscriber of a
critical topic cannot be created, and otherwise one handler. -/
theorem subscribe_cases (b : EventBus) (eventName : String) (handler : EventHandler) :
    (b.subscribe eventName handler).1.sqlPublisher = b.sqlPublisher ∧
      ((criticalTopics eventName = true ∧
          (∃ subFn err, b.sqlSubscriberFn = some subFn ∧ subFn eventName = some err) ∧
          (b.subscribe eventName handler).1.router = b.router) ∨
        (criticalTopics eventName = true ∧
          (∃ subFn, b.sqlSubscriberFn = some subFn ∧ subFn eventName = none) ∧
          ∃ reg, reg.topic = eventName ∧ reg.transport = .sql ∧
            (b.subscribe eventName handler).1.router = b.router ++ [reg]) ∨
        ((criticalTopics eventName = true → b.sqlSubscriberFn = none) ∧
          ∃ reg, reg.topic = eventName ∧ reg.transport = .channel ∧
            (b.subscribe eventName handler).1.router = b.router ++ [reg])) := by
  unfold subscribe
  cases critical : criticalTopics eventName with
  | false => exact ⟨rfl, .inr (.inr ⟨(fun h => nomatch h), _, rfl, rfl, rfl⟩)⟩
  | true =>
      cases factory : b.sqlSubscriberFn with
      | none => exact ⟨rfl, .inr (.inr ⟨fun _ => rfl, _, rfl, rfl, rfl⟩)⟩
      | some subFn =>
          cases created : subFn eventName with
          | some err =>
              dsimp only
              rw [created]
              exact ⟨rfl, .inl ⟨rfl, ⟨subFn, err, rfl, created⟩, rfl⟩⟩
          | none =>
              dsimp only
              rw [created]
              exact ⟨rfl, .inr (.inl ⟨rfl, ⟨subFn, rfl, created⟩, _, rfl, rfl, rfl⟩)⟩

/-- The call leaves no handler on the other transport: a new backend has a publisher
exactly if the handlers of critical topics are on SQL, and a critical topic is
subscribed while publisher and subscriber factory are both set or both missing. -/
def KeepsTransports (b : EventBus) : BusCall → Prop
  | .setSQLBackend pub _ =>
      ∀ reg ∈ b.router, criticalTopics reg.topic = true → (reg.transport = .sql ↔ pub.isSome)
  | .subscribe eventName _ =>
      criticalTopics eventName = true →
        (b.sqlSubscriberFn = none → b.sqlPublisher = none) ∧
          ∀ subFn, b.sqlSubscriberFn = some subFn → subFn eventName = none → b.sqlPublisher.isSome
  | .publish _ _ => True

/-- The choice of a transport looks at the publisher of the bus only. -/
theorem matches_congr {b' : EventBus} (same : b'.sqlPublisher = b.sqlPublisher)
    (reg : Registration) : b'.Matches reg ↔ b.Matches reg := by
  unfold Matches
  rw [publisherFor_transport, publisherFor_transport, same]

private theorem matches_append {b' : EventBus} {reg : Registration}
    (matched : b.Matched) (same : b'.sqlPublisher = b.sqlPublisher)
    (router : b'.router = b.router ++ [reg]) :
    b'.Matched ↔ b.Matches reg := by
  unfold Matched
  rw [router]
  constructor
  · intro all
    exact (matches_congr same reg).mp
      (all reg (List.mem_append_right _ (List.mem_singleton.mpr rfl)))
  · intro new other mem
    rw [matches_congr same]
    rcases List.mem_append.mp mem with old | last
    · exact matched other old
    · rwa [List.mem_singleton.mp last]

/-- From a bus whose handlers match their topics, exactly these calls lead to another
one. -/
theorem matches_apply_iff (matched : b.Matched) (call : BusCall) :
    (b.apply call).Matched ↔ b.KeepsTransports call := by
  cases call with
  | setSQLBackend pub subFn =>
      refine forall₂_congr fun reg mem => ?_
      have before := matched reg mem
      unfold Matches at before ⊢
      rw [publisherFor_transport] at before ⊢
      change reg.transport = (if criticalTopics reg.topic = true ∧ pub.isSome then _ else _) ↔ _
      cases critical : criticalTopics reg.topic with
      | false => simpa [critical] using before
      | true =>
          cases transport : reg.transport <;> cases pub <;> simp
  | subscribe eventName handler =>
      obtain ⟨same, cases⟩ := subscribe_cases b eventName handler
      rcases cases with ⟨critical, ⟨subFn, err, factory, failed⟩, router⟩ |
        ⟨critical, ⟨subFn, factory, created⟩, reg, topic, transport, router⟩ |
        ⟨channel, reg, topic, transport, router⟩
      · refine iff_of_true ?_ ?_
        · intro reg mem
          rw [apply, matches_congr same]
          rw [apply, router] at mem
          exact matched reg mem
        · simp [KeepsTransports, factory, failed]
      · rw [apply, matches_append matched same router]
        simp [Matches, publisherFor_transport, topic, transport, critical, KeepsTransports, factory,
          created, Option.isSome_iff_ne_none]
      · rw [apply, matches_append matched same router]
        simp only [Matches, publisherFor_transport, topic, transport, KeepsTransports]
        cases critical : criticalTopics eventName with
        | false => simp
        | true => cases publisher : b.sqlPublisher <;> simp [channel critical]
  | publish carrier envelopes => exact iff_of_true matched trivial

/-- No call removes a handler from the router. -/
theorem router_subset_apply (b : EventBus) (call : BusCall) :
    b.router ⊆ (b.apply call).router := by
  cases call with
  | setSQLBackend pub subFn => exact List.Subset.refl _
  | publish carrier envelopes => exact List.Subset.refl _
  | subscribe eventName handler =>
      obtain ⟨_, ⟨_, _, router⟩ | ⟨_, _, reg, _, _, router⟩ | ⟨_, reg, _, _, router⟩⟩ :=
        subscribe_cases b eventName handler
      · rw [apply, router]
        exact List.Subset.refl _
      · rw [apply, router]
        exact List.subset_append_left _ _
      · rw [apply, router]
        exact List.subset_append_left _ _

theorem router_subset_runFrom (b : EventBus) (calls : List BusCall) :
    b.router ⊆ (runFrom apply b calls).router := by
  induction calls generalizing b with
  | nil => exact List.Subset.refl _
  | cons call calls ih => exact List.Subset.trans (router_subset_apply b call) (ih _)

/-- A handler whose `Subscribe` returned nil is in the router from then on. -/
theorem subscribed_mem_router (b : EventBus) (earlier later : List BusCall) (eventName : String)
    (handler : EventHandler)
    (subscribed : ((runFrom apply b earlier).subscribe eventName handler).2 = none) :
    ∃ reg ∈ (runFrom apply b (earlier ++ .subscribe eventName handler :: later)).router,
      reg.topic = eventName ∧ reg.handler = handler := by
  obtain ⟨reg, mem, fields⟩ := subscribe_eq_ok (Prod.ext rfl subscribed)
  refine ⟨reg, ?_, fields⟩
  rw [runFrom_append, runFrom_cons]
  exact router_subset_runFrom _ later mem

end EventBus

open EventBus

/-- In every sequence of calls that keeps the transports: each message a `Publish`
hands over goes to the transport of every handler in the router for its topic, and
each handler subscribed before to that topic with a nil result is among them. -/
theorem published_reach_subscribers (gcPublisher : Publisher) (calls : List BusCall)
    (kept : Admitted apply KeepsTransports (.new gcPublisher) calls) (before after : List BusCall)
    (carrier : List (String × String)) (envelopes : List (String × EventEnvelope))
    (split : calls = before ++ .publish carrier envelopes :: after) :
    (runFrom apply (.new gcPublisher) before).ReachesSubscribers carrier envelopes ∧
      ∀ earlier eventName handler later,
        before = earlier ++ .subscribe eventName handler :: later →
        ((runFrom apply (.new gcPublisher) earlier).subscribe eventName handler).2 = none →
        ∃ reg ∈ (runFrom apply (.new gcPublisher) before).router,
          reg.topic = eventName ∧ reg.handler = handler := by
  subst split
  have matched : (runFrom apply (.new gcPublisher) before).Matched :=
    (admitted_append.mp kept).1.invariant
      (fun b call matched keeps => (matches_apply_iff matched call).mpr keeps)
      fun reg mem => absurd mem List.not_mem_nil
  refine ⟨reachesSubscribers_of_matches matched envelopes, ?_⟩
  rintro earlier eventName handler later rfl subscribed
  exact subscribed_mem_router _ earlier later eventName handler subscribed

/-- An order without a payload, as a bus sees it. -/
def sampleOrderMessage : EventEnvelope where
  eventID := "01ORDER"
  correlationID := "trace-1"
  causationID := ""
  eventName := Events.orderCompleted

/-- Both halves of a SQL backend that never fails. -/
def sampleBackend : BusCall := .setSQLBackend (some fun _ _ => none) (some fun _ => none)

/-- The backend is set before the first subscription. -/
theorem published_reach_subscribers_backend_first :
    (runFrom apply (.new fun _ _ => none)
      [sampleBackend, .subscribe Events.orderCompleted fun _ => none]).ReachesSubscribers []
      [("01MESSAGE", sampleOrderMessage)] :=
  (published_reach_subscribers (fun _ _ => none)
    [sampleBackend, .subscribe Events.orderCompleted fun _ => none,
      .publish [] [("01MESSAGE", sampleOrderMessage)]]
    ⟨fun _ mem => absurd mem List.not_mem_nil,
      fun _ => ⟨(fun missing => nomatch missing), fun _ _ _ => rfl⟩, trivial, trivial⟩
    [sampleBackend, .subscribe Events.orderCompleted fun _ => none] [] [] _ rfl).1

/-- The backend is set after an order handler was subscribed: the order goes to SQL, and
the handler listens on the channel. -/
theorem late_backend_misses_subscriber :
    ¬ (runFrom apply (.new fun _ _ => none)
      [.subscribe Events.orderCompleted fun _ => none, sampleBackend]).ReachesSubscribers []
      [("01MESSAGE", sampleOrderMessage)] := by
  intro reaches
  have same := reaches _ List.mem_cons_self _ List.mem_cons_self rfl
  exact absurd same (by decide)

end GoOdin.Watermill
