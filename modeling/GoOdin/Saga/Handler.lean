import GoOdin.Cqrs.Envelope
import GoOdin.Interaction.Program
import Mathlib.Logic.Function.Basic

/-!
# `OrderFulfillmentSaga.Handle`

The saga waits for two events of one correlation id and then announces that the
order is ready. Its state lives in a repository; the handler works on a copy of it
and writes the whole copy back, twice when both events are in.

The repository is a map from correlation ids to states. `FindOrCreate` stores an
empty state for an id it does not know, so `current` reads the same before and after
it. The log line has no effect on the store and is left out.
-/

namespace GoOdin.Saga

open Interaction

structure FulfillmentSagaState where
  correlationID : String
  loyaltyCredited : Bool := false
  inventoryReserved : Bool := false
  completedAt : Option Time := none
  deriving DecidableEq, Repr

namespace FulfillmentSagaState

/-- The `switch` over the event name; any other name changes nothing. -/
def observe (state : FulfillmentSagaState) (eventName : String) : FulfillmentSagaState :=
  if eventName = Events.loyaltyCredited then { state with loyaltyCredited := true }
  else if eventName = Events.inventoryReserved then { state with inventoryReserved := true }
  else state

/-- Both prerequisites are met. -/
def ready (state : FulfillmentSagaState) : Bool :=
  state.loyaltyCredited && state.inventoryReserved

theorem observe_eq (state : FulfillmentSagaState) (eventName : String) :
    state.observe eventName =
      { state with
        loyaltyCredited := state.loyaltyCredited || decide (eventName = Events.loyaltyCredited)
        inventoryReserved :=
          state.inventoryReserved || decide (eventName = Events.inventoryReserved) } := by
  have distinct : Events.inventoryReserved ≠ Events.loyaltyCredited := by decide
  unfold observe
  by_cases credited : eventName = Events.loyaltyCredited
  · subst credited
    simp [distinct.symm]
  · by_cases reserved : eventName = Events.inventoryReserved
    · subst reserved
      simp [distinct]
    · simp [credited, reserved]

end FulfillmentSagaState

/-- The rows of `saga_states` by correlation id, and the envelopes the event bus
accepted. Every row is stored under its own id. -/
structure SagaStore where
  states : String → Option FulfillmentSagaState
  keyed : ∀ c state, states c = some state → state.correlationID = c
  published : List EventEnvelope

namespace SagaStore

def empty : SagaStore := ⟨fun _ => none, (fun _ _ found => nomatch found), []⟩

/-- The state `FindOrCreate` returns: the one last saved, or an empty one. -/
def current (s : SagaStore) (c : String) : FulfillmentSagaState :=
  (s.states c).getD { correlationID := c }

/-- A successful `Save`. -/
def save (s : SagaStore) (state : FulfillmentSagaState) : SagaStore where
  states := Function.update s.states state.correlationID (some state)
  keyed := by
    intro c stored found
    by_cases same : c = state.correlationID
    · subst same
      rw [Function.update_self] at found
      exact congrArg _ (Option.some.inj found).symm
    · rw [Function.update_of_ne same] at found
      exact s.keyed c stored found
  published := s.published

/-- A successful `Publish` of one envelope. -/
def publish (s : SagaStore) (env : EventEnvelope) : SagaStore :=
  { s with published := s.published ++ [env] }

/-- The store after `FindOrCreate`. -/
def create (s : SagaStore) (c : String) : SagaStore :=
  s.save (s.current c)

@[simp] theorem current_correlationID (s : SagaStore) (c : String) :
    (s.current c).correlationID = c := by
  unfold current
  cases found : s.states c with
  | none => rfl
  | some state => exact s.keyed c state found

@[simp] theorem current_empty (c : String) : empty.current c = { correlationID := c } := rfl

@[simp] theorem current_save (s : SagaStore) (state : FulfillmentSagaState) (c : String) :
    (s.save state).current c = if c = state.correlationID then state else s.current c := by
  change (Function.update s.states state.correlationID (some state) c).getD _ = _
  split
  · next same => rw [same, Function.update_self, Option.getD_some]
  · next other =>
      rw [Function.update_of_ne other]
      rfl

theorem current_save_of_eq (s : SagaStore) (state : FulfillmentSagaState) {c : String}
    (own : state.correlationID = c) : (s.save state).current c = state := by
  rw [current_save, if_pos own.symm]

@[simp] theorem current_publish (s : SagaStore) (env : EventEnvelope) (c : String) :
    (s.publish env).current c = s.current c := rfl

@[simp] theorem current_create (s : SagaStore) (c c' : String) :
    (s.create c).current c' = s.current c' := by
  rw [create, current_save]
  split
  · next same => rw [same, current_correlationID]
  · rfl

@[simp] theorem published_save (s : SagaStore) (state : FulfillmentSagaState) :
    (s.save state).published = s.published := rfl

@[simp] theorem published_create (s : SagaStore) (c : String) :
    (s.create c).published = s.published := rfl

@[simp] theorem published_publish (s : SagaStore) (env : EventEnvelope) :
    (s.publish env).published = s.published ++ [env] := rfl

theorem states_save_of_ne (s : SagaStore) {state : FulfillmentSagaState} {c : String}
    (other : c ≠ state.correlationID) : (s.save state).states c = s.states c :=
  Function.update_of_ne other _ _

end SagaStore

/-- The calls the saga makes on its repository and on the event bus. -/
inductive SagaCall where
  | findOrCreate (correlationID : String)
  | save (state : FulfillmentSagaState)
  | publish (env : EventEnvelope)

/-- A call by the method it names. -/
inductive SagaCallKind where
  | findOrCreate | save | publish
  deriving DecidableEq, Repr

def SagaCall.kind : SagaCall → SagaCallKind
  | .findOrCreate _ => .findOrCreate
  | .save _ => .save
  | .publish _ => .publish

abbrev SagaCall.Answer : SagaCall → Type
  | .findOrCreate _ => FulfillmentSagaState
  | .save _ | .publish _ => Unit

/-- An error of the repository or of the event bus, by its text. -/
abbrev SagaError := String

def serve : Service SagaCall SagaCall.Answer SagaError SagaStore
  | s, .findOrCreate c => (.ok (s.current c), s.create c)
  | s, .save state => (.ok (), s.save state)
  | s, .publish env => (.ok (), s.publish env)

abbrev SagaProgram := Program SagaCall SagaCall.Answer SagaError Unit

namespace OrderFulfillmentSaga

/-- What `ulid.Make` and `time.Now` yield during one execution. -/
structure Ambient where
  eventID : String
  now : Time
  deriving DecidableEq, Repr

/-- The final envelope. Its `OccurredAt` and `Payload` are left at their zero values. -/
def readyEnvelope (amb : Ambient) (env : EventEnvelope) : EventEnvelope where
  eventID := amb.eventID
  correlationID := env.correlationID
  causationID := env.eventID
  eventName := Events.orderFulfillmentReady

/-- The `Publish` whose outcome the handler returns. -/
def announce (amb : Ambient) (env : EventEnvelope) : SagaProgram :=
  .attempt (.publish (readyEnvelope amb env)) fun _ => .ret (.ok ())

/-- Mark the copy completed and save it a second time. -/
def complete (amb : Ambient) (env : EventEnvelope) (state : FulfillmentSagaState) : SagaProgram :=
  .attempt (.save { state with completedAt := some amb.now }) fun _ => announce amb env

/-- Save the copy; go on when both prerequisites are met. -/
def saveProgress (amb : Ambient) (env : EventEnvelope) (state : FulfillmentSagaState) :
    SagaProgram :=
  .attempt (.save state) fun _ => if state.ready then complete amb env state else .ret (.ok ())

def handle (amb : Ambient) (env : EventEnvelope) : SagaProgram :=
  .attempt (.findOrCreate env.correlationID) fun state : FulfillmentSagaState =>
    if state.completedAt ≠ none then .ret (.ok ())
    else saveProgress amb env (state.observe env.eventName)

/-- The envelope announces that the order of this correlation id is ready. -/
def isReady (c : String) (env : EventEnvelope) : Bool :=
  decide (env.eventName = Events.orderFulfillmentReady ∧ env.correlationID = c)

/-- The announcements for one correlation id. -/
def readyFor (c : String) (s : SagaStore) : List EventEnvelope :=
  s.published.filter (isReady c)

end OrderFulfillmentSaga

end GoOdin.Saga
