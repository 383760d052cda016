import GoOdin.Interaction.Pool
import GoOdin.Saga.Handler

/-!
# Concurrent executions of `OrderFulfillmentSaga.Handle`

Between two calls an execution is at one of four stages, or has returned. Its copy
of the saga state is determined by its stage: the completion mark is not set before
the last save, and the last save is reached with both flags set, so a stage keeps the
two flags and nothing else. `Moves` lists everything one atomic call can do.
-/

namespace GoOdin.Saga.OrderFulfillmentSaga

open Interaction

/-- Where an execution is, by the call it makes next. -/
inductive Stage where
  | find
  | progress (loyaltyCredited inventoryReserved : Bool)
  | complete
  | publish
  | returned (result : Except SagaError Unit)
  deriving DecidableEq

/-- The copy saved by the first save of an execution with these flags. -/
def progressState (env : EventEnvelope) (loyaltyCredited inventoryReserved : Bool) :
    FulfillmentSagaState where
  correlationID := env.correlationID
  loyaltyCredited := loyaltyCredited
  inventoryReserved := inventoryReserved

/-- The copy saved by the second save. -/
def completedState (amb : Ambient) (env : EventEnvelope) : FulfillmentSagaState :=
  { progressState env true true with completedAt := some amb.now }

namespace Stage

/-- The rest of the handler from a stage on. -/
def program (amb : Ambient) (env : EventEnvelope) : Stage → SagaProgram
  | .find => handle amb env
  | .progress credited reserved => saveProgress amb env (progressState env credited reserved)
  | .complete => OrderFulfillmentSaga.complete amb env (progressState env true true)
  | .publish => announce amb env
  | .returned result => .ret result

/-- Everything one call of an execution can do to its stage and to the store. -/
inductive Moves (amb : Ambient) (env : EventEnvelope) (s : SagaStore) :
    Stage → Stage → SagaStore → Prop where
  | done (completed : (s.current env.correlationID).completedAt ≠ none) :
      Moves amb env s .find (.returned (.ok ())) (s.create env.correlationID)
  | found (pending : (s.current env.correlationID).completedAt = none) :
      Moves amb env s .find
        (.progress
          ((s.current env.correlationID).loyaltyCredited ||
            decide (env.eventName = Events.loyaltyCredited))
          ((s.current env.correlationID).inventoryReserved ||
            decide (env.eventName = Events.inventoryReserved)))
        (s.create env.correlationID)
  | waits {credited reserved : Bool} (missing : (credited && reserved) = false) :
      Moves amb env s (.progress credited reserved) (.returned (.ok ()))
        (s.save (progressState env credited reserved))
  | met : Moves amb env s (.progress true true) .complete (s.save (progressState env true true))
  | completed : Moves amb env s .complete .publish (s.save (completedState amb env))
  | announced :
      Moves amb env s .publish (.returned (.ok ())) (s.publish (readyEnvelope amb env))

/-- The stages follow the handler call by call. -/
theorem stage_tracks (amb : Ambient) (env : EventEnvelope) :
    Tracks serve (program amb env) (Moves amb env) := by
  intro s stage c next
  cases stage with
  | find =>
      apply tracks_attempt
      · intro e t reply
        cases reply
      · intro state t reply
        cases reply
        by_cases pending : (s.current env.correlationID).completedAt = none
        · refine ⟨_, .found pending, ?_⟩
          rw [if_neg (not_not.mpr pending), FulfillmentSagaState.observe_eq,
            SagaStore.current_correlationID, pending]
          rfl
        · refine ⟨_, .done pending, ?_⟩
          rw [if_pos pending]
          rfl
  | progress credited reserved =>
      apply tracks_attempt
      · intro e t reply
        cases reply
      · intro _ t reply
        cases reply
        cases both : credited && reserved with
        | true =>
            obtain ⟨rfl, rfl⟩ := Bool.and_eq_true_iff.mp both
            exact ⟨_, .met, rfl⟩
        | false =>
            refine ⟨_, .waits both, ?_⟩
            rw [if_neg]
            · rfl
            · change ¬ (credited && reserved) = true
              rw [both]
              exact Bool.false_ne_true
  | complete =>
      apply tracks_attempt
      · intro e t reply
        cases reply
      · intro _ t reply
        cases reply
        exact ⟨_, .completed, rfl⟩
  | publish =>
      apply tracks_attempt
      · intro e t reply
        cases reply
      · intro _ t reply
        cases reply
        exact ⟨_, .announced, rfl⟩
  | returned result =>
      intro current
      cases current

end Stage

section Concurrent

variable {ι : Type}

/-- Executions of the saga on one store. -/
abbrev SagaPool (ι : Type) := Pool ι SagaCall SagaCall.Answer SagaError Unit SagaStore

/-- One execution for each envelope, none of which has made a call yet. -/
def startSaga (amb : ι → Ambient) (env : ι → EventEnvelope) (s : SagaStore) : SagaPool ι :=
  .start s fun i => handle (amb i) (env i)

/-- Each execution of the pool is at its stage. -/
abbrev AtStages (amb : ι → Ambient) (env : ι → EventEnvelope) (p : SagaPool ι)
    (stage : ι → Stage) : Prop :=
  p.At (fun i => Stage.program (amb i) (env i)) stage

theorem startSaga_atStages (amb : ι → Ambient) (env : ι → EventEnvelope) (s : SagaStore) :
    AtStages amb env (startSaga amb env s) fun _ => .find :=
  fun _ => rfl

/-- Execution `i` of the pool moved to stage `l'`. -/
abbrev Moved (amb : ι → Ambient) (env : ι → EventEnvelope) (p : SagaPool ι)
    (stage : ι → Stage) (i : ι) (l' : Stage) (p' : SagaPool ι) : Prop :=
  p.Moved serve (fun i => Stage.program (amb i) (env i))
    (fun i => Stage.Moves (amb i) (env i)) stage i l' p'

end Concurrent

end GoOdin.Saga.OrderFulfillmentSaga
