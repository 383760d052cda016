import GoOdin.Interaction.Lineage
import GoOdin.Interaction.Run
import GoOdin.Loyalty.OrderCompleted
import GoOdin.Saga.Handler

/-!
# The handlers together, over one log of envelopes

Orders and stock reservations are published from outside. Every envelope of the log
can be delivered to `OnOrderCompletedHandler` and to `OrderFulfillmentSaga`, at any
time and any number of times; what a handler publishes is appended to the log and
can be delivered in turn. A delivery starts an execution, and an execution makes its
calls one by one, so executions interleave; any call may fail.

Which ids a handler puts on what it publishes does not depend on any reply, so it is
a property of the calls its program can make at all. That the log stays linked follows
for every interleaving and every failure at once.
-/

namespace GoOdin

open Interaction

/-- The envelopes a call hands to the event bus. -/
def Loyalty.LoyaltyCall.envelopes : Loyalty.LoyaltyCall → List EventEnvelope
  | .publish envelopes => envelopes
  | _ => []

/-- The envelopes a call hands to the event bus. -/
def Saga.SagaCall.envelopes : Saga.SagaCall → List EventEnvelope
  | .publish env => [env]
  | _ => []

namespace Choreography

/-- The topics that other systems publish on. -/
inductive ExternalTopic where
  | orderCompleted
  | inventoryReserved
  deriving DecidableEq, Repr

def ExternalTopic.eventName : ExternalTopic → String
  | .orderCompleted => Events.orderCompleted
  | .inventoryReserved => Events.inventoryReserved

/-- An envelope came from outside. -/
def isExternal (env : EventEnvelope) : Bool :=
  env.eventName == Events.orderCompleted || env.eventName == Events.inventoryReserved

/-- An envelope names its cause by event id and keeps its correlation id. -/
def causation : Lineage EventEnvelope String String where
  key := (·.eventID)
  source := (·.causationID)
  group := (·.correlationID)
  isRoot := isExternal

/-- An execution of one of the two handlers, with what is left of it. -/
inductive Execution where
  | order (program : Loyalty.LoyaltyProgram Unit)
  | saga (program : Saga.SagaProgram)

structure System where
  loyalty : Loyalty.LoyaltyStore
  saga : Saga.SagaStore
  /-- Everything published so far, in order. -/
  log : List EventEnvelope
  running : List Execution

/-- Stores as they are found, nothing published yet. -/
def start (loyalty : Loyalty.LoyaltyStore) (saga : Saga.SagaStore) : System :=
  ⟨loyalty, saga, [], []⟩

inductive Action where
  /-- Another system publishes this envelope on a topic of its own. -/
  | external (topic : ExternalTopic) (env : EventEnvelope)
  /-- The envelope at this place of the log is delivered to `OnOrderCompletedHandler`. -/
  | deliverOrder (place : Nat) (amb : Loyalty.OnOrderCompletedHandler.OrderAmbient)
  /-- The envelope at this place of the log is delivered to the saga. -/
  | deliverSaga (place : Nat) (amb : Saga.OrderFulfillmentSaga.Ambient)
  /-- An execution makes its next call, which fails with this error, if any. -/
  | call (execution : Nat) (fault : Option String)

/-- One action. A place or an execution that does not exist makes it do nothing. -/
def step (s : System) : Action → System
  | .external topic env => { s with log := s.log ++ [{ env with eventName := topic.eventName }] }
  | .deliverOrder place amb =>
      match s.log[place]? with
      | none => s
      | some env =>
          { s with
            running := s.running ++
              [.order (Loyalty.OnOrderCompletedHandler.handle (.registered amb.command) amb env)] }
  | .deliverSaga place amb =>
      match s.log[place]? with
      | none => s
      | some env =>
          { s with running := s.running ++ [.saga (Saga.OrderFulfillmentSaga.handle amb env)] }
  | .call execution fault =>
      match s.running[execution]? with
      | some (.order (.call c next)) =>
          let reply := Loyalty.serve.withFaults (fun _ => fault.map .external) s.loyalty c
          { s with
            loyalty := reply.2
            log := s.log ++ reply.2.published.drop s.loyalty.published.length
            running := s.running.set execution (.order (next reply.1)) }
      | some (.saga (.call c next)) =>
          let reply := Saga.serve.withFaults (fun _ => fault) s.saga c
          { s with
            saga := reply.2
            log := s.log ++ reply.2.published.drop s.saga.published.length
            running := s.running.set execution (.saga (next reply.1)) }
      | _ => s

/-- Every envelope the execution can still publish is caused by this one. -/
def Execution.CausedBy (source : EventEnvelope) : Execution → Prop
  | .order program => program.EveryCall fun c => ∀ env ∈ c.envelopes, causation.Derives source env
  | .saga program => program.EveryCall fun c => ∀ env ∈ c.envelopes, causation.Derives source env

section Handlers

variable {source : EventEnvelope}

private theorem silent : ∀ env ∈ ([] : List EventEnvelope), causation.Derives source env :=
  fun _ mem => absurd mem List.not_mem_nil

section Credit

open Loyalty Loyalty.CreditLoyaltyHandler

variable {amb : Loyalty.Ambient} {cmd : CreditLoyaltyRequest}

private theorem markKey_everyCall (agg : LoyaltyAggregate) :
    (markKey cmd agg).EveryCall fun c => ∀ env ∈ c.envelopes, causation.Derives source env := by
  unfold markKey
  split
  · exact .attempt silent fun _ => .ret _
  · exact .ret _

variable (caused : cmd.causationEventID = source.eventID)
  (correlated : cmd.correlationID = source.correlationID)
include caused correlated

private theorem saveAggregate_everyCall (agg : LoyaltyAggregate) :
    (saveAggregate amb cmd agg).EveryCall
      fun c => ∀ env ∈ c.envelopes, causation.Derives source env := by
  refine .attempt silent fun _ => .attempt ?_ fun _ => markKey_everyCall _
  intro env mem
  obtain ⟨i, bound, rfl⟩ := List.mem_mapIdx.mp mem
  exact ⟨caused, correlated⟩

private theorem loadOrCreate_everyCall :
    (loadOrCreate amb cmd).EveryCall
      fun c => ∀ env ∈ c.envelopes, causation.Derives source env := by
  refine .attempt silent fun found => ?_
  unfold mutate
  split
  · exact .ret _
  · split
    · exact .ret _
    · exact saveAggregate_everyCall caused correlated _

/-- The credit handler copies the two ids of its command. -/
theorem credit_everyCall :
    (CreditLoyaltyHandler.handle amb cmd).EveryCall
      fun c => ∀ env ∈ c.envelopes, causation.Derives source env := by
  unfold CreditLoyaltyHandler.handle
  split
  · refine .attempt silent fun found => ?_
    split
    · exact .ret _
    · exact loadOrCreate_everyCall caused correlated
  · exact loadOrCreate_everyCall caused correlated

end Credit

/-- An order handled causes its credit or its compensation. -/
theorem order_causedBy (amb : Loyalty.OnOrderCompletedHandler.OrderAmbient)
    (env : EventEnvelope) :
    (Execution.order
      (Loyalty.OnOrderCompletedHandler.handle (.registered amb.command) amb env)).CausedBy env := by
  change Program.EveryCall _ _
  unfold Loyalty.OnOrderCompletedHandler.handle
  split
  · next payload typed =>
      refine .andThen (credit_everyCall rfl rfl) fun result => ?_
      cases result with
      | ok r => exact .ret _
      | error e =>
          refine ⟨fun published mem => ?_, fun _ => .ret _⟩
          obtain rfl := List.mem_singleton.mp mem
          exact ⟨rfl, rfl⟩
  · exact .ret _

/-- An envelope that completes the saga causes the announcement. -/
theorem saga_causedBy (amb : Saga.OrderFulfillmentSaga.Ambient) (env : EventEnvelope) :
    (Execution.saga (Saga.OrderFulfillmentSaga.handle amb env)).CausedBy env := by
  change Program.EveryCall _ _
  refine .attempt silent fun state => ?_
  split
  · exact .ret _
  · refine .attempt silent fun _ => ?_
    split
    · refine .attempt silent fun _ => .attempt (fun published mem => ?_) fun _ => .ret _
      obtain rfl := List.mem_singleton.mp mem
      exact ⟨rfl, rfl⟩
    · exact .ret _

end Handlers

/-- A loyalty call publishes its own envelopes or nothing. -/
theorem loyalty_published_subset (fault : Loyalty.LoyaltyCall → Option Loyalty.LoyaltyError)
    (s : Loyalty.LoyaltyStore) (c : Loyalty.LoyaltyCall) :
    (Loyalty.serve.withFaults fault s c).2.published.drop s.published.length ⊆ c.envelopes := by
  cases failed : fault c with
  | some e => simp [Service.withFaults_some failed]
  | none =>
      rw [Service.withFaults_none failed]
      cases c with
      | «exists» key => simp [Loyalty.serve]
      | findByCustomerID customerID => simp [Loyalty.serve]
      | save agg =>
          cases outcome : s.save agg with
          | error e => simp [Loyalty.serve, outcome, Loyalty.writeReply]
          | ok t =>
              have frame := (Loyalty.CreditLoyaltyHandler.save_frame outcome).2
              simp [Loyalty.serve, outcome, Loyalty.writeReply, frame]
      | publish envelopes =>
          simp [Loyalty.serve, Loyalty.LoyaltyStore.publish, Loyalty.LoyaltyCall.envelopes]
      | mark key =>
          cases outcome : s.mark key with
          | error e => simp [Loyalty.serve, outcome, Loyalty.writeReply]
          | ok t =>
              have frame := (Loyalty.LoyaltyStore.mark_ok outcome).2
              simp [Loyalty.serve, outcome, Loyalty.writeReply, frame]

/-- So does a call of the saga. -/
theorem saga_published_subset (fault : Saga.SagaCall → Option Saga.SagaError)
    (s : Saga.SagaStore) (c : Saga.SagaCall) :
    (Saga.serve.withFaults fault s c).2.published.drop s.published.length ⊆ c.envelopes := by
  cases failed : fault c with
  | some e => simp [Service.withFaults_some failed]
  | none =>
      rw [Service.withFaults_none failed]
      cases c <;> simp [Saga.serve, Saga.SagaCall.envelopes]

/-- The log is linked, and every execution in flight was started by an envelope of it
and can publish only what that envelope causes. -/
structure Chained (s : System) : Prop where
  linked : causation.Linked s.log
  running : ∀ e ∈ s.running, ∃ source ∈ s.log, e.CausedBy source

/-- A step of an execution appends what its call publishes and leaves the rest of the
execution. -/
private theorem Chained.call {s t : System} (chained : Chained s) {execution : Nat}
    {rest : Execution} {source : EventEnvelope} {new : List EventEnvelope} (mem : source ∈ s.log)
    (log : t.log = s.log ++ new) (running : t.running = s.running.set execution rest)
    (published : ∀ env ∈ new, causation.Derives source env) (later : rest.CausedBy source) :
    Chained t := by
  refine ⟨?_, fun e started => ?_⟩
  · rw [log]
    exact chained.linked.append mem published
  · rw [running] at started
    rw [log]
    rcases List.mem_or_eq_of_mem_set started with old | rfl
    · obtain ⟨other, otherMem, causes⟩ := chained.running e old
      exact ⟨other, List.mem_append_left _ otherMem, causes⟩
    · exact ⟨source, List.mem_append_left _ mem, later⟩

private theorem Chained.start {s : System} (chained : Chained s) {place : Nat}
    {env : EventEnvelope} {e : Execution} (found : s.log[place]? = some env)
    (causes : e.CausedBy env) : Chained { s with running := s.running ++ [e] } := by
  refine ⟨chained.linked, fun other started => ?_⟩
  rcases List.mem_append.mp started with old | new
  · exact chained.running other old
  · obtain rfl := List.mem_singleton.mp new
    exact ⟨env, List.mem_of_getElem? found, causes⟩

/-- Every action keeps the system chained. -/
theorem Chained.step {s : System} (chained : Chained s) (action : Action) :
    Chained (step s action) := by
  cases action with
  | external topic env =>
      have outside : isExternal { env with eventName := topic.eventName } = true := by
        cases topic <;> rfl
      refine ⟨.root chained.linked _ outside, fun e started => ?_⟩
      obtain ⟨source, mem, causes⟩ := chained.running e started
      exact ⟨source, List.mem_append_left _ mem, causes⟩
  | deliverOrder place amb =>
      rw [Choreography.step]
      split
      · exact chained
      · next env found => exact chained.start found (order_causedBy amb env)
  | deliverSaga place amb =>
      rw [Choreography.step]
      split
      · exact chained
      · next env found => exact chained.start found (saga_causedBy amb env)
  | call execution fault =>
      rw [Choreography.step]
      split
      · next c next found =>
          obtain ⟨source, mem, causes⟩ := chained.running _ (List.mem_of_getElem? found)
          exact chained.call mem rfl rfl
            (fun env published => causes.1 env (loyalty_published_subset _ _ c published))
            (causes.2 _)
      · next c next found =>
          obtain ⟨source, mem, causes⟩ := chained.running _ (List.mem_of_getElem? found)
          exact chained.call mem rfl rfl
            (fun env published => causes.1 env (saga_published_subset _ _ c published))
            (causes.2 _)
      · exact chained

/-- The log only grows. -/
theorem log_step (s : System) (action : Action) : ∃ new, (step s action).log = s.log ++ new := by
  have unchanged : ∃ new, s.log = s.log ++ new := ⟨[], (List.append_nil _).symm⟩
  cases action with
  | external topic env => exact ⟨_, rfl⟩
  | deliverOrder place amb =>
      rw [step]
      split <;> exact unchanged
  | deliverSaga place amb =>
      rw [step]
      split <;> exact unchanged
  | call execution fault =>
      rw [step]
      split
      · exact ⟨_, rfl⟩
      · exact ⟨_, rfl⟩
      · exact unchanged

/-- The envelopes an action publishes. -/
def published (s : System) (action : Action) : List EventEnvelope :=
  (step s action).log.drop s.log.length

/-- No other envelope has the event id of one that this action publishes. -/
def FreshIDs (s : System) (action : Action) : Prop :=
  ∀ new ∈ published s action, ∀ other ∈ (step s action).log,
    other.eventID = new.eventID → other = new

/-- An event id belongs to one envelope. -/
def Identified (s : System) : Prop :=
  ∀ a ∈ s.log, ∀ b ∈ s.log, a.eventID = b.eventID → a = b

theorem Identified.step {s : System} {action : Action} (identified : Identified s)
    (fresh : FreshIDs s action) : Identified (step s action) := by
  obtain ⟨new, log⟩ := log_step s action
  have fresh : ∀ x ∈ new, ∀ other ∈ s.log ++ new, other.eventID = x.eventID → other = x := by
    intro x mem
    have published : x ∈ published s action := by
      rw [Choreography.published, log, List.drop_left]
      exact mem
    rw [← log]
    exact fresh x published
  intro a aMem b bMem same
  rw [log] at aMem bMem
  rcases List.mem_append.mp aMem with aOld | aNew
  · rcases List.mem_append.mp bMem with bOld | bNew
    · exact identified a aOld b bOld same
    · exact fresh b bNew a aMem same
  · exact (fresh a aNew b bMem same.symm).symm

/-- In every state reached by external publications, deliveries and calls in any order,
with any failures: every credit, compensation and announcement of the log comes after
an envelope with the event id it names and the same correlation id, and following the
causation ids from any envelope ends at an external one of the same correlation id. -/
theorem causal_chain_preserved (loyalty : Loyalty.LoyaltyStore) (saga : Saga.SagaStore)
    (actions : List Action) (fresh : Admitted step FreshIDs (start loyalty saga) actions) :
    let log := (runFrom step (start loyalty saga) actions).log
    (∀ before env after, log = before ++ env :: after →
      env.eventName ∈ [Events.loyaltyCredited, Events.loyaltyCreditFailed,
        Events.orderFulfillmentReady] →
      ∃ cause ∈ before, cause.eventID = env.causationID ∧
        cause.correlationID = env.correlationID) ∧
    ∀ env ∈ log, ∃ root ∈ log, causation.origin log log.length env = some root ∧
      isExternal root = true ∧ root.correlationID = env.correlationID := by
  have chained : Chained (runFrom step (start loyalty saga) actions) :=
    fresh.invariant (fun _ action inv _ => inv.step action)
      ⟨.nil, fun _ mem => absurd mem List.not_mem_nil⟩
  have identified : Identified (runFrom step (start loyalty saga) actions) :=
    fresh.invariant (fun _ _ inv fresh => inv.step fresh) fun _ mem => absurd mem List.not_mem_nil
  refine ⟨fun before env after split generated => ?_, fun env mem => ?_⟩
  · have inside : isExternal env = false := by
      simp only [List.mem_cons, List.not_mem_nil, or_false] at generated
      rcases generated with name | name | name <;> rw [isExternal, name] <;> decide
    obtain ⟨cause, mem, derives⟩ := chained.linked.exists_source split inside
    exact ⟨cause, mem, derives.source_eq.symm, derives.group_eq.symm⟩
  · exact chained.linked.origin_eq (List.Subset.refl _) identified mem

/-- A reservation of stock, published from outside. -/
def sampleStock : EventEnvelope where
  eventID := "01STOCK"
  correlationID := "trace-1"
  causationID := ""
  eventName := Events.inventoryReserved

/-- The saga of the sample order has seen its credit. -/
def sampleSaga : Saga.SagaStore :=
  Saga.SagaStore.empty.save { correlationID := "trace-1", loyaltyCredited := true }

/-- The reservation arrives, and the saga handles it to the end. -/
def sampleActions : List Action :=
  [.external .inventoryReserved sampleStock, .deliverSaga 0 ⟨"01READY", ⟨1700000003000000000⟩⟩,
    .call 0 none, .call 0 none, .call 0 none, .call 0 none]

/-- The announcement of the sample order leads back to the reservation. -/
theorem causal_chain_preserved_reservation :
    let log := (runFrom step (start .empty sampleSaga) sampleActions).log
    log.map (·.eventID) = ["01STOCK", "01READY"] ∧
      ∀ env ∈ log, ∃ root ∈ log, causation.origin log log.length env = some root ∧
        isExternal root = true ∧ root.correlationID = env.correlationID := by
  have quiet : ∀ s action, published s action = [] → FreshIDs s action := by
    intro s action none new mem
    rw [none] at mem
    exact absurd mem List.not_mem_nil
  refine ⟨by decide, (causal_chain_preserved .empty sampleSaga sampleActions ?_).2⟩
  refine ⟨?_, quiet _ _ rfl, quiet _ _ rfl, quiet _ _ rfl, quiet _ _ rfl, ?_, trivial⟩
  · intro new newMem other otherMem _
    rw [List.mem_singleton.mp newMem, List.mem_singleton.mp otherMem]
  · intro new newMem other otherMem same
    rw [List.mem_singleton.mp newMem] at same ⊢
    rcases List.mem_cons.mp otherMem with stock | ready
    · rw [stock] at same
      exact absurd same (by decide)
    · exact List.mem_singleton.mp ready

end Choreography

end GoOdin
