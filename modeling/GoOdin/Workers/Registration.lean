import GoOdin.Interaction.Loop
import GoOdin.Workers.Registry

/-!
# The registration loop of `Master.Run`

The loop takes clients from a channel, starts each and adds it to the registry. A `Start`
that fails ends the loop, and with it the registration of every later worker. So the loop
serves all that arrive exactly if no `Start` but the last one fails.
-/

namespace GoOdin.Workers

open Interaction

/-- The part of the master that registration works on. -/
structure MasterState where
  registry : ConnectionRegistry
  world : World

/-- A client on the `WorkerEvent` channel, with the error of the `Write` in its `Start`, if
any, and the clock reading there. -/
structure Arrival where
  worker : WorkerClient
  write : Option WriteError := none
  now : Int64
  deriving DecidableEq, Repr

namespace Arrival

/-- `Start` of this client returns nil. -/
def Starts (e : Arrival) : Prop := e.worker.Delivers e.write

instance (e : Arrival) : Decidable e.Starts := inferInstanceAs (Decidable (_ ∧ _))

/-- The call of `Send` that `Start` makes. -/
def startCall (e : Arrival) : WorkerClient × Operation.MessagePayload :=
  (e.worker, e.worker.startMessage e.now)

end Arrival

namespace MasterState

/-- The body of the registration loop. -/
def registerWorker (m : MasterState) (e : Arrival) : ForInStep MasterState :=
  match e.worker.start e.write e.now m.world with
  | (some _, s) => .done { m with world := s }
  | (none, s) => .yield { registry := m.registry.add e.worker, world := s }

/-- The loop on the clients that arrive, in order. -/
def registrationLoop (m : MasterState) (arrivals : List Arrival) : MasterState :=
  rangeUntil registerWorker m arrivals

/-- What the body does to the state, whether it goes on or not. -/
def registered (m : MasterState) (e : Arrival) : MasterState where
  registry := if e.Starts then m.registry.add e.worker else m.registry
  world := (e.worker.start e.write e.now m.world).2

/-- The body leaves the loop exactly if `Start` fails. -/
theorem registerWorker_eq (m : MasterState) (e : Arrival) :
    m.registerWorker e =
      if decide (¬ e.Starts) then .done (m.registered e) else .yield (m.registered e) := by
  have starts : (e.worker.start e.write e.now m.world).1 = none ↔ e.Starts :=
    WorkerClient.start_eq_none_iff e.now
  unfold registerWorker registered
  cases result : e.worker.start e.write e.now m.world with
  | mk err s =>
      rw [result] at starts
      cases err with
      | none =>
          have ok : e.Starts := starts.mp rfl
          simp [ok]
      | some failure =>
          have failed : ¬ e.Starts := fun ok => nomatch starts.mpr ok
          simp [failed]

theorem registrationLoop_eq (m : MasterState) (arrivals : List Arrival) :
    m.registrationLoop arrivals =
      runFrom registered m (takeThrough (fun e => decide (¬ e.Starts)) arrivals) :=
  rangeUntil_eq_runFrom registerWorker_eq m arrivals

theorem registered_registry_of_starts (m : MasterState) {e : Arrival} (starts : e.Starts) :
    (m.registered e).registry = m.registry.add e.worker := if_pos starts

theorem registered_registry_of_fails (m : MasterState) {e : Arrival} (fails : ¬ e.Starts) :
    (m.registered e).registry = m.registry := if_neg fails

@[simp] theorem registered_sends (m : MasterState) (e : Arrival) :
    (m.registered e).world.sends = m.world.sends ++ [e.startCall] := by
  change (e.worker.start e.write e.now m.world).2.sends = _
  rw [WorkerClient.start_eq, WorkerClient.send_sends]
  rfl

@[simp] theorem registered_status (m : MasterState) (e : Arrival) :
    (m.registered e).world.status = Function.update m.world.status e.worker .connected := by
  change (e.worker.start e.write e.now m.world).2.status = _
  rw [WorkerClient.start_eq, WorkerClient.send_status]
  rfl

/-- A run of registrations starts each client once, in order. -/
theorem runFrom_registered_sends (m : MasterState) (arrivals : List Arrival) :
    (runFrom registered m arrivals).world.sends =
      m.world.sends ++ arrivals.map Arrival.startCall := by
  induction arrivals generalizing m with
  | nil => simp
  | cons e arrivals ih =>
      rw [runFrom_cons, ih, registered_sends]
      simp

/-- A pid keeps its client while nobody else registers under it. -/
theorem runFrom_registered_get {m : MasterState} {arrivals : List Arrival} {pid : Int64}
    (absent : ∀ e ∈ arrivals, e.Starts → e.worker.pid ≠ pid) :
    (runFrom registered m arrivals).registry.get pid = m.registry.get pid := by
  induction arrivals generalizing m with
  | nil => rfl
  | cons e arrivals ih =>
      rw [runFrom_cons, ih fun e' mem => absent e' (List.mem_cons_of_mem _ mem)]
      by_cases starts : e.Starts
      · have different := absent e List.mem_cons_self starts
        rw [registered_registry_of_starts m starts]
        exact ConnectionRegistry.get_add_of_ne _ different.symm
      · rw [registered_registry_of_fails m starts]

/-- The registry has every client that started, the last one when several share a pid. -/
def HasStarted (r : ConnectionRegistry) (arrivals : List Arrival) : Prop :=
  ∀ before e after, arrivals = before ++ e :: after → e.Starts →
    (∀ later ∈ after, later.Starts → later.worker.pid ≠ e.worker.pid) →
    r.get e.worker.pid = some e.worker

theorem hasStarted_runFrom (m : MasterState) (arrivals : List Arrival) :
    HasStarted (runFrom registered m arrivals).registry arrivals := by
  rintro before e after rfl starts last
  rw [runFrom_append, runFrom_cons, runFrom_registered_get last,
    registered_registry_of_starts _ starts]
  exact ConnectionRegistry.get_add_self _ _

/-- The loop starts every arriving client in order, and leaves a registry with every client
that started, exactly if no `Start` fails before that of the last one. -/
theorem registrationLoop_serves_all_iff (m : MasterState) (arrivals : List Arrival) :
    ((m.registrationLoop arrivals).world.sends =
          m.world.sends ++ arrivals.map Arrival.startCall ∧
        HasStarted (m.registrationLoop arrivals).registry arrivals) ↔
      ∀ e ∈ arrivals.dropLast, e.Starts := by
  have cut : (takeThrough (fun e => decide (¬ e.Starts)) arrivals).map Arrival.startCall =
      arrivals.map Arrival.startCall ↔ ∀ e ∈ arrivals.dropLast, e.Starts := by
    rw [map_takeThrough_eq_iff]
    simp
  rw [registrationLoop_eq, runFrom_registered_sends, List.append_cancel_left_eq, cut]
  refine ⟨And.left, fun served => ⟨served, ?_⟩⟩
  have whole : takeThrough (fun e => decide (¬ e.Starts)) arrivals = arrivals :=
    takeThrough_eq_self_iff.mpr (by simpa using served)
  rw [whole]
  exact hasStarted_runFrom m arrivals

/-- A master without workers. -/
def initial : MasterState where
  registry := .new
  world := .initial

/-- Two workers connect and the first one is gone before its `Start`: the second is never
started and never registered. -/
theorem failed_start_blocks_next_worker :
    let arrivals : List Arrival :=
      [{ worker := ⟨0, 41, some 0⟩, write := some ⟨0, "broken pipe"⟩, now := 1700000000000 },
        { worker := ⟨1, 42, some 1⟩, now := 1700000000000 }]
    (initial.registrationLoop arrivals).world.sends.length = 1 ∧
      (initial.registrationLoop arrivals).registry.get 42 = none ∧
      ¬ HasStarted (initial.registrationLoop arrivals).registry arrivals := by
  intro arrivals
  have absent : (initial.registrationLoop arrivals).registry.get 42 = none := rfl
  refine ⟨rfl, absent, fun all => ?_⟩
  have found := all [arrivals[0]] arrivals[1] [] rfl ⟨rfl, rfl⟩ (fun _ mem => nomatch mem)
  rw [show arrivals[1].worker.pid = 42 from rfl, absent] at found
  cases found

end MasterState

end GoOdin.Workers
