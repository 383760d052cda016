import GoOdin.Interaction.Program
import GoOdin.Workers.Lifecycle

/-!
# The goroutines of the master

A health check and a broadcast go through a snapshot of the registry and take the clients one
by one: they look at the state of a client, send to it, and shut it down when that fails. Each
`Shutdown` starts a goroutine that sends the last message. Meanwhile workers connect and are
registered. Here all of these interleave; what one of them does without being interrupted is a
call. `Send` is one, since it holds the lock of its client. A loop over the map itself is one,
since it holds no lock and means nothing if another goroutine writes to the map in between.

A round of the registration loop is one step as in `Lifecycle`: no other goroutine has the
client before it is added. A goroutine alone does what `checkHealth`, `broadcast` and
`closeAllConnections` say (`run_tick`, `run_chat`, `run_closeAll`). Health checks may overlap
here, which those of the master do not: every run of the master is among the runs.
-/

namespace GoOdin.Workers

open Interaction MapRange Operation

inductive MasterCall where
  | getAll (order : Lifecycle.Orders)
  | state (w : WorkerClient)
  | send (w : WorkerClient) (msg : MessagePayload)
  | shutdown (w : WorkerClient)
  | eliminate (order : Lifecycle.Orders)

abbrev MasterCall.Answer : MasterCall → Type
  | .getAll _ => List WorkerClient
  | .state _ => WorkerClientState
  | .send _ _ => Nat
  | .shutdown _ => Unit
  | .eliminate _ => Unit

abbrev Goroutine := Program MasterCall MasterCall.Answer SendError Unit

namespace Goroutine

/-- `Send` to a client, which is shut down if that fails. -/
def sendTo (v : WorkerClient) (msg : MessagePayload) (after : Goroutine) : Goroutine :=
  .call (.send v msg) fun
    | .ok _ => after
    | .error _ => .call (.shutdown v) fun _ => after

/-- The loop of `EventBus.Broadcast`, and what follows it. -/
def broadcast (msg : MessagePayload) (after : Goroutine) : List WorkerClient → Goroutine
  | [] => after
  | v :: rest => .attempt (.state v) fun status : WorkerClientState =>
      if status = .disconnected then broadcast msg after rest
      else sendTo v msg (broadcast msg after rest)

/-- One tick of `CheckHealthWorkers`. -/
def tick (ping eliminate : Lifecycle.Orders) (now : Int64) : Goroutine :=
  .attempt (.getAll ping) <|
    broadcast (ConnectionRegistry.pingMessage now)
      (.call (.eliminate eliminate) fun _ => .ret (.ok ()))

/-- `ConnectionRegistry.Broadcast`. -/
def chat (order : Lifecycle.Orders) (payload : Option (List UInt8)) (now : Int64) : Goroutine :=
  .attempt (.getAll order) <|
    broadcast (ConnectionRegistry.chatMessage payload now) (.ret (.ok ()))

def shutdownAll : List WorkerClient → Goroutine
  | [] => .ret (.ok ())
  | v :: rest => .call (.shutdown v) fun _ => shutdownAll rest

/-- `CloseAllConnections`. -/
def closeAll (order : Lifecycle.Orders) : Goroutine := .attempt (.getAll order) shutdownAll

/-- The goroutine that `Shutdown` starts. -/
def lastMessage (w : WorkerClient) (now : Int64) : Goroutine :=
  .call (.send w (WorkerClient.shutdownMessage now)) fun _ => .ret (.ok ())

end Goroutine

namespace MasterState

/-- The calls on the registry and on the clients; `write` has the errors of the connections. -/
def serve (write : WorkerClient → Option WriteError) :
    Service MasterCall MasterCall.Answer SendError MasterState
  | m, .getAll order => (.ok (m.registry.getAll (order m.registry)), m)
  | m, .state w => (.ok (m.world.status w), m)
  | m, .send w msg =>
      ((w.send (write w) msg m.world).1, { m with world := (w.send (write w) msg m.world).2 })
  | m, .shutdown w => (.ok (), { m with world := w.shutdown m.world })
  | m, .eliminate order =>
      (.ok (), { m with registry := m.registry.eliminateWorkers (order m.registry) m.world })

variable {write : WorkerClient → Option WriteError}

/-- Alone, the loop is `EventBus.broadcast`. -/
theorem run_broadcast (msg : MessagePayload) (after : Goroutine) (workers : List WorkerClient)
    (m : MasterState) :
    (Goroutine.broadcast msg after workers).run (serve write) m =
      after.run (serve write) { m with world := EventBus.broadcast msg write m.world workers } := by
  induction workers generalizing m with
  | nil => rfl
  | cons v rest ih =>
      have next : EventBus.broadcast msg write m.world (v :: rest) =
          EventBus.broadcast msg write (EventBus.broadcastOne msg write m.world v) rest := rfl
      have state : serve write m (.state v) = (.ok (m.world.status v), m) := rfl
      rw [next, EventBus.broadcastOne, Goroutine.broadcast, Program.run_attempt_ok state]
      by_cases gone : m.world.status v = .disconnected
      · rw [if_pos gone, if_pos gone, ih]
      · rw [if_neg gone, if_neg gone, Goroutine.sendTo, Program.run_call, serve]
        cases sent : v.send (write v) msg m.world with
        | mk outcome world =>
            cases outcome with
            | error e => exact ih { m with world := v.shutdown world }
            | ok n => exact ih { m with world }

theorem run_tick (ping eliminate : Lifecycle.Orders) (now : Int64) (m : MasterState) :
    (Goroutine.tick ping eliminate now).run (serve write) m =
      (.ok (),
        { registry := (m.registry.checkHealth (ping _) (eliminate _) write now m.world).1
          world := (m.registry.checkHealth (ping _) (eliminate _) write now m.world).2 }) := by
  show (Goroutine.broadcast _ _ (m.registry.getAll (ping _))).run (serve write) m = _
  rw [run_broadcast]
  rfl

theorem run_chat (order : Lifecycle.Orders) (payload : Option (List UInt8)) (now : Int64)
    (m : MasterState) :
    (Goroutine.chat order payload now).run (serve write) m =
      (.ok (), { m with world := m.registry.broadcast (order _) write payload now m.world }) := by
  show (Goroutine.broadcast _ _ (m.registry.getAll (order _))).run (serve write) m = _
  rw [run_broadcast]
  rfl

theorem run_closeAll (order : Lifecycle.Orders) (m : MasterState) :
    (Goroutine.closeAll order).run (serve write) m =
      (.ok (), { m with world := m.registry.closeAllConnections (order _) m.world }) := by
  show (Goroutine.shutdownAll (m.registry.getAll (order _))).run (serve write) m = _
  rw [ConnectionRegistry.getAll, ConnectionRegistry.closeAllConnections]
  generalize (order m.registry).entries = entries
  induction entries generalizing m with
  | nil => rfl
  | cons entry entries ih => exact ih { m with world := entry.2.shutdown m.world }

end MasterState

/-! ## The master with its goroutines -/

structure Fleet where
  core : Lifecycle
  goroutines : List Goroutine
  /-- The clients to which a `Send` of a goroutine failed. -/
  failed : List WorkerClient

namespace Fleet

def initial : Fleet := ⟨.initial, [], []⟩

/-- The goroutine that a call starts. -/
def spawned (now : Int64) : MasterCall → List Goroutine
  | .shutdown w => if w.l = none then [] else [.lastMessage w now]
  | _ => []

def failures : (c : MasterCall) → Except SendError c.Answer → List WorkerClient
  | .send w _, .error _ => [w]
  | _, _ => []

inductive Action where
  /-- A connection sends this text, or fails to. -/
  | handshake (payload : Option (List Char))
  /-- The registration loop takes the next client. -/
  | register (write : Option WriteError) (now : Int64)
  | tick (ping eliminate : Lifecycle.Orders) (now : Int64)
  | chat (order : Lifecycle.Orders) (payload : Option (List UInt8)) (now : Int64)
  | closeAll (order : Lifecycle.Orders)
  /-- A goroutine makes its next call; the connection may fail, and the goroutine that is started
  reads this clock. -/
  | call (i : Nat) (write : Option WriteError) (now : Int64)

def start (s : Fleet) (g : Goroutine) : Fleet := { s with goroutines := s.goroutines ++ [g] }

def call (s : Fleet) (i : Nat) (write : Option WriteError) (now : Int64) : Fleet :=
  match s.goroutines[i]? with
  | some (.call c next) =>
      let (reply, master) := MasterState.serve (fun _ => write) s.core.master c
      { core := { s.core with master }
        goroutines := s.goroutines.set i (next reply) ++ spawned now c
        failed := s.failed ++ failures c reply }
  | _ => s

def step (s : Fleet) : Action → Fleet
  | .handshake payload => { s with core := s.core.handshake payload }
  | .register write now => { s with core := s.core.register write now }
  | .tick ping eliminate now => s.start (.tick ping eliminate now)
  | .chat order payload now => s.start (.chat order payload now)
  | .closeAll order => s.start (.closeAll order)
  | .call i write now => s.call i write now

end Fleet

end GoOdin.Workers
