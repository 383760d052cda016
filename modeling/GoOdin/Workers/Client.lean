import GoOdin.Operation.Message
import Mathlib.Logic.Function.Basic

/-!
# `workerclient.WorkerClient`, the master's end of a connection

Clients are pointers. A `WorkerClient` is the part of one that never changes, with a
serial number that tells apart the objects `NewWorkerClient` made; what changes is kept
in a `World`, together with the bytes on the connections and the calls made so far.

Whether a `Write` succeeds is decided outside: each call is given the error of its
`Write`, if there is one, and the number of bytes taken before it. `Shutdown` sends its
message from a goroutine of its own, so the call itself only records that the goroutine
was started.
-/

namespace GoOdin.Workers

open Operation

inductive WorkerClientState where
  | disconnected | connected | connecting | starting | error | retrying | idle
  deriving DecidableEq, Repr

/-- A connection, by number. -/
abbrev Connection := Nat

structure WorkerClient where
  serial : Nat
  pid : Int64
  /-- The connection, or nil. -/
  l : Option Connection
  deriving DecidableEq, Repr

/-- A `Write` that failed: the bytes it had taken, and the text of the error. -/
structure WriteError where
  taken : Nat
  text : String
  deriving DecidableEq, Repr

inductive SendError where
  | noConnection (pid : Int64)
  | writeFailed (pid : Int64) (text : String)
  deriving DecidableEq, Repr

def SendError.message : SendError → String
  | .noConnection pid => "worker " ++ toString pid ++ " has no active connection"
  | .writeFailed pid text => "failed to send message to worker " ++ toString pid ++ ": " ++ text

structure World where
  status : WorkerClient → WorkerClientState
  /-- The bytes each connection has taken. -/
  written : Connection → List UInt8
  /-- The calls of `Send`, oldest first. -/
  sends : List (WorkerClient × MessagePayload)
  /-- The clients for which a goroutine of `Shutdown` was started, oldest first. -/
  shutdowns : List WorkerClient

namespace World

/-- Nothing was sent yet. The state of a client that does not exist is of no interest. -/
def initial : World where
  status := fun _ => .connecting
  written := fun _ => []
  sends := []
  shutdowns := []

def setStatus (s : World) (w : WorkerClient) (status : WorkerClientState) : World :=
  { s with status := Function.update s.status w status }

def put (s : World) (l : Connection) (bytes : List UInt8) : World :=
  { s with written := Function.update s.written l (s.written l ++ bytes) }

def logSend (s : World) (w : WorkerClient) (msg : MessagePayload) : World :=
  { s with sends := s.sends ++ [(w, msg)] }

end World

namespace WorkerClient

/-- `NewWorkerClient`. -/
def new (serial : Nat) (l : Option Connection) (pid : Int64) (s : World) :
    WorkerClient × World :=
  let w : WorkerClient := ⟨serial, pid, l⟩
  (w, s.setStatus w .connecting)

/-- `Send`: the number of bytes written, or the error. -/
def send (w : WorkerClient) (write : Option WriteError) (msg : MessagePayload) (s : World) :
    Except SendError Nat × World :=
  let s := s.logSend w msg
  match w.l with
  | none => (.error (.noConnection w.pid), s)
  | some l =>
      match write with
      | some failed =>
          (.error (.writeFailed w.pid failed.text), s.put l (msg.line.take failed.taken))
      | none => (.ok msg.line.length, s.put l msg.line)

/-- The message of the goroutine that `Shutdown` starts. -/
def shutdownMessage (now : Int64) : MessagePayload where
  id := "123"
  fromPID := -1
  payload := { type := .shutdown }
  timestamp := now

/-- `Shutdown`, which always returns nil. Without a connection it starts no goroutine. -/
def shutdown (w : WorkerClient) (s : World) : World :=
  let s := s.setStatus w .disconnected
  if w.l = none then s else { s with shutdowns := s.shutdowns ++ [w] }

/-- What the goroutine does; an error is only logged. -/
def finishShutdown (w : WorkerClient) (write : Option WriteError) (now : Int64) (s : World) :
    World :=
  (w.send write (shutdownMessage now) s).2

def startMessage (w : WorkerClient) (now : Int64) : MessagePayload where
  fromPID := w.pid
  payload := { type := .ping }
  timestamp := now

def drainMessage (w : WorkerClient) (now : Int64) : MessagePayload where
  id := "123"
  fromPID := w.pid
  payload := { type := .drain }
  timestamp := now

/-- `Start`: the error it returns, if any. The status is set before the message is
sent and stays set when that fails. -/
def start (w : WorkerClient) (write : Option WriteError) (now : Int64) (s : World) :
    Option SendError × World :=
  match w.send write (w.startMessage now) (s.setStatus w .connected) with
  | (.error e, s) => (some e, s)
  | (.ok _, s) => (none, s)

/-- `Drain`. -/
def drain (w : WorkerClient) (write : Option WriteError) (now : Int64) (s : World) :
    Option SendError × World :=
  match w.send write (w.drainMessage now) s with
  | (.error e, s) => (some e, s)
  | (.ok _, s) => (none, s)

/-- `Send` goes through: there is a connection, and it takes the bytes. -/
def Delivers (w : WorkerClient) (write : Option WriteError) : Prop :=
  w.l.isSome ∧ write = none

instance (w : WorkerClient) (write : Option WriteError) : Decidable (w.Delivers write) :=
  inferInstanceAs (Decidable (_ ∧ _))

variable {w : WorkerClient} {write : Option WriteError} {msg : MessagePayload} {s : World}

/-- All that a call does besides its result: it is logged, and some bytes may reach the
connection. -/
theorem send_world (w : WorkerClient) (write : Option WriteError) (msg : MessagePayload)
    (s : World) :
    (w.send write msg s).2 = s.logSend w msg ∨
      ∃ l bytes, w.l = some l ∧ (w.send write msg s).2 = (s.logSend w msg).put l bytes := by
  cases conn : w.l with
  | none => exact .inl (by simp only [send, conn])
  | some l =>
      right
      cases write with
      | none => exact ⟨l, msg.line, rfl, by simp only [send, conn]⟩
      | some failed => exact ⟨l, msg.line.take failed.taken, rfl, by simp only [send, conn]⟩

@[simp] theorem send_status : (w.send write msg s).2.status = s.status := by
  rcases send_world w write msg s with after | ⟨l, bytes, _, after⟩ <;> rw [after] <;> rfl

@[simp] theorem send_sends : (w.send write msg s).2.sends = s.sends ++ [(w, msg)] := by
  rcases send_world w write msg s with after | ⟨l, bytes, _, after⟩ <;> rw [after] <;> rfl

@[simp] theorem send_shutdowns : (w.send write msg s).2.shutdowns = s.shutdowns := by
  rcases send_world w write msg s with after | ⟨l, bytes, _, after⟩ <;> rw [after] <;> rfl

/-- Only the client's own connection takes bytes. -/
theorem send_written_of_ne {l : Connection} (other : w.l ≠ some l) :
    (w.send write msg s).2.written l = s.written l := by
  rcases send_world w write msg s with after | ⟨l', bytes, conn, after⟩
  · rw [after]
    rfl
  · rw [after]
    have different : l ≠ l' := fun same => other (same ▸ conn)
    exact Function.update_of_ne different _ _

/-- A call that goes through returns the length of the line and adds it to the stream. -/
theorem send_of_delivers (delivers : w.Delivers write) {l : Connection} (conn : w.l = some l) :
    w.send write msg s = (.ok msg.line.length, (s.logSend w msg).put l msg.line) := by
  simp only [send, conn, delivers.2]

theorem send_isOk_iff : (∃ n t, w.send write msg s = (.ok n, t)) ↔ w.Delivers write := by
  unfold Delivers
  cases conn : w.l <;> cases write <;> simp [send, conn]

/-- A call that does not go through returns an error. -/
theorem send_of_not_delivers (msg : MessagePayload) (s : World) (fails : ¬ w.Delivers write) :
    ∃ e, (w.send write msg s).1 = .error e := by
  cases result : w.send write msg s with
  | mk outcome t =>
      cases outcome with
      | error e => exact ⟨e, rfl⟩
      | ok n => exact absurd (send_isOk_iff.mp ⟨n, t, result⟩) fails

@[simp] theorem shutdown_status :
    (w.shutdown s).status = Function.update s.status w .disconnected := by
  unfold shutdown
  dsimp only
  split <;> rfl

@[simp] theorem shutdown_sends : (w.shutdown s).sends = s.sends := by
  unfold shutdown
  dsimp only
  split <;> rfl

@[simp] theorem shutdown_written : (w.shutdown s).written = s.written := by
  unfold shutdown
  dsimp only
  split <;> rfl

/-- The client is disconnected, and the goroutine that tells its worker was started. -/
structure Stopped (s : World) (w : WorkerClient) : Prop where
  status : s.status w = .disconnected
  told : w.l ≠ none → w ∈ s.shutdowns

theorem stopped_shutdown (w : WorkerClient) (s : World) : Stopped (w.shutdown s) w := by
  refine ⟨by simp, fun conn => ?_⟩
  simp [shutdown, conn]

/-- A client stays stopped when others are shut down. -/
theorem Stopped.shutdown (stopped : Stopped s w) (v : WorkerClient) : Stopped (v.shutdown s) w := by
  constructor
  · rw [shutdown_status]
    by_cases same : w = v
    · rw [same, Function.update_self]
    · rw [Function.update_of_ne same]
      exact stopped.status
  · intro conn
    have before := stopped.told conn
    unfold WorkerClient.shutdown
    dsimp only
    split
    · exact before
    · exact List.mem_append_left _ before

/-- `Start` sets the status and makes one call of `Send`. -/
theorem start_eq (now : Int64) :
    (w.start write now s).2 = (w.send write (w.startMessage now) (s.setStatus w .connected)).2 := by
  unfold start
  split <;> simp_all

theorem start_sends (now : Int64) :
    (w.start write now s).2.sends = s.sends ++ [(w, w.startMessage now)] := by
  rw [start_eq, send_sends]
  rfl

theorem start_shutdowns (now : Int64) : (w.start write now s).2.shutdowns = s.shutdowns := by
  rw [start_eq, send_shutdowns]
  rfl

theorem start_status (now : Int64) :
    (w.start write now s).2.status = Function.update s.status w .connected := by
  rw [start_eq, send_status]
  rfl

theorem start_written_of_ne {l : Connection} (other : w.l ≠ some l) (now : Int64) :
    (w.start write now s).2.written l = s.written l := by
  rw [start_eq, send_written_of_ne other]
  rfl

theorem start_eq_none_iff (now : Int64) : (w.start write now s).1 = none ↔ w.Delivers write := by
  rw [← @send_isOk_iff w write (w.startMessage now) (s.setStatus w .connected), start]
  cases result : w.send write (w.startMessage now) (s.setStatus w .connected) with
  | mk outcome t => cases outcome <;> simp

end WorkerClient

end GoOdin.Workers
