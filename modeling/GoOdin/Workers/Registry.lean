import GoOdin.Interaction.MapRange
import GoOdin.Interaction.Run
import GoOdin.Workers.Client

/-!
# `mastercore.ConnectionRegistry` and its health check

The registry maps pids to clients, and `Add` files a client under its own pid; the type
carries that. `Broadcast` goes over a snapshot of the clients, skips the disconnected
ones and shuts down those it cannot reach, so one failure never keeps the message from
the others. A health-check round is a ping to everybody followed by the removal of
whoever is disconnected then.

Log lines are left out; the error that `Remove` always returns goes into one of them.
-/

namespace GoOdin.Workers

open Interaction MapRange Operation

/-- `map[int]WorkerProcess`. -/
abbrev Conns := Finmap fun _ : Int64 => WorkerClient

structure ConnectionRegistry where
  conns : Conns
  keyed : ∀ pid w, conns.lookup pid = some w → w.pid = pid

namespace EventBus

/-- One round of the loop in `Broadcast`. -/
def broadcastOne (msg : MessagePayload) (write : WorkerClient → Option WriteError) (s : World)
    (v : WorkerClient) : World :=
  if s.status v = .disconnected then s
  else
    match v.send (write v) msg s with
    | (.error _, s) => v.shutdown s
    | (.ok _, s) => s

/-- `Broadcast`, which always returns nil. -/
def broadcast (msg : MessagePayload) (write : WorkerClient → Option WriteError) (s : World)
    (workers : List WorkerClient) : World :=
  runFrom (broadcastOne msg write) s workers

variable {msg : MessagePayload} {write : WorkerClient → Option WriteError} {s : World}
variable {v w : WorkerClient}

/-- All that one round of the loop can do: skip the client, reach it, or try it in vain and
shut it down. -/
theorem broadcastOne_cases (msg : MessagePayload) (write : WorkerClient → Option WriteError)
    (s : World) (v : WorkerClient) :
    (s.status v = .disconnected ∧ broadcastOne msg write s v = s) ∨
      (s.status v ≠ .disconnected ∧ v.Delivers (write v) ∧
        broadcastOne msg write s v = (v.send (write v) msg s).2) ∨
      (s.status v ≠ .disconnected ∧ ¬ v.Delivers (write v) ∧
        broadcastOne msg write s v = v.shutdown (v.send (write v) msg s).2) := by
  by_cases gone : s.status v = .disconnected
  · exact .inl ⟨gone, if_pos gone⟩
  · right
    by_cases delivers : v.Delivers (write v)
    · obtain ⟨n, t, sent⟩ := (@WorkerClient.send_isOk_iff v (write v) msg s).mpr delivers
      exact .inl ⟨gone, delivers, by rw [broadcastOne, if_neg gone, sent]⟩
    · obtain ⟨e, failed⟩ := WorkerClient.send_of_not_delivers msg s delivers
      refine .inr ⟨gone, delivers, ?_⟩
      rw [broadcastOne, if_neg gone]
      split
      · next sent => rw [sent]
      · next sent =>
          rw [sent] at failed
          cases failed

theorem broadcastOne_status_of_ne (other : w ≠ v) :
    (broadcastOne msg write s v).status w = s.status w := by
  rcases broadcastOne_cases msg write s v with ⟨_, run⟩ | ⟨_, _, run⟩ | ⟨_, _, run⟩
  · rw [run]
  · rw [run, WorkerClient.send_status]
  · rw [run, WorkerClient.shutdown_status, Function.update_of_ne other, WorkerClient.send_status]

theorem broadcastOne_status_self :
    (broadcastOne msg write s v).status v = .disconnected ↔
      s.status v = .disconnected ∨ ¬ v.Delivers (write v) := by
  rcases broadcastOne_cases msg write s v with
    ⟨gone, run⟩ | ⟨present, delivers, run⟩ | ⟨present, fails, run⟩
  · rw [run]
    exact iff_of_true gone (.inl gone)
  · rw [run, WorkerClient.send_status]
    simp [present, delivers]
  · rw [run, WorkerClient.shutdown_status, Function.update_self]
    simp [fails]

theorem broadcastOne_sends_of_present (present : s.status v ≠ .disconnected) :
    (broadcastOne msg write s v).sends = s.sends ++ [(v, msg)] := by
  rcases broadcastOne_cases msg write s v with ⟨gone, _⟩ | ⟨_, _, run⟩ | ⟨_, _, run⟩
  · exact absurd gone present
  · rw [run, WorkerClient.send_sends]
  · rw [run, WorkerClient.shutdown_sends, WorkerClient.send_sends]

/-- Each client is disconnected by its own failure only. -/
theorem broadcast_disconnected_iff (workers : List WorkerClient) :
    (broadcast msg write s workers).status w = .disconnected ↔
      s.status w = .disconnected ∨ w ∈ workers ∧ ¬ w.Delivers (write w) := by
  induction workers generalizing s with
  | nil => simp [broadcast]
  | cons v workers ih =>
      change (broadcast msg write (broadcastOne msg write s v) workers).status w = _ ↔ _
      rw [ih, List.mem_cons]
      by_cases same : w = v
      · subst same
        rw [broadcastOne_status_self]
        tauto
      · rw [broadcastOne_status_of_ne same]
        simp [same]

/-- A broadcast makes one call for each client that is not disconnected, in order. -/
theorem broadcast_sends {workers : List WorkerClient} (distinct : workers.Nodup) :
    (broadcast msg write s workers).sends =
      s.sends ++ (workers.filter fun v => s.status v ≠ .disconnected).map (·, msg) := by
  induction workers generalizing s with
  | nil => simp [broadcast]
  | cons v workers ih =>
      obtain ⟨absent, distinct⟩ := List.nodup_cons.mp distinct
      change (broadcast msg write (broadcastOne msg write s v) workers).sends = _
      have others :
          (workers.filter fun w => (broadcastOne msg write s v).status w ≠ .disconnected) =
            workers.filter fun w => s.status w ≠ .disconnected := by
        apply List.filter_congr
        intro w mem
        have different : w ≠ v := fun same => absent (same ▸ mem)
        rw [broadcastOne_status_of_ne different]
      rw [ih distinct, others]
      by_cases gone : s.status v = .disconnected
      · rw [broadcastOne, if_pos gone]
        simp [gone]
      · rw [broadcastOne_sends_of_present gone]
        simp [gone]

theorem broadcastOne_written_of_ne {l : Connection} (other : v.l ≠ some l) :
    (broadcastOne msg write s v).written l = s.written l := by
  rcases broadcastOne_cases msg write s v with ⟨_, run⟩ | ⟨_, _, run⟩ | ⟨_, _, run⟩
  · rw [run]
  · rw [run, WorkerClient.send_written_of_ne other]
  · rw [run, WorkerClient.shutdown_written, WorkerClient.send_written_of_ne other]

theorem broadcastOne_written_self {l : Connection} (conn : v.l = some l)
    (present : s.status v ≠ .disconnected) (taken : write v = none) :
    (broadcastOne msg write s v).written l = s.written l ++ msg.line := by
  have reachable : v.Delivers (write v) := ⟨by simp [conn], taken⟩
  rcases broadcastOne_cases msg write s v with ⟨gone, _⟩ | ⟨_, delivers, run⟩ | ⟨_, fails, _⟩
  · exact absurd gone present
  · rw [run, WorkerClient.send_of_delivers delivers conn]
    exact Function.update_self _ _ _
  · exact absurd reachable fails

theorem broadcast_written_of_ne {l : Connection} {workers : List WorkerClient}
    (others : ∀ v ∈ workers, v.l ≠ some l) :
    (broadcast msg write s workers).written l = s.written l := by
  induction workers generalizing s with
  | nil => rfl
  | cons v workers ih =>
      change (broadcast msg write (broadcastOne msg write s v) workers).written l = _
      rw [ih fun u mem => others u (List.mem_cons_of_mem _ mem),
        broadcastOne_written_of_ne (others v List.mem_cons_self)]

/-- A client that a broadcast reaches gets the line of the message on its connection. -/
theorem broadcast_written {l : Connection} {workers : List WorkerClient} (distinct : workers.Nodup)
    (mem : w ∈ workers) (conn : w.l = some l) (alone : ∀ v ∈ workers, v ≠ w → v.l ≠ some l)
    (present : s.status w ≠ .disconnected) (taken : write w = none) :
    (broadcast msg write s workers).written l = s.written l ++ msg.line := by
  induction workers generalizing s with
  | nil => exact absurd mem List.not_mem_nil
  | cons v workers ih =>
      obtain ⟨absent, distinct⟩ := List.nodup_cons.mp distinct
      change (broadcast msg write (broadcastOne msg write s v) workers).written l = _
      by_cases same : w = v
      · subst same
        rw [broadcast_written_of_ne, broadcastOne_written_self conn present taken]
        intro u later
        exact alone u (List.mem_cons_of_mem _ later) fun same => absent (same ▸ later)
      · have later := (List.mem_cons.mp mem).resolve_left same
        rw [ih distinct later (fun u there => alone u (List.mem_cons_of_mem _ there))
          (by rwa [broadcastOne_status_of_ne same]),
          broadcastOne_written_of_ne (alone v List.mem_cons_self (Ne.symm same))]

end EventBus

namespace ConnectionRegistry

def new : ConnectionRegistry := ⟨∅, fun _ _ found => nomatch found⟩

/-- `Remove`. Its error does not depend on whether there was a worker. -/
def remove (r : ConnectionRegistry) (pid : Int64) : ConnectionRegistry × String where
  fst :=
    { conns := r.conns.erase pid
      keyed := by
        intro key w found
        by_cases same : key = pid
        · rw [same, Finmap.lookup_erase] at found
          cases found
        · rw [Finmap.lookup_erase_ne same] at found
          exact r.keyed key w found }
  snd := "no worker found to remove"

def get (r : ConnectionRegistry) (pid : Int64) : Option WorkerClient := r.conns.lookup pid

def getAll (r : ConnectionRegistry) (order : RangeOrder r.conns) : List WorkerClient :=
  order.entries.map (·.2)

/-- `Add`, which always returns nil. -/
def add (r : ConnectionRegistry) (worker : WorkerClient) : ConnectionRegistry where
  conns := r.conns.insert worker.pid worker
  keyed := by
    intro pid w found
    by_cases same : pid = worker.pid
    · rw [same, Finmap.lookup_insert] at found
      rw [← Option.some.inj found, same]
    · rw [Finmap.lookup_insert_of_ne _ same] at found
      exact r.keyed pid w found

def chatMessage (payload : Option (List UInt8)) (now : Int64) : MessagePayload where
  payload := { type := .chat, payload := payload }
  timestamp := now

def pingMessage (now : Int64) : MessagePayload where
  fromPID := -1
  payload := { type := .ping }
  timestamp := now

def broadcast (r : ConnectionRegistry) (order : RangeOrder r.conns)
    (write : WorkerClient → Option WriteError) (payload : Option (List UInt8)) (now : Int64)
    (s : World) : World :=
  EventBus.broadcast (chatMessage payload now) write s (r.getAll order)

def pingWorkers (r : ConnectionRegistry) (order : RangeOrder r.conns)
    (write : WorkerClient → Option WriteError) (now : Int64) (s : World) : World :=
  EventBus.broadcast (pingMessage now) write s (r.getAll order)

/-- `eliminateWorkers`. The loop deletes only the entry it is at, so it visits all. -/
def eliminateWorkers (r : ConnectionRegistry) (order : RangeOrder r.conns) (s : World) :
    ConnectionRegistry :=
  order.entries.foldl
    (fun r entry => if s.status entry.2 = .disconnected then (r.remove entry.1).1 else r) r

/-- One tick of `CheckHealthWorkers`. -/
def checkHealth (r : ConnectionRegistry) (pingOrder eliminateOrder : RangeOrder r.conns)
    (write : WorkerClient → Option WriteError) (now : Int64) (s : World) :
    ConnectionRegistry × World :=
  let s := r.pingWorkers pingOrder write now s
  (r.eliminateWorkers eliminateOrder s, s)

/-- `CloseAllConnections`. `Shutdown` never returns an error. -/
def closeAllConnections (r : ConnectionRegistry) (order : RangeOrder r.conns) (s : World) :
    World :=
  runFrom (fun s entry => WorkerClient.shutdown entry.2 s) s order.entries

variable {r : ConnectionRegistry} {s : World} {w : WorkerClient}

@[simp] theorem get_add_self (r : ConnectionRegistry) (w : WorkerClient) :
    (r.add w).get w.pid = some w := Finmap.lookup_insert _

theorem get_add_of_ne (r : ConnectionRegistry) {w : WorkerClient} {pid : Int64}
    (other : pid ≠ w.pid) : (r.add w).get pid = r.get pid := Finmap.lookup_insert_of_ne _ other

/-- A client in the registry is under its own pid. -/
theorem pid_of_get {pid : Int64} (found : r.get pid = some w) : w.pid = pid := r.keyed pid w found

theorem mem_getAll (order : RangeOrder r.conns) : w ∈ r.getAll order ↔ r.get w.pid = some w := by
  simp only [getAll, List.mem_map]
  constructor
  · rintro ⟨⟨pid, v⟩, visited, rfl⟩
    have found := order.mem_entries.mp visited
    have own : v.pid = pid := r.keyed pid v found
    rw [own]
    exact found
  · intro found
    exact ⟨⟨w.pid, w⟩, order.mem_entries.mpr found, rfl⟩

/-- The snapshot lists no client twice: equal clients have equal pids. -/
theorem nodup_getAll (order : RangeOrder r.conns) : (r.getAll order).Nodup := by
  apply List.Nodup.map_on
  · rintro ⟨pid, v⟩ visited ⟨pid', v'⟩ visited' same
    have own : v.pid = pid := r.keyed pid v (order.mem_entries.mp visited)
    have own' : v'.pid = pid' := r.keyed pid' v' (order.mem_entries.mp visited')
    dsimp only at same
    subst same own own'
    rfl
  · exact order.nodupKeys.nodup

theorem conns_eliminate (s : World) (r : ConnectionRegistry)
    (visits : List (Sigma fun _ : Int64 => WorkerClient)) :
    (visits.foldl
      (fun r entry => if s.status entry.2 = .disconnected then (r.remove entry.1).1 else r)
        r).conns =
      eraseWhere (fun entry => s.status entry.2 = .disconnected) r.conns visits := by
  induction visits generalizing r with
  | nil => rfl
  | cons entry visits ih =>
      rw [List.foldl_cons, ih]
      by_cases gone : s.status entry.2 = .disconnected
      · simp [eraseWhere, gone, remove]
      · simp [eraseWhere, gone]

/-- Elimination keeps exactly the clients that are not disconnected. -/
theorem get_eliminateWorkers (order : RangeOrder r.conns) (s : World) {pid : Int64} :
    (r.eliminateWorkers order s).get pid = some w ↔
      r.get pid = some w ∧ s.status w ≠ .disconnected := by
  rw [get, eliminateWorkers, conns_eliminate, order.lookup_eraseWhere, decide_eq_false_iff_not]
  rfl

/-- After the ping, a registered client is disconnected if it was before or if its own
ping failed. -/
theorem pingWorkers_disconnected_iff (order : RangeOrder r.conns)
    (write : WorkerClient → Option WriteError) (now : Int64) (s : World) :
    (r.pingWorkers order write now s).status w = .disconnected ↔
      s.status w = .disconnected ∨ r.get w.pid = some w ∧ ¬ w.Delivers (write w) := by
  rw [pingWorkers, EventBus.broadcast_disconnected_iff, mem_getAll]

theorem stopped_runFrom_shutdown {visits : List (Sigma fun _ : Int64 => WorkerClient)}
    (stopped : WorkerClient.Stopped s w) :
    WorkerClient.Stopped (runFrom (fun s entry => WorkerClient.shutdown entry.2 s) s visits) w := by
  induction visits generalizing s with
  | nil => exact stopped
  | cons entry visits ih => exact ih (stopped.shutdown entry.2)

/-- `CloseAllConnections` calls `Shutdown` on every registered client. -/
theorem stopped_closeAllConnections (order : RangeOrder r.conns) (s : World)
    (found : r.get w.pid = some w) : WorkerClient.Stopped (r.closeAllConnections order s) w := by
  obtain ⟨before, after, split⟩ := List.append_of_mem (order.mem_entries.mpr found)
  rw [closeAllConnections, split, runFrom_append, runFrom_cons]
  exact stopped_runFrom_shutdown (WorkerClient.stopped_shutdown w _)

theorem get_checkHealth (pingOrder eliminateOrder : RangeOrder r.conns)
    (write : WorkerClient → Option WriteError) (now : Int64) (s : World) {pid : Int64} :
    (r.checkHealth pingOrder eliminateOrder write now s).1.get pid = some w ↔
      r.get pid = some w ∧ s.status w ≠ .disconnected ∧ w.Delivers (write w) := by
  rw [checkHealth, get_eliminateWorkers, ne_eq, pingWorkers_disconnected_iff]
  refine and_congr_right fun found => ?_
  rw [pid_of_get found]
  simp [found]

/-- One health-check round, for every registry, every combination of states, every
outcome of the sends and every order of the two loops: exactly the clients that were not
disconnected and whose ping went through are left, under their own pids; each client that
was not disconnected is pinged once, and nothing else is sent; and each client whose ping
failed is disconnected afterwards. -/
theorem checkHealth_exact (r : ConnectionRegistry) (pingOrder eliminateOrder : RangeOrder r.conns)
    (write : WorkerClient → Option WriteError) (now : Int64) (s : World) :
    let after := r.checkHealth pingOrder eliminateOrder write now s
    (∀ pid w, after.1.get pid = some w ↔
      r.get pid = some w ∧ s.status w ≠ .disconnected ∧ w.Delivers (write w)) ∧
    (∀ pid w, after.1.get pid = some w → w.pid = pid) ∧
    (∃ pinged : List WorkerClient, pinged.Nodup ∧
      (∀ w, w ∈ pinged ↔ r.get w.pid = some w ∧ s.status w ≠ .disconnected) ∧
      after.2.sends = s.sends ++ pinged.map (·, pingMessage now)) ∧
    ∀ w, r.get w.pid = some w → s.status w ≠ .disconnected → ¬ w.Delivers (write w) →
      after.2.status w = .disconnected := by
  refine ⟨fun pid w => get_checkHealth pingOrder eliminateOrder write now s,
    fun pid w found => pid_of_get found,
    ⟨(r.getAll pingOrder).filter fun v => s.status v ≠ .disconnected,
      (nodup_getAll pingOrder).filter _, fun w => ?_,
      EventBus.broadcast_sends (nodup_getAll pingOrder)⟩, ?_⟩
  · rw [List.mem_filter, mem_getAll, decide_eq_true_eq]
  · intro w found _ fails
    exact (pingWorkers_disconnected_iff pingOrder write now s).mpr (.inr ⟨found, fails⟩)

end ConnectionRegistry

end GoOdin.Workers
