import GoOdin.Text.Decimal
import GoOdin.Workers.Registration

/-!
# The master's workers over whole runs

Connections report pids and become clients on a channel; the registration loop starts and
registers them one by one, until a `Start` fails; health-check rounds ping the registered
clients and remove the disconnected ones. The state also records, for the statements, which
clients were started with success.

A client that was started and is not disconnected is *orphaned* when the registry does not
have it: it serves requests, but the master never pings or stops it again. Registering a
client under the pid of another one that is still connected orphans the other one, and
nothing else does (`registered_step_iff`).
-/

namespace GoOdin.Workers

open Interaction MapRange

/-- `unicode.IsSpace`. -/
def isSpace (c : Char) : Bool :=
  let n := c.toNat
  [9, 10, 11, 12, 13, 32, 0x85, 0xa0, 0x1680, 0x2028, 0x2029, 0x202f, 0x205f, 0x3000].contains n ||
    (0x2000 ≤ n && n ≤ 0x200a)

/-- `strings.TrimSpace`. -/
def trimSpace (text : List Char) : List Char :=
  ((text.dropWhile isSpace).reverse.dropWhile isSpace).reverse

/-- `handleHandshake` up to the parsed pid. The argument is the text that `ReadString`
returned, newline included, or none when it failed. Nothing checks that the pid is that of
the process at the other end. -/
def handleHandshake (payload : Option (List Char)) : Option Int64 :=
  payload.bind fun text =>
    let (pid, ok) := Decimal.parseInt (trimSpace text)
    if ok then some pid else none

structure Lifecycle where
  master : MasterState
  /-- The clients on the `WorkerEvent` channel, oldest first. -/
  inbox : List WorkerClient
  /-- The registration loop has not returned. -/
  registering : Bool
  /-- The number of clients made so far; it numbers the next one and its connection. -/
  accepted : Nat
  /-- The clients whose `Start` returned nil. -/
  started : List WorkerClient

namespace Lifecycle

def initial : Lifecycle where
  master := .initial
  inbox := []
  registering := true
  accepted := 0
  started := []

/-- A choice of the order in which a loop over the registry runs. -/
abbrev Orders := ∀ r : ConnectionRegistry, RangeOrder r.conns

inductive Event where
  /-- A connection sends this text, or fails to. -/
  | handshake (payload : Option (List Char))
  /-- The registration loop takes the next client. -/
  | register (write : Option WriteError) (now : Int64)
  | healthCheck (ping eliminate : Orders) (write : WorkerClient → Option WriteError) (now : Int64)

/-- `handleHandshake` to its end: a client with the reported pid goes to the channel. -/
def handshake (s : Lifecycle) (payload : Option (List Char)) : Lifecycle :=
  match handleHandshake payload with
  | none => s
  | some pid =>
      let made := WorkerClient.new s.accepted (some s.accepted) pid s.master.world
      { s with
        master := { s.master with world := made.2 }
        inbox := s.inbox ++ [made.1]
        accepted := s.accepted + 1 }

/-- One round of the registration loop, if it is still running and a client is waiting. -/
def register (s : Lifecycle) (write : Option WriteError) (now : Int64) : Lifecycle :=
  match s.registering, s.inbox with
  | true, w :: rest =>
      match s.master.registerWorker ⟨w, write, now⟩ with
      | .done m => { s with master := m, inbox := rest, registering := false }
      | .yield m => { s with master := m, inbox := rest, started := s.started ++ [w] }
  | _, _ => s

def step (s : Lifecycle) : Event → Lifecycle
  | .handshake payload => s.handshake payload
  | .register write now => s.register write now
  | .healthCheck ping eliminate write now =>
      let after := s.master.registry.checkHealth (ping _) (eliminate _) write now s.master.world
      { s with master := ⟨after.1, after.2⟩ }

/-- No orphans: every started client that is not disconnected is the one registered under
its pid. -/
def Registered (s : Lifecycle) : Prop :=
  ∀ w ∈ s.started, s.master.world.status w ≠ .disconnected →
    s.master.registry.get w.pid = some w

/-- What holds in every state, orphans or not. -/
structure Tidy (s : Lifecycle) : Prop where
  known : ∀ pid w, s.master.registry.get pid = some w → w ∈ s.started
  connected : ∀ w ∈ s.started, w.l ≠ none
  serials : ∀ w ∈ s.inbox ++ s.started, w.serial < s.accepted
  distinct : (s.inbox ++ s.started).Nodup

/-- A client that starts takes the pid of no client that is still connected. -/
def SparesPids (s : Lifecycle) : Event → Prop
  | .register write _ =>
      ∀ w rest, s.registering = true → s.inbox = w :: rest → w.Delivers write →
        ∀ old, s.master.registry.get w.pid = some old → s.master.world.status old = .disconnected
  | _ => True

variable {s : Lifecycle}

/-- All that a round of the registration loop can do: nothing, leave the loop, or register
the first client that waits. -/
theorem register_cases (s : Lifecycle) (write : Option WriteError) (now : Int64) :
    ((s.registering = false ∨ s.inbox = []) ∧ s.register write now = s) ∨
      ∃ w rest, s.registering = true ∧ s.inbox = w :: rest ∧
        ((¬ w.Delivers write ∧ s.register write now =
            { s with
              master := s.master.registered ⟨w, write, now⟩
              inbox := rest
              registering := false }) ∨
          (w.Delivers write ∧ s.register write now =
            { s with
              master := s.master.registered ⟨w, write, now⟩
              inbox := rest
              started := s.started ++ [w] })) := by
  cases running : s.registering with
  | false => exact .inl ⟨.inl rfl, by simp only [register, running]⟩
  | true =>
      cases waiting : s.inbox with
      | nil => exact .inl ⟨.inr rfl, by simp only [register, running, waiting]⟩
      | cons w rest =>
          refine .inr ⟨w, rest, rfl, rfl, ?_⟩
          by_cases starts : (⟨w, write, now⟩ : Arrival).Starts
          · refine .inr ⟨starts, ?_⟩
            simp only [register, running, waiting, MasterState.registerWorker_eq, starts]
            rfl
          · refine .inl ⟨starts, ?_⟩
            simp only [register, running, waiting, MasterState.registerWorker_eq, starts]
            rfl

/-- All that a handshake can do: close the connection, or make a client with the next
number. -/
theorem handshake_cases (s : Lifecycle) (payload : Option (List Char)) :
    s.handshake payload = s ∨
      ∃ w : WorkerClient, w.serial = s.accepted ∧ s.handshake payload =
        { s with
          master := { s.master with world := s.master.world.setStatus w .connecting }
          inbox := s.inbox ++ [w]
          accepted := s.accepted + 1 } := by
  unfold handshake
  split
  · exact .inl rfl
  · next pid _ => exact .inr ⟨⟨s.accepted, pid, some s.accepted⟩, rfl, rfl⟩

/-- A client with the next number is neither waiting nor started. -/
theorem Tidy.fresh (tidy : Tidy s) {w : WorkerClient} (serial : w.serial = s.accepted) :
    w ∉ s.inbox ++ s.started := fun mem =>
  Nat.lt_irrefl _ (serial ▸ tidy.serials w mem)

theorem Tidy.handshake (tidy : Tidy s) (payload : Option (List Char)) :
    Tidy (s.handshake payload) := by
  rcases handshake_cases s payload with unchanged | ⟨w, serial, after⟩
  · rw [unchanged]
    exact tidy
  · have fresh := tidy.fresh serial
    rw [after]
    refine ⟨tidy.known, tidy.connected, ?_, ?_⟩
    · intro v mem
      dsimp only at mem ⊢
      simp only [List.append_assoc, List.mem_append, List.mem_singleton] at mem
      have older := tidy.serials v
      rw [List.mem_append] at older
      rcases mem with waiting | rfl | started
      · exact Nat.lt_succ_of_lt (older (.inl waiting))
      · rw [serial]
        exact Nat.lt_succ_self _
      · exact Nat.lt_succ_of_lt (older (.inr started))
    · dsimp only
      rw [List.append_assoc, List.singleton_append, List.nodup_middle, List.nodup_cons]
      exact ⟨fresh, tidy.distinct⟩

theorem Tidy.register (tidy : Tidy s) (write : Option WriteError) (now : Int64) :
    Tidy (s.register write now) := by
  rcases register_cases s write now with ⟨_, unchanged⟩ | ⟨w, rest, _, waiting, outcome⟩
  · rw [unchanged]
    exact tidy
  · have serials := tidy.serials
    have distinct := tidy.distinct
    rw [waiting, List.cons_append] at serials distinct
    rcases outcome with ⟨fails, after⟩ | ⟨delivers, after⟩
    · have registry : (s.master.registered ⟨w, write, now⟩).registry = s.master.registry :=
        s.master.registered_registry_of_fails fails
      rw [after]
      refine ⟨?_, tidy.connected, fun v mem => serials v (List.mem_cons_of_mem _ mem),
        distinct.of_cons⟩
      intro pid v found
      dsimp only at found ⊢
      rw [registry] at found
      exact tidy.known pid v found
    · have registry : (s.master.registered ⟨w, write, now⟩).registry = s.master.registry.add w :=
        s.master.registered_registry_of_starts delivers
      rw [after]
      refine ⟨?_, ?_, ?_, ?_⟩
      · intro pid v found
        dsimp only at found ⊢
        rw [registry] at found
        by_cases same : pid = w.pid
        · rw [same, ConnectionRegistry.get_add_self] at found
          cases found
          exact List.mem_append_right _ (List.mem_singleton.mpr rfl)
        · rw [ConnectionRegistry.get_add_of_ne _ same] at found
          exact List.mem_append_left _ (tidy.known pid v found)
      · intro v mem
        rcases List.mem_append.mp mem with old | new
        · exact tidy.connected v old
        · rw [List.mem_singleton.mp new]
          exact Option.isSome_iff_ne_none.mp delivers.1
      · intro v mem
        apply serials
        simp only [List.mem_append, List.mem_cons, List.not_mem_nil, or_false] at mem ⊢
        tauto
      · dsimp only
        rw [← List.append_assoc]
        exact (List.perm_append_singleton w (rest ++ s.started)).nodup_iff.mpr distinct

theorem Tidy.step (tidy : Tidy s) (event : Event) : Tidy (s.step event) := by
  cases event with
  | handshake payload => exact tidy.handshake payload
  | register write now => exact tidy.register write now
  | healthCheck ping eliminate write now =>
      refine ⟨?_, tidy.connected, tidy.serials, tidy.distinct⟩
      intro pid w found
      have before := ((ConnectionRegistry.get_checkHealth _ _ _ _ _).mp found).1
      exact tidy.known pid w before

/-- A client that waits was not started yet. -/
theorem Tidy.ne_of_started (tidy : Tidy s) {w v : WorkerClient} {rest : List WorkerClient}
    (waiting : s.inbox = w :: rest) (started : v ∈ s.started) : v ≠ w := by
  have distinct := tidy.distinct
  rw [waiting, List.cons_append, List.nodup_cons] at distinct
  rintro rfl
  exact distinct.1 (List.mem_append_right _ started)

/-- A `Start` that fails makes no orphan. -/
theorem Registered.failedStart (tidy : Tidy s) (clean : Registered s) {w : WorkerClient}
    {rest : List WorkerClient} (waiting : s.inbox = w :: rest) {write : Option WriteError}
    (fails : ¬ w.Delivers write) (now : Int64) :
    Registered { s with
      master := s.master.registered ⟨w, write, now⟩
      inbox := rest
      registering := false } := by
  have registry : (s.master.registered ⟨w, write, now⟩).registry = s.master.registry :=
    s.master.registered_registry_of_fails fails
  intro v started alive
  dsimp only at started alive ⊢
  rw [MasterState.registered_status,
    Function.update_of_ne (tidy.ne_of_started waiting started)] at alive
  rw [registry]
  exact clean v started alive

/-- A client that starts makes an orphan exactly of a connected client with its pid. -/
theorem registered_started_iff (tidy : Tidy s) (clean : Registered s) {w : WorkerClient}
    {rest : List WorkerClient} (waiting : s.inbox = w :: rest) {write : Option WriteError}
    (delivers : w.Delivers write) (now : Int64) :
    Registered { s with
        master := s.master.registered ⟨w, write, now⟩
        inbox := rest
        started := s.started ++ [w] } ↔
      ∀ old, s.master.registry.get w.pid = some old →
        s.master.world.status old = .disconnected := by
  have status := s.master.registered_status ⟨w, write, now⟩
  have registry : (s.master.registered ⟨w, write, now⟩).registry = s.master.registry.add w :=
    s.master.registered_registry_of_starts delivers
  constructor
  · intro cleanAfter old found
    -- the client that is registered under this pid now would be an orphan
    by_contra alive
    have oldStarted := tidy.known _ old found
    have different := tidy.ne_of_started waiting oldStarted
    have kept := cleanAfter old (List.mem_append_left _ oldStarted)
    dsimp only at kept
    rw [status, Function.update_of_ne different, registry,
      ConnectionRegistry.pid_of_get found] at kept
    have self := ConnectionRegistry.get_add_self s.master.registry w
    exact different (Option.some.inj ((kept alive).symm.trans self))
  · intro spares v mem alive
    dsimp only at mem alive ⊢
    rw [status] at alive
    rw [registry]
    rcases List.mem_append.mp mem with old | new
    · rw [Function.update_of_ne (tidy.ne_of_started waiting old)] at alive
      have found := clean v old alive
      have otherPid : v.pid ≠ w.pid := by
        intro same
        rw [same] at found
        exact alive (spares v found)
      rw [ConnectionRegistry.get_add_of_ne _ otherPid]
      exact found
    · rw [List.mem_singleton.mp new]
      exact ConnectionRegistry.get_add_self _ _

/-- A round of the registration loop leaves no orphan exactly if it spares the pids of the
connected clients. -/
theorem registered_register_iff (tidy : Tidy s) (clean : Registered s) (write : Option WriteError)
    (now : Int64) : Registered (s.register write now) ↔ SparesPids s (.register write now) := by
  rcases register_cases s write now with ⟨idle, unchanged⟩ | ⟨w, rest, running, waiting, outcome⟩
  · rw [unchanged]
    refine iff_of_true clean fun w rest running waiting => ?_
    rcases idle with stopped | empty
    · exact absurd (running.symm.trans stopped) (by decide)
    · exact absurd (waiting.symm.trans empty) (List.cons_ne_nil _ _)
  · rcases outcome with ⟨fails, after⟩ | ⟨delivers, after⟩
    · rw [after]
      refine iff_of_true (clean.failedStart tidy waiting fails now) ?_
      intro w' rest' _ waiting' delivers
      obtain ⟨rfl, _⟩ := List.cons.inj (waiting.symm.trans waiting')
      exact absurd delivers fails
    · rw [after, registered_started_iff tidy clean waiting delivers now]
      constructor
      · intro spares w' rest' _ waiting' _
        obtain ⟨rfl, _⟩ := List.cons.inj (waiting.symm.trans waiting')
        exact spares
      · exact fun spares => spares w rest running waiting delivers

theorem Registered.handshake (tidy : Tidy s) (clean : Registered s)
    (payload : Option (List Char)) : Registered (s.handshake payload) := by
  rcases handshake_cases s payload with unchanged | ⟨w, serial, after⟩
  · rw [unchanged]
    exact clean
  · rw [after]
    intro v started alive
    have different : v ≠ w := by
      rintro rfl
      exact tidy.fresh serial (List.mem_append_right _ started)
    change Function.update s.master.world.status w .connecting v ≠ _ at alive
    rw [Function.update_of_ne different] at alive
    exact clean v started alive

/-- A health-check round disconnects exactly the clients it removes. -/
theorem Registered.healthCheck (clean : Registered s) (ping eliminate : Orders)
    (write : WorkerClient → Option WriteError) (now : Int64) :
    Registered (s.step (.healthCheck ping eliminate write now)) := by
  intro w started alive
  have lost := (ConnectionRegistry.pingWorkers_disconnected_iff
    (ping s.master.registry) write now s.master.world).not.mp alive
  rw [not_or] at lost
  have found := clean w started lost.1
  have delivers : w.Delivers (write w) := by
    by_contra fails
    exact lost.2 ⟨found, fails⟩
  exact (ConnectionRegistry.get_checkHealth _ _ _ _ _).mpr ⟨found, lost.1, delivers⟩

/-- Every step other than a registration over a connected client keeps the workers free of
orphans, and that one does not. -/
theorem registered_step_iff (tidy : Tidy s) (clean : Registered s) (event : Event) :
    Registered (s.step event) ↔ SparesPids s event := by
  cases event with
  | handshake payload => exact iff_of_true (clean.handshake tidy payload) trivial
  | register write now => exact registered_register_iff tidy clean write now
  | healthCheck ping eliminate write now =>
      exact iff_of_true (clean.healthCheck ping eliminate write now) trivial

/-- The invariant of the runs in which no pid is taken over. -/
def Sound (s : Lifecycle) : Prop := Tidy s ∧ Registered s

theorem sound_initial : Sound initial := by
  refine ⟨⟨?_, ?_, ?_, List.nodup_nil⟩, ?_⟩
  · intro pid w found
    exact absurd found (by simp [initial, MasterState.initial, ConnectionRegistry.get,
      ConnectionRegistry.new])
  all_goals exact fun w mem => absurd mem List.not_mem_nil

/-- In every state that the master reaches by handshakes, registrations and health-check
rounds, in which no client that starts takes the pid of a connected one: every client that
was started and is not disconnected is the one the registry has under its pid, and
`CloseAllConnections` shuts it down. -/
theorem no_orphaned_worker (events : List Event)
    (spared : Admitted step SparesPids initial events)
    (order : RangeOrder (runFrom step initial events).master.registry.conns) :
    let s := runFrom step initial events
    let closed := s.master.registry.closeAllConnections order s.master.world
    ∀ w ∈ s.started, s.master.world.status w ≠ .disconnected →
      s.master.registry.get w.pid = some w ∧
        closed.status w = .disconnected ∧ w ∈ closed.shutdowns := by
  intro s closed w started alive
  have sound : Sound s := spared.invariant
    (fun _ event sound spares =>
      ⟨sound.1.step event, (registered_step_iff sound.1 sound.2 event).mpr spares⟩)
    sound_initial
  have found := sound.2 w started alive
  have stopped := ConnectionRegistry.stopped_closeAllConnections order s.master.world found
  exact ⟨found, stopped.status, stopped.told (sound.1.connected w started)⟩

/-- Two workers with pids of their own are registered, and a health check follows. -/
theorem no_orphaned_worker_two_pids :
    let choose : Orders := fun r => (RangeOrder.nonempty r.conns).some
    let events : List Event :=
      [.handshake (some ['7', '\n']), .register none 1700000000000,
        .handshake (some ['8', '\n']), .register none 1700000000001,
        .healthCheck choose choose (fun _ => none) 1700000003000]
    let s := runFrom step initial events
    ∀ w ∈ s.started, s.master.world.status w ≠ .disconnected →
      s.master.registry.get w.pid = some w := by
  intro choose events s w started alive
  refine (no_orphaned_worker events ⟨trivial, ?_, trivial, ?_, trivial, trivial⟩ (choose _)
    w started alive).1
  · intro w rest _ waiting _ old found
    cases waiting
    cases found
  · intro w rest _ waiting _ old found
    cases waiting
    cases found

/-- Two connections report the same pid: the first client is connected and has been
started, but the registry has the second one. -/
theorem shared_pid_orphans_worker :
    let s := runFrom step initial
      [.handshake (some ['7', '\n']), .handshake (some ['7', '\n']),
        .register none 1700000000000, .register none 1700000000001]
    s.started = [⟨0, 7, some 0⟩, ⟨1, 7, some 1⟩] ∧
      s.master.world.status ⟨0, 7, some 0⟩ = .connected ∧
      s.master.registry.get 7 = some ⟨1, 7, some 1⟩ := by
  decide

end Lifecycle

end GoOdin.Workers
