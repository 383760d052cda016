import GoOdin.Workers.Fleet

/-!
# The bytes on the connections of the workers

Every client has a connection of its own. It has taken the lines of the messages that were sent
to the client, whole and in the order of the calls, for as long as no `Send` to it failed: after
a failure a part of a line may be there, and whatever is written next follows it.
-/

namespace GoOdin.Workers

open Interaction Operation

/-- The messages of all calls of `Send` on a client, oldest first. -/
def messagesTo (w : WorkerClient) (sends : List (WorkerClient × MessagePayload)) :
    List MessagePayload :=
  (sends.filter (·.1 = w)).map (·.2)

theorem messagesTo_concat (w v : WorkerClient) (msg : MessagePayload)
    (sends : List (WorkerClient × MessagePayload)) :
    messagesTo w (sends ++ [(v, msg)]) =
      messagesTo w sends ++ if v = w then [msg] else [] := by
  by_cases same : v = w <;> simp [messagesTo, same]

theorem mem_messagesTo {w : WorkerClient} {msg : MessagePayload}
    {sends : List (WorkerClient × MessagePayload)} :
    msg ∈ messagesTo w sends ↔ (w, msg) ∈ sends := by
  simp [messagesTo]

/-- Every client has a connection of its own, and unless a `Send` to it failed, its connection
has taken the lines of the messages sent to it. -/
structure Books (core : Lifecycle) (failed : List WorkerClient) : Prop where
  own : ∀ w ∈ core.inbox ++ core.started, w.l = some w.serial
  apart : ((core.inbox ++ core.started).map (·.serial)).Nodup
  numbered : ∀ w ∈ core.inbox ++ core.started, w.serial < core.accepted
  senders : ∀ x ∈ core.master.world.sends,
    x.1.serial < core.accepted ∧ ∀ w ∈ core.inbox, w.serial ≠ x.1.serial
  silent : ∀ l, (∀ x ∈ core.master.world.sends, x.1.serial ≠ l) →
    core.master.world.written l = []
  lines : ∀ w ∈ core.started, w ∉ failed → core.master.world.written w.serial =
    (messagesTo w core.master.world.sends).flatMap MessagePayload.line

namespace Books

variable {core : Lifecycle} {failed : List WorkerClient} {w v : WorkerClient}

theorem eq_of_serial (books : Books core failed) (mem : w ∈ core.inbox ++ core.started)
    (mem' : v ∈ core.inbox ++ core.started) (same : w.serial = v.serial) : w = v :=
  List.inj_on_of_nodup_map books.apart mem mem' same

/-- Only the calls, the bytes and the clients matter. -/
theorem congr (books : Books core failed) {core' : Lifecycle} (inbox : core'.inbox = core.inbox)
    (started : core'.started = core.started) (accepted : core'.accepted = core.accepted)
    (sends : core'.master.world.sends = core.master.world.sends)
    (written : core'.master.world.written = core.master.world.written) : Books core' failed := by
  obtain ⟨own, apart, numbered, senders, silent, lines⟩ := books
  rw [← inbox, ← started] at own apart numbered
  rw [← sends, ← accepted, ← inbox] at senders
  rw [← accepted] at numbered
  rw [← sends, ← written] at silent
  rw [← started, ← sends, ← written] at lines
  exact ⟨own, apart, numbered, senders, silent, lines⟩

/-- A `Send` to a started client. -/
theorem send (books : Books core failed) (started : w ∈ core.started) (write : Option WriteError)
    (msg : MessagePayload) :
    Books
      { core with master := { core.master with world := (w.send write msg core.master.world).2 } }
      (failed ++ Fleet.failures (.send w msg) (w.send write msg core.master.world).1) := by
  have mem : w ∈ core.inbox ++ core.started := List.mem_append_right _ started
  have conn := books.own w mem
  have elsewhere {l : Connection} (other : w.serial ≠ l) :
      (w.send write msg core.master.world).2.written l = core.master.world.written l :=
    WorkerClient.send_written_of_ne (by rw [conn]; simpa using other)
  refine ⟨books.own, books.apart, books.numbered, fun x called => ?_, fun l silent => ?_,
    fun v started' fine => ?_⟩
  · rw [WorkerClient.send_sends] at called
    obtain before | rfl := List.mem_append.mp called |>.imp_right List.mem_singleton.mp
    · exact books.senders x before
    · refine ⟨books.numbered w mem, fun v waiting same => ?_⟩
      obtain rfl := books.eq_of_serial (List.mem_append_left _ waiting) mem same
      exact List.disjoint_of_nodup_append (List.Nodup.of_map _ books.apart) waiting started
  · simp only [WorkerClient.send_sends, List.forall_mem_append, List.forall_mem_singleton]
      at silent
    rw [elsewhere silent.2, books.silent l silent.1]
  · rw [List.mem_append, not_or] at fine
    have before := books.lines v started' fine.1
    rw [WorkerClient.send_sends, messagesTo_concat]
    by_cases same : w = v
    · subst same
      have delivered : write = none := by
        by_contra failing
        obtain ⟨error, rfl⟩ := Option.ne_none_iff_exists'.mp failing
        refine fine.2 ?_
        simp [WorkerClient.send, conn, Fleet.failures]
      have delivers : w.Delivers write := ⟨by simp [conn], delivered⟩
      rw [WorkerClient.send_of_delivers delivers conn, if_pos rfl, List.flatMap_append, ← before]
      simp [World.put, World.logSend]
    · have other : w.serial ≠ v.serial := fun serial =>
        same (books.eq_of_serial mem (List.mem_append_right _ started') serial)
      rw [elsewhere other, if_neg same, List.append_nil, before]

theorem handshake (books : Books core failed) (payload : Option (List Char)) :
    Books (core.handshake payload) failed := by
  rw [Lifecycle.handshake]
  split
  · exact books
  · next pid _ =>
      have fresh : ∀ w ∈ core.inbox ++ core.started, w.serial ≠ core.accepted :=
        fun w mem => (books.numbered w mem).ne
      have moved (made : WorkerClient) : ((core.inbox ++ [made]) ++ core.started).Perm
          (made :: (core.inbox ++ core.started)) := by
        simp
      refine ⟨fun w mem => ?_, ?_, fun w mem => ?_, fun x called => ?_, books.silent, books.lines⟩
      · obtain rfl | before := List.mem_cons.mp ((moved _).mem_iff.mp mem)
        · rfl
        · exact books.own w before
      · rw [((moved _).map _).nodup_iff, List.map_cons, List.nodup_cons]
        refine ⟨fun mem => ?_, books.apart⟩
        obtain ⟨w, before, same⟩ := List.mem_map.mp mem
        exact fresh w before same
      · obtain rfl | before := List.mem_cons.mp ((moved _).mem_iff.mp mem)
        · exact Nat.lt_succ_self _
        · exact Nat.lt_succ_of_lt (books.numbered w before)
      · obtain ⟨below, apart⟩ := books.senders x called
        refine ⟨Nat.lt_succ_of_lt below, fun w mem => ?_⟩
        obtain waiting | rfl := List.mem_append.mp mem |>.imp_right List.mem_singleton.mp
        · exact apart w waiting
        · exact below.ne'

/-- The first client of the inbox, to which nothing was sent before. -/
theorem first_silent (books : Books core failed) {rest : List WorkerClient}
    (waiting : core.inbox = w :: rest) :
    core.master.world.written w.serial = [] ∧ messagesTo w core.master.world.sends = [] := by
  have mem : w ∈ core.inbox := waiting ▸ List.mem_cons_self
  have unsent : ∀ x ∈ core.master.world.sends, x.1.serial ≠ w.serial :=
    fun x called same => (books.senders x called).2 w mem same.symm
  refine ⟨books.silent _ unsent, ?_⟩
  rw [messagesTo, List.map_eq_nil_iff, List.filter_eq_nil_iff]
  intro x called same
  exact unsent x called (congrArg _ (of_decide_eq_true same))

/-- `Start` of the first client of the inbox, whether it goes through or not. -/
theorem startFirst (books : Books core failed) {rest : List WorkerClient}
    (waiting : core.inbox = w :: rest) (write : Option WriteError) (now : Int64)
    {registry : ConnectionRegistry} {registering : Bool} {started : List WorkerClient}
    (outcome : started = core.started ∨ write = none ∧ started = core.started ++ [w]) :
    Books
      { core with
        master := ⟨registry, (w.start write now core.master.world).2⟩
        inbox := rest
        registering
        started } failed := by
  have conn : w.l = some w.serial := books.own w (by simp [waiting])
  have serials := books.apart
  rw [waiting, List.cons_append, List.map_cons, List.nodup_cons] at serials
  have others : ∀ v ∈ rest ++ core.started, v.serial ≠ w.serial :=
    fun v mem same => serials.1 (List.mem_map.mpr ⟨v, mem, same⟩)
  have within : rest ++ started ⊆ core.inbox ++ core.started := by
    obtain rfl | ⟨-, rfl⟩ := outcome <;> simp [waiting]
  have elsewhere {l : Connection} (other : w.serial ≠ l) :
      (w.start write now core.master.world).2.written l = core.master.world.written l :=
    WorkerClient.start_written_of_ne (by rw [conn]; simpa using other) now
  refine ⟨fun v mem => books.own v (within mem), ?_, fun v mem => books.numbered v (within mem),
    fun x called => ?_, fun l silent => ?_, fun v mem fine => ?_⟩
  · obtain rfl | ⟨-, rfl⟩ := outcome
    · exact serials.2
    · have moved := (List.perm_append_singleton w (rest ++ core.started)).map (·.serial)
      rw [← List.append_assoc, moved.nodup_iff]
      exact List.nodup_cons.mpr serials
  · simp only [WorkerClient.start_sends, List.mem_append, List.mem_singleton] at called
    obtain before | rfl := called
    · obtain ⟨below, apart⟩ := books.senders x before
      exact ⟨below, fun v mem => apart v (waiting ▸ List.mem_cons_of_mem w mem)⟩
    · exact ⟨books.numbered w (by simp [waiting]),
        fun v mem => others v (List.mem_append_left _ mem)⟩
  · simp only [WorkerClient.start_sends, List.forall_mem_append, List.forall_mem_singleton]
      at silent
    rw [elsewhere silent.2, books.silent l silent.1]
  · show (w.start write now core.master.world).2.written v.serial = _
    simp only [WorkerClient.start_sends, messagesTo_concat]
    by_cases same : w = v
    · subst same
      obtain rfl | ⟨rfl, -⟩ := outcome
      · exact absurd rfl (others w (List.mem_append_right _ mem))
      · obtain ⟨nothing, unsent⟩ := books.first_silent waiting
        have delivers : w.Delivers none := ⟨by simp [conn], rfl⟩
        rw [WorkerClient.start_eq, WorkerClient.send_of_delivers delivers conn, unsent]
        simp [World.put, World.logSend, World.setStatus, nothing]
    · have old : v ∈ core.started := by
        obtain rfl | ⟨-, rfl⟩ := outcome
        · exact mem
        · exact (List.mem_append.mp mem).resolve_right fun new =>
            same (List.mem_singleton.mp new).symm
      rw [elsewhere (others v (List.mem_append_right _ old)).symm, if_neg same, List.append_nil,
        books.lines v old fine]

end Books

end GoOdin.Workers
