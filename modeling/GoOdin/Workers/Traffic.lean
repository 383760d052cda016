import GoOdin.Workers.Receive
import GoOdin.Workers.Registry

/-!
# What the master sends and what stops a worker

Besides Shutdown the master sends chat messages with a payload of any size, pings, the
message of `Start` and that of `Drain`. The last three are always short. A chat message is
as long as its payload makes it, the sender has no limit, and the worker's scanner has one:
a worker that gets a longer line cancels itself.
-/

namespace GoOdin.Workers

open Interaction LineScanner Operation JsonText

/-- The messages that a master sends on a connection, other than Shutdown, with the clock
readings in them. -/
inductive MasterMessage where
  | broadcast (payload : Option (List UInt8)) (now : Int64)
  | ping (now : Int64)
  | start (now : Int64)
  | drain (now : Int64)
  deriving DecidableEq, Repr

/-- The message as it is sent to a client. `Broadcast` and `pingWorkers` send the first two
(`broadcast_reaches`, `pingWorkers_reaches`), `Start` and `Drain` the others. -/
def MasterMessage.message (w : WorkerClient) : MasterMessage → MessagePayload
  | .broadcast payload now => ConnectionRegistry.chatMessage payload now
  | .ping now => ConnectionRegistry.pingMessage now
  | .start now => w.startMessage now
  | .drain now => w.drainMessage now

section Reach

variable {r : ConnectionRegistry} {w : WorkerClient} {l : Connection} {s : World}
variable {write : WorkerClient → Option WriteError}

/-- A registered client that is not disconnected, on an open connection of its own, gets
the line of every broadcast. -/
theorem broadcast_reaches (order : MapRange.RangeOrder r.conns) (found : r.get w.pid = some w)
    (conn : w.l = some l) (alone : ∀ v, r.get v.pid = some v → v ≠ w → v.l ≠ some l)
    (present : s.status w ≠ .disconnected) (taken : write w = none)
    (payload : Option (List UInt8)) (now : Int64) :
    (r.broadcast order write payload now s).written l =
      s.written l ++ ((MasterMessage.broadcast payload now).message w).line :=
  EventBus.broadcast_written (ConnectionRegistry.nodup_getAll order)
    ((ConnectionRegistry.mem_getAll order).mpr found) conn
    (fun v mem => alone v ((ConnectionRegistry.mem_getAll order).mp mem)) present taken

theorem pingWorkers_reaches (order : MapRange.RangeOrder r.conns) (found : r.get w.pid = some w)
    (conn : w.l = some l) (alone : ∀ v, r.get v.pid = some v → v ≠ w → v.l ≠ some l)
    (present : s.status w ≠ .disconnected) (taken : write w = none) (now : Int64) :
    (r.pingWorkers order write now s).written l =
      s.written l ++ ((MasterMessage.ping now).message w).line :=
  EventBus.broadcast_written (ConnectionRegistry.nodup_getAll order)
    ((ConnectionRegistry.mem_getAll order).mpr found) conn
    (fun v mem => alone v ((ConnectionRegistry.mem_getAll order).mp mem)) present taken

end Reach

theorem isShutdown_message (w : WorkerClient) (m : MasterMessage) :
    isShutdown (m.message w) = false := by
  cases m <;> rfl

/-- The bytes of a chat message without its newline: the payload in base64 and quotes, or
`null`, the digits of the clock, and 104 more. -/
def broadcastLength (payload : Option (List UInt8)) (now : Int64) : Nat :=
  104 + (match payload with
    | none => 4
    | some bytes => 2 + 4 * ((bytes.length + 2) / 3)) + (decimal now.toInt).length

theorem broadcastLength_some (bytes : List UInt8) (now : Int64) :
    broadcastLength (some bytes) now =
      106 + 4 * ((bytes.length + 2) / 3) + (decimal now.toInt).length := by
  simp only [broadcastLength]
  omega

theorem length_json_chat (payload : Option (List UInt8)) (now : Int64) :
    (ConnectionRegistry.chatMessage payload now).json.length = broadcastLength payload now := by
  have fixed : (quote "").length = 2 ∧ (decimal (0 : Int64).toInt).length = 1 ∧
      (decimal MsgType.chat.value.toInt).length = 1 := by decide
  have bare : (ConnectionRegistry.chatMessage payload now).Bare := ⟨rfl, rfl, rfl⟩
  have plain : Plain (quote "") := by decide
  rw [MessagePayload.length_json bare plain]
  simp only [ConnectionRegistry.chatMessage, fixed, broadcastLength]
  cases payload with
  | none => simp [byteSlice]
  | some bytes =>
      rw [length_byteSlice_some]

theorem length_decimal_int64 (n : Int64) : (decimal n.toInt).length ≤ 20 :=
  length_decimal_le n.le_toInt n.toInt_lt

/-- The two ids that the master uses are plain and short. -/
theorem masterID_plain {id : String} (known : id = "" ∨ id = "123") :
    Plain (quote id) ∧ (quote id).length ≤ 5 := by
  rcases known with rfl | rfl <;> decide

/-- A message of the master without a payload fits. -/
theorem length_json_lt {msg : MessagePayload} (bare : msg.Bare)
    (id : msg.id = "" ∨ msg.id = "123") (noPayload : msg.payload.payload = none) :
    msg.json.length < maxScanTokenSize := by
  obtain ⟨plain, shortID⟩ := masterID_plain id
  have pid := length_decimal_int64 msg.fromPID
  have type := length_decimal_int64 msg.payload.type.value
  have clock := length_decimal_int64 msg.timestamp
  have payload : (byteSlice msg.payload.payload).length = 4 := by rw [noPayload]; rfl
  rw [MessagePayload.length_json bare plain, maxScanTokenSize]
  omega

/-- Only a chat message can be too long. -/
theorem short_message_iff (w : WorkerClient) (m : MasterMessage) :
    (m.message w).json.length < maxScanTokenSize ↔
      ∀ payload now, m = .broadcast payload now →
        broadcastLength payload now < maxScanTokenSize := by
  cases m with
  | broadcast payload now =>
      rw [MasterMessage.message, length_json_chat]
      constructor
      · rintro short _ _ ⟨⟩
        exact short
      · intro short
        exact short payload now rfl
  | ping now =>
      exact iff_of_true (length_json_lt ⟨rfl, rfl, rfl⟩ (.inl rfl) rfl)
        fun _ _ other => nomatch other
  | start now =>
      exact iff_of_true (length_json_lt ⟨rfl, rfl, rfl⟩ (.inl rfl) rfl)
        fun _ _ other => nomatch other
  | drain now =>
      exact iff_of_true (length_json_lt ⟨rfl, rfl, rfl⟩ (.inr rfl) rfl)
        fun _ _ other => nomatch other

variable {unmarshal : List UInt8 → Option MessagePayload} {i : Nat}

/-- On an open stream of messages other than Shutdown, the worker cancels exactly if one of
them is too long. -/
theorem cancels_lines_eq_zero_iff {msgs : List MessagePayload}
    (inverts : ∀ msg ∈ msgs, unmarshal msg.json = some msg)
    (noShutdown : ∀ msg ∈ msgs, isShutdown msg = false) :
    (receiveMessage unmarshal undisturbed false i (msgs.flatMap MessagePayload.line)).cancels = 0 ↔
      ∀ msg ∈ msgs, msg.json.length < maxScanTokenSize := by
  induction msgs generalizing i with
  | nil => simp [receiveMessage_nil]
  | cons msg msgs ih =>
      have later := ih (i := i + 1) (fun m mem => inverts m (List.mem_cons_of_mem _ mem))
        fun m mem => noShutdown m (List.mem_cons_of_mem _ mem)
      rw [List.flatMap_cons, List.forall_mem_cons]
      by_cases short : msg.json.length < maxScanTokenSize
      · rw [receiveMessage_line (inverts msg List.mem_cons_self) short,
          noShutdown msg List.mem_cons_self, ← later]
        simp [Reception.after, short]
      · rw [receiveMessage_tooLong (Nat.not_lt.mp short)]
        simp [short]

/-- While short messages arrive, byte by byte, the worker never cancels. -/
theorem cancels_of_isPrefix {msgs : List MessagePayload} {arrived : List UInt8}
    (inverts : ∀ msg ∈ msgs, unmarshal msg.json = some msg)
    (noShutdown : ∀ msg ∈ msgs, isShutdown msg = false)
    (short : ∀ msg ∈ msgs, msg.json.length < maxScanTokenSize)
    (begins : arrived <+: msgs.flatMap MessagePayload.line) :
    (receiveMessage unmarshal undisturbed false i arrived).cancels = 0 := by
  induction msgs generalizing i arrived with
  | nil =>
      rw [List.flatMap_nil, List.prefix_nil] at begins
      rw [begins, receiveMessage_nil]
      rfl
  | cons msg msgs ih =>
      have here := short msg List.mem_cons_self
      rw [List.flatMap_cons] at begins
      rcases List.prefix_or_prefix_of_prefix begins (List.prefix_append _ _) with part | whole
      · rcases List.prefix_concat_iff.mp part with complete | unfinished
        · have line : arrived = msg.line ++ [] := by rw [complete, List.append_nil]; rfl
          rw [line, receiveMessage_line (inverts msg List.mem_cons_self) here,
            noShutdown msg List.mem_cons_self, receiveMessage_nil]
          rfl
        · -- the newline of this message is still to come
          have absent : 10 ∉ arrived := fun mem =>
            msg.newline_not_mem_json (unfinished.subset mem)
          have fits : arrived.length < maxScanTokenSize :=
            Nat.lt_of_le_of_lt unfinished.length_le here
          rw [receiveMessage_eq, scan_unfinished absent fits]
      · obtain ⟨tail, rfl⟩ := whole
        have rest := (List.prefix_append_right_inj _).mp begins
        rw [receiveMessage_line (inverts msg List.mem_cons_self) here,
          noShutdown msg List.mem_cons_self]
        exact ih (fun m mem => inverts m (List.mem_cons_of_mem _ mem))
          (fun m mem => noShutdown m (List.mem_cons_of_mem _ mem))
          (fun m mem => short m (List.mem_cons_of_mem _ mem)) rest

/-- A master sends chat messages, pings and the messages of `Start` and `Drain` on an open
connection. However many of the bytes have arrived, the worker has not called `cancelFunc`;
this holds exactly if every chat message is shorter than the limit of the scanner. -/
theorem worker_keeps_running_iff (unmarshal : List UInt8 → Option MessagePayload)
    (w : WorkerClient) (l : Connection) (conn : w.l = some l) (s : World)
    (fresh : s.written l = []) (sent : List MasterMessage)
    (inverts : ∀ m ∈ sent, unmarshal (m.message w).json = some (m.message w)) :
    (∀ arrived, arrived <+: (w.sendAll (sent.map (·.message w)) s).written l →
        (receiveMessage unmarshal undisturbed false 0 arrived).cancels = 0) ↔
      ∀ payload now, .broadcast payload now ∈ sent →
        broadcastLength payload now < maxScanTokenSize := by
  have inverts' : ∀ msg ∈ sent.map (·.message w), unmarshal msg.json = some msg :=
    List.forall_mem_map.mpr inverts
  have noShutdown : ∀ msg ∈ sent.map (·.message w), isShutdown msg = false :=
    List.forall_mem_map.mpr fun m _ => isShutdown_message w m
  have short : (∀ msg ∈ sent.map (·.message w), msg.json.length < maxScanTokenSize) ↔
      ∀ payload now, .broadcast payload now ∈ sent →
        broadcastLength payload now < maxScanTokenSize := by
    rw [List.forall_mem_map]
    simp only [short_message_iff]
    exact ⟨fun all payload now mem => all _ mem payload now rfl,
      fun all m mem payload now same => all payload now (same ▸ mem)⟩
  rw [w.sendAll_written conn, fresh, List.nil_append, ← short]
  constructor
  · intro never
    exact (cancels_lines_eq_zero_iff inverts' noShutdown).mp (never _ List.prefix_rfl)
  · intro all arrived begins
    exact cancels_of_isPrefix inverts' noShutdown all begins

/-- One message of each kind. -/
def sampleTraffic : List MasterMessage :=
  [.start 1700000000000, .broadcast (some [104, 105]) 1700000000001, .ping 1700000000002,
    .drain 1700000000003]

theorem worker_keeps_running_sample :
    let w : WorkerClient := ⟨0, 7, some 0⟩
    let msgs := sampleTraffic.map (·.message w)
    ∀ arrived, arrived <+: (w.sendAll msgs .initial).written 0 →
      (receiveMessage (fun bytes => msgs.find? fun msg => msg.json = bytes) undisturbed false 0
        arrived).cancels = 0 := by
  refine (worker_keeps_running_iff _ ⟨0, 7, some 0⟩ 0 rfl .initial rfl sampleTraffic
    (by decide +kernel)).mpr ?_
  intro payload now mem
  simp only [sampleTraffic, List.mem_cons, reduceCtorEq, MasterMessage.broadcast.injEq,
    List.not_mem_nil, or_false, false_or] at mem
  obtain ⟨rfl, rfl⟩ := mem
  decide

/-- One message that is too long, on a fresh connection, ends the worker. -/
theorem receiveMessage_sendAll_tooLong (unmarshal : List UInt8 → Option MessagePayload)
    {w : WorkerClient} {l : Connection} (conn : w.l = some l) {msg : MessagePayload}
    (long : maxScanTokenSize ≤ msg.json.length) :
    receiveMessage unmarshal undisturbed false 0 ((w.sendAll [msg] .initial).written l) =
      { cancels := 1, exit := some .tooLong } := by
  have stream : (w.sendAll [msg] .initial).written l = msg.line ++ [] := by
    rw [w.sendAll_written conn, List.flatMap_singleton, List.append_nil]
    rfl
  rw [stream, receiveMessage_tooLong long]

/-- A payload of 49063 bytes, with the clock of these years, is the first that is too
long. -/
theorem broadcastLength_large :
    maxScanTokenSize ≤ broadcastLength (some (List.replicate 49063 0)) 1700000000000 := by
  have clock : (decimal (1700000000000 : Int64).toInt).length = 13 := by decide
  rw [broadcastLength_some, List.length_replicate, clock]
  decide

/-- A chat message with such a payload on an open connection makes the worker cancel, whose
decoder inverts the encoder. -/
theorem large_broadcast_stops_worker :
    let w : WorkerClient := ⟨0, 7, some 0⟩
    let msg := ConnectionRegistry.chatMessage (some (List.replicate 49063 0)) 1700000000000
    let got := receiveMessage (fun bytes => if bytes = msg.json then some msg else none)
      undisturbed false 0 ((w.sendAll [msg] .initial).written 0)
    isShutdown msg = false ∧ got.cancels = 1 ∧ got.exit = some .tooLong := by
  have long := (length_json_chat (some (List.replicate 49063 0)) 1700000000000).symm ▸
    broadcastLength_large
  dsimp only
  rw [receiveMessage_sendAll_tooLong _ rfl long]
  exact ⟨rfl, rfl, rfl⟩

end GoOdin.Workers
