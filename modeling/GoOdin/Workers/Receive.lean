import GoOdin.Interaction.Loop
import GoOdin.Text.Lines
import GoOdin.Workers.Client

/-!
# `Worker.ReceiveMessage`, the worker's end of a connection

The worker scans lines and decodes each as a message, until it leaves the loop. Of its
five ways out, four call `cancelFunc`: the end of the stream, a line that is too long, a
line that does not decode, and a Shutdown message. When the context was cancelled from
elsewhere it just returns.

`json.Unmarshal` is a parameter: the bytes it is given and the message it yields, or none
for an error. Results about it assume that it inverts `json.Marshal` on the messages sent.
-/

namespace GoOdin.Workers

open Interaction LineScanner Operation

/-- `bufio.MaxScanTokenSize`. -/
def maxScanTokenSize : Nat := 65536

/-- How `ReceiveMessage` returned. -/
inductive Exit where
  | contextDone | endOfStream | tooLong | badMessage | shutdown
  deriving DecidableEq, Repr

/-- What `ReceiveMessage` has done: the messages it decoded, its calls of `cancelFunc`, and
how it returned, or none while it waits for more bytes. -/
structure Reception where
  decoded : List MessagePayload := []
  cancels : Nat := 0
  exit : Option Exit := none
  deriving DecidableEq, Repr

/-- The loop went round once more before all this, and decoded a message. -/
def Reception.after (msg : MessagePayload) (later : Reception) : Reception :=
  { later with decoded := msg :: later.decoded }

/-- `ReceiveMessage` on the bytes not consumed yet. `done i` says that the context is found
cancelled at the `i`-th round. -/
def receiveMessage (unmarshal : List UInt8 → Option MessagePayload) (done : Nat → Bool)
    (closed : Bool) (i : Nat) (stream : List UInt8) : Reception :=
  if done i then { exit := some .contextDone }
  else
    match _ : scan maxScanTokenSize closed stream with
    | .waiting => {}
    | .tooLong => { cancels := 1, exit := some .tooLong }
    | .endOfStream => { cancels := 1, exit := some .endOfStream }
    | .token command rest =>
        match unmarshal command with
        | none => { cancels := 1, exit := some .badMessage }
        | some body =>
            if body.payload.type = .shutdown then
              { decoded := [body], cancels := 1, exit := some .shutdown }
            else (receiveMessage unmarshal done closed (i + 1) rest).after body
termination_by stream.length
decreasing_by exact length_rest_lt ‹_›

/-- The message tells the worker to stop. -/
def isShutdown (msg : MessagePayload) : Bool := msg.payload.type = .shutdown

variable {unmarshal : List UInt8 → Option MessagePayload} {closed : Bool} {i : Nat}
variable {msg : MessagePayload} {rest stream : List UInt8}

/-- Nobody else cancels the context. -/
abbrev undisturbed : Nat → Bool := fun _ => false

/-- The loop by what the scanner finds. -/
theorem receiveMessage_eq :
    receiveMessage unmarshal undisturbed closed i stream =
      match scan maxScanTokenSize closed stream with
      | .waiting => {}
      | .tooLong => { cancels := 1, exit := some .tooLong }
      | .endOfStream => { cancels := 1, exit := some .endOfStream }
      | .token command rest =>
          match unmarshal command with
          | none => { cancels := 1, exit := some .badMessage }
          | some body =>
              if body.payload.type = .shutdown then
                { decoded := [body], cancels := 1, exit := some .shutdown }
              else (receiveMessage unmarshal undisturbed closed (i + 1) rest).after body := by
  rw [receiveMessage, if_neg Bool.false_ne_true]
  split <;> rename_i found <;> rw [found]

/-- A JSON line has no carriage return at its end. -/
theorem dropCR_json (msg : MessagePayload) : dropCR msg.json = msg.json := by
  rw [dropCR, msg.getLast?_json]
  rfl

/-- One round of the loop on a message that fits. -/
theorem receiveMessage_line (inverts : unmarshal msg.json = some msg)
    (short : msg.json.length < maxScanTokenSize) :
    receiveMessage unmarshal undisturbed closed i (msg.line ++ rest) =
      if isShutdown msg then { decoded := [msg], cancels := 1, exit := some .shutdown }
      else (receiveMessage unmarshal undisturbed closed (i + 1) rest).after msg := by
  rw [receiveMessage_eq, MessagePayload.line, List.append_assoc, List.singleton_append,
    scan_line msg.newline_not_mem_json short, dropCR_json]
  simp only [inverts, isShutdown, decide_eq_true_eq]

/-- A message that does not fit makes the worker cancel, whatever it says. -/
theorem receiveMessage_tooLong (long : maxScanTokenSize ≤ msg.json.length) :
    receiveMessage unmarshal undisturbed closed i (msg.line ++ rest) =
      { cancels := 1, exit := some .tooLong } := by
  rw [receiveMessage_eq, MessagePayload.line, List.append_assoc,
    scan_tooLong msg.newline_not_mem_json long]

/-- With nothing left the worker waits, or cancels at the end of a closed stream. -/
theorem receiveMessage_nil :
    receiveMessage unmarshal undisturbed closed i [] =
      if closed then { cancels := 1, exit := some .endOfStream } else {} := by
  rw [receiveMessage_eq, scan_nil (by decide)]
  cases closed <;> rfl

/-- What `ReceiveMessage` makes of a list of messages: it decodes them up to and including
the first Shutdown, cancels there or at the end of a closed stream, and waits otherwise. -/
def receptionOf (closed : Bool) (msgs : List MessagePayload) : Reception :=
  if msgs.any isShutdown then
    { decoded := takeThrough isShutdown msgs, cancels := 1, exit := some .shutdown }
  else if closed then { decoded := msgs, cancels := 1, exit := some .endOfStream }
  else { decoded := msgs }

theorem receptionOf_cons (msg : MessagePayload) (msgs : List MessagePayload) :
    receptionOf closed (msg :: msgs) =
      if isShutdown msg then { decoded := [msg], cancels := 1, exit := some .shutdown }
      else (receptionOf closed msgs).after msg := by
  cases stops : isShutdown msg with
  | true => simp [receptionOf, stops]
  | false =>
      simp only [receptionOf, List.any_cons, stops, Bool.false_or]
      cases msgs.any isShutdown <;> cases closed <;> simp [Reception.after, stops]

/-- A worker that gets the lines of some messages receives those messages. -/
theorem receiveMessage_lines {msgs : List MessagePayload}
    (inverts : ∀ msg ∈ msgs, unmarshal msg.json = some msg)
    (short : ∀ msg ∈ msgs, msg.json.length < maxScanTokenSize) :
    receiveMessage unmarshal undisturbed closed i (msgs.flatMap MessagePayload.line) =
      receptionOf closed msgs := by
  induction msgs generalizing i with
  | nil =>
      rw [List.flatMap_nil, receiveMessage_nil]
      cases closed <;> rfl
  | cons msg msgs ih =>
      rw [List.flatMap_cons, receptionOf_cons,
        receiveMessage_line (inverts msg List.mem_cons_self) (short msg List.mem_cons_self),
        ih (fun m mem => inverts m (List.mem_cons_of_mem _ mem))
          fun m mem => short m (List.mem_cons_of_mem _ mem)]

namespace WorkerClient

/-- Send messages one after the other on a connection that takes them. -/
def sendAll (w : WorkerClient) (msgs : List MessagePayload) (s : World) : World :=
  runFrom (fun s msg => (w.send none msg s).2) s msgs

/-- The connection then holds their lines, in order. -/
theorem sendAll_written {w : WorkerClient} {l : Connection} (conn : w.l = some l)
    (msgs : List MessagePayload) (s : World) :
    (w.sendAll msgs s).written l = s.written l ++ msgs.flatMap MessagePayload.line := by
  induction msgs generalizing s with
  | nil => simp [sendAll]
  | cons msg msgs ih =>
      have delivers : w.Delivers none := ⟨by simp [conn], rfl⟩
      have first : (w.send none msg s).2.written l = s.written l ++ msg.line := by
        rw [send_of_delivers delivers conn]
        exact Function.update_self _ _ _
      change (w.sendAll msgs (w.send none msg s).2).written l = _
      rw [ih, first, List.flatMap_cons, List.append_assoc]

end WorkerClient

/-- Messages whose JSON is shorter than the scanner's limit, sent on a fresh connection,
reach the worker as they were sent: it decodes them in order, up to and including the first
Shutdown, and calls `cancelFunc` once, at that message or else at the end of the stream,
and not at all while the stream is open and no Shutdown has come. -/
theorem framing_exact (unmarshal : List UInt8 → Option MessagePayload) (w : WorkerClient)
    (l : Connection) (conn : w.l = some l) (s : World) (fresh : s.written l = [])
    (msgs : List MessagePayload) (inverts : ∀ msg ∈ msgs, unmarshal msg.json = some msg)
    (short : ∀ msg ∈ msgs, msg.json.length < maxScanTokenSize) (closed : Bool) :
    let got := receiveMessage unmarshal undisturbed closed 0 ((w.sendAll msgs s).written l)
    got.decoded = takeThrough isShutdown msgs ∧
      (closed = true → got.cancels = 1) ∧
      (msgs.any isShutdown = true → got.cancels = 1 ∧ got.exit = some .shutdown) ∧
      (msgs.any isShutdown = false →
        got.cancels = (if closed then 1 else 0) ∧
          got.exit = if closed then some .endOfStream else none) := by
  intro got
  have whole : got = receptionOf closed msgs := by
    change receiveMessage _ _ _ _ _ = _
    rw [w.sendAll_written conn, fresh, List.nil_append, receiveMessage_lines inverts short]
  rw [whole, receptionOf]
  cases stops : msgs.any isShutdown with
  | true => simp
  | false =>
      have passes : takeThrough isShutdown msgs = msgs :=
        takeThrough_eq_self (by simpa using stops)
      cases closed <;> simp [passes]

/-- A ping, a Shutdown and a message that comes too late. -/
def sampleMessages : List MessagePayload :=
  [WorkerClient.startMessage ⟨0, 7, some 0⟩ 1700000000000,
    WorkerClient.shutdownMessage 1700000000001,
    WorkerClient.drainMessage ⟨0, 7, some 0⟩ 1700000000002]

theorem framing_exact_shutdown :
    (receiveMessage (fun bytes => sampleMessages.find? fun msg => msg.json = bytes) undisturbed
      true 0 ((WorkerClient.sendAll ⟨0, 7, some 0⟩ sampleMessages .initial).written 0)).decoded =
        sampleMessages.take 2 :=
  (framing_exact _ ⟨0, 7, some 0⟩ 0 rfl .initial rfl sampleMessages (by decide +kernel)
    (by decide +kernel) true).1

end GoOdin.Workers
