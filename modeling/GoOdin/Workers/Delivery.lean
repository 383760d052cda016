import GoOdin.Operation.Wire
import GoOdin.Workers.Receive

/-!
# Delivery of messages on a connection that may break

`ReceiveMessage` with the decoder it has, on any beginning of what the master sent: the
connection may break at any byte, within a line, an escape or a character. The worker never
acts on a message that was not sent, and misses none whose line has come whole.
-/

namespace GoOdin.Workers

open Interaction JsonText LineScanner Operation

open MessagePayload (unmarshal)

variable {closed : Bool} {i : Nat} {msg : MessagePayload} {stream : List UInt8}

theorem dropCR_isPrefix (line : List UInt8) : dropCR line <+: line := by
  rw [dropCR]
  split
  · exact List.dropLast_prefix line
  · exact List.prefix_rfl

/-- The worker on a line that is not finished: it waits, or takes the end of the stream for
the end of the line. -/
theorem receiveMessage_unfinished (part : stream <+: msg.json)
    (short : msg.json.length < maxScanTokenSize) :
    receiveMessage unmarshal undisturbed closed i stream =
      if closed = false then {}
      else if stream = [] then { cancels := 1, exit := some .endOfStream }
      else if stream = msg.json then
        if isShutdown msg then { decoded := [msg], cancels := 1, exit := some .shutdown }
        else { decoded := [msg], cancels := 1, exit := some .endOfStream }
      else { cancels := 1, exit := some .badMessage } := by
  have noNewline : 10 ∉ stream := fun mem => msg.newline_not_mem_json (part.subset mem)
  have fits : stream.length < maxScanTokenSize := Nat.lt_of_le_of_lt part.length_le short
  cases closed with
  | false => rw [receiveMessage_eq, scan_unfinished noNewline fits, if_pos rfl]
  | true =>
      by_cases nothing : stream = []
      · subst nothing
        rw [receiveMessage_nil]
        rfl
      · rw [receiveMessage_eq, scan_last noNewline fits nothing, if_neg (by decide),
          if_neg nothing]
        by_cases whole : stream = msg.json
        · subst whole
          rw [if_pos rfl, dropCR_json]
          simp only [msg.unmarshal_json, receiveMessage_nil, isShutdown, decide_eq_true_eq]
          rfl
        · have torn := (dropCR_isPrefix stream).trans part
          have proper : dropCR stream ≠ msg.json := by
            intro same
            have length := (dropCR_isPrefix stream).length_le
            rw [same] at length
            exact whole (part.eq_of_length_le length)
          rw [if_neg whole]
          simp only [MessagePayload.unmarshal_torn torn proper]

/-- What the worker may do with a beginning of what was sent. -/
structure Delivers (closed : Bool) (msgs : List MessagePayload) (stream : List UInt8)
    (got : Reception) : Prop where
  /-- It decodes messages as they were sent, in order and without a gap. -/
  sent : got.decoded <+: msgs
  /-- It stops at the first Shutdown. -/
  stops : takeThrough isShutdown got.decoded = got.decoded
  /-- Up to there it misses no message whose line has come. -/
  complete : ∀ n, (msgs.take n).flatMap MessagePayload.line <+: stream →
    takeThrough isShutdown (msgs.take n) <+: got.decoded
  /-- Without a Shutdown it goes on as long as the connection does. -/
  waits : closed = false → got.decoded.any isShutdown = false → got.cancels = 0 ∧ got.exit = none
  cancels : closed = true ∨ got.decoded.any isShutdown = true → got.cancels = 1

theorem delivers_shutdown {msgs : List MessagePayload} (shutdown : isShutdown msg = true) :
    Delivers closed (msg :: msgs) stream
      { decoded := [msg], cancels := 1, exit := some .shutdown } where
  sent := ⟨msgs, rfl⟩
  stops := takeThrough_cons_of_pos [] shutdown
  complete
    | 0, _ => List.nil_prefix
    | n + 1, _ => by
        rw [List.take_succ_cons, takeThrough_cons_of_pos _ shutdown]
  waits := by simp [shutdown]
  cancels _ := rfl

theorem delivers_after {msgs : List MessagePayload} {later : Reception}
    (goesOn : isShutdown msg = false) (rest : Delivers closed msgs stream later) :
    Delivers closed (msg :: msgs) (msg.line ++ stream) (later.after msg) where
  sent := (List.prefix_cons_inj msg).mpr rest.sent
  stops := by
    show takeThrough isShutdown (msg :: later.decoded) = msg :: later.decoded
    rw [takeThrough_cons_of_neg _ goesOn, rest.stops]
  complete
    | 0, _ => List.nil_prefix
    | n + 1, come => by
        rw [List.take_succ_cons, List.flatMap_cons, List.prefix_append_right_inj] at come
        rw [List.take_succ_cons, takeThrough_cons_of_neg _ goesOn]
        exact (List.prefix_cons_inj msg).mpr (rest.complete n come)
  waits isOpen none := by
    refine rest.waits isOpen ?_
    simpa [Reception.after, goesOn] using none
  cancels ends := by
    refine rest.cancels ?_
    simpa [Reception.after, goesOn] using ends

/-- Nothing is decoded before the first line has come. -/
theorem delivers_nothing {msgs : List MessagePayload} {got : Reception}
    (none : ∀ n, (msgs.take n).flatMap MessagePayload.line <+: stream → msgs.take n = [])
    (empty : got.decoded = []) (waits : closed = false → got.cancels = 0 ∧ got.exit = .none)
    (cancels : closed = true → got.cancels = 1) : Delivers closed msgs stream got where
  sent := empty ▸ List.nil_prefix
  stops := by simp [empty]
  complete n come := by simp [none n come]
  waits isOpen _ := waits isOpen
  cancels ends := cancels (by simpa [empty] using ends)

theorem delivers_unfinished {msgs : List MessagePayload} (part : stream <+: msg.json)
    (short : msg.json.length < maxScanTokenSize) :
    Delivers closed (msg :: msgs) stream
      (receiveMessage unmarshal undisturbed closed i stream) := by
  have none : ∀ n, ((msg :: msgs).take n).flatMap MessagePayload.line <+: stream →
      (msg :: msgs).take n = [] := by
    rintro (_ | n) come
    · rfl
    · have shorter := part.length_le
      have longer := come.length_le
      rw [List.take_succ_cons, List.flatMap_cons, MessagePayload.line] at longer
      simp only [List.length_append, List.length_singleton] at longer
      omega
  rw [receiveMessage_unfinished part short]
  split
  · next isOpen => exact delivers_nothing none rfl (fun _ => ⟨rfl, rfl⟩) (by simp [isOpen])
  · next isClosed =>
      split
      · exact delivers_nothing none rfl (fun isOpen => absurd isOpen isClosed) fun _ => rfl
      · split
        · split
          · next shutdown => exact delivers_shutdown shutdown
          · next goesOn =>
              have goesOn : isShutdown msg = false := by simpa using goesOn
              exact {
                sent := ⟨msgs, rfl⟩
                stops := takeThrough_cons_of_neg [] goesOn
                complete := fun n come => by simp [none n come]
                waits := fun isOpen => absurd isOpen isClosed
                cancels := fun _ => rfl }
        · exact delivers_nothing none rfl (fun isOpen => absurd isOpen isClosed) fun _ => rfl

theorem delivers {msgs : List MessagePayload}
    (short : ∀ msg ∈ msgs, msg.json.length < maxScanTokenSize)
    (part : stream <+: msgs.flatMap MessagePayload.line) :
    Delivers closed msgs stream (receiveMessage unmarshal undisturbed closed i stream) := by
  induction msgs generalizing i stream with
  | nil =>
      obtain rfl := List.prefix_nil.mp part
      rw [receiveMessage_nil]
      cases closed <;> constructor <;> simp
  | cons msg msgs ih =>
      rw [List.forall_mem_cons] at short
      rw [List.flatMap_cons] at part
      by_cases come : msg.line <+: stream
      · obtain ⟨rest, rfl⟩ := come
        rw [List.prefix_append_right_inj] at part
        rw [receiveMessage_line msg.unmarshal_json short.1]
        split
        · next shutdown => exact delivers_shutdown shutdown
        · next goesOn => exact delivers_after (by simpa using goesOn) (ih short.2 part)
      · have unfinished : stream <+: msg.line :=
          (List.prefix_or_prefix_of_prefix (List.prefix_append msg.line _) part).resolve_left come
        obtain rfl | within := List.prefix_concat_iff.mp unfinished
        · exact absurd List.prefix_rfl come
        · exact delivers_unfinished within short.1

/-- A master sends messages, each shorter than the scanner's limit, and the connection
breaks at any byte or stays open after it. Then the worker decodes messages as they were
sent and in order, up to the first Shutdown and at least all whose line has come; it never
decodes anything else, and it goes on waiting while the connection is open and no Shutdown
has come. -/
theorem broken_connection_delivers (w : WorkerClient) (l : Connection) (conn : w.l = some l)
    (s : World) (fresh : s.written l = []) (msgs : List MessagePayload)
    (short : ∀ msg ∈ msgs, msg.json.length < maxScanTokenSize) (stream : List UInt8)
    (part : stream <+: (w.sendAll msgs s).written l) (closed : Bool) :
    Delivers closed msgs stream (receiveMessage unmarshal undisturbed closed 0 stream) := by
  rw [w.sendAll_written conn, fresh, List.nil_append] at part
  exact delivers short part

/-- The connection breaks after 150 bytes, within the second of three messages. -/
theorem broken_connection_delivers_first :
    let stream := ((WorkerClient.sendAll ⟨0, 7, some 0⟩ sampleMessages .initial).written 0).take 150
    Delivers true sampleMessages stream (receiveMessage unmarshal undisturbed true 0 stream) :=
  broken_connection_delivers ⟨0, 7, some 0⟩ 0 rfl .initial rfl sampleMessages
    (by decide +kernel) _ (List.take_prefix 150 _) true

theorem takeWhile_json (msg : MessagePayload) (rest : List UInt8) :
    (msg.json ++ 10 :: rest).takeWhile (· != 10) = msg.json := by
  rw [List.takeWhile_append_of_pos (notNewline_of_not_mem msg.newline_not_mem_json)]
  simp

/-- No two lists of messages make the same bytes, however long the messages are. -/
theorem sent_bytes_determine_messages :
    Function.Injective fun msgs : List MessagePayload => msgs.flatMap MessagePayload.line := by
  intro msgs msgs' same
  induction msgs generalizing msgs' with
  | nil =>
      cases msgs' with
      | nil => rfl
      | cons msg' msgs' => simp [MessagePayload.line] at same
  | cons msg msgs ih =>
      cases msgs' with
      | nil => simp [MessagePayload.line] at same
      | cons msg' msgs' =>
          simp only [List.flatMap_cons, MessagePayload.line, List.append_assoc,
            List.singleton_append] at same
          have json : msg.json = msg'.json := by
            have front := congrArg (List.takeWhile (· != 10)) same
            rwa [takeWhile_json, takeWhile_json] at front
          rw [json] at same
          obtain ⟨-, rest⟩ := List.cons.inj (List.append_cancel_left same)
          have message : msg = msg' := by
            have decoded := msg.unmarshal_json
            rw [json, msg'.unmarshal_json] at decoded
            exact (Option.some.inj decoded).symm
          rw [message, ih rest]

/-- A line that is no JSON object with a member for `Payload` ends the worker, whatever
follows it: at a Shutdown that nobody sent, if it decodes at all. -/
theorem line_without_payload_stops (line rest : List UInt8) (noNewline : 10 ∉ line)
    (short : line.length < maxScanTokenSize)
    (without : ∀ members, parse (dropCR line) = some (.object members) →
      ∀ member ∈ members, fieldOf MessagePayload.fields member.1 ≠ some "Payload")
    (closed : Bool) (i : Nat) :
    let got := receiveMessage unmarshal undisturbed closed i (line ++ 10 :: rest)
    got.cancels = 1 ∧ got.decoded.length ≤ 1 ∧
      got.exit = some (if unmarshal (dropCR line) = none then .badMessage else .shutdown) := by
  rw [receiveMessage_eq, scan_line noNewline short]
  cases decoded : unmarshal (dropCR line) with
  | none => simp [decoded]
  | some msg =>
      have shutdown := MessagePayload.shutdown_of_unmarshal decoded without
      simp [decoded, shutdown]

/-- An empty object is enough. -/
theorem line_without_payload_stops_empty :
    (receiveMessage unmarshal undisturbed false 0 ([123, 125] ++ 10 :: [])).cancels = 1 := by
  refine (line_without_payload_stops [123, 125] [] (by decide) (by decide) ?_ false 0).1
  intro members parsed
  cases parsed
  exact fun _ absent => absurd absent List.not_mem_nil

end GoOdin.Workers
