import GoOdin.Text.Json

/-!
# Messages between the master and its workers

`operation.Command` and `operation.MessagePayload`, and the line that `Send` writes for a
message: its JSON text and a newline. Go writes the fields in the order of the struct,
under their own names, and a `MsgType` as its number. Names and texts are valid UTF-8.
-/

namespace GoOdin.Operation

/-- `type MsgType int`: a message may hold any number. -/
structure MsgType where
  value : Int64
  deriving DecidableEq, Repr

namespace MsgType

def shutdown : MsgType := ⟨0⟩
def drain : MsgType := ⟨1⟩
def ping : MsgType := ⟨2⟩
def chat : MsgType := ⟨4⟩

end MsgType

structure Command where
  name : String := ""
  description : String := ""
  usage : String := ""
  type : MsgType
  /-- A slice of bytes, or nil. -/
  payload : Option (List UInt8) := none
  deriving DecidableEq, Repr

structure MessagePayload where
  id : String := ""
  fromPID : Int64 := 0
  payload : Command
  /-- Unix milliseconds. -/
  timestamp : Int64
  deriving DecidableEq, Repr

open JsonText

def Command.marshal (c : Command) : List Char :=
  object
    [("Name", quote c.name), ("Description", quote c.description), ("Usage", quote c.usage),
      ("Type", decimal c.type.value.toInt), ("Payload", byteSlice c.payload)]

def MessagePayload.marshal (msg : MessagePayload) : List Char :=
  object
    [("ID", quote msg.id), ("FromPID", decimal msg.fromPID.toInt),
      ("Payload", msg.payload.marshal), ("Timestamp", decimal msg.timestamp.toInt)]

namespace MessagePayload

/-- The bytes of `json.Marshal`. It cannot fail on these types. -/
def json (msg : MessagePayload) : List UInt8 := utf8 msg.marshal

/-- The bytes that `Send` writes. -/
def line (msg : MessagePayload) : List UInt8 := msg.json ++ [10]

theorem newline_not_mem_json (msg : MessagePayload) : 10 ∉ msg.json := by
  apply newline_not_mem_utf8
  have command : '\n' ∉ msg.payload.marshal := by
    apply newline_not_mem_object
    simp [newline_not_mem_quote, newline_not_mem_decimal, newline_not_mem_byteSlice]
  apply newline_not_mem_object
  simp [newline_not_mem_quote, newline_not_mem_decimal, command]

/-- The text ends with a brace. -/
theorem getLast?_json (msg : MessagePayload) : msg.json.getLast? = some 125 := by
  have brace : utf8 ['}'] = [125] := by decide
  simp only [json, marshal, object, List.cons_append, utf8_cons, utf8_append, brace]
  rw [← List.append_assoc, List.getLast?_concat]

/-- The command has no texts. The master sets none in the messages it sends. -/
def Bare (msg : MessagePayload) : Prop :=
  msg.payload.name = "" ∧ msg.payload.description = "" ∧ msg.payload.usage = ""

/-- The JSON of such a message is plain text. -/
theorem plain_marshal {msg : MessagePayload} (bare : msg.Bare) (id : Plain (quote msg.id)) :
    Plain msg.marshal := by
  obtain ⟨name, description, usage⟩ := bare
  have command : Plain msg.payload.marshal := by
    apply plain_object
    · simp only [List.forall_mem_cons]
      decide
    · simp only [List.forall_mem_cons, name, description, usage]
      exact ⟨by decide, by decide, by decide, plain_decimal _, plain_byteSlice _, by simp⟩
  apply plain_object
  · simp only [List.forall_mem_cons]
    decide
  · simp only [List.forall_mem_cons]
    exact ⟨id, plain_decimal _, command, plain_decimal _, by simp⟩

/-- Its length: one hundred bytes of names and punctuation, and the values. -/
theorem length_json {msg : MessagePayload} (bare : msg.Bare) (id : Plain (quote msg.id)) :
    msg.json.length =
      100 + (quote msg.id).length + (decimal msg.fromPID.toInt).length +
        (decimal msg.payload.type.value.toInt).length +
        (byteSlice msg.payload.payload).length + (decimal msg.timestamp.toInt).length := by
  rw [json, length_utf8_of_plain (plain_marshal bare id)]
  obtain ⟨name, description, usage⟩ := bare
  have names : ((quote "Name").length = 6 ∧ (quote "Description").length = 13 ∧
      (quote "Usage").length = 7 ∧ (quote "Type").length = 6 ∧ (quote "Payload").length = 9) ∧
      (quote "ID").length = 4 ∧ (quote "FromPID").length = 9 ∧ (quote "Timestamp").length = 11 ∧
      (quote "").length = 2 := by decide
  simp only [marshal, Command.marshal, object, members, member, name, description, usage,
    List.length_cons, List.length_append, List.length_nil, names]
  omega

end MessagePayload

end GoOdin.Operation
