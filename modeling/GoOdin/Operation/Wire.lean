import GoOdin.Operation.Message
import GoOdin.Text.JsonDecode

/-!
# `json.Unmarshal` of a message

The worker decodes each line into a zero `MessagePayload`. The decoder inverts the encoder
on every message, and refuses every proper beginning of a message's JSON; what is left out
of a text stays zero, and zero is the number of `Shutdown`.

A member may come more than once, and then goes to where the one before went. What is decoded
into therefore has, beside the message, the bytes that the array of its payload holds after the
payload.
-/

namespace GoOdin.Operation

open JsonText

namespace Command

def fields : List String := ["Name", "Description", "Usage", "Type", "Payload"]

def setField (field : String) (value : Value) (old : Command × List UInt8) :
    Option (Command × List UInt8) :=
  let (c, spare) := old
  match field with
  | "Name" => (value.intoString c.name).map fun name => ({ c with name }, spare)
  | "Description" =>
      (value.intoString c.description).map fun description => ({ c with description }, spare)
  | "Usage" => (value.intoString c.usage).map fun usage => ({ c with usage }, spare)
  | "Type" => (value.intoInt64 c.type.value).map fun type => ({ c with type := ⟨type⟩ }, spare)
  | "Payload" =>
      (value.intoBytes ⟨c.payload, spare⟩).map fun slice =>
        ({ c with payload := slice.bytes }, slice.spare)
  | _ => some old

/-- The value that the JSON of a command denotes. -/
def value (c : Command) : Value :=
  .object
    [("Name", .string c.name), ("Description", .string c.description), ("Usage", .string c.usage),
      ("Type", .number (decimal c.type.value.toInt)), ("Payload", byteSliceValue c.payload)]

theorem reads_marshal (nesting : Nat) (c : Command) : Reads (nesting + 1) c.marshal c.value :=
  reads_object (.cons ⟨rfl, reads_quote _ _⟩ (.cons ⟨rfl, reads_quote _ _⟩
    (.cons ⟨rfl, reads_quote _ _⟩ (.cons ⟨rfl, reads_decimal _ _⟩
      (.cons ⟨rfl, reads_byteSlice _ _⟩ .nil)))))

theorem intoStruct_value (old : Command × List UInt8) (c : Command) :
    c.value.intoStruct fields setField old = some (c, []) := by
  simp only [value, intoStruct_object, List.foldlM_cons, List.foldlM_nil,
    decodeMember_of_mem (show "Name" ∈ fields by decide),
    decodeMember_of_mem (show "Description" ∈ fields by decide),
    decodeMember_of_mem (show "Usage" ∈ fields by decide),
    decodeMember_of_mem (show "Type" ∈ fields by decide),
    decodeMember_of_mem (show "Payload" ∈ fields by decide), setField, Value.intoString,
    intoInt64_decimal, intoBytes_byteSliceValue, Option.map_some, Option.bind_eq_bind,
    Option.bind_some, Option.pure_def]

end Command

namespace MessagePayload

def fields : List String := ["ID", "FromPID", "Payload", "Timestamp"]

def setField (field : String) (value : Value) (old : MessagePayload × List UInt8) :
    Option (MessagePayload × List UInt8) :=
  let (msg, spare) := old
  match field with
  | "ID" => (value.intoString msg.id).map fun id => ({ msg with id }, spare)
  | "FromPID" => (value.intoInt64 msg.fromPID).map fun fromPID => ({ msg with fromPID }, spare)
  | "Payload" =>
      (value.intoStruct Command.fields Command.setField (msg.payload, spare)).map fun decoded =>
        ({ msg with payload := decoded.1 }, decoded.2)
  | "Timestamp" =>
      (value.intoInt64 msg.timestamp).map fun timestamp => ({ msg with timestamp }, spare)
  | _ => some old

/-- The message that `ReceiveMessage` decodes into. -/
def zero : MessagePayload where
  payload := { type := ⟨0⟩ }
  timestamp := 0

/-- `json.Unmarshal`. -/
def unmarshal (bytes : List UInt8) : Option MessagePayload :=
  ((parse bytes).bind (Value.intoStruct fields setField (zero, []))).map Prod.fst

/-- The value that the JSON of a message denotes. -/
def value (msg : MessagePayload) : Value :=
  .object
    [("ID", .string msg.id), ("FromPID", .number (decimal msg.fromPID.toInt)),
      ("Payload", msg.payload.value), ("Timestamp", .number (decimal msg.timestamp.toInt))]

theorem reads_marshal (msg : MessagePayload) : Reads maxNesting msg.marshal msg.value := by
  show Reads (9999 + 1) msg.marshal msg.value
  exact reads_object (.cons ⟨rfl, reads_quote _ _⟩ (.cons ⟨rfl, reads_decimal _ _⟩
    (.cons ⟨rfl, msg.payload.reads_marshal 9998⟩ (.cons ⟨rfl, reads_decimal _ _⟩ .nil))))

theorem intoStruct_value (old : MessagePayload × List UInt8) (msg : MessagePayload) :
    msg.value.intoStruct fields setField old = some (msg, []) := by
  simp only [value, intoStruct_object, List.foldlM_cons, List.foldlM_nil,
    decodeMember_of_mem (show "ID" ∈ fields by decide),
    decodeMember_of_mem (show "FromPID" ∈ fields by decide),
    decodeMember_of_mem (show "Payload" ∈ fields by decide),
    decodeMember_of_mem (show "Timestamp" ∈ fields by decide), setField, Value.intoString,
    intoInt64_decimal, Command.intoStruct_value, Option.map_some, Option.bind_eq_bind,
    Option.bind_some, Option.pure_def]

/-- Every message is decoded from its JSON as it was. -/
theorem unmarshal_json (msg : MessagePayload) : unmarshal msg.json = some msg := by
  rw [unmarshal, json, parse_of_reads msg.reads_marshal, Option.bind_some, intoStruct_value]
  rfl

/-- No proper beginning of a message's JSON is decoded. -/
theorem unmarshal_torn {msg : MessagePayload} {front : List UInt8} (torn : front <+: msg.json)
    (proper : front ≠ msg.json) : unmarshal front = none := by
  rw [unmarshal, parse_of_torn msg.reads_marshal torn proper]
  rfl

theorem payload_setField {field : String} {value : Value} {old new : MessagePayload × List UInt8}
    (other : field ≠ "Payload") (set : setField field value old = some new) :
    new.1.payload = old.1.payload := by
  obtain ⟨msg, spare⟩ := old
  simp only [setField] at set
  split at set
  case h_3 => exact absurd rfl other
  case h_5 =>
      cases set
      rfl
  all_goals
    obtain ⟨_, -, same⟩ := Option.map_eq_some_iff.mp set
    cases same
    rfl

/-- A message without a member for `Payload` is a Shutdown: the type it does not name is
zero. `null` is such a message, too. -/
theorem shutdown_of_unmarshal {bytes : List UInt8} {msg : MessagePayload}
    (decoded : unmarshal bytes = some msg)
    (without : ∀ members, parse bytes = some (.object members) →
      ∀ member ∈ members, fieldOf fields member.1 ≠ some "Payload") :
    msg.payload.type = .shutdown := by
  rw [unmarshal, Option.map_eq_some_iff] at decoded
  obtain ⟨⟨_, spare⟩, decoded, rfl⟩ := decoded
  obtain ⟨value, parsed, decoded⟩ := Option.bind_eq_some_iff.mp decoded
  cases value with
  | null =>
      cases decoded
      rfl
  | object members =>
      have kept := foldlM_decodeMember
        (P := fun read : MessagePayload × List UInt8 => read.1.payload = zero.payload)
          (fun member mem name old new found set start => by
            refine (payload_setField ?_ set).trans start
            rintro rfl
            exact without members parsed member mem found) decoded rfl
      rw [kept]
      rfl
  | bool _ => cases decoded
  | number _ => cases decoded
  | string _ => cases decoded
  | array _ => cases decoded

end MessagePayload

end GoOdin.Operation
