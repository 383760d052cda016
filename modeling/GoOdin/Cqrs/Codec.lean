import GoOdin.Cqrs.Envelope

/-!
# `encoding/json` on the envelope

A JSON document is kept as its tree. A number leaf holds the Go number it was
printed from, and a time leaf holds the instant that its RFC 3339 text denotes, so
the assumption that exported fields round-trip is part of the type.

`json.Marshal` writes the exported fields of a struct under their Go names; the
`occurredAt` of the two loyalty events is unexported and is not written. The decoder
fills a zero envelope. `Payload` is an interface with methods and is nil there, so the
decoder has no type to decode a payload into: any value but `null` is an error.
-/

namespace GoOdin

/-- A JSON document. -/
inductive Json where
  | null
  | str (text : String)
  | int (value : Int64)
  | float (value : Float)
  | time (value : Time)
  | obj (fields : List (String × Json))

/-- What `json.Marshal` reports here. -/
inductive MarshalError where
  /-- `UnsupportedValueError`: a number that JSON cannot write. -/
  | unsupportedValue (value : Float)
  /-- The error of `Time.MarshalJSON`. -/
  | yearOutOfRange

def MarshalError.message : MarshalError → String
  | .unsupportedValue value =>
      "json: unsupported value: " ++
        if value.isNaN then "NaN" else if value < 0 then "-Inf" else "+Inf"
  | .yearOutOfRange =>
      "json: error calling MarshalJSON for type time.Time: " ++
        "Time.MarshalJSON: year outside of range [0,9999]"

/-- What `json.Unmarshal` reports for a field of the envelope. The bus only logs it. -/
structure UnmarshalTypeError where
  field : String

/-- The year of the instant, in UTC, is between 0 and 9999. -/
def Time.hasJsonYear (t : Time) : Bool :=
  decide (-62167219200000000000 ≤ t.unixNano) && decide (t.unixNano < 253402300800000000000)

/-- `Time.MarshalJSON`. -/
def Time.marshalJSON (t : Time) : Except MarshalError Json :=
  if t.hasJsonYear then .ok (.time t) else .error .yearOutOfRange

/-- A `float64`. JSON has no infinities and no NaN. -/
def marshalFloat (x : Float) : Except MarshalError Json :=
  if x.isNaN || x.isInf then .error (.unsupportedValue x) else .ok (.float x)

/-- The struct behind the interface, its exported fields only. -/
def DomainEvent.marshalJSON : DomainEvent → Except MarshalError Json
  | .loyaltyCredited event =>
      .ok (.obj
        [("LoyaltyAccountID", .str event.loyaltyAccountID),
          ("CustomerID", .str event.customerID),
          ("OrderID", .str event.orderID),
          ("PointsEarned", .int event.pointsEarned),
          ("NewBalance", .int event.newBalance),
          ("NewTier", .str event.newTier)])
  | .loyaltyCreditFailed event =>
      .ok (.obj
        [("CustomerID", .str event.customerID),
          ("OrderID", .str event.orderID),
          ("Reason", .str event.reason)])
  | .orderCompleted payload => do
      let totalAmount ← marshalFloat payload.totalAmount
      return .obj
        [("OrderID", .str payload.orderID),
          ("CustomerID", .str payload.customerID),
          ("TotalAmount", totalAmount)]

/-- A nil interface is written as `null`. -/
def marshalPayload : Option DomainEvent → Except MarshalError Json
  | none => .ok .null
  | some event => event.marshalJSON

namespace EventEnvelope

/-- `json.Marshal(env)`. -/
def marshalJSON (env : EventEnvelope) : Except MarshalError Json := do
  let occurredAt ← env.occurredAt.marshalJSON
  let payload ← marshalPayload env.payload
  return .obj
    [("EventID", .str env.eventID),
      ("CorrelationID", .str env.correlationID),
      ("CausationID", .str env.causationID),
      ("EventName", .str env.eventName),
      ("OccurredAt", occurredAt),
      ("OtelCarrier", .obj (env.otelCarrier.map fun entry => (entry.1, .str entry.2))),
      ("Payload", payload)]

/-- The zero `cqrs.EventEnvelope` that the subscriber decodes into. -/
def zero : EventEnvelope where
  eventID := ""
  correlationID := ""
  causationID := ""
  eventName := ""

end EventEnvelope

/-- A `string` field. `null` leaves it as it is. -/
def decodeString (field : String) (old : String) : Json → Except UnmarshalTypeError String
  | .null => .ok old
  | .str text => .ok text
  | _ => .error ⟨field⟩

/-- A `time.Time` field. -/
def decodeTime (field : String) (old : Time) : Json → Except UnmarshalTypeError Time
  | .null => .ok old
  | .time value => .ok value
  | _ => .error ⟨field⟩

/-- A `map[string]string` field. -/
def decodeCarrier (field : String) (old : List (String × String)) :
    Json → Except UnmarshalTypeError (List (String × String))
  | .null => .ok []
  | .obj fields =>
      fields.foldlM
        (fun entries entry => do
          let text ← decodeString field "" entry.2
          return entries ++ [(entry.1, text)])
        old
  | _ => .error ⟨field⟩

/-- A nil interface with methods. The decoder has no concrete type for a value. -/
def decodePayload (field : String) : Json → Except UnmarshalTypeError (Option DomainEvent)
  | .null => .ok none
  | _ => .error ⟨field⟩

namespace EventEnvelope

/-- Decode one member of the object into the field of that name; other members are
ignored. The decoder would also take a name that differs in case, which the encoder
never writes. -/
def decodeField (env : EventEnvelope) (entry : String × Json) :
    Except UnmarshalTypeError EventEnvelope :=
  match entry.1 with
  | "EventID" => do return { env with eventID := ← decodeString entry.1 env.eventID entry.2 }
  | "CorrelationID" => do
      return { env with correlationID := ← decodeString entry.1 env.correlationID entry.2 }
  | "CausationID" => do
      return { env with causationID := ← decodeString entry.1 env.causationID entry.2 }
  | "EventName" => do return { env with eventName := ← decodeString entry.1 env.eventName entry.2 }
  | "OccurredAt" => do return { env with occurredAt := ← decodeTime entry.1 env.occurredAt entry.2 }
  | "OtelCarrier" => do
      return { env with otelCarrier := ← decodeCarrier entry.1 env.otelCarrier entry.2 }
  | "Payload" => do return { env with payload := ← decodePayload entry.1 entry.2 }
  | _ => .ok env

/-- `json.Unmarshal(data, &env)` for a zero `env`. -/
def unmarshalJSON : Json → Except UnmarshalTypeError EventEnvelope
  | .null => .ok zero
  | .obj fields => fields.foldlM decodeField zero
  | _ => .error ⟨""⟩

/-- The document of an envelope, given that of its payload. -/
def document (env : EventEnvelope) (payload : Json) : Json :=
  .obj
    [("EventID", .str env.eventID),
      ("CorrelationID", .str env.correlationID),
      ("CausationID", .str env.causationID),
      ("EventName", .str env.eventName),
      ("OccurredAt", .time env.occurredAt),
      ("OtelCarrier", .obj (env.otelCarrier.map fun entry => (entry.1, .str entry.2))),
      ("Payload", payload)]

/-- Encoding succeeds when the time can be written and the payload can. -/
theorem marshalJSON_eq_ok {env : EventEnvelope} {json : Json}
    (encoded : env.marshalJSON = .ok json) :
    ∃ payload, marshalPayload env.payload = .ok payload ∧ json = env.document payload := by
  unfold marshalJSON at encoded
  cases time : env.occurredAt.marshalJSON with
  | error e =>
      rw [time] at encoded
      cases encoded
  | ok occurredAt =>
      cases written : marshalPayload env.payload with
      | error e =>
          rw [time, written] at encoded
          cases encoded
      | ok payload =>
          rw [time, written] at encoded
          have instant : occurredAt = .time env.occurredAt := by
            unfold Time.marshalJSON at time
            split at time
            · exact (Except.ok.inj time).symm
            · cases time
          subst instant
          exact ⟨payload, rfl, (Except.ok.inj encoded).symm⟩

private theorem foldlM_strings (field : String) (entries old : List (String × String)) :
    (entries.map fun entry => (entry.1, Json.str entry.2)).foldlM
        (fun entries entry => do
          let text ← decodeString field "" entry.2
          return entries ++ [(entry.1, text)])
        old =
      (.ok (old ++ entries) : Except UnmarshalTypeError (List (String × String))) := by
  induction entries generalizing old with
  | nil =>
      rw [List.append_nil]
      rfl
  | cons entry entries ih =>
      rw [List.map_cons, List.foldlM_cons]
      change List.foldlM _ (old ++ [(entry.1, entry.2)]) _ = _
      rw [ih, List.append_assoc]
      rfl

/-- Decoding a document is decoding its payload; every other field comes back. -/
theorem unmarshalJSON_document (env : EventEnvelope) (payload : Json) :
    unmarshalJSON (env.document payload) =
      (decodePayload "Payload" payload).map fun event => { env with payload := event } := by
  have carrier : decodeCarrier "OtelCarrier" []
      (.obj (env.otelCarrier.map fun entry => (entry.1, .str entry.2))) = .ok env.otelCarrier :=
    foldlM_strings "OtelCarrier" env.otelCarrier []
  simp only [unmarshalJSON, document, List.foldlM_cons, List.foldlM_nil, decodeField, decodeString,
    decodeTime, zero]
  simp only [bind, Except.bind, pure, Except.pure, carrier]
  cases decodePayload "Payload" payload <;> rfl

/-- An envelope without a payload comes back as it was. -/
theorem unmarshalJSON_of_nil {env : EventEnvelope} {json : Json}
    (encoded : env.marshalJSON = .ok json) (nil : env.payload = none) :
    unmarshalJSON json = .ok env := by
  obtain ⟨payload, written, rfl⟩ := marshalJSON_eq_ok encoded
  rw [nil] at written
  cases written
  rw [unmarshalJSON_document]
  change Except.ok { env with payload := none } = Except.ok env
  rw [← nil]

/-- An event is written as an object. -/
theorem marshalPayload_some {event : DomainEvent} {json : Json}
    (written : marshalPayload (some event) = .ok json) : ∃ fields, json = .obj fields := by
  cases event with
  | loyaltyCredited event => exact ⟨_, (Except.ok.inj written).symm⟩
  | loyaltyCreditFailed event => exact ⟨_, (Except.ok.inj written).symm⟩
  | orderCompleted payload =>
      simp only [marshalPayload, DomainEvent.marshalJSON] at written
      cases amount : marshalFloat payload.totalAmount with
      | error e =>
          rw [amount] at written
          cases written
      | ok value =>
          rw [amount] at written
          exact ⟨_, (Except.ok.inj written).symm⟩

/-- An envelope with a payload cannot be decoded. -/
theorem unmarshalJSON_of_event {env : EventEnvelope} {event : DomainEvent} {json : Json}
    (encoded : env.marshalJSON = .ok json) (carries : env.payload = some event) :
    unmarshalJSON json = .error ⟨"Payload"⟩ := by
  obtain ⟨payload, written, rfl⟩ := marshalJSON_eq_ok encoded
  rw [carries] at written
  obtain ⟨fields, rfl⟩ := marshalPayload_some written
  exact unmarshalJSON_document env (.obj fields)

/-- No decoder could restore every payload: the time at which a loyalty event occurred
is not in the document. -/
theorem no_decoder_restores_occurredAt (decode : Json → Option DomainEvent) :
    ¬ ∀ event json, marshalPayload (some event) = .ok json → decode json = some event := by
  intro restores
  let early : LoyaltyCreditFailedEvent := ⟨"customer-1", "order-1", "rejected", Time.zero⟩
  let late : LoyaltyCreditFailedEvent := { early with occurredAt := ⟨0⟩ }
  have first := restores (.loyaltyCreditFailed early) _ rfl
  have second := restores (.loyaltyCreditFailed late) _ rfl
  have same := congrArg (Option.map DomainEvent.occurredAt) (first.symm.trans second)
  exact absurd (Option.some.inj same) (by decide)

end EventEnvelope

end GoOdin
