import GoOdin.Text.Bytes
import Mathlib.Tactic.Common

/-!
# The trace context of a request

`ConstructNewSpanContextFromTraceparent` cuts a `traceparent` header at its dashes, has the
two identifiers read by OpenTelemetry and compares the last part with `01`. The first part,
the version, is not looked at, and any other last part means that the trace is not sampled.

How OpenTelemetry reads an identifier is a parameter; `HexIds` says what is assumed of it.
-/

namespace GoOdin.Monitoring

open Text

/-! ## Span contexts -/

/-- `trace.TraceID`, 16 bytes with the highest one first. -/
abbrev TraceID := BitVec 128

/-- `trace.SpanID`, 8 bytes with the highest one first. -/
abbrev SpanID := BitVec 64

/-- `trace.FlagsSampled`. -/
def flagsSampled : UInt8 := 1

structure SpanContext where
  traceID : TraceID
  spanID : SpanID
  traceFlags : UInt8
  remote : Bool
  deriving DecidableEq, Repr

def SpanContext.IsSampled (c : SpanContext) : Prop :=
  c.traceFlags &&& flagsSampled = flagsSampled

instance (c : SpanContext) : Decidable c.IsSampled :=
  inferInstanceAs (Decidable (_ = flagsSampled))

/-- The readers of identifiers. -/
structure Otel where
  traceIDFromHex : Bytes → Except String TraceID
  spanIDFromHex : Bytes → Except String SpanID

variable (otel : Otel)

def dash : UInt8 := 45

def constructNewSpanContextFromTraceparent (traceparent : Bytes) : Except String SpanContext :=
  match traceparent.splitOn dash with
  | [_, trace, span, flags] =>
      match otel.traceIDFromHex trace with
      | .error err => .error ("invalid trace ID: " ++ err)
      | .ok traceID =>
          match otel.spanIDFromHex span with
          | .error err => .error ("invalid span ID: " ++ err)
          | .ok spanID =>
              .ok ⟨traceID, spanID, if flags = bytes "01" then flagsSampled else 0, true⟩
  | _ => .error "invalid traceparent format"

/-! ## The format -/

/-- Lower-case hexadecimal digits of this number, not all of them zero. -/
def IsId (n : Nat) (s : Bytes) : Prop := s.length = n ∧ IsHex s ∧ ∃ b ∈ s, b ≠ 48

instance (n : Nat) (s : Bytes) : Decidable (IsId n s) :=
  inferInstanceAs (Decidable (_ ∧ _ ∧ _))

/-- Two lower-case hexadecimal digits. -/
def IsFlags (s : Bytes) : Prop := s.length = 2 ∧ IsHex s

instance (s : Bytes) : Decidable (IsFlags s) := inferInstanceAs (Decidable (_ ∧ _))

/-- A header of version 00 with these parts. -/
structure IsTraceparent (s trace span flags : Bytes) : Prop where
  layout : s = [dash].intercalate [bytes "00", trace, span, flags]
  trace : IsId 32 trace
  span : IsId 16 span
  flags : IsFlags flags

/-- OpenTelemetry accepts exactly the identifiers and reads them as the numbers they denote. -/
structure Otel.HexIds : Prop where
  trace : ∀ s id, otel.traceIDFromHex s = .ok id ↔ IsId 32 s ∧ id = BitVec.ofNat 128 (hexValue s)
  span : ∀ s id, otel.spanIDFromHex s = .ok id ↔ IsId 16 s ∧ id = BitVec.ofNat 64 (hexValue s)

/-- The parser agrees with the format about a string: it accepts it exactly if it is a header
of version 00, and returns its identifiers and the lowest bit of its flags. -/
structure Agrees (s : Bytes) : Prop where
  accepts : (∃ c, constructNewSpanContextFromTraceparent otel s = .ok c) ↔
    ∃ trace span flags, IsTraceparent s trace span flags
  returns : ∀ c trace span flags,
    constructNewSpanContextFromTraceparent otel s = .ok c → IsTraceparent s trace span flags →
      c.traceID = BitVec.ofNat 128 (hexValue trace) ∧ c.spanID = BitVec.ofNat 64 (hexValue span) ∧
        (c.IsSampled ↔ (hexValue flags).testBit 0)

/-- What the parser makes of the parts of a header. -/
def contextOf (trace span flags : Bytes) : SpanContext :=
  ⟨BitVec.ofNat 128 (hexValue trace), BitVec.ofNat 64 (hexValue span),
    if flags = bytes "01" then flagsSampled else 0, true⟩

theorem isSampled_contextOf (trace span flags : Bytes) :
    (contextOf trace span flags).IsSampled ↔ flags = bytes "01" := by
  show (if flags = bytes "01" then flagsSampled else 0) &&& flagsSampled = flagsSampled ↔ _
  split_ifs with sampled
  · exact iff_of_true (by decide) sampled
  · exact iff_of_false (by decide) sampled

theorem IsHex.dash_not_mem {s : Bytes} (hex : IsHex s) : dash ∉ s := hex.not_mem (by decide)

theorem IsTraceparent.splitOn {s trace span flags : Bytes}
    (header : IsTraceparent s trace span flags) :
    s.splitOn dash = [bytes "00", trace, span, flags] := by
  rw [header.layout]
  refine List.splitOn_intercalate dash ?_ (by simp)
  intro part mem
  simp only [List.mem_cons, List.not_mem_nil, or_false] at mem
  obtain rfl | rfl | rfl | rfl := mem
  · decide
  · exact IsHex.dash_not_mem header.trace.2.1
  · exact IsHex.dash_not_mem header.span.2.1
  · exact IsHex.dash_not_mem header.flags.2

/-- The parts of a header are those that it is cut into. -/
theorem IsTraceparent.eq_of_splitOn {s trace span flags version trace' span' flags' : Bytes}
    (header : IsTraceparent s trace span flags)
    (parts : s.splitOn dash = [version, trace', span', flags']) :
    version = bytes "00" ∧ trace' = trace ∧ span' = span ∧ flags' = flags := by
  simpa using parts.symm.trans header.splitOn

variable {otel}

theorem construct_ok_iff (ids : otel.HexIds) {s : Bytes} {c : SpanContext} :
    constructNewSpanContextFromTraceparent otel s = .ok c ↔
      ∃ version trace span flags, s.splitOn dash = [version, trace, span, flags] ∧
        IsId 32 trace ∧ IsId 16 span ∧ c = contextOf trace span flags := by
  constructor
  · intro accepted
    rw [constructNewSpanContextFromTraceparent] at accepted
    split at accepted
    · next version trace span flags parts =>
        split at accepted
        · cases accepted
        · next traceID readTrace =>
            split at accepted
            · cases accepted
            · next spanID readSpan =>
                obtain ⟨isTrace, rfl⟩ := (ids.trace _ _).mp readTrace
                obtain ⟨isSpan, rfl⟩ := (ids.span _ _).mp readSpan
                exact ⟨version, trace, span, flags, parts, isTrace, isSpan,
                  (Except.ok.inj accepted).symm⟩
    · cases accepted
  · rintro ⟨version, trace, span, flags, parts, isTrace, isSpan, rfl⟩
    rw [constructNewSpanContextFromTraceparent, parts]
    simp only [(ids.trace trace _).mpr ⟨isTrace, rfl⟩, (ids.span span _).mpr ⟨isSpan, rfl⟩]
    rfl

/-- Agreement leaves nothing but version 00 and flags whose lowest bit tells them from `01`. -/
theorem Agrees.usual (ids : otel.HexIds) {s version trace span flags : Bytes}
    (agrees : Agrees otel s) (parts : s.splitOn dash = [version, trace, span, flags])
    (isTrace : IsId 32 trace) (isSpan : IsId 16 span) :
    version = bytes "00" ∧ IsFlags flags ∧
      (flags = bytes "01" ∨ (hexValue flags).testBit 0 = false) := by
  have accepted := (construct_ok_iff ids).mpr
    ⟨version, trace, span, flags, parts, isTrace, isSpan, rfl⟩
  obtain ⟨trace', span', flags', header⟩ := agrees.accepts.mp ⟨_, accepted⟩
  obtain ⟨rfl, rfl, rfl, rfl⟩ := header.eq_of_splitOn parts
  have sampled := (agrees.returns _ _ _ _ accepted header).2.2
  rw [isSampled_contextOf] at sampled
  refine ⟨rfl, header.flags, ?_⟩
  rw [sampled]
  exact Bool.eq_false_or_eq_true _

/-- The parser agrees with the format about a string exactly if that does not have two
identifiers between any other version or flags, or flags with the lowest bit set that are not
`01`. -/
theorem traceparent_agrees_iff (ids : otel.HexIds) (s : Bytes) :
    Agrees otel s ↔
      ∀ version trace span flags, s.splitOn dash = [version, trace, span, flags] →
        IsId 32 trace → IsId 16 span →
          version = bytes "00" ∧ IsFlags flags ∧
            (flags = bytes "01" ∨ (hexValue flags).testBit 0 = false) := by
  constructor
  · intro agrees version trace span flags parts isTrace isSpan
    exact agrees.usual ids parts isTrace isSpan
  · intro usual
    have header : ∀ version trace span flags, s.splitOn dash = [version, trace, span, flags] →
        IsId 32 trace → IsId 16 span → IsTraceparent s trace span flags := by
      intro version trace span flags parts isTrace isSpan
      obtain ⟨rfl, isFlags, -⟩ := usual version trace span flags parts isTrace isSpan
      exact ⟨parts ▸ (List.intercalate_splitOn dash).symm, isTrace, isSpan, isFlags⟩
    refine ⟨⟨?_, ?_⟩, ?_⟩
    · rintro ⟨c, accepted⟩
      obtain ⟨version, trace, span, flags, parts, isTrace, isSpan, -⟩ :=
        (construct_ok_iff ids).mp accepted
      exact ⟨trace, span, flags, header version trace span flags parts isTrace isSpan⟩
    · rintro ⟨trace, span, flags, isHeader⟩
      exact ⟨_, (construct_ok_iff ids).mpr
        ⟨_, trace, span, flags, isHeader.splitOn, isHeader.trace, isHeader.span, rfl⟩⟩
    · intro c trace span flags accepted isHeader
      obtain ⟨version, trace', span', flags', parts, isTrace, isSpan, rfl⟩ :=
        (construct_ok_iff ids).mp accepted
      obtain ⟨-, rfl, rfl, rfl⟩ := isHeader.eq_of_splitOn parts
      obtain ⟨-, -, flagsUsual⟩ := usual version _ _ _ parts isTrace isSpan
      refine ⟨rfl, rfl, ?_⟩
      rw [isSampled_contextOf]
      obtain rfl | unset := flagsUsual
      · exact iff_of_true rfl (by decide)
      · refine iff_of_false ?_ (by simp [unset])
        rintro rfl
        exact absurd unset (by decide)

/-- Readers as they are assumed. -/
def hexOtel : Otel where
  traceIDFromHex s :=
    if IsId 32 s then .ok (BitVec.ofNat 128 (hexValue s))
    else .error "hex encoded trace-id must have length equals to 32 and not be all zero"
  spanIDFromHex s :=
    if IsId 16 s then .ok (BitVec.ofNat 64 (hexValue s))
    else .error "hex encoded span-id must have length equals to 16 and not be all zero"

theorem hexOtel_hexIds : hexOtel.HexIds where
  trace s id := by
    show (if IsId 32 s then _ else _) = _ ↔ _
    split_ifs with isId <;> simp [isId, eq_comm]
  span s id := by
    show (if IsId 16 s then _ else _) = _ ↔ _
    split_ifs with isId <;> simp [isId, eq_comm]

/-- A header with these first and last parts. -/
def sampleHeader (version flags : String) : Bytes :=
  bytes (version ++ "-4bf92f3577b34da6a3ce929d0e0e4736-00f067aa0ba902b7-" ++ flags)

def sampleParts (version flags : String) : List Bytes :=
  [bytes version, bytes "4bf92f3577b34da6a3ce929d0e0e4736", bytes "00f067aa0ba902b7", bytes flags]

theorem traceparent_agrees_iff_sampled :
    hexOtel.HexIds ∧ Agrees hexOtel (sampleHeader "00" "01") := by
  refine ⟨hexOtel_hexIds, (traceparent_agrees_iff hexOtel_hexIds _).mpr ?_⟩
  intro version trace span flags parts isTrace isSpan
  have cut : (sampleHeader "00" "01").splitOn dash = sampleParts "00" "01" := by decide
  obtain ⟨rfl, -, -, rfl⟩ : bytes "00" = version ∧ _ = trace ∧ _ = span ∧ bytes "01" = flags := by
    simpa [sampleParts] using cut.symm.trans parts
  exact ⟨rfl, by decide, .inl rfl⟩

def sampleContext : SpanContext :=
  ⟨0x4bf92f3577b34da6a3ce929d0e0e4736#128, 0x00f067aa0ba902b7#64, 0, true⟩

/-- The forbidden version and flags that are no digits are accepted, and flags with one more
bit than the lowest one are read as not sampled. -/
theorem traceparent_accepts_other_headers :
    (∀ header ∈ [sampleHeader "ff" "00", sampleHeader "00" "zz", sampleHeader "00" "03"],
        (constructNewSpanContextFromTraceparent hexOtel header).toOption = some sampleContext) ∧
      ¬sampleContext.IsSampled ∧
      ¬Agrees hexOtel (sampleHeader "ff" "00") ∧ ¬Agrees hexOtel (sampleHeader "00" "zz") ∧
      ¬Agrees hexOtel (sampleHeader "00" "03") := by
  have version : (sampleHeader "ff" "00").splitOn dash = sampleParts "ff" "00" := by decide
  have letters : (sampleHeader "00" "zz").splitOn dash = sampleParts "00" "zz" := by decide
  have twoBits : (sampleHeader "00" "03").splitOn dash = sampleParts "00" "03" := by decide
  refine ⟨by decide, by decide, fun agrees => ?_, fun agrees => ?_, fun agrees => ?_⟩
  · have usual := agrees.usual hexOtel_hexIds version (by decide) (by decide)
    exact absurd usual.1 (by decide)
  · have usual := agrees.usual hexOtel_hexIds letters (by decide) (by decide)
    exact absurd usual.2.1 (by decide)
  · have usual := agrees.usual hexOtel_hexIds twoBits (by decide) (by decide)
    exact absurd usual.2.2 (by decide)

/-! ## Starting a span -/

/-- `TraceContextRequest`, without the span context that nothing sets. -/
structure TraceContextRequest (Ctx : Type) where
  traceName : String
  spanName : String
  otelCtx : Ctx
  traceparent : Bytes

/-- Contexts and the tracers that start spans in them. -/
structure Tracing (Ctx Span : Type) where
  contextWithSpanContext : Ctx → SpanContext → Ctx
  start : String → Ctx → String → Ctx × Span

variable {Ctx Span : Type} (otel) (tracing : Tracing Ctx Span)

/-- `Build`: the context and the span, what is printed, and the request as it is left. -/
def TraceContextRequest.build (t : TraceContextRequest Ctx) :
    (Ctx × Span) × List String × TraceContextRequest Ctx :=
  if t.traceparent = [] then (tracing.start t.traceName t.otelCtx t.spanName, [], t)
  else
    match constructNewSpanContextFromTraceparent otel t.traceparent with
    | .error err =>
        (tracing.start t.traceName t.otelCtx t.spanName, ["Error parsing traceparent: " ++ err], t)
    | .ok c =>
        let t := { t with otelCtx := tracing.contextWithSpanContext t.otelCtx c }
        (tracing.start t.traceName t.otelCtx t.spanName, [], t)

/-- The span is started under the parent of the header if that is accepted, and otherwise in
the context of the request; the test for an empty header makes no difference to this. -/
theorem TraceContextRequest.build_span (t : TraceContextRequest Ctx) :
    (t.build otel tracing).1 =
      tracing.start t.traceName
        ((constructNewSpanContextFromTraceparent otel t.traceparent).toOption.elim t.otelCtx
          (tracing.contextWithSpanContext t.otelCtx)) t.spanName := by
  rw [build]
  split_ifs with empty
  · rw [empty]
    rfl
  · cases constructNewSpanContextFromTraceparent otel t.traceparent <;> rfl

end GoOdin.Monitoring
