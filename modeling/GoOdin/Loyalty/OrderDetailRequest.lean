import GoOdin.Interaction.CircuitBreaker
import GoOdin.Interaction.Run
import GoOdin.Numeric.Binary64
import GoOdin.Orders.OrderDetailListener

/-!
# `OrderDetailRequestImpl`: lookups through a circuit breaker

The loyalty context asks the orders context for an order over NATS. The listener does not
answer for an order that it does not find, so such a lookup times out like one that is lost
on the way, and counts as a failure: the breaker guards against unknown orders as much as
against an outage.

The ratio of failures is computed in double precision; the test is exact all the same.

The breaker is that of a package outside this repository, so it is any breaker here. What is said
about calls that overlap holds whatever it does. Only to say which lookups are answered, it is
taken to count and to open as its laws have it.
-/

namespace GoOdin

open CircuitBreaker Orders

/-! ## The breakers of the two clients -/

/-- `float64(c.TotalFailures) / float64(c.Requests)`, for a positive number of requests. Both
conversions are exact. -/
def failureRatio (c : Counts) : ℚ := Binary64.div c.totalFailures.toNat c.requests.toNat

/-- The constant 0.6 as a double. -/
def threshold : ℚ := Binary64.round ((3 : ℕ) / (5 : ℕ))

namespace Loyalty.OrderDetailRequestImpl

def readyToTrip (c : Counts) : Bool :=
  if c.requests < 3 then false else threshold ≤ failureRatio c

/-- `MaxRequests` is about the time after the timeout, and nothing here depends on it. -/
def settings : Settings where
  timeout := 3 * 10 ^ 9
  readyToTrip := readyToTrip

end Loyalty.OrderDetailRequestImpl

/-- The test of the client for customers in the orders context. Without any request the ratio
is not a number, and the test does not come to look at it. -/
def Orders.CustomerDetailRequestImpl.readyToTrip (counts : Counts) : Bool :=
  3 ≤ counts.requests && threshold ≤ failureRatio counts

namespace Loyalty

theorem threshold_le_failureRatio_iff {c : Counts} (some : 3 ≤ c.requests) :
    threshold ≤ failureRatio c ↔ 3 * c.requests.toNat ≤ 5 * c.totalFailures.toNat := by
  have positive : 3 ≤ c.requests.toNat := UInt32.le_iff_toNat_le.mp some
  have requests := c.requests.toNat_lt
  have failures := c.totalFailures.toNat_lt
  rw [threshold, failureRatio, Binary64.round_le_div_iff (by omega) (by omega) (by omega)]
  omega

theorem OrderDetailRequestImpl.readyToTrip_eq_true_iff (c : Counts) :
    readyToTrip c = true ↔
      3 ≤ c.requests.toNat ∧ 3 * c.requests.toNat ≤ 5 * c.totalFailures.toNat := by
  have few : c.requests < 3 ↔ c.requests.toNat < 3 := UInt32.lt_iff_toNat_lt
  rw [readyToTrip]
  split
  · next small =>
      rw [few] at small
      exact iff_of_false Bool.false_ne_true (by omega)
  · next enough =>
      have some : 3 ≤ c.requests := UInt32.not_lt.mp enough
      rw [decide_eq_true_eq, threshold_le_failureRatio_iff some]
      rw [few] at enough
      omega

/-- For all counts, both clients trip exactly at three requests or more of which at least
three fifths have failed: rounding never decides. -/
theorem breakers_trip_iff (c : Counts) :
    (OrderDetailRequestImpl.readyToTrip c = true ↔
      3 ≤ c.requests.toNat ∧ 3 * c.requests.toNat ≤ 5 * c.totalFailures.toNat) ∧
    CustomerDetailRequestImpl.readyToTrip c = OrderDetailRequestImpl.readyToTrip c := by
  refine ⟨OrderDetailRequestImpl.readyToTrip_eq_true_iff c, ?_⟩
  rw [CustomerDetailRequestImpl.readyToTrip, OrderDetailRequestImpl.readyToTrip]
  by_cases few : c.requests < 3
  · have not : ¬ 3 ≤ c.requests := UInt32.not_le.mpr few
    simp [few, not]
  · have some : 3 ≤ c.requests := UInt32.not_lt.mp few
    simp [few, some]

/-! ## Lookups -/

/-- `dto.OrderDetail`. -/
structure OrderDetail where
  orderID : String
  customerName : String
  totalAmount : Float
  status : String

/-- An error of `infra.Request`. -/
inductive NatsError where
  | timeout
  | other (msg : String)
  deriving DecidableEq, Repr

/-- What becomes of a request: the listener gets it and looks into its tables, or it fails
for another reason. -/
inductive Delivery where
  | handled (repo : Tables)
  | failed (err : NatsError)

/-- `infra.Request`. A listener that does not answer makes it time out. -/
def Delivery.request (delivery : Delivery) (data : MsgData) : Except NatsError MsgData :=
  match delivery with
  | .failed err => .error err
  | .handled repo =>
      match OrderDetailListenerImpl.onMessage repo data with
      | none => .error .timeout
      | some reply => .ok reply

/-- An error of `GetOrderDetail`, with those of the breaker. -/
inductive LookupError (ε : Type) where
  | refused (refusal : ε)
  | request (err : NatsError)
  /-- The reply is no document of the expected form. -/
  | reply
  deriving DecidableEq, Repr

namespace OrderDetailRequestImpl

variable {S T ε : Type}

def decodeField (wire : OrderDetailReplyWire) (entry : String × Json) :
    Except UnmarshalTypeError OrderDetailReplyWire :=
  match entry.1 with
  | "order_id" => do return { wire with orderID := ← decodeString entry.1 wire.orderID entry.2 }
  | "customer_name" => do
      return { wire with customerName := ← decodeString entry.1 wire.customerName entry.2 }
  | "total_amount" => do
      return { wire with totalAmount := ← decodeFloat entry.1 wire.totalAmount entry.2 }
  | "status" => do return { wire with status := ← decodeString entry.1 wire.status entry.2 }
  | _ => .ok wire

def unmarshal : MsgData → Option OrderDetailReplyWire
  | none => none
  | some .null => some ⟨"", "", 0, ""⟩
  | some (.obj fields) => (fields.foldlM decodeField ⟨"", "", 0, ""⟩).toOption
  | some _ => none

/-- The request; its encoding cannot fail. -/
def payload (orderID : String) : MsgData := some (.obj [("order_id", .str orderID)])

/-- What `GetOrderDetail` makes of the reply. -/
def translate (msg : MsgData) : Except (LookupError ε) OrderDetail :=
  match unmarshal msg with
  | none => .error .reply
  | some wire => .ok ⟨wire.orderID, wire.customerName, wire.totalAmount, wire.status⟩

/-- One call of `GetOrderDetail`, from when to when it runs and what becomes of its request. -/
structure Lookup where
  orderID : String
  delivery : Delivery
  started : Nat
  ended : Nat

/-- `GetOrderDetail` while no other call is running. -/
def getOrderDetail (b : Breaker S T ε) (cb : S) (l : Lookup) :
    Except (LookupError ε) OrderDetail × S :=
  match b.execute cb l.started l.ended (l.delivery.request (payload l.orderID)) with
  | (.error (.inl refusal), cb) => (.error (.refused refusal), cb)
  | (.error (.inr err), cb) => (.error (.request err), cb)
  | (.ok msg, cb) => (translate msg, cb)

/-- Calls one after another. -/
def lookups (b : Breaker S T ε) : S → List Lookup → List (Except (LookupError ε) OrderDetail)
  | _, [] => []
  | cb, l :: rest => (getOrderDetail b cb l).1 :: lookups b (getOrderDetail b cb l).2 rest

/-! ## Which lookups are answered -/

/-- What the tables answer. An amount that JSON has no number for makes an empty reply. -/
def Lookup.answer (l : Lookup) : Except (LookupError ε) OrderDetail :=
  match l.delivery with
  | .failed err => .error (.request err)
  | .handled repo =>
      match repo.orders.find l.orderID with
      | none => .error (.request .timeout)
      | some row =>
          if row.totalAmount.isNaN || row.totalAmount.isInf then .error .reply
          else .ok ⟨row.id, row.customerName, row.totalAmount, row.status⟩

/-- The request fails, because it is not delivered or because the order is not found. -/
def Lookup.fails (l : Lookup) : Bool :=
  match l.delivery with
  | .failed _ => true
  | .handled repo => (repo.orders.find l.orderID).isNone

theorem onMessage_payload (repo : Tables) (orderID : String) :
    OrderDetailListenerImpl.onMessage repo (payload orderID) =
      (repo.orders.find orderID).map fun row =>
        (OrderDetailReplyWire.marshal
          ⟨row.id, row.customerName, row.totalAmount, row.status⟩).toOption := by
  have decoded : OrderDetailRequestWire.unmarshal (payload orderID) = some ⟨orderID⟩ := rfl
  rw [OrderDetailListenerImpl.onMessage, decoded]
  simp only [OrderGormRepository.findByID]
  cases repo.orders.find orderID <;> rfl

theorem translate_marshal (reply : OrderDetailReplyWire) :
    translate (ε := ε) reply.marshal.toOption =
      if reply.totalAmount.isNaN || reply.totalAmount.isInf then .error .reply
      else .ok ⟨reply.orderID, reply.customerName, reply.totalAmount, reply.status⟩ := by
  rw [OrderDetailReplyWire.marshal, marshalFloat]
  split <;> rfl

/-- The reply that comes back says what the tables say. -/
theorem request_cases (ε : Type) (l : Lookup) :
    (l.fails = true ∧ ∃ err, l.delivery.request (payload l.orderID) = .error err ∧
        l.answer (ε := ε) = .error (.request err)) ∨
      (l.fails = false ∧ ∃ msg, l.delivery.request (payload l.orderID) = .ok msg ∧
        l.answer (ε := ε) = translate msg) := by
  obtain ⟨orderID, delivery, started, ended⟩ := l
  cases delivery with
  | failed err => exact .inl ⟨rfl, err, rfl, rfl⟩
  | handled repo =>
      have reply := onMessage_payload repo orderID
      cases found : repo.orders.find orderID with
      | none =>
          refine .inl ⟨?_, .timeout, ?_, ?_⟩
          · simp [Lookup.fails, found]
          · simp [Delivery.request, reply, found]
          · simp [Lookup.answer, found]
      | some row =>
          refine .inr ⟨?_, (OrderDetailReplyWire.marshal
            ⟨row.id, row.customerName, row.totalAmount, row.status⟩).toOption, ?_, ?_⟩
          · simp [Lookup.fails, found]
          · simp [Delivery.request, reply, found]
          · rw [translate_marshal]
            simp [Lookup.answer, found]

theorem translate_cases (msg : MsgData) :
    translate (ε := ε) msg = .error .reply ∨ ∃ detail, translate (ε := ε) msg = .ok detail := by
  rw [translate]
  split
  · exact .inl rfl
  · exact .inr ⟨_, rfl⟩

theorem answer_ne_refused (l : Lookup) (refusal : ε) : l.answer ≠ .error (.refused refusal) := by
  obtain ⟨-, err, -, answer⟩ | ⟨-, msg, -, answer⟩ := request_cases ε l
  · rw [answer]
    exact nofun
  · obtain undecoded | ⟨detail, decoded⟩ := translate_cases (ε := ε) msg
    · rw [answer, undecoded]
      exact nofun
    · rw [answer, decoded]
      exact nofun

section Lawful

variable {b : Breaker S T ε} {closed : S → Nat → Nat → Prop} {opened : S → Nat → Prop} {cb : S}
  {n f : Nat}

/-- A closed breaker passes on what the tables answer, and counts a failure if the request
fails. -/
theorem getOrderDetail_closed (laws : b.Laws settings closed opened) (isClosed : closed cb n f)
    (room : n + 1 < 2 ^ 32) (l : Lookup) :
    (getOrderDetail b cb l).1 = l.answer ∧
      if l.fails = false then closed (getOrderDetail b cb l).2 (n + 1) f
      else ∃ counts : Counts,
        counts.requests.toNat = n + 1 ∧ counts.totalFailures.toNat = f + 1 ∧
        if readyToTrip counts = true then
          opened (getOrderDetail b cb l).2 (l.ended + settings.timeout)
        else closed (getOrderDetail b cb l).2 (n + 1) (f + 1) := by
  obtain ⟨passed, next⟩ := laws.execute_closed isClosed room l.started l.ended
    (l.delivery.request (payload l.orderID))
  have result : getOrderDetail b cb l =
      ((match l.delivery.request (payload l.orderID) with
        | .error err => .error (.request err)
        | .ok msg => translate msg),
        (b.execute cb l.started l.ended (l.delivery.request (payload l.orderID))).2) := by
    rw [getOrderDetail]
    revert passed
    cases b.execute cb l.started l.ended (l.delivery.request (payload l.orderID)) with
    | mk outcome cb' =>
        rintro rfl
        cases l.delivery.request (payload l.orderID) <;> rfl
  rw [result]
  obtain ⟨fails, err, request, answer⟩ | ⟨fails, msg, request, answer⟩ := request_cases ε l
  · rw [request] at next ⊢
    rw [answer, fails]
    exact ⟨rfl, next⟩
  · rw [request] at next ⊢
    rw [answer, fails]
    exact ⟨rfl, next⟩

theorem getOrderDetail_opened (laws : b.Laws settings closed opened) {expiry : Nat}
    (isOpen : opened cb expiry) {l : Lookup} (early : l.started ≤ expiry) :
    ∃ refusal, (getOrderDetail b cb l).1 = .error (.refused refusal) := by
  obtain ⟨refusal, refused⟩ := laws.execute_opened isOpen early l.ended
    (l.delivery.request (payload l.orderID))
  refine ⟨refusal, ?_⟩
  rw [getOrderDetail]
  revert refused
  cases b.execute cb l.started l.ended (l.delivery.request (payload l.orderID)) with
  | mk outcome cb' =>
      rintro rfl
      rfl

/-- The breaker trips on the last of these lookups if it has not tripped before. -/
def Trips (done : List Lookup) : Prop :=
  3 ≤ done.length ∧ 3 * done.length ≤ 5 * done.countP (·.fails) ∧
    ∃ last ∈ done.getLast?, last.fails = true

variable {done : List Lookup}

theorem trips_concat_iff (done : List Lookup) (l : Lookup) :
    Trips (done ++ [l]) ↔ l.fails = true ∧ 3 ≤ done.length + 1 ∧
      3 * (done.length + 1) ≤ 5 * (done.countP (·.fails) + 1) := by
  rw [Trips, List.length_append, List.countP_append, List.getLast?_concat]
  cases fails : l.fails with
  | true => simp [fails, and_comm]
  | false => simp [fails]

/-- A closed breaker that has counted these lookups. -/
def Counted (closed : S → Nat → Nat → Prop) (cb : S) (done : List Lookup) : Prop :=
  closed cb done.length (done.countP (·.fails))

/-- A lookup that is answered is counted, or opens the breaker. -/
theorem Counted.next (laws : b.Laws settings closed opened) (counted : Counted closed cb done)
    (small : done.length + 1 < 2 ^ 32) (l : Lookup) :
    (¬ Trips (done ++ [l]) ∧ Counted closed (getOrderDetail b cb l).2 (done ++ [l])) ∨
      (Trips (done ++ [l]) ∧
        opened (getOrderDetail b cb l).2 (l.ended + settings.timeout)) := by
  have next := (getOrderDetail_closed laws counted small l).2
  rw [trips_concat_iff, Counted, List.length_append, List.countP_append, List.countP_singleton,
    List.length_singleton]
  cases fails : l.fails with
  | false =>
      rw [if_pos fails] at next
      exact .inl ⟨nofun, next⟩
  | true =>
      rw [if_neg (by rw [fails]; exact nofun)] at next
      obtain ⟨counts, requests, failures, next⟩ := next
      have trips := readyToTrip_eq_true_iff counts
      rw [requests, failures] at trips
      by_cases tripped : readyToTrip counts = true
      · rw [if_pos tripped] at next
        exact .inr ⟨⟨rfl, trips.mp tripped⟩, next⟩
      · rw [if_neg tripped] at next
        exact .inl ⟨fun trip => tripped (trips.mpr trip.2), next⟩

theorem forall_proper_prefix_cons_iff {α : Type*} {P : List α → Prop} {a : α} {rest : List α} :
    (∀ front, front <+: a :: rest → front ≠ a :: rest → P front) ↔
      P [] ∧ ∀ front, front <+: rest → front ≠ rest → P (a :: front) := by
  constructor
  · intro all
    refine ⟨all [] List.nil_prefix nofun, fun front isPrefix proper => ?_⟩
    exact all (a :: front) ((List.prefix_cons_inj a).mpr isPrefix)
      fun same => proper (List.cons.inj same).2
  · rintro ⟨empty, all⟩ front isPrefix proper
    cases front with
    | nil => exact empty
    | cons first front =>
        obtain ⟨rfl, shorter⟩ := List.cons_prefix_cons.mp isPrefix
        exact all front shorter fun same => proper (congrArg _ same)

/-- The lookups that are left after some have been made and none of them opened the breaker. -/
theorem lookups_counted_iff (laws : b.Laws settings closed opened)
    (counted : Counted closed cb done) (fine : ¬ Trips done)
    {rest : List Lookup} (small : (done ++ rest).length < 2 ^ 32)
    (prompt : rest.IsChain fun earlier later => later.started ≤ earlier.ended + settings.timeout) :
    lookups b cb rest = rest.map (·.answer) ↔
      ∀ front, front <+: rest → front ≠ rest → ¬ Trips (done ++ front) := by
  induction rest generalizing cb done with
  | nil =>
      refine iff_of_true rfl fun front isPrefix proper => ?_
      exact absurd (List.prefix_nil.mp isPrefix) proper
  | cons l rest ih =>
      have room : done.length + 1 < 2 ^ 32 := by
        rw [List.length_append, List.length_cons] at small
        omega
      have answered : (getOrderDetail b cb l).1 = l.answer :=
        (getOrderDetail_closed laws counted room l).1
      rw [lookups, List.map_cons, answered, List.cons_inj_right, forall_proper_prefix_cons_iff,
        List.append_nil, and_iff_right fine]
      rw [List.append_cons] at small
      suffices lookups b (getOrderDetail b cb l).2 rest = rest.map (·.answer) ↔
          ∀ front, front <+: rest → front ≠ rest → ¬ Trips (done ++ [l] ++ front) by
        simpa only [List.append_assoc, List.singleton_append] using this
      obtain ⟨stays, counted⟩ | ⟨trips, isOpen⟩ := Counted.next laws counted room l
      · exact ih counted stays small prompt.tail
      · cases rest with
        | nil =>
            refine iff_of_true rfl fun front isPrefix proper => ?_
            exact absurd (List.prefix_nil.mp isPrefix) proper
        | cons second rest =>
            -- The second lookup comes before the timeout is over, and is refused.
            have early := (List.isChain_cons_cons.mp prompt).1
            refine iff_of_false (fun same => ?_) fun all => ?_
            · obtain ⟨refusal, refused⟩ := getOrderDetail_opened laws isOpen early
              exact answer_ne_refused second refusal ((List.cons.inj same).1.symm.trans refused)
            · refine all [] List.nil_prefix nofun ?_
              rwa [List.append_nil]

/-- With any breaker that counts and opens by these laws: a new client that makes lookups one
after another, none of them later than three seconds after the one before, gets what the tables
say from all of them exactly if no beginning of them ends with a failure and has three lookups or
more of which three fifths fail. -/
theorem lookups_answered_iff (laws : b.Laws settings closed opened) {ls : List Lookup}
    (small : ls.length < 2 ^ 32)
    (prompt : ls.IsChain fun earlier later => later.started ≤ earlier.ended + 3 * 10 ^ 9) :
    lookups b b.new ls = ls.map (·.answer) ↔
      ∀ front, front <+: ls → front ≠ ls →
        ¬ (3 ≤ front.length ∧ 3 * front.length ≤ 5 * front.countP (·.fails) ∧
          ∃ last ∈ front.getLast?, last.fails = true) := by
  have start : Counted closed b.new [] := laws.new
  have fine : ¬ Trips [] := fun trips => absurd trips.1 (by decide)
  exact lookups_counted_iff laws start fine small prompt

end Lawful

/-- Three lookups while nobody listens, on a breaker with these laws: the fourth is refused. -/
theorem lookups_answered_iff_four :
    let lost (orderID : String) (now : Nat) : Lookup :=
      ⟨orderID, .failed (.other "nats: no responders available for request"), now, now + 1⟩
    let ls := [lost "a" 0, lost "b" 1, lost "c" 2, lost "d" 3]
    lookups (Latch.breaker settings) (.closed 0 0) ls ≠ ls.map (·.answer) := by
  intro lost ls
  refine (lookups_answered_iff (Latch.laws settings) (by decide) (by simp [ls, lost])).not.mpr ?_
  intro fine
  refine fine [lost "a" 0, lost "b" 1, lost "c" 2] ⟨[lost "d" 3], rfl⟩ (by simp [ls]) ?_
  exact ⟨by decide, by decide, lost "c" 2, rfl, rfl⟩

/-! ## Lookups that overlap -/

/-- A call of `GetOrderDetail` that waits for its reply. -/
structure Waiting (T : Type) where
  number : Nat
  orderID : String
  ticket : T

/-- A call that has returned. -/
structure Returned (ε : Type) where
  number : Nat
  orderID : String
  result : Except (LookupError ε) OrderDetail

/-- What the breaker is told about a call. -/
structure Told (T : Type) where
  number : Nat
  ticket : T
  success : Bool

/-- Calls of `GetOrderDetail` from many goroutines on one client. They are numbered in the order
in which they come to the breaker. -/
structure Client (S T ε : Type) where
  cb : S
  calls : Nat
  waiting : List (Waiting T)
  returned : List (Returned ε)
  /-- The tickets that the breaker gave out, each with the call it gave it to. -/
  admitted : List (Nat × T)
  told : List (Told T)

/-- A call comes to the breaker, or the request of a call ends. -/
inductive Label where
  | call (orderID : String) (now : Nat)
  | finish (k : Nat) (delivery : Delivery) (now : Nat)

/-- What a call returns when its request has ended. -/
def resultOf (reply : Except NatsError MsgData) : Except (LookupError ε) OrderDetail :=
  match reply with
  | .error err => .error (.request err)
  | .ok msg => translate msg

namespace Client

def new (b : Breaker S T ε) : Client S T ε := ⟨b.new, 0, [], [], [], []⟩

def step (b : Breaker S T ε) (s : Client S T ε) : Label → Client S T ε
  | .call orderID now =>
      match b.allow s.cb now with
      | (.ok ticket, cb) =>
          { s with
            cb
            calls := s.calls + 1
            waiting := s.waiting ++ [⟨s.calls, orderID, ticket⟩]
            admitted := s.admitted ++ [(s.calls, ticket)] }
      | (.error refusal, cb) =>
          { s with
            cb
            calls := s.calls + 1
            returned := s.returned ++ [⟨s.calls, orderID, .error (.refused refusal)⟩] }
  | .finish k delivery now =>
      match s.waiting[k]? with
      | none => s
      | some w =>
          let reply := delivery.request (payload w.orderID)
          { s with
            cb := b.report s.cb w.ticket now reply.toOption.isSome
            waiting := s.waiting.eraseIdx k
            returned := s.returned ++ [⟨w.number, w.orderID, resultOf reply⟩]
            told := s.told ++ [⟨w.number, w.ticket, reply.toOption.isSome⟩] }

end Client

/-- The orders that were asked for, in the order of the calls. -/
def asked (labels : List Label) : List String :=
  labels.filterMap fun
    | .call orderID _ => some orderID
    | .finish _ _ _ => none

/-- What a breaker is to be told of a call that returns so: nothing if it was refused, a failure
if there was no reply. -/
def outcome (r : Returned ε) : Option (Nat × Bool) :=
  match r.result with
  | .error (.refused _) => none
  | .error (.request _) => some (r.number, false)
  | _ => some (r.number, true)

/-- The details are those that a listener found for this order while the labels ran. -/
def FoundIn (labels : List Label) (orderID : String) (detail : OrderDetail) : Prop :=
  ∃ k repo now row, .finish k (.handled repo) now ∈ labels ∧
    repo.orders.find orderID = some row ∧ row.id = orderID ∧
    detail = ⟨row.id, row.customerName, row.totalAmount, row.status⟩

/-- What holds between the calls, the client and what the breaker was told. -/
structure Client.Sound (s : Client S T ε) (labels : List Label) : Prop where
  calls : s.calls = (asked labels).length
  /-- Every call waits or has returned, once. -/
  accounted : (s.waiting.map (fun w => (w.orderID, w.number)) ++
    s.returned.map fun r => (r.orderID, r.number)).Perm (asked labels).zipIdx
  /-- Every ticket is waiting or was reported, once, by the call it was given to. -/
  tickets : (s.waiting.map (fun w => (w.number, w.ticket)) ++
    s.told.map fun t => (t.number, t.ticket)).Perm s.admitted
  outcomes : s.told.map (fun t => (t.number, t.success)) = s.returned.filterMap outcome
  own : ∀ r ∈ s.returned, ∀ detail, r.result = .ok detail → FoundIn labels r.orderID detail

theorem asked_concat (labels : List Label) (label : Label) :
    asked (labels ++ [label]) = asked labels ++ asked [label] := List.filterMap_append

theorem FoundIn.concat {labels : List Label} {orderID : String} {detail : OrderDetail}
    (found : FoundIn labels orderID detail) (label : Label) :
    FoundIn (labels ++ [label]) orderID detail := by
  obtain ⟨k, repo, now, row, mem, rest⟩ := found
  exact ⟨k, repo, now, row, List.mem_append_left _ mem, rest⟩

/-- Details come from the row of the order that was asked for. -/
theorem foundIn_of_resultOf {orderID : String} {delivery : Delivery} {detail : OrderDetail}
    (ok : resultOf (ε := ε) (delivery.request (payload orderID)) = .ok detail)
    (labels : List Label) (k now : Nat) :
    FoundIn (labels ++ [.finish k delivery now]) orderID detail := by
  have answer : (Lookup.mk orderID delivery now now).answer (ε := ε) = .ok detail := by
    obtain ⟨-, err, request, answer⟩ | ⟨-, msg, request, answer⟩ :=
      request_cases ε ⟨orderID, delivery, now, now⟩
    · rw [show delivery.request (payload orderID) = _ from request] at ok
      cases ok
    · rw [show delivery.request (payload orderID) = _ from request] at ok
      exact answer.trans ok
  rw [Lookup.answer] at answer
  split at answer
  · cases answer
  · next repo isHandled =>
      obtain rfl : delivery = .handled repo := isHandled
      split at answer
      · cases answer
      · next row found =>
          split at answer
          · cases answer
          · cases answer
            exact ⟨k, repo, now, row, by simp, found, repo.orders.keyed _ row found, rfl⟩

/-- The reply of an admitted call is a failure for the breaker exactly if there was none. -/
theorem outcome_resultOf (number : Nat) (orderID : String) (reply : Except NatsError MsgData) :
    outcome (ε := ε) ⟨number, orderID, resultOf reply⟩ =
      some (number, reply.toOption.isSome) := by
  cases reply with
  | error err => rfl
  | ok msg =>
      obtain undecoded | ⟨detail, decoded⟩ := translate_cases (ε := ε) msg
      · simp [outcome, resultOf, undecoded]
        rfl
      · simp [outcome, resultOf, decoded]
        rfl

namespace Client

variable {b : Breaker S T ε} {s : Client S T ε} {labels : List Label}

/-- One more element in the first of two lists. -/
theorem perm_concat {α β : Type} {f : α → β} {l : List α} {rest whole : List β}
    (perm : (l.map f ++ rest).Perm whole) (a : α) :
    ((l ++ [a]).map f ++ rest).Perm (whole ++ [f a]) := by
  rw [List.map_append, List.append_assoc]
  refine (List.perm_append_comm_assoc _ _ _).trans ?_
  exact List.perm_append_comm.trans (perm.append_right _)

theorem Sound.call (sound : s.Sound labels) (orderID : String) (now : Nat) :
    (s.step b (.call orderID now)).Sound (labels ++ [.call orderID now]) := by
  have more : asked (labels ++ [.call orderID now]) = asked labels ++ [orderID] :=
    asked_concat labels _
  have calls : s.calls + 1 = (asked (labels ++ [.call orderID now])).length := by
    rw [more, List.length_append, sound.calls]
    rfl
  have numbered : (asked (labels ++ [.call orderID now])).zipIdx =
      (asked labels).zipIdx ++ [(orderID, s.calls)] := by
    rw [more, List.zipIdx_append, sound.calls]
    simp
  rw [step]
  split
  · next ticket cb _ =>
      refine ⟨calls, ?_, ?_, sound.outcomes, fun r mem detail ok => ?_⟩
      · rw [numbered]
        exact perm_concat sound.accounted ⟨s.calls, orderID, ticket⟩
      · exact perm_concat sound.tickets ⟨s.calls, orderID, ticket⟩
      · exact (sound.own r mem detail ok).concat _
  · next refusal cb _ =>
      refine ⟨calls, ?_, sound.tickets, ?_, fun r mem detail ok => ?_⟩
      · rw [numbered, List.map_append, ← List.append_assoc]
        exact sound.accounted.append_right _
      · rw [List.filterMap_append, sound.outcomes]
        exact (List.append_nil _).symm
      · obtain old | new := List.mem_append.mp mem
        · exact (sound.own r old detail ok).concat _
        · cases List.mem_singleton.mp new
          cases ok

/-- A list without the element at a position, and the element. -/
theorem perm_eraseIdx {α β : Type} {l : List α} {k : Nat} {a : α} (at_ : l[k]? = some a)
    (f : α → β) (rest : List β) :
    ((l.eraseIdx k).map f ++ (rest ++ [f a])).Perm (l.map f ++ rest) := by
  obtain ⟨bound, rfl⟩ := List.getElem?_eq_some_iff.mp at_
  have whole : (f l[k] :: (l.eraseIdx k).map f).Perm (l.map f) :=
    (List.getElem_cons_eraseIdx_perm bound).map f
  rw [← List.append_assoc]
  exact List.perm_append_comm.trans (whole.append_right rest)

theorem Sound.finish (sound : s.Sound labels) (k : Nat) (delivery : Delivery) (now : Nat) :
    (s.step b (.finish k delivery now)).Sound (labels ++ [.finish k delivery now]) := by
  have same : asked (labels ++ [.finish k delivery now]) = asked labels := by
    rw [asked_concat]
    exact List.append_nil _
  rw [step]
  split
  · exact ⟨same ▸ sound.calls, same ▸ sound.accounted, sound.tickets, sound.outcomes,
      fun r mem detail ok => (sound.own r mem detail ok).concat _⟩
  · next w at_ =>
      refine ⟨same ▸ sound.calls, ?_, ?_, ?_, fun r mem detail ok => ?_⟩
      · rw [same, List.map_append]
        exact (perm_eraseIdx at_ _ _).trans sound.accounted
      · rw [List.map_append]
        exact (perm_eraseIdx at_ _ _).trans sound.tickets
      · rw [List.map_append, List.filterMap_append, sound.outcomes, List.filterMap_cons,
          outcome_resultOf]
        rfl
      · obtain old | new := List.mem_append.mp mem
        · exact (sound.own r old detail ok).concat _
        · cases List.mem_singleton.mp new
          exact foundIn_of_resultOf ok labels k now

theorem sound_run (b : Breaker S T ε) (labels : List Label) :
    (Interaction.runFrom (step b) (new b) labels).Sound labels := by
  refine Interaction.runFrom_invariant (fun s past label sound => ?_) ?_ labels
  · cases label with
    | call orderID now => exact sound.call orderID now
    | finish k delivery now => exact sound.finish k delivery now
  · exact ⟨rfl, .refl _, .refl _, rfl, fun _ mem => absurd mem List.not_mem_nil⟩

end Client

end OrderDetailRequestImpl

end Loyalty

end GoOdin
