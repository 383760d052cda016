import GoOdin.Interaction.Run
import GoOdin.Loyalty.CreditRun

/-!
# `OnOrderCompletedHandler.Handle` and its deliveries

The event handler turns an order into a credit command and dispatches it on the
command bus. It acknowledges every message: an unexpected payload is dropped, and
every error of the command becomes a compensating `loyalty.account.credit_failed`
event, including the error that reports a replayed event.

A run is a list of deliveries, one after another. Each delivery carries its own
envelope, the values drawn while it is handled and the calls that fail in it, so
redelivery, reordering and outages are all runs.
-/

namespace GoOdin.Loyalty

open Interaction CreditLoyaltyHandler

def CreditLoyaltyRequest.commandName (_ : CreditLoyaltyRequest) : String :=
  "loyalty.credit_loyalty"

/-- The synchronous dispatcher, keyed by command name. -/
structure CommandBus where
  handlers : String → Option (CreditLoyaltyRequest → LoyaltyProgram CreditLoyaltyResponse)

namespace CommandBus

def empty : CommandBus := ⟨fun _ => none⟩

def register (bus : CommandBus) (name : String)
    (fn : CreditLoyaltyRequest → LoyaltyProgram CreditLoyaltyResponse) : CommandBus :=
  ⟨fun other => if other = name then some fn else bus.handlers other⟩

def dispatch (bus : CommandBus) (cmd : CreditLoyaltyRequest) :
    LoyaltyProgram CreditLoyaltyResponse :=
  match bus.handlers cmd.commandName with
  | none => .ret (.error (.external ("no handler registered for command: " ++ cmd.commandName)))
  | some fn => fn cmd

/-- The bus as `Registrar.Register` leaves it. -/
def registered (amb : Ambient) : CommandBus :=
  empty.register "loyalty.credit_loyalty" (handle amb)

theorem registered_dispatch (amb : Ambient) (cmd : CreditLoyaltyRequest) :
    (registered amb).dispatch cmd = handle amb cmd := rfl

end CommandBus

namespace OnOrderCompletedHandler

/-- What the dispatched command, `ulid.Make`, `time.Now` and the platform's float
conversion yield during one delivery. -/
structure OrderAmbient where
  command : Ambient
  /-- `ulid.Make` for the compensating envelope. -/
  eventID : String
  /-- `time.Now` in `NewLoyaltyCreditFailedEvent`. -/
  failedAt : Time
  /-- `int(x)` for an `x` that `int` cannot hold; the language leaves it open. -/
  overflow : Int64

/-- The conversion `int(x)`, which truncates toward zero. -/
def truncate (overflow : Int64) (x : Float) : Int64 :=
  if -9223372036854775808.0 ≤ x ∧ x < 9223372036854775808.0 then x.toInt64 else overflow

/-- Ten percent of the order total, at least one point. -/
def orderPoints (overflow : Int64) (totalAmount : Float) : Int64 :=
  let points := truncate overflow (totalAmount * 0.10)
  if points < 1 then 1 else points

/-- The command built from an order. The event id becomes the idempotency key. -/
def creditRequest (amb : OrderAmbient) (env : EventEnvelope) (payload : OrderCompletedPayload) :
    CreditLoyaltyRequest where
  customerID := payload.customerID
  orderID := payload.orderID
  points := orderPoints amb.overflow payload.totalAmount
  correlationID := env.correlationID
  causationEventID := env.eventID

/-- The compensating envelope. Its `OccurredAt` is left at the zero time. -/
def compensation (amb : OrderAmbient) (env : EventEnvelope) (payload : OrderCompletedPayload)
    (err : LoyaltyError) : EventEnvelope where
  eventID := amb.eventID
  correlationID := env.correlationID
  causationID := env.eventID
  eventName := Events.loyaltyCreditFailed
  payload :=
    some (.loyaltyCreditFailed
      { customerID := payload.customerID
        orderID := payload.orderID
        reason := err.message
        occurredAt := amb.failedAt })

/-- A failed compensation is logged and acknowledged like a successful one. -/
def compensate (amb : OrderAmbient) (env : EventEnvelope) (payload : OrderCompletedPayload) :
    Except LoyaltyError CreditLoyaltyResponse → LoyaltyProgram Unit
  | .ok _ => .ret (.ok ())
  | .error err => .call (.publish [compensation amb env payload err]) fun _ => .ret (.ok ())

def handle (bus : CommandBus) (amb : OrderAmbient) (env : EventEnvelope) : LoyaltyProgram Unit :=
  match env.payload with
  | some (.orderCompleted payload) =>
      (bus.dispatch (creditRequest amb env payload)).andThen (compensate amb env payload)
  | _ => .ret (.ok ())

/-- One delivery of an envelope, with the calls that fail in it. -/
structure Delivery where
  amb : OrderAmbient
  env : EventEnvelope
  fault : LoyaltyCall → Option LoyaltyError

/-- The store after one delivery, with the bus wired by the registrar. -/
def deliver (s : LoyaltyStore) (d : Delivery) : LoyaltyStore :=
  ((handle (.registered d.amb.command) d.amb d.env).run (serve.withFaults d.fault) s).2

theorem orderPoints_pos (overflow : Int64) (totalAmount : Float) :
    0 < orderPoints overflow totalAmount := by
  unfold orderPoints
  generalize truncate overflow (totalAmount * 0.10) = points
  by_cases small : points < 1
  · simp only [if_pos small]
    decide
  · simp only [if_neg small]
    exact Int64.lt_of_lt_of_le (by decide) (Int64.not_lt.mp small)

variable {s : LoyaltyStore} {d : Delivery}

/-- A delivery with another payload, or none, is acknowledged without effect. -/
theorem deliver_of_malformed
    (malformed : ∀ payload, d.env.payload ≠ some (.orderCompleted payload)) :
    deliver s d = s := by
  unfold deliver handle
  split
  · next payload eq => exact absurd eq (malformed payload)
  · rfl

/-- A delivery of an order is the credit, followed by what its result calls for. -/
theorem deliver_of_run {payload : OrderCompletedPayload}
    {result : Except LoyaltyError CreditLoyaltyResponse} {t : LoyaltyStore}
    (typed : d.env.payload = some (.orderCompleted payload))
    (run : creditWith d.fault d.amb.command (creditRequest d.amb d.env payload) s = (result, t)) :
    deliver s d =
      ((compensate d.amb d.env payload result).run (serve.withFaults d.fault) t).2 := by
  rw [creditWith] at run
  rw [deliver, handle, typed]
  simp only [CommandBus.registered_dispatch, Program.run_andThen, run]

/-- A credit that succeeded is left as it is. -/
theorem deliver_of_ok {payload : OrderCompletedPayload} {r : CreditLoyaltyResponse}
    {t : LoyaltyStore} (typed : d.env.payload = some (.orderCompleted payload))
    (run : creditWith d.fault d.amb.command (creditRequest d.amb d.env payload) s = (.ok r, t)) :
    deliver s d = t :=
  deliver_of_run typed run

/-- A credit that failed is followed by one attempt to publish the compensation. -/
theorem deliver_of_error {payload : OrderCompletedPayload} {e : LoyaltyError}
    {t : LoyaltyStore} (typed : d.env.payload = some (.orderCompleted payload))
    (run : creditWith d.fault d.amb.command (creditRequest d.amb d.env payload) s =
      (.error e, t)) :
    deliver s d =
      if d.fault (.publish [compensation d.amb d.env payload e]) = none then
        t.publish [compensation d.amb d.env payload e]
      else t := by
  rw [deliver_of_run typed run]
  simp only [compensate, Program.run_call, Program.run_ret]
  cases failed : d.fault (.publish [compensation d.amb d.env payload e]) with
  | none =>
      rw [Service.withFaults_none failed, if_pos rfl]
      rfl
  | some fault =>
      rw [Service.withFaults_some failed]
      rfl

/-- The points of this event are in the account: its key is marked and its credit
was announced. -/
def Recorded (s : LoyaltyStore) (eventID : String) : Prop :=
  eventID ∈ s.keys ∧
    ∃ env ∈ s.published, env.eventName = Events.loyaltyCredited ∧ env.causationID = eventID

/-- The envelopes one delivery adds to the log. -/
def publishedBy (s : LoyaltyStore) (d : Delivery) : List EventEnvelope :=
  (deliver s d).published.drop s.published.length

/-- The delivery compensates no event that is recorded. The compensation is the last
call of the handler, so the store after the delivery is the one it was published in. -/
def SparesRecorded (s : LoyaltyStore) (d : Delivery) : Prop :=
  ∀ env ∈ publishedBy s d, env.eventName = Events.loyaltyCreditFailed →
    ¬ Recorded (deliver s d) env.causationID

/-- The delivered order is already recorded. -/
def Redelivers (s : LoyaltyStore) (d : Delivery) : Prop :=
  (∃ payload, d.env.payload = some (.orderCompleted payload)) ∧ Recorded s d.env.eventID

theorem recorded_publish_compensation {amb : OrderAmbient} {env : EventEnvelope}
    {payload : OrderCompletedPayload} {e : LoyaltyError} {eventID : String} :
    Recorded (s.publish [compensation amb env payload e]) eventID ↔ Recorded s eventID := by
  simp [Recorded, LoyaltyStore.publish, compensation, Events.loyaltyCredited,
    Events.loyaltyCreditFailed]

/-- Compensating from a store that does not record the event spares it. -/
private theorem sparesRecorded_of_error {payload : OrderCompletedPayload} {e : LoyaltyError}
    {t : LoyaltyStore} (typed : d.env.payload = some (.orderCompleted payload))
    (run : creditWith d.fault d.amb.command (creditRequest d.amb d.env payload) s = (.error e, t))
    (log : ∀ env ∈ t.published.drop s.published.length,
      env.eventName = Events.loyaltyCredited)
    (shorter : s.published.length ≤ t.published.length)
    (unrecorded : ¬ Recorded t d.env.eventID) : SparesRecorded s d := by
  intro env mem name
  unfold publishedBy at mem
  rw [deliver_of_error typed run] at mem ⊢
  split at mem
  · next answered =>
      rw [if_pos answered, recorded_publish_compensation]
      change env ∈ (t.published ++ [_]).drop s.published.length at mem
      rw [List.drop_append_of_le_length shorter] at mem
      rcases List.mem_append.mp mem with credited | new
      · rw [log env credited] at name
        exact absurd name (by decide)
      · rw [List.mem_singleton.mp new]
        exact unrecorded
  · rw [log env mem] at name
    exact absurd name (by decide)

/-- A delivery that is not a redelivery of a recorded event compensates no recorded
event, whichever of its calls fail. -/
theorem sparesRecorded_of_not_redelivers (new : ¬ Redelivers s d) : SparesRecorded s d := by
  by_cases typed : ∃ payload, d.env.payload = some (.orderCompleted payload)
  · have unrecorded : ¬ Recorded s d.env.eventID := fun recorded => new ⟨typed, recorded⟩
    obtain ⟨payload, typed⟩ := typed
    rcases creditWith_cases d.fault d.amb.command (creditRequest d.amb d.env payload) s with
      ⟨e, run⟩ | ⟨t, reaches, saves, outcome⟩
    · exact sparesRecorded_of_error typed run (by simp) (Nat.le_refl _) unrecorded
    · obtain ⟨keys, published⟩ := save_frame saves
      rcases outcome with ⟨e, run⟩ | ⟨key, e, run⟩ | run
      · -- The save stays, but neither the key nor the announcement is there.
        apply sparesRecorded_of_error typed run
        · simp [published]
        · exact published ▸ Nat.le_refl _
        · simpa only [Recorded, keys, published] using unrecorded
      · -- The announcement is out, but the key is not marked.
        apply sparesRecorded_of_error typed run
        · simp [announced, LoyaltyStore.publish, published, creditedEnvelope]
        · simp [announced, LoyaltyStore.publish, published]
        · rintro ⟨marked, _⟩
          change d.env.eventID ∈ t.keys at marked
          rw [keys] at marked
          exact (reaches.unmarked key).2 marked
      · intro env mem name
        unfold publishedBy at mem
        rw [deliver_of_ok typed run, marked_published] at mem
        change env ∈ (t.published ++ [_]).drop s.published.length at mem
        rw [published, List.drop_left, List.mem_singleton] at mem
        rw [mem] at name
        change Events.loyaltyCredited = Events.loyaltyCreditFailed at name
        exact absurd name (by decide)
  · intro env mem
    unfold publishedBy at mem
    rw [deliver_of_malformed fun payload eq => typed ⟨payload, eq⟩, List.drop_length] at mem
    exact absurd mem List.not_mem_nil

/-- In every run without a redelivery of a recorded event, no delivery compensates a
recorded event. -/
theorem deliveries_spare_recorded (start : LoyaltyStore) (ds : List Delivery)
    (new : Admitted deliver (fun s d => ¬ Redelivers s d) start ds) (before : List Delivery)
    (d : Delivery) (after : List Delivery) (split : ds = before ++ d :: after) :
    SparesRecorded (runFrom deliver start before) d := by
  subst split
  obtain ⟨_, here, _⟩ := admitted_append.mp new
  exact sparesRecorded_of_not_redelivers here

def sampleOrder : EventEnvelope where
  eventID := "01ORDER"
  correlationID := "trace-1"
  causationID := ""
  eventName := Events.orderCompleted
  payload := some (.orderCompleted
    { orderID := "order-1"
      customerID := "customer-1"
      totalAmount := 100.0 })

/-- One delivery of the order, with these failures. -/
def sampleDelivery (fault : LoyaltyCall → Option LoyaltyError) : Delivery where
  amb :=
    { command := sampleAmbient
      eventID := "01FAILED"
      failedAt := ⟨1700000002000000000⟩
      overflow := 0 }
  env := sampleOrder
  fault := fault

/-- A delivery during an outage, and the redelivery that then credits the order. -/
theorem outage_then_redelivery_spares :
    SparesRecorded
      (runFrom deliver .empty [sampleDelivery fun _ => some (.external "database down")])
      (sampleDelivery fun _ => none) := by
  have nothing : deliver .empty (sampleDelivery fun _ => some (.external "database down")) =
      .empty := rfl
  have unrecorded : ∀ d, ¬ Redelivers .empty d :=
    fun d redelivers => absurd redelivers.2.1 List.not_mem_nil
  apply deliveries_spare_recorded .empty
    [sampleDelivery fun _ => some (.external "database down"), sampleDelivery fun _ => none]
    ⟨unrecorded _, by rw [nothing]; exact unrecorded _, trivial⟩ _ _ []
  rfl

/-- A delivery without failures of an order that is not yet marked records it. -/
theorem deliver_records {payload : OrderCompletedPayload}
    (typed : d.env.payload = some (.orderCompleted payload)) (reliable : ∀ c, d.fault c = none)
    (key : d.env.eventID ≠ "") (unmarked : d.env.eventID ∉ s.keys)
    (loadable : Loadable s payload.customerID)
    (fresh : FreshAccountID s d.amb.command payload.customerID) :
    Recorded (deliver s d) d.env.eventID := by
  have reaches : ReachesSave d.fault s (creditRequest d.amb d.env payload) :=
    ⟨fun _ => ⟨reliable _, unmarked⟩, reliable _, loadable, orderPoints_pos _ _⟩
  obtain ⟨t, saved, run⟩ :=
    creditWith_success reaches fresh (reliable _) (reliable _) fun _ => reliable _
  rw [deliver_of_ok typed run]
  constructor
  · simp [marked, creditRequest, key]
  · rw [marked_published]
    exact ⟨_, List.mem_append_right _ (List.mem_singleton.mpr rfl), rfl, rfl⟩

/-- The command handler reports a replayed event as an error, and the event handler
compensates it: a redelivery of a recorded order whose check and publish answer
publishes `loyalty.account.credit_failed` for it. -/
theorem redelivery_compensates (redelivers : Redelivers s d) (key : d.env.eventID ≠ "")
    (reliable : ∀ c, d.fault c = none) : ¬ SparesRecorded s d := by
  obtain ⟨⟨payload, typed⟩, recorded⟩ := redelivers
  have stopped : ¬ ReachesSave d.fault s (creditRequest d.amb d.env payload) :=
    fun reaches => (reaches.unmarked key).2 recorded.1
  obtain ⟨e, run⟩ := creditWith_of_not_reachesSave d.amb.command stopped
  have delivered : deliver s d = s.publish [compensation d.amb d.env payload e] := by
    rw [deliver_of_error typed run, if_pos (reliable _)]
  intro spares
  apply spares (compensation d.amb d.env payload e) _ rfl
  · rw [delivered, recorded_publish_compensation]
    exact recorded
  · rw [publishedBy, delivered]
    change _ ∈ (s.published ++ [_]).drop s.published.length
    rw [List.drop_left]
    exact List.mem_singleton.mpr rfl

/-- The same order delivered twice, with no failure at all: the first delivery
credits it and the second one compensates it. -/
theorem redelivered_order_compensated :
    Recorded (runFrom deliver .empty [sampleDelivery fun _ => none]) sampleOrder.eventID ∧
      ¬ SparesRecorded (runFrom deliver .empty [sampleDelivery fun _ => none])
        (sampleDelivery fun _ => none) := by
  have recorded :
      Recorded (deliver .empty (sampleDelivery fun _ => none)) sampleOrder.eventID :=
    deliver_records rfl (fun _ => rfl) (by decide) List.not_mem_nil (fun _ found => nomatch found)
      (fun _ _ mem => absurd mem List.not_mem_nil)
  exact ⟨recorded, redelivery_compensates ⟨⟨_, rfl⟩, recorded⟩ (by decide) fun _ => rfl⟩

end OnOrderCompletedHandler

end GoOdin.Loyalty
