import GoOdin.Loyalty.OrderCompleted

/-!
# What an acknowledged order leaves behind

`OnOrderCompletedHandler.Handle` returns nil on every path, so every delivery is
acknowledged and none is redelivered because of an error. The event then has to be
on record somewhere: its idempotency key is marked, its credit is announced, or its
compensation is published. The handler only logs an error of the compensating
`Publish`, and acknowledges all the same.

One delivery makes each call at most once, so a pattern of failures gives an outcome
for each repository method and one for the compensating publish.
-/

namespace GoOdin.Loyalty

open Interaction CreditLoyaltyHandler

namespace CreditLoyaltyHandler

variable {fault : LoyaltyCall → Option LoyaltyError} {s : LoyaltyStore}
variable {amb : Ambient} {cmd : CreditLoyaltyRequest}

/-- The run saves, and the publish of the credit does not fail. -/
structure Announces (fault : LoyaltyCall → Option LoyaltyError) (s : LoyaltyStore)
    (amb : Ambient) (cmd : CreditLoyaltyRequest) : Prop extends Writes fault s amb cmd where
  published : fault (.publish [creditedEnvelope amb cmd (creditedAccount s amb cmd)]) = none

/-- A run that announces its credit has published it, whether or not the key is
marked after that. -/
theorem Announces.published_mem (announces : Announces fault s amb cmd) :
    creditedEnvelope amb cmd (creditedAccount s amb cmd) ∈
      (creditWith fault amb cmd s).2.published := by
  obtain ⟨t, saves⟩ := save_creditedAggregate_ok s amb cmd
  have new : creditedEnvelope amb cmd (creditedAccount s amb cmd) ∈
      (announced amb cmd (creditedAccount s amb cmd) t).published :=
    List.mem_append_right _ (List.mem_singleton.mpr rfl)
  rw [creditWith_of_reachesSave announces.reaches, run_saveAggregate announces.saved saves,
    creditedAggregate, run_publishEvents announces.published]
  rcases run_markKey_cases fault cmd ⟨creditedAccount s amb cmd, []⟩
    (announced amb cmd (creditedAccount s amb cmd) t) with ⟨_, e, run⟩ | run
  · rw [run]
    exact new
  · rw [run, marked_published]
    exact new

/-- A run that does not announce its credit returns an error, with no key marked and
nothing published. -/
theorem creditWith_of_not_announces (silent : ¬ Announces fault s amb cmd) :
    ∃ e t, creditWith fault amb cmd s = (.error e, t) ∧ t.keys = s.keys ∧
      t.published = s.published := by
  by_cases writes : Writes fault s amb cmd
  · obtain ⟨t, saves⟩ := save_creditedAggregate_ok s amb cmd
    rw [creditWith_of_reachesSave writes.reaches, run_saveAggregate writes.saved saves]
    cases published : fault (.publish [creditedEnvelope amb cmd (creditedAccount s amb cmd)]) with
    | some e => exact ⟨e, t, run_publishEvents_error published, save_frame saves⟩
    | none => exact absurd ⟨writes, published⟩ silent
  · obtain ⟨e, run⟩ := creditWith_of_not_writes amb writes
    exact ⟨e, s, run, rfl, rfl⟩

end CreditLoyaltyHandler

namespace OnOrderCompletedHandler

/-- The calls of one delivery that fail. -/
structure Failures where
  /-- The calls of the dispatched command, by repository method. -/
  command : CallKind → Option LoyaltyError
  /-- The compensating `Publish`. -/
  compensation : Option LoyaltyError

/-- The two publishes of a delivery differ in the name of their event. -/
def Failures.fault (f : Failures) : LoyaltyCall → Option LoyaltyError
  | .publish envelopes =>
      if envelopes.any (·.eventName == Events.loyaltyCreditFailed) then f.compensation
      else f.command .publish
  | c => f.command c.kind

variable {f : Failures}

@[simp] theorem fault_compensation (f : Failures) (amb : OrderAmbient) (env : EventEnvelope)
    (payload : OrderCompletedPayload) (e : LoyaltyError) :
    f.fault (.publish [compensation amb env payload e]) = f.compensation := by
  simp [Failures.fault, compensation]

@[simp] theorem fault_creditedEnvelope (f : Failures) (amb : Ambient) (cmd : CreditLoyaltyRequest)
    (account : LoyaltyAccount) :
    f.fault (.publish [creditedEnvelope amb cmd account]) = f.command .publish := by
  have distinct : Events.loyaltyCredited ≠ Events.loyaltyCreditFailed := by decide
  simp [Failures.fault, creditedEnvelope, distinct]

/-- The message is acknowledged: `Handle` returns nil. -/
def Acknowledged (s : LoyaltyStore) (d : Delivery) : Prop :=
  ((handle (.registered d.amb.command) d.amb d.env).run (serve.withFaults d.fault) s).1 = .ok ()

/-- The credit of this event is on record, by its key or by its announcement. -/
def CreditRecorded (s : LoyaltyStore) (eventID : String) : Prop :=
  eventID ∈ s.keys ∨
    ∃ env ∈ s.published, env.eventName = Events.loyaltyCredited ∧ env.causationID = eventID

/-- A compensation caused by this event is published. -/
def Compensated (s : LoyaltyStore) (eventID : String) : Prop :=
  ∃ env ∈ s.published, env.eventName = Events.loyaltyCreditFailed ∧ env.causationID = eventID

/-- The event has left a trace that a later reader can find. -/
def Accounted (s : LoyaltyStore) (eventID : String) : Prop :=
  CreditRecorded s eventID ∨ Compensated s eventID

variable {s t : LoyaltyStore} {d : Delivery} {eventID : String}

/-- No path of the handler returns an error. -/
theorem acknowledged (s : LoyaltyStore) (d : Delivery) : Acknowledged s d := by
  unfold Acknowledged handle
  split
  · next payload typed =>
      rw [Program.run_andThen]
      generalize ((CommandBus.registered d.amb.command).dispatch
        (creditRequest d.amb d.env payload)).run (serve.withFaults d.fault) s = result
      obtain ⟨outcome, t⟩ := result
      cases outcome with
      | ok r => rfl
      | error e => rfl
  · rfl

/-- What is on record stays on record while keys and messages only accumulate. -/
theorem Accounted.mono (accounted : Accounted s eventID) (keys : s.keys ⊆ t.keys)
    (published : s.published ⊆ t.published) : Accounted t eventID := by
  rcases accounted with (key | ⟨env, mem, caused⟩) | ⟨env, mem, caused⟩
  · exact .inl (.inl (keys key))
  · exact .inl (.inr ⟨env, published mem, caused⟩)
  · exact .inr ⟨env, published mem, caused⟩

/-- After a credit that announced itself, the event is on record, whatever becomes of
the compensation that a failed marking triggers. -/
theorem accounted_of_announces {payload : OrderCompletedPayload}
    (typed : d.env.payload = some (.orderCompleted payload))
    (announces : Announces d.fault s d.amb.command (creditRequest d.amb d.env payload)) :
    Accounted (deliver s d) d.env.eventID := by
  have mem := announces.published_mem
  cases run : creditWith d.fault d.amb.command (creditRequest d.amb d.env payload) s with
  | mk outcome t =>
      rw [run] at mem
      have recorded : Accounted t d.env.eventID := .inl (.inr ⟨_, mem, rfl, rfl⟩)
      cases outcome with
      | ok r => rwa [deliver_of_ok typed run]
      | error e =>
          rw [deliver_of_error typed run]
          split
          · exact recorded.mono (List.Subset.refl _) (List.subset_append_left _ _)
          · exact recorded

/-- After a credit that was not announced, the store is the old one as far as keys and
messages go, with the compensation if it was accepted. -/
theorem accounted_iff_of_not_announces {payload : OrderCompletedPayload}
    {amb : OrderAmbient} {env : EventEnvelope}
    (typed : env.payload = some (.orderCompleted payload))
    (silent : ¬ Announces f.fault s amb.command (creditRequest amb env payload)) :
    Accounted (deliver s ⟨amb, env, f.fault⟩) env.eventID ↔
      Accounted s env.eventID ∨ f.compensation = none := by
  obtain ⟨e, t, run, keys, published⟩ := creditWith_of_not_announces silent
  have unchanged : Accounted t env.eventID ↔ Accounted s env.eventID := by
    simp only [Accounted, CreditRecorded, Compensated, keys, published]
  have delivered : deliver s ⟨amb, env, f.fault⟩ =
      if f.compensation = none then t.publish [compensation amb env payload e] else t := by
    rw [← fault_compensation f amb env payload e]
    exact deliver_of_error typed run
  rw [delivered]
  split
  · next accepted =>
      refine iff_of_true (.inr ⟨compensation amb env payload e, ?_, rfl, rfl⟩) (.inr accepted)
      exact List.mem_append_right _ (List.mem_singleton.mpr rfl)
  · next refused => rw [unchanged, or_iff_left refused]

/-- An acknowledged order is on record exactly when it was so before, or its credit is
announced, or the compensating publish does not fail. -/
theorem acknowledged_order_accounted_iff (s : LoyaltyStore) (amb : OrderAmbient)
    (env : EventEnvelope) (f : Failures) (payload : OrderCompletedPayload)
    (typed : env.payload = some (.orderCompleted payload)) :
    (Acknowledged s ⟨amb, env, f.fault⟩ →
        Accounted (deliver s ⟨amb, env, f.fault⟩) env.eventID) ↔
      Accounted s env.eventID ∨
        Announces f.fault s amb.command (creditRequest amb env payload) ∨
        f.compensation = none := by
  rw [imp_iff_right (acknowledged _ _)]
  by_cases announces : Announces f.fault s amb.command (creditRequest amb env payload)
  · exact iff_of_true (accounted_of_announces typed announces) (.inr (.inl announces))
  · rw [accounted_iff_of_not_announces typed announces]
    simp only [announces, false_or]

/-- The database is down and the broker is up: the order is compensated. -/
theorem acknowledged_order_accounted_compensated :
    Accounted (deliver .empty ⟨(sampleDelivery fun _ => none).amb, sampleOrder,
      Failures.fault ⟨fun _ => some (.external "database down"), none⟩⟩) "01ORDER" :=
  (acknowledged_order_accounted_iff .empty _ sampleOrder _ _ rfl).mpr (.inr (.inr rfl))
    (acknowledged _ _)

/-- With the database and the broker down, the order is acknowledged and the store is
as if it had never arrived. -/
theorem outage_acknowledges_lost_order :
    Acknowledged .empty ⟨(sampleDelivery fun _ => none).amb, sampleOrder,
        Failures.fault ⟨fun _ => some (.external "database down"),
          some (.external "broker down")⟩⟩ ∧
      ¬ Accounted (deliver .empty ⟨(sampleDelivery fun _ => none).amb, sampleOrder,
        Failures.fault ⟨fun _ => some (.external "database down"),
          some (.external "broker down")⟩⟩) "01ORDER" := by
  refine ⟨rfl, ?_⟩
  rintro ((key | ⟨env, mem, _⟩) | ⟨env, mem, _⟩)
  · exact absurd key List.not_mem_nil
  · exact absurd mem List.not_mem_nil
  · exact absurd mem List.not_mem_nil

end OnOrderCompletedHandler

end GoOdin.Loyalty
