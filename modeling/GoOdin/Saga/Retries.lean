import GoOdin.Saga.Sequential

/-!
# The saga under failures and redelivery

A delivery whose execution returned an error comes again. The completion mark is
saved before the announcement goes out, and a retry that finds the mark returns nil,
so an announcement that failed is not repeated. This module shows that nothing else
goes wrong: if no delivery loses its announcement in that way, then whenever both
events of a correlation id were handled with result nil, the order is announced.
-/

namespace GoOdin.Saga.OrderFulfillmentSaga

open Interaction

variable {fault : SagaCall → Option SagaError} {amb : Ambient} {env : EventEnvelope}
  {s : SagaStore}

/-- One delivery of an envelope, with the calls that fail in it. -/
structure Delivery where
  amb : Ambient
  env : EventEnvelope
  fault : SagaCall → Option SagaError

/-- The store, and the envelopes whose handling has returned nil. A delivery that
returned an error is not among them and may come again. -/
structure SagaRun where
  store : SagaStore
  acked : List EventEnvelope

def SagaRun.start : SagaRun := ⟨.empty, []⟩

/-- Keep the store of an execution, and its envelope when it returned nil. -/
def SagaRun.record (r : SagaRun) (env : EventEnvelope) :
    Except SagaError Unit × SagaStore → SagaRun
  | (.ok _, t) => ⟨t, r.acked ++ [env]⟩
  | (.error _, t) => ⟨t, r.acked⟩

def SagaRun.deliver (r : SagaRun) (d : Delivery) : SagaRun :=
  r.record d.env (handleWith d.fault d.amb d.env r.store)

/-- An event with this name and correlation id was handled with result nil. -/
def SagaRun.Acked (r : SagaRun) (eventName c : String) : Prop :=
  ∃ env ∈ r.acked, env.correlationID = c ∧ env.eventName = eventName

/-- If both events of the correlation id were handled with result nil, the order is
announced. -/
def SagaRun.AnnouncedWhenAcked (r : SagaRun) (c : String) : Prop :=
  r.Acked Events.loyaltyCredited c → r.Acked Events.inventoryReserved c →
    ∃ env ∈ r.store.published, isReady c env = true

/-- What the store knows about one correlation id, with failures. -/
structure Sound (c : String) (r : SagaRun) : Prop where
  credited : r.Acked Events.loyaltyCredited c → (r.store.current c).loyaltyCredited = true
  reserved : r.Acked Events.inventoryReserved c → (r.store.current c).inventoryReserved = true
  completes : r.Acked Events.loyaltyCredited c → r.Acked Events.inventoryReserved c →
    (r.store.current c).completedAt ≠ none
  flags : (r.store.current c).completedAt ≠ none → (r.store.current c).ready = true
  announced : (r.store.current c).completedAt ≠ none →
    ∃ env ∈ r.store.published, isReady c env = true

@[simp] theorem record_store (r : SagaRun) (env : EventEnvelope)
    (result : Except SagaError Unit × SagaStore) : (r.record env result).store = result.2 := by
  rcases result with ⟨_ | _, t⟩ <;> rfl

theorem acked_record_ok (r : SagaRun) (env : EventEnvelope) (t : SagaStore)
    (eventName c : String) :
    (r.record env (.ok (), t)).Acked eventName c ↔
      r.Acked eventName c ∨ env.correlationID = c ∧ env.eventName = eventName := by
  simp [SagaRun.Acked, SagaRun.record, or_and_right, exists_or]

/-- An execution changes no state but that of its own correlation id, whatever fails. -/
theorem Outcome.current_of_ne {result : Except SagaError Unit × SagaStore}
    (outcome : Outcome fault amb env s result) {c : String} (other : c ≠ env.correlationID) :
    result.2.current c = s.current c := by
  cases outcome <;> simp [completed, other]

/-- An execution never takes back an announcement. -/
theorem Outcome.published_subset {result : Except SagaError Unit × SagaStore}
    (outcome : Outcome fault amb env s result) : s.published ⊆ result.2.published := by
  cases outcome with
  | announced pending met => exact List.subset_append_left _ _
  | _ => exact List.Subset.refl _

variable {r : SagaRun} {c : String} {result : Except SagaError Unit × SagaStore}

/-- A run with the same state and no further acknowledgement stays sound. -/
theorem Sound.of_same {r' : SagaRun} (sound : Sound c r)
    (acked : ∀ eventName, r'.Acked eventName c → r.Acked eventName c)
    (current : r'.store.current c = r.store.current c)
    (published : r.store.published ⊆ r'.store.published) : Sound c r' := by
  constructor
  · rw [current]
    exact fun first => sound.credited (acked _ first)
  · rw [current]
    exact fun second => sound.reserved (acked _ second)
  · rw [current]
    exact fun first second => sound.completes (acked _ first) (acked _ second)
  · rw [current]
    exact sound.flags
  · rw [current]
    intro done
    obtain ⟨ready, mem, isReady⟩ := sound.announced done
    exact ⟨ready, published mem, isReady⟩

/-- An execution for another correlation id is no news for this one. -/
theorem Sound.record_of_ne (sound : Sound c r) (other : c ≠ env.correlationID)
    (outcome : Outcome fault amb env r.store result) : Sound c (r.record env result) := by
  apply sound.of_same
  · intro eventName acked
    rcases result with ⟨e | _, t⟩
    · exact acked
    · rw [acked_record_ok] at acked
      exact acked.resolve_right fun news => other news.1.symm
  · rw [record_store]
    exact outcome.current_of_ne other
  · rw [record_store]
    exact outcome.published_subset

/-- A store whose saga is completed and announced is sound, whatever was handled. -/
private theorem sound_of_completed (done : (r.store.current c).completedAt ≠ none)
    (met : (r.store.current c).ready = true)
    (announced : ∃ env ∈ r.store.published, isReady c env = true) : Sound c r := by
  obtain ⟨credited, reserved⟩ := Bool.and_eq_true_iff.mp met
  exact ⟨fun _ => credited, fun _ => reserved, fun _ _ => done, fun _ => met, fun _ => announced⟩

/-- A store whose saga is not completed is sound when the flags cover what was handled
and one of the two events was not. -/
private theorem sound_of_pending (pending : (r.store.current c).completedAt = none)
    (credited : r.Acked Events.loyaltyCredited c → (r.store.current c).loyaltyCredited = true)
    (reserved : r.Acked Events.inventoryReserved c → (r.store.current c).inventoryReserved = true)
    (missing : ¬ (r.Acked Events.loyaltyCredited c ∧ r.Acked Events.inventoryReserved c)) :
    Sound c r :=
  ⟨credited, reserved, fun first second => absurd ⟨first, second⟩ missing,
    fun done => absurd pending done, fun done => absurd pending done⟩

/-- One execution that does not lose its announcement keeps the store sound. -/
theorem Sound.record (sound : Sound c r) (outcome : Outcome fault amb env r.store result)
    (kept : ¬ LosesAnnouncement fault amb env r.store) : Sound c (r.record env result) := by
  by_cases other : c ≠ env.correlationID
  · exact sound.record_of_ne other outcome
  obtain rfl := not_not.mp other
  cases outcome with
  | unread e failed => exact sound
  | alreadyCompleted done =>
      apply sound_of_completed
      · simpa [SagaRun.record] using done
      · simpa [SagaRun.record] using sound.flags done
      · exact sound.announced done
  | unsaved e failed =>
      refine sound.of_same (fun _ acked => acked) ?_ (List.Subset.refl _)
      exact SagaStore.current_create _ _ _
  | waiting pending missing =>
      have stored := current_save_observed r.store env
      have credited : (r.record env (.ok (), (r.store.create env.correlationID).save
            (observed r.store env))).Acked Events.loyaltyCredited env.correlationID →
          (observed r.store env).loyaltyCredited = true := by
        rw [acked_record_ok]
        rintro (old | ⟨_, name⟩)
        · simp [sound.credited old]
        · simp [name]
      have reserved : (r.record env (.ok (), (r.store.create env.correlationID).save
            (observed r.store env))).Acked Events.inventoryReserved env.correlationID →
          (observed r.store env).inventoryReserved = true := by
        rw [acked_record_ok]
        rintro (old | ⟨_, name⟩)
        · simp [sound.reserved old]
        · simp [name]
      apply sound_of_pending
      · rw [record_store, stored]
        simpa using pending
      · rw [record_store, stored]
        exact credited
      · rw [record_store, stored]
        exact reserved
      · rintro ⟨first, second⟩
        rw [FulfillmentSagaState.ready, credited first, reserved second] at missing
        cases missing
  | unmarked e pending failed =>
      have stored := current_save_observed r.store env
      apply sound_of_pending
      · rw [record_store, stored]
        simpa using pending
      · intro old
        rw [record_store, stored]
        simp [sound.credited old]
      · intro old
        rw [record_store, stored]
        simp [sound.reserved old]
      · rintro ⟨first, second⟩
        exact sound.completes first second pending
  | unannounced e lost => exact absurd lost kept
  | announced pending met =>
      apply sound_of_completed
      · rw [record_store, SagaStore.current_publish, current_save_completed]
        simp [completed]
      · rw [record_store, SagaStore.current_publish, current_save_completed]
        exact met
      · exact ⟨readyEnvelope amb env, by simp, by simp [isReady, readyEnvelope]⟩

/-- In every run in which no delivery loses its announcement, in every state reached:
if both events of a correlation id were handled with result nil, its order is
announced. -/
theorem acked_implies_announced (ds : List Delivery)
    (kept : Admitted SagaRun.deliver
      (fun r d => ¬ LosesAnnouncement d.fault d.amb d.env r.store) .start ds) (c : String) :
    (runFrom SagaRun.deliver .start ds).AnnouncedWhenAcked c := by
  have start : Sound c .start := by
    constructor <;> simp [SagaRun.start, SagaRun.Acked]
  have sound : Sound c (runFrom SagaRun.deliver .start ds) :=
    kept.invariant (fun r d sound kept =>
      sound.record (handleWith_outcome d.fault d.amb d.env r.store) kept) start
  exact fun first second => sound.announced (sound.completes first second)

/-- A delivery of one of the two events of one order, with these failures. -/
def sampleDelivery (eventName : String) (fault : SagaCall → Option SagaError) : Delivery where
  amb := ⟨"01READY", ⟨1700000003000000000⟩⟩
  env :=
    { eventID := "01" ++ eventName, correlationID := "trace-1", causationID := "01ORDER",
      eventName := eventName }
  fault := fault

/-- Every call but a publish answers. -/
def brokerDown : SagaCall → Option SagaError
  | .publish _ => some "broker unavailable"
  | _ => none

/-- Every call but a save answers. -/
def databaseDown : SagaCall → Option SagaError
  | .save _ => some "database unavailable"
  | _ => none

/-- The second event fails once and is delivered again. -/
def sampleRun (fault : SagaCall → Option SagaError) : List Delivery :=
  [sampleDelivery Events.loyaltyCredited fun _ => none,
    sampleDelivery Events.inventoryReserved fault,
    sampleDelivery Events.inventoryReserved fun _ => none]

/-- A delivery whose save fails is delivered again, and the order is announced. -/
theorem announced_after_failed_save :
    ∃ env ∈ (runFrom SagaRun.deliver .start (sampleRun databaseDown)).store.published,
      isReady "trace-1" env = true :=
  acked_implies_announced (sampleRun databaseDown)
    ⟨fun lost => lost.unpublished rfl, fun lost => lost.unpublished rfl,
      fun lost => lost.unpublished rfl, trivial⟩
    "trace-1" ⟨_, List.mem_cons_self, rfl, rfl⟩
    ⟨_, List.mem_cons_of_mem _ List.mem_cons_self, rfl, rfl⟩

/-- The publish fails after the completion mark is saved, and the handler returns the
error. The delivery comes again, finds the saga completed and returns nil, and nothing
was ever announced. -/
theorem failed_announcement_not_retried :
    (runFrom SagaRun.deliver .start ((sampleRun brokerDown).take 2)).acked.length = 1 ∧
      ¬ (runFrom SagaRun.deliver .start (sampleRun brokerDown)).AnnouncedWhenAcked "trace-1" := by
  refine ⟨rfl, fun announced => ?_⟩
  obtain ⟨env, mem, _⟩ := announced ⟨_, List.mem_cons_self, rfl, rfl⟩
    ⟨_, List.mem_cons_of_mem _ List.mem_cons_self, rfl, rfl⟩
  exact absurd mem List.not_mem_nil

end GoOdin.Saga.OrderFulfillmentSaga
