import GoOdin.Interaction.Run
import GoOdin.Saga.Handler

/-!
# Runs of the saga, one envelope after another

`Outcome` lists the seven ways in which one execution can end, with the calls that
fail as data of the execution. Everything about sequential runs follows from it.

With calls that never fail, the stored flags say which events of a correlation id
have occurred and the completion mark says that both have, so the order is announced
exactly once, by the execution that sees the second of the two.
-/

namespace GoOdin.Saga.OrderFulfillmentSaga

open Interaction

/-- One execution alone, with these calls failing. -/
def handleWith (fault : SagaCall → Option SagaError) (amb : Ambient) (env : EventEnvelope)
    (s : SagaStore) : Except SagaError Unit × SagaStore :=
  (handle amb env).run (serve.withFaults fault) s

/-- The copy of the state that the first save writes. -/
def observed (s : SagaStore) (env : EventEnvelope) : FulfillmentSagaState :=
  (s.current env.correlationID).observe env.eventName

/-- The copy of the state that the second save writes. -/
def completed (s : SagaStore) (amb : Ambient) (env : EventEnvelope) : FulfillmentSagaState :=
  { observed s env with completedAt := some amb.now }

@[simp] theorem observed_eq (s : SagaStore) (env : EventEnvelope) :
    observed s env =
      { correlationID := env.correlationID
        loyaltyCredited := (s.current env.correlationID).loyaltyCredited ||
          decide (env.eventName = Events.loyaltyCredited)
        inventoryReserved := (s.current env.correlationID).inventoryReserved ||
          decide (env.eventName = Events.inventoryReserved)
        completedAt := (s.current env.correlationID).completedAt } := by
  rw [observed, FulfillmentSagaState.observe_eq, SagaStore.current_correlationID]

/-- The calls up to the completion mark answer, the mark is set, and the publish
fails. -/
structure LosesAnnouncement (fault : SagaCall → Option SagaError) (amb : Ambient)
    (env : EventEnvelope) (s : SagaStore) : Prop where
  pending : (s.current env.correlationID).completedAt = none
  met : (observed s env).ready = true
  read : fault (.findOrCreate env.correlationID) = none
  saved : fault (.save (observed s env)) = none
  marked : fault (.save (completed s amb env)) = none
  unpublished : fault (.publish (readyEnvelope amb env)) ≠ none

/-- How one execution can end, and in which store. -/
inductive Outcome (fault : SagaCall → Option SagaError) (amb : Ambient) (env : EventEnvelope)
    (s : SagaStore) : Except SagaError Unit × SagaStore → Prop where
  | unread (e : SagaError) (failed : fault (.findOrCreate env.correlationID) = some e) :
      Outcome fault amb env s (.error e, s)
  | alreadyCompleted (done : (s.current env.correlationID).completedAt ≠ none) :
      Outcome fault amb env s (.ok (), s.create env.correlationID)
  | unsaved (e : SagaError) (failed : fault (.save (observed s env)) = some e) :
      Outcome fault amb env s (.error e, s.create env.correlationID)
  | waiting (pending : (s.current env.correlationID).completedAt = none)
      (missing : (observed s env).ready = false) :
      Outcome fault amb env s (.ok (), (s.create env.correlationID).save (observed s env))
  | unmarked (e : SagaError) (pending : (s.current env.correlationID).completedAt = none)
      (failed : fault (.save (completed s amb env)) = some e) :
      Outcome fault amb env s (.error e, (s.create env.correlationID).save (observed s env))
  | unannounced (e : SagaError) (lost : LosesAnnouncement fault amb env s) :
      Outcome fault amb env s
        (.error e, ((s.create env.correlationID).save (observed s env)).save (completed s amb env))
  | announced (pending : (s.current env.correlationID).completedAt = none)
      (met : (observed s env).ready = true) :
      Outcome fault amb env s
        (.ok (), (((s.create env.correlationID).save (observed s env)).save
          (completed s amb env)).publish (readyEnvelope amb env))

variable {fault : SagaCall → Option SagaError} {amb : Ambient} {env : EventEnvelope}
  {s : SagaStore}

/-- The first save stores the copy under the correlation id of the event. -/
theorem current_save_observed (s : SagaStore) (env : EventEnvelope) :
    ((s.create env.correlationID).save (observed s env)).current env.correlationID =
      observed s env := by
  rw [SagaStore.current_save, if_pos (by simp)]

/-- So does the second. -/
theorem current_save_completed (s t : SagaStore) (amb : Ambient) (env : EventEnvelope) :
    (t.save (completed s amb env)).current env.correlationID = completed s amb env := by
  rw [SagaStore.current_save, if_pos (by simp [completed])]

private theorem complete_observed :
    complete amb env (observed s env) =
      .attempt (.save (completed s amb env)) fun _ => announce amb env := rfl

private theorem saveProgress_observed :
    saveProgress amb env ((s.current env.correlationID).observe env.eventName) =
      .attempt (.save (observed s env)) fun _ =>
        if (observed s env).ready then complete amb env (observed s env) else .ret (.ok ()) := rfl

private theorem complete_outcome (pending : (s.current env.correlationID).completedAt = none)
    (met : (observed s env).ready = true)
    (read : fault (.findOrCreate env.correlationID) = none)
    (saved : fault (.save (observed s env)) = none) :
    Outcome fault amb env s
      ((complete amb env (observed s env)).run (serve.withFaults fault)
        ((s.create env.correlationID).save (observed s env))) := by
  cases marked : fault (.save (completed s amb env)) with
  | some e =>
      rw [complete_observed, Program.run_attempt_error (Service.withFaults_some marked _)]
      exact .unmarked e pending marked
  | none =>
      rw [complete_observed, Program.run_attempt_ok (Service.withFaults_none marked _), announce]
      cases published : fault (.publish (readyEnvelope amb env)) with
      | some e =>
          rw [Program.run_attempt_error (Service.withFaults_some published _)]
          exact .unannounced e ⟨pending, met, read, saved, marked, by simp [published]⟩
      | none =>
          rw [Program.run_attempt_ok (Service.withFaults_none published _), Program.run_ret]
          exact .announced pending met

/-- An execution ends in one of these ways. -/
theorem handleWith_outcome (fault : SagaCall → Option SagaError) (amb : Ambient)
    (env : EventEnvelope) (s : SagaStore) :
    Outcome fault amb env s (handleWith fault amb env s) := by
  unfold handleWith handle
  cases read : fault (.findOrCreate env.correlationID) with
  | some e =>
      rw [Program.run_attempt_error (Service.withFaults_some read s)]
      exact .unread e read
  | none =>
      rw [Program.run_attempt_ok (Service.withFaults_none read s)]
      by_cases pending : (s.current env.correlationID).completedAt = none
      · rw [if_neg (not_not.mpr pending), saveProgress_observed]
        cases saved : fault (.save (observed s env)) with
        | some e =>
            rw [Program.run_attempt_error (Service.withFaults_some saved _)]
            exact .unsaved e saved
        | none =>
            rw [Program.run_attempt_ok (Service.withFaults_none saved _)]
            cases met : (observed s env).ready with
            | true => exact complete_outcome pending met read saved
            | false => exact .waiting pending met
      · rw [if_pos pending, Program.run_ret]
        exact .alreadyCompleted pending

section NoFailures

/-- The store after one execution in which no call fails. -/
def handled (s : SagaStore) (d : Ambient × EventEnvelope) : SagaStore :=
  (handleWith (fun _ => none) d.1 d.2 s).2

/-- An event with this name and correlation id is in the history. -/
def Occurred (eventName c : String) (ds : List (Ambient × EventEnvelope)) : Prop :=
  ∃ d ∈ ds, d.2.correlationID = c ∧ d.2.eventName = eventName

/-- Both prerequisites of the correlation id are in the history. -/
def BothOccurred (c : String) (ds : List (Ambient × EventEnvelope)) : Prop :=
  Occurred Events.loyaltyCredited c ds ∧ Occurred Events.inventoryReserved c ds

instance (eventName c : String) (ds : List (Ambient × EventEnvelope)) :
    Decidable (Occurred eventName c ds) :=
  inferInstanceAs (Decidable (∃ d ∈ ds, d.2.correlationID = c ∧ d.2.eventName = eventName))

instance (c : String) (ds : List (Ambient × EventEnvelope)) : Decidable (BothOccurred c ds) :=
  inferInstanceAs (Decidable (_ ∧ _))

/-- The store knows the history: the flags say what has occurred, and the completion
mark says that both have. -/
def Follows (s : SagaStore) (ds : List (Ambient × EventEnvelope)) : Prop :=
  ∀ c, ((s.current c).loyaltyCredited = true ↔ Occurred Events.loyaltyCredited c ds) ∧
    ((s.current c).inventoryReserved = true ↔ Occurred Events.inventoryReserved c ds) ∧
    ((s.current c).completedAt ≠ none ↔ BothOccurred c ds)

/-- This event is the second of the two for its correlation id. -/
def Completes (ds : List (Ambient × EventEnvelope)) (d : Ambient × EventEnvelope) : Prop :=
  ¬ BothOccurred d.2.correlationID ds ∧ BothOccurred d.2.correlationID (ds ++ [d])

theorem occurred_concat {eventName c : String} {ds : List (Ambient × EventEnvelope)}
    {d : Ambient × EventEnvelope} :
    Occurred eventName c (ds ++ [d]) ↔
      Occurred eventName c ds ∨ d.2.correlationID = c ∧ d.2.eventName = eventName := by
  simp [Occurred, or_and_right, exists_or]

theorem bothOccurred_append {c : String} {ds : List (Ambient × EventEnvelope)}
    (more : List (Ambient × EventEnvelope)) (both : BothOccurred c ds) :
    BothOccurred c (ds ++ more) := by
  obtain ⟨⟨d, memD, nameD⟩, e, memE, nameE⟩ := both
  exact ⟨⟨d, List.mem_append_left _ memD, nameD⟩, e, List.mem_append_left _ memE, nameE⟩

/-- An event of another correlation id is no news for this one. -/
theorem occurred_concat_of_ne {eventName c : String} {ds : List (Ambient × EventEnvelope)}
    {d : Ambient × EventEnvelope} (other : d.2.correlationID ≠ c) :
    Occurred eventName c (ds ++ [d]) ↔ Occurred eventName c ds := by
  rw [occurred_concat]
  exact or_iff_left fun news => other news.1

theorem bothOccurred_concat_of_ne {c : String} {ds : List (Ambient × EventEnvelope)}
    {d : Ambient × EventEnvelope} (other : d.2.correlationID ≠ c) :
    BothOccurred c (ds ++ [d]) ↔ BothOccurred c ds := by
  rw [BothOccurred, occurred_concat_of_ne other, occurred_concat_of_ne other, BothOccurred]

variable {d : Ambient × EventEnvelope} {ds : List (Ambient × EventEnvelope)}

/-- Without failures an execution finds the saga completed, waits or announces. -/
theorem handled_cases (s : SagaStore) (d : Ambient × EventEnvelope) :
    ((s.current d.2.correlationID).completedAt ≠ none ∧
        handled s d = s.create d.2.correlationID) ∨
      ((s.current d.2.correlationID).completedAt = none ∧ (observed s d.2).ready = false ∧
        handled s d = (s.create d.2.correlationID).save (observed s d.2)) ∨
      ((s.current d.2.correlationID).completedAt = none ∧ (observed s d.2).ready = true ∧
        handled s d = (((s.create d.2.correlationID).save (observed s d.2)).save
          (completed s d.1 d.2)).publish (readyEnvelope d.1 d.2)) := by
  unfold handled
  have outcome := handleWith_outcome (fun _ => none) d.1 d.2 s
  generalize handleWith (fun _ => none) d.1 d.2 s = result at outcome
  cases outcome with
  | unread e failed | unsaved e failed | unmarked e _ failed => cases failed
  | unannounced e lost => exact absurd rfl lost.unpublished
  | alreadyCompleted done => exact .inl ⟨done, rfl⟩
  | waiting pending missing => exact .inr (.inl ⟨pending, missing, rfl⟩)
  | announced pending met => exact .inr (.inr ⟨pending, met, rfl⟩)

/-- Handling an envelope leaves the rows of all other correlation ids alone. -/
theorem handled_states_of_ne (s : SagaStore) (d : Ambient × EventEnvelope) {c : String}
    (other : c ≠ d.2.correlationID) : (handled s d).states c = s.states c := by
  have created : (s.create d.2.correlationID).states c = s.states c :=
    SagaStore.states_save_of_ne s (by rwa [SagaStore.current_correlationID])
  have saved : ((s.create d.2.correlationID).save (observed s d.2)).states c = s.states c := by
    rw [SagaStore.states_save_of_ne _ (by simpa using other), created]
  rcases handled_cases s d with ⟨_, eq⟩ | ⟨_, _, eq⟩ | ⟨_, _, eq⟩
  · rw [eq, created]
  · rw [eq, saved]
  · rw [eq]
    change SagaStore.states (SagaStore.save _ (completed s d.1 d.2)) c = s.states c
    rw [SagaStore.states_save_of_ne _ (by simpa [completed] using other), saved]

theorem handled_current_of_ne (s : SagaStore) (d : Ambient × EventEnvelope) {c : String}
    (other : c ≠ d.2.correlationID) : (handled s d).current c = s.current c := by
  rw [SagaStore.current, handled_states_of_ne s d other, SagaStore.current]

section Follows

variable (follows : Follows s ds)
include follows

/-- The copy with the event noted says what has occurred up to and with it. -/
theorem Follows.observed_iff :
    ((observed s d.2).loyaltyCredited = true ↔
        Occurred Events.loyaltyCredited d.2.correlationID (ds ++ [d])) ∧
      ((observed s d.2).inventoryReserved = true ↔
        Occurred Events.inventoryReserved d.2.correlationID (ds ++ [d])) := by
  obtain ⟨credited, reserved, _⟩ := follows d.2.correlationID
  constructor
  · rw [occurred_concat, ← credited]
    simp
  · rw [occurred_concat, ← reserved]
    simp

theorem Follows.ready_iff :
    (observed s d.2).ready = true ↔ BothOccurred d.2.correlationID (ds ++ [d]) := by
  obtain ⟨credited, reserved⟩ := follows.observed_iff (d := d)
  rw [FulfillmentSagaState.ready, Bool.and_eq_true, credited, reserved, BothOccurred]

/-- One execution keeps the store in step with the history. -/
theorem Follows.step (d : Ambient × EventEnvelope) : Follows (handled s d) (ds ++ [d]) := by
  intro c
  by_cases same : c = d.2.correlationID
  · subst same
    have ready := follows.ready_iff (d := d)
    obtain ⟨credited, reserved⟩ := follows.observed_iff (d := d)
    rcases handled_cases s d with ⟨done, eq⟩ | ⟨pending, missing, eq⟩ | ⟨pending, met, eq⟩
    · have both := bothOccurred_append [d] ((follows d.2.correlationID).2.2.mp done)
      obtain ⟨oldCredited, oldReserved, oldDone⟩ := follows d.2.correlationID
      have before := oldDone.mp done
      rw [eq, SagaStore.current_create]
      exact ⟨iff_of_true (oldCredited.mpr before.1) both.1,
        iff_of_true (oldReserved.mpr before.2) both.2, iff_of_true done both⟩
    · have stored : (handled s d).current d.2.correlationID = observed s d.2 := by
        rw [eq, current_save_observed]
      rw [stored]
      refine ⟨credited, reserved, iff_of_false ?_ ?_⟩
      · simpa using pending
      · rw [← ready, missing]
        exact Bool.false_ne_true
    · have stored : (handled s d).current d.2.correlationID = completed s d.1 d.2 := by
        rw [eq, SagaStore.current_publish, current_save_completed]
      rw [stored]
      exact ⟨credited, reserved, iff_of_true (by simp [completed]) (ready.mp met)⟩
  · rw [handled_current_of_ne s d same, occurred_concat_of_ne (Ne.symm same),
      occurred_concat_of_ne (Ne.symm same), bothOccurred_concat_of_ne (Ne.symm same)]
    exact follows c

/-- The only envelope an execution publishes is the announcement, when its event is
the second of the two. -/
theorem Follows.published (d : Ambient × EventEnvelope) :
    (Completes ds d → (handled s d).published =
        s.published ++ [readyEnvelope d.1 d.2]) ∧
      (¬ Completes ds d → (handled s d).published = s.published) := by
  have ready := follows.ready_iff (d := d)
  have done := (follows d.2.correlationID).2.2
  rcases handled_cases s d with ⟨before, eq⟩ | ⟨pending, missing, eq⟩ | ⟨pending, met, eq⟩
  · rw [eq, SagaStore.published_create]
    exact ⟨fun completes => absurd (done.mp before) completes.1, fun _ => rfl⟩
  · rw [eq, SagaStore.published_save, SagaStore.published_create]
    refine ⟨fun completes => ?_, fun _ => rfl⟩
    rw [ready.mpr completes.2] at missing
    cases missing
  · rw [eq]
    refine ⟨fun _ => rfl, fun other => absurd ⟨fun both => ?_, ready.mp met⟩ other⟩
    exact done.mpr both pending

end Follows

/-- After any run from the empty store, the store knows the history. -/
theorem follows_run (ds : List (Ambient × EventEnvelope)) :
    Follows (runFrom handled .empty ds) ds := by
  induction ds using List.reverseRecOn with
  | nil => simp [Follows, Occurred, BothOccurred]
  | append_singleton ds d ih =>
      rw [runFrom_concat]
      exact ih.step d

/-- One execution announces for its own correlation id, if its event is the second of
the two, and for no other. -/
theorem readyFor_concat (ds : List (Ambient × EventEnvelope)) (d : Ambient × EventEnvelope)
    (c : String) :
    (Completes ds d ∧ d.2.correlationID = c →
      readyFor c (runFrom handled .empty (ds ++ [d])) =
        readyFor c (runFrom handled .empty ds) ++ [readyEnvelope d.1 d.2]) ∧
    (¬ (Completes ds d ∧ d.2.correlationID = c) →
      readyFor c (runFrom handled .empty (ds ++ [d])) =
        readyFor c (runFrom handled .empty ds)) := by
  obtain ⟨announced, silent⟩ := (follows_run ds).published d
  rw [runFrom_concat]
  unfold readyFor
  by_cases completes : Completes ds d
  · rw [announced completes, List.filter_append]
    by_cases own : d.2.correlationID = c
    · simp [completes, own, isReady, readyEnvelope]
    · simp [own, isReady, readyEnvelope]
  · rw [silent completes]
    exact ⟨fun h => absurd h.1 completes, fun _ => rfl⟩

/-- Nothing is announced before both events have occurred. -/
theorem readyFor_of_not_both {c : String} {ds : List (Ambient × EventEnvelope)}
    (missing : ¬ BothOccurred c ds) : readyFor c (runFrom handled .empty ds) = [] := by
  induction ds using List.reverseRecOn with
  | nil => rfl
  | append_singleton ds d ih =>
      rw [(readyFor_concat ds d c).2]
      · exact ih fun both => missing (bothOccurred_append [d] both)
      · rintro ⟨⟨_, both⟩, rfl⟩
        exact missing both

/-- Nothing more is announced once both events have occurred. -/
theorem readyFor_append_of_both {c : String} {ds : List (Ambient × EventEnvelope)}
    (both : BothOccurred c ds) (more : List (Ambient × EventEnvelope)) :
    readyFor c (runFrom handled .empty (ds ++ more)) = readyFor c (runFrom handled .empty ds) := by
  induction more using List.reverseRecOn with
  | nil => rw [List.append_nil]
  | append_singleton more d ih =>
      rw [← List.append_assoc, (readyFor_concat (ds ++ more) d c).2, ih]
      rintro ⟨⟨notYet, _⟩, rfl⟩
      exact notYet (bothOccurred_append more both)

/-- How often the order of a correlation id is announced. -/
theorem length_readyFor (c : String) (ds : List (Ambient × EventEnvelope)) :
    (readyFor c (runFrom handled .empty ds)).length = if BothOccurred c ds then 1 else 0 := by
  induction ds using List.reverseRecOn with
  | nil => simp [readyFor, SagaStore.empty, BothOccurred, Occurred]
  | append_singleton ds d ih =>
      by_cases before : BothOccurred c ds
      · rw [readyFor_append_of_both before, ih, if_pos before,
          if_pos (bothOccurred_append [d] before)]
      · by_cases now : BothOccurred c (ds ++ [d])
        · have own : d.2.correlationID = c :=
            not_not.mp fun other => before ((bothOccurred_concat_of_ne other).mp now)
          have completes : Completes ds d := by
            rw [Completes, own]
            exact ⟨before, now⟩
          rw [(readyFor_concat ds d c).1 ⟨completes, own⟩, readyFor_of_not_both before, if_pos now]
          rfl
        · rw [readyFor_of_not_both now, if_neg now]
          rfl

/-- The saga publishes announcements and nothing else. -/
theorem published_run (ds : List (Ambient × EventEnvelope)) :
    ∀ env ∈ (runFrom handled .empty ds).published,
      env.eventName = Events.orderFulfillmentReady := by
  induction ds using List.reverseRecOn with
  | nil => exact fun env mem => absurd mem List.not_mem_nil
  | append_singleton ds d ih =>
      obtain ⟨announced, silent⟩ := (follows_run ds).published d
      rw [runFrom_concat]
      by_cases completes : Completes ds d
      · rw [announced completes]
        intro env mem
        obtain old | new := List.mem_append.mp mem
        · exact ih env old
        · rw [List.mem_singleton.mp new]
          rfl
      · rwa [silent completes]

/-- For every list of envelopes handled one after another without failures: the order
of a correlation id is announced once, while handling the first envelope at which
both events have occurred, if they do, and never otherwise; and an execution changes
no state but that of its own correlation id. -/
theorem saga_announces_exactly_once (ds : List (Ambient × EventEnvelope)) :
    (∀ c, BothOccurred c ds → ∃ before d after, ds = before ++ d :: after ∧
      ¬ BothOccurred c before ∧ BothOccurred c (before ++ [d]) ∧
      (handled (runFrom handled .empty before) d).published =
        (runFrom handled .empty before).published ++ [readyEnvelope d.1 d.2] ∧
      readyFor c (runFrom handled .empty ds) = [readyEnvelope d.1 d.2] ∧
      (readyEnvelope d.1 d.2).correlationID = c ∧
      (readyEnvelope d.1 d.2).causationID = d.2.eventID) ∧
    (∀ c, ¬ BothOccurred c ds → readyFor c (runFrom handled .empty ds) = []) ∧
    ∀ s d c, c ≠ d.2.correlationID → (handled s d).states c = s.states c := by
  refine ⟨fun c both => ?_, fun c => readyFor_of_not_both, fun s d c => handled_states_of_ne s d⟩
  have start : ¬ BothOccurred c [] := by simp [BothOccurred, Occurred]
  obtain ⟨before, d, after, split, notYet, now⟩ := exists_turning_point start both
  have own : d.2.correlationID = c :=
    not_not.mp fun other => notYet ((bothOccurred_concat_of_ne other).mp now)
  have completes : Completes before d := by
    rw [Completes, own]
    exact ⟨notYet, now⟩
  refine ⟨before, d, after, split, notYet, now, ((follows_run before).published d).1 completes,
    ?_, own, rfl⟩
  rw [split, List.append_cons, readyFor_append_of_both now,
    (readyFor_concat before d c).1 ⟨completes, own⟩, readyFor_of_not_both notYet, List.nil_append]

end NoFailures

end GoOdin.Saga.OrderFulfillmentSaga
