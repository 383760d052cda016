import GoOdin.Interaction.Holder
import GoOdin.Saga.Stages
import Mathlib.Data.Fintype.Basic

/-!
# The saga under concurrent deliveries

An execution works on a copy of the state that it read in its first call. Two
executions for one correlation id that both hold a copy can overwrite each other's
flag, or both announce. This module says when neither happens: if no execution reads
the state of a correlation id while another one is still about to save it, then every
interleaving announces at most once, and no event is lost.

The first invariant looks at one correlation id: at most one of its executions is
between its read and its return with work left to do. The second adds what the flags
know.
-/

namespace GoOdin.Saga.OrderFulfillmentSaga

open Interaction

variable {ι : Type} {amb : ι → Ambient} {env : ι → EventEnvelope}

/-- The program is about to read the state. -/
abbrev Finding (program : SagaProgram) : Prop :=
  program.Awaits fun call => call.kind = .findOrCreate

/-- The program has read the state and is about to save its copy. -/
abbrev Saving (program : SagaProgram) : Prop :=
  program.Awaits fun call => call.kind = .save

/-- If execution `i` is about to read a state, no execution for the same correlation id
is about to save it. -/
def FindsAlone (env : ι → EventEnvelope) (p : SagaPool ι) (i : ι) : Prop :=
  Finding (p.threads i) →
    ∀ j, (env j).correlationID = (env i).correlationID → ¬ Saving (p.threads j)

instance [Fintype ι] (env : ι → EventEnvelope) (p : SagaPool ι) (i : ι) :
    Decidable (FindsAlone env p i) :=
  inferInstanceAs (Decidable (Finding (p.threads i) →
    ∀ j, (env j).correlationID = (env i).correlationID → ¬ Saving (p.threads j)))

namespace Stage

/-- The stages after the read at which a call is left to make. -/
def busy : Stage → Bool
  | .find | .returned _ => false
  | _ => true

/-- A busy execution that is not at its publish is about to save. -/
theorem saving_of_busy {amb : Ambient} {env : EventEnvelope} {stage : Stage}
    (busy : stage.busy = true) (unpublished : stage ≠ .publish) :
    Saving (stage.program amb env) := by
  cases stage with
  | progress credited reserved => exact ⟨_, rfl, rfl⟩
  | complete => exact ⟨_, rfl, rfl⟩
  | publish => exact absurd rfl unpublished
  | find | returned => cases busy

/-- An execution that is not busy can only move by its read. -/
theorem Moves.of_not_busy {amb : Ambient} {env : EventEnvelope} {s t : SagaStore}
    {l l' : Stage} (move : Moves amb env s l l' t) (idle : l.busy = false) :
    l = .find ∧ t = s.create env.correlationID ∧
      ((s.current env.correlationID).completedAt ≠ none ∧ l' = .returned (.ok ()) ∨
        (s.current env.correlationID).completedAt = none ∧ l'.busy = true ∧ l' ≠ .publish) := by
  cases move with
  | done completed => exact ⟨rfl, rfl, .inl ⟨completed, rfl⟩⟩
  | found pending => exact ⟨rfl, rfl, .inr ⟨pending, rfl, nofun⟩⟩
  | _ => cases idle

/-- A move for another correlation id leaves the state of this one alone. -/
theorem Moves.current_of_ne {amb : Ambient} {env : EventEnvelope} {s t : SagaStore}
    {l l' : Stage} (move : Moves amb env s l l' t) {c : String} (other : env.correlationID ≠ c) :
    t.current c = s.current c := by
  cases move <;> simp [progressState, completedState, Ne.symm other]

/-- The announcements of a correlation id grow by the publish of its own executions. -/
theorem Moves.readyFor_eq {amb : Ambient} {env : EventEnvelope} {s t : SagaStore}
    {l l' : Stage} (move : Moves amb env s l l' t) (c : String) :
    readyFor c t = readyFor c s ++
      if l = .publish ∧ env.correlationID = c then [readyEnvelope amb env] else [] := by
  cases move with
  | announced =>
      by_cases own : env.correlationID = c <;> simp [readyFor, isReady, readyEnvelope, own]
  | _ => simp [readyFor]

end Stage

/-- The execution is for this correlation id. -/
abbrev Correlates (env : ι → EventEnvelope) (c : String) (i : ι) : Prop :=
  (env i).correlationID = c

/-- What the executions of one correlation id are doing, and how often it was
announced. -/
inductive Status (env : ι → EventEnvelope) (c : String) (base : Nat) (p : SagaPool ι)
    (stage : ι → Stage) : Prop where
  | waiting (pending : (p.store.current c).completedAt = none)
      (idle : Idle (Correlates env c) Stage.busy stage)
      (count : (readyFor c p.store).length = base)
  | held (i : ι) (own : Correlates env c i) (busy : (stage i).busy = true)
      (done : (p.store.current c).completedAt ≠ none ↔ stage i = .publish)
      (idle : IdleBut (Correlates env c) Stage.busy i stage)
      (count : (readyFor c p.store).length = base)
  | settled (done : (p.store.current c).completedAt ≠ none)
      (idle : Idle (Correlates env c) Stage.busy stage)
      (count : (readyFor c p.store).length ≤ base + 1)

section Step

variable [DecidableEq ι] {c : String} {base : Nat} {p p' : SagaPool ι} {stage : ι → Stage}
  {i : ι} {l' : Stage}

/-- A move for another correlation id does not touch the status of this one. -/
theorem status_other (status : Status env c base p stage) (other : ¬ Correlates env c i)
    (move : Stage.Moves (amb i) (env i) p.store (stage i) l' p'.store) :
    Status env c base p' (Function.update stage i l') := by
  have current := move.current_of_ne other
  have ready : readyFor c p'.store = readyFor c p.store := by
    rw [move.readyFor_eq c, if_neg fun own => other own.2, List.append_nil]
  cases status with
  | waiting pending idle count =>
      exact .waiting (current ▸ pending) (idle.update_of_not_uses other) (ready ▸ count)
  | held h own busy done idle count =>
      have elsewhere : Function.update stage i l' h = stage h := by
        apply Function.update_of_ne
        rintro rfl
        exact other own
      refine .held h own ?_ ?_ (idle.update_of_not_uses other) (ready ▸ count)
      · rw [elsewhere]
        exact busy
      · rw [current, elsewhere]
        exact done
  | settled done idle count =>
      exact .settled (current ▸ done) (idle.update_of_not_uses other) (ready ▸ count)

/-- A move of the one busy execution of a correlation id. -/
theorem status_holder (own : Correlates env c i)
    (move : Stage.Moves (amb i) (env i) p.store (stage i) l' p'.store)
    (busy : (stage i).busy = true)
    (done : (p.store.current c).completedAt ≠ none ↔ stage i = .publish)
    (idle : IdleBut (Correlates env c) Stage.busy i stage)
    (count : (readyFor c p.store).length = base) :
    Status env c base p' (Function.update stage i l') := by
  have ready := move.readyFor_eq c
  have self : Function.update stage i l' i = l' := Function.update_self i l' stage
  generalize here : stage i = l at move busy done ready
  generalize after : p'.store = t at move ready
  cases move with
  | done completed => cases busy
  | found pending => cases busy
  | waits missing =>
      apply Status.waiting
      · rw [after, SagaStore.current_save_of_eq _ (progressState (env i) _ _) own]
        rfl
      · exact idle.update_inactive rfl
      · rw [after, ready]
        simpa using count
  | met =>
      refine .held i own (by rw [self]; rfl) ?_ (idle.update _) ?_
      · rw [self, after, SagaStore.current_save_of_eq _ (progressState (env i) _ _) own]
        simp [progressState]
      · rw [after, ready]
        simpa using count
  | completed =>
      refine .held i own (by rw [self]; rfl) ?_ (idle.update _) ?_
      · rw [self, after, SagaStore.current_save_of_eq _ (completedState (amb i) (env i)) own]
        simp [completedState]
      · rw [after, ready]
        simpa using count
  | announced =>
      apply Status.settled
      · rw [after, SagaStore.current_publish]
        exact done.mpr rfl
      · exact idle.update_inactive rfl
      · rw [after, ready, if_pos ⟨rfl, own⟩, List.length_append, count]
        exact Nat.le_refl _

/-- The status of a correlation id across a move of one of its executions. -/
theorem status_own (status : Status env c base p stage) (own : Correlates env c i)
    (alone : stage i = .find → ∀ j, Correlates env c j → (stage j).busy = true →
      stage j = .publish)
    (move : Stage.Moves (amb i) (env i) p.store (stage i) l' p'.store) :
    Status env c base p' (Function.update stage i l') := by
  have reads : (stage i).busy = false → stage i = .find ∧ p'.store.current c = p.store.current c ∧
      readyFor c p'.store = readyFor c p.store ∧
      ((p.store.current c).completedAt ≠ none ∧ l' = .returned (.ok ()) ∨
        (p.store.current c).completedAt = none ∧ l'.busy = true ∧ l' ≠ .publish) := by
    intro idle
    obtain ⟨atFind, store, read⟩ := move.of_not_busy idle
    rw [own] at read
    refine ⟨atFind, ?_, ?_, read⟩
    · rw [store, SagaStore.current_create]
    · rw [store]
      rfl
  cases status with
  | waiting pending idle count =>
      obtain ⟨_, current, ready, ⟨done, _⟩ | ⟨_, busy, unpublished⟩⟩ := reads (idle i own)
      · exact absurd pending done
      · have self : Function.update stage i l' i = l' := Function.update_self i l' stage
        refine .held i own (by rw [self]; exact busy) ?_ ((idle.but i).update l') (ready ▸ count)
        rw [self, current]
        exact iff_of_false (not_not.mpr pending) unpublished
  | held h ownH busy done idle count =>
      by_cases same : h = i
      · subst same
        exact status_holder own move busy done idle count
      · -- The second execution is at its read, so the holder has only its publish left.
        obtain ⟨atFind, current, ready, read⟩ := reads (idle i (Ne.symm same) own)
        have publishing := alone atFind h ownH busy
        obtain ⟨_, rfl⟩ | ⟨pending, _⟩ := read
        · have elsewhere := Function.update_of_ne same (.returned (.ok ()) : Stage) stage
          refine .held h ownH ?_ ?_ (idle.update_of_inactive rfl) (ready ▸ count)
          · rw [elsewhere]
            exact busy
          · rw [current, elsewhere]
            exact done
        · exact absurd pending (done.mpr publishing)
  | settled done idle count =>
      obtain ⟨_, current, ready, ⟨_, rfl⟩ | ⟨pending, _⟩⟩ := reads (idle i own)
      · exact .settled (current ▸ done) ((idle.but i).update_inactive rfl) (ready ▸ count)
      · exact absurd pending done

end Step

section Run

theorem status_start (amb : ι → Ambient) (env : ι → EventEnvelope) (s : SagaStore) (c : String) :
    Status env c (readyFor c s).length (startSaga amb env s) fun _ => .find := by
  by_cases pending : (s.current c).completedAt = none
  · exact .waiting pending (fun _ _ => rfl) rfl
  · exact .settled pending (fun _ _ => rfl) (Nat.le_succ _)

variable [DecidableEq ι]

/-- One allowed move keeps the status of every correlation id. -/
theorem status_move {c : String} {base : Nat} {p p' : SagaPool ι} {i : ι} {stage : ι → Stage}
    {l' : Stage} (located : AtStages amb env p stage) (status : Status env c base p stage)
    (alone : FindsAlone env p i) (moved : Moved amb env p stage i l' p') :
    Status env c base p' (Function.update stage i l') := by
  by_cases own : Correlates env c i
  · apply status_own status own _ moved.move
    intro atFind j ownJ busy
    have finding : Finding (p.threads i) := by
      rw [located i, atFind]
      exact ⟨_, rfl, rfl⟩
    by_contra unpublished
    apply alone finding j (ownJ.trans own.symm)
    rw [located j]
    exact Stage.saving_of_busy busy unpublished
  · exact status_other status own moved.move

/-- If no execution reads the state of a correlation id while another one is about to
save it, every interleaving announces each correlation id at most once. -/
theorem announced_at_most_once (amb : ι → Ambient) (env : ι → EventEnvelope) (s : SagaStore)
    (schedule : List ι)
    (alone : Admitted (Pool.step serve) (FindsAlone env) (startSaga amb env s) schedule)
    (c : String) :
    (readyFor c (runFrom (Pool.step serve) (startSaga amb env s) schedule).store).length ≤
      (readyFor c s).length + 1 := by
  obtain ⟨stage, _, status⟩ := Pool.invariant (Status env c (readyFor c s).length)
    (fun i => Stage.stage_tracks (amb i) (env i))
    (fun _ _ _ _ located status alone moved _ => status_move located status alone moved)
    alone (startSaga_atStages amb env s) (status_start amb env s c)
  cases status with
  | waiting pending idle count => omega
  | held i own busy done idle count => omega
  | settled done idle count => exact count

/-- The events of one order: the credit, the reservation and the reservation again. -/
def sampleEvents (i : Fin 3) : EventEnvelope where
  eventID := if i = 0 then "01CREDITED" else "01RESERVED"
  correlationID := "trace-1"
  causationID := "01ORDER"
  eventName := if i = 0 then Events.loyaltyCredited else Events.inventoryReserved

def sampleAmbients (_ : Fin 3) : Ambient := ⟨"01READY", ⟨1700000003000000000⟩⟩

/-- The repeated reservation is read after the first one has saved its completion. -/
theorem announced_at_most_once_repeated :
    (readyFor "trace-1" (runFrom (Pool.step serve)
      (startSaga sampleAmbients sampleEvents .empty) [0, 0, 1, 1, 1, 2, 1]).store).length ≤ 1 :=
  announced_at_most_once sampleAmbients sampleEvents .empty [0, 0, 1, 1, 1, 2, 1] (by decide)
    "trace-1"

/-- Both deliveries of the reservation read the state before either has completed it:
the order is announced twice. -/
theorem overlapping_deliveries_announce_twice :
    (readyFor "trace-1" (runFrom (Pool.step serve)
      (startSaga sampleAmbients sampleEvents .empty)
      [0, 0, 1, 2, 1, 1, 1, 2, 2, 2]).store).length = 2 := by
  decide

end Run

section NothingLost

/-- An execution at this stage has had its event saved, or has found the saga
completed. -/
def Stage.noted : Stage → Bool
  | .find | .progress _ _ => false
  | _ => true

/-- The flag for this event is set. -/
def Notes (state : FulfillmentSagaState) (eventName : String) : Prop :=
  (eventName = Events.loyaltyCredited → state.loyaltyCredited = true) ∧
    (eventName = Events.inventoryReserved → state.inventoryReserved = true)

/-- What the stored state of one correlation id knows, and what its executions still
owe it. -/
structure Knows (env : ι → EventEnvelope) (c : String) (p : SagaPool ι) (stage : ι → Stage) :
    Prop where
  copies : ∀ i credited reserved, Correlates env c i → stage i = .progress credited reserved →
    ((p.store.current c).loyaltyCredited = true → credited = true) ∧
      ((p.store.current c).inventoryReserved = true → reserved = true) ∧
      Notes (progressState (env i) credited reserved) (env i).eventName
  noted : ∀ i, Correlates env c i → (stage i).noted = true →
    Notes (p.store.current c) (env i).eventName
  completing : (p.store.current c).completedAt = none → (p.store.current c).ready = true →
    ∃ i, Correlates env c i ∧ stage i = .complete
  met : (p.store.current c).completedAt ≠ none → (p.store.current c).ready = true
  told : (p.store.current c).completedAt ≠ none →
    readyFor c p.store ≠ [] ∨ ∃ i, Correlates env c i ∧ stage i = .publish

/-- A state with both flags notes every event. -/
theorem notes_of_ready {state : FulfillmentSagaState} (ready : state.ready = true)
    (eventName : String) : Notes state eventName := by
  obtain ⟨credited, reserved⟩ := Bool.and_eq_true_iff.mp ready
  exact ⟨fun _ => credited, fun _ => reserved⟩

/-- A busy execution is the only one of its correlation id. -/
theorem Status.idleBut {c : String} {base : Nat} {p : SagaPool ι} {stage : ι → Stage} {i : ι}
    (status : Status env c base p stage) (own : Correlates env c i)
    (busy : (stage i).busy = true) : IdleBut (Correlates env c) Stage.busy i stage := by
  cases status with
  | held h ownH busyH done idle count =>
      rw [idle.eq_of_active own busy]
      exact idle
  | waiting _ idle | settled _ idle =>
      rw [idle i own] at busy
      cases busy

section Step

variable [DecidableEq ι] {c : String} {base : Nat} {p p' : SagaPool ι} {stage : ι → Stage}
  {i : ι} {l' : Stage}

/-- A move that keeps the state of a correlation id and its announcements, and that is
no step of it towards completion, keeps what is known. -/
theorem knows_of_same (knows : Knows env c p stage)
    (current : p'.store.current c = p.store.current c)
    (ready : readyFor c p'.store = readyFor c p.store)
    (copies : ∀ credited reserved, Correlates env c i → l' = .progress credited reserved →
      ((p.store.current c).loyaltyCredited = true → credited = true) ∧
        ((p.store.current c).inventoryReserved = true → reserved = true) ∧
        Notes (progressState (env i) credited reserved) (env i).eventName)
    (noted : Correlates env c i → l'.noted = true → Notes (p.store.current c) (env i).eventName)
    (early : Correlates env c i → (stage i).noted = false) :
    Knows env c p' (Function.update stage i l') := by
  have kept : ∀ j, Correlates env c j → (stage j).noted = true →
      Function.update stage i l' j = stage j := by
    intro j own notedJ
    apply Function.update_of_ne
    rintro rfl
    rw [early own] at notedJ
    cases notedJ
  constructor <;> rw [current]
  · intro j credited reserved own here
    by_cases same : j = i
    · subst same
      rw [Function.update_self] at here
      exact copies credited reserved own here
    · rw [Function.update_of_ne same] at here
      exact knows.copies j credited reserved own here
  · intro j own here
    by_cases same : j = i
    · subst same
      rw [Function.update_self] at here
      exact noted own here
    · rw [Function.update_of_ne same] at here
      exact knows.noted j own here
  · intro pending met
    obtain ⟨j, own, here⟩ := knows.completing pending met
    exact ⟨j, own, by rw [kept j own (by rw [here]; rfl), here]⟩
  · exact knows.met
  · rw [ready]
    intro done
    refine (knows.told done).imp_right ?_
    rintro ⟨j, own, here⟩
    exact ⟨j, own, by rw [kept j own (by rw [here]; rfl), here]⟩

/-- A save by the only busy execution of a correlation id: its copy becomes what is
known. -/
theorem knows_of_save (own : Correlates env c i)
    (idle : IdleBut (Correlates env c) Stage.busy i stage) {state : FulfillmentSagaState}
    (current : p'.store.current c = state) (knows : Knows env c p stage)
    (grows : ∀ j, Correlates env c j → Notes (p.store.current c) (env j).eventName →
      Notes state (env j).eventName)
    (notes : Notes state (env i).eventName) (noted : l'.noted = true)
    (completing : state.completedAt = none → state.ready = true → l' = .complete)
    (met : state.completedAt ≠ none → state.ready = true)
    (told : state.completedAt ≠ none → l' = .publish) :
    Knows env c p' (Function.update stage i l') := by
  have self : Function.update stage i l' i = l' := Function.update_self i l' stage
  constructor <;> rw [current]
  · intro j credited reserved ownJ here
    by_cases same : j = i
    · rw [same, self] at here
      rw [here] at noted
      cases noted
    · rw [Function.update_of_ne same] at here
      have idleJ := idle j same ownJ
      rw [here] at idleJ
      cases idleJ
  · intro j ownJ here
    by_cases same : j = i
    · rw [same]
      exact notes
    · rw [Function.update_of_ne same] at here
      exact grows j ownJ (knows.noted j ownJ here)
  · intro pending ready
    exact ⟨i, own, by rw [self, completing pending ready]⟩
  · exact met
  · intro done
    exact .inr ⟨i, own, by rw [self, told done]⟩

/-- The publish of the only busy execution. -/
theorem knows_of_publish (own : Correlates env c i) (knows : Knows env c p stage)
    (publishing : stage i = .publish) (current : p'.store.current c = p.store.current c)
    (ready : readyFor c p'.store ≠ []) :
    Knows env c p' (Function.update stage i (.returned (.ok ()))) := by
  constructor <;> rw [current]
  · intro j credited reserved ownJ here
    by_cases same : j = i
    · rw [same, Function.update_self] at here
      cases here
    · rw [Function.update_of_ne same] at here
      exact knows.copies j credited reserved ownJ here
  · intro j ownJ here
    by_cases same : j = i
    · rw [same]
      exact knows.noted i own (by rw [publishing]; rfl)
    · rw [Function.update_of_ne same] at here
      exact knows.noted j ownJ here
  · intro pending met
    obtain ⟨j, ownJ, here⟩ := knows.completing pending met
    have other : j ≠ i := by
      rintro rfl
      rw [publishing] at here
      cases here
    exact ⟨j, ownJ, by rw [Function.update_of_ne other, here]⟩
  · exact knows.met
  · exact fun _ => .inl ready

/-- One move of an execution of the correlation id keeps what is known. -/
theorem knows_own (status : Status env c base p stage) (knows : Knows env c p stage)
    (own : Correlates env c i)
    (move : Stage.Moves (amb i) (env i) p.store (stage i) l' p'.store) :
    Knows env c p' (Function.update stage i l') := by
  have ready := move.readyFor_eq c
  have alone := status.idleBut own
  have copy := fun credited reserved => knows.copies i credited reserved own
  generalize here : stage i = l at move ready alone copy
  generalize after : p'.store = t at move ready
  cases move with
  | done completed =>
      have current : p'.store.current c = p.store.current c := by
        rw [after, SagaStore.current_create]
      rw [own] at completed
      apply knows_of_same knows current
      · rw [after]
        rfl
      · intro credited reserved _ eq
        cases eq
      · intro _ _
        exact notes_of_ready (knows.met completed) _
      · intro _
        rw [here]
        rfl
  | found pending =>
      have current : p'.store.current c = p.store.current c := by
        rw [after, SagaStore.current_create]
      apply knows_of_same knows current
      · rw [after]
        rfl
      · intro credited reserved _ eq
        cases eq
        rw [own]
        refine ⟨?_, ?_, ?_, ?_⟩ <;> intro set <;> simp [progressState, set]
      · intro _ noted
        cases noted
      · intro _
        rw [here]
        rfl
  | waits missing =>
      obtain ⟨credited, reserved, notes⟩ := copy _ _ rfl
      apply knows_of_save own (alone rfl)
        (after ▸ SagaStore.current_save_of_eq _ (progressState (env i) _ _) own) knows
      · intro j _ known
        exact ⟨fun name => credited (known.1 name), fun name => reserved (known.2 name)⟩
      · exact notes
      · rfl
      · intro _ met
        exact absurd (met.symm.trans missing) (by decide)
      · exact fun done => absurd rfl done
      · exact fun done => absurd rfl done
  | met =>
      apply knows_of_save own (alone rfl)
        (after ▸ SagaStore.current_save_of_eq _ (progressState (env i) _ _) own) knows
      · exact fun j _ _ => notes_of_ready rfl _
      · exact notes_of_ready rfl _
      · rfl
      · exact fun _ _ => rfl
      · exact fun done => absurd rfl done
      · exact fun done => absurd rfl done
  | completed =>
      apply knows_of_save own (alone rfl)
        (after ▸ SagaStore.current_save_of_eq _ (completedState (amb i) (env i)) own) knows
      · exact fun j _ _ => notes_of_ready rfl _
      · exact notes_of_ready rfl _
      · rfl
      · intro pending
        cases pending
      · exact fun _ => rfl
      · exact fun _ => rfl
  | announced =>
      apply knows_of_publish own knows here
      · rw [after, SagaStore.current_publish]
      · rw [after, ready, if_pos ⟨rfl, own⟩]
        simp

/-- One move of any execution keeps what is known about a correlation id. -/
theorem knows_move (status : Status env c base p stage) (knows : Knows env c p stage)
    (moved : Moved amb env p stage i l' p') : Knows env c p' (Function.update stage i l') := by
  by_cases own : Correlates env c i
  · exact knows_own status knows own moved.move
  · apply knows_of_same knows (moved.move.current_of_ne own)
    · rw [moved.move.readyFor_eq c, if_neg fun h => own h.2, List.append_nil]
    · exact fun _ _ h => absurd h own
    · exact fun h => absurd h own
    · exact fun h => absurd h own

end Step

theorem knows_start (amb : ι → Ambient) (env : ι → EventEnvelope) (c : String) :
    Knows env c (startSaga amb env .empty) fun _ => .find := by
  constructor
  · intro i credited reserved _ eq
    cases eq
  · intro i _ noted
    cases noted
  · intro _ ready
    cases ready
  · exact fun done => absurd rfl done
  · exact fun done => absurd rfl done

/-- If no execution reads the state of a correlation id while another one is about to
save it, then in every state in which all executions have returned nil, a correlation
id whose two events were both handled is completed and announced. -/
theorem no_prerequisite_lost [DecidableEq ι] (amb : ι → Ambient) (env : ι → EventEnvelope)
    (schedule : List ι)
    (alone : Admitted (Pool.step serve) (FindsAlone env) (startSaga amb env .empty) schedule)
    (returned : ∀ i, ((runFrom (Pool.step serve) (startSaga amb env .empty) schedule).threads
      i).succeeded = true)
    (c : String)
    (credited : ∃ i, (env i).correlationID = c ∧ (env i).eventName = Events.loyaltyCredited)
    (reserved : ∃ i, (env i).correlationID = c ∧ (env i).eventName = Events.inventoryReserved) :
    (∃ state,
      (runFrom (Pool.step serve) (startSaga amb env .empty) schedule).store.states c =
        some state ∧
      state.loyaltyCredited = true ∧ state.inventoryReserved = true ∧
      state.completedAt ≠ none) ∧
    readyFor c (runFrom (Pool.step serve) (startSaga amb env .empty) schedule).store ≠ [] := by
  obtain ⟨stage, located, _, knows⟩ := Pool.invariant
    (fun p stage => Status env c (readyFor c .empty).length p stage ∧ Knows env c p stage)
    (fun i => Stage.stage_tracks (amb i) (env i))
    (fun _ _ _ _ located known alone moved _ =>
      ⟨status_move located known.1 alone moved, knows_move known.1 known.2 moved⟩)
    alone (startSaga_atStages amb env .empty) ⟨status_start amb env .empty c, knows_start amb env c⟩
  have finished : ∀ i, ∃ result, stage i = .returned result := by
    intro i
    have success := returned i
    rw [located i] at success
    cases here : stage i with
    | returned result => exact ⟨result, rfl⟩
    | _ =>
        rw [here] at success
        cases success
  generalize runFrom (Pool.step serve) (startSaga amb env .empty) schedule = p at *
  have noted : ∀ i, (env i).correlationID = c → Notes (p.store.current c) (env i).eventName := by
    intro i own
    obtain ⟨result, here⟩ := finished i
    exact knows.noted i own (by rw [here]; rfl)
  obtain ⟨i, ownI, nameI⟩ := credited
  obtain ⟨j, ownJ, nameJ⟩ := reserved
  have first := (noted i ownI).1 nameI
  have second := (noted j ownJ).2 nameJ
  have done : (p.store.current c).completedAt ≠ none := by
    intro pending
    obtain ⟨k, _, here⟩ := knows.completing pending (Bool.and_eq_true_iff.mpr ⟨first, second⟩)
    obtain ⟨result, returned⟩ := finished k
    rw [here] at returned
    cases returned
  constructor
  · cases found : p.store.states c with
    | none =>
        rw [SagaStore.current, found] at done
        exact absurd rfl done
    | some state =>
        rw [SagaStore.current, found] at first second done
        exact ⟨state, rfl, first, second, done⟩
  · refine (knows.told done).resolve_right ?_
    rintro ⟨k, _, here⟩
    obtain ⟨result, returned⟩ := finished k
    rw [here] at returned
    cases returned

/-- Three deliveries, the last of which reads after the order was completed. -/
theorem no_prerequisite_lost_serial :
    readyFor "trace-1" (runFrom (Pool.step serve)
      (startSaga sampleAmbients sampleEvents .empty) [1, 1, 0, 0, 0, 2, 0]).store ≠ [] :=
  (no_prerequisite_lost sampleAmbients sampleEvents [1, 1, 0, 0, 0, 2, 0] (by decide) (by decide)
    "trace-1" ⟨0, rfl, rfl⟩ ⟨1, rfl, rfl⟩).2

/-- The two events of an order are handled at the same time: each execution saves its
own copy, the second save erases the first flag, and both return nil. -/
theorem overlapping_events_lose_flag :
    let p := runFrom (Pool.step serve)
      (startSaga (fun b : Bool => sampleAmbients (if b then 1 else 0))
        (fun b => sampleEvents (if b then 1 else 0)) .empty)
      [false, true, false, true]
    (∀ i, (p.threads i).succeeded = true) ∧
      (p.store.current "trace-1").loyaltyCredited = false ∧
      (p.store.current "trace-1").completedAt = none ∧
      (readyFor "trace-1" p.store).length = 0 := by
  decide

end NothingLost

end GoOdin.Saga.OrderFulfillmentSaga
