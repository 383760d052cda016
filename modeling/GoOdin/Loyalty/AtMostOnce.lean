import GoOdin.Interaction.Holder
import GoOdin.Loyalty.CreditStages
import Mathlib.Data.Fintype.Basic

/-!
# At most one credit for one event

The idempotency check and the mark are separate calls, so two executions for the
same event can both pass the check. This module says what saves the handler: if no
execution checks a key while another one with that key is between its check and its
return, then every interleaving saves at most once and announces at most once for
that key.

The invariant looks at one key. The key is free, or held by exactly one execution
that is past its check, or marked; the saves and announcements so far are then
determined by the holder's stage.
-/

namespace GoOdin.Loyalty.CreditLoyaltyHandler

open Interaction

variable {ι : Type} {amb : ι → Ambient} {cmd : ι → CreditLoyaltyRequest}

/-- This served call added points for the key to a stored balance. -/
def credits (cmd : ι → CreditLoyaltyRequest) (key : String) :
    Served ι LoyaltyCall LoyaltyCall.Answer LoyaltyError → Bool
  | ⟨i, .save _, .ok _⟩ => decide ((cmd i).causationEventID = key)
  | _ => false

/-- How often points for the key were added so far. -/
def creditCount (cmd : ι → CreditLoyaltyRequest) (key : String) (p : CreditPool ι) : Nat :=
  p.trace.countP (credits cmd key)

/-- The envelope announces a credit for the key. -/
def announces (key : String) (env : EventEnvelope) : Bool :=
  decide (env.eventName = Events.loyaltyCredited ∧ env.causationID = key)

/-- How often a credit for the key was announced in this store. -/
def announceCount (key : String) (s : LoyaltyStore) : Nat :=
  s.published.countP (announces key)

/-- The program is about to check its key. -/
abbrev Checking (program : LoyaltyProgram CreditLoyaltyResponse) : Prop :=
  program.Awaits fun c => c.kind = .exists

/-- The program is past its check and has not returned. -/
abbrev InFlight (program : LoyaltyProgram CreditLoyaltyResponse) : Prop :=
  program.Awaits fun c => c.kind ≠ .exists

/-- If execution `i` is about to check its key, no execution with the same key is in
flight. -/
def ChecksAlone (cmd : ι → CreditLoyaltyRequest) (p : CreditPool ι) (i : ι) : Prop :=
  Checking (p.threads i) →
    ∀ j, (cmd j).causationEventID = (cmd i).causationEventID → ¬ InFlight (p.threads j)

instance [Fintype ι] (cmd : ι → CreditLoyaltyRequest) (p : CreditPool ι) (i : ι) :
    Decidable (ChecksAlone cmd p i) :=
  inferInstanceAs (Decidable (Checking (p.threads i) →
    ∀ j, (cmd j).causationEventID = (cmd i).causationEventID → ¬ InFlight (p.threads j)))

namespace Stage

/-- The stages between the check and the return. -/
def flies : Stage → Bool
  | .check | .returned _ => false
  | _ => true

/-- Saves an execution in flight has made. -/
def saves : Stage → Nat
  | .publish _ | .mark _ => 1
  | _ => 0

/-- Announcements an execution in flight has made. -/
def announcements : Stage → Nat
  | .mark _ => 1
  | _ => 0

theorem saves_le_one (stage : Stage) : stage.saves ≤ 1 := by
  cases stage <;> simp [saves]

theorem announcements_le_one (stage : Stage) : stage.announcements ≤ 1 := by
  cases stage <;> simp [announcements]

/-- Saves made by a move: only an answered save is one. -/
def newSaves : Stage → Stage → Nat
  | .save _, .publish _ => 1
  | _, _ => 0

/-- Announcements made by a move. -/
def newAnnouncements : Stage → Nat
  | .publish _ => 1
  | _ => 0

theorem inFlight_program (amb : Ambient) (cmd : CreditLoyaltyRequest) (stage : Stage) :
    InFlight (stage.program amb cmd) ↔ stage.flies = true := by
  cases stage <;>
    simp [Program.Awaits, program, flies, LoyaltyCall.kind, loadOrCreate, saveAggregate,
      publishEvents]

end Stage

/-- The execution is for this key. -/
abbrev UsesKey (cmd : ι → CreditLoyaltyRequest) (key : String) (i : ι) : Prop :=
  (cmd i).causationEventID = key

/-- What the executions of one key have done so far. -/
inductive KeyStatus (cmd : ι → CreditLoyaltyRequest) (key : String) (base : Nat)
    (p : CreditPool ι) (stage : ι → Stage) : Prop where
  | free (unmarked : key ∉ p.store.keys) (idle : Idle (UsesKey cmd key) Stage.flies stage)
      (credited : creditCount cmd key p = 0) (announced : announceCount key p.store = base)
  | held (i : ι) (own : UsesKey cmd key i) (flies : (stage i).flies = true)
      (unmarked : key ∉ p.store.keys) (idle : IdleBut (UsesKey cmd key) Stage.flies i stage)
      (credited : creditCount cmd key p = (stage i).saves)
      (announced : announceCount key p.store = base + (stage i).announcements)
  | settled (marked : key ∈ p.store.keys) (idle : Idle (UsesKey cmd key) Stage.flies stage)
      (credited : creditCount cmd key p ≤ 1) (announced : announceCount key p.store ≤ base + 1)

/-- Execution `i` made a move to stage `l'`. A save in it counts as a credit for the
key of its command. -/
structure Stepped (amb : ι → Ambient) (cmd : ι → CreditLoyaltyRequest) (stage : ι → Stage)
    (p : CreditPool ι) (i : ι) (l' : Stage) (p' : CreditPool ι) : Prop where
  move : Stage.Moves (amb i) (cmd i) p.store (stage i) l' p'.store
  credit : ∀ key, creditCount cmd key p' = creditCount cmd key p +
    if (cmd i).causationEventID = key then (stage i).newSaves l' else 0

private theorem credits_move {i : ι} {key : String} {s t : LoyaltyStore} {l l' : Stage}
    {c : LoyaltyCall} {next : Except LoyaltyError c.Answer → LoyaltyProgram CreditLoyaltyResponse}
    (move : Stage.Moves (amb i) (cmd i) s l l' t)
    (call : l.program (amb i) (cmd i) = .call c next) :
    (if credits cmd key ⟨i, c, (serve s c).1⟩ then 1 else 0) =
      if (cmd i).causationEventID = key then l.newSaves l' else 0 := by
  cases move with
  | saveFailed e rejected =>
      cases call
      simp [credits, serve, rejected, writeReply, Stage.newSaves]
  | saved saves =>
      cases call
      simp [credits, serve, saves, writeReply, Stage.newSaves]
  | _ =>
      cases call
      simp [credits, Stage.newSaves]

theorem stepped_of_moved {p p' : CreditPool ι} {stage : ι → Stage} {i : ι} {l' : Stage}
    (moved : Moved amb cmd p stage i l' p') : Stepped amb cmd stage p i l' p' := by
  obtain ⟨move, c, next, call, trace⟩ := moved
  refine ⟨move, fun key => ?_⟩
  rw [creditCount, trace, List.countP_append, List.countP_singleton, credits_move move call]
  rfl

section Step

variable {i : ι} {key : String} {base : Nat} {p p' : CreditPool ι} {stage : ι → Stage}
  {l l' : Stage} {s t : LoyaltyStore}

/-- A publish announces for the key of its command. -/
theorem announceCount_move (key : String) (move : Stage.Moves (amb i) (cmd i) s l l' t) :
    announceCount key t = announceCount key s +
      if (cmd i).causationEventID = key then l.newAnnouncements else 0 := by
  cases move with
  | saved saves => simp [announceCount, (save_frame saves).2, Stage.newAnnouncements]
  | published account =>
      simp [announceCount, announced, LoyaltyStore.publish, List.countP_append,
        List.countP_singleton, announces, creditedEnvelope, Stage.newAnnouncements]
  | _ => simp [announceCount, Stage.newAnnouncements]

/-- Only a mark changes the keys, and it adds the key of its command. -/
theorem mem_keys_move (key : String) (move : Stage.Moves (amb i) (cmd i) s l l' t) :
    key ∈ t.keys ↔ key ∈ s.keys ∨
      (cmd i).causationEventID = key ∧ ∃ account r, l = .mark account ∧ l' = .returned (.ok r) := by
  cases move with
  | saved saves => simp [(save_frame saves).1]
  | published account => simp [announced, LoyaltyStore.publish]
  | marked account free => simp [eq_comm]
  | _ => simp

/-- An execution that stays in flight counts its own saves and announcements. -/
private theorem counts_of_flies (move : Stage.Moves (amb i) (cmd i) s l l' t)
    (flies : l'.flies = true) :
    l'.saves = l.saves + l.newSaves l' ∧
      l'.announcements = l.announcements + l.newAnnouncements := by
  cases move with
  | published account =>
      unfold Stage.afterPublish at flies ⊢
      split at flies
      · next nonempty =>
          rw [if_pos nonempty]
          exact ⟨rfl, rfl⟩
      · cases flies
  | duplicate | refused | saveFailed | markFailed | marked => cases flies
  | checked | loaded | saved => exact ⟨rfl, rfl⟩

/-- An execution with a non-empty key returns from flight either before it saved, or
by the mark, or because the key was marked by someone else. -/
private theorem return_cases (nonempty : (cmd i).causationEventID ≠ "")
    (move : Stage.Moves (amb i) (cmd i) s l l' t) (flies : l.flies = true)
    (returns : l'.flies = false) :
    (l.saves = 0 ∧ l.announcements = 0 ∧ l.newSaves l' = 0 ∧ t = s) ∨
      (∃ account r, l = .mark account ∧ l' = .returned (.ok r)) ∨
        (cmd i).causationEventID ∈ s.keys := by
  cases move with
  | refused | saveFailed => exact .inl ⟨rfl, rfl, rfl, rfl⟩
  | published account =>
      rw [Stage.afterPublish, if_pos nonempty] at returns
      cases returns
  | markFailed account taken => exact .inr (.inr taken)
  | marked account free => exact .inr (.inl ⟨account, _, rfl, rfl⟩)
  | duplicate | checked => cases flies
  | loaded | saved => cases returns

/-- An execution that is not in flight can only move by its check. -/
private theorem grounded_cases (move : Stage.Moves (amb i) (cmd i) s l l' t)
    (grounded : l.flies = false) :
    l = .check ∧ t = s ∧
      ((cmd i).causationEventID ∈ s.keys ∧ l'.flies = false ∨
        (cmd i).causationEventID ∉ s.keys ∧ l' = .load) := by
  cases move with
  | duplicate taken => exact ⟨rfl, rfl, .inl ⟨taken, rfl⟩⟩
  | checked free => exact ⟨rfl, rfl, .inr ⟨free, rfl⟩⟩
  | _ => cases grounded

variable [DecidableEq ι]

/-- A move for another key does not touch the status of this one. -/
theorem keyStatus_other (status : KeyStatus cmd key base p stage)
    (other : ¬ UsesKey cmd key i) (stepped : Stepped amb cmd stage p i l' p') :
    KeyStatus cmd key base p' (Function.update stage i l') := by
  have credit : creditCount cmd key p' = creditCount cmd key p := by
    rw [stepped.credit key, if_neg other, Nat.add_zero]
  have announce : announceCount key p'.store = announceCount key p.store := by
    rw [announceCount_move key stepped.move, if_neg other, Nat.add_zero]
  have keys : key ∈ p'.store.keys ↔ key ∈ p.store.keys := by
    rw [mem_keys_move key stepped.move]
    exact or_iff_left fun marks => other marks.1
  cases status with
  | free unmarked idle credited announced =>
      exact .free (keys.not.mpr unmarked) (idle.update_of_not_uses other)
        (credit.trans credited) (announce.trans announced)
  | held h own flies unmarked idle credited announced =>
      have elsewhere : Function.update stage i l' h = stage h := by
        apply Function.update_of_ne
        rintro rfl
        exact other own
      refine .held h own ?_ (keys.not.mpr unmarked) (idle.update_of_not_uses other) ?_ ?_
      · rw [elsewhere]
        exact flies
      · rw [credit, elsewhere]
        exact credited
      · rw [announce, elsewhere]
        exact announced
  | settled marked idle credited announced =>
      exact .settled (keys.mpr marked) (idle.update_of_not_uses other) (credit ▸ credited)
        (announce ▸ announced)

/-- The only execution of a key that is in flight after its move holds the key. -/
theorem keyStatus_holds (own : UsesKey cmd key i)
    (stepped : Stepped amb cmd stage p i l' p') (unmarked : key ∉ p'.store.keys)
    (flies : l'.flies = true) (idle : IdleBut (UsesKey cmd key) Stage.flies i stage)
    (credited : creditCount cmd key p = (stage i).saves)
    (announced : announceCount key p.store = base + (stage i).announcements) :
    KeyStatus cmd key base p' (Function.update stage i l') := by
  obtain ⟨saves, announcements⟩ := counts_of_flies stepped.move flies
  have self : Function.update stage i l' i = l' := Function.update_self i l' stage
  apply KeyStatus.held i own
  · rw [self]
    exact flies
  · exact unmarked
  · exact idle.update l'
  · rw [self, stepped.credit key, if_pos own, credited, saves]
  · rw [self, announceCount_move key stepped.move, if_pos own, announced, announcements,
      Nat.add_assoc]

/-- The holder of a key returns: without a save the key is free again, and with one
it is marked. -/
theorem keyStatus_lands (nonempty : key ≠ "") (own : UsesKey cmd key i)
    (stepped : Stepped amb cmd stage p i l' p') (unmarked : key ∉ p.store.keys)
    (flies : (stage i).flies = true) (returns : l'.flies = false)
    (idle : IdleBut (UsesKey cmd key) Stage.flies i stage)
    (credited : creditCount cmd key p = (stage i).saves)
    (announced : announceCount key p.store = base + (stage i).announcements) :
    KeyStatus cmd key base p' (Function.update stage i l') := by
  have grounded := idle.update_inactive returns
  have credit := stepped.credit key
  have announce := announceCount_move key stepped.move
  rw [if_pos own] at credit announce
  rcases return_cases (own ▸ nonempty) stepped.move flies returns with
    ⟨saves, announcements, none, same⟩ | ⟨account, r, atMark, done⟩ | taken
  · apply KeyStatus.free _ grounded
    · rw [credit, credited, saves, none]
    · rw [same, announced, announcements, Nat.add_zero]
    · rw [same]
      exact unmarked
  · have keys := (mem_keys_move key stepped.move).mpr (.inr ⟨own, account, r, atMark, done⟩)
    apply KeyStatus.settled keys grounded
    · rw [credit, credited, atMark, done]
      exact Nat.le_refl _
    · rw [announce, announced, atMark]
      exact Nat.le_refl _
  · exact absurd (own ▸ taken) unmarked

/-- The status of a key across a move of an execution that has it. -/
theorem keyStatus_own (nonempty : key ≠ "") (status : KeyStatus cmd key base p stage)
    (own : UsesKey cmd key i)
    (alone : stage i = .check → Idle (UsesKey cmd key) Stage.flies stage)
    (stepped : Stepped amb cmd stage p i l' p') :
    KeyStatus cmd key base p' (Function.update stage i l') := by
  cases status with
  | free unmarked idle credited announced =>
      obtain ⟨atCheck, same, ⟨taken, _⟩ | ⟨_, rfl⟩⟩ := grounded_cases stepped.move (idle i own)
      · exact absurd (own ▸ taken) unmarked
      · apply keyStatus_holds own stepped (same ▸ unmarked) rfl (idle.but i)
        · rw [credited, atCheck]
          rfl
        · rw [announced, atCheck]
          rfl
  | held h ownH flies unmarked idle credited announced =>
      by_cases same : h = i
      · subst same
        cases flies' : l'.flies with
        | true =>
            apply keyStatus_holds own stepped _ flies' idle credited announced
            rw [mem_keys_move key stepped.move]
            rintro (taken | ⟨_, _, _, _, rfl⟩)
            · exact unmarked taken
            · cases flies'
        | false =>
            exact keyStatus_lands nonempty own stepped unmarked flies flies' idle credited announced
      · -- A second execution can only be at its check, which the condition forbids.
        have grounded := idle i (Ne.symm same) own
        have atCheck := (grounded_cases stepped.move grounded).1
        rw [alone atCheck h ownH] at flies
        cases flies
  | settled marked idle credited announced =>
      obtain ⟨atCheck, same, ⟨_, returns⟩ | ⟨free, _⟩⟩ :=
        grounded_cases stepped.move (idle i own)
      · apply KeyStatus.settled (same ▸ marked) ((idle.but i).update_inactive returns)
        · rw [stepped.credit key, if_pos own, atCheck]
          exact credited
        · rw [same]
          exact announced
      · exact absurd (own ▸ marked) free

end Step

section Run

theorem keyStatus_start (amb : ι → Ambient) (cmd : ι → CreditLoyaltyRequest) (s : LoyaltyStore)
    {key : String} (nonempty : key ≠ "") :
    KeyStatus cmd key (announceCount key s) (startCredits amb cmd s)
      fun i => Stage.first (cmd i) := by
  have idle : Idle (UsesKey cmd key) Stage.flies fun i => Stage.first (cmd i) := by
    intro j own
    dsimp only
    rw [Stage.first, if_pos (own ▸ nonempty)]
    rfl
  by_cases marked : key ∈ s.keys
  · exact .settled marked idle (Nat.zero_le _) (Nat.le_succ _)
  · exact .free marked idle rfl rfl

variable [DecidableEq ι]

/-- One allowed move keeps the status of every non-empty key. -/
theorem keyStatus_move {key : String} {base : Nat} (nonempty : key ≠ "") {p p' : CreditPool ι}
    {stage : ι → Stage} {i : ι} {l' : Stage} (located : AtStages amb cmd p stage)
    (status : KeyStatus cmd key base p stage) (alone : ChecksAlone cmd p i)
    (moved : Moved amb cmd p stage i l' p') :
    KeyStatus cmd key base p' (Function.update stage i l') := by
  have stepped := stepped_of_moved moved
  by_cases own : UsesKey cmd key i
  · apply keyStatus_own nonempty status own _ stepped
    intro atCheck j ownJ
    have checking : Checking (p.threads i) := by
      rw [located i, atCheck]
      exact ⟨_, rfl, rfl⟩
    have grounded := alone checking j (ownJ.trans own.symm)
    rw [located j, Stage.inFlight_program] at grounded
    exact Bool.eq_false_iff.mpr grounded
  · exact keyStatus_other status own stepped

/-- If no execution checks a key while another one with that key is in flight, every
interleaving adds the points of a key at most once and announces it at most once. -/
theorem credited_at_most_once (amb : ι → Ambient) (cmd : ι → CreditLoyaltyRequest)
    (s : LoyaltyStore) (schedule : List ι)
    (alone : Admitted (Pool.step serve) (ChecksAlone cmd) (startCredits amb cmd s) schedule)
    (key : String) (nonempty : key ≠ "") :
    creditCount cmd key (runFrom (Pool.step serve) (startCredits amb cmd s) schedule) ≤ 1 ∧
      announceCount key (runFrom (Pool.step serve) (startCredits amb cmd s) schedule).store ≤
        announceCount key s + 1 := by
  obtain ⟨stage, _, status⟩ := Pool.invariant (KeyStatus cmd key (announceCount key s))
    (fun i => Stage.stage_tracks (amb i) (cmd i))
    (fun _ _ _ _ located status alone moved _ => keyStatus_move nonempty located status alone moved)
    alone (startCredits_atStages amb cmd s) (keyStatus_start amb cmd s nonempty)
  cases status with
  | free unmarked idle credited announced => omega
  | held i own flies unmarked idle credited announced =>
      have saves := (stage i).saves_le_one
      have announcements := (stage i).announcements_le_one
      omega
  | settled marked idle credited announced => exact ⟨credited, announced⟩

/-- A redelivery that starts after the first delivery has returned. -/
theorem credited_at_most_once_redelivery :
    creditCount (fun _ : Bool => sampleCommand) "01ORDER"
      (runFrom (Pool.step serve)
        (startCredits (fun _ => sampleAmbient) (fun _ => sampleCommand) sampleStore)
        [false, false, false, false, false, true]) ≤ 1 :=
  (credited_at_most_once (fun _ => sampleAmbient) (fun _ => sampleCommand) sampleStore
    [false, false, false, false, false, true] (by decide) "01ORDER" (by decide)).1

/-- Two deliveries of one event both pass the check before either of them marks the
key: ten points become twenty and two events go out. The second mark fails, after
the fact. -/
theorem overlapping_deliveries_credit_twice :
    let p := runFrom (Pool.step serve)
      (startCredits (fun _ : Bool => sampleAmbient) (fun _ => sampleCommand) sampleStore)
      [false, true, false, false, false, false, true, true, true, true]
    creditCount (fun _ => sampleCommand) "01ORDER" p = 2 ∧
      announceCount "01ORDER" p.store = 2 ∧
      (p.store.accounts.findByCustomer "customer-1").map (·.balance) = some 120 := by
  decide

end Run

end GoOdin.Loyalty.CreditLoyaltyHandler
