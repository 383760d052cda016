import GoOdin.Interaction.Pool
import GoOdin.Loyalty.CreditRun

/-!
# Concurrent executions of `CreditLoyaltyHandler.Handle`

Between two calls an execution is at one of five stages, or has returned. A stage
keeps the local data that the rest of the handler still needs, which is only the
account that step 3 computed. `Moves` lists everything one atomic call can do, and
`stage_tracks` shows that the handler does nothing else.

The service is the plain one: no call fails for outside reasons, and `Mark` fails
on a key that is present.
-/

namespace GoOdin.Loyalty.CreditLoyaltyHandler

open Interaction

/-- Where an execution is, by the call it makes next. -/
inductive Stage where
  | check
  | load
  | save (account : LoyaltyAccount)
  | publish (account : LoyaltyAccount)
  | mark (account : LoyaltyAccount)
  | returned (result : Except LoyaltyError CreditLoyaltyResponse)

namespace Stage

/-- The first call. An empty key goes straight to the load. -/
def first (cmd : CreditLoyaltyRequest) : Stage :=
  if cmd.causationEventID ≠ "" then .check else .load

/-- What follows the publish. An empty key is never marked. -/
def afterPublish (cmd : CreditLoyaltyRequest) (account : LoyaltyAccount) : Stage :=
  if cmd.causationEventID ≠ "" then .mark account
  else .returned (.ok (response ⟨account, []⟩))

/-- The rest of the handler from a stage on. -/
def program (amb : Ambient) (cmd : CreditLoyaltyRequest) :
    Stage → LoyaltyProgram CreditLoyaltyResponse
  | .check =>
      .attempt (.exists cmd.causationEventID) fun found : Bool =>
        if found then .ret (.error .duplicateEvent) else loadOrCreate amb cmd
  | .load => loadOrCreate amb cmd
  | .save account => saveAggregate amb cmd (raised amb cmd account)
  | .publish account => publishEvents amb cmd (raised amb cmd account)
  | .mark account =>
      .attempt (.mark cmd.causationEventID) fun _ => .ret (.ok (response ⟨account, []⟩))
  | .returned result => .ret result

theorem handle_eq_program (amb : Ambient) (cmd : CreditLoyaltyRequest) :
    handle amb cmd = (first cmd).program amb cmd := by
  unfold handle first
  split <;> rfl

theorem markKey_eq_program (amb : Ambient) (cmd : CreditLoyaltyRequest)
    (account : LoyaltyAccount) :
    markKey cmd ⟨account, []⟩ = (afterPublish cmd account).program amb cmd := by
  unfold markKey afterPublish
  split <;> rfl

/-- Everything one call of an execution can do to its stage and to the store. -/
inductive Moves (amb : Ambient) (cmd : CreditLoyaltyRequest) (s : LoyaltyStore) :
    Stage → Stage → LoyaltyStore → Prop where
  | duplicate (taken : cmd.causationEventID ∈ s.keys) :
      Moves amb cmd s .check (.returned (.error .duplicateEvent)) s
  | checked (free : cmd.causationEventID ∉ s.keys) : Moves amb cmd s .check .load s
  | refused (e : LoyaltyError) : Moves amb cmd s .load (.returned (.error e)) s
  | loaded (loadable : Loadable s cmd.customerID) (positive : 0 < cmd.points) :
      Moves amb cmd s .load (.save (creditedAccount s amb cmd)) s
  | saveFailed {account : LoyaltyAccount} (e : LoyaltyError)
      (rejected : s.save (raised amb cmd account) = .error e) :
      Moves amb cmd s (.save account) (.returned (.error e)) s
  | saved {account : LoyaltyAccount} {t : LoyaltyStore}
      (saves : s.save (raised amb cmd account) = .ok t) :
      Moves amb cmd s (.save account) (.publish account) t
  | published (account : LoyaltyAccount) :
      Moves amb cmd s (.publish account) (afterPublish cmd account)
        (announced amb cmd account s)
  | markFailed (account : LoyaltyAccount) (taken : cmd.causationEventID ∈ s.keys) :
      Moves amb cmd s (.mark account) (.returned (.error LoyaltyStore.duplicateKey)) s
  | marked (account : LoyaltyAccount) (free : cmd.causationEventID ∉ s.keys) :
      Moves amb cmd s (.mark account) (.returned (.ok (response ⟨account, []⟩)))
        { s with keys := s.keys ++ [cmd.causationEventID] }

/-- The stages follow the handler call by call. -/
theorem stage_tracks (amb : Ambient) (cmd : CreditLoyaltyRequest) :
    Tracks serve (program amb cmd) (Moves amb cmd) := by
  intro s stage c next
  cases stage with
  | check =>
      apply tracks_attempt
      · intro e t reply
        cases reply
      · intro found t reply
        cases reply
        by_cases taken : cmd.causationEventID ∈ s.keys
        · exact ⟨_, .duplicate taken, by simp [LoyaltyStore.existsKey, taken, program]⟩
        · exact ⟨_, .checked taken, by simp [LoyaltyStore.existsKey, taken, program]⟩
  | load =>
      apply tracks_attempt
      · intro e t reply
        obtain ⟨_, rfl⟩ := Prod.mk.inj reply
        exact ⟨_, .refused e, rfl⟩
      · intro found t reply
        obtain ⟨lookup, rfl⟩ := Prod.mk.inj reply
        by_cases loadable : Loadable s cmd.customerID
        · obtain ⟨_, lookup', base⟩ := findByCustomerID_of_loadable loadable amb
          cases lookup.symm.trans lookup'
          rw [base]
          by_cases positive : 0 < cmd.points
          · exact ⟨_, .loaded loadable positive, (mutate_of_pos amb cmd _ positive).symm⟩
          · obtain ⟨e, stopped⟩ := mutate_of_not_pos amb cmd _ positive
            exact ⟨_, .refused e, stopped.symm⟩
        · obtain ⟨e, rejected⟩ := findByCustomerID_of_not_loadable loadable
          cases lookup.symm.trans rejected
  | save account =>
      apply tracks_attempt
      · intro e t reply
        obtain ⟨rejected, rfl⟩ := writeReply_error reply
        exact ⟨_, .saveFailed e rejected, rfl⟩
      · intro _ t reply
        exact ⟨_, .saved (writeReply_ok reply), rfl⟩
  | publish account =>
      apply tracks_attempt
      · intro e t reply
        cases reply
      · intro _ t reply
        cases reply
        exact ⟨_, .published account, (markKey_eq_program amb cmd account).symm⟩
  | mark account =>
      apply tracks_attempt
      · intro e t reply
        obtain ⟨rejected, rfl⟩ := writeReply_error reply
        obtain ⟨taken, rfl⟩ := LoyaltyStore.mark_error rejected
        exact ⟨_, .markFailed account taken, rfl⟩
      · intro _ t reply
        obtain ⟨free, rfl⟩ := LoyaltyStore.mark_ok (writeReply_ok reply)
        exact ⟨_, .marked account free, rfl⟩
  | returned result =>
      intro current
      cases current

end Stage

section Concurrent

variable {ι : Type}

/-- Executions of the handler on one store. -/
abbrev CreditPool (ι : Type) :=
  Pool ι LoyaltyCall LoyaltyCall.Answer LoyaltyError CreditLoyaltyResponse LoyaltyStore

/-- One execution for each command, none of which has made a call yet. -/
def startCredits (amb : ι → Ambient) (cmd : ι → CreditLoyaltyRequest) (s : LoyaltyStore) :
    CreditPool ι :=
  .start s fun i => handle (amb i) (cmd i)

/-- Each execution of the pool is at its stage. -/
abbrev AtStages (amb : ι → Ambient) (cmd : ι → CreditLoyaltyRequest) (p : CreditPool ι)
    (stage : ι → Stage) : Prop :=
  p.At (fun i => Stage.program (amb i) (cmd i)) stage

theorem startCredits_atStages (amb : ι → Ambient) (cmd : ι → CreditLoyaltyRequest)
    (s : LoyaltyStore) :
    AtStages amb cmd (startCredits amb cmd s) fun i => Stage.first (cmd i) :=
  fun i => Stage.handle_eq_program (amb i) (cmd i)

/-- Execution `i` of the pool moved to stage `l'`. -/
abbrev Moved (amb : ι → Ambient) (cmd : ι → CreditLoyaltyRequest) (p : CreditPool ι)
    (stage : ι → Stage) (i : ι) (l' : Stage) (p' : CreditPool ι) : Prop :=
  p.Moved serve (fun i => Stage.program (amb i) (cmd i))
    (fun i => Stage.Moves (amb i) (cmd i)) stage i l' p'

end Concurrent

end GoOdin.Loyalty.CreditLoyaltyHandler
