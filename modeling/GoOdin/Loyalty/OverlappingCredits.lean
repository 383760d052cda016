import GoOdin.Loyalty.CreditStages
import Mathlib.Algebra.Order.BigOperators.Group.Finset
import Mathlib.Algebra.Order.Ring.Int
import Mathlib.Data.Fintype.Basic

/-!
# What overlapping credits leave in the balance

Executions that overlap can overwrite each other's credits. Whatever they do, and whatever
calls fail, the balance is the one they started from and the points of some of them, each
counted once; as soon as one of them has saved, there is at least one. The tier is that of the
balance, since both are written together.

The invariant names the executions whose points are in the stored balance: all of them are past
their save. In a balance that waits to be saved are the points of such executions and those of
the execution that is about to save it.
-/

namespace GoOdin.Loyalty.CreditLoyaltyHandler

open Interaction

variable {ι : Type}

namespace Stage

/-- The execution may still save. -/
def early : Stage → Bool
  | .check | .load | .save _ => true
  | .publish _ | .mark _ | .returned _ => false

variable {amb : Ambient} {cmd : CreditLoyaltyRequest} {s t : LoyaltyStore} {l l' : Stage}

/-- A move leaves the accounts alone, prepares a save from the account as it is stored, or
saves. -/
theorem Moves.accounts_cases (move : Moves amb cmd s l l' t) :
    (t.accounts = s.accounts ∧ (∀ account, l' ≠ .save account) ∧
        (l'.early = true → l.early = true)) ∨
      (l = .load ∧ t = s ∧ l' = .save (creditedAccount s amb cmd)) ∨
      ∃ account, l = .save account ∧ l' = .publish account ∧
        s.save (raised amb cmd account) = .ok t := by
  cases move with
  | duplicate | checked | refused | saveFailed => exact .inl ⟨rfl, nofun, fun _ => rfl⟩
  | markFailed | marked => exact .inl ⟨rfl, nofun, nofun⟩
  | loaded loadable positive => exact .inr (.inl ⟨rfl, rfl, rfl⟩)
  | saved saves => exact .inr (.inr ⟨_, rfl, rfl, saves⟩)
  | published account =>
      refine .inl ⟨rfl, ?_, ?_⟩
      · intro other
        rw [afterPublish]
        split <;> exact nofun
      · rw [afterPublish]
        split <;> exact nofun

/-- An execution whose call fails returns its error. -/
theorem stage_stops (amb : Ambient) (cmd : CreditLoyaltyRequest) (l : Stage) (c : LoyaltyCall)
    (next : Except LoyaltyError c.Answer → LoyaltyProgram CreditLoyaltyResponse)
    (current : l.program amb cmd = .call c next) (e : LoyaltyError) :
    ∃ l' : Stage, (∃ e, l' = .returned (.error e)) ∧ l'.program amb cmd = next (.error e) := by
  refine ⟨.returned (.error e), ⟨e, rfl⟩, ?_⟩
  cases l <;> cases current <;> rfl

end Stage

/-- The first balance and the points of these executions. -/
def balanceWith (cmd : ι → CreditLoyaltyRequest) (first : LoyaltyAccountRow)
    (credits : Finset ι) : Int :=
  first.balance.toInt + ∑ i ∈ credits, (cmd i).points.toInt

/-- No balance that can come about overflows. -/
theorem balanceWith_lt [Fintype ι] {cmd : ι → CreditLoyaltyRequest} {first : LoyaltyAccountRow}
    (positive : ∀ i, 0 < (cmd i).points)
    (fits : first.balance.toInt + ∑ i, (cmd i).points.toInt < 2 ^ 63) (credits : Finset ι) :
    balanceWith cmd first credits < 2 ^ 63 := by
  have pos (i : ι) : 0 ≤ (cmd i).points.toInt :=
    Int.le_of_lt (Int64.lt_iff_toInt_lt.mp (positive i))
  have upper : ∑ i ∈ credits, (cmd i).points.toInt ≤ ∑ i, (cmd i).points.toInt :=
    Finset.sum_le_univ_sum_of_nonneg pos
  rw [balanceWith]
  omega

/-- A version of the account that started as this row, with the points of these executions. -/
structure Version (cmd : ι → CreditLoyaltyRequest) (first row : LoyaltyAccountRow)
    (credits : Finset ι) : Prop where
  id : row.id = first.id
  balance : row.balance.toInt = balanceWith cmd first credits
  credited : row = first ∨ (credits.Nonempty ∧ row.tier = (calculateTier ⟨row.balance⟩).name)

/-- None of the executions can save any more. -/
def Late (stage : ι → Stage) (credits : Finset ι) : Prop :=
  ∀ i ∈ credits, (stage i).early = false

section Step

variable [DecidableEq ι]

/-- An account that execution `i` is about to save. -/
structure Pending (cmd : ι → CreditLoyaltyRequest) (first : LoyaltyAccountRow)
    (credits : Finset ι) (i : ι) (account : LoyaltyAccount) : Prop where
  id : account.id = first.id
  balance : account.balance.value.toInt = balanceWith cmd first (insert i credits)
  tier : account.tier = calculateTier account.balance

/-- The stored account is a version of the first, and so will be those that are pending. -/
structure Accounted (cmd : ι → CreditLoyaltyRequest) (customerID : String)
    (first : LoyaltyAccountRow) (s : LoyaltyStore) (stage : ι → Stage) : Prop where
  stored : ∃ row credits, s.accounts.findByCustomer customerID = some row ∧
    Version cmd first row credits ∧ Late stage credits
  pending : ∀ i account, stage i = .save account →
    ∃ credits, Pending cmd first credits i account ∧ Late stage credits

variable {cmd : ι → CreditLoyaltyRequest} {customerID : String} {first : LoyaltyAccountRow}
  {s t : LoyaltyStore} {stage : ι → Stage} {i : ι} {l' : Stage}

/-- Who cannot save any more never can again. -/
theorem Late.update {credits : Finset ι} (late : Late stage credits)
    (later : l'.early = true → (stage i).early = true) :
    Late (Function.update stage i l') credits := by
  intro j mem
  by_cases same : j = i
  · subst same
    rw [Function.update_self]
    by_contra early
    exact Bool.false_ne_true ((late j mem).symm.trans (later (Bool.not_eq_false _ ▸ early)))
  · rw [Function.update_of_ne same]
    exact late j mem

/-- The executions that wait to save after execution `i` has moved. -/
theorem Accounted.pending_update (accounted : Accounted cmd customerID first s stage)
    (later : l'.early = true → (stage i).early = true)
    (here : ∀ account, l' = .save account →
      ∃ credits, Pending cmd first credits i account ∧ Late stage credits) :
    ∀ j account, Function.update stage i l' j = .save account →
      ∃ credits, Pending cmd first credits j account ∧
        Late (Function.update stage i l') credits := by
  intro j account atSave
  have before : ∃ credits, Pending cmd first credits j account ∧ Late stage credits := by
    by_cases same : j = i
    · subst same
      rw [Function.update_self] at atSave
      exact here account atSave
    · rw [Function.update_of_ne same] at atSave
      exact accounted.pending j account atSave
  obtain ⟨credits, pending, late⟩ := before
  exact ⟨credits, pending, late.update later⟩

theorem Accounted.of_accounts (accounted : Accounted cmd customerID first s stage)
    (accounts : t.accounts = s.accounts) (noSave : ∀ account, l' ≠ .save account)
    (later : l'.early = true → (stage i).early = true) :
    Accounted cmd customerID first t (Function.update stage i l') := by
  obtain ⟨row, credits, found, version, late⟩ := accounted.stored
  exact ⟨⟨row, credits, accounts ▸ found, version, late.update later⟩,
    accounted.pending_update later fun account saving => absurd saving (noSave account)⟩

/-- A save replaces one version by another, with the points of one more execution. -/
theorem Accounted.save (accounted : Accounted cmd customerID first s stage) {amb : Ambient}
    {account : LoyaltyAccount} (atSave : stage i = .save account)
    (saves : s.save (raised amb (cmd i) account) = .ok t) :
    Accounted cmd customerID first t (Function.update stage i (.publish account)) := by
  obtain ⟨row, _, found, stored, _⟩ := accounted.stored
  obtain ⟨credits, pending, late⟩ := accounted.pending i account atSave
  have sameID : row.id = account.id := stored.id.trans pending.id.symm
  have existing : s.save (raised amb (cmd i) account) =
      .ok { s with accounts := s.accounts.update (toRow account) } := save_existing found sameID
  cases saves.symm.trans existing
  refine ⟨⟨_, insert i credits, AccountTable.findByCustomer_update_self found sameID, ?_, ?_⟩,
    accounted.pending_update nofun nofun⟩
  · exact ⟨stored.id, pending.balance,
      .inr ⟨Finset.insert_nonempty i credits, congrArg Tier.name pending.tier⟩⟩
  · intro j mem
    by_cases same : j = i
    · rw [same, Function.update_self]
      rfl
    · rw [Function.update_of_ne same]
      exact late j (Finset.mem_of_mem_insert_of_ne mem same)

variable [Fintype ι]

/-- The account that is prepared for the save has the points of the stored one and of the
command. -/
theorem Accounted.load (accounted : Accounted cmd customerID first s stage)
    (one : (cmd i).customerID = customerID) (positive : ∀ i, 0 < (cmd i).points)
    (fits : first.balance.toInt + ∑ j, (cmd j).points.toInt < 2 ^ 63) (amb : Ambient)
    (atLoad : stage i = .load) :
    Accounted cmd customerID first s
      (Function.update stage i (.save (creditedAccount s amb (cmd i)))) := by
  have early : (stage i).early = true := by
    rw [atLoad]
    rfl
  obtain ⟨row, credits, found, version, late⟩ := accounted.stored
  -- an execution that may still save has not been counted
  have uncounted : i ∉ credits := fun mem => Bool.false_ne_true ((late i mem).symm.trans early)
  have added : balanceWith cmd first (insert i credits) =
      row.balance.toInt + (cmd i).points.toInt := by
    rw [version.balance, balanceWith, balanceWith, Finset.sum_insert uncounted]
    omega
  have room : row.balance.toInt + (cmd i).points.toInt < 2 ^ 63 :=
    added ▸ balanceWith_lt positive fits (insert i credits)
  have pos : 0 < (cmd i).points.toInt := Int64.lt_iff_toInt_lt.mp (positive i)
  have base : baseAccount s amb (cmd i).customerID = ofRow row ⟨row.balance⟩ := by
    rw [baseAccount, one, found]
  have prepared : Pending cmd first credits i (creditedAccount s amb (cmd i)) := by
    refine ⟨?_, ?_, rfl⟩
    · show (baseAccount s amb (cmd i).customerID).id = first.id
      rw [base]
      exact version.id
    · show ((baseAccount s amb (cmd i).customerID).balance.value + (cmd i).points).toInt = _
      rw [base, added]
      exact toInt_add_of_lt (a := row.balance) (Int.le_of_lt pos) room
  refine ⟨⟨row, credits, found, version, late.update fun _ => early⟩,
    accounted.pending_update (fun _ => early) ?_⟩
  rintro account ⟨⟩
  exact ⟨credits, prepared, late⟩

theorem Accounted.move (accounted : Accounted cmd customerID first s stage)
    (one : (cmd i).customerID = customerID) (positive : ∀ i, 0 < (cmd i).points)
    (fits : first.balance.toInt + ∑ j, (cmd j).points.toInt < 2 ^ 63) {amb : Ambient}
    (move : Stage.Moves amb (cmd i) s (stage i) l' t ∨
      (∃ e, l' = .returned (.error e)) ∧ t = s) :
    Accounted cmd customerID first t (Function.update stage i l') := by
  obtain move | ⟨⟨e, rfl⟩, rfl⟩ := move
  · obtain ⟨accounts, noSave, later⟩ | ⟨atLoad, rfl, rfl⟩ | ⟨account, atSave, rfl, saves⟩ :=
      move.accounts_cases
    · exact accounted.of_accounts accounts noSave later
    · exact accounted.load one positive fits amb atLoad
    · exact accounted.save atSave saves
  · exact accounted.of_accounts rfl nofun nofun

end Step

theorem accounted_start [DecidableEq ι] (cmd : ι → CreditLoyaltyRequest) {s : LoyaltyStore}
    {customerID : String} {first : LoyaltyAccountRow}
    (found : s.accounts.findByCustomer customerID = some first) :
    Accounted cmd customerID first s fun i => Stage.first (cmd i) := by
  have none : first.balance.toInt = balanceWith cmd first ∅ := by
    rw [balanceWith, Finset.sum_empty, Int.add_zero]
  refine ⟨⟨first, ∅, found, ⟨rfl, none, .inl rfl⟩, ?_⟩, fun i account atSave => ?_⟩
  · intro i mem
    exact absurd mem (Finset.notMem_empty i)
  · rw [Stage.first] at atSave
    split at atSave <;> cases atSave

/-- Executions for one customer, interleaved in any way and with any calls failing: the balance
is the first one and the points of some of them, each counted once; the row is still the first,
or has the points of at least one of them and the tier of its balance. -/
theorem balance_counts_credits_once [Fintype ι] [DecidableEq ι] (amb : ι → Ambient)
    (cmd : ι → CreditLoyaltyRequest) (customerID : String)
    (one : ∀ i, (cmd i).customerID = customerID) (positive : ∀ i, 0 < (cmd i).points)
    (s : LoyaltyStore) (first : LoyaltyAccountRow)
    (found : s.accounts.findByCustomer customerID = some first)
    (fits : first.balance.toInt + ∑ i, (cmd i).points.toInt < 2 ^ 63)
    (plan : Nat → Option LoyaltyError) (schedule : List ι) :
    ∃ row, ∃ credits : Finset ι, (runFrom (Pool.step serve.planned)
        (Pool.start (s, plan) fun i => handle (amb i) (cmd i))
        schedule).store.1.accounts.findByCustomer customerID = some row ∧
      row.balance.toInt = first.balance.toInt + ∑ i ∈ credits, (cmd i).points.toInt ∧
      (row = first ∨
        (credits.Nonempty ∧ row.tier = (calculateTier ⟨row.balance⟩).name)) := by
  have any : Admitted (Pool.step serve.planned) (fun _ _ => True)
      (Pool.start (s, plan) fun i => handle (amb i) (cmd i)) schedule :=
    admitted_of_forall fun _ _ => trivial
  obtain ⟨stage, -, accounted⟩ := Pool.invariant
    (fun p stage => Accounted cmd customerID first p.store.1 stage)
    (fun i => (Stage.stage_tracks (amb i) (cmd i)).planned (Stage.stage_stops (amb i) (cmd i)))
    (fun p stage i l' _ accounted _ moved _ => accounted.move (one i) positive fits moved.move)
    any (fun i => Stage.handle_eq_program (amb i) (cmd i)) (accounted_start cmd found)
  obtain ⟨row, credits, stored, version, -⟩ := accounted.stored
  exact ⟨row, credits, stored, version.balance, version.credited⟩

/-- Two orders of one customer, ten points each. -/
def sampleCredits (second : Bool) : CreditLoyaltyRequest :=
  { sampleCommand with causationEventID := if second then "02ORDER" else "01ORDER" }

/-- The seventh call of a run fails. -/
def samplePlan (n : Nat) : Option LoyaltyError :=
  if n = 6 then some (.external "broker down") else none

/-- Two credits overlap, and the second is saved but not published. -/
theorem balance_counts_credits_once_overlap :
    ∃ row, (runFrom (Pool.step serve.planned)
        (Pool.start (sampleStore, samplePlan) fun i => handle sampleAmbient (sampleCredits i))
        [false, true, false, true, false, true, true, false]).store.1.accounts.findByCustomer
          "customer-1" = some row ∧
      ∃ credits : Finset Bool,
        row.balance.toInt = 100 + ∑ i ∈ credits, (sampleCredits i).points.toInt := by
  obtain ⟨row, credits, found, balance, -⟩ := balance_counts_credits_once
    (fun _ => sampleAmbient) sampleCredits "customer-1" (fun _ => rfl) (by decide) sampleStore _ rfl
    (by decide) samplePlan [false, true, false, true, false, true, true, false]
  exact ⟨row, found, credits, balance⟩

end GoOdin.Loyalty.CreditLoyaltyHandler
