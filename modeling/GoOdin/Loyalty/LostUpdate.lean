import GoOdin.Loyalty.CreditStages
import Mathlib.Algebra.BigOperators.Group.Finset.Piecewise
import Mathlib.Algebra.Order.BigOperators.Group.Finset
import Mathlib.Algebra.Order.Ring.Int
import Mathlib.Data.Fintype.Basic

/-!
# No credit is lost

The balance is read in one call and written back as an absolute value in a later
one, so a save can overwrite a credit made in between. This module says when that
does not happen: if no execution loads the account while another one is about to
save it, the balance after a run in which everyone succeeds is the initial balance
plus all points.

The invariant says that a pending save was computed from the account as it is stored
now, and that the stored balance counts the executions that have saved.
-/

namespace GoOdin.Loyalty.CreditLoyaltyHandler

open Interaction

variable {ι : Type}

/-- The program is about to load the account. -/
abbrev Loading (program : LoyaltyProgram CreditLoyaltyResponse) : Prop :=
  program.Awaits fun c => c.kind = .findByCustomerID

/-- The program has loaded the account and is about to save it. -/
abbrev Saving (program : LoyaltyProgram CreditLoyaltyResponse) : Prop :=
  program.Awaits fun c => c.kind = .save

/-- If execution `i` is about to load the account, no execution is about to save it. -/
def LoadsAlone (p : CreditPool ι) (i : ι) : Prop :=
  Loading (p.threads i) → ∀ j, ¬ Saving (p.threads j)

instance [Fintype ι] (p : CreditPool ι) (i : ι) : Decidable (LoadsAlone p i) :=
  inferInstanceAs (Decidable (Loading (p.threads i) → ∀ j, ¬ Saving (p.threads j)))

namespace Stage

/-- The account was saved on the way to this stage, and no call failed. -/
def hasSaved : Stage → Bool
  | .publish _ | .mark _ | .returned (.ok _) => true
  | _ => false

theorem saving_program {amb : Ambient} {cmd : CreditLoyaltyRequest} {stage : Stage} :
    Saving (stage.program amb cmd) ↔ ∃ account, stage = .save account := by
  cases stage <;>
    simp [Program.Awaits, program, LoyaltyCall.kind, loadOrCreate, saveAggregate, publishEvents]

/-- Every move but an answered save leaves the accounts alone; one that does not fail
changes `hasSaved` only there. -/
theorem Moves.accounts {amb : Ambient} {cmd : CreditLoyaltyRequest} {s t : LoyaltyStore}
    {l l' : Stage} (move : Moves amb cmd s l l' t) :
    (∃ e, l' = .returned (.error e)) ∨
      (t.accounts = s.accounts ∧ l'.hasSaved = l.hasSaved ∧
        ∀ account, l' = .save account → l = .load ∧ account = creditedAccount s amb cmd) ∨
      ∃ account, l = .save account ∧ l' = .publish account ∧
        s.save (raised amb cmd account) = .ok t := by
  cases move with
  | duplicate | refused | saveFailed | markFailed => exact .inl ⟨_, rfl⟩
  | checked free => exact .inr (.inl ⟨rfl, rfl, fun _ eq => nomatch eq⟩)
  | loaded loadable positive =>
      refine .inr (.inl ⟨rfl, rfl, fun account eq => ?_⟩)
      cases eq
      exact ⟨rfl, rfl⟩
  | saved saves => exact .inr (.inr ⟨_, rfl, rfl, saves⟩)
  | published account =>
      refine .inr (.inl ⟨rfl, ?_, fun _ eq => ?_⟩) <;> unfold afterPublish at *
      · split <;> rfl
      · split at eq <;> cases eq
  | marked account free => exact .inr (.inl ⟨rfl, rfl, fun _ eq => nomatch eq⟩)

end Stage

/-- The account a credit computes depends on the account table only. -/
theorem creditedAccount_congr {s t : LoyaltyStore} (accounts : t.accounts = s.accounts)
    (amb : Ambient) (cmd : CreditLoyaltyRequest) :
    creditedAccount t amb cmd = creditedAccount s amb cmd := by
  unfold creditedAccount baseAccount
  rw [accounts]

/-- Saving a credit computed from the account as stored now adds its points. -/
theorem save_current {s t : LoyaltyStore} {amb : Ambient} {cmd : CreditLoyaltyRequest}
    {row : LoyaltyAccountRow} (found : s.accounts.findByCustomer cmd.customerID = some row)
    (positive : 0 < cmd.points) (fits : row.balance.toInt + cmd.points.toInt < 2 ^ 63)
    (saves : s.save (creditedAggregate s amb cmd) = .ok t) :
    ∃ row', t.accounts.findByCustomer cmd.customerID = some row' ∧
      row'.balance.toInt = row.balance.toInt + cmd.points.toInt := by
  obtain ⟨_, saves', saved⟩ := save_creditedAggregate_existing found
  cases saves.symm.trans saves'
  have self := saved.self
  rw [creditedAccount_customerID] at self
  refine ⟨_, self, ?_⟩
  change ((baseAccount s amb cmd.customerID).balance.value + cmd.points).toInt = _
  rw [baseAccount_balance_of_found found]
  exact toInt_add_of_lt (Int.le_of_lt (Int64.lt_iff_toInt_lt.mp positive)) fits

/-- The points of an execution, once it has saved. -/
def contribution (cmd : ι → CreditLoyaltyRequest) (stage : ι → Stage) (i : ι) : Int :=
  if (stage i).hasSaved then (cmd i).points.toInt else 0

section Contribution

variable {cmd : ι → CreditLoyaltyRequest} {stage : ι → Stage} {i : ι} {l' : Stage}

theorem sum_contribution_le [Fintype ι] (stage : ι → Stage) (positive : ∀ i, 0 < (cmd i).points) :
    ∑ j, contribution cmd stage j ≤ ∑ j, (cmd j).points.toInt := by
  apply Finset.sum_le_sum
  intro j _
  have pos := Int64.lt_iff_toInt_lt.mp (positive j)
  unfold contribution
  split
  · exact Int.le_refl _
  · exact Int.le_of_lt pos

variable [DecidableEq ι]

theorem contribution_update_same (same : l'.hasSaved = (stage i).hasSaved) :
    contribution cmd (Function.update stage i l') = contribution cmd stage := by
  funext j
  unfold contribution
  by_cases here : j = i
  · subst here
    rw [Function.update_self, same]
  · rw [Function.update_of_ne here]

theorem sum_contribution_saved [Fintype ι] (before : (stage i).hasSaved = false)
    (after : l'.hasSaved = true) :
    ∑ j, contribution cmd (Function.update stage i l') j =
      ∑ j, contribution cmd stage j + (cmd i).points.toInt := by
  have pointwise : ∀ j, contribution cmd (Function.update stage i l') j =
      contribution cmd stage j + if j = i then (cmd i).points.toInt else 0 := by
    intro j
    unfold contribution
    by_cases here : j = i
    · subst here
      simp [before, after]
    · simp [here]
  simp only [pointwise, Finset.sum_add_distrib, Finset.sum_ite_eq', Finset.mem_univ, if_true]

end Contribution

/-- The stored balance counts the executions that have saved, and at most one save
is pending, computed from the account as it is stored. -/
structure Balanced [Fintype ι] (amb : ι → Ambient) (cmd : ι → CreditLoyaltyRequest)
    (customerID : String) (initial : Int) (p : CreditPool ι) (stage : ι → Stage) : Prop where
  stored : ∃ row, p.store.accounts.findByCustomer customerID = some row ∧
    row.balance.toInt = initial + ∑ j, contribution cmd stage j
  current : ∀ j account, stage j = .save account →
    account = creditedAccount p.store (amb j) (cmd j)
  single : ∀ j k, (∃ a, stage j = .save a) → (∃ a, stage k = .save a) → j = k

section Step

variable [Fintype ι] [DecidableEq ι] {amb : ι → Ambient} {cmd : ι → CreditLoyaltyRequest}
  {customerID : String} {initial : Int} {p p' : CreditPool ι} {stage : ι → Stage} {i : ι}
  {l' : Stage}

/-- A move that keeps the accounts keeps the balance. It may prepare a save, if no
other one is pending. -/
theorem balanced_of_accounts (balanced : Balanced amb cmd customerID initial p stage)
    (accounts : p'.store.accounts = p.store.accounts)
    (same : l'.hasSaved = (stage i).hasSaved)
    (prepared : ∀ account, l' = .save account →
      account = creditedAccount p.store (amb i) (cmd i) ∧ ∀ j, ¬ ∃ a, stage j = .save a) :
    Balanced amb cmd customerID initial p' (Function.update stage i l') := by
  obtain ⟨stored, current, single⟩ := balanced
  have elsewhere : ∀ j account, Function.update stage i l' j = .save account →
      (j = i ∧ l' = .save account) ∨ stage j = .save account := by
    intro j account pending
    by_cases here : j = i
    · rw [here, Function.update_self] at pending
      exact .inl ⟨here, pending⟩
    · rw [Function.update_of_ne here] at pending
      exact .inr pending
  constructor
  · rw [accounts, contribution_update_same same]
    exact stored
  · intro j account pending
    rw [creditedAccount_congr accounts]
    rcases elsewhere j account pending with ⟨rfl, new⟩ | old
    · exact (prepared account new).1
    · exact current j account old
  · rintro j k ⟨a, pendingJ⟩ ⟨b, pendingK⟩
    rcases elsewhere j a pendingJ with ⟨rfl, newJ⟩ | oldJ <;>
      rcases elsewhere k b pendingK with ⟨rfl, newK⟩ | oldK
    · rfl
    · exact absurd ⟨b, oldK⟩ ((prepared a newJ).2 k)
    · exact absurd ⟨a, oldJ⟩ ((prepared b newK).2 j)
    · exact single j k ⟨a, oldJ⟩ ⟨b, oldK⟩

/-- An answered save moves the points of its execution into the balance. -/
theorem balanced_of_save (one : (cmd i).customerID = customerID)
    (positive : ∀ j, 0 < (cmd j).points)
    (fits : initial + ∑ j, (cmd j).points.toInt < 2 ^ 63)
    (balanced : Balanced amb cmd customerID initial p stage) {account : LoyaltyAccount}
    (atSave : stage i = .save account)
    (saves : p.store.save (raised (amb i) (cmd i) account) = .ok p'.store) :
    Balanced amb cmd customerID initial p' (Function.update stage i (.publish account)) := by
  obtain ⟨⟨row, found, total⟩, current, single⟩ := balanced
  have counted : ∑ j, contribution cmd (Function.update stage i (.publish account)) j =
      ∑ j, contribution cmd stage j + (cmd i).points.toInt := by
    apply sum_contribution_saved
    · rw [atSave]
      rfl
    · rfl
  have bound : row.balance.toInt + (cmd i).points.toInt < 2 ^ 63 := by
    have partials := sum_contribution_le (Function.update stage i (.publish account)) positive
    omega
  have none : ∀ j a, Function.update stage i (.publish account) j ≠ .save a := by
    intro j a pending
    by_cases here : j = i
    · rw [here, Function.update_self] at pending
      cases pending
    · rw [Function.update_of_ne here] at pending
      exact here (single j i ⟨a, pending⟩ ⟨account, atSave⟩)
  rw [current i account atSave] at saves
  obtain ⟨row', found', added⟩ := save_current (one ▸ found) (positive i) bound saves
  refine ⟨⟨row', one ▸ found', ?_⟩, fun j a pending => absurd pending (none j a), ?_⟩
  · rw [added, total, counted, Int.add_assoc]
  · rintro j _ ⟨a, pending⟩ _
    exact absurd pending (none j a)

/-- Some execution returned an error. This stays true. -/
def Failed (p : CreditPool ι) : Prop :=
  ∃ i e, p.threads i = .ret (.error e)

/-- One allowed move keeps the balance, or ends an execution with an error. -/
theorem balanced_move (one : ∀ j, (cmd j).customerID = customerID)
    (positive : ∀ j, 0 < (cmd j).points)
    (fits : initial + ∑ j, (cmd j).points.toInt < 2 ^ 63)
    (located : AtStages amb cmd p stage)
    (invariant : Failed p ∨ Balanced amb cmd customerID initial p stage)
    (alone : LoadsAlone p i) (moved : Moved amb cmd p stage i l' (p.step serve i))
    (after : AtStages amb cmd (p.step serve i) (Function.update stage i l')) :
    Failed (p.step serve i) ∨
      Balanced amb cmd customerID initial (p.step serve i) (Function.update stage i l') := by
  rcases invariant with ⟨j, e, failed⟩ | balanced
  · exact .inl ⟨j, e, Pool.step_threads_of_ret failed⟩
  rcases moved.move.accounts with
    ⟨e, rfl⟩ | ⟨accounts, same, prepared⟩ | ⟨account, atSave, rfl, saves⟩
  · refine .inl ⟨i, e, ?_⟩
    rw [after i, Function.update_self]
    rfl
  · refine .inr (balanced_of_accounts balanced accounts same fun account eq => ?_)
    obtain ⟨atLoad, current⟩ := prepared account eq
    refine ⟨current, fun j saving => ?_⟩
    have loading : Loading (p.threads i) := by
      rw [located i, atLoad]
      exact ⟨_, rfl, rfl⟩
    apply alone loading j
    rw [located j]
    exact Stage.saving_program.mpr saving
  · exact .inr (balanced_of_save (one i) positive fits balanced atSave saves)

end Step

/-- Before the first call nobody has saved. -/
theorem balanced_start [Fintype ι] (amb : ι → Ambient) (cmd : ι → CreditLoyaltyRequest)
    {s : LoyaltyStore} {customerID : String} {row : LoyaltyAccountRow}
    (found : s.accounts.findByCustomer customerID = some row) :
    Balanced amb cmd customerID row.balance.toInt (startCredits amb cmd s)
      fun i => Stage.first (cmd i) := by
  have idle : ∀ i, (Stage.first (cmd i)).hasSaved = false ∧
      ∀ account, Stage.first (cmd i) ≠ .save account := by
    intro i
    unfold Stage.first
    split <;> exact ⟨rfl, fun _ eq => nomatch eq⟩
  refine ⟨⟨row, found, ?_⟩, fun j account eq => absurd eq ((idle j).2 account), ?_⟩
  · simp [contribution, (idle _).1]
  · rintro j _ ⟨account, eq⟩ _
    exact absurd eq ((idle j).2 account)

/-- If no execution loads the account while another one is about to save it, then in
every state in which all executions have succeeded the stored balance is the initial
one plus all points. -/
theorem no_lost_credit [Fintype ι] [DecidableEq ι] (amb : ι → Ambient)
    (cmd : ι → CreditLoyaltyRequest) (customerID : String)
    (one : ∀ i, (cmd i).customerID = customerID) (positive : ∀ i, 0 < (cmd i).points)
    (s : LoyaltyStore) (row : LoyaltyAccountRow)
    (found : s.accounts.findByCustomer customerID = some row)
    (fits : row.balance.toInt + ∑ i, (cmd i).points.toInt < 2 ^ 63) (schedule : List ι)
    (alone : Admitted (Pool.step serve) LoadsAlone (startCredits amb cmd s) schedule)
    (succeeded : ∀ i, ((runFrom (Pool.step serve) (startCredits amb cmd s) schedule).threads
      i).succeeded = true) :
    ∃ row', (runFrom (Pool.step serve) (startCredits amb cmd s)
        schedule).store.accounts.findByCustomer customerID = some row' ∧
      row'.balance.toInt = row.balance.toInt + ∑ i, (cmd i).points.toInt := by
  obtain ⟨stage, located, ⟨i, e, failed⟩ | balanced⟩ := Pool.invariant
    (fun p stage => Failed p ∨ Balanced amb cmd customerID row.balance.toInt p stage)
    (fun i => Stage.stage_tracks (amb i) (cmd i))
    (fun _ _ _ _ located invariant alone moved after =>
      balanced_move one positive fits located invariant alone moved after)
    alone (startCredits_atStages amb cmd s) (.inr (balanced_start amb cmd found))
  · have success := succeeded i
    rw [failed] at success
    cases success
  · obtain ⟨row', found', total⟩ := balanced.stored
    refine ⟨row', found', ?_⟩
    have everyone : ∀ i, contribution cmd stage i = (cmd i).points.toInt := by
      intro i
      have success := succeeded i
      rw [located i] at success
      unfold contribution
      rw [if_pos]
      cases here : stage i with
      | returned result =>
          rw [here] at success
          cases result with
          | ok r => rfl
          | error e => cases success
      | _ =>
          rw [here] at success
          cases success
    rw [total]
    simp only [everyone]

/-- Two orders of one customer, ten points each. -/
def sampleOrders (second : Bool) : CreditLoyaltyRequest :=
  if second then { sampleCommand with orderID := "order-2", causationEventID := "02ORDER" }
  else sampleCommand

/-- The second execution checks its key early but loads after the first has saved. -/
theorem no_lost_credit_serial :
    ∃ row', (runFrom (Pool.step serve)
        (startCredits (fun _ => sampleAmbient) sampleOrders sampleStore)
        [false, true, false, false, true, true, false, true, true,
          false]).store.accounts.findByCustomer "customer-1" = some row' ∧
      row'.balance.toInt = 120 :=
  no_lost_credit (fun _ => sampleAmbient) sampleOrders "customer-1" (by decide) (by decide)
    sampleStore _ rfl (by decide)
    [false, true, false, false, true, true, false, true, true, false] (by decide) (by decide)

/-- Both executions load the account before either saves: both succeed, and ten of
the twenty points are gone. -/
theorem overlapping_credits_lose_points :
    let p := runFrom (Pool.step serve)
      (startCredits (fun _ => sampleAmbient) sampleOrders sampleStore)
      [false, true, false, true, false, true, false, true, false, true]
    (∀ i, (p.threads i).succeeded = true) ∧
      (sampleStore.accounts.findByCustomer "customer-1").map (·.balance) = some 100 ∧
      (p.store.accounts.findByCustomer "customer-1").map (·.balance) = some 110 := by
  decide

end GoOdin.Loyalty.CreditLoyaltyHandler
