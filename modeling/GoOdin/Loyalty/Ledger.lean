import GoOdin.Interaction.Run
import GoOdin.Loyalty.CreditRun
import Mathlib.Algebra.Order.BigOperators.Group.List
import Mathlib.Algebra.Order.Ring.Int

/-!
# Commands handled one after another keep an exact ledger

The abstract ledger is the list of effective commands: those with positive points
whose key is empty or new. It knows nothing of tables, tiers or envelopes. The
theorem of this module is that the tables and the event log always describe that
list, whatever the mix of customers, duplicates, empty keys and rejected points.

A rejected command does not enter the ledger, so its key stays free for a later
command. That is why effectiveness looks at earlier effective commands only.
-/

namespace GoOdin.Loyalty

open Interaction CreditLoyaltyHandler

namespace Ledger

/-- Positive points, and a key that is empty or not yet used by the ledger. -/
def Effective (ledger : List CreditLoyaltyRequest) (cmd : CreditLoyaltyRequest) : Prop :=
  0 < cmd.points ∧
    (cmd.causationEventID = "" ∨
      ∀ earlier ∈ ledger, earlier.causationEventID ≠ cmd.causationEventID)

instance (ledger : List CreditLoyaltyRequest) (cmd : CreditLoyaltyRequest) :
    Decidable (Effective ledger cmd) :=
  inferInstanceAs (Decidable (_ ∧ _))

/-- An effective command is appended; any other command changes nothing. -/
def record (ledger : List CreditLoyaltyRequest) (cmd : CreditLoyaltyRequest) :
    List CreditLoyaltyRequest :=
  if Effective ledger cmd then ledger ++ [cmd] else ledger

/-- The effective commands of a history, in order. -/
def effective (cmds : List CreditLoyaltyRequest) : List CreditLoyaltyRequest :=
  runFrom record [] cmds

/-- The points of one customer, as an unbounded integer. -/
def balanceOf (customerID : String) (ledger : List CreditLoyaltyRequest) : Int :=
  ((ledger.filter (·.customerID = customerID)).map (·.points.toInt)).sum

/-- Each entry with its customer's balance right after it. -/
def running (seen : List CreditLoyaltyRequest) :
    List CreditLoyaltyRequest → List (CreditLoyaltyRequest × Int)
  | [] => []
  | cmd :: rest =>
      (cmd, balanceOf cmd.customerID (seen ++ [cmd])) :: running (seen ++ [cmd]) rest

@[simp] theorem balanceOf_nil (customerID : String) : balanceOf customerID [] = 0 := rfl

theorem balanceOf_concat (customerID : String) (ledger : List CreditLoyaltyRequest)
    (cmd : CreditLoyaltyRequest) :
    balanceOf customerID (ledger ++ [cmd]) =
      balanceOf customerID ledger +
        if cmd.customerID = customerID then cmd.points.toInt else 0 := by
  by_cases same : cmd.customerID = customerID <;> simp [balanceOf, same]

theorem running_concat (seen ledger : List CreditLoyaltyRequest) (cmd : CreditLoyaltyRequest) :
    running seen (ledger ++ [cmd]) =
      running seen ledger ++ [(cmd, balanceOf cmd.customerID (seen ++ ledger ++ [cmd]))] := by
  induction ledger generalizing seen with
  | nil => simp [running]
  | cons first rest ih =>
      simp only [List.cons_append, running, ih]
      simp

theorem balanceOf_nonneg {ledger : List CreditLoyaltyRequest}
    (positive : ∀ cmd ∈ ledger, 0 < cmd.points) (customerID : String) :
    0 ≤ balanceOf customerID ledger := by
  apply List.sum_nonneg
  intro points mem
  obtain ⟨cmd, inFilter, rfl⟩ := List.mem_map.mp mem
  have pos := Int64.lt_iff_toInt_lt.mp (positive cmd (List.mem_of_mem_filter inFilter))
  exact Int.le_of_lt pos

/-- The ledger entries for no customer sum to nothing. -/
theorem balanceOf_of_absent {ledger : List CreditLoyaltyRequest} {customerID : String}
    (absent : ¬ ∃ cmd ∈ ledger, cmd.customerID = customerID) : balanceOf customerID ledger = 0 := by
  have empty : ledger.filter (·.customerID = customerID) = [] := by
    apply List.filter_eq_nil_iff.mpr
    intro cmd mem
    simpa using fun same => absent ⟨cmd, mem, same⟩
  rw [balanceOf, empty]
  rfl

/-- One `loyalty.account.credited` envelope for one entry, with the balance and the
tier right after it. -/
def Announces (env : EventEnvelope) (entry : CreditLoyaltyRequest × Int) : Prop :=
  env.eventName = Events.loyaltyCredited ∧
    env.correlationID = entry.1.correlationID ∧
    env.causationID = entry.1.causationEventID ∧
    ∃ event, env.payload = some (.loyaltyCredited event) ∧
      event.customerID = entry.1.customerID ∧
      event.orderID = entry.1.orderID ∧
      event.pointsEarned = entry.1.points ∧
      event.newBalance.toInt = entry.2 ∧
      event.newTier = (calculateTier ⟨event.newBalance⟩).name

/-- The store describes exactly the entries of the ledger. -/
structure Represents (s : LoyaltyStore) (ledger : List CreditLoyaltyRequest) : Prop where
  positive : ∀ cmd ∈ ledger, 0 < cmd.points
  balance : ∀ customerID row, s.accounts.findByCustomer customerID = some row →
    row.balance.toInt = balanceOf customerID ledger
  account : ∀ customerID, (s.accounts.findByCustomer customerID).isSome ↔
    ∃ cmd ∈ ledger, cmd.customerID = customerID
  tier : ∀ customerID row, s.accounts.findByCustomer customerID = some row →
    row.tier = (calculateTier ⟨row.balance⟩).name
  keys : s.keys = (ledger.map (·.causationEventID)).filter (· ≠ "")
  published : List.Forall₂ Announces s.published (running [] ledger)

theorem represents_empty : Represents LoyaltyStore.empty [] where
  positive := by simp
  balance := by
    intro customerID row found
    cases found
  account := by simp [LoyaltyStore.empty, AccountTable.empty, AccountTable.findByCustomer]
  tier := by
    intro customerID row found
    cases found
  keys := rfl
  published := .nil

variable {s : LoyaltyStore} {ledger : List CreditLoyaltyRequest}
variable {amb : Ambient} {cmd : CreditLoyaltyRequest}

/-- A marked key is the key of some entry. -/
theorem Represents.mem_keys (rep : Represents s ledger) {key : String} (nonempty : key ≠ "") :
    key ∈ s.keys ↔ ∃ earlier ∈ ledger, earlier.causationEventID = key := by
  simp [rep.keys, nonempty]

/-- A new customer starts from zero, any other from the sum of its entries. -/
theorem Represents.baseAccount_balance (rep : Represents s ledger) (amb : Ambient)
    (customerID : String) :
    (baseAccount s amb customerID).balance.value.toInt = balanceOf customerID ledger := by
  unfold baseAccount
  cases lookup : s.accounts.findByCustomer customerID with
  | none =>
      have absent : ¬ ∃ cmd ∈ ledger, cmd.customerID = customerID := by
        rw [← rep.account customerID, lookup]
        simp
      rw [balanceOf_of_absent absent]
      rfl
  | some row => exact rep.balance customerID row lookup

theorem Represents.loadable (rep : Represents s ledger) (customerID : String) :
    Loadable s customerID := by
  intro row lookup
  rw [Int64.le_iff_toInt_le, rep.balance _ row lookup]
  exact balanceOf_nonneg rep.positive _

/-- Effective commands are those the handler carries through to the save. -/
theorem Represents.reachesSave_iff (rep : Represents s ledger) :
    ReachesSave (fun _ => none) s cmd ↔ Effective ledger cmd := by
  constructor
  · intro reaches
    refine ⟨reaches.positive, ?_⟩
    by_cases empty : cmd.causationEventID = ""
    · exact .inl empty
    · right
      intro earlier mem same
      exact (reaches.unmarked empty).2 ((rep.mem_keys empty).mpr ⟨earlier, mem, same⟩)
  · rintro ⟨positive, unused⟩
    refine ⟨?_, rfl, ?_, positive⟩
    · intro key
      refine ⟨rfl, fun used => ?_⟩
      obtain ⟨earlier, mem, same⟩ := (rep.mem_keys key).mp used
      exact unused.resolve_left key earlier mem same
    · intro row lookup
      rw [Int64.le_iff_toInt_le, rep.balance _ row lookup]
      exact balanceOf_nonneg rep.positive _

/-- While the sums fit, crediting the account adds the points without wrapping. -/
theorem Represents.creditedAccount_balance (rep : Represents s ledger)
    (positive : 0 < cmd.points)
    (fits : balanceOf cmd.customerID (ledger ++ [cmd]) < 2 ^ 63) :
    (creditedAccount s amb cmd).balance.value.toInt =
      balanceOf cmd.customerID (ledger ++ [cmd]) := by
  have base := rep.baseAccount_balance amb cmd.customerID
  have total := balanceOf_concat cmd.customerID ledger cmd
  rw [if_pos rfl] at total
  have pos := Int64.lt_iff_toInt_lt.mp positive
  change ((baseAccount s amb cmd.customerID).balance.value + cmd.points).toInt = _
  rw [toInt_add_of_lt (Int.le_of_lt pos) (by rw [base, ← total]; exact fits), base, total]

/-- The store after one effective command describes the longer ledger. -/
theorem Represents.concat (rep : Represents s ledger) (effective : Effective ledger cmd)
    (fits : balanceOf cmd.customerID (ledger ++ [cmd]) < 2 ^ 63) {t : LoyaltyStore}
    (saved : Saved s (creditedAccount s amb cmd) t) :
    Represents (marked cmd (announced amb cmd (creditedAccount s amb cmd) t))
      (ledger ++ [cmd]) := by
  have balance : (creditedAccount s amb cmd).balance.value.toInt =
      balanceOf cmd.customerID (ledger ++ [cmd]) :=
    rep.creditedAccount_balance effective.1 fits
  -- Every lookup is either the row just written or one of the old store.
  have reads : ∀ customerID,
      (marked cmd (announced amb cmd (creditedAccount s amb cmd) t)).accounts.findByCustomer
        customerID =
      if customerID = cmd.customerID then some (toRow (creditedAccount s amb cmd))
      else s.accounts.findByCustomer customerID := by
    intro customerID
    rw [marked_accounts, ← creditedAccount_customerID s amb cmd]
    exact saved.findByCustomer customerID
  constructor
  · intro entry mem
    rcases List.mem_append.mp mem with old | new
    · exact rep.positive entry old
    · rw [List.mem_singleton.mp new]
      exact effective.1
  · intro customerID row found
    rw [reads] at found
    split at found
    · next same =>
        cases found
        rw [same]
        exact balance
    · next different =>
        rw [balanceOf_concat, if_neg (Ne.symm different), Int.add_zero]
        exact rep.balance customerID row found
  · intro customerID
    rw [reads]
    split
    · next same => simp [same]
    · next different =>
        rw [rep.account customerID]
        simp [or_and_right, exists_or, Ne.symm different]
  · intro customerID row found
    rw [reads] at found
    split at found
    · cases found
      rfl
    · exact rep.tier customerID row found
  · have stored : t.keys = (ledger.map (·.causationEventID)).filter (· ≠ "") := by
      rw [saved.keys, rep.keys]
    by_cases key : cmd.causationEventID = ""
    · simp [marked, announced, LoyaltyStore.publish, key, stored]
    · simp [marked, announced, LoyaltyStore.publish, key, stored]
  · rw [marked_published, running_concat]
    change List.Forall₂ Announces (t.published ++ [_]) _
    rw [saved.published]
    refine List.rel_append rep.published (.cons ⟨rfl, rfl, rfl, _, rfl, ?_, rfl, rfl, ?_, rfl⟩ .nil)
    · exact creditedAccount_customerID s amb cmd
    · exact balance

/-- Handle one command alone, on repositories that never fail. -/
def credit (s : LoyaltyStore) (x : Ambient × CreditLoyaltyRequest) : LoyaltyStore :=
  ((handle x.1 x.2).run serve s).2

/-- Every customer's sum is within the range of `int`. -/
def Fits (ledger : List CreditLoyaltyRequest) : Prop :=
  ∀ customerID, balanceOf customerID ledger < 2 ^ 63

/-- Sums only grow, so what fits at the end fitted before. -/
theorem Fits.of_record (fits : Fits (record ledger cmd)) : Fits ledger := by
  intro customerID
  have bound := fits customerID
  unfold record at bound
  split at bound
  · next effective =>
      have pos := Int64.lt_iff_toInt_lt.mp effective.1
      change 0 < cmd.points.toInt at pos
      rw [balanceOf_concat] at bound
      split at bound <;> omega
  · exact bound

/-- One command takes the store along with the ledger. -/
theorem credit_represents (rep : Represents s ledger)
    (fresh : FreshAccountID s amb cmd.customerID) (fits : Fits (record ledger cmd)) :
    Represents (credit s (amb, cmd)) (record ledger cmd) := by
  change Represents (creditWith (fun _ => none) amb cmd s).2 (record ledger cmd)
  unfold record at fits ⊢
  by_cases effective : Effective ledger cmd
  · rw [if_pos effective] at fits ⊢
    obtain ⟨t, saved, run⟩ :=
      creditWith_success (rep.reachesSave_iff.mpr effective) fresh rfl rfl (fun _ => rfl)
    rw [run]
    exact rep.concat effective (fits cmd.customerID) saved
  · have stopped := fun reaches => effective (rep.reachesSave_iff.mp reaches)
    obtain ⟨e, run⟩ := creditWith_of_not_reachesSave amb stopped
    rw [if_neg effective, run]
    exact rep

/-- The relation between the two machines: the store describes the ledger for as
long as the sums fit. -/
def Tracks (s : LoyaltyStore) (ledger : List CreditLoyaltyRequest) : Prop :=
  Fits ledger → Represents s ledger

theorem credit_tracks {x : Ambient × CreditLoyaltyRequest} (tracks : Tracks s ledger)
    (fresh : FreshAccountID s x.1 x.2.customerID) : Tracks (credit s x) (record ledger x.2) := by
  intro fits
  exact credit_represents (tracks fits.of_record) fresh fits

theorem effective_map (cmds : List (Ambient × CreditLoyaltyRequest)) :
    effective (cmds.map Prod.snd) = runFrom (fun ledger x => record ledger x.2) [] cmds :=
  List.foldl_map

/-- Every history of commands, handled one after another from an empty store,
leaves exactly its effective commands: in the balances, in the tiers, in the
idempotency keys and in the published events. -/
theorem credit_ledger_exact (cmds : List (Ambient × CreditLoyaltyRequest))
    (fresh : Admitted credit (fun s x => FreshAccountID s x.1 x.2.customerID)
      LoyaltyStore.empty cmds)
    (fits : ∀ customerID, balanceOf customerID (effective (cmds.map Prod.snd)) < 2 ^ 63) :
    let final := runFrom credit LoyaltyStore.empty cmds
    let ledger := effective (cmds.map Prod.snd)
    (∀ customerID row, final.accounts.findByCustomer customerID = some row →
        row.balance.toInt = balanceOf customerID ledger) ∧
      (∀ customerID, (final.accounts.findByCustomer customerID).isSome ↔
        ∃ cmd ∈ ledger, cmd.customerID = customerID) ∧
      (∀ row ∈ final.accounts.rows, row.tier = (calculateTier ⟨row.balance⟩).name) ∧
      final.keys = (ledger.map (·.causationEventID)).filter (· ≠ "") ∧
      List.Forall₂ Announces final.published (running [] ledger) := by
  have simulated := fresh.simulation (fun ledger x => record ledger x.2) Tracks
    (fun _ _ _ tracks fresh => credit_tracks tracks fresh) (fun _ => represents_empty)
  rw [← effective_map] at simulated
  have rep := simulated fits
  refine ⟨rep.balance, rep.account, ?_, rep.keys, rep.published⟩
  intro row mem
  exact rep.tier row.customerID row (AccountTable.findByCustomer_of_mem mem)

/-- A command and its replay: one account, one key, one event. -/
theorem credit_ledger_replay :
    let cmds := [(sampleAmbient, sampleCommand), (sampleAmbient, sampleCommand)]
    effective (cmds.map Prod.snd) = [sampleCommand] ∧
      (runFrom credit LoyaltyStore.empty cmds).keys = ["01ORDER"] := by
  have ledger : effective [sampleCommand, sampleCommand] = [sampleCommand] := by decide
  refine ⟨ledger, ?_⟩
  have fits : ∀ customerID, balanceOf customerID [sampleCommand] < 2 ^ 63 := by
    intro customerID
    rw [← List.nil_append [sampleCommand], balanceOf_concat, balanceOf_nil]
    split <;> decide
  have exact := credit_ledger_exact [(sampleAmbient, sampleCommand), (sampleAmbient, sampleCommand)]
    ⟨fun _ _ mem => (List.not_mem_nil mem).elim, fun missing => absurd missing (by decide), trivial⟩
    (by
      rw [List.map_cons, List.map_cons, List.map_nil, ledger]
      exact fits)
  rw [exact.2.2.2.1]
  decide

end Ledger

end GoOdin.Loyalty
