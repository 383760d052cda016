import GoOdin.Loyalty.Store

/-!
# `CreditLoyaltyHandler.Handle`

The handler is written as its six numbered steps, each continuing with the next.
Every repository call is one call of the program, in the order of the source, and
an error of a call is returned unchanged. The `otel` spans and the log lines have
no effect on the store and are left out.

The first part of this module states what each step does to a store when the
handler runs alone. `creditedAggregate` is the aggregate that step 4 saves; it is
a function of the store and the command, so later proofs need not unfold steps 2
and 3 again.
-/

namespace GoOdin.Loyalty

open Interaction

structure CreditLoyaltyRequest where
  customerID : String
  orderID : String
  points : Int64
  correlationID : String
  causationEventID : String
  deriving DecidableEq, Repr

structure CreditLoyaltyResponse where
  loyaltyAccountID : String
  newBalance : Int64
  newTier : String
  deriving DecidableEq, Repr

/-- A loyalty handler that returns an `α` or an error. -/
abbrev LoyaltyProgram (α : Type) := Program LoyaltyCall LoyaltyCall.Answer LoyaltyError α

namespace CreditLoyaltyHandler

/-- The response built from the aggregate after its events were flushed. -/
def response (agg : LoyaltyAggregate) : CreditLoyaltyResponse where
  loyaltyAccountID := agg.account.id
  newBalance := agg.account.balance.value
  newTier := agg.account.tier.name

/-- The envelopes of step 5, one for each domain event. -/
def envelopes (amb : Ambient) (cmd : CreditLoyaltyRequest) (domainEvents : List DomainEvent) :
    List EventEnvelope :=
  domainEvents.mapIdx fun i de =>
    { eventID := amb.eventID i
      correlationID := cmd.correlationID
      causationID := cmd.causationEventID
      eventName := Events.loyaltyCredited
      occurredAt := de.occurredAt
      payload := some de }

/-- Step 6: mark the idempotency key, then answer. -/
def markKey (cmd : CreditLoyaltyRequest) (agg : LoyaltyAggregate) :
    LoyaltyProgram CreditLoyaltyResponse :=
  if cmd.causationEventID ≠ "" then
    .attempt (.mark cmd.causationEventID) fun _ => .ret (.ok (response agg))
  else .ret (.ok (response agg))

/-- Step 5: flush the domain events and publish them in one call. -/
def publishEvents (amb : Ambient) (cmd : CreditLoyaltyRequest) (agg : LoyaltyAggregate) :
    LoyaltyProgram CreditLoyaltyResponse :=
  .attempt (.publish (envelopes amb cmd agg.flushEvents.1)) fun _ =>
    markKey cmd agg.flushEvents.2

/-- Step 4: save the aggregate. -/
def saveAggregate (amb : Ambient) (cmd : CreditLoyaltyRequest) (agg : LoyaltyAggregate) :
    LoyaltyProgram CreditLoyaltyResponse :=
  .attempt (.save agg) fun _ => publishEvents amb cmd agg

/-- Step 3: mutate the aggregate. -/
def mutate (amb : Ambient) (cmd : CreditLoyaltyRequest) (agg : LoyaltyAggregate) :
    LoyaltyProgram CreditLoyaltyResponse :=
  match newPoints cmd.points with
  | .error e => .ret (.error e)
  | .ok pts =>
      match agg.creditPoints amb cmd.orderID pts with
      | .error e => .ret (.error e)
      | .ok agg => saveAggregate amb cmd agg

/-- Step 2: load or create the aggregate. -/
def loadOrCreate (amb : Ambient) (cmd : CreditLoyaltyRequest) :
    LoyaltyProgram CreditLoyaltyResponse :=
  .attempt (.findByCustomerID cmd.customerID) fun found : Option LoyaltyAggregate =>
    mutate amb cmd (found.getD (newLoyaltyAggregate amb cmd.customerID))

/-- Step 1, then the rest. An empty key skips the idempotency check. -/
def handle (amb : Ambient) (cmd : CreditLoyaltyRequest) : LoyaltyProgram CreditLoyaltyResponse :=
  if cmd.causationEventID ≠ "" then
    .attempt (.exists cmd.causationEventID) fun found : Bool =>
      if found then .ret (.error .duplicateEvent) else loadOrCreate amb cmd
  else loadOrCreate amb cmd

/-- Values drawn for one command, used in concrete runs. -/
def sampleAmbient : Ambient where
  accountID := "01ACCOUNT"
  createdAt := 1700000000
  openedAt := 1700000000
  updatedAt := 1700000001
  occurredAt := ⟨1700000001000000000⟩
  eventID := fun _ => "01CREDITED"

/-- Ten points for one order, caused by one event. -/
def sampleCommand : CreditLoyaltyRequest where
  customerID := "customer-1"
  orderID := "order-1"
  points := 10
  correlationID := "trace-1"
  causationEventID := "01ORDER"

/-- A store with one account of one hundred points. -/
def sampleStore : LoyaltyStore where
  accounts :=
    { rows :=
        [{ id := "01ACCOUNT", customerID := "customer-1", balance := 100, tier := "BRONZE"
           createdAt := 1600000000, updatedAt := 1600000000 }]
      uniqueID := List.nodup_singleton _
      uniqueCustomer := List.nodup_singleton _ }
  keys := []
  published := []

/-- The account step 3 starts from: the stored one, or a new one. -/
def baseAccount (s : LoyaltyStore) (amb : Ambient) (customerID : String) : LoyaltyAccount :=
  match s.accounts.findByCustomer customerID with
  | none => (newLoyaltyAggregate amb customerID).account
  | some row => ofRow row ⟨row.balance⟩

/-- The account with the points of the command. -/
def creditedAccount (s : LoyaltyStore) (amb : Ambient) (cmd : CreditLoyaltyRequest) :
    LoyaltyAccount :=
  LoyaltyAggregate.creditedAccount amb (baseAccount s amb cmd.customerID) ⟨cmd.points⟩

/-- An account with the one event that crediting it raised. -/
def raised (amb : Ambient) (cmd : CreditLoyaltyRequest) (account : LoyaltyAccount) :
    LoyaltyAggregate where
  account := account
  domainEvents :=
    [.loyaltyCredited (LoyaltyAggregate.creditedEvent amb account cmd.orderID ⟨cmd.points⟩)]

/-- The aggregate step 4 saves. -/
def creditedAggregate (s : LoyaltyStore) (amb : Ambient) (cmd : CreditLoyaltyRequest) :
    LoyaltyAggregate :=
  raised amb cmd (creditedAccount s amb cmd)

/-- The one envelope a credit publishes. -/
def creditedEnvelope (amb : Ambient) (cmd : CreditLoyaltyRequest) (account : LoyaltyAccount) :
    EventEnvelope where
  eventID := amb.eventID 0
  correlationID := cmd.correlationID
  causationID := cmd.causationEventID
  eventName := Events.loyaltyCredited
  occurredAt := amb.occurredAt
  payload :=
    some (.loyaltyCredited (LoyaltyAggregate.creditedEvent amb account cmd.orderID ⟨cmd.points⟩))

theorem envelopes_raised (amb : Ambient) (cmd : CreditLoyaltyRequest) (account : LoyaltyAccount) :
    envelopes amb cmd (raised amb cmd account).flushEvents.1 =
      [creditedEnvelope amb cmd account] := rfl

/-- The commands step 3 accepts are those with positive points. -/
theorem mutate_of_pos (amb : Ambient) (cmd : CreditLoyaltyRequest) (account : LoyaltyAccount)
    (positive : 0 < cmd.points) :
    mutate amb cmd ⟨account, []⟩ =
      saveAggregate amb cmd
        (raised amb cmd (LoyaltyAggregate.creditedAccount amb account ⟨cmd.points⟩)) := by
  have nonzero : (⟨cmd.points⟩ : Points).isZero = false := by
    simpa [Points.isZero] using (Int64.ne_of_lt positive).symm
  rw [mutate, newPoints_of_nonneg (Int64.le_of_lt positive)]
  simp only [LoyaltyAggregate.creditPoints, nonzero]
  rfl

theorem mutate_of_not_pos (amb : Ambient) (cmd : CreditLoyaltyRequest) (agg : LoyaltyAggregate)
    (rejected : ¬ 0 < cmd.points) : ∃ e, mutate amb cmd agg = .ret (.error e) := by
  by_cases negative : cmd.points < 0
  · exact ⟨.negativePoints, by rw [mutate, newPoints_of_neg negative]⟩
  · have nonneg : 0 ≤ cmd.points := Int64.not_lt.mp negative
    have zero : cmd.points = 0 := Int64.le_antisymm (Int64.not_lt.mp rejected) nonneg
    refine ⟨.zeroPoints, ?_⟩
    rw [mutate, newPoints_of_nonneg nonneg]
    simp [LoyaltyAggregate.creditPoints, Points.isZero, zero]

/-- `FindByCustomerID` accepts the stored balance of this customer, if there is one. -/
def Loadable (s : LoyaltyStore) (customerID : String) : Prop :=
  ∀ row, s.accounts.findByCustomer customerID = some row → 0 ≤ row.balance

theorem findByCustomerID_of_loadable {s : LoyaltyStore} {customerID : String}
    (loadable : Loadable s customerID) (amb : Ambient) :
    ∃ found, s.findByCustomerID customerID = .ok found ∧
      found.getD (newLoyaltyAggregate amb customerID) = ⟨baseAccount s amb customerID, []⟩ := by
  unfold LoyaltyStore.findByCustomerID baseAccount
  cases lookup : s.accounts.findByCustomer customerID with
  | none => exact ⟨none, rfl, rfl⟩
  | some row =>
      simp only [newPoints_of_nonneg (loadable row lookup)]
      exact ⟨_, rfl, rfl⟩

theorem findByCustomerID_of_not_loadable {s : LoyaltyStore} {customerID : String}
    (rejected : ¬ Loadable s customerID) : ∃ e, s.findByCustomerID customerID = .error e := by
  simp only [Loadable, not_forall] at rejected
  obtain ⟨row, lookup, negative⟩ := rejected
  refine ⟨.negativePoints, ?_⟩
  simp only [LoyaltyStore.findByCustomerID, lookup, newPoints_of_neg (Int64.not_le.mp negative)]

@[simp] theorem baseAccount_customerID (s : LoyaltyStore) (amb : Ambient) (customerID : String) :
    (baseAccount s amb customerID).customerID = customerID := by
  unfold baseAccount
  cases lookup : s.accounts.findByCustomer customerID with
  | none => rfl
  | some row => exact (AccountTable.findByCustomer_some lookup).2

theorem baseAccount_balance_of_found {s : LoyaltyStore} {customerID : String}
    {row : LoyaltyAccountRow} (found : s.accounts.findByCustomer customerID = some row)
    (amb : Ambient) : (baseAccount s amb customerID).balance.value = row.balance := by
  unfold baseAccount
  rw [found]
  rfl

@[simp] theorem creditedAccount_customerID (s : LoyaltyStore) (amb : Ambient)
    (cmd : CreditLoyaltyRequest) : (creditedAccount s amb cmd).customerID = cmd.customerID :=
  baseAccount_customerID s amb cmd.customerID

/-- Saving onto the row of an existing account is the update branch. -/
theorem save_existing {s : LoyaltyStore} {agg : LoyaltyAggregate} {customerID : String}
    {row : LoyaltyAccountRow} (found : s.accounts.findByCustomer customerID = some row)
    (same : row.id = agg.account.id) :
    s.save agg = .ok { s with accounts := s.accounts.update (toRow agg.account) } := by
  have mem := (AccountTable.findByCustomer_some found).1
  have updated : s.accounts.upsert (toRow agg.account) =
      .ok (s.accounts.update (toRow agg.account)) := AccountTable.upsert_of_mem mem same
  rw [LoyaltyStore.save, updated]

/-- A store after one account was written: its row is there, every other customer
is untouched, and no other account id appeared. -/
structure Saved (s : LoyaltyStore) (account : LoyaltyAccount) (t : LoyaltyStore) : Prop where
  self : t.accounts.findByCustomer account.customerID = some (toRow account)
  other : ∀ customerID, customerID ≠ account.customerID →
    t.accounts.findByCustomer customerID = s.accounts.findByCustomer customerID
  ids : ∀ row ∈ t.accounts.rows, row.id = account.id ∨ ∃ old ∈ s.accounts.rows, old.id = row.id
  keys : t.keys = s.keys
  published : t.published = s.published

theorem Saved.findByCustomer {s t : LoyaltyStore} {account : LoyaltyAccount}
    (saved : Saved s account t) (customerID : String) :
    t.accounts.findByCustomer customerID =
      if customerID = account.customerID then some (toRow account)
      else s.accounts.findByCustomer customerID := by
  split
  · next same => rw [same, saved.self]
  · next different => exact saved.other customerID different

/-- The account id drawn for a customer without an account is not in use. -/
def FreshAccountID (s : LoyaltyStore) (amb : Ambient) (customerID : String) : Prop :=
  s.accounts.findByCustomer customerID = none →
    ∀ row ∈ s.accounts.rows, row.id ≠ amb.accountID

section SaveCredited

variable {s : LoyaltyStore} {amb : Ambient} {cmd : CreditLoyaltyRequest}

/-- Step 4 inserts the account of a customer who has none, under an id not in use. -/
theorem save_creditedAggregate_new (lookup : s.accounts.findByCustomer cmd.customerID = none)
    (freshID : ∀ row ∈ s.accounts.rows, row.id ≠ (toRow (creditedAccount s amb cmd)).id) :
    ∃ t, s.save (creditedAggregate s amb cmd) = .ok t ∧
      Saved s (creditedAccount s amb cmd) t := by
  have freshCustomer : ∀ row ∈ s.accounts.rows,
      row.customerID ≠ (toRow (creditedAccount s amb cmd)).customerID := by
    intro row mem
    change row.customerID ≠ (creditedAccount s amb cmd).customerID
    rw [creditedAccount_customerID]
    exact AccountTable.findByCustomer_none.mp lookup row mem
  refine ⟨{ s with accounts := s.accounts.insert _ freshID freshCustomer }, ?_, ?_, ?_, ?_,
    rfl, rfl⟩
  · simp only [LoyaltyStore.save, creditedAggregate, raised,
      AccountTable.upsert_of_fresh freshID freshCustomer]
  · rw [AccountTable.findByCustomer_insert]
    exact if_pos rfl
  · intro customerID different
    rw [AccountTable.findByCustomer_insert]
    exact if_neg different
  · intro row mem
    rcases List.mem_append.mp mem with old | new
    · exact .inr ⟨row, old, rfl⟩
    · exact .inl (by rw [List.mem_singleton.mp new]; rfl)

/-- Step 4 updates the row of a customer who has an account. -/
theorem save_creditedAggregate_existing {row : LoyaltyAccountRow}
    (lookup : s.accounts.findByCustomer cmd.customerID = some row) :
    ∃ t, s.save (creditedAggregate s amb cmd) = .ok t ∧
      Saved s (creditedAccount s amb cmd) t := by
  have same : row.id = (creditedAggregate s amb cmd).account.id := by
    simp [creditedAggregate, raised, creditedAccount, LoyaltyAggregate.creditedAccount,
      baseAccount, lookup, ofRow]
  refine ⟨_, save_existing lookup same, ?_, ?_, ?_, rfl, rfl⟩
  · rw [creditedAccount_customerID, AccountTable.findByCustomer_update_self lookup same]
    simp [creditedAggregate, raised, creditedAccount, LoyaltyAggregate.creditedAccount,
      baseAccount, lookup, ofRow, toRow]
  · intro customerID different
    rw [creditedAccount_customerID] at different
    exact AccountTable.findByCustomer_update_other lookup same different
  · intro new mem
    obtain ⟨old, oldMem, rfl⟩ := List.mem_map.mp mem
    exact .inr ⟨old, oldMem, (AccountTable.assignColumns_id _ old).symm⟩

end SaveCredited

/-- Step 4 succeeds on the aggregate that steps 2 and 3 prepared. -/
theorem save_creditedAggregate {s : LoyaltyStore} {amb : Ambient} (cmd : CreditLoyaltyRequest)
    (fresh : FreshAccountID s amb cmd.customerID) :
    ∃ t, s.save (creditedAggregate s amb cmd) = .ok t ∧
      Saved s (creditedAccount s amb cmd) t := by
  cases lookup : s.accounts.findByCustomer cmd.customerID with
  | none =>
      have drawn : (toRow (creditedAccount s amb cmd)).id = amb.accountID := by
        simp [toRow, creditedAccount, LoyaltyAggregate.creditedAccount, baseAccount, lookup,
          newLoyaltyAggregate]
      apply save_creditedAggregate_new lookup
      rw [drawn]
      exact fresh lookup
  | some row => exact save_creditedAggregate_existing lookup

end CreditLoyaltyHandler

end GoOdin.Loyalty
