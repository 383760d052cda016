import GoOdin.Interaction.Program
import GoOdin.Loyalty.Domain
import Mathlib.Data.List.Nodup

/-!
# The loyalty repositories over their tables

`loyalty_accounts` has a primary key and a unique customer column; the table type
carries both constraints. `Save` is an insert that turns into an update of three
columns when the primary key is taken, and is rejected when only the customer is.
`idempotency_keys` has a unique index on the causation event id. The third part
of the store is the log of envelopes handed to the event bus.

Columns of the key table other than the causation event id are written and never
read, so the table is the list of its keys.
-/

namespace GoOdin.Loyalty

open Interaction

/-- A row of `loyalty_accounts`. -/
structure LoyaltyAccountRow where
  id : String
  customerID : String
  balance : Int64
  tier : String
  createdAt : Int64
  updatedAt : Int64
  deriving DecidableEq, Repr

/-- The rows of `loyalty_accounts`, with the constraints of its migration. -/
structure AccountTable where
  rows : List LoyaltyAccountRow
  uniqueID : (rows.map (·.id)).Nodup
  uniqueCustomer : (rows.map (·.customerID)).Nodup

namespace AccountTable

@[ext] theorem ext {t u : AccountTable} (rows : t.rows = u.rows) : t = u := by
  cases t
  cases u
  congr

def empty : AccountTable := ⟨[], List.nodup_nil, List.nodup_nil⟩

/-- `WHERE customer_id = ?`, first row. -/
def findByCustomer (t : AccountTable) (customerID : String) : Option LoyaltyAccountRow :=
  t.rows.find? fun row => row.customerID = customerID

/-- `DO UPDATE SET balance, tier, updated_at` from the rejected insert. -/
def assignColumns (new old : LoyaltyAccountRow) : LoyaltyAccountRow :=
  if old.id = new.id then
    { old with balance := new.balance, tier := new.tier, updatedAt := new.updatedAt }
  else old

@[simp] theorem assignColumns_id (new old : LoyaltyAccountRow) :
    (assignColumns new old).id = old.id := by
  unfold assignColumns
  split <;> rfl

@[simp] theorem assignColumns_customerID (new old : LoyaltyAccountRow) :
    (assignColumns new old).customerID = old.customerID := by
  unfold assignColumns
  split <;> rfl

/-- The update branch of the upsert. It changes neither key, so the constraints
carry over. -/
def update (t : AccountTable) (new : LoyaltyAccountRow) : AccountTable where
  rows := t.rows.map (assignColumns new)
  uniqueID := by simpa [Function.comp_def] using t.uniqueID
  uniqueCustomer := by simpa [Function.comp_def] using t.uniqueCustomer

/-- The insert branch of the upsert, for a row that violates no constraint. -/
def insert (t : AccountTable) (new : LoyaltyAccountRow)
    (freshID : ∀ row ∈ t.rows, row.id ≠ new.id)
    (freshCustomer : ∀ row ∈ t.rows, row.customerID ≠ new.customerID) : AccountTable where
  rows := t.rows ++ [new]
  uniqueID := by
    rw [List.map_append, List.nodup_append]
    exact ⟨t.uniqueID, List.nodup_singleton _, by simpa using freshID⟩
  uniqueCustomer := by
    rw [List.map_append, List.nodup_append]
    exact ⟨t.uniqueCustomer, List.nodup_singleton _, by simpa using freshCustomer⟩

/-- What the database reports when the customer already has another account. -/
def uniqueViolation : LoyaltyError :=
  .external "duplicate key value violates unique constraint on customer_id"

/-- `INSERT ... ON CONFLICT (id) DO UPDATE`. -/
def upsert (t : AccountTable) (new : LoyaltyAccountRow) : Except LoyaltyError AccountTable :=
  if freshID : ∀ row ∈ t.rows, row.id ≠ new.id then
    if freshCustomer : ∀ row ∈ t.rows, row.customerID ≠ new.customerID then
      .ok (t.insert new freshID freshCustomer)
    else .error uniqueViolation
  else .ok (t.update new)

theorem findByCustomer_some {t : AccountTable} {customerID : String} {row : LoyaltyAccountRow}
    (found : t.findByCustomer customerID = some row) :
    row ∈ t.rows ∧ row.customerID = customerID :=
  ⟨List.mem_of_find?_eq_some found, by simpa using List.find?_some found⟩

theorem findByCustomer_none {t : AccountTable} {customerID : String} :
    t.findByCustomer customerID = none ↔ ∀ row ∈ t.rows, row.customerID ≠ customerID := by
  simp [findByCustomer]

/-- Every row is the one found for its customer. -/
theorem findByCustomer_of_mem {t : AccountTable} {row : LoyaltyAccountRow} (mem : row ∈ t.rows) :
    t.findByCustomer row.customerID = some row := by
  cases lookup : t.findByCustomer row.customerID with
  | none => exact absurd rfl (findByCustomer_none.mp lookup row mem)
  | some other =>
      obtain ⟨otherMem, same⟩ := findByCustomer_some lookup
      rw [List.inj_on_of_nodup_map t.uniqueCustomer otherMem mem same]

/-- The primary key determines the row. -/
theorem eq_of_id {t : AccountTable} {row other : LoyaltyAccountRow} (mem : row ∈ t.rows)
    (mem' : other ∈ t.rows) (same : row.id = other.id) : row = other :=
  List.inj_on_of_nodup_map t.uniqueID mem mem' same

theorem findByCustomer_update (t : AccountTable) (new : LoyaltyAccountRow)
    (customerID : String) :
    (t.update new).findByCustomer customerID =
      (t.findByCustomer customerID).map (assignColumns new) := by
  have same : (fun row => decide (row.customerID = customerID)) ∘ assignColumns new =
      fun row => decide (row.customerID = customerID) := by
    funext row
    simp
  rw [findByCustomer, update, List.find?_map, same]
  rfl

/-- Updating the account of one customer shows in that customer's row. -/
theorem findByCustomer_update_self {t : AccountTable} {new row : LoyaltyAccountRow}
    {customerID : String} (found : t.findByCustomer customerID = some row)
    (same : row.id = new.id) :
    (t.update new).findByCustomer customerID =
      some { row with balance := new.balance, tier := new.tier, updatedAt := new.updatedAt } := by
  rw [findByCustomer_update, found, Option.map_some, assignColumns, if_pos same]

/-- Every other customer keeps the row it had. -/
theorem findByCustomer_update_other {t : AccountTable} {new row : LoyaltyAccountRow}
    {customerID other : String} (found : t.findByCustomer customerID = some row)
    (same : row.id = new.id) (different : other ≠ customerID) :
    (t.update new).findByCustomer other = t.findByCustomer other := by
  rw [findByCustomer_update]
  cases lookup : t.findByCustomer other with
  | none => rfl
  | some otherRow =>
      obtain ⟨mem, customer⟩ := findByCustomer_some found
      obtain ⟨otherMem, otherCustomer⟩ := findByCustomer_some lookup
      have distinct : otherRow.id ≠ new.id := by
        intro clash
        have rowEq := eq_of_id otherMem mem (clash.trans same.symm)
        exact different (by rw [← otherCustomer, rowEq, customer])
      rw [Option.map_some, assignColumns, if_neg distinct]

theorem findByCustomer_insert {t : AccountTable} {new : LoyaltyAccountRow}
    (freshID : ∀ row ∈ t.rows, row.id ≠ new.id)
    (freshCustomer : ∀ row ∈ t.rows, row.customerID ≠ new.customerID) (customerID : String) :
    (t.insert new freshID freshCustomer).findByCustomer customerID =
      if customerID = new.customerID then some new else t.findByCustomer customerID := by
  by_cases same : customerID = new.customerID
  · subst same
    have absent : t.findByCustomer new.customerID = none := findByCustomer_none.mpr freshCustomer
    rw [if_pos rfl]
    simp only [findByCustomer, insert, List.find?_append] at absent ⊢
    simp [absent]
  · rw [if_neg same]
    have skipped : (new.customerID = customerID) = False := eq_false fun h => same h.symm
    simp [findByCustomer, insert, List.find?_append, skipped]

theorem upsert_of_mem {t : AccountTable} {new row : LoyaltyAccountRow} (mem : row ∈ t.rows)
    (same : row.id = new.id) : t.upsert new = .ok (t.update new) :=
  dif_neg fun fresh => fresh row mem same

theorem upsert_of_fresh {t : AccountTable} {new : LoyaltyAccountRow}
    (freshID : ∀ row ∈ t.rows, row.id ≠ new.id)
    (freshCustomer : ∀ row ∈ t.rows, row.customerID ≠ new.customerID) :
    t.upsert new = .ok (t.insert new freshID freshCustomer) := by
  rw [upsert, dif_pos freshID, dif_pos freshCustomer]

end AccountTable

/-- Everything the credit handler reads or writes outside itself. -/
@[ext] structure LoyaltyStore where
  accounts : AccountTable
  /-- The `causation_event_id` column of `idempotency_keys`, oldest first. -/
  keys : List String
  /-- The envelopes the event bus accepted, oldest first. -/
  published : List EventEnvelope

def LoyaltyStore.empty : LoyaltyStore := ⟨AccountTable.empty, [], []⟩

/-- The calls the handlers make on the repositories and on the event bus. -/
inductive LoyaltyCall where
  | exists (causationEventID : String)
  | findByCustomerID (customerID : String)
  | save (agg : LoyaltyAggregate)
  | publish (envelopes : List EventEnvelope)
  | mark (causationEventID : String)

/-- A call by the repository method it names. -/
inductive CallKind where
  | exists | findByCustomerID | save | publish | mark
  deriving DecidableEq, Repr

def LoyaltyCall.kind : LoyaltyCall → CallKind
  | .exists _ => .exists
  | .findByCustomerID _ => .findByCustomerID
  | .save _ => .save
  | .publish _ => .publish
  | .mark _ => .mark

/-- What each call answers when it succeeds. -/
abbrev LoyaltyCall.Answer : LoyaltyCall → Type
  | .exists _ => Bool
  | .findByCustomerID _ => Option LoyaltyAggregate
  | .save _ | .publish _ | .mark _ => Unit

/-- The row `Save` writes for an account. -/
def toRow (account : LoyaltyAccount) : LoyaltyAccountRow where
  id := account.id
  customerID := account.customerID
  balance := account.balance.value
  tier := account.tier.name
  createdAt := account.createdAt
  updatedAt := account.updatedAt

/-- The account `FindByCustomerID` builds from a row whose balance is valid. -/
def ofRow (row : LoyaltyAccountRow) (balance : Points) : LoyaltyAccount where
  id := row.id
  customerID := row.customerID
  balance := balance
  tier := ⟨row.tier⟩
  createdAt := row.createdAt
  updatedAt := row.updatedAt

namespace LoyaltyStore

/-- `idempotencyGormRepository.Exists`. -/
def existsKey (s : LoyaltyStore) (causationEventID : String) : Bool :=
  decide (causationEventID ∈ s.keys)

/-- `loyaltyWriteGormRepository.FindByCustomerID`. A missing row is no error; a
stored balance that `NewPoints` rejects is one. -/
def findByCustomerID (s : LoyaltyStore) (customerID : String) :
    Except LoyaltyError (Option LoyaltyAggregate) :=
  match s.accounts.findByCustomer customerID with
  | none => .ok none
  | some row =>
      match newPoints row.balance with
      | .error e => .error e
      | .ok balance => .ok (some (reconstitute (ofRow row balance)))

/-- `loyaltyWriteGormRepository.Save`. -/
def save (s : LoyaltyStore) (agg : LoyaltyAggregate) : Except LoyaltyError LoyaltyStore :=
  match s.accounts.upsert (toRow agg.account) with
  | .error e => .error e
  | .ok accounts => .ok { s with accounts := accounts }

/-- What the database reports when the causation event id is taken. -/
def duplicateKey : LoyaltyError :=
  .external "duplicate key value violates unique constraint on causation_event_id"

/-- `idempotencyGormRepository.Mark`, an insert under a unique index. -/
def mark (s : LoyaltyStore) (causationEventID : String) : Except LoyaltyError LoyaltyStore :=
  if causationEventID ∈ s.keys then .error duplicateKey
  else .ok { s with keys := s.keys ++ [causationEventID] }

/-- A successful `eventBus.Publish`. -/
def publish (s : LoyaltyStore) (envelopes : List EventEnvelope) : LoyaltyStore :=
  { s with published := s.published ++ envelopes }

end LoyaltyStore

/-- A write that failed leaves the store as it was. -/
def writeReply (s : LoyaltyStore) : Except LoyaltyError LoyaltyStore →
    Except LoyaltyError Unit × LoyaltyStore
  | .error e => (.error e, s)
  | .ok t => (.ok (), t)

theorem LoyaltyStore.mark_error {s : LoyaltyStore} {key : String} {e : LoyaltyError}
    (rejected : s.mark key = .error e) : key ∈ s.keys ∧ e = duplicateKey := by
  unfold LoyaltyStore.mark at rejected
  split at rejected
  · next taken =>
      cases rejected
      exact ⟨taken, rfl⟩
  · cases rejected

theorem LoyaltyStore.mark_ok {s t : LoyaltyStore} {key : String} (marks : s.mark key = .ok t) :
    key ∉ s.keys ∧ t = { s with keys := s.keys ++ [key] } := by
  unfold LoyaltyStore.mark at marks
  split at marks
  · cases marks
  · next free =>
      cases marks
      exact ⟨free, rfl⟩

theorem writeReply_error {s t : LoyaltyStore} {outcome : Except LoyaltyError LoyaltyStore}
    {e : LoyaltyError} (reply : writeReply s outcome = (.error e, t)) :
    outcome = .error e ∧ t = s := by
  cases outcome <;> cases reply
  exact ⟨rfl, rfl⟩

theorem writeReply_ok {s t : LoyaltyStore} {outcome : Except LoyaltyError LoyaltyStore}
    {a : Unit} (reply : writeReply s outcome = (.ok a, t)) : outcome = .ok t := by
  cases outcome <;> cases reply
  rfl

/-- The plain repositories, as the registrar wires them: every call commits on its
own. -/
def serve : Service LoyaltyCall LoyaltyCall.Answer LoyaltyError LoyaltyStore
  | s, .exists key => (.ok (s.existsKey key), s)
  | s, .findByCustomerID customerID => (s.findByCustomerID customerID, s)
  | s, .save agg => writeReply s (s.save agg)
  | s, .publish envelopes => (.ok (), s.publish envelopes)
  | s, .mark key => writeReply s (s.mark key)

end GoOdin.Loyalty
