import GoOdin.Cqrs.Envelope
import Mathlib.Algebra.Ring.Int.Defs

/-!
# The loyalty domain: points, tiers and the account aggregate

Methods that mutate their receiver return the new aggregate. Every error exit of
`CreditPoints` and `DebitPoints` comes before the first assignment, so a failed
call has nothing to undo and answers only the error.

Identifiers and clock readings are drawn outside the domain. They are arguments,
named after the place in the source that draws them.
-/

namespace GoOdin.Loyalty

/-- The errors of the loyalty use case. Those of the database and the message
transport are known only by their text. -/
inductive LoyaltyError where
  | negativePoints
  | zeroPoints
  | insufficientPoints
  | duplicateEvent
  | external (message : String)
  deriving DecidableEq, Repr

/-- The text `err.Error()` yields. -/
def LoyaltyError.message : LoyaltyError → String
  | .negativePoints => "points cannot be negative"
  | .zeroPoints => "cannot credit zero points"
  | .insufficientPoints => "insufficient loyalty points"
  | .duplicateEvent => "event already processed (idempotency)"
  | .external message => message

/-- `valueobject.Points`. The source checks the sign in `NewPoints` only, so the
type itself admits what `Add` produces on overflow. -/
structure Points where
  value : Int64
  deriving DecidableEq, Repr

def newPoints (v : Int64) : Except LoyaltyError Points :=
  if v < 0 then .error .negativePoints else .ok ⟨v⟩

namespace Points

def add (p other : Points) : Points := ⟨p.value + other.value⟩

def sub (p other : Points) : Except LoyaltyError Points :=
  if p.value < other.value then .error (.external "insufficient points")
  else .ok ⟨p.value - other.value⟩

def isZero (p : Points) : Bool := p.value == 0

end Points

theorem newPoints_of_neg {v : Int64} (negative : v < 0) :
    newPoints v = .error .negativePoints := if_pos negative

theorem newPoints_of_nonneg {v : Int64} (nonneg : 0 ≤ v) : newPoints v = .ok ⟨v⟩ :=
  if_neg (Int64.not_lt.mpr nonneg)

/-- Adding a non-negative number is exact below the range limit of `int`. -/
theorem toInt_add_of_lt {a b : Int64} (nonneg : 0 ≤ b.toInt)
    (fits : a.toInt + b.toInt < 2 ^ 63) : (a + b).toInt = a.toInt + b.toInt := by
  have lower := a.le_toInt
  rw [Int64.toInt_add]
  apply Int.bmod_eq_of_le <;> omega

/-- `type Tier string`: a stored tier may hold any text. -/
structure Tier where
  name : String
  deriving DecidableEq, Repr

def tierBronze : Tier := ⟨"BRONZE"⟩
def tierSilver : Tier := ⟨"SILVER"⟩
def tierGold : Tier := ⟨"GOLD"⟩

/-- The map `TierThresholds`; a key that is missing reads as zero. -/
def tierThresholds (tier : Tier) : Int64 :=
  if tier = tierSilver then 500 else if tier = tierGold then 2000 else 0

def calculateTier (balance : Points) : Tier :=
  if tierThresholds tierGold ≤ balance.value then tierGold
  else if tierThresholds tierSilver ≤ balance.value then tierSilver
  else tierBronze

/-- `entity.LoyaltyAccount`. Its two times are Unix seconds. -/
structure LoyaltyAccount where
  id : String
  customerID : String
  balance : Points
  tier : Tier
  createdAt : Int64
  updatedAt : Int64
  deriving DecidableEq, Repr

structure LoyaltyAggregate where
  account : LoyaltyAccount
  domainEvents : List DomainEvent

/-- What `ulid.Make` and `time.Now` return while one command is handled. -/
structure Ambient where
  /-- `ulid.Make` in `NewLoyaltyAggregate`. -/
  accountID : String
  /-- `time.Now` in `NewLoyaltyAggregate`, for `CreatedAt` and `UpdatedAt`. -/
  createdAt : Int64
  openedAt : Int64
  /-- `time.Now` in `CreditPoints`. -/
  updatedAt : Int64
  /-- `time.Now` in `NewLoyaltyCreditedEvent`. -/
  occurredAt : Time
  /-- `ulid.Make` for the envelope of the domain event at each position. -/
  eventID : Nat → String

/-- `NewLoyaltyAggregate`. `MustNewPoints(0)` cannot panic: zero is not negative. -/
def newLoyaltyAggregate (amb : Ambient) (customerID : String) : LoyaltyAggregate where
  account :=
    { id := amb.accountID
      customerID := customerID
      balance := ⟨0⟩
      tier := tierBronze
      createdAt := amb.createdAt
      updatedAt := amb.openedAt }
  domainEvents := []

def reconstitute (account : LoyaltyAccount) : LoyaltyAggregate := ⟨account, []⟩

namespace LoyaltyAggregate

/-- The account after the three assignments of `CreditPoints`. -/
def creditedAccount (amb : Ambient) (account : LoyaltyAccount) (points : Points) :
    LoyaltyAccount :=
  let balance := account.balance.add points
  { account with balance := balance, tier := calculateTier balance, updatedAt := amb.updatedAt }

/-- `NewLoyaltyCreditedEvent` on the account as `CreditPoints` left it. -/
def creditedEvent (amb : Ambient) (account : LoyaltyAccount) (orderID : String)
    (points : Points) : LoyaltyCreditedEvent where
  loyaltyAccountID := account.id
  customerID := account.customerID
  orderID := orderID
  pointsEarned := points.value
  newBalance := account.balance.value
  newTier := account.tier.name
  occurredAt := amb.occurredAt

def creditPoints (amb : Ambient) (agg : LoyaltyAggregate) (orderID : String)
    (points : Points) : Except LoyaltyError LoyaltyAggregate :=
  if points.isZero then .error .zeroPoints
  else
    let account := creditedAccount amb agg.account points
    .ok
      { account := account
        domainEvents :=
          agg.domainEvents ++ [.loyaltyCredited (creditedEvent amb account orderID points)] }

/-- `DebitPoints`. Its `reason` argument is not used by the source. -/
def debitPoints (updatedAt : Int64) (agg : LoyaltyAggregate) (points : Points) :
    Except LoyaltyError LoyaltyAggregate :=
  match agg.account.balance.sub points with
  | .error _ => .error .insufficientPoints
  | .ok newBalance =>
      .ok
        { agg with
          account :=
            { agg.account with
              balance := newBalance, tier := calculateTier newBalance, updatedAt := updatedAt } }

/-- The returned events and the aggregate with its slice cleared. -/
def flushEvents (agg : LoyaltyAggregate) : List DomainEvent × LoyaltyAggregate :=
  (agg.domainEvents, { agg with domainEvents := [] })

end LoyaltyAggregate

end GoOdin.Loyalty
