import GoOdin.Interaction.Run
import GoOdin.Loyalty.Domain
import Mathlib.Tactic.SplitIfs

/-!
# Calls on one loyalty aggregate

`CreditPoints` and `DebitPoints` assign to the fields of their receiver one after the
other. Here they are written that way, in a monad in which the assignments made before an
error stay; the equations below say that none is made. `FlushEvents` returns the collected
events and clears the slice.

`NewPoints` refuses negative values, but `Add` builds its sum without it. The sum is taken
in `int`, so a credit that passes the range makes the balance negative. Below the range,
the events flushed and pending are an exact account of the credits.
-/

namespace GoOdin.Loyalty

open Interaction

/-- A value that `NewPoints` returned. -/
abbrev BuiltPoints := { points : Points // newPoints points.value = .ok points }

theorem newPoints_eq_ok_iff {p : Points} : newPoints p.value = .ok p ↔ 0 ≤ p.value.toInt := by
  by_cases negative : p.value < 0
  · have below : p.value.toInt < 0 := Int64.lt_iff_toInt_lt.mp negative
    simp only [newPoints_of_neg negative, reduceCtorEq, false_iff]
    omega
  · have nonneg : 0 ≤ p.value := Int64.not_lt.mp negative
    exact iff_of_true (newPoints_of_nonneg nonneg) (Int64.le_iff_toInt_le.mp nonneg)

theorem BuiltPoints.nonneg (p : BuiltPoints) : 0 ≤ p.1.value.toInt := newPoints_eq_ok_iff.mp p.2

theorem Points.isZero_iff {p : Points} : p.isZero = true ↔ p.value.toInt = 0 := by
  rw [isZero, beq_iff_eq, ← Int64.toInt_inj]
  rfl

/-- The order of the three tiers. A stored tier with another text has no place in it. -/
def Tier.Below (tier other : Tier) : Prop :=
  (tier, other) ∈ [(tierBronze, tierSilver), (tierBronze, tierGold), (tierSilver, tierGold)]

instance (tier other : Tier) : Decidable (tier.Below other) := inferInstanceAs (Decidable (_ ∈ _))

/-- The tier of a balance is below those whose threshold it does not reach. -/
theorem calculateTier_below_iff (balance : Points) (nonneg : 0 ≤ balance.value.toInt)
    (tier : Tier) :
    (calculateTier balance).Below tier ↔ balance.value.toInt < (tierThresholds tier).toInt := by
  have gold : tierThresholds tierGold ≤ balance.value ↔ 2000 ≤ balance.value.toInt :=
    Int64.le_iff_toInt_le
  have silver : tierThresholds tierSilver ≤ balance.value ↔ 500 ≤ balance.value.toInt :=
    Int64.le_iff_toInt_le
  simp only [calculateTier, gold, silver]
  obtain rfl | notSilver := eq_or_ne tier tierSilver
  · show _ ↔ balance.value.toInt < 500
    split_ifs <;> simp [Tier.Below, tierBronze, tierSilver, tierGold] <;> omega
  · obtain rfl | notGold := eq_or_ne tier tierGold
    · show _ ↔ balance.value.toInt < 2000
      split_ifs <;> simp [Tier.Below, tierBronze, tierSilver, tierGold] <;> omega
    · have threshold : tierThresholds tier = 0 := by simp [tierThresholds, notSilver, notGold]
      rw [threshold]
      show _ ↔ balance.value.toInt < 0
      split_ifs <;> simp [Tier.Below, notSilver, notGold] <;> omega

/-- A method of `*LoyaltyAggregate`. -/
abbrev Method := ExceptT LoyaltyError (StateM LoyaltyAggregate)

namespace Method

/-- What a method returns, and the receiver it leaves. -/
def on {α : Type} (m : Method α) (a : LoyaltyAggregate) :
    Except LoyaltyError α × LoyaltyAggregate :=
  m.run.run a

/-- An assignment to a field of the account. -/
def setAccount (f : LoyaltyAccount → LoyaltyAccount) : Method Unit :=
  modify fun a => { a with account := f a.account }

def creditPoints (amb : Ambient) (orderID : String) (points : Points) : Method Unit := do
  if points.isZero then throw .zeroPoints
  setAccount fun account => { account with balance := account.balance.add points }
  setAccount fun account => { account with tier := calculateTier account.balance }
  setAccount fun account => { account with updatedAt := amb.updatedAt }
  modify fun a =>
    { a with
      domainEvents := a.domainEvents ++
        [.loyaltyCredited (LoyaltyAggregate.creditedEvent amb a.account orderID points)] }

def debitPoints (updatedAt : Int64) (points : Points) : Method Unit := do
  match (← get).account.balance.sub points with
  | .error _ => throw .insufficientPoints
  | .ok newBalance =>
      setAccount fun account => { account with balance := newBalance }
      setAccount fun account => { account with tier := calculateTier account.balance }
      setAccount fun account => { account with updatedAt := updatedAt }

def flushEvents : Method (List DomainEvent) := do
  let evts := (← get).domainEvents
  modify fun a => { a with domainEvents := [] }
  return evts

/-- The result of a method that assigns only after its last check. -/
def ofExcept (a : LoyaltyAggregate) :
    Except LoyaltyError LoyaltyAggregate → Except LoyaltyError Unit × LoyaltyAggregate
  | .error err => (.error err, a)
  | .ok after => (.ok (), after)

theorem creditPoints_on (amb : Ambient) (orderID : String) (points : Points)
    (a : LoyaltyAggregate) :
    (creditPoints amb orderID points).on a = ofExcept a (a.creditPoints amb orderID points) := by
  unfold creditPoints LoyaltyAggregate.creditPoints
  cases points.isZero <;> rfl

theorem on_get_bind {α : Type} (f : LoyaltyAggregate → Method α) (a : LoyaltyAggregate) :
    (get >>= f : Method α).on a = (f a).on a := rfl

theorem debitPoints_on (updatedAt : Int64) (points : Points) (a : LoyaltyAggregate) :
    (debitPoints updatedAt points).on a = ofExcept a (a.debitPoints updatedAt points) := by
  rw [debitPoints, LoyaltyAggregate.debitPoints, on_get_bind]
  cases a.account.balance.sub points <;> rfl

theorem flushEvents_on (a : LoyaltyAggregate) :
    flushEvents.on a = (.ok a.flushEvents.1, a.flushEvents.2) := rfl

end Method

/-- A call on an aggregate, with the clock readings it makes. -/
inductive AggregateCall where
  | creditPoints (amb : Ambient) (orderID : String) (points : BuiltPoints)
  | debitPoints (updatedAt : Int64) (points : BuiltPoints)
  | flushEvents

/-- An aggregate, and the slices its `FlushEvents` has returned. -/
structure AggregateHistory where
  agg : LoyaltyAggregate
  flushed : List (List DomainEvent) := []

namespace AggregateHistory

/-- The error a call returns, if any, and the history after it. -/
def call (h : AggregateHistory) : AggregateCall → Except LoyaltyError Unit × AggregateHistory
  | .creditPoints amb orderID points =>
      let (result, agg) := (Method.creditPoints amb orderID points.1).on h.agg
      (result, { h with agg := agg })
  | .debitPoints updatedAt points =>
      let (result, agg) := (Method.debitPoints updatedAt points.1).on h.agg
      (result, { h with agg := agg })
  | .flushEvents =>
      match Method.flushEvents.on h.agg with
      | (.error err, agg) => (.error err, { h with agg := agg })
      | (.ok evts, agg) => (.ok (), ⟨agg, h.flushed ++ [evts]⟩)

def step (h : AggregateHistory) (c : AggregateCall) : AggregateHistory := (h.call c).2

/-- The balance as an integer. -/
def balance (h : AggregateHistory) : Int := h.agg.account.balance.value.toInt

/-- All events of the aggregate: those returned and those pending. -/
def events (h : AggregateHistory) : List DomainEvent := h.flushed.flatten ++ h.agg.domainEvents

/-- The history after a successful `CreditPoints`. -/
def credited (h : AggregateHistory) (amb : Ambient) (orderID : String) (points : Points) :
    AggregateHistory :=
  let account := LoyaltyAggregate.creditedAccount amb h.agg.account points
  { h with
    agg :=
      { account := account
        domainEvents := h.agg.domainEvents ++
          [.loyaltyCredited (LoyaltyAggregate.creditedEvent amb account orderID points)] } }

/-- The history after a successful `DebitPoints`. -/
def debited (h : AggregateHistory) (updatedAt : Int64) (points : Points) : AggregateHistory :=
  let balance : Points := ⟨h.agg.account.balance.value - points.value⟩
  { h with
    agg :=
      { h.agg with
        account :=
          { h.agg.account with
            balance := balance, tier := calculateTier balance, updatedAt := updatedAt } } }

variable {h : AggregateHistory} {amb : Ambient} {orderID : String} {updatedAt : Int64}
  {points : BuiltPoints}

theorem call_creditPoints_of_zero (zero : points.1.value.toInt = 0) :
    h.call (.creditPoints amb orderID points) = (.error .zeroPoints, h) := by
  have isZero := Points.isZero_iff.mpr zero
  simp only [call, Method.creditPoints_on, LoyaltyAggregate.creditPoints, if_pos isZero]
  rfl

theorem call_creditPoints_of_ne (nonzero : points.1.value.toInt ≠ 0) :
    h.call (.creditPoints amb orderID points) = (.ok (), h.credited amb orderID points.1) := by
  have notZero := mt Points.isZero_iff.mp nonzero
  simp only [call, Method.creditPoints_on, LoyaltyAggregate.creditPoints, if_neg notZero]
  rfl

theorem call_debitPoints_of_lt (short : h.balance < points.1.value.toInt) :
    h.call (.debitPoints updatedAt points) = (.error .insufficientPoints, h) := by
  have less : h.agg.account.balance.value < points.1.value := Int64.lt_iff_toInt_lt.mpr short
  simp only [call, Method.debitPoints_on, LoyaltyAggregate.debitPoints, Points.sub, if_pos less]
  rfl

theorem call_debitPoints_of_le (covered : points.1.value.toInt ≤ h.balance) :
    h.call (.debitPoints updatedAt points) = (.ok (), h.debited updatedAt points.1) := by
  have notLess : ¬ h.agg.account.balance.value < points.1.value := fun less =>
    Int.not_lt.mpr covered (Int64.lt_iff_toInt_lt.mp less)
  simp only [call, Method.debitPoints_on, LoyaltyAggregate.debitPoints, Points.sub,
    if_neg notLess]
  rfl

/-- The exits of a call. Every fact about one call is proved through this rule. -/
theorem call_rec {motive : AggregateCall → Except LoyaltyError Unit × AggregateHistory → Prop}
    (h : AggregateHistory)
    (zero : ∀ amb orderID points, points.1.value.toInt = 0 →
      motive (.creditPoints amb orderID points) (.error .zeroPoints, h))
    (credit : ∀ amb orderID points, 0 < points.1.value.toInt →
      motive (.creditPoints amb orderID points) (.ok (), h.credited amb orderID points.1))
    (short : ∀ updatedAt points, h.balance < points.1.value.toInt →
      motive (.debitPoints updatedAt points) (.error .insufficientPoints, h))
    (debit : ∀ updatedAt points, points.1.value.toInt ≤ h.balance →
      motive (.debitPoints updatedAt points) (.ok (), h.debited updatedAt points.1))
    (flush : motive .flushEvents
      (.ok (), ⟨{ h.agg with domainEvents := [] }, h.flushed ++ [h.agg.domainEvents]⟩))
    (c : AggregateCall) : motive c (h.call c) := by
  cases c with
  | creditPoints amb orderID points =>
      by_cases isZero : points.1.value.toInt = 0
      · rw [call_creditPoints_of_zero isZero]
        exact zero amb orderID points isZero
      · have nonneg := points.nonneg
        rw [call_creditPoints_of_ne isZero]
        exact credit amb orderID points (by omega)
  | debitPoints updatedAt points =>
      by_cases isShort : h.balance < points.1.value.toInt
      · rw [call_debitPoints_of_lt isShort]
        exact short updatedAt points isShort
      · rw [call_debitPoints_of_le (by omega)]
        exact debit updatedAt points (by omega)
  | flushEvents =>
      rw [call, Method.flushEvents_on]
      exact flush

/-- The balance after a credit that stays in the range. -/
theorem balance_credited (amb : Ambient) (orderID : String)
    (fits : h.balance + points.1.value.toInt < 2 ^ 63) :
    (h.credited amb orderID points.1).balance = h.balance + points.1.value.toInt :=
  toInt_add_of_lt points.nonneg fits

/-- A credit past the range makes the balance negative. -/
theorem balance_credited_neg (amb : Ambient) (orderID : String)
    (beyond : 2 ^ 63 ≤ h.balance + points.1.value.toInt) :
    (h.credited amb orderID points.1).balance < 0 := by
  show (h.agg.account.balance.value + points.1.value).toInt < 0
  unfold balance at beyond
  have upper := h.agg.account.balance.value.toInt_lt
  have upper' := points.1.value.toInt_lt
  rw [Int64.toInt_add, Int.bmod_def]
  omega

theorem balance_debited (solvent : 0 ≤ h.balance) (covered : points.1.value.toInt ≤ h.balance) :
    (h.debited updatedAt points.1).balance = h.balance - points.1.value.toInt := by
  show (h.agg.account.balance.value - points.1.value).toInt = _
  have nonneg := points.nonneg
  have upper := h.agg.account.balance.value.toInt_lt
  rw [Int64.toInt_sub]
  unfold balance at *
  apply Int.bmod_eq_of_le <;> omega

/-! ## The events are the ledger of the aggregate -/

/-- A `CreditPoints` call that returned nil, and the account right after it. -/
structure Credit where
  orderID : String
  points : Points
  occurredAt : Time
  account : LoyaltyAccount

/-- The event that records a credit. -/
def Credit.event (c : Credit) : DomainEvent :=
  .loyaltyCredited
    { loyaltyAccountID := c.account.id
      customerID := c.account.customerID
      orderID := c.orderID
      pointsEarned := c.points.value
      newBalance := c.account.balance.value
      newTier := c.account.tier.name
      occurredAt := c.occurredAt }

/-- The credit that a call with this result made. -/
def creditOf : AggregateCall → Except LoyaltyError Unit × AggregateHistory → Option Credit
  | .creditPoints amb orderID points, (.ok (), after) =>
      some ⟨orderID, points.1, amb.occurredAt, after.agg.account⟩
  | _, _ => none

/-- The points that a call with this result took away. -/
def debitOf : AggregateCall → Except LoyaltyError Unit × AggregateHistory → Option Points
  | .debitPoints _ points, (.ok (), _) => some points.1
  | _, _ => none

/-- The credits of a run, in call order. -/
def credits (start : AggregateHistory) (calls : List AggregateCall) : List Credit :=
  (transitions step start calls).filterMap fun taken => creditOf taken.2 (taken.1.call taken.2)

def debits (start : AggregateHistory) (calls : List AggregateCall) : List Points :=
  (transitions step start calls).filterMap fun taken => debitOf taken.2 (taken.1.call taken.2)

/-- The sum of a credit, if it is one, stays in the range. -/
def CreditFits (h : AggregateHistory) : AggregateCall → Prop
  | .creditPoints _ _ points => h.balance + points.1.value.toInt < 2 ^ 63
  | .debitPoints _ _ => True
  | .flushEvents => True

instance (h : AggregateHistory) : ∀ c, Decidable (h.CreditFits c)
  | .creditPoints _ _ _ => inferInstanceAs (Decidable (_ < _))
  | .debitPoints _ _ => .isTrue trivial
  | .flushEvents => .isTrue trivial

def Solvent (h : AggregateHistory) : Prop := 0 ≤ h.balance

theorem events_step (h : AggregateHistory) (c : AggregateCall) :
    (h.step c).events = h.events ++ ((creditOf c (h.call c)).map Credit.event).toList := by
  refine call_rec (motive := fun c r =>
    r.2.events = h.events ++ ((creditOf c r).map Credit.event).toList) h ?_ ?_ ?_ ?_ ?_ c
  · intro amb orderID points _
    simp [creditOf]
  · intro amb orderID points _
    simp [creditOf, events, credited, Credit.event, LoyaltyAggregate.creditedEvent]
  · intro updatedAt points _
    simp [creditOf]
  · intro updatedAt points _
    simp [creditOf, events, debited]
  · simp [creditOf, events]

theorem events_runFrom (start : AggregateHistory) (calls : List AggregateCall) :
    (runFrom step start calls).events = start.events ++ (credits start calls).map Credit.event := by
  induction calls generalizing start with
  | nil => simp [credits]
  | cons c calls ih =>
      rw [runFrom_cons, ih, events_step]
      cases made : creditOf c (start.call c) <;> simp [credits, made]

/-- What a call does to the balance, as long as the range is kept. -/
theorem balance_step (solvent : h.Solvent) {c : AggregateCall} (fits : h.CreditFits c) :
    (h.step c).balance =
      h.balance + ((creditOf c (h.call c)).map (·.points.value.toInt)).getD 0 -
        ((debitOf c (h.call c)).map (·.value.toInt)).getD 0 := by
  revert fits
  refine call_rec (motive := fun c r => h.CreditFits c → r.2.balance =
    h.balance + ((creditOf c r).map (·.points.value.toInt)).getD 0 -
      ((debitOf c r).map (·.value.toInt)).getD 0) h ?_ ?_ ?_ ?_ ?_ c
  · intro amb orderID points _ _
    simp [creditOf, debitOf]
  · intro amb orderID points _ fits
    simp [creditOf, debitOf, balance_credited amb orderID fits]
  · intro updatedAt points _ _
    simp [creditOf, debitOf]
  · intro updatedAt points covered _
    simp [creditOf, debitOf, balance_debited solvent covered]
  · intro _
    simp [creditOf, debitOf, balance]

theorem solvent_step (solvent : h.Solvent) (c : AggregateCall) (fits : h.CreditFits c) :
    (h.step c).Solvent := by
  revert fits
  refine call_rec (motive := fun c r => h.CreditFits c → r.2.Solvent) h ?_ ?_ ?_ ?_ ?_ c
  · exact fun _ _ _ _ _ => solvent
  · intro amb orderID points positive fits
    have before : 0 ≤ h.balance := solvent
    rw [Solvent, balance_credited amb orderID fits]
    omega
  · exact fun _ _ _ _ => solvent
  · intro updatedAt points covered _
    rw [Solvent, balance_debited solvent covered]
    omega
  · exact fun _ => solvent

theorem balance_runFrom {start : AggregateHistory} (solvent : start.Solvent)
    {calls : List AggregateCall} (fits : Admitted step CreditFits start calls) :
    (runFrom step start calls).balance =
      start.balance + ((credits start calls).map (·.points.value.toInt)).sum -
        ((debits start calls).map (·.value.toInt)).sum := by
  induction calls generalizing start with
  | nil => simp [credits, debits]
  | cons c calls ih =>
      have here := balance_step solvent fits.1
      rw [runFrom_cons, ih (solvent_step solvent c fits.1) fits.2, here]
      cases credit : creditOf c (start.call c) <;> cases debit : debitOf c (start.call c) <;>
        simp [credits, debits, credit, debit] <;> omega

/-- A successful credit or debit leaves the tier of its balance. -/
theorem tier_step {c : AggregateCall} (points : c ≠ .flushEvents) (ok : (h.call c).1 = .ok ()) :
    (h.step c).agg.account.tier = calculateTier (h.step c).agg.account.balance := by
  revert points ok
  refine call_rec (motive := fun c r => c ≠ .flushEvents → r.1 = .ok () →
    r.2.agg.account.tier = calculateTier r.2.agg.account.balance) h ?_ ?_ ?_ ?_ ?_ c
  · exact fun _ _ _ _ _ failed => nomatch failed
  · exact fun _ _ _ _ _ _ => rfl
  · exact fun _ _ _ _ failed => nomatch failed
  · exact fun _ _ _ _ _ => rfl
  · exact fun notFlush => absurd rfl notFlush

theorem step_of_error {c : AggregateCall} {err : LoyaltyError}
    (failed : (h.call c).1 = .error err) : h.step c = h := by
  revert failed
  refine call_rec (motive := fun _ r => r.1 = .error err → r.2 = h) h ?_ ?_ ?_ ?_ ?_ c
  · exact fun _ _ _ _ _ => rfl
  · exact fun _ _ _ _ ok => nomatch ok
  · exact fun _ _ _ _ => rfl
  · exact fun _ _ _ ok => nomatch ok
  · exact fun ok => nomatch ok

theorem creditPoints_fails_iff :
    (h.call (.creditPoints amb orderID points)).1 ≠ .ok () ↔ points.1.value.toInt = 0 := by
  by_cases zero : points.1.value.toInt = 0
  · simp [call_creditPoints_of_zero zero, zero]
  · simp [call_creditPoints_of_ne zero, zero]

theorem debitPoints_fails_iff :
    (h.call (.debitPoints updatedAt points)).1 ≠ .ok () ↔ h.balance < points.1.value.toInt := by
  by_cases short : h.balance < points.1.value.toInt
  · simp [call_debitPoints_of_lt short, short]
  · have covered := Int.not_lt.mp short
    simp [call_debitPoints_of_le covered, covered]

end AggregateHistory

open AggregateHistory

/-- How an aggregate comes into being. -/
inductive Made : LoyaltyAggregate → Prop
  | new (amb : Ambient) (customerID : String) : Made (newLoyaltyAggregate amb customerID)
  | reconstitute (account : LoyaltyAccount) (nonneg : 0 ≤ account.balance.value) :
      Made (reconstitute account)

theorem Made.noEvents {agg : LoyaltyAggregate} (made : Made agg) : agg.domainEvents = [] := by
  cases made <;> rfl

theorem Made.solvent {agg : LoyaltyAggregate} (made : Made agg) :
    AggregateHistory.Solvent { agg := agg } := by
  cases made with
  | new amb customerID => exact Int.le_refl 0
  | reconstitute account nonneg => exact Int64.le_iff_toInt_le.mp nonneg

/-- The events of an aggregate are its ledger, for every sequence of calls whose credits
stay in the range of `int`. The events returned and those pending are one for each
successful credit, in call order, with the balance and the tier right after it. The balance
is what was credited minus what was debited, and never negative; a successful credit or
debit leaves the tier of the balance. A call that fails changes nothing, and calls fail
exactly for zero points or for more points than the balance has. -/
theorem aggregate_events_are_ledger {agg : LoyaltyAggregate} (made : Made agg)
    (calls : List AggregateCall) (fits : Admitted step CreditFits { agg := agg } calls) :
    let start : AggregateHistory := { agg := agg }
    let after := runFrom step start calls
    after.flushed.flatten ++ after.agg.domainEvents = (credits start calls).map Credit.event ∧
    after.balance = start.balance + ((credits start calls).map (·.points.value.toInt)).sum -
      ((debits start calls).map (·.value.toInt)).sum ∧
    0 ≤ after.balance ∧
    ∀ taken ∈ transitions step start calls,
      (taken.2 ≠ .flushEvents → (taken.1.call taken.2).1 = .ok () →
        (taken.1.step taken.2).agg.account.tier =
          calculateTier (taken.1.step taken.2).agg.account.balance) ∧
      (∀ err, (taken.1.call taken.2).1 = .error err → taken.1.step taken.2 = taken.1) ∧
      (∀ amb orderID points, taken.2 = .creditPoints amb orderID points →
        ((taken.1.call taken.2).1 ≠ .ok () ↔ points.1.value.toInt = 0)) ∧
      ∀ updatedAt points, taken.2 = .debitPoints updatedAt points →
        ((taken.1.call taken.2).1 ≠ .ok () ↔ taken.1.balance < points.1.value.toInt) := by
  intro start after
  have kept : ∀ h c, Solvent h → CreditFits h c → Solvent (h.step c) :=
    fun _ c solvent => solvent_step solvent c
  refine ⟨?_, balance_runFrom made.solvent fits, fits.invariant kept made.solvent, ?_⟩
  · have all := events_runFrom start calls
    have none : start.events = [] := made.noEvents
    rw [none, List.nil_append] at all
    exact all
  · rintro ⟨h, c⟩ -
    refine ⟨tier_step, fun err => step_of_error, ?_, ?_⟩
    · rintro amb orderID points rfl
      exact creditPoints_fails_iff
    · rintro updatedAt points rfl
      exact debitPoints_fails_iff

def onePoint : BuiltPoints := ⟨⟨1⟩, by decide⟩

/-- Calls at the epoch. -/
def sampleReadings : Ambient := ⟨"01ACCOUNT", 0, 0, 0, ⟨0⟩, fun _ => "01EVENT"⟩

/-- A point is earned, its event is flushed, and the point is spent again. -/
def sampleCalls : List AggregateCall :=
  [.creditPoints sampleReadings "order-1" onePoint, .flushEvents, .debitPoints 0 onePoint]

theorem aggregate_events_are_ledger_one_point :
    let start : AggregateHistory := { agg := newLoyaltyAggregate sampleReadings "customer-1" }
    let after := runFrom step start sampleCalls
    after.flushed.flatten ++ after.agg.domainEvents =
        (credits start sampleCalls).map Credit.event ∧
      (credits start sampleCalls).length = 1 :=
  ⟨(aggregate_events_are_ledger (.new sampleReadings "customer-1") sampleCalls
    (by decide)).1, rfl⟩

/-! ## Credits past the range -/

/-- A call that leaves a non-negative balance and, if it is a successful credit, raises the
balance and does not lower the tier. -/
def KeepsPoints (h : AggregateHistory) (c : AggregateCall) : Prop :=
  0 ≤ (h.step c).balance ∧
    ∀ amb orderID points, c = .creditPoints amb orderID points → (h.call c).1 = .ok () →
      h.balance < (h.step c).balance ∧
        ¬ (h.step c).agg.account.tier.Below h.agg.account.tier

/-- The sum of a credit is in the range of `int` and reaches the threshold of the tier that
the account has. -/
def CreditSafe (h : AggregateHistory) : AggregateCall → Prop
  | .creditPoints _ _ points => points.1.value.toInt ≠ 0 →
      h.balance + points.1.value.toInt < 2 ^ 63 ∧
        (tierThresholds h.agg.account.tier).toInt ≤ h.balance + points.1.value.toInt
  | .debitPoints _ _ => True
  | .flushEvents => True

/-- A credit within the range lowers the tier exactly if its sum is below the threshold of
the tier before. -/
theorem credited_below_iff {h : AggregateHistory} {amb : Ambient} {orderID : String}
    {points : BuiltPoints} (solvent : h.Solvent)
    (fits : h.balance + points.1.value.toInt < 2 ^ 63) (tier : Tier) :
    (h.credited amb orderID points.1).agg.account.tier.Below tier ↔
      h.balance + points.1.value.toInt < (tierThresholds tier).toInt := by
  have before : 0 ≤ h.balance := solvent
  have nonneg := points.nonneg
  have sum := balance_credited amb orderID fits
  have after : 0 ≤ (h.credited amb orderID points.1).balance := by omega
  rw [← sum]
  exact calculateTier_below_iff _ after tier

theorem keepsPoints_iff {h : AggregateHistory} (solvent : h.Solvent) (c : AggregateCall) :
    KeepsPoints h c ↔ CreditSafe h c := by
  refine call_rec (motive := fun c r =>
    (0 ≤ r.2.balance ∧ ∀ amb orderID points, c = .creditPoints amb orderID points →
      r.1 = .ok () → h.balance < r.2.balance ∧
        ¬ r.2.agg.account.tier.Below h.agg.account.tier) ↔ CreditSafe h c) h ?_ ?_ ?_ ?_ ?_ c
  · intro amb orderID points zero
    exact iff_of_true ⟨solvent, fun _ _ _ _ failed => nomatch failed⟩
      fun nonzero => absurd zero nonzero
  · intro amb orderID points positive
    constructor
    · rintro ⟨nonneg, credit⟩ -
      have fits : h.balance + points.1.value.toInt < 2 ^ 63 := by
        by_contra beyond
        have negative := balance_credited_neg amb orderID (Int.not_lt.mp beyond)
        exact Int.not_lt.mpr nonneg negative
      obtain ⟨-, notBelow⟩ := credit amb orderID points rfl rfl
      rw [credited_below_iff solvent fits] at notBelow
      exact ⟨fits, Int.not_lt.mp notBelow⟩
    · intro safe
      obtain ⟨fits, reached⟩ := safe (by omega)
      have before : 0 ≤ h.balance := solvent
      have sum := balance_credited amb orderID fits
      refine ⟨by dsimp only; omega, fun _ _ _ _ _ => ⟨by dsimp only; omega, ?_⟩⟩
      rw [credited_below_iff solvent fits]
      omega
  · intro updatedAt points _
    exact iff_of_true ⟨solvent, fun _ _ _ credit => nomatch credit⟩ trivial
  · intro updatedAt points covered
    refine iff_of_true ⟨?_, fun _ _ _ credit => nomatch credit⟩ trivial
    show 0 ≤ (h.debited updatedAt points.1).balance
    rw [balance_debited solvent covered]
    omega
  · exact iff_of_true ⟨solvent, fun _ _ _ credit => nomatch credit⟩ trivial

/-- For an aggregate whose balance `NewPoints` accepted, and in every sequence of calls: the
balance stays non-negative, and each successful credit raises it and does not lower the
tier, exactly if no credit goes past the range of `int` or stays below the threshold of the
tier the account has. -/
theorem credits_never_lower_iff (agg : LoyaltyAggregate)
    (built : newPoints agg.account.balance.value = .ok agg.account.balance)
    (calls : List AggregateCall) :
    (∀ taken ∈ transitions step { agg := agg } calls, KeepsPoints taken.1 taken.2) ↔
      Admitted step CreditSafe { agg := agg } calls := by
  have solvent : AggregateHistory.Solvent { agg := agg } := newPoints_eq_ok_iff.mp built
  rw [← admitted_iff_forall_transitions]
  have kept : ∀ h c, Solvent h → KeepsPoints h c → Solvent (h.step c) :=
    fun _ _ _ keeps => keeps.1
  exact admitted_congr kept (fun _ c solvent => keepsPoints_iff solvent c) solvent calls

theorem credits_never_lower_iff_one_point :
    let agg := newLoyaltyAggregate sampleReadings "customer-1"
    newPoints agg.account.balance.value = .ok agg.account.balance ∧
      ∀ taken ∈ transitions step { agg := agg } sampleCalls, KeepsPoints taken.1 taken.2 :=
  ⟨by decide, (credits_never_lower_iff (newLoyaltyAggregate sampleReadings "customer-1")
    (by decide) sampleCalls).mpr ⟨fun _ => ⟨by decide, by decide⟩, trivial, trivial, trivial⟩⟩

/-- The largest value that `NewPoints` accepts. -/
def maxPoints : BuiltPoints := ⟨⟨Int64.maxValue⟩, by decide⟩

/-- Two credits that `NewPoints` accepts: the second makes the balance negative and takes
the account from gold to bronze. -/
theorem second_credit_lowers_account :
    let start : AggregateHistory := { agg := newLoyaltyAggregate sampleReadings "customer-1" }
    let rich := start.step (.creditPoints sampleReadings "order-1" maxPoints)
    let after := rich.call (.creditPoints sampleReadings "order-2" onePoint)
    after.1 = .ok () ∧ rich.balance = 2 ^ 63 - 1 ∧ after.2.balance = -2 ^ 63 ∧
      rich.agg.account.tier = tierGold ∧ after.2.agg.account.tier = tierBronze := by
  decide

end GoOdin.Loyalty
