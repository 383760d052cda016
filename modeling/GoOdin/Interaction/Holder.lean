import Mathlib.Logic.Function.Basic

/-!
# One active execution among those that share a resource

A protocol over local states is exclusive for a resource when at most one of the
executions that use it is active. The two predicates here say that nobody is active,
and that nobody but one named execution is; the lemmas say how they change when one
execution moves.
-/

namespace Interaction

variable {ι L : Type} {uses : ι → Prop} {active : L → Bool} {loc : ι → L} {i : ι} {l' : L}

/-- No execution that uses the resource is active. -/
def Idle (uses : ι → Prop) (active : L → Bool) (loc : ι → L) : Prop :=
  ∀ j, uses j → active (loc j) = false

/-- No execution that uses the resource is active, execution `i` possibly excepted. -/
def IdleBut (uses : ι → Prop) (active : L → Bool) (i : ι) (loc : ι → L) : Prop :=
  ∀ j, j ≠ i → uses j → active (loc j) = false

theorem Idle.but (idle : Idle uses active loc) (i : ι) : IdleBut uses active i loc :=
  fun j _ => idle j

/-- An active execution that uses the resource is the excepted one. -/
theorem IdleBut.eq_of_active {h : ι} (idle : IdleBut uses active h loc) (used : uses i)
    (busy : active (loc i) = true) : i = h := by
  by_contra other
  rw [idle i other used] at busy
  cases busy

variable [DecidableEq ι]

/-- The excepted execution may move to any local state. -/
theorem IdleBut.update (idle : IdleBut uses active i loc) (l' : L) :
    IdleBut uses active i (Function.update loc i l') := by
  intro j other used
  rw [Function.update_of_ne other]
  exact idle j other used

/-- Once the excepted execution is inactive, nobody is active. -/
theorem IdleBut.update_inactive (idle : IdleBut uses active i loc) (inactive : active l' = false) :
    Idle uses active (Function.update loc i l') := by
  intro j used
  by_cases same : j = i
  · subst same
    rw [Function.update_self]
    exact inactive
  · rw [Function.update_of_ne same]
    exact idle j same used

/-- A move to an inactive local state keeps the exception where it is. -/
theorem IdleBut.update_of_inactive {h : ι} (idle : IdleBut uses active h loc)
    (inactive : active l' = false) : IdleBut uses active h (Function.update loc i l') := by
  intro j other used
  by_cases same : j = i
  · subst same
    rw [Function.update_self]
    exact inactive
  · rw [Function.update_of_ne same]
    exact idle j other used

/-- A move of an execution that does not use the resource changes neither. -/
theorem Idle.update_of_not_uses (idle : Idle uses active loc) (foreign : ¬ uses i) :
    Idle uses active (Function.update loc i l') := by
  intro j used
  have elsewhere : j ≠ i := by
    rintro rfl
    exact foreign used
  rw [Function.update_of_ne elsewhere]
  exact idle j used

theorem IdleBut.update_of_not_uses {h : ι} (idle : IdleBut uses active h loc)
    (foreign : ¬ uses i) : IdleBut uses active h (Function.update loc i l') := by
  intro j other used
  have elsewhere : j ≠ i := by
    rintro rfl
    exact foreign used
  rw [Function.update_of_ne elsewhere]
  exact idle j other used

end Interaction
