import Mathlib.Data.List.Basic

/-!
# Validation of records by rules

A package for validation as its users see it: rules for single values, and functions that put
verdicts together. A verdict is an error or none. How the errors are made is up to the package;
`Package.Laws` says what is accepted. A field passes exactly if it passes each of its rules, the
last of which may be the verdict on a nested record, and a record exactly if each of its fields
does.

Whether a value counts as blank depends on its type alone. It is no choice of the package: that
`required` refuses just these values is one of its laws.
-/

namespace Validation

/-- Types with a blank value, or none. -/
class Blank (α : Type) where
  isBlank : α → Bool

instance : Blank String := ⟨fun s => s = ""⟩

instance : Blank Int := ⟨fun n => n = 0⟩

instance {α : Type} : Blank (List α) := ⟨List.isEmpty⟩

@[simp] theorem isBlank_string (s : String) : Blank.isBlank s = decide (s = "") := rfl

@[simp] theorem isBlank_int (n : Int) : Blank.isBlank n = decide (n = 0) := rfl

@[simp] theorem isBlank_list {α : Type} (l : List α) : Blank.isBlank l = l.isEmpty := rfl

structure Package (V : Type) where
  required {α : Type} [Blank α] : α → Option V
  oneOf : List String → String → Option V
  /-- The verdicts on the elements of a list. -/
  each : List (Option V) → Option V
  /-- The verdicts of the rules of the fields, under the names of the fields. -/
  validateStruct : List (String × List (Option V)) → Option V

variable {V : Type}

structure Package.Laws (v : Package V) : Prop where
  required_eq_none : ∀ {α : Type} [Blank α] (value : α),
    v.required value = none ↔ Blank.isBlank value = false
  /-- A blank value passes: it is for `required` to refuse it. -/
  oneOf_eq_none : ∀ elements value, v.oneOf elements value = none ↔ value = "" ∨ value ∈ elements
  each_eq_none : ∀ verdicts, v.each verdicts = none ↔ ∀ verdict ∈ verdicts, verdict = none
  validateStruct_eq_none : ∀ fields, v.validateStruct fields = none ↔
    ∀ field ∈ fields, ∀ verdict ∈ field.2, verdict = none

/-- The package that only says whether a value passes. -/
def verdictsOnly : Package Unit where
  required value := if Blank.isBlank value then some () else none
  oneOf elements value := if value = "" ∨ value ∈ elements then none else some ()
  each verdicts := if verdicts.all (·.isNone) then none else some ()
  validateStruct fields := if fields.all (·.2.all (·.isNone)) then none else some ()

theorem verdictsOnly_laws : verdictsOnly.Laws where
  required_eq_none value := by simp [verdictsOnly]
  oneOf_eq_none elements value := by simp [verdictsOnly, or_iff_not_imp_left]
  each_eq_none verdicts := by simp [verdictsOnly]
  validateStruct_eq_none fields := by simp [verdictsOnly]

end Validation
