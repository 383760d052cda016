import Mathlib.Data.List.Basic

/-!
# Names that end in a number

A dot and a decimal number after a stem. The stem may hold dots and digits of its own; the
number holds no dot, so the last dot of the name tells the two apart.
-/

namespace Numbered

/-- A stem with a number. -/
def numbered (stem : String) (n : Nat) : String := stem ++ "." ++ toString n

/-- A list is cut at its last separator in one way only. -/
theorem append_cons_inj_of_last {α : Type*} {a : α} {xs ys ds es : List α} (first : a ∉ ds)
    (second : a ∉ es) (same : xs ++ a :: ds = ys ++ a :: es) : xs = ys ∧ ds = es := by
  obtain ⟨middle, rfl, tail⟩ | ⟨middle, rfl, tail⟩ := List.append_eq_append_iff.mp same
  · cases middle with
    | nil => exact ⟨(List.append_nil xs).symm, (List.cons.inj tail).2⟩
    | cons b middle =>
        have inside : ds = middle ++ a :: es := (List.cons.inj tail).2
        exact absurd (inside ▸ List.mem_append_right _ List.mem_cons_self) first
  · cases middle with
    | nil => exact ⟨List.append_nil ys, (List.cons.inj tail).2.symm⟩
    | cons b middle =>
        have inside : es = middle ++ a :: ds := (List.cons.inj tail).2
        exact absurd (inside ▸ List.mem_append_right _ List.mem_cons_self) second

theorem dot_notMem_toDigits (n : Nat) : '.' ∉ Nat.toDigits 10 n := by
  intro mem
  have digit := Nat.isDigit_of_mem_toDigits (by omega) (by omega) mem
  exact absurd digit (by decide)

theorem toList_numbered (stem : String) (n : Nat) :
    (numbered stem n).toList = stem.toList ++ '.' :: Nat.toDigits 10 n := by
  simp [numbered]

/-- The name determines the stem and the number. -/
theorem numbered_inj {stem other : String} {n m : Nat} :
    numbered stem n = numbered other m ↔ stem = other ∧ n = m := by
  constructor
  · intro same
    have chars := congrArg String.toList same
    rw [toList_numbered, toList_numbered] at chars
    obtain ⟨stems, digits⟩ :=
      append_cons_inj_of_last (dot_notMem_toDigits n) (dot_notMem_toDigits m) chars
    refine ⟨String.toList_inj.mp stems, ?_⟩
    calc
      n = Nat.ofDigitChars 10 (Nat.toDigits 10 n) 0 := Nat.ofDigitChars_ten_toDigits.symm
      _ = Nat.ofDigitChars 10 (Nat.toDigits 10 m) 0 := by rw [digits]
      _ = m := Nat.ofDigitChars_ten_toDigits
  · rintro ⟨rfl, rfl⟩
    rfl

end Numbered
