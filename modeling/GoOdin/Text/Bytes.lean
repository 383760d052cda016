import Mathlib.Data.List.Basic

/-!
# Strings as bytes

A string of the program is a list of bytes, not all of which need to be valid text. This is
what its length and its slices count.
-/

namespace Text

abbrev Bytes := List UInt8

/-- The bytes of a literal. -/
def bytes (text : String) : Bytes := text.toUTF8.data.toList

/-! ## Slices -/

/-- The slice `s[low:high]`; indices out of range stop the program. -/
def slice? (s : Bytes) (low high : Int) : Option Bytes :=
  if 0 ≤ low ∧ low ≤ high ∧ high ≤ s.length then some ((s.take high.toNat).drop low.toNat)
  else none

/-- A string that starts with an opening and ends in a closing byte has a name between them,
unless the opening ends in that byte itself. -/
theorem between_iff {opening s : Bytes} {closing : UInt8}
    (ends : opening.getLast? ≠ some closing) :
    opening <+: s ∧ [closing] <:+ s ↔ ∃ name, s = opening ++ name ++ [closing] := by
  constructor
  · rintro ⟨⟨rest, rfl⟩, ⟨front, whole⟩⟩
    have last : (opening ++ rest).getLast? = some closing := by rw [← whole, List.getLast?_concat]
    obtain rfl | ⟨name, b, rfl⟩ := List.eq_nil_or_concat rest
    · rw [List.append_nil] at last
      exact absurd last ends
    · rw [List.concat_eq_append, ← List.append_assoc, List.getLast?_concat] at last
      obtain rfl := Option.some.inj last
      exact ⟨name, by rw [List.concat_eq_append, List.append_assoc]⟩
  · rintro ⟨name, rfl⟩
    exact ⟨⟨name ++ [closing], (List.append_assoc ..).symm⟩, ⟨_, rfl⟩⟩

/-- The slice from the end of the opening to the closing byte is the name. -/
theorem slice?_between (opening name : Bytes) (closing : UInt8) :
    slice? (opening ++ name ++ [closing]) opening.length
      ((opening ++ name ++ [closing]).length - 1) = some name := by
  have high : (((opening ++ name ++ [closing]).length : Int) - 1) =
      ((opening ++ name).length : Nat) := by
    rw [List.length_append, List.length_singleton]
    omega
  have inRange : (0 : Int) ≤ opening.length ∧ (opening.length : Int) ≤ (opening ++ name).length ∧
      ((opening ++ name).length : Int) ≤ (opening ++ name ++ [closing]).length := by
    rw [List.length_append, List.length_append, List.length_append]
    omega
  rw [slice?, high, if_pos inRange, Int.toNat_natCast, Int.toNat_natCast, List.take_left,
    List.drop_left]

/-! ## Hexadecimal digits -/

/-- The value of a lower-case hexadecimal digit. -/
def hexDigit (b : UInt8) : Option Nat :=
  if 48 ≤ b ∧ b ≤ 57 then some (b.toNat - 48)
  else if 97 ≤ b ∧ b ≤ 102 then some (b.toNat - 87)
  else none

/-- Only lower-case hexadecimal digits. -/
def IsHex (s : Bytes) : Prop := ∀ b ∈ s, (hexDigit b).isSome

instance (s : Bytes) : Decidable (IsHex s) := List.decidableBAll _ s

/-- The number that the digits denote, the highest one first. -/
def hexValue (s : Bytes) : Nat := s.foldl (fun n b => 16 * n + (hexDigit b).getD 0) 0

/-- What is not a digit is not among the digits. -/
theorem IsHex.not_mem {s : Bytes} (hex : IsHex s) {b : UInt8} (other : hexDigit b = none) :
    b ∉ s := by
  intro mem
  have digit := hex b mem
  rw [other] at digit
  cases digit

end Text
