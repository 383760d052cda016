import Mathlib.Algebra.Ring.Nat
import Mathlib.Data.Int.Basic

/-!
# Reading decimal numbers

`strconv.Atoi`: its value is zero for a text that is no number, and the nearest bound for a
number out of range. The digits are read from the left, and the first overflow of 64 bits ends
the reading, whatever follows.
-/

namespace Decimal

/-- Read digits onto a value. None is a syntax error. -/
def parseUint (n : Nat) : List Char → Option Nat
  | [] => some n
  | c :: rest =>
      if c.isDigit then
        let n := 10 * n + (c.toNat - '0'.toNat)
        if 2 ^ 64 ≤ n then some (2 ^ 64 - 1) else parseUint n rest
      else none

/-- Whether the number is negative, and its digits. -/
def splitSign : List Char → Bool × List Char
  | '-' :: digits => (true, digits)
  | '+' :: digits => (false, digits)
  | digits => (false, digits)

/-- The number with this sign, or the nearest bound. -/
def clamp (negative : Bool) (n : Nat) : Int64 :=
  if negative then if 2 ^ 63 < n then Int64.minValue else Int64.ofInt (-n)
  else if 2 ^ 63 ≤ n then Int64.maxValue else Int64.ofNat n

/-- Whether the number with this sign is in the range. -/
def inRange (negative : Bool) (n : Nat) : Bool :=
  if negative then n ≤ 2 ^ 63 else n < 2 ^ 63

/-- What `Atoi` returns: a value, and whether there is no error. -/
def parseInt (text : List Char) : Int64 × Bool :=
  let (negative, digits) := splitSign text
  match digits with
  | [] => (0, false)
  | _ :: _ =>
      (parseUint 0 digits).elim (0, false) fun n => (clamp negative n, inRange negative n)

/-- The value for a caller that does not look at the error. -/
def atoi (s : String) : Int64 := (parseInt s.toList).1

/-- Reading more digits does not make the value smaller. -/
theorem le_ofDigitChars (digits : List Char) (n : Nat) : n ≤ Nat.ofDigitChars 10 digits n := by
  induction digits generalizing n with
  | nil => exact Nat.le_refl n
  | cons c rest ih =>
      have later : 10 * n + (c.toNat - '0'.toNat) ≤ Nat.ofDigitChars 10 (c :: rest) n := ih _
      omega

theorem parseUint_of_digits {digits : List Char} {n : Nat} (all : ∀ c ∈ digits, c.isDigit = true)
    (fits : Nat.ofDigitChars 10 digits n < 2 ^ 64) :
    parseUint n digits = some (Nat.ofDigitChars 10 digits n) := by
  induction digits generalizing n with
  | nil => rfl
  | cons c rest ih =>
      rw [List.forall_mem_cons] at all
      have value : Nat.ofDigitChars 10 (c :: rest) n =
          Nat.ofDigitChars 10 rest (10 * n + (c.toNat - '0'.toNat)) := rfl
      rw [value] at fits ⊢
      have small := le_ofDigitChars rest (10 * n + (c.toNat - '0'.toNat))
      rw [parseUint, if_pos all.1, if_neg (by omega), ih all.2 fits]

theorem splitSign_of_digit {c : Char} (rest : List Char) (digit : c.isDigit = true) :
    splitSign (c :: rest) = (false, c :: rest) := by
  unfold splitSign
  split
  · next same =>
      obtain ⟨rfl, -⟩ := List.cons.inj same
      exact absurd digit (by decide)
  · next same =>
      obtain ⟨rfl, -⟩ := List.cons.inj same
      exact absurd digit (by decide)
  · rfl

/-- A number in the range is read as it was written. -/
theorem atoi_toString {n : Nat} (fits : n < 2 ^ 63) : atoi (toString n) = Int64.ofNat n := by
  have chars : (toString n).toList = Nat.toDigits 10 n := by simp
  have all : ∀ c ∈ Nat.toDigits 10 n, c.isDigit = true :=
    fun c mem => Nat.isDigit_of_mem_toDigits (by omega) (by omega) mem
  have value : Nat.ofDigitChars 10 (Nat.toDigits 10 n) 0 = n := Nat.ofDigitChars_ten_toDigits
  have parsed := parseUint_of_digits (n := 0) all (by omega)
  rw [value] at parsed
  obtain ⟨c, rest, digits⟩ := List.exists_cons_of_ne_nil (Nat.toDigits_ne_nil (n := n) (b := 10))
  rw [digits] at all parsed chars
  rw [atoi, parseInt, chars, splitSign_of_digit rest (all c List.mem_cons_self)]
  show ((parseUint 0 (c :: rest)).elim (0, false) fun n => (clamp false n, inRange false n)).1 = _
  rw [parsed]
  exact if_neg (by omega)

end Decimal
