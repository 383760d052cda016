import GoOdin.Text.JsonInverse

/-!
# From JSON values to fields of a struct

A member of an object goes to the field of its name, or else to one whose name is the same
up to letter case; other members are skipped, and of several for one field the last counts.
`null` leaves strings, numbers and structs as they are and makes a byte slice nil. A value
of another type is an error of the whole.
-/

namespace JsonText

/-! ## Which field a member is for -/

/-- One letter for those that fold to the same; two letters outside of ASCII fold to one in
it, the long s and the sign for kelvin. -/
def foldLetter (c : Char) : Char :=
  if c.toNat = 0x17f then 'S'
  else if c.toNat = 0x212a then 'K'
  else c.toUpper

def foldName (name : String) : List Char := name.toList.map foldLetter

def fieldOf (names : List String) (key : String) : Option String :=
  if key ∈ names then some key else names.find? fun name => foldName name = foldName key

section Struct

variable {σ : Type*}

def decodeMember (names : List String) (set : String → Value → σ → Option σ) (old : σ)
    (member : String × Value) : Option σ :=
  match fieldOf names member.1 with
  | some name => set name member.2 old
  | none => some old

/-- A member with the very name of a field goes there. -/
theorem decodeMember_of_mem {names : List String} {key : String} (mem : key ∈ names)
    (set : String → Value → σ → Option σ) (old : σ) (value : Value) :
    decodeMember names set old (key, value) = set key value old := by
  rw [decodeMember, fieldOf, if_pos mem]

/-- Decode into a struct with these fields. -/
def Value.intoStruct (names : List String) (set : String → Value → σ → Option σ) (old : σ) :
    Value → Option σ
  | .null => some old
  | .object members => members.foldlM (decodeMember names set) old
  | _ => none

theorem intoStruct_object (names : List String) (set : String → Value → σ → Option σ) (old : σ)
    (members : List (String × Value)) :
    (Value.object members).intoStruct names set old =
      members.foldlM (decodeMember names set) old := rfl

/-- What the members of an object keep, each in its field, the decoded struct keeps. -/
theorem foldlM_decodeMember {names : List String} {set : String → Value → σ → Option σ}
    {P : σ → Prop} {members : List (String × Value)}
    (kept : ∀ member ∈ members, ∀ name old new, fieldOf names member.1 = some name →
      set name member.2 old = some new → P old → P new)
    {old new : σ} (decoded : members.foldlM (decodeMember names set) old = some new)
    (start : P old) : P new := by
  induction members generalizing old with
  | nil =>
      cases decoded
      exact start
  | cons member members ih =>
      rw [List.forall_mem_cons] at kept
      rw [List.foldlM_cons, Option.bind_eq_bind, Option.bind_eq_some_iff] at decoded
      obtain ⟨between, here, later⟩ := decoded
      refine ih kept.2 later ?_
      rw [decodeMember] at here
      split at here
      · next name found => exact kept.1 name old between found here start
      · cases here
        exact start

end Struct

/-! ## Values of fields -/

def Value.intoString (old : String) : Value → Option String
  | .null => some old
  | .string text => some text
  | _ => none

def natural (digits : List Char) : Option Nat :=
  if digits.all Char.isDigit then some (Nat.ofDigitChars 10 digits 0) else none

/-- The integer that a literal denotes. One with a fraction or an exponent is refused. -/
def integer : List Char → Option Int
  | '-' :: digits => (natural digits).map fun n => -(n : Int)
  | digits => (natural digits).map fun n => (n : Int)

def Value.intoInt64 (old : Int64) : Value → Option Int64
  | .null => some old
  | .number literal =>
      (integer literal).bind fun n =>
        if -(2 ^ 63) ≤ n ∧ n < 2 ^ 63 then some (Int64.ofInt n) else none
  | _ => none

/-- The six bits of a base64 character. -/
def base64Value (c : Char) : Option Nat :=
  if 'A' ≤ c ∧ c ≤ 'Z' then some (c.toNat - 65)
  else if 'a' ≤ c ∧ c ≤ 'z' then some (c.toNat - 71)
  else if '0' ≤ c ∧ c ≤ '9' then some (c.toNat + 4)
  else if c = '+' then some 62
  else if c = '/' then some 63
  else none

def base64Bytes : List Char → Option (List UInt8)
  | [] => some []
  | [x, y, '=', '='] => do
      return [UInt8.ofNat ((← base64Value x) * 4 + (← base64Value y) / 16)]
  | [x, y, z, '='] => do
      let (x, y, z) := (← base64Value x, ← base64Value y, ← base64Value z)
      return [UInt8.ofNat (x * 4 + y / 16), UInt8.ofNat (y % 16 * 16 + z / 4)]
  | x :: y :: z :: w :: rest => do
      let (x, y, z, w) := (← base64Value x, ← base64Value y, ← base64Value z, ← base64Value w)
      return UInt8.ofNat (x * 4 + y / 16) :: UInt8.ofNat (y % 16 * 16 + z / 4) ::
        UInt8.ofNat (z % 4 * 64 + w) :: (← base64Bytes rest)
  | _ => none

/-- A number of an array for a byte slice; `null` keeps the byte that is there. -/
def Value.intoByte (old : UInt8) : Value → Option UInt8
  | .null => some old
  | .number literal =>
      (integer literal).bind fun n =>
        if 0 ≤ n ∧ n < 256 then some (UInt8.ofNat n.toNat) else none
  | _ => none

/-- A byte slice while it is decoded into: its bytes, none for nil, and the bytes that its array
holds after them. Further bytes of an array are zero. -/
structure ByteSlice where
  bytes : Option (List UInt8)
  spare : List UInt8 := []

/-- The bytes of the array. -/
def ByteSlice.memory (s : ByteSlice) : List UInt8 := s.bytes.getD [] ++ s.spare

/-- A byte slice: base64 text, in which line breaks are skipped, or an array of numbers. The
elements of an array go to the array that is there, one after another. -/
def Value.intoBytes (old : ByteSlice) : Value → Option ByteSlice
  | .null => some ⟨none, []⟩
  | .string text =>
      (base64Bytes (text.toList.filter fun c => c != '\n' && c != '\r')).map (⟨some ·, []⟩)
  | .array [] => some ⟨some [], []⟩
  | .array elements =>
      (elements.zipIdx.mapM fun (element, i) => Value.intoByte (old.memory.getD i 0) element).map
        (⟨some ·, old.memory.drop elements.length⟩)
  | _ => none

/-! ## They invert the encoders -/

theorem natural_toDigits (n : Nat) : natural (Nat.toDigits 10 n) = some n := by
  have all : (Nat.toDigits 10 n).all Char.isDigit = true :=
    List.all_eq_true.mpr fun c mem => Nat.isDigit_of_mem_toDigits (by decide) (by decide) mem
  rw [natural, if_pos all, Nat.ofDigitChars_ten_toDigits]

theorem integer_decimal (n : Int) : integer (decimal n) = some n := by
  cases n with
  | ofNat n =>
      have read := natural_toDigits n
      obtain ⟨c, digits, start⟩ :=
        List.exists_cons_of_ne_nil (Nat.toDigits_ne_nil (n := n) (b := 10))
      have digit : c.isDigit = true :=
        Nat.isDigit_of_mem_toDigits (by decide) (by decide) (start ▸ List.mem_cons_self)
      show integer (Nat.toDigits 10 n) = _
      rw [start] at read ⊢
      rw [integer, read]
      · rfl
      · rintro digits same
        obtain ⟨rfl, -⟩ := List.cons.inj same
        exact absurd digit (by decide)
  | negSucc n =>
      show integer ('-' :: Nat.toDigits 10 (n + 1)) = _
      rw [integer, natural_toDigits]
      rfl

theorem intoInt64_decimal (old x : Int64) :
    (Value.number (decimal x.toInt)).intoInt64 old = some x := by
  have range : -(2 ^ 63) ≤ x.toInt ∧ x.toInt < 2 ^ 63 := ⟨x.le_toInt, x.toInt_lt⟩
  rw [Value.intoInt64, integer_decimal, Option.bind_some, if_pos range, Int64.ofInt_toInt]

theorem base64Value_base64Char {n : Nat} (small : n < 64) :
    base64Value (base64Char n) = some n := by
  revert n
  decide

theorem base64Char_ne_padding {n : Nat} (small : n < 64) : base64Char n ≠ '=' := by
  intro same
  have value := base64Value_base64Char small
  rw [same] at value
  cases value

theorem base64Bytes_base64 (bytes : List UInt8) : base64Bytes (base64 bytes) = some bytes := by
  have byte (a : UInt8) {n : Nat} (value : n = a.toNat) : UInt8.ofNat n = a := by
    rw [value, UInt8.ofNat_toNat]
  have six (a : UInt8) : a.toNat / 4 < 64 ∧ a.toNat / 16 < 16 ∧ a.toNat / 64 < 4 := by
    have := a.toNat_lt
    omega
  fun_induction base64 bytes with
  | case1 => rfl
  | case2 a =>
      have one := base64Value_base64Char (six a).1
      have two := base64Value_base64Char (n := a.toNat % 4 * 16) (by omega)
      rw [base64Bytes, one, two]
      exact congrArg some (congrArg (fun x => [x]) (byte a (by omega)))
  | case3 a b =>
      have := six b
      have one := base64Value_base64Char (six a).1
      have two := base64Value_base64Char (n := a.toNat % 4 * 16 + b.toNat / 16) (by omega)
      have three := base64Value_base64Char (n := b.toNat % 16 * 4) (by omega)
      have data := base64Char_ne_padding (n := b.toNat % 16 * 4) (by omega)
      rw [base64Bytes, one, two, three]
      · simp only [Option.bind_eq_bind, Option.bind_some, Option.pure_def, Option.some.injEq]
        rw [byte a (by omega), byte b (by omega)]
      · exact data
  | case4 a b c rest ih =>
      have := six b
      have := six c
      have one := base64Value_base64Char (six a).1
      have two := base64Value_base64Char (n := a.toNat % 4 * 16 + b.toNat / 16) (by omega)
      have three := base64Value_base64Char (n := b.toNat % 16 * 4 + c.toNat / 64) (by omega)
      have four := base64Value_base64Char (n := c.toNat % 64) (by omega)
      have data := base64Char_ne_padding (n := c.toNat % 64) (by omega)
      rw [base64Bytes, one, two, three, four, ih]
      · simp only [Option.bind_eq_bind, Option.bind_some, Option.pure_def, Option.some.injEq]
        rw [byte a (by omega), byte b (by omega), byte c (by omega)]
      · exact fun _ padding _ => data padding
      · exact fun padding _ => data padding

theorem intoBytes_byteSliceValue (old : ByteSlice) (bytes : Option (List UInt8)) :
    (byteSliceValue bytes).intoBytes old = some ⟨bytes, []⟩ := by
  cases bytes with
  | none => rfl
  | some bytes =>
      have kept : (base64 bytes).filter (fun c => c != '\n' && c != '\r') = base64 bytes := by
        refine List.filter_eq_self.mpr fun c mem => ?_
        have plain := escape_base64 bytes c mem
        rw [Bool.and_eq_true, bne_iff_ne, bne_iff_ne]
        constructor
        · rintro rfl
          cases plain
        · rintro rfl
          cases plain
      rw [byteSliceValue, Value.intoBytes, String.toList_ofList, kept, base64Bytes_base64]
      rfl

end JsonText
