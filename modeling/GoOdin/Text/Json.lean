import Mathlib.Data.Nat.Digits.Defs
import Mathlib.Tactic.IntervalCases

/-!
# JSON text as `encoding/json` writes it

Strings are quoted with the escapes of `json.Marshal`, which also escapes the characters
that are special in HTML; byte slices are base64 in quotes; integers are decimal; an
object is its members in order. Text is a list of characters, and `utf8` gives its bytes.

The two facts that framing needs are kept together with the encoders: none of them ever
writes a newline, and of plain characters the number of bytes is the number of
characters.
-/

namespace JsonText

/-- A backslash, `u` and four hexadecimal digits. -/
def unicodeEscape (c : Char) : List Char :=
  ['\\', 'u', Nat.digitChar (c.toNat / 4096 % 16), Nat.digitChar (c.toNat / 256 % 16),
    Nat.digitChar (c.toNat / 16 % 16), Nat.digitChar (c.toNat % 16)]

/-- The characters that `json.Marshal` writes as a `\u` escape although JSON need not:
those special in HTML and the two Unicode line separators. -/
def needsUnicodeEscape (c : Char) : Bool :=
  c.toNat < 32 || c = '<' || c = '>' || c = '&' || c.toNat = 0x2028 || c.toNat = 0x2029

def escape (c : Char) : List Char :=
  if c = '"' ∨ c = '\\' then ['\\', c]
  else if c.toNat = 8 then ['\\', 'b']
  else if c.toNat = 12 then ['\\', 'f']
  else if c = '\n' then ['\\', 'n']
  else if c = '\r' then ['\\', 'r']
  else if c = '\t' then ['\\', 't']
  else if needsUnicodeEscape c then unicodeEscape c
  else [c]

def quote (s : String) : List Char := '"' :: s.toList.flatMap escape ++ ['"']

def decimal : Int → List Char
  | .ofNat n => Nat.toDigits 10 n
  | .negSucc n => '-' :: Nat.toDigits 10 (n + 1)

/-- The standard base64 alphabet. -/
def base64Char (n : Nat) : Char :=
  if n < 26 then Char.ofNat (65 + n)
  else if n < 52 then Char.ofNat (71 + n)
  else if n < 62 then Char.ofNat (n - 4)
  else if n = 62 then '+'
  else '/'

/-- Base64 with padding. -/
def base64 : List UInt8 → List Char
  | [] => []
  | [a] => [base64Char (a.toNat / 4), base64Char (a.toNat % 4 * 16), '=', '=']
  | [a, b] =>
      [base64Char (a.toNat / 4), base64Char (a.toNat % 4 * 16 + b.toNat / 16),
        base64Char (b.toNat % 16 * 4), '=']
  | a :: b :: c :: rest =>
      base64Char (a.toNat / 4) :: base64Char (a.toNat % 4 * 16 + b.toNat / 16) ::
        base64Char (b.toNat % 16 * 4 + c.toNat / 64) :: base64Char (c.toNat % 64) :: base64 rest

/-- A byte slice, where nil is `null`. -/
def byteSlice : Option (List UInt8) → List Char
  | none => ['n', 'u', 'l', 'l']
  | some bytes => '"' :: base64 bytes ++ ['"']

def member (name : String) (value : List Char) : List Char := quote name ++ ':' :: value

/-- The members of an object, separated by commas. -/
def members : List (String × List Char) → List Char
  | [] => []
  | [(name, value)] => member name value
  | (name, value) :: next :: rest => member name value ++ ',' :: members (next :: rest)

def object (fields : List (String × List Char)) : List Char := '{' :: members fields ++ ['}']

/-- The bytes of a text. -/
def utf8 (text : List Char) : List UInt8 := text.flatMap String.utf8EncodeChar

@[simp] theorem utf8_nil : utf8 [] = [] := rfl

@[simp] theorem utf8_cons (c : Char) (text : List Char) :
    utf8 (c :: text) = String.utf8EncodeChar c ++ utf8 text := rfl

@[simp] theorem utf8_append (first second : List Char) :
    utf8 (first ++ second) = utf8 first ++ utf8 second := List.flatMap_append

/-! ## No encoder writes a newline -/

theorem hexDigit_ne_newline (n : Nat) : Nat.digitChar (n % 16) ≠ '\n' := by
  have digits : ∀ d < 16, Nat.digitChar d ≠ '\n' := by decide
  exact digits _ (Nat.mod_lt n (by decide))

theorem newline_not_mem_escape (c : Char) : '\n' ∉ escape c := by
  unfold escape
  split_ifs with quoted _ _ newline _ _ special
  · rcases quoted with rfl | rfl <;> decide
  · decide
  · decide
  · decide
  · decide
  · decide
  · simp [unicodeEscape, (hexDigit_ne_newline _).symm]
  · simpa using Ne.symm newline

theorem newline_not_mem_quote (s : String) : '\n' ∉ quote s := by
  simp [quote, newline_not_mem_escape]

theorem newline_not_mem_toDigits (n : Nat) : '\n' ∉ Nat.toDigits 10 n := by
  intro mem
  have digit := Nat.isDigit_of_mem_toDigits (by decide) (by decide) mem
  exact absurd digit (by decide)

theorem newline_not_mem_decimal (n : Int) : '\n' ∉ decimal n := by
  cases n with
  | ofNat n => exact newline_not_mem_toDigits n
  | negSucc n => simp [decimal, newline_not_mem_toDigits]

/-- Every base64 character is a plain one other than a newline. -/
theorem base64Char_plain (n : Nat) : (base64Char n).toNat < 128 ∧ base64Char n ≠ '\n' := by
  by_cases small : n < 62
  · revert n
    decide
  · unfold base64Char
    rw [if_neg (by omega), if_neg (by omega), if_neg small]
    split <;> decide

theorem base64_plain (bytes : List UInt8) : ∀ c ∈ base64 bytes, c.toNat < 128 ∧ c ≠ '\n' := by
  fun_induction base64 bytes with
  | case1 => simp
  | case2 a => simp [base64Char_plain]
  | case3 a b => simp [base64Char_plain]
  | case4 a b c rest ih => simpa [base64Char_plain] using ih

theorem newline_not_mem_byteSlice (bytes : Option (List UInt8)) : '\n' ∉ byteSlice bytes := by
  cases bytes with
  | none => decide
  | some bytes =>
      have inside : '\n' ∉ base64 bytes := fun mem => (base64_plain bytes _ mem).2 rfl
      simp [byteSlice, inside]

/-- A property of the punctuation, of the names and of the values is one of the whole
object. -/
theorem forall_mem_members {q : Char → Prop} {fields : List (String × List Char)}
    (punctuation : ∀ c ∈ ['{', '}', ',', ':'], q c)
    (names : ∀ field ∈ fields, ∀ c ∈ quote field.1, q c)
    (values : ∀ field ∈ fields, ∀ c ∈ field.2, q c) : ∀ c ∈ members fields, q c := by
  fun_induction members fields with
  | case1 => simp
  | case2 name value =>
      have here := names _ List.mem_cons_self
      have value := values _ List.mem_cons_self
      simp only [member, List.forall_mem_append, List.forall_mem_cons]
      exact ⟨here, punctuation ':' (by simp), value⟩
  | case3 name value next rest ih =>
      have here := names _ List.mem_cons_self
      have value := values _ List.mem_cons_self
      have later := ih (fun field mem => names field (List.mem_cons_of_mem _ mem))
        fun field mem => values field (List.mem_cons_of_mem _ mem)
      simp only [member, List.forall_mem_append, List.forall_mem_cons]
      exact ⟨⟨here, punctuation ':' (by simp), value⟩, punctuation ',' (by simp), later⟩

theorem forall_mem_object {q : Char → Prop} {fields : List (String × List Char)}
    (punctuation : ∀ c ∈ ['{', '}', ',', ':'], q c)
    (names : ∀ field ∈ fields, ∀ c ∈ quote field.1, q c)
    (values : ∀ field ∈ fields, ∀ c ∈ field.2, q c) : ∀ c ∈ object fields, q c := by
  simp only [object, List.cons_append, List.forall_mem_cons, List.forall_mem_append]
  exact ⟨punctuation '{' (by simp), forall_mem_members punctuation names values,
    punctuation '}' (by simp), by simp⟩

theorem newline_not_mem_object {fields : List (String × List Char)}
    (values : ∀ field ∈ fields, '\n' ∉ field.2) : '\n' ∉ object fields := by
  have none : ∀ c ∈ object fields, c ≠ '\n' :=
    forall_mem_object (by simp) (fun field _ c mem same =>
      newline_not_mem_quote field.1 (same ▸ mem))
      fun field mem c inside same => values field mem (same ▸ inside)
  exact fun mem => none _ mem rfl

theorem eq_of_newline_eq_ofNat {n : Nat} (small : n < 256) (same : 10 = UInt8.ofNat n) :
    n = 10 := by
  have value := congrArg UInt8.toNat same
  rw [UInt8.toNat_ofNat_of_lt' small] at value
  exact value.symm

/-- The only character with a byte of value ten is the newline: the bytes of the longer
encodings are all at least 128. -/
theorem newline_mem_utf8EncodeChar {c : Char} (mem : 10 ∈ String.utf8EncodeChar c) : c = '\n' := by
  rw [String.utf8EncodeChar.eq_def] at mem
  dsimp only at mem
  split_ifs at mem with one two three
  · have value := eq_of_newline_eq_ofNat (by omega) (List.mem_singleton.mp mem)
    exact Char.toNat_inj.mp value
  · simp only [List.mem_cons, List.not_mem_nil, or_false] at mem
    rcases mem with byte | byte <;> have := eq_of_newline_eq_ofNat (by omega) byte <;> omega
  · simp only [List.mem_cons, List.not_mem_nil, or_false] at mem
    rcases mem with byte | byte | byte <;>
      have := eq_of_newline_eq_ofNat (by omega) byte <;> omega
  · simp only [List.mem_cons, List.not_mem_nil, or_false] at mem
    rcases mem with byte | byte | byte | byte <;>
      have := eq_of_newline_eq_ofNat (by omega) byte <;> omega

theorem newline_not_mem_utf8 {text : List Char} (absent : '\n' ∉ text) : 10 ∉ utf8 text := by
  intro mem
  obtain ⟨c, inText, byte⟩ := List.mem_flatMap.mp mem
  exact absent (newline_mem_utf8EncodeChar byte ▸ inText)

/-! ## Lengths -/

theorem length_base64 (bytes : List UInt8) :
    (base64 bytes).length = 4 * ((bytes.length + 2) / 3) := by
  fun_induction base64 bytes with
  | case1 => rfl
  | case2 a => simp
  | case3 a b => simp
  | case4 a b c rest ih =>
      simp only [List.length_cons, ih]
      omega

/-- A sign and nineteen digits are enough for 64 bits. -/
theorem length_decimal_le {n : Int} (lower : -(2 ^ 63) ≤ n) (upper : n < 2 ^ 63) :
    (decimal n).length ≤ 20 := by
  cases n with
  | ofNat n =>
      have fits : n < 10 ^ 20 := by simp only [Int.ofNat_eq_natCast] at upper; omega
      exact (Nat.length_toDigits_le_iff (by decide) (by decide)).mpr fits
  | negSucc n =>
      have fits : n + 1 < 10 ^ 19 := by omega
      have digits := (Nat.length_toDigits_le_iff (b := 10) (by decide) (by decide)).mpr fits
      simp only [decimal, List.length_cons]
      omega

/-- Text of one-byte characters. -/
def Plain (text : List Char) : Prop := text.all (fun c => c.toNat < 128) = true

instance (text : List Char) : Decidable (Plain text) := inferInstanceAs (Decidable (_ = true))

theorem plain_iff {text : List Char} : Plain text ↔ ∀ c ∈ text, c.toNat < 128 := by
  simp [Plain]

theorem plain_cons {c : Char} {text : List Char} :
    Plain (c :: text) ↔ c.toNat < 128 ∧ Plain text := by
  simp [Plain]

theorem plain_append {first second : List Char} :
    Plain (first ++ second) ↔ Plain first ∧ Plain second := by
  simp [Plain]

theorem plain_toDigits (n : Nat) : Plain (Nat.toDigits 10 n) := by
  refine plain_iff.mpr fun c mem => ?_
  have digit := Nat.isDigit_of_mem_toDigits (by decide) (by decide) mem
  simp only [Char.isDigit, Bool.and_eq_true, decide_eq_true_eq] at digit
  have upper : c.val.toNat ≤ 57 := digit.2
  change c.val.toNat < 128
  omega

theorem plain_decimal (n : Int) : Plain (decimal n) := by
  cases n with
  | ofNat n => exact plain_toDigits n
  | negSucc n => exact plain_cons.mpr ⟨by decide, plain_toDigits (n + 1)⟩

theorem plain_byteSlice (bytes : Option (List UInt8)) : Plain (byteSlice bytes) := by
  cases bytes with
  | none => decide
  | some bytes =>
      have inside : Plain (base64 bytes) := plain_iff.mpr fun c mem => (base64_plain bytes c mem).1
      exact plain_cons.mpr ⟨by decide, plain_append.mpr ⟨inside, by decide⟩⟩

theorem plain_object {fields : List (String × List Char)}
    (names : ∀ field ∈ fields, Plain (quote field.1)) (values : ∀ field ∈ fields, Plain field.2) :
    Plain (object fields) :=
  plain_iff.mpr (forall_mem_object (by simp) (fun field mem => plain_iff.mp (names field mem))
    fun field mem => plain_iff.mp (values field mem))

theorem length_byteSlice_some (bytes : List UInt8) :
    (byteSlice (some bytes)).length = 2 + 4 * ((bytes.length + 2) / 3) := by
  simp only [byteSlice, List.cons_append, List.length_cons, List.length_append, List.length_nil,
    length_base64]
  omega

theorem length_utf8_of_plain {text : List Char} (plain : Plain text) :
    (utf8 text).length = text.length := by
  induction text with
  | nil => rfl
  | cons c text ih =>
      obtain ⟨here, plain⟩ := plain_cons.mp plain
      have here : c.val.toNat ≤ 127 := Nat.le_of_lt_succ here
      have rest := ih plain
      rw [utf8_cons, List.length_append, rest, String.utf8EncodeChar.eq_def]
      simp only [here, if_true, List.length_cons, List.length_nil]
      omega

end JsonText
