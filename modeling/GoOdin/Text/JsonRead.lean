import GoOdin.Text.Json

/-!
# JSON text as `encoding/json` reads it

The reader works on bytes, as the scanner of the package does, and gives the value at the
front of a text together with the rest. A string is first cut out up to its closing quote
and then unquoted; bytes in it that are no UTF-8 become U+FFFD. A number stays the literal
it is. Nesting is limited to `maxNesting`.

What has been read does not depend on what comes later, unless it is a number at the very
end; so no text of an object is the beginning of another.
-/

namespace JsonText

inductive Value where
  | null
  | bool (value : Bool)
  | number (literal : List Char)
  | string (text : String)
  | array (elements : List Value)
  | object (members : List (String × Value))

def Value.isNumber : Value → Bool
  | .number _ => true
  | _ => false

/-! ## Tokens -/

/-- White space between tokens. -/
def isBlank (b : UInt8) : Bool := b = 32 || b = 9 || b = 10 || b = 13

def skip (text : List UInt8) : List UInt8 := text.dropWhile isBlank

/-- One byte of punctuation. -/
def expect (b : UInt8) (text : List UInt8) : Option (List UInt8) :=
  match skip text with
  | c :: rest => if c = b then some rest else none
  | [] => none

/-- The rest of a word whose first letter has been seen. -/
def word (letters : List UInt8) (value : Value) (text : List UInt8) :
    Option (Value × List UInt8) :=
  if letters <+: text then some (value, text.drop letters.length) else none

/-- The bytes of a string up to its closing quote, with their escapes. -/
def rawString : List UInt8 → Option (List UInt8 × List UInt8)
  | [] => none
  | 34 :: rest => some ([], rest)
  | 92 :: b :: rest => (rawString rest).map fun p => (92 :: b :: p.1, p.2)
  | b :: rest => if b < 32 then none else (rawString rest).map fun p => (b :: p.1, p.2)

def hexByte (b : UInt8) : Option Nat :=
  if 48 ≤ b ∧ b ≤ 57 then some (b.toNat - 48)
  else if 97 ≤ b ∧ b ≤ 102 then some (b.toNat - 87)
  else if 65 ≤ b ∧ b ≤ 70 then some (b.toNat - 55)
  else none

/-- Four hexadecimal digits. -/
def hexUnit (a b c d : UInt8) : Option Nat := do
  return 4096 * (← hexByte a) + 256 * (← hexByte b) + 16 * (← hexByte c) + (← hexByte d)

/-- The escapes of one letter. -/
def shortEscape (b : UInt8) : Option Char :=
  if b = 34 ∨ b = 92 ∨ b = 47 then some (Char.ofNat b.toNat)
  else if b = 98 then some (Char.ofNat 8)
  else if b = 102 then some (Char.ofNat 12)
  else if b = 110 then some '\n'
  else if b = 114 then some '\r'
  else if b = 116 then some '\t'
  else none

/-- The second half of a surrogate pair, if the text goes on with one. -/
def lowSurrogate : List UInt8 → Option Nat
  | 92 :: 117 :: a :: b :: c :: d :: _ =>
      (hexUnit a b c d).filter fun unit => 0xdc00 ≤ unit && unit < 0xe000
  | _ => none

/-- The character of a `\u` escape and the bytes after it. A surrogate without its partner is
replaced. -/
def unicodeChar (unit : Nat) (rest : List UInt8) : Char × List UInt8 :=
  if 0xd800 ≤ unit ∧ unit < 0xe000 then
    match lowSurrogate rest with
    | some low =>
        if unit < 0xdc00 then
          (Char.ofNat (0x10000 + (unit - 0xd800) * 0x400 + (low - 0xdc00)), rest.drop 6)
        else (Char.ofNat 0xfffd, rest)
    | none => (Char.ofNat 0xfffd, rest)
  else (Char.ofNat unit, rest)

/-- The rune at the front of a text, if it is valid UTF-8. -/
def decodeRune (text : List UInt8) : Option Char := text.toByteArray.utf8DecodeChar? 0

/-- The characters of a string. Every round takes a byte or more, so that the length of the
string is enough rounds. -/
def unquote : Nat → List UInt8 → Option (List Char)
  | _, [] => some []
  | 0, _ :: _ => none
  | rounds + 1, 92 :: 117 :: a :: b :: c :: d :: rest => do
      let (char, rest) := unicodeChar (← hexUnit a b c d) rest
      return char :: (← unquote rounds rest)
  | rounds + 1, 92 :: b :: rest => do
      let char ← shortEscape b
      return char :: (← unquote rounds rest)
  | rounds + 1, b :: rest =>
      match decodeRune (b :: rest) with
      | some char => (unquote rounds ((b :: rest).drop char.utf8Size)).map (char :: ·)
      | none => (unquote rounds rest).map (Char.ofNat 0xfffd :: ·)

/-- A string whose opening quote has been seen. -/
def readString (text : List UInt8) : Option (String × List UInt8) := do
  let (raw, rest) ← rawString text
  let chars ← unquote raw.length raw
  return (String.ofList chars, rest)

/-! ## Numbers -/

def isDigit (b : UInt8) : Bool := 48 ≤ b && b ≤ 57

/-- A part of a number at the front of a text, and the rest. -/
abbrev Part := List UInt8 → Option (List UInt8 × List UInt8)

def nothing : Part := fun text => some ([], text)

/-- One digit or more. -/
def digits : Part := fun text =>
  if text.takeWhile isDigit = [] then none
  else some (text.takeWhile isDigit, text.dropWhile isDigit)

def andThen (first second : Part) : Part := fun text => do
  let (front, rest) ← first text
  let (back, rest) ← second rest
  return (front ++ back, rest)

/-- A byte of some kind and what belongs to it, or something else without it. -/
def lead (kind : UInt8 → Bool) (belonging otherwise : Part) : Part
  | b :: rest =>
      if kind b then (belonging rest).map fun p => (b :: p.1, p.2) else otherwise (b :: rest)
  | [] => otherwise []

/-- A zero stands alone. -/
def wholePart : Part := lead (· = 48) nothing digits

def fraction : Part := lead (· = 46) digits nothing

def exponent : Part :=
  lead (fun b => b = 101 || b = 69) (lead (fun b => b = 43 || b = 45) digits digits) nothing

def unsigned : Part := andThen wholePart (andThen fraction exponent)

def readNumber : Part := lead (· = 45) unsigned unsigned

/-- The literal as characters; all of its bytes are plain. -/
def literal (bytes : List UInt8) : List Char := bytes.map fun b => Char.ofNat b.toNat

/-! ## Values -/

/-- The limit of the scanner. -/
def maxNesting : Nat := 10000

/-- What follows an item of a list: a comma and more items, or the closing byte. -/
def following {α : Type*} (close : UInt8)
    (more : List UInt8 → Option (List α × List UInt8)) (item : α) (text : List UInt8) :
    Option (List α × List UInt8) :=
  match expect 44 text with
  | some rest => (more rest).map fun p => (item :: p.1, p.2)
  | none => (expect close text).map fun rest => ([item], rest)

mutual
/-- The value at the front of a text. -/
def readValue : Nat → Nat → List UInt8 → Option (Value × List UInt8)
  | 0, _, _ => none
  | rounds + 1, nesting, text =>
      match skip text with
      | [] => none
      | b :: rest =>
          if b = 123 then
            if nesting = 0 then none
            else
              match expect 125 rest with
              | some rest => some (.object [], rest)
              | none =>
                  (readMembers rounds (nesting - 1) rest).map fun p => (.object p.1, p.2)
          else if b = 91 then
            if nesting = 0 then none
            else
              match expect 93 rest with
              | some rest => some (.array [], rest)
              | none =>
                  (readElements rounds (nesting - 1) rest).map fun p => (.array p.1, p.2)
          else if b = 34 then (readString rest).map fun p => (.string p.1, p.2)
          else if b = 110 then word [117, 108, 108] .null rest
          else if b = 116 then word [114, 117, 101] (.bool true) rest
          else if b = 102 then word [97, 108, 115, 101] (.bool false) rest
          else (readNumber (b :: rest)).map fun p => (.number (literal p.1), p.2)

/-- The members of an object that has some, and its closing brace. -/
def readMembers : Nat → Nat → List UInt8 → Option (List (String × Value) × List UInt8)
  | 0, _, _ => none
  | rounds + 1, nesting, text => do
      let rest ← expect 34 text
      let (key, rest) ← readString rest
      let rest ← expect 58 rest
      let (value, rest) ← readValue rounds nesting rest
      following 125 (readMembers rounds nesting) (key, value) rest

/-- The elements of an array that has some, and its closing bracket. -/
def readElements : Nat → Nat → List UInt8 → Option (List Value × List UInt8)
  | 0, _, _ => none
  | rounds + 1, nesting, text => do
      let (value, rest) ← readValue rounds nesting text
      following 93 (readElements rounds nesting) value rest
end

/-- A whole text: one value and white space. A nested value takes two rounds and one byte at
least, so that the rounds never run out. -/
def parse (text : List UInt8) : Option Value := do
  let (value, rest) ← readValue (2 * text.length + 2) maxNesting text
  if skip rest = [] then return value else none

/-! ## What has been read does not depend on what comes later -/

section Extension

variable {text rest : List UInt8}

theorem skip_append {b : UInt8} (found : skip text = b :: rest) (later : List UInt8) :
    skip (text ++ later) = b :: (rest ++ later) := by
  have blanks : text.dropWhile isBlank = b :: rest := found
  rw [skip, List.dropWhile_append, blanks]
  rfl

theorem expect_eq_some_iff {b : UInt8} : expect b text = some rest ↔ skip text = b :: rest := by
  cases found : skip text with
  | nil => simp [expect, found]
  | cons c others =>
      simp only [expect, found]
      split
      · next same => simp [same]
      · next other => simp [other]

theorem expect_append {b : UInt8} (found : expect b text = some rest) (later : List UInt8) :
    expect b (text ++ later) = some (rest ++ later) :=
  expect_eq_some_iff.mpr (skip_append (expect_eq_some_iff.mp found) later)

/-- Where one byte is found another is not. -/
theorem expect_eq_none {b c : UInt8} (found : expect b text = some rest) (other : b ≠ c) :
    expect c text = none := by
  simp [expect, expect_eq_some_iff.mp found, other]

theorem word_append {letters : List UInt8} {value read : Value}
    (found : word letters value text = some (read, rest)) (later : List UInt8) :
    word letters value (text ++ later) = some (read, rest ++ later) := by
  rw [word] at found
  split at found
  · next spelled =>
      cases found
      have enough := spelled.length_le
      rw [word, if_pos (spelled.trans (List.prefix_append _ _)),
        List.drop_append_of_le_length enough]
  · cases found

/-- A byte that neither closes the string nor escapes another. -/
theorem rawString_cons {b : UInt8} (noQuote : b ≠ 34) (noEscape : b ≠ 92) (text : List UInt8) :
    rawString (b :: text) =
      if b < 32 then none else (rawString text).map fun p => (b :: p.1, p.2) := by
  rw [rawString]
  · exact noQuote
  · exact fun c others escape => absurd escape noEscape

theorem rawString_append {raw : List UInt8} (found : rawString text = some (raw, rest))
    (later : List UInt8) : rawString (text ++ later) = some (raw, rest ++ later) := by
  fun_induction rawString text generalizing raw with
  | case1 => cases found
  | case2 rest =>
      cases found
      rfl
  | case3 b others ih =>
      obtain ⟨⟨inner, after⟩, read, same⟩ := Option.map_eq_some_iff.mp found
      cases same
      have longer := ih read
      rw [List.cons_append, List.cons_append, rawString, longer]
      rfl
  | case4 b others noQuote noEscape control => cases found
  | case5 b others noQuote noEscape printable ih =>
      obtain ⟨⟨inner, after⟩, read, same⟩ := Option.map_eq_some_iff.mp found
      cases same
      have plain : b ≠ 92 := by
        rintro rfl
        cases others with
        | nil => cases read
        | cons c others => exact noEscape c others rfl rfl
      rw [List.cons_append, rawString_cons noQuote plain, if_neg printable, ih read]
      rfl

theorem readString_append {string : String} (found : readString text = some (string, rest))
    (later : List UInt8) : readString (text ++ later) = some (string, rest ++ later) := by
  simp only [readString, Option.bind_eq_bind, Option.bind_eq_some_iff, Prod.exists,
    Option.pure_def, Option.some.injEq, Prod.mk.injEq] at found ⊢
  obtain ⟨raw, after, cut, chars, unquoted, same, rfl⟩ := found
  exact ⟨raw, after ++ later, rawString_append cut later, chars, unquoted, same, rfl⟩

/-- The part ends before the end of the text, or the text is read to its end; in the first
case more text makes no difference. -/
structure Extends (part : Part) : Prop where
  nil : ∀ read rest, part [] = some (read, rest) → rest = []
  append : ∀ text read rest later, part text = some (read, rest) → rest ≠ [] →
    part (text ++ later) = some (read, rest ++ later)

theorem extends_nothing : Extends nothing where
  nil := by
    intro read rest found
    cases found
    rfl
  append := by
    intro text read rest later found _
    cases found
    rfl

theorem extends_digits : Extends digits where
  nil := by
    intro read rest found
    cases found
  append := by
    intro text read rest later found more
    rw [digits] at found
    split at found
    · cases found
    · next some =>
        cases found
        have after : (text ++ later).dropWhile isDigit = text.dropWhile isDigit ++ later := by
          rw [List.dropWhile_append, if_neg (by simpa using more)]
        have whole : (text ++ later).takeWhile isDigit ++ (text.dropWhile isDigit ++ later) =
            text.takeWhile isDigit ++ (text.dropWhile isDigit ++ later) := by
          rw [← after, List.takeWhile_append_dropWhile, after, ← List.append_assoc,
            List.takeWhile_append_dropWhile]
        rw [digits, List.append_cancel_right whole, if_neg some, after]

theorem andThen_eq_some_iff {first second : Part} {read : List UInt8} :
    andThen first second text = some (read, rest) ↔
      ∃ front between back, first text = some (front, between) ∧
        second between = some (back, rest) ∧ front ++ back = read := by
  simp only [andThen, Option.bind_eq_bind, Option.bind_eq_some_iff, Prod.exists, Option.pure_def,
    Option.some.injEq, Prod.mk.injEq]
  constructor
  · rintro ⟨front, between, one, back, after, two, whole, rfl⟩
    exact ⟨front, between, back, one, two, whole⟩
  · rintro ⟨front, between, back, one, two, whole⟩
    exact ⟨front, between, one, back, rest, two, whole, rfl⟩

theorem Extends.andThen {first second : Part} (one : Extends first) (two : Extends second) :
    Extends (andThen first second) where
  nil := by
    intro read rest found
    obtain ⟨front, between, back, read₁, read₂, -⟩ := andThen_eq_some_iff.mp found
    obtain rfl := one.nil _ _ read₁
    exact two.nil _ _ read₂
  append := by
    intro text read rest later found more
    obtain ⟨front, between, back, read₁, read₂, whole⟩ := andThen_eq_some_iff.mp found
    have some : between ≠ [] := by
      rintro rfl
      exact more (two.nil _ _ read₂)
    exact andThen_eq_some_iff.mpr ⟨front, between ++ later, back,
      one.append _ _ _ later read₁ some, two.append _ _ _ later read₂ more, whole⟩

theorem Extends.lead {kind : UInt8 → Bool} {belonging otherwise : Part}
    (one : Extends belonging) (two : Extends otherwise) :
    Extends (lead kind belonging otherwise) where
  nil := two.nil
  append := by
    intro text read rest later found more
    cases text with
    | nil => exact absurd (two.nil _ _ found) more
    | cons b others =>
        rw [JsonText.lead] at found
        rw [List.cons_append, JsonText.lead]
        split at found
        · next kind =>
            obtain ⟨⟨inner, after⟩, belongs, same⟩ := Option.map_eq_some_iff.mp found
            cases same
            rw [if_pos kind, one.append _ _ _ later belongs more]
            rfl
        · next other =>
            rw [if_neg other]
            exact two.append _ _ _ later found more

theorem extends_readNumber : Extends readNumber := by
  have whole : Extends wholePart := extends_nothing.lead extends_digits
  have decimals : Extends fraction := extends_digits.lead extends_nothing
  have power : Extends exponent :=
    (extends_digits.lead extends_digits).lead extends_nothing
  have number : Extends unsigned := whole.andThen (decimals.andThen power)
  exact number.lead number

/-- A byte that is not there is not there when more follows, if there is one at all. -/
theorem expect_append_eq_none {b : UInt8} (some : skip text ≠ []) (absent : expect b text = none)
    (later : List UInt8) : expect b (text ++ later) = none := by
  obtain ⟨c, others, found⟩ := List.exists_cons_of_ne_nil some
  have other : c ≠ b := by
    rintro rfl
    rw [expect_eq_some_iff.mpr found] at absent
    cases absent
  simp [expect, skip_append found later, other]

theorem skip_ne_nil_of_readValue {rounds nesting : Nat} {value : Value}
    (found : readValue rounds nesting text = some (value, rest)) : skip text ≠ [] := by
  intro blank
  cases rounds with
  | zero => cases found
  | succ rounds =>
      rw [readValue, blank] at found
      cases found

theorem skip_ne_nil_of_readMembers {rounds nesting : Nat} {members : List (String × Value)}
    (found : readMembers rounds nesting text = some (members, rest)) : skip text ≠ [] := by
  cases rounds with
  | zero => cases found
  | succ rounds =>
      rw [readMembers, Option.bind_eq_bind, Option.bind_eq_some_iff] at found
      obtain ⟨after, quoted, -⟩ := found
      rw [expect_eq_some_iff.mp quoted]
      exact List.cons_ne_nil _ _

theorem skip_ne_nil_of_readElements {rounds nesting : Nat} {elements : List Value}
    (found : readElements rounds nesting text = some (elements, rest)) : skip text ≠ [] := by
  cases rounds with
  | zero => cases found
  | succ rounds =>
      rw [readElements, Option.bind_eq_bind, Option.bind_eq_some_iff] at found
      obtain ⟨⟨value, after⟩, first, -⟩ := found
      exact skip_ne_nil_of_readValue first

theorem ne_nil_of_following {α : Type*} {close : UInt8}
    {more : List UInt8 → Option (List α × List UInt8)} {item : α} {items : List α}
    (found : following close more item text = some (items, rest)) : text ≠ [] := by
  rintro rfl
  cases found

theorem following_append {α : Type*} {close : UInt8}
    {more more' : List UInt8 → Option (List α × List UInt8)} {item : α} {items : List α}
    (comma : close ≠ 44) (later : List UInt8)
    (extends_more : ∀ text items rest, more text = some (items, rest) →
      more' (text ++ later) = some (items, rest ++ later))
    (found : following close more item text = some (items, rest)) :
    following close more' item (text ++ later) = some (items, rest ++ later) := by
  rw [following] at found
  split at found
  · next after next =>
      obtain ⟨⟨others, after⟩, read, same⟩ := Option.map_eq_some_iff.mp found
      cases same
      rw [following, expect_append next]
      dsimp only
      rw [extends_more _ _ _ read]
      rfl
  · next last =>
      obtain ⟨after, closed, same⟩ := Option.map_eq_some_iff.mp found
      cases same
      rw [following, expect_eq_none (expect_append closed later) comma]
      dsimp only
      rw [expect_append closed]
      rfl

/-- What is read in so many rounds is read in as many rounds or more in a longer text too. -/
structure ExtendsIn (rounds rounds' : Nat) : Prop where
  value : ∀ nesting text value rest later,
    readValue rounds nesting text = some (value, rest) → rest ≠ [] ∨ value.isNumber = false →
      readValue rounds' nesting (text ++ later) = some (value, rest ++ later)
  members : ∀ nesting text members rest later,
    readMembers rounds nesting text = some (members, rest) →
      readMembers rounds' nesting (text ++ later) = some (members, rest ++ later)
  elements : ∀ nesting text elements rest later,
    readElements rounds nesting text = some (elements, rest) →
      readElements rounds' nesting (text ++ later) = some (elements, rest ++ later)

section Round

variable {rounds rounds' nesting : Nat}

theorem ExtendsIn.value_succ (inner : ExtendsIn rounds rounds') {value : Value}
    (found : readValue (rounds + 1) nesting text = some (value, rest))
    (ends : rest ≠ [] ∨ value.isNumber = false) (later : List UInt8) :
    readValue (rounds' + 1) nesting (text ++ later) = some (value, rest ++ later) := by
  obtain ⟨b, others, start⟩ := List.exists_cons_of_ne_nil (skip_ne_nil_of_readValue found)
  rw [readValue, start] at found
  rw [readValue, skip_append start later]
  dsimp only at found ⊢
  split_ifs at found ⊢ with brace _ bracket _ quote n t f
  · split at found
    · next after closed =>
        cases found
        rw [expect_append closed]
    · next opened =>
        obtain ⟨⟨members, after⟩, read, same⟩ := Option.map_eq_some_iff.mp found
        cases same
        rw [expect_append_eq_none (skip_ne_nil_of_readMembers read) opened,
          inner.members _ _ _ _ later read]
        rfl
  · split at found
    · next after closed =>
        cases found
        rw [expect_append closed]
    · next opened =>
        obtain ⟨⟨elements, after⟩, read, same⟩ := Option.map_eq_some_iff.mp found
        cases same
        rw [expect_append_eq_none (skip_ne_nil_of_readElements read) opened,
          inner.elements _ _ _ _ later read]
        rfl
  · obtain ⟨⟨string, after⟩, read, same⟩ := Option.map_eq_some_iff.mp found
    cases same
    rw [readString_append read]
    rfl
  · exact word_append found later
  · exact word_append found later
  · exact word_append found later
  · obtain ⟨⟨number, after⟩, read, same⟩ := Option.map_eq_some_iff.mp found
    cases same
    have more : after ≠ [] := ends.resolve_right (by simp [Value.isNumber])
    rw [← List.cons_append, extends_readNumber.append _ _ _ later read more]
    rfl

theorem ExtendsIn.members_succ (inner : ExtendsIn rounds rounds')
    {members : List (String × Value)}
    (found : readMembers (rounds + 1) nesting text = some (members, rest))
    (later : List UInt8) :
    readMembers (rounds' + 1) nesting (text ++ later) = some (members, rest ++ later) := by
  simp only [readMembers, Option.bind_eq_bind, Option.bind_eq_some_iff, Prod.exists] at found ⊢
  obtain ⟨a, quoted, key, c, keyRead, d, colon, value, e, valueRead, found⟩ := found
  exact ⟨_, expect_append quoted later, key, _, readString_append keyRead later, _,
    expect_append colon later, value, e ++ later,
    inner.value _ _ _ _ later valueRead (.inl (ne_nil_of_following found)),
    following_append (by decide) later (fun _ _ _ => inner.members _ _ _ _ later) found⟩

theorem ExtendsIn.elements_succ (inner : ExtendsIn rounds rounds') {elements : List Value}
    (found : readElements (rounds + 1) nesting text = some (elements, rest))
    (later : List UInt8) :
    readElements (rounds' + 1) nesting (text ++ later) = some (elements, rest ++ later) := by
  simp only [readElements, Option.bind_eq_bind, Option.bind_eq_some_iff, Prod.exists] at found ⊢
  obtain ⟨value, e, valueRead, found⟩ := found
  exact ⟨value, e ++ later,
    inner.value _ _ _ _ later valueRead (.inl (ne_nil_of_following found)),
    following_append (by decide) later (fun _ _ _ => inner.elements _ _ _ _ later) found⟩

theorem extendsIn (enough : rounds ≤ rounds') : ExtendsIn rounds rounds' := by
  induction rounds generalizing rounds' with
  | zero => exact ⟨nofun, nofun, nofun⟩
  | succ rounds ih =>
      obtain ⟨more, rfl⟩ : ∃ more, rounds' = more + 1 := ⟨rounds' - 1, by omega⟩
      have inner : ExtendsIn rounds more := ih (by omega)
      exact ⟨fun _ _ _ _ later found ends => inner.value_succ found ends later,
        fun _ _ _ _ later found => inner.members_succ found later,
        fun _ _ _ _ later found => inner.elements_succ found later⟩

end Round

/-- What starts with a brace is no number. -/
theorem isNumber_of_brace {rounds nesting : Nat} {value : Value}
    (found : readValue rounds nesting (123 :: text) = some (value, rest)) :
    value.isNumber = false := by
  cases rounds with
  | zero => cases found
  | succ rounds =>
      have start : skip (123 :: text) = 123 :: text := rfl
      rw [readValue, start] at found
      dsimp only at found
      rw [if_pos rfl] at found
      split_ifs at found
      split at found
      · cases found
        rfl
      · obtain ⟨_, -, same⟩ := Option.map_eq_some_iff.mp found
        cases same
        rfl

/-- No beginning of the text of an object is a text of its own. -/
theorem parse_torn {rounds : Nat} {value : Value} {front back : List UInt8}
    (whole : readValue rounds maxNesting (front ++ back) = some (value, []))
    (brace : ∃ others, front ++ back = 123 :: others) (torn : back ≠ []) : parse front = none := by
  by_contra accepted
  obtain ⟨early, parsed⟩ := Option.ne_none_iff_exists'.mp accepted
  simp only [parse, Option.bind_eq_bind, Option.bind_eq_some_iff, Prod.exists] at parsed
  obtain ⟨read, rest, found, -⟩ := parsed
  cases front with
  | nil => cases found
  | cons b front =>
      obtain ⟨others, start⟩ := brace
      obtain ⟨rfl, -⟩ := List.cons.inj start
      -- both readings, given rounds enough for either, are readings of the whole text
      have one := (extendsIn (Nat.le_add_right _ rounds)).value _ _ _ _ back found
        (.inr (isNumber_of_brace found))
      have enough := Nat.le_add_left rounds (2 * (123 :: front).length + 2)
      have two := (extendsIn enough).value _ _ _ _ [] whole (.inr (isNumber_of_brace whole))
      rw [List.append_nil, one] at two
      have empty : rest ++ back = [] := congrArg (fun p => p.2) (Option.some.inj two)
      exact torn (List.append_eq_nil_iff.mp empty).2

end Extension

end JsonText
