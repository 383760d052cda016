import GoOdin.Text.JsonRead

/-!
# The reader inverts the encoders

Strings, integers, byte slices and objects of them are read back as they were written,
whatever follows in the text.
-/

namespace JsonText

/-! ## Strings -/

/-- A character of one byte. -/
theorem utf8EncodeChar_plain {c : Char} (plain : c.toNat < 128) :
    String.utf8EncodeChar c = [UInt8.ofNat c.toNat] := by
  have size : c.utf8Size = 1 := Char.utf8Size_eq_one_iff.mpr (UInt32.le_iff_toNat_le.mpr (by
    show c.toNat ≤ 127
    omega))
  rw [String.utf8EncodeChar_eq_singleton size]
  rfl

/-- The bytes of a longer encoding are all above those of the one-byte characters. -/
theorem le_of_mem_utf8EncodeChar {c : Char} {b : UInt8} (mem : b ∈ String.utf8EncodeChar c)
    (long : ¬ c.toNat < 128) : 128 ≤ b.toNat := by
  rw [String.utf8EncodeChar.eq_def] at mem
  dsimp only at mem
  have wide : ¬ c.val.toNat ≤ 127 := by
    show ¬ c.toNat ≤ 127
    omega
  rw [if_neg wide] at mem
  split_ifs at mem
  all_goals
    simp only [List.mem_cons, List.not_mem_nil, or_false] at mem
    obtain rfl | rfl | rfl | rfl := mem
    all_goals
      rw [UInt8.toNat_ofNat']
      omega

theorem decodeRune_utf8EncodeChar (c : Char) (text : List UInt8) :
    decodeRune (String.utf8EncodeChar c ++ text) = some c := by
  rw [decodeRune, List.toByteArray_append]
  exact ByteArray.utf8DecodeChar?_utf8EncodeChar_append

/-- A byte that stands in a string for itself. -/
def StandsForItself (b : UInt8) : Prop := b ≠ 34 ∧ b ≠ 92 ∧ ¬ b < 32

theorem rawString_plain {bytes : List UInt8} (plain : ∀ b ∈ bytes, StandsForItself b)
    (text : List UInt8) :
    rawString (bytes ++ text) = (rawString text).map fun p => (bytes ++ p.1, p.2) := by
  induction bytes with
  | nil => simp
  | cons b bytes ih =>
      rw [List.forall_mem_cons] at plain
      obtain ⟨⟨noQuote, noEscape, printable⟩, others⟩ := plain
      rw [List.cons_append, rawString_cons noQuote noEscape, if_neg printable, ih others,
        Option.map_map]
      rfl

/-- The bytes of an escaped character: a short escape, a `\u` escape of a character that is
no surrogate, or the character itself. -/
inductive Escaped (c : Char) : List UInt8 → Prop
  | short (letter : UInt8) (means : shortEscape letter = some c) : Escaped c [92, letter]
  | unicode (x y z w : UInt8) (means : hexUnit x y z w = some c.toNat)
      (plain : ∀ b ∈ [x, y, z, w], StandsForItself b) (low : c.toNat < 0xd800) :
      Escaped c [92, 117, x, y, z, w]
  | itself (plain : ∀ b ∈ String.utf8EncodeChar c, StandsForItself b) :
      Escaped c (String.utf8EncodeChar c)

theorem hexDigit_byte : ∀ n < 16, ∃ b, String.utf8EncodeChar (Nat.digitChar n) = [b] ∧
    hexByte b = some n ∧ StandsForItself b := by
  intro n small
  interval_cases n <;> exact ⟨_, rfl, by decide, by decide, by decide, by decide⟩

theorem escaped_unicodeEscape {c : Char} (low : c.toNat < 0xd800) :
    Escaped c (utf8 (unicodeEscape c)) := by
  obtain ⟨x, bx, vx, px⟩ := hexDigit_byte (c.toNat / 4096 % 16) (Nat.mod_lt _ (by decide))
  obtain ⟨y, by', vy, py⟩ := hexDigit_byte (c.toNat / 256 % 16) (Nat.mod_lt _ (by decide))
  obtain ⟨z, bz, vz, pz⟩ := hexDigit_byte (c.toNat / 16 % 16) (Nat.mod_lt _ (by decide))
  obtain ⟨w, bw, vw, pw⟩ := hexDigit_byte (c.toNat % 16) (Nat.mod_lt _ (by decide))
  have spelled : utf8 (unicodeEscape c) = [92, 117, x, y, z, w] := by
    simp only [unicodeEscape, utf8_cons, bx, by', bz, bw, utf8_nil]
    rfl
  have value : hexUnit x y z w = some c.toNat := by
    have sum : 4096 * (c.toNat / 4096 % 16) + 256 * (c.toNat / 256 % 16) +
        16 * (c.toNat / 16 % 16) + c.toNat % 16 = c.toNat := by omega
    simp only [hexUnit, vx, vy, vz, vw, Option.bind_eq_bind, Option.bind_some, Option.pure_def, sum]
  have plain : ∀ b ∈ [x, y, z, w], StandsForItself b := by
    simp only [List.forall_mem_cons]
    exact ⟨px, py, pz, pw, fun _ absent => absurd absent List.not_mem_nil⟩
  rw [spelled]
  exact .unicode x y z w value plain low

theorem low_of_needsUnicodeEscape {c : Char} (special : needsUnicodeEscape c = true) :
    c.toNat < 0xd800 := by
  simp only [needsUnicodeEscape, Bool.or_eq_true, decide_eq_true_eq] at special
  obtain ((((control | rfl) | rfl) | rfl) | line) | paragraph := special
  · omega
  · decide
  · decide
  · decide
  · omega
  · omega

theorem standsForItself_of_mem {c : Char} {b : UInt8} (mem : b ∈ String.utf8EncodeChar c)
    (noQuote : c ≠ '"') (noEscape : c ≠ '\\') (printable : ¬ c.toNat < 32) :
    StandsForItself b := by
  have code : b.toNat = c.toNat ∨ 128 ≤ b.toNat := by
    by_cases plain : c.toNat < 128
    · rw [utf8EncodeChar_plain plain, List.mem_singleton] at mem
      rw [mem, UInt8.toNat_ofNat']
      omega
    · exact .inr (le_of_mem_utf8EncodeChar mem plain)
  have other {n : Nat} (small : n < 128) (different : c.toNat ≠ n) : b.toNat ≠ n := by omega
  refine ⟨?_, ?_, ?_⟩
  · rintro rfl
    exact other (n := 34) (by decide) (fun same => noQuote (Char.toNat_inj.mp same)) rfl
  · rintro rfl
    exact other (n := 92) (by decide) (fun same => noEscape (Char.toNat_inj.mp same)) rfl
  · intro small
    have below : b.toNat < 32 := UInt8.lt_iff_toNat_lt.mp small
    omega

theorem escaped_escape (c : Char) : Escaped c (utf8 (escape c)) := by
  unfold escape
  split_ifs with quoted back feed newline ret tab special
  · obtain rfl | rfl := quoted
    · exact .short 34 rfl
    · exact .short 92 rfl
  · obtain rfl : c = Char.ofNat 8 := by rw [← back, Char.ofNat_toNat]
    exact .short 98 rfl
  · obtain rfl : c = Char.ofNat 12 := by rw [← feed, Char.ofNat_toNat]
    exact .short 102 rfl
  · subst newline
    exact .short 110 rfl
  · subst ret
    exact .short 114 rfl
  · subst tab
    exact .short 116 rfl
  · exact escaped_unicodeEscape (low_of_needsUnicodeEscape special)
  · have printable : ¬ c.toNat < 32 := fun small => special (by simp [needsUnicodeEscape, small])
    rw [not_or] at quoted
    have self : utf8 [c] = String.utf8EncodeChar c := by simp
    rw [self]
    exact .itself fun b mem => standsForItself_of_mem mem quoted.1 quoted.2 printable

section Strings

variable {c : Char} {bytes : List UInt8}

theorem Escaped.rawString_append (escaped : Escaped c bytes) (text : List UInt8) :
    rawString (bytes ++ text) = (rawString text).map fun p => (bytes ++ p.1, p.2) := by
  cases escaped with
  | short letter means => rfl
  | unicode x y z w means plain low =>
      have digits := rawString_plain plain text
      show (rawString ([x, y, z, w] ++ text)).map _ = _
      rw [digits, Option.map_map]
      rfl
  | itself plain => exact rawString_plain plain text

theorem Escaped.unquote_append (escaped : Escaped c bytes) (rounds : Nat) (text : List UInt8) :
    unquote (rounds + 1) (bytes ++ text) = (unquote rounds text).map (c :: ·) := by
  cases escaped with
  | short letter means =>
      have letters : letter ≠ 117 := by
        rintro rfl
        cases means
      show unquote (rounds + 1) (92 :: letter :: text) = _
      rw [unquote]
      · rw [means]
        cases unquote rounds text <;> rfl
      · intro x y z w others same
        exact absurd same letters
  | unicode x y z w means plain low =>
      have char : unicodeChar c.toNat text = (c, text) := by
        rw [unicodeChar, if_neg (by omega), Char.ofNat_toNat]
      show unquote (rounds + 1) (92 :: 117 :: x :: y :: z :: w :: text) = _
      rw [unquote, means]
      show (unquote rounds (unicodeChar c.toNat text).2).bind
        (fun chars => some ((unicodeChar c.toNat text).1 :: chars)) = _
      rw [char]
      cases unquote rounds text <;> rfl
  | itself plain =>
      obtain ⟨b, others, start⟩ : ∃ b others, String.utf8EncodeChar c = b :: others :=
        List.exists_cons_of_ne_nil (List.ne_nil_of_length_pos (by
          rw [String.length_utf8EncodeChar]
          exact c.utf8Size_pos))
      have rune := decodeRune_utf8EncodeChar c text
      have size := String.length_utf8EncodeChar c
      have noEscape : b ≠ 92 := (plain b (start ▸ List.mem_cons_self)).2.1
      rw [start] at rune size ⊢
      rw [List.cons_append, unquote, ← List.cons_append, rune]
      · dsimp only
        rw [← size, List.drop_left]
      · intro _ _ _ _ _ same
        exact absurd same noEscape
      · intro _ _ same
        exact absurd same noEscape

theorem Escaped.length_pos (escaped : Escaped c bytes) : 0 < bytes.length := by
  cases escaped with
  | short letter means => simp
  | unicode x y z w means plain low => simp
  | itself plain =>
      rw [String.length_utf8EncodeChar]
      exact c.utf8Size_pos

theorem rawString_quoted (chars : List Char) (rest : List UInt8) :
    rawString (utf8 (chars.flatMap escape) ++ 34 :: rest) =
      some (utf8 (chars.flatMap escape), rest) := by
  induction chars with
  | nil => rfl
  | cons c chars ih =>
      rw [List.flatMap_cons, utf8_append, List.append_assoc, (escaped_escape c).rawString_append,
        ih]
      rfl

theorem unquote_quoted (chars : List Char) {rounds : Nat}
    (enough : (utf8 (chars.flatMap escape)).length ≤ rounds) :
    unquote rounds (utf8 (chars.flatMap escape)) = some chars := by
  induction chars generalizing rounds with
  | nil => cases rounds <;> rfl
  | cons c chars ih =>
      rw [List.flatMap_cons, utf8_append] at enough ⊢
      have here := (escaped_escape c).length_pos
      rw [List.length_append] at enough
      obtain ⟨rounds, rfl⟩ : ∃ fewer, rounds = fewer + 1 := ⟨rounds - 1, by omega⟩
      rw [(escaped_escape c).unquote_append, ih (by omega)]
      rfl

/-- A quoted string is read up to its closing quote and unquoted to itself. -/
theorem readString_quoted (string : String) (rest : List UInt8) :
    readString (utf8 (string.toList.flatMap escape) ++ 34 :: rest) = some (string, rest) := by
  simp only [readString, rawString_quoted, unquote_quoted _ (Nat.le_refl _),
    Option.bind_eq_bind, Option.bind_some, Option.pure_def, String.ofList_toList]

end Strings

/-! ## Numbers -/

section Numbers

/-- What follows a value cannot continue a number. -/
def EndsNumber (rest : List UInt8) : Prop :=
  ∀ b ∈ rest.head?, isDigit b = false ∧ b ≠ 46 ∧ b ≠ 101 ∧ b ≠ 69

theorem utf8_of_plain {text : List Char} (plain : Plain text) :
    utf8 text = text.map fun c => UInt8.ofNat c.toNat := by
  induction text with
  | nil => rfl
  | cons c text ih =>
      obtain ⟨here, plain⟩ := plain_cons.mp plain
      rw [utf8_cons, utf8EncodeChar_plain here, ih plain]
      rfl

theorem literal_utf8 {text : List Char} (plain : Plain text) : literal (utf8 text) = text := by
  have code : ∀ c ∈ text, Char.ofNat (UInt8.ofNat c.toNat).toNat = c := by
    intro c mem
    have small := plain_iff.mp plain c mem
    rw [UInt8.toNat_ofNat', Nat.mod_eq_of_lt (by omega), Char.ofNat_toNat]
  rw [literal, utf8_of_plain plain, List.map_map]
  exact (List.map_congr_left code).trans (List.map_id text)

/-- Only zero starts with a zero. -/
theorem head?_toDigits_ne {n : Nat} (positive : 0 < n) :
    (Nat.toDigits 10 n).head? ≠ some '0' := by
  induction n using Nat.strongRecOn with
  | ind n ih =>
      by_cases small : n < 10
      · rw [Nat.toDigits_of_lt_base small]
        interval_cases n <;> decide
      · have split : Nat.toDigits 10 n = Nat.toDigits 10 (n / 10) ++ Nat.toDigits 10 (n % 10) := by
          rw [Nat.toDigits_append_toDigits (by decide) (by omega) (by omega)]
          congr
          omega
        have front := ih (n / 10) (by omega) (by omega)
        obtain ⟨c, others, start⟩ :=
          List.exists_cons_of_ne_nil (Nat.toDigits_ne_nil (n := n / 10) (b := 10))
        rw [start] at split front
        rw [split]
        exact front

/-- The bytes of a natural number: some digits, and a zero in front only if it is all. -/
structure IsNatural (run : List UInt8) : Prop where
  nonempty : run ≠ []
  digits : ∀ b ∈ run, isDigit b = true
  zero : ∀ others, run = 48 :: others → others = []

theorem isNatural_toDigits (n : Nat) : IsNatural (utf8 (Nat.toDigits 10 n)) := by
  have digit : ∀ c ∈ Nat.toDigits 10 n, 48 ≤ c.toNat ∧ c.toNat ≤ 57 := by
    intro c mem
    have digit := Nat.isDigit_of_mem_toDigits (by decide) (by decide) mem
    simp only [Char.isDigit, Bool.and_eq_true, decide_eq_true_eq] at digit
    exact digit
  rw [utf8_of_plain (plain_toDigits n)]
  refine ⟨?_, ?_, ?_⟩
  · simp [Nat.toDigits_ne_nil]
  · intro b mem
    obtain ⟨c, isIn, rfl⟩ := List.mem_map.mp mem
    have bounds := digit c isIn
    simp only [isDigit, Bool.and_eq_true, decide_eq_true_eq, UInt8.le_iff_toNat_le,
      UInt8.toNat_ofNat']
    exact ⟨show 48 ≤ _ by omega, show _ ≤ 57 by omega⟩
  · intro others same
    obtain ⟨c, chars, start⟩ := List.exists_cons_of_ne_nil (Nat.toDigits_ne_nil (n := n) (b := 10))
    rw [start, List.map_cons] at same
    obtain ⟨first, rfl⟩ := List.cons.inj same
    have bounds := digit c (start ▸ List.mem_cons_self)
    have code : c.toNat = 48 := by
      have value := congrArg UInt8.toNat first
      rw [UInt8.toNat_ofNat'] at value
      have right : (48 : UInt8).toNat = 48 := rfl
      omega
    obtain rfl : c = '0' := Char.toNat_inj.mp code
    obtain rfl | positive := Nat.eq_zero_or_pos n
    · rw [Nat.toDigits_zero] at start
      obtain ⟨-, rfl⟩ := List.cons.inj start
      rfl
    · exact absurd (by rw [start]; rfl) (head?_toDigits_ne positive)

variable {run rest : List UInt8}

theorem digits_of_run (nonempty : run ≠ []) (all : ∀ b ∈ run, isDigit b = true)
    (ends : EndsNumber rest) : digits (run ++ rest) = some (run, rest) := by
  have after : rest.dropWhile isDigit = rest ∧ rest.takeWhile isDigit = [] := by
    cases rest with
    | nil => exact ⟨rfl, rfl⟩
    | cons b others =>
        have stop := (ends b rfl).1
        exact ⟨List.dropWhile_cons_of_neg (by simp [stop]),
          List.takeWhile_cons_of_neg (by simp [stop])⟩
  have front : (run ++ rest).takeWhile isDigit = run := by
    rw [List.takeWhile_append_of_pos all, after.2, List.append_nil]
  have back : (run ++ rest).dropWhile isDigit = rest := by
    rw [List.dropWhile_append_of_pos all, after.1]
  rw [digits, front, back, if_neg nonempty]

theorem wholePart_of_natural (natural : IsNatural run) (ends : EndsNumber rest) :
    wholePart (run ++ rest) = some (run, rest) := by
  obtain ⟨b, others, rfl⟩ := List.exists_cons_of_ne_nil natural.nonempty
  by_cases zero : b = 48
  · subst zero
    rw [natural.zero others rfl]
    rfl
  · have other : ¬ decide (b = 48) = true := by simpa using zero
    rw [wholePart, List.cons_append, lead, if_neg other, ← List.cons_append]
    exact digits_of_run natural.nonempty natural.digits ends

/-- Where no byte of the kind follows, an optional part is empty. -/
theorem lead_nothing {kind : UInt8 → Bool} {belonging : Part}
    (absent : ∀ b ∈ rest.head?, kind b = false) :
    lead kind belonging nothing rest = some ([], rest) := by
  cases rest with
  | nil => rfl
  | cons b others =>
      rw [lead, if_neg (by simp [absent b rfl])]
      rfl

theorem unsigned_of_natural (natural : IsNatural run) (ends : EndsNumber rest) :
    unsigned (run ++ rest) = some (run, rest) := by
  have decimals : fraction rest = some ([], rest) :=
    lead_nothing fun b first => by simp [(ends b first).2.1]
  have power : exponent rest = some ([], rest) :=
    lead_nothing fun b first => by simp [(ends b first).2.2]
  refine andThen_eq_some_iff.mpr ⟨run, rest, [], wholePart_of_natural natural ends, ?_, ?_⟩
  · exact andThen_eq_some_iff.mpr ⟨[], rest, [], decimals, power, rfl⟩
  · exact List.append_nil run

theorem readNumber_decimal (n : Int) (ends : EndsNumber rest) :
    readNumber (utf8 (decimal n) ++ rest) = some (utf8 (decimal n), rest) := by
  cases n with
  | ofNat n =>
      have natural := isNatural_toDigits n
      have read := unsigned_of_natural natural ends
      show readNumber (utf8 (Nat.toDigits 10 n) ++ rest) = some (utf8 (Nat.toDigits 10 n), rest)
      obtain ⟨b, others, start⟩ := List.exists_cons_of_ne_nil natural.nonempty
      have digit : isDigit b = true := natural.digits b (start ▸ List.mem_cons_self)
      have other : ¬ decide (b = 45) = true := by
        rw [decide_eq_true_eq]
        rintro rfl
        exact absurd digit (by decide)
      rw [start] at read ⊢
      rw [readNumber, List.cons_append, lead, if_neg other, ← List.cons_append]
      exact read
  | negSucc n =>
      have read := unsigned_of_natural (isNatural_toDigits (n + 1)) ends
      show (unsigned (utf8 (Nat.toDigits 10 (n + 1)) ++ rest)).map _ = _
      rw [read]
      rfl

end Numbers

/-! ## Values -/

/-- The text is read as this value, whatever comes after it. -/
def Reads (nesting : Nat) (text : List Char) (value : Value) : Prop :=
  ∀ rest, EndsNumber rest → ∀ rounds, (utf8 text).length ≤ rounds →
    readValue (rounds + 1) nesting (utf8 text ++ rest) = some (value, rest)

theorem utf8_quote (string : String) (rest : List UInt8) :
    utf8 (quote string) ++ rest = 34 :: (utf8 (string.toList.flatMap escape) ++ 34 :: rest) := by
  show utf8 ('"' :: string.toList.flatMap escape ++ ['"']) ++ rest = _
  rw [utf8_append, List.append_assoc]
  rfl

theorem reads_quote (nesting : Nat) (string : String) :
    Reads nesting (quote string) (.string string) := by
  intro rest _ rounds _
  rw [utf8_quote]
  show (readString _).map _ = _
  rw [readString_quoted]
  rfl

theorem readValue_number {b : UInt8} (first : isDigit b = true ∨ b = 45) (rounds nesting : Nat)
    (text : List UInt8) :
    readValue (rounds + 1) nesting (b :: text) =
      (readNumber (b :: text)).map fun p => (.number (literal p.1), p.2) := by
  have other {c : UInt8} (noDigit : isDigit c = false) (noSign : c ≠ 45) : ¬ b = c := by
    rintro rfl
    obtain digit | sign := first
    · rw [digit] at noDigit
      cases noDigit
    · exact noSign sign
  have visible : isBlank b = false := by
    simp [isBlank, other (c := 32) rfl (by decide), other (c := 9) rfl (by decide),
      other (c := 10) rfl (by decide), other (c := 13) rfl (by decide)]
  have start : skip (b :: text) = b :: text := List.dropWhile_cons_of_neg (by simp [visible])
  rw [readValue, start]
  dsimp only
  rw [if_neg (other rfl (by decide)), if_neg (other rfl (by decide)),
    if_neg (other rfl (by decide)), if_neg (other rfl (by decide)),
    if_neg (other rfl (by decide)), if_neg (other rfl (by decide))]

theorem reads_decimal (nesting : Nat) (n : Int) :
    Reads nesting (decimal n) (.number (decimal n)) := by
  intro rest ends rounds _
  have read := readNumber_decimal n ends
  obtain ⟨b, others, start, first⟩ : ∃ b others, utf8 (decimal n) = b :: others ∧
      (isDigit b = true ∨ b = 45) := by
    cases n with
    | ofNat n =>
        have natural := isNatural_toDigits n
        obtain ⟨b, others, start⟩ := List.exists_cons_of_ne_nil natural.nonempty
        exact ⟨b, others, start, .inl (natural.digits b (start ▸ List.mem_cons_self))⟩
    | negSucc n => exact ⟨45, _, rfl, .inr rfl⟩
  have back := literal_utf8 (plain_decimal n)
  rw [start] at read back ⊢
  rw [List.cons_append, readValue_number first, ← List.cons_append, read]
  exact congrArg (fun text => some (Value.number text, rest)) back

/-- A byte slice is `null` or the string of its base64 text. -/
def byteSliceValue : Option (List UInt8) → Value
  | none => .null
  | some bytes => .string (String.ofList (base64 bytes))

theorem escape_base64Char (n : Nat) : escape (base64Char n) = [base64Char n] := by
  by_cases small : n < 62
  · revert n
    decide
  · unfold base64Char
    rw [if_neg (by omega), if_neg (by omega), if_neg small]
    split <;> decide

theorem escape_base64 (bytes : List UInt8) : ∀ c ∈ base64 bytes, escape c = [c] := by
  have padding : escape '=' = ['='] := by decide
  fun_induction base64 bytes with
  | case1 => simp
  | case2 a => simp [escape_base64Char, padding]
  | case3 a b => simp [escape_base64Char, padding]
  | case4 a b c rest ih => simpa [escape_base64Char] using ih

theorem reads_byteSlice (nesting : Nat) (bytes : Option (List UInt8)) :
    Reads nesting (byteSlice bytes) (byteSliceValue bytes) := by
  cases bytes with
  | none =>
      intro rest _ rounds _
      rfl
  | some bytes =>
      have plain : (base64 bytes).flatMap escape = base64 bytes := by
        rw [List.flatMap_def, List.map_congr_left (escape_base64 bytes), ← List.flatMap_def,
          List.flatMap_singleton']
      have quoted : byteSlice (some bytes) = quote (String.ofList (base64 bytes)) := by
        rw [quote, String.toList_ofList, plain]
        rfl
      rw [quoted]
      exact reads_quote nesting _

/-- The texts of some members and the values they are read as. -/
def ReadsMembers (nesting : Nat) (fields : List (String × List Char))
    (members : List (String × Value)) : Prop :=
  List.Forall₂ (fun field member => field.1 = member.1 ∧ Reads nesting field.2 member.2)
    fields members

theorem endsNumber_cons {b : UInt8} (rest : List UInt8)
    (stop : isDigit b = false ∧ b ≠ 46 ∧ b ≠ 101 ∧ b ≠ 69) : EndsNumber (b :: rest) := by
  intro c first
  obtain rfl := Option.some.inj first
  exact stop

theorem length_utf8_member (name : String) (text : List Char) :
    (utf8 text).length + 3 ≤ (utf8 (member name text)).length := by
  have bytes : utf8 (member name text) =
      34 :: (utf8 (name.toList.flatMap escape) ++ 34 :: 58 :: utf8 text) := by
    rw [member, utf8_append, utf8_quote]
    rfl
  rw [bytes]
  simp only [List.length_cons, List.length_append]
  omega

/-- One member and what follows it. -/
theorem readMembers_member {nesting rounds : Nat} {name : String} {text : List Char}
    {value : Value} (reads : Reads nesting text value)
    (enough : (utf8 text).length ≤ rounds) {after : List UInt8} (ends : EndsNumber after) :
    readMembers (rounds + 2) nesting (utf8 (member name text) ++ after) =
      following 125 (readMembers (rounds + 1) nesting) (name, value) after := by
  have bytes : utf8 (member name text) ++ after =
      34 :: (utf8 (name.toList.flatMap escape) ++ 34 :: 58 :: (utf8 text ++ after)) := by
    rw [member, utf8_append, List.append_assoc, utf8_quote]
    rfl
  have quoted : expect 34 (utf8 (member name text) ++ after) =
      some (utf8 (name.toList.flatMap escape) ++ 34 :: 58 :: (utf8 text ++ after)) := by
    rw [bytes]
    rfl
  have colon : expect 58 (58 :: (utf8 text ++ after)) = some (utf8 text ++ after) := rfl
  simp only [readMembers, quoted, readString_quoted, colon, reads after ends rounds enough,
    Option.bind_eq_bind, Option.bind_some]

theorem readMembers_members {nesting : Nat} {fields : List (String × List Char)}
    {members : List (String × Value)} (nonempty : fields ≠ [])
    (all : ReadsMembers nesting fields members) {rounds : Nat}
    (enough : (utf8 (JsonText.members fields)).length ≤ rounds) (rest : List UInt8) :
    readMembers rounds nesting (utf8 (JsonText.members fields) ++ 125 :: rest) =
      some (members, rest) := by
  fun_induction JsonText.members fields generalizing members rounds with
  | case1 => exact absurd rfl nonempty
  | case2 name text =>
      obtain _ | @⟨_, member, _, _, ⟨same, reads⟩, later⟩ := all
      cases later
      obtain ⟨_, value⟩ := member
      obtain rfl := same
      have value : Reads nesting text value := reads
      have size := length_utf8_member name text
      obtain ⟨rounds, rfl⟩ : ∃ fewer, rounds = fewer + 2 := ⟨rounds - 2, by omega⟩
      rw [readMembers_member value (by omega) (endsNumber_cons rest (by decide))]
      rfl
  | case3 name text next others ih =>
      obtain _ | @⟨_, member, _, _, ⟨same, reads⟩, later⟩ := all
      obtain ⟨_, value⟩ := member
      obtain rfl := same
      have value : Reads nesting text value := reads
      have size := length_utf8_member name text
      rw [utf8_append, List.length_append] at enough
      have split : utf8 (',' :: JsonText.members (next :: others)) =
          44 :: utf8 (JsonText.members (next :: others)) := rfl
      rw [split, List.length_cons] at enough
      obtain ⟨rounds, rfl⟩ : ∃ fewer, rounds = fewer + 2 := ⟨rounds - 2, by omega⟩
      have fewer : (utf8 (JsonText.members (next :: others))).length ≤ rounds + 1 := by omega
      have tail := ih (List.cons_ne_nil _ _) later fewer
      rw [utf8_append, split, List.append_assoc, List.cons_append,
        readMembers_member value (by omega) (endsNumber_cons _ (by decide))]
      show (readMembers (rounds + 1) nesting _).map _ = _
      rw [tail]
      rfl

theorem utf8_members (field : String × List Char) (fields : List (String × List Char)) :
    ∃ others, utf8 (JsonText.members (field :: fields)) = 34 :: others := by
  have quoted (name : String) (text : List Char) :
      ∃ others, utf8 (member name text) = 34 :: others := by
    rw [member, utf8_append, utf8_quote]
    exact ⟨_, rfl⟩
  obtain ⟨others, start⟩ := quoted field.1 field.2
  cases fields with
  | nil => exact ⟨others, start⟩
  | cons next fields =>
      rw [JsonText.members, utf8_append, start]
      exact ⟨_, rfl⟩

theorem reads_object {nesting : Nat} {fields : List (String × List Char)}
    {members : List (String × Value)} (all : ReadsMembers nesting fields members) :
    Reads (nesting + 1) (object fields) (.object members) := by
  intro rest _ rounds enough
  have bytes : utf8 (object fields) ++ rest =
      123 :: (utf8 (JsonText.members fields) ++ 125 :: rest) := by
    show utf8 ('{' :: JsonText.members fields ++ ['}']) ++ rest = _
    rw [utf8_append, List.append_assoc]
    rfl
  rw [bytes]
  cases fields with
  | nil =>
      cases all
      rfl
  | cons field fields =>
      have size : (utf8 (JsonText.members (field :: fields))).length ≤ rounds := by
        have whole := congrArg List.length bytes
        simp only [List.length_append, List.length_cons] at whole
        omega
      have read := readMembers_members (List.cons_ne_nil _ _) all size rest
      have opened : expect 125 (utf8 (JsonText.members (field :: fields)) ++ 125 :: rest) =
          none := by
        obtain ⟨others, start⟩ := utf8_members field fields
        rw [start]
        rfl
      have start (text : List UInt8) : skip (123 :: text) = 123 :: text := rfl
      rw [readValue, start]
      dsimp only
      rw [if_pos rfl, if_neg (Nat.succ_ne_zero nesting), opened]
      dsimp only
      rw [Nat.add_sub_cancel, read]
      rfl

/-- The text of a value is parsed to it. -/
theorem parse_of_reads {text : List Char} {value : Value} (reads : Reads maxNesting text value) :
    parse (utf8 text) = some value := by
  have read := reads [] nofun (2 * (utf8 text).length + 1) (by omega)
  rw [List.append_nil] at read
  simp only [parse, read, Option.bind_eq_bind, Option.bind_some]
  rfl

/-- No proper beginning of the text of an object is parsed at all. -/
theorem parse_of_torn {fields : List (String × List Char)} {value : Value}
    (reads : Reads maxNesting (object fields) value) {front : List UInt8}
    (torn : front <+: utf8 (object fields)) (proper : front ≠ utf8 (object fields)) :
    parse front = none := by
  obtain ⟨back, whole⟩ := torn
  have read := reads [] nofun (utf8 (object fields)).length (Nat.le_refl _)
  rw [List.append_nil, ← whole] at read
  refine parse_torn read ⟨_, whole.trans rfl⟩ ?_
  rintro rfl
  rw [List.append_nil] at whole
  exact proper whole

end JsonText
