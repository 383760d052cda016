import Mathlib.Data.List.TakeWhile

/-!
# A scanner that splits a byte stream into lines

`bufio.Scanner` with its default split function. A line ends at a newline, and the line
together with what follows it is found once the newline is among the first `limit` bytes;
when that many bytes hold no newline the scanner gives up. At the end of a closed stream
an unfinished line is a token of its own. On an open stream `Scan` waits for more.

How the bytes are cut into reads makes no difference: the buffer is refilled until one of
the cases applies.
-/

namespace LineScanner

/-- What one call of `Scan` finds. -/
inductive Scan where
  | token (line rest : List UInt8)
  | tooLong
  | endOfStream
  | waiting
  deriving DecidableEq, Repr

/-- Drop one trailing carriage return. -/
def dropCR (line : List UInt8) : List UInt8 :=
  if line.getLast? = some 13 then line.dropLast else line

/-- One call of `Scan` on the bytes not consumed yet. `closed` says that no more bytes
will follow them. -/
def scan (limit : Nat) (closed : Bool) (stream : List UInt8) : Scan :=
  let line := stream.takeWhile (· != 10)
  if limit ≤ line.length then .tooLong
  else
    match stream.dropWhile (· != 10) with
    | _ :: rest => .token (dropCR line) rest
    | [] =>
        if closed = false then .waiting
        else if line = [] then .endOfStream
        else .token (dropCR line) []

variable {limit : Nat} {closed : Bool} {body rest stream : List UInt8}

theorem notNewline_of_not_mem (absent : 10 ∉ body) : ∀ b ∈ body, (b != 10) = true := by
  intro b mem
  rw [bne_iff_ne]
  rintro rfl
  exact absent mem

/-- A short line and its newline are one token. -/
theorem scan_line (absent : 10 ∉ body) (short : body.length < limit) :
    scan limit closed (body ++ 10 :: rest) = .token (dropCR body) rest := by
  have line : (body ++ 10 :: rest).takeWhile (· != 10) = body := by
    rw [List.takeWhile_append_of_pos (notNewline_of_not_mem absent)]
    simp
  have after : (body ++ 10 :: rest).dropWhile (· != 10) = 10 :: rest := by
    rw [List.dropWhile_append_of_pos (notNewline_of_not_mem absent)]
    simp
  simp only [scan, line, after, if_neg (Nat.not_le.mpr short)]

/-- A line of `limit` bytes or more is too long, whatever follows. -/
theorem scan_tooLong (absent : 10 ∉ body) (long : limit ≤ body.length) :
    scan limit closed (body ++ rest) = .tooLong := by
  have line : limit ≤ ((body ++ rest).takeWhile (· != 10)).length := by
    rw [List.takeWhile_append_of_pos (notNewline_of_not_mem absent), List.length_append]
    omega
  simp only [scan, if_pos line]

/-- A short line without its newline keeps the scanner of an open stream waiting. -/
theorem scan_unfinished (absent : 10 ∉ body) (short : body.length < limit) :
    scan limit false body = .waiting := by
  have line : body.takeWhile (· != 10) = body :=
    List.takeWhile_eq_self_iff.mpr (notNewline_of_not_mem absent)
  have after : body.dropWhile (· != 10) = [] :=
    List.dropWhile_eq_nil_iff.mpr (notNewline_of_not_mem absent)
  simp only [scan, line, after, if_neg (Nat.not_le.mpr short), if_true]

/-- At the end of a closed stream a short line without its newline is a token. -/
theorem scan_last (absent : 10 ∉ body) (short : body.length < limit) (nonempty : body ≠ []) :
    scan limit true body = .token (dropCR body) [] := by
  have line : body.takeWhile (· != 10) = body :=
    List.takeWhile_eq_self_iff.mpr (notNewline_of_not_mem absent)
  have after : body.dropWhile (· != 10) = [] :=
    List.dropWhile_eq_nil_iff.mpr (notNewline_of_not_mem absent)
  simp only [scan, line, after, if_neg (Nat.not_le.mpr short), if_neg nonempty,
    Bool.true_eq_false, if_false]

/-- With nothing left the scanner waits, or reports the end of a closed stream. -/
theorem scan_nil (positive : 0 < limit) :
    scan limit closed [] = if closed then .endOfStream else .waiting := by
  cases closed <;> simp [scan, Nat.not_le.mpr positive]

/-- A token uses up at least one byte. -/
theorem length_rest_lt {line : List UInt8} (found : scan limit closed stream = .token line rest) :
    rest.length < stream.length := by
  have bytes : (stream.takeWhile (· != 10)).length + (stream.dropWhile (· != 10)).length =
      stream.length := by
    rw [← List.length_append, List.takeWhile_append_dropWhile]
  simp only [scan] at found
  split at found
  · cases found
  · split at found
    · next after =>
        cases found
        rw [after, List.length_cons] at bytes
        omega
    · split at found
      · cases found
      · split at found
        · cases found
        · next nonempty =>
            cases found
            have := List.length_pos_iff.mpr nonempty
            rw [List.length_nil]
            omega

end LineScanner
