import Mathlib.Data.Finmap

/-!
# Tables with a primary key

A table holds at most one row for each value of its primary key, and files every row under
its own. An insert is refused for a key that is taken, or for any other reason that the
database has; then it changes nothing.
-/

namespace Memory

variable {κ R E : Type*} [DecidableEq κ] {key : R → κ}

structure Table (R : Type*) (key : R → κ) where
  rows : Finmap fun _ : κ => R
  keyed : ∀ id row, rows.lookup id = some row → key row = id

inductive InsertError (E : Type*) where
  | duplicateKey
  | refused (err : E)
deriving DecidableEq

namespace Table

def empty : Table R key := ⟨∅, fun _ _ found => nomatch found⟩

def find (t : Table R key) (id : κ) : Option R :=
  t.rows.lookup id

def insert (t : Table R key) (row : R) : Table R key where
  rows := t.rows.insert (key row) row
  keyed := by
    intro id other found
    by_cases same : id = key row
    · subst same
      rw [Finmap.lookup_insert] at found
      cases found
      rfl
    · rw [Finmap.lookup_insert_of_ne _ same] at found
      exact t.keyed id other found

/-- `INSERT`, with the reason for which the database refuses it if there is one. -/
def create (t : Table R key) (fault : Option E) (row : R) :
    Except (InsertError E) (Table R key) :=
  match fault with
  | some err => .error (.refused err)
  | none => if (t.find (key row)).isSome then .error .duplicateKey else .ok (t.insert row)

variable {t u : Table R key} {row : R} {fault : Option E} {id : κ}

theorem find_insert (t : Table R key) (row : R) (id : κ) :
    (t.insert row).find id = if id = key row then some row else t.find id := by
  split
  · next same =>
      subst same
      exact Finmap.lookup_insert _
  · next different => exact Finmap.lookup_insert_of_ne _ different

@[simp] theorem find_insert_self (t : Table R key) (row : R) :
    (t.insert row).find (key row) = some row := by
  rw [find_insert, if_pos rfl]

/-- An insert keeps every row. -/
theorem find_insert_ne_none (present : t.find id ≠ none) (row : R) :
    (t.insert row).find id ≠ none := by
  rw [find_insert]
  split
  · exact nofun
  · exact present

theorem find_insert_eq_none_iff :
    (t.insert row).find id = none ↔ key row ≠ id ∧ t.find id = none := by
  rw [find_insert]
  split
  · next same => simp [same]
  · next different => simp [Ne.symm different]

/-- An insert succeeds exactly if nothing speaks against it and the key is free. -/
theorem create_cases (t : Table R key) (fault : Option E) (row : R) :
    (fault = none ∧ t.find (key row) = none ∧ t.create fault row = .ok (t.insert row)) ∨
      ((fault ≠ none ∨ t.find (key row) ≠ none) ∧ ∃ err, t.create fault row = .error err) := by
  cases fault with
  | some err => exact .inr ⟨.inl nofun, .refused err, rfl⟩
  | none =>
      cases found : t.find (key row) with
      | none => exact .inl ⟨rfl, rfl, by simp [create, found]⟩
      | some other => exact .inr ⟨.inr nofun, .duplicateKey, by simp [create, found]⟩

end Table

end Memory
