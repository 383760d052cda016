import Mathlib.Data.List.Induction

/-!
# `stack.Stack`

A slice with its newest element at the end. `Pop` indexes the last element and panics when
there is none, which is `none` here; `PopByLength` is a loop of `Pop`.
-/

namespace GoOdin.Tools

structure Stack (T : Type*) where
  data : List T

namespace Stack

variable {T : Type*}

def new : Stack T := ⟨[]⟩

def push (s : Stack T) (x : T) : Stack T := ⟨s.data ++ [x]⟩

def pop (s : Stack T) : Option (T × Stack T) :=
  s.data.getLast?.map fun last => (last, ⟨s.data.dropLast⟩)

def popByLength (s : Stack T) : Nat → Option (List T × Stack T)
  | 0 => some ([], s)
  | n + 1 => do
      let (last, s) ← s.pop
      let (result, s) ← s.popByLength n
      return (last :: result, s)

def peek (s : Stack T) : Option T := s.data.head?

def len (s : Stack T) : Nat := s.data.length

/-- The call `stack.PopByLength(stack.Len())`. -/
def popAll (s : Stack T) : List T × Stack T := (s.popByLength s.len).getD ([], s)

theorem pop_push (s : Stack T) (x : T) : (s.push x).pop = some (x, s) := by
  simp [pop, push]

theorem popByLength_append (rest newest : List T) :
    popByLength ⟨rest ++ newest⟩ newest.length = some (newest.reverse, ⟨rest⟩) := by
  induction newest using List.reverseRecOn with
  | nil => simp [popByLength]
  | append_singleton newest last ih =>
      have top : pop ⟨rest ++ (newest ++ [last])⟩ = some (last, ⟨rest ++ newest⟩) := by
        rw [← List.append_assoc]
        exact pop_push ⟨rest ++ newest⟩ last
      rw [List.length_append, List.length_singleton, popByLength, top]
      simp [ih]

/-- Popping everything never runs out of elements, and gives the newest one first. -/
theorem popByLength_len (s : Stack T) : s.popByLength s.len = some (s.data.reverse, new) :=
  popByLength_append [] s.data

@[simp] theorem popAll_eq (s : Stack T) : s.popAll = (s.data.reverse, new) := by
  rw [popAll, popByLength_len]
  rfl

theorem foldl_push (s : Stack T) (xs : List T) : xs.foldl push s = ⟨s.data ++ xs⟩ := by
  induction xs generalizing s with
  | nil => simp
  | cons x xs ih => simp [ih, push]

end Stack

end GoOdin.Tools
