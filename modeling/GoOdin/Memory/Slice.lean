import Mathlib.Data.List.Basic
import Mathlib.Logic.Function.Basic

/-!
# Slices over shared arrays

A slice is a view of an array: the address of the array, how many of its elements are
shown and how many fit. Copying a slice copies the view and shares the array. `append`
writes behind the shown elements when there is room, and otherwise moves them to a new
array, whose spare room the runtime chooses.

What a slice shows can therefore change through another slice, but only through an
`append` in place to a slice of the same array that shows fewer elements
(`read_append_of_apart`).
-/

namespace Memory

variable {α : Type*}

/-- Arrays by address, and the first address that is not in use. -/
structure Heap (α : Type*) where
  cells : Nat → Nat → α
  next : Nat

structure Slice where
  base : Nat
  len : Nat
  cap : Nat
  deriving DecidableEq, Repr

/-- The nil slice has no array. -/
def Slice.nil : Slice := ⟨0, 0, 0⟩

/-- `s[:0]`, which keeps the array. -/
def Slice.clear (s : Slice) : Slice := { s with len := 0 }

namespace Heap

/-- The elements a slice shows. -/
def read (h : Heap α) (s : Slice) : List α := (List.range s.len).map (h.cells s.base)

def write (h : Heap α) (base i : Nat) (x : α) : Heap α :=
  { h with cells := Function.update h.cells base (Function.update (h.cells base) i x) }

/-- A new array that begins with the elements of a slice; the rest is zero. -/
def grow [Inhabited α] (h : Heap α) (s : Slice) : Heap α where
  cells := Function.update h.cells h.next fun i =>
    if i < s.len then h.cells s.base i else default
  next := h.next + 1

/-- `append(s, x)`. When the array is full the runtime leaves `room` for later elements. -/
def append [Inhabited α] (h : Heap α) (s : Slice) (x : α) (room : Nat) : Heap α × Slice :=
  if s.len < s.cap then (h.write s.base s.len x, { s with len := s.len + 1 })
  else ((h.grow s).write h.next s.len x, ⟨h.next, s.len + 1, s.len + 1 + room⟩)

/-- The slice stays within its array, and the array is in use. -/
structure Holds (h : Heap α) (s : Slice) : Prop where
  within : s.len ≤ s.cap
  used : 0 < s.cap → s.base < h.next

variable {h : Heap α} {s t : Slice} {x : α} {room : Nat}

@[simp] theorem length_read (h : Heap α) (s : Slice) : (h.read s).length = s.len := by
  simp [read]

@[simp] theorem read_clear (h : Heap α) (s : Slice) : h.read s.clear = [] := rfl

theorem read_eq_nil_iff (h : Heap α) (s : Slice) : h.read s = [] ↔ s.len = 0 := by
  rw [← List.length_eq_zero_iff, length_read]

/-- A slice shows what is written below its length. -/
theorem mem_read_write {i : Nat} (shown : i < s.len) (h : Heap α) (x : α) :
    x ∈ (h.write s.base i x).read s := by
  refine List.mem_map.mpr ⟨i, List.mem_range.mpr shown, ?_⟩
  simp [write]

/-- A write to another array, or behind the length, is not shown. -/
theorem read_write_of_apart {base i : Nat} (apart : s.base = base → s.len ≤ i) (h : Heap α)
    (x : α) : (h.write base i x).read s = h.read s := by
  apply List.map_congr_left
  intro j shown
  have below := List.mem_range.mp shown
  by_cases same : s.base = base
  · have different : j ≠ i := by
      have behind := apart same
      omega
    simp [write, same, different]
  · simp [write, same]

theorem read_grow [Inhabited α] (h : Heap α) (s : Slice) (cap : Nat) :
    (h.grow s).read ⟨h.next, s.len, cap⟩ = h.read s := by
  apply List.map_congr_left
  intro i shown
  simp [grow, List.mem_range.mp shown]

/-- A new array does not show in the slices of the arrays in use. -/
theorem read_grow_of_used [Inhabited α] (used : t.base < h.next) (s : Slice) :
    (h.grow s).read t = h.read t := by
  apply List.map_congr_left
  intro i _
  have different : t.base ≠ h.next := by omega
  simp [grow, different]

/-- One more element written right behind the shown ones. -/
theorem read_write_succ (h : Heap α) (base n cap cap' : Nat) (x : α) :
    (h.write base n x).read ⟨base, n + 1, cap⟩ = h.read ⟨base, n, cap'⟩ ++ [x] := by
  have shown : (h.write base n x).read ⟨base, n, cap'⟩ = h.read ⟨base, n, cap'⟩ :=
    read_write_of_apart (fun _ => Nat.le_refl n) h x
  rw [← shown]
  simp [read, List.range_succ, write]

section Append

variable [Inhabited α]

theorem append_of_room (fits : s.len < s.cap) (h : Heap α) (x : α) (room : Nat) :
    h.append s x room = (h.write s.base s.len x, { s with len := s.len + 1 }) :=
  if_pos fits

theorem append_of_full (full : ¬ s.len < s.cap) (h : Heap α) (x : α) (room : Nat) :
    h.append s x room =
      ((h.grow s).write h.next s.len x, ⟨h.next, s.len + 1, s.len + 1 + room⟩) :=
  if_neg full

/-- The slice that `append` returns shows the old elements and the new one. -/
@[simp] theorem read_append (h : Heap α) (s : Slice) (x : α) (room : Nat) :
    (h.append s x room).1.read (h.append s x room).2 = h.read s ++ [x] := by
  by_cases fits : s.len < s.cap
  · rw [append_of_room fits]
    exact read_write_succ h s.base s.len s.cap s.cap x
  · rw [append_of_full fits, ← read_grow h s s.cap]
    exact read_write_succ _ _ _ _ _ _

/-- Another slice is left alone unless `append` works in place on its array, below its
length. -/
theorem read_append_of_apart (held : h.Holds t)
    (apart : s.len < s.cap → t.base = s.base → t.len ≤ s.len) (x : α) (room : Nat) :
    (h.append s x room).1.read t = h.read t := by
  by_cases fits : s.len < s.cap
  · rw [append_of_room fits]
    exact read_write_of_apart (apart fits) h x
  · rw [append_of_full fits]
    by_cases empty : t.len = 0
    · rw [(read_eq_nil_iff _ t).mpr empty, (read_eq_nil_iff _ t).mpr empty]
    · have used : t.base < h.next := by
        have within := held.within
        exact held.used (by omega)
      have elsewhere : t.base = h.next → t.len ≤ s.len := by omega
      show ((h.grow s).write h.next s.len x).read t = h.read t
      rw [read_write_of_apart elsewhere, read_grow_of_used used]

theorem Holds.append (held : h.Holds s) (x : α) (room : Nat) :
    (h.append s x room).1.Holds (h.append s x room).2 := by
  by_cases fits : s.len < s.cap
  · rw [append_of_room fits]
    exact ⟨fits, held.used⟩
  · rw [append_of_full fits]
    exact ⟨Nat.le_add_right _ _, fun _ => Nat.lt_succ_self _⟩

/-- No array goes out of use. -/
theorem Holds.append_other (held : h.Holds t) (s : Slice) (x : α) (room : Nat) :
    (h.append s x room).1.Holds t := by
  refine ⟨held.within, fun room' => ?_⟩
  have used := held.used room'
  by_cases fits : s.len < s.cap
  · rw [append_of_room fits]
    exact used
  · rw [append_of_full fits]
    exact Nat.lt_succ_of_lt used

/-- The slice that `append` returns is in the old array if there was room, and in an
array that no slice had otherwise. -/
theorem base_append (h : Heap α) (s : Slice) (x : α) (room : Nat) :
    (h.append s x room).2.base = if s.len < s.cap then s.base else h.next := by
  by_cases fits : s.len < s.cap
  · rw [append_of_room fits, if_pos fits]
  · rw [append_of_full fits, if_neg fits]

end Append

theorem Holds.clear (held : h.Holds s) : h.Holds s.clear :=
  ⟨Nat.zero_le _, held.used⟩

theorem holds_nil (h : Heap α) : h.Holds .nil :=
  ⟨Nat.le_refl _, fun room => absurd room (Nat.lt_irrefl 0)⟩

end Heap

end Memory
