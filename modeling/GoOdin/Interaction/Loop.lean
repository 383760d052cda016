import GoOdin.Interaction.Run
import Mathlib.Data.List.Infix

/-!
# Loops over arriving items that a body may leave

A loop receives items in order and its body either goes on or leaves the loop for good.
What arrives afterwards is never looked at. When the decision to leave depends on the
item alone, the loop is a plain run over the items up to and including the first one
that ends it (`rangeUntil_eq_runFrom`), and it handles everything exactly if only the
last item may end it (`takeThrough_eq_self_iff`).
-/

namespace Interaction

variable {α β σ : Type*} {p : α → Bool}

/-- The items up to and including the first one with the property. -/
def takeThrough (p : α → Bool) : List α → List α
  | [] => []
  | a :: rest => if p a then [a] else a :: takeThrough p rest

@[simp] theorem takeThrough_nil : takeThrough p [] = [] := rfl

@[simp] theorem takeThrough_cons_of_pos {a : α} (rest : List α) (stops : p a = true) :
    takeThrough p (a :: rest) = [a] := if_pos stops

@[simp] theorem takeThrough_cons_of_neg {a : α} (rest : List α) (passes : p a = false) :
    takeThrough p (a :: rest) = a :: takeThrough p rest := by
  rw [takeThrough, passes]
  rfl

@[simp] theorem head?_takeThrough (items : List α) : (takeThrough p items).head? = items.head? := by
  cases items with
  | nil => rfl
  | cons a rest => cases stops : p a <;> simp [stops]

theorem takeThrough_isPrefix (items : List α) : takeThrough p items <+: items := by
  induction items with
  | nil => exact List.prefix_rfl
  | cons a rest ih =>
      cases stops : p a with
      | true =>
          rw [takeThrough_cons_of_pos rest stops]
          exact ⟨rest, rfl⟩
      | false =>
          rw [takeThrough_cons_of_neg rest stops]
          exact (List.prefix_cons_inj a).mpr ih

/-- Nothing is cut off exactly if no item before the last one has the property. -/
theorem takeThrough_eq_self_iff {items : List α} :
    takeThrough p items = items ↔ ∀ a ∈ items.dropLast, p a = false := by
  induction items with
  | nil => simp
  | cons a rest ih =>
      cases rest with
      | nil =>
          cases stops : p a <;> simp [stops]
      | cons b rest =>
          cases stops : p a with
          | true => simp [stops]
          | false =>
              rw [takeThrough_cons_of_neg _ stops, List.cons_inj_right, ih]
              simp [stops]

/-- Two lists that a function maps alike have the same length, so a cut shows in any
image of the items. -/
theorem map_takeThrough_eq_iff {f : α → β} {items : List α} :
    (takeThrough p items).map f = items.map f ↔ ∀ a ∈ items.dropLast, p a = false := by
  rw [← takeThrough_eq_self_iff]
  constructor
  · intro same
    have length := congrArg List.length same
    rw [List.length_map, List.length_map] at length
    exact (takeThrough_isPrefix items).eq_of_length length
  · intro whole
    rw [whole]

/-- Without an item that has the property nothing is cut off. -/
theorem takeThrough_eq_self {items : List α} (passes : ∀ a ∈ items, p a = false) :
    takeThrough p items = items :=
  takeThrough_eq_self_iff.mpr fun a mem => passes a (List.mem_of_mem_dropLast mem)

/-- `for a := range items`, with a body that returns (`done`) or goes on (`yield`). -/
def rangeUntil (body : σ → α → ForInStep σ) : σ → List α → σ
  | s, [] => s
  | s, a :: rest =>
      match body s a with
      | .done t => t
      | .yield t => rangeUntil body t rest

/-- The loop as a run: `step` is what the body does, and `stops` the items at which it
returns afterwards. -/
theorem rangeUntil_eq_runFrom {body : σ → α → ForInStep σ} {step : σ → α → σ}
    (bodyEq : ∀ s a, body s a = if p a then .done (step s a) else .yield (step s a))
    (start : σ) (items : List α) :
    rangeUntil body start items = runFrom step start (takeThrough p items) := by
  induction items generalizing start with
  | nil => rfl
  | cons a rest ih =>
      rw [rangeUntil, bodyEq]
      cases stops : p a with
      | true =>
          rw [takeThrough_cons_of_pos rest stops]
          rfl
      | false =>
          rw [takeThrough_cons_of_neg rest stops]
          exact ih (step start a)

end Interaction
