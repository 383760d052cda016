import GoOdin.Interaction.Run
import GoOdin.Tools.Stack
import Mathlib.Algebra.Ring.Nat

/-!
# `stack.Stack` against a last-in first-out list

The list has its newest element first, the slice of the stack has it last. `Push`, `Pop`,
`PopByLength` and `Len` do the same to both. `Peek` reads the other end of the slice: it
returns the oldest element, which is the one that `Pop` would return only if the two are
equal.
-/

namespace GoOdin.Tools

open Interaction

variable {T : Type*}

/-- A call on a stack. -/
inductive StackCall (T : Type*) where
  | push (x : T)
  | pop
  | popByLength (n : Int)
  | peek
  | len

/-- What a call returns. -/
inductive StackResult (T : Type*) where
  | done
  | item (x : T)
  | items (xs : List T)
  | count (n : Nat)
  deriving DecidableEq

namespace Lifo

/-- What a last-in first-out list answers, if it has the elements that are asked for. -/
def result (elems : List T) : StackCall T → Option (StackResult T)
  | .push _ => some .done
  | .pop => elems.head?.map .item
  | .popByLength n =>
      if n.toNat ≤ elems.length then some (.items (elems.take n.toNat)) else none
  | .peek => elems.head?.map .item
  | .len => some (.count elems.length)

def step (elems : List T) : StackCall T → List T
  | .push x => x :: elems
  | .pop => elems.tail
  | .popByLength n => elems.drop n.toNat
  | .peek => elems
  | .len => elems

/-- `Pop` and `Peek` need an element, and `PopByLength` as many as it asks for. -/
def Allowed (elems : List T) : StackCall T → Prop
  | .push _ => True
  | .pop => elems ≠ []
  | .popByLength n => n ≤ elems.length
  | .peek => elems ≠ []
  | .len => True

instance (elems : List T) : ∀ c, Decidable (Allowed elems c)
  | .push _ => .isTrue trivial
  | .pop => inferInstanceAs (Decidable (elems ≠ []))
  | .popByLength n => inferInstanceAs (Decidable (n ≤ elems.length))
  | .peek => inferInstanceAs (Decidable (elems ≠ []))
  | .len => .isTrue trivial

/-- The elements that a call puts on, and those that it takes off. -/
def pushes : StackCall T → Nat
  | .push _ => 1
  | _ => 0

def pops : StackCall T → Nat
  | .pop => 1
  | .popByLength n => n.toNat
  | _ => 0

theorem length_step {elems : List T} {c : StackCall T} (allowed : Allowed elems c) :
    (step elems c).length + pops c = elems.length + pushes c := by
  cases c with
  | push x => simp [step, pushes, pops]
  | pop =>
      have present : 0 < elems.length := List.length_pos_iff.mpr allowed
      simp only [step, pushes, pops, List.length_tail]
      omega
  | popByLength n =>
      have enough : n ≤ elems.length := allowed
      simp only [step, pushes, pops, List.length_drop]
      omega
  | peek => simp [step, pushes, pops]
  | len => simp [step, pushes, pops]

/-- What is on the list was put on and not taken off. -/
theorem length_runFrom {elems : List T} {calls : List (StackCall T)}
    (allowed : Admitted step Allowed elems calls) :
    (runFrom step elems calls).length + (calls.map pops).sum =
      elems.length + (calls.map pushes).sum := by
  induction calls generalizing elems with
  | nil => simp
  | cons c calls ih =>
      have first := length_step allowed.1
      have rest := ih allowed.2
      simp only [runFrom_cons, List.map_cons, List.sum_cons]
      omega

end Lifo

namespace Stack

/-- A call, with what it returns and the stack after it; none where the code panics. -/
def call (s : Stack T) : StackCall T → Option (StackResult T × Stack T)
  | .push x => some (.done, s.push x)
  | .pop => s.pop.map fun popped => (.item popped.1, popped.2)
  | .popByLength n => (s.popByLength n.toNat).map fun popped => (.items popped.1, popped.2)
  | .peek => s.peek.map fun x => (.item x, s)
  | .len => some (.count s.len, s)

def result (s : Stack T) (c : StackCall T) : Option (StackResult T) := (s.call c).map Prod.fst

/-- The stack after a call that does not panic. -/
def step (s : Stack T) (c : StackCall T) : Stack T := ((s.call c).map Prod.snd).getD s

/-- The elements, the newest first. -/
def elems (s : Stack T) : List T := s.data.reverse

/-- Popping takes the newest elements, the newest first. -/
theorem popByLength_of_le {s : Stack T} {n : Nat} (enough : n ≤ s.elems.length) :
    s.popByLength n = some (s.elems.take n, ⟨(s.elems.drop n).reverse⟩) := by
  have parts : s.data = (s.elems.drop n).reverse ++ (s.elems.take n).reverse := by
    rw [← List.reverse_append, List.take_append_drop]
    exact (List.reverse_reverse _).symm
  have popped := popByLength_append (s.elems.drop n).reverse (s.elems.take n).reverse
  rw [← parts, List.length_reverse, List.length_take_of_le enough, List.reverse_reverse] at popped
  exact popped

theorem pop_of_ne_nil {s : Stack T} {x : T} {rest : List T} (found : s.elems = x :: rest) :
    s.pop = some (x, ⟨rest.reverse⟩) := by
  have data : s.data = rest.reverse ++ [x] := by
    rw [← List.reverse_cons, ← found]
    exact (List.reverse_reverse _).symm
  have top := pop_push ⟨rest.reverse⟩ x
  rw [push, ← data] at top
  exact top

/-- Every allowed call but `Peek` does to a stack what it does to the list. -/
theorem call_eq {s : Stack T} {c : StackCall T} (allowed : Lifo.Allowed s.elems c)
    (notPeek : c ≠ .peek) :
    ∃ r, Lifo.result s.elems c = some r ∧
      s.call c = some (r, ⟨(Lifo.step s.elems c).reverse⟩) := by
  cases c with
  | push x =>
      refine ⟨.done, rfl, ?_⟩
      simp [call, push, Lifo.step, elems]
  | pop =>
      obtain ⟨x, rest, found⟩ := List.exists_cons_of_ne_nil allowed
      refine ⟨.item x, by rw [found]; rfl, ?_⟩
      rw [call, pop_of_ne_nil found, found]
      rfl
  | popByLength n =>
      have needed : n ≤ s.elems.length := allowed
      have enough : n.toNat ≤ s.elems.length := by omega
      refine ⟨.items (s.elems.take n.toNat), if_pos enough, ?_⟩
      rw [call, popByLength_of_le enough]
      rfl
  | peek => exact absurd rfl notPeek
  | len =>
      refine ⟨.count s.elems.length, rfl, ?_⟩
      simp [call, len, elems, Lifo.step]

/-- `Peek` answers with the oldest element. -/
theorem call_peek {s : Stack T} : s.call .peek = s.elems.getLast?.map fun x => (.item x, s) := by
  rw [call, peek, elems, List.getLast?_reverse]

/-- The stack and the list stay the same elements. -/
theorem elems_step {s : Stack T} {c : StackCall T} (allowed : Lifo.Allowed s.elems c) :
    (s.step c).elems = Lifo.step s.elems c := by
  by_cases isPeek : c = .peek
  · subst isPeek
    rw [step, call_peek]
    cases s.elems.getLast? <;> rfl
  · obtain ⟨r, -, taken⟩ := call_eq allowed isPeek
    rw [step, taken]
    exact List.reverse_reverse _

/-- The answer of an allowed call is that of the list, unless it is a `Peek` at elements of
which the oldest is not the newest. -/
theorem result_eq_iff {s : Stack T} {c : StackCall T} (allowed : Lifo.Allowed s.elems c) :
    (s.result c = Lifo.result s.elems c ∧ s.result c ≠ none) ↔
      (c = .peek → s.elems.getLast? = s.elems.head?) := by
  by_cases isPeek : c = .peek
  · subst isPeek
    obtain ⟨x, rest, found⟩ := List.exists_cons_of_ne_nil allowed
    rw [result, call_peek, found, Lifo.result, List.head?_cons]
    obtain ⟨oldest, isLast⟩ := Option.isSome_iff_exists.mp
      (List.getLast?_isSome.mpr (List.cons_ne_nil x rest))
    rw [isLast]
    simp
  · obtain ⟨r, answer, taken⟩ := call_eq allowed isPeek
    refine iff_of_true ?_ fun same => absurd same isPeek
    rw [result, taken, answer]
    exact ⟨rfl, nofun⟩

/-- After every allowed sequence the stack holds the elements of the list. -/
theorem elems_runFrom {s : Stack T} {calls : List (StackCall T)}
    (allowed : Admitted Lifo.step Lifo.Allowed s.elems calls) :
    (runFrom step s calls).elems = runFrom Lifo.step s.elems calls := by
  refine allowed.simulation step (fun elems s => s.elems = elems) ?_ rfl
  rintro _ s c rfl admitted
  exact elems_step admitted

/-- In every sequence of calls that asks for no more elements than there are: each call
answers as a last-in first-out list does, and the length is the number of elements put on
minus those taken off, exactly if each `Peek` finds the newest element equal to the oldest. -/
theorem stack_is_lifo_iff (calls : List (StackCall T))
    (allowed : Admitted Lifo.step Lifo.Allowed [] calls) :
    (∀ before c after, calls = before ++ c :: after →
        ((runFrom step new before).result c = Lifo.result (runFrom Lifo.step [] before) c ∧
          (runFrom step new before).result c ≠ none) ∧
        (runFrom step new before).len + (before.map Lifo.pops).sum =
          (before.map Lifo.pushes).sum) ↔
      ∀ before after, calls = before ++ .peek :: after →
        (runFrom step new before).data.head? = (runFrom step new before).data.getLast? := by
  have start : ∀ before c after, calls = before ++ c :: after →
      (runFrom step new before).elems = runFrom Lifo.step [] before ∧
        Lifo.Allowed (runFrom step new before).elems c ∧
        Admitted Lifo.step Lifo.Allowed ([] : List T) before := by
    intro before c after split
    rw [split, admitted_append] at allowed
    have same : (runFrom step new before).elems = runFrom Lifo.step [] before :=
      elems_runFrom allowed.1
    exact ⟨same, same ▸ allowed.2.1, allowed.1⟩
  have counted : ∀ before c after, calls = before ++ c :: after →
      (runFrom step new before).len + (before.map Lifo.pops).sum =
        (before.map Lifo.pushes).sum := by
    intro before c after split
    obtain ⟨same, -, admitted⟩ := start before c after split
    have number := Lifo.length_runFrom admitted
    rw [← same, elems, List.length_reverse, List.length_nil, Nat.zero_add] at number
    exact number
  have ends : ∀ s : Stack T, s.elems.getLast? = s.elems.head? ↔ s.data.head? = s.data.getLast? := by
    intro s
    rw [elems, List.getLast?_reverse, List.head?_reverse]
  constructor
  · intro answers before after split
    obtain ⟨same, allowedHere, -⟩ := start before .peek after split
    have answer := (answers before .peek after split).1
    rw [← same, result_eq_iff allowedHere] at answer
    exact (ends _).mp (answer rfl)
  · intro peeks before c after split
    obtain ⟨same, allowedHere, -⟩ := start before c after split
    refine ⟨?_, counted before c after split⟩
    rw [← same, result_eq_iff allowedHere]
    rintro rfl
    exact (ends _).mpr (peeks before after split)

/-- Three elements, the newest of them equal to the oldest. -/
def sampleCalls : List (StackCall Nat) :=
  [.push 7, .push 8, .push 7, .peek, .pop, .popByLength 2, .len]

theorem stack_is_lifo_iff_three :
    Admitted Lifo.step Lifo.Allowed [] sampleCalls ∧
      ∀ before c after, sampleCalls = before ++ c :: after →
        ((runFrom step new before).result c = Lifo.result (runFrom Lifo.step [] before) c ∧
          (runFrom step new before).result c ≠ none) ∧
        (runFrom step new before).len + (before.map Lifo.pops).sum =
          (before.map Lifo.pushes).sum := by
  refine ⟨by decide, (stack_is_lifo_iff sampleCalls (by decide)).mpr ?_⟩
  intro before after split
  have at_ : sampleCalls[before.length]? = some .peek := by
    rw [split, List.getElem?_append_right (Nat.le_refl _), Nat.sub_self]
    rfl
  have only : ∀ n, sampleCalls[n]? = some .peek → n = 3
    | 0, found | 1, found | 2, found | 4, found | 5, found | 6, found => nomatch found
    | 3, _ => rfl
    | n + 7, found => nomatch found
  have front : before = sampleCalls.take 3 := by
    have taken := congrArg (List.take before.length) split
    rw [List.take_left, only _ at_] at taken
    exact taken.symm
  rw [front]
  rfl

/-- Of two elements `Peek` returns the first, and `Pop` the second. -/
theorem peek_returns_oldest :
    let s := runFrom step new [StackCall.push 1, .push 2]
    s.result .peek = some (.item 1) ∧ Lifo.result s.elems .peek = some (.item 2) ∧
      s.result .pop = some (.item 2) := by
  decide

end Stack

end GoOdin.Tools
