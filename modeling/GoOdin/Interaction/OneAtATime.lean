import GoOdin.Interaction.Program
import GoOdin.Interaction.Run
import Mathlib.Logic.Function.Basic

/-!
# A service that one program uses at a time

Several components with a service each can work side by side. If every component starts a
program only when its last one has returned, its service passes through the same states as
if each program had been executed alone, whatever the other components do in between.

`Owes` carries this through an interleaved run: the store a component has still to reach is
the one that its programs, executed one after another, end in.
-/

namespace Interaction

variable {C : Type} {A : C → Type} {ε α σ : Type} {ι : Type*} {E : Type*}

/-- Every program has returned. -/
def AllReturned (threads : ι → Option (Program C A ε α)) : Prop :=
  ∀ i, ∀ p ∈ threads i, p.pending = none

/-- At most one of the programs has calls left to make, and these take the store `s` to
`t`. -/
inductive Owes (serve : Service C A ε σ) (threads : ι → Option (Program C A ε α)) (s t : σ) :
    Prop where
  | nothing (returned : AllReturned threads) (settled : s = t)
  | rest (i : ι) (p : Program C A ε α) (here : threads i = some p)
      (settles : (p.run serve s).2 = t) (others : ∀ j, j ≠ i → ∀ q ∈ threads j, q.pending = none)

namespace Owes

variable {serve : Service C A ε σ} {threads : ι → Option (Program C A ε α)} {s t : σ}

theorem settled (owes : Owes serve threads s t) (returned : AllReturned threads) : s = t := by
  obtain ⟨-, settled⟩ | ⟨i, p, here, settles, -⟩ := owes
  · exact settled
  · cases p with
    | ret result => exact settles
    | call c next => exact absurd (returned i _ here) (by simp)

variable [DecidableEq ι]

/-- A program that starts when all others have returned owes what it does alone. -/
theorem start (returned : AllReturned threads) (i : ι) (p : Program C A ε α) (s : σ) :
    Owes serve (Function.update threads i (some p)) s (p.run serve s).2 := by
  refine .rest i p (Function.update_self ..) rfl fun j other q mem => ?_
  rw [Function.update_of_ne other] at mem
  exact returned j q mem

/-- A call brings the store nearer to the one that is owed. -/
theorem call (owes : Owes serve threads s t) {i : ι} {c : C}
    {next : Except ε (A c) → Program C A ε α} (here : threads i = some (.call c next)) :
    Owes serve (Function.update threads i (some (next (serve s c).1))) (serve s c).2 t := by
  obtain ⟨returned, -⟩ | ⟨k, p, found, settles, others⟩ := owes
  · exact absurd (returned i _ here) (by simp)
  · -- The program that moves is the one that has calls left.
    obtain rfl : i = k := by
      by_contra other
      exact absurd (others i other _ here) (by simp)
    obtain rfl : .call c next = p := Option.some.inj (here.symm.trans found)
    refine .rest i _ (Function.update_self ..) settles fun j other q mem => ?_
    rw [Function.update_of_ne other] at mem
    exact others j other q mem

end Owes

/-- The programs of one component among the executions of all of them. -/
def threadsOf (program : E → Option (Program C A ε α)) (running : List E) :
    Nat → Option (Program C A ε α) :=
  fun i => running[i]?.bind program

variable {program : E → Option (Program C A ε α)} {running : List E}

theorem allReturned_threadsOf (returned : ∀ e ∈ running, ∀ p ∈ program e, p.pending = none) :
    AllReturned (threadsOf program running) := by
  intro i p mem
  obtain ⟨e, found, here⟩ := Option.bind_eq_some_iff.mp mem
  exact returned e (List.mem_of_getElem? found) p here

theorem threadsOf_concat (e : E) :
    threadsOf program (running ++ [e]) =
      Function.update (threadsOf program running) running.length (program e) := by
  funext i
  by_cases new : i = running.length
  · rw [new, Function.update_self, threadsOf, List.getElem?_concat_length]
    rfl
  · rw [Function.update_of_ne new, threadsOf, threadsOf, List.getElem?_append]
    split
    · rfl
    · rw [List.getElem?_eq_none (by simp; omega), List.getElem?_eq_none (by omega)]

theorem threadsOf_set {i : Nat} {old : E} (found : running[i]? = some old) (e : E) :
    threadsOf program (running.set i e) =
      Function.update (threadsOf program running) i (program e) := by
  have bound : i < running.length := (List.getElem?_eq_some_iff.mp found).1
  funext j
  by_cases same : j = i
  · rw [same, Function.update_self, threadsOf, List.getElem?_set_self bound]
    rfl
  · rw [Function.update_of_ne same, threadsOf, List.getElem?_set_ne (Ne.symm same)]
    rfl

/-- The executions of the other components do not matter. -/
theorem threadsOf_concat_none {e : E} (other : program e = none) :
    threadsOf program (running ++ [e]) = threadsOf program running := by
  rw [threadsOf_concat, other, Function.update_eq_self_iff, threadsOf,
    List.getElem?_eq_none (Nat.le_refl _)]
  rfl

theorem threadsOf_set_none {i : Nat} {old e : E} (found : running[i]? = some old)
    (before : program old = none) (after : program e = none) :
    threadsOf program (running.set i e) = threadsOf program running := by
  rw [threadsOf_set found, after, Function.update_eq_self_iff, threadsOf, found]
  exact before.symm

end Interaction
