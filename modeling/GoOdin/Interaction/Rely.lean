import GoOdin.Interaction.Program
import Mathlib.Data.Set.Lattice
import Mathlib.Order.CompletePartialOrder

/-!
# Programs that rely on what has happened

Executions that interleave leave facts behind that no later call takes back: what was
published stays published. A world is what has come to be known, and worlds only grow. A
program keeps to its terms if every call it makes meets its guarantee in the world of that
moment, as long as every answer it gets is one it may rely on in the world after the call.
Errors carry nothing to rely on.

Since nothing else is asked of the other executions, a program that keeps to its terms does
so in every interleaving.
-/

namespace Interaction

variable {W C : Type} {A : C → Type} {ε α β : Type} [Preorder W]

structure Terms (W C : Type) (A : C → Type) where
  /-- What a program may ask for. -/
  guarantee : W → C → Prop
  /-- What an answer may be taken to mean. -/
  rely : W → (c : C) → A c → Prop

namespace Program

variable {terms : Terms W C A} {w w' : W}

def Keeps (terms : Terms W C A) : Program C A ε α → W → Prop
  | .ret _, _ => True
  | .call c next, w => ∀ now, w ≤ now → terms.guarantee now c ∧
      ∀ after, now ≤ after → ∀ reply, (∀ a, reply = .ok a → terms.rely after c a) →
        (next reply).Keeps terms after

theorem Keeps.mono {p : Program C A ε α} (keeps : p.Keeps terms w) (grown : w ≤ w') :
    p.Keeps terms w' := by
  cases p with
  | ret result => trivial
  | call c next => exact fun now later => keeps now (le_trans grown later)

theorem Keeps.guarantee {c : C} {next : Except ε (A c) → Program C A ε α}
    (keeps : (Program.call c next).Keeps terms w) : terms.guarantee w c :=
  (keeps w (le_refl w)).1

theorem Keeps.reply {c : C} {next : Except ε (A c) → Program C A ε α}
    (keeps : (Program.call c next).Keeps terms w) (grown : w ≤ w') {reply : Except ε (A c)}
    (relied : ∀ a, reply = .ok a → terms.rely w' c a) : (next reply).Keeps terms w' :=
  (keeps w (le_refl w)).2 w' grown reply relied

theorem Keeps.ret (result : Except ε α) : (.ret result : Program C A ε α).Keeps terms w := trivial

theorem Keeps.attempt {c : C} {next : A c → Program C A ε α}
    (here : ∀ now, w ≤ now → terms.guarantee now c)
    (later : ∀ after, w ≤ after → ∀ a, terms.rely after c a → (next a).Keeps terms after) :
    (Program.attempt c next).Keeps terms w := by
  refine fun now grown => ⟨here now grown, fun after further reply relied => ?_⟩
  cases reply with
  | error e => exact .ret _
  | ok a => exact later after (le_trans grown further) a (relied a rfl)

theorem Keeps.andThen {p : Program C A ε α} {next : Except ε α → Program C A ε β}
    (first : p.Keeps terms w)
    (rest : ∀ after, w ≤ after → ∀ result, (next result).Keeps terms after) :
    (p.andThen next).Keeps terms w := by
  induction p generalizing w with
  | ret result => exact rest w (le_refl w) result
  | call c cont ih =>
      refine fun now grown => ⟨(first now grown).1, fun after further reply relied => ?_⟩
      refine ih reply ((first now grown).2 after further reply relied) fun later beyond => ?_
      exact rest later (le_trans grown (le_trans further beyond))

end Program

/-! ## Logs whose entries had a reason -/

section Reasons

variable {E : Type} {just : Set E → E → Prop} {log new : List E}

/-- What stands in a log. -/
def entries (log : List E) : Set E := {e | e ∈ log}

theorem entries_append_left (log new : List E) : entries log ≤ entries (log ++ new) :=
  fun _ mem => List.mem_append_left new mem

/-- Every entry had its reason in those before it. -/
def Reasoned (just : Set E → E → Prop) (log : List E) : Prop :=
  ∀ before e after, log = before ++ e :: after → just (entries before) e

theorem reasoned_nil : Reasoned just [] := by
  intro before e after empty
  exact absurd empty (List.append_ne_nil_of_right_ne_nil _ (List.cons_ne_nil _ _)).symm

theorem Reasoned.concat {e : E} (reasoned : Reasoned just log) (here : just (entries log) e) :
    Reasoned just (log ++ [e]) := by
  intro before x after split
  obtain rfl | ⟨shorter, last, rfl⟩ := List.eq_nil_or_concat after
  · obtain ⟨rfl, same⟩ := List.append_inj' split rfl
    cases same
    exact here
  · rw [List.concat_eq_append, ← List.cons_append, ← List.append_assoc] at split
    exact reasoned before x shorter (List.append_inj' split rfl).1

/-- Reasons are not lost as the log grows, so entries may be added together. -/
theorem Reasoned.append (mono : ∀ w w', w ≤ w' → ∀ e, just w e → just w' e)
    (reasoned : Reasoned just log) (here : ∀ e ∈ new, just (entries log) e) :
    Reasoned just (log ++ new) := by
  induction new generalizing log with
  | nil => rwa [List.append_nil]
  | cons e new ih =>
      rw [List.forall_mem_cons] at here
      rw [List.append_cons]
      refine ih (reasoned.concat here.1) fun x mem => ?_
      exact mono _ _ (entries_append_left log [e]) x (here.2 x mem)

end Reasons

end Interaction
