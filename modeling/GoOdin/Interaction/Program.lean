import Mathlib.Data.List.Basic

/-!
# Programs that work through calls on a shared service

A program either returns a result or makes one call and continues with the reply.
The calls are the only places where it touches shared state, so they are exactly
the points at which other executions can intervene. One syntax tree therefore has
two readings: `Program.run` executes it alone, and a pool of executions interleaves
it with others, call by call.

Every call is fallible. `Service.withFaults` lets chosen calls fail without an
effect; which of them fail is data of the run, never decided by the program.
-/

namespace Interaction

variable {C : Type} {A : C → Type} {ε α β σ : Type}

/-- A program over calls `C`, where call `c` answers an `A c` or an error. -/
inductive Program (C : Type) (A : C → Type) (ε α : Type) where
  | ret (result : Except ε α)
  | call (c : C) (next : Except ε (A c) → Program C A ε α)

/-- A service answers one call at a time and may change its state. -/
abbrev Service (C : Type) (A : C → Type) (ε σ : Type) :=
  σ → (c : C) → Except ε (A c) × σ

/-- Calls selected by `fault` fail and leave the state as it was. -/
def Service.withFaults (serve : Service C A ε σ) (fault : C → Option ε) : Service C A ε σ :=
  fun s c =>
    match fault c with
    | some e => (.error e, s)
    | none => serve s c

theorem Service.withFaults_some {serve : Service C A ε σ} {fault : C → Option ε} {c : C} {e : ε}
    (failed : fault c = some e) (s : σ) : serve.withFaults fault s c = (.error e, s) := by
  simp only [withFaults, failed]

theorem Service.withFaults_none {serve : Service C A ε σ} {fault : C → Option ε} {c : C}
    (answered : fault c = none) (s : σ) : serve.withFaults fault s c = serve s c := by
  simp only [withFaults, answered]

/-- The calls fail as a plan has it, which has an entry for each of them. -/
def Service.planned (serve : Service C A ε σ) : Service C A ε (σ × (Nat → Option ε)) :=
  fun s c =>
    match s.2 0 with
    | some e => (.error e, s.1, fun n => s.2 (n + 1))
    | none => ((serve s.1 c).1, (serve s.1 c).2, fun n => s.2 (n + 1))

theorem Service.planned_some {serve : Service C A ε σ} {s : σ × (Nat → Option ε)} {e : ε}
    (failed : s.2 0 = some e) (c : C) :
    serve.planned s c = (.error e, s.1, fun n => s.2 (n + 1)) := by
  simp only [planned, failed]

theorem Service.planned_none {serve : Service C A ε σ} {s : σ × (Nat → Option ε)}
    (answered : s.2 0 = none) (c : C) :
    serve.planned s c = ((serve s.1 c).1, (serve s.1 c).2, fun n => s.2 (n + 1)) := by
  simp only [planned, answered]

namespace Program

/-- Make a call and return early when it fails, as `if err != nil` does. -/
def attempt (c : C) (next : A c → Program C A ε α) : Program C A ε α :=
  .call c fun
    | .error e => .ret (.error e)
    | .ok a => next a

/-- Continue with the outcome of a program, whether it failed or not. -/
def andThen : Program C A ε α → (Except ε α → Program C A ε β) → Program C A ε β
  | .ret result, next => next result
  | .call c cont, next => .call c fun reply => (cont reply).andThen next

/-- The call a program makes next, if it has not returned. -/
def pending : Program C A ε α → Option C
  | .ret _ => none
  | .call c _ => some c

@[simp] theorem pending_ret (result : Except ε α) :
    (.ret result : Program C A ε α).pending = none := rfl

@[simp] theorem pending_call (c : C) (next : Except ε (A c) → Program C A ε α) :
    (.call c next : Program C A ε α).pending = some c := rfl

@[simp] theorem pending_attempt (c : C) (next : A c → Program C A ε α) :
    (attempt c next).pending = some c := rfl

/-- The program has not returned, and its next call has this property. -/
def Awaits (q : C → Prop) (p : Program C A ε α) : Prop :=
  ∃ c ∈ p.pending, q c

instance (q : C → Prop) [DecidablePred q] (p : Program C A ε α) : Decidable (p.Awaits q) :=
  inferInstanceAs (Decidable (∃ c ∈ p.pending, q c))

/-- The program has returned without an error. -/
def succeeded : Program C A ε α → Bool
  | .ret (.ok _) => true
  | _ => false

/-- Every call the program can ever make has this property, whatever the replies. -/
def EveryCall (q : C → Prop) : Program C A ε α → Prop
  | .ret _ => True
  | .call c next => q c ∧ ∀ reply, (next reply).EveryCall q

theorem EveryCall.ret {q : C → Prop} (result : Except ε α) :
    (.ret result : Program C A ε α).EveryCall q := trivial

theorem EveryCall.attempt {q : C → Prop} {c : C} {next : A c → Program C A ε α} (here : q c)
    (later : ∀ a, (next a).EveryCall q) : (Program.attempt c next).EveryCall q := by
  refine ⟨here, fun reply => ?_⟩
  cases reply with
  | error e => exact .ret _
  | ok a => exact later a

theorem EveryCall.andThen {q : C → Prop} {p : Program C A ε α}
    {next : Except ε α → Program C A ε β} (first : p.EveryCall q)
    (rest : ∀ result, (next result).EveryCall q) : (p.andThen next).EveryCall q := by
  induction p with
  | ret result => exact rest result
  | call c cont ih => exact ⟨first.1, fun reply => ih reply (first.2 reply)⟩

/-- Every call the program can ever make has this property, together with what follows it. -/
def Throughout (q : (c : C) → (Except ε (A c) → Program C A ε α) → Prop) :
    Program C A ε α → Prop
  | .ret _ => True
  | .call c next => q c next ∧ ∀ reply, (next reply).Throughout q

theorem Throughout.attempt {q : (c : C) → (Except ε (A c) → Program C A ε α) → Prop} {c : C}
    {next : A c → Program C A ε α} (here : ∀ rest, q c rest)
    (later : ∀ a, (next a).Throughout q) : (Program.attempt c next).Throughout q := by
  refine ⟨here _, fun reply => ?_⟩
  cases reply with
  | error e => trivial
  | ok a => exact later a

/-- Execute a program alone, without any other execution in between. -/
def run (serve : Service C A ε σ) : Program C A ε α → σ → Except ε α × σ
  | .ret result, s => (result, s)
  | .call c next, s => (next (serve s c).1).run serve (serve s c).2

variable {serve : Service C A ε σ}

@[simp] theorem run_ret (result : Except ε α) (s : σ) :
    (.ret result : Program C A ε α).run serve s = (result, s) := rfl

theorem run_call (c : C) (next : Except ε (A c) → Program C A ε α) (s : σ) :
    (.call c next : Program C A ε α).run serve s =
      (next (serve s c).1).run serve (serve s c).2 := rfl

/-- A failed attempt ends the program in the state the call left behind. -/
theorem run_attempt_error {c : C} {next : A c → Program C A ε α} {s t : σ} {e : ε}
    (reply : serve s c = (.error e, t)) : (attempt c next).run serve s = (.error e, t) := by
  simp only [attempt, run_call, reply, run_ret]

theorem run_attempt_ok {c : C} {next : A c → Program C A ε α} {s t : σ} {a : A c}
    (reply : serve s c = (.ok a, t)) :
    (attempt c next).run serve s = (next a).run serve t := by
  simp only [attempt, run_call, reply]

theorem run_andThen (p : Program C A ε α) (next : Except ε α → Program C A ε β) (s : σ) :
    (p.andThen next).run serve s = (next (p.run serve s).1).run serve (p.run serve s).2 := by
  induction p generalizing s with
  | ret result => rfl
  | call c cont ih => exact ih (serve s c).1 (serve s c).2

end Program

end Interaction
