import GoOdin.Interaction.Program
import GoOdin.Interaction.Run
import Mathlib.Logic.Function.Basic

/-!
# Interleaved executions on one shared service

A pool holds one residual program per execution and the state they share. A step
lets one execution make its next call; the reply and the new shared state are
those of the service, and all other executions keep their local data. A schedule
is any list of execution names, so every interleaving of the calls is a run.

The pool also records the calls served so far. The record is a ghost: no program
reads it.

Invariants of a pool are stated over local states. `Tracks` says once what a step
can do from each local state, and `Pool.invariant` is the induction over schedules.
-/

namespace Interaction

/-- One served call, with the execution that made it and the reply it got. -/
structure Served (ι C : Type) (A : C → Type) (ε : Type) where
  thread : ι
  request : C
  reply : Except ε (A request)

/-- Concurrent executions named by `ι`, any number of them. -/
structure Pool (ι C : Type) (A : C → Type) (ε α σ : Type) where
  store : σ
  threads : ι → Program C A ε α
  trace : List (Served ι C A ε)

namespace Pool

variable {ι C : Type} {A : C → Type} {ε α σ : Type} [DecidableEq ι]

/-- No execution has made a call yet. -/
def start (store : σ) (threads : ι → Program C A ε α) : Pool ι C A ε α σ :=
  ⟨store, threads, []⟩

/-- Let execution `i` make its next call. A returned execution does not move. -/
def step (serve : Service C A ε σ) (p : Pool ι C A ε α σ) (i : ι) : Pool ι C A ε α σ :=
  match p.threads i with
  | .ret _ => p
  | .call c next =>
      { store := (serve p.store c).2
        threads := Function.update p.threads i (next (serve p.store c).1)
        trace := p.trace ++ [⟨i, c, (serve p.store c).1⟩] }

variable {serve : Service C A ε σ} {p : Pool ι C A ε α σ} {i : ι}

theorem step_of_ret {result : Except ε α} (returned : p.threads i = .ret result) :
    p.step serve i = p := by
  simp only [step, returned]

theorem step_of_call {c : C} {next : Except ε (A c) → Program C A ε α}
    (current : p.threads i = .call c next) :
    p.step serve i =
      { store := (serve p.store c).2
        threads := Function.update p.threads i (next (serve p.store c).1)
        trace := p.trace ++ [⟨i, c, (serve p.store c).1⟩] } := by
  simp only [step, current]

/-- The execution that moves goes on with the reply, and its call is recorded. -/
theorem step_self_of_call {c : C} {next : Except ε (A c) → Program C A ε α}
    (current : p.threads i = .call c next) :
    (p.step serve i).threads i = next (serve p.store c).1 ∧
      (p.step serve i).trace = p.trace ++ [⟨i, c, (serve p.store c).1⟩] := by
  rw [step_of_call current]
  exact ⟨Function.update_self _ _ _, rfl⟩

/-- A step changes no local data but that of the execution that moves. -/
theorem step_threads_of_ne {j : ι} (other : j ≠ i) :
    (p.step serve i).threads j = p.threads j := by
  cases current : p.threads i with
  | ret result => rw [step_of_ret current]
  | call c next =>
      rw [step_of_call current]
      exact Function.update_of_ne other _ _

/-- A returned execution stays as it is, whoever moves. -/
theorem step_threads_of_ret {j : ι} {result : Except ε α} (returned : p.threads j = .ret result) :
    (p.step serve i).threads j = .ret result := by
  by_cases same : j = i
  · rw [step_of_ret (same ▸ returned), returned]
  · rw [step_threads_of_ne same, returned]

/-- What every call keeps between the shared state and the record of calls holds after
every schedule, whatever the programs. -/
theorem record_invariant {inv : σ → List (Served ι C A ε) → Prop}
    (preserved : ∀ s trace i c, inv s trace →
      inv (serve s c).2 (trace ++ [⟨i, c, (serve s c).1⟩]))
    {start : Pool ι C A ε α σ} (initial : inv start.store start.trace) (schedule : List ι) :
    inv (runFrom (Pool.step serve) start schedule).store
      (runFrom (Pool.step serve) start schedule).trace := by
  induction schedule generalizing start with
  | nil => exact initial
  | cons i schedule ih =>
      apply ih
      cases current : start.threads i with
      | ret result => rwa [step_of_ret current]
      | call c next =>
          rw [step_of_call current]
          exact preserved start.store start.trace i c initial

end Pool

section LocalStates

variable {ι C : Type} {A : C → Type} {ε α σ L : Type}

/-- `program` reads a local state as a residual program, and every step of such a
program is a move: `moves s l l' t` goes from `l` and the shared state `s` to `l'`
and `t`. -/
def Tracks (serve : Service C A ε σ) (program : L → Program C A ε α)
    (moves : σ → L → L → σ → Prop) : Prop :=
  ∀ s l c next, program l = .call c next →
    ∃ l', moves s l l' (serve s c).2 ∧ program l' = next (serve s c).1

/-- A local state that attempts a call has a move for each failure and for each
answer. -/
theorem tracks_attempt {serve : Service C A ε σ} {program : L → Program C A ε α}
    {moves : σ → L → L → σ → Prop} {s : σ} {l : L} {c : C} {next : A c → Program C A ε α}
    (failed : ∀ e t, serve s c = (.error e, t) →
      ∃ l', moves s l l' t ∧ program l' = .ret (.error e))
    (answered : ∀ a t, serve s c = (.ok a, t) → ∃ l', moves s l l' t ∧ program l' = next a)
    {c' : C} {next' : Except ε (A c') → Program C A ε α}
    (current : Program.attempt c next = .call c' next') :
    ∃ l', moves s l l' (serve s c').2 ∧ program l' = next' (serve s c').1 := by
  cases current
  cases reply : serve s c with
  | mk outcome t =>
      cases outcome with
      | error e => exact failed e t reply
      | ok a => exact answered a t reply

/-- A local state that may stop at any call moves on as a plan of failures has it. -/
theorem Tracks.planned {serve : Service C A ε σ} {program : L → Program C A ε α}
    {moves : σ → L → L → σ → Prop} {stops : L → L → Prop} (tracks : Tracks serve program moves)
    (stopped : ∀ l c next, program l = .call c next →
      ∀ e, ∃ l', stops l l' ∧ program l' = next (.error e)) :
    Tracks serve.planned program fun s l l' t => moves s.1 l l' t.1 ∨ stops l l' ∧ t.1 = s.1 := by
  intro s l c next current
  cases planned : s.2 0 with
  | some e =>
      obtain ⟨l', stop, continued⟩ := stopped l c next current e
      rw [Service.planned_some planned]
      exact ⟨l', .inr ⟨stop, rfl⟩, continued⟩
  | none =>
      obtain ⟨l', move, continued⟩ := tracks s.1 l c next current
      rw [Service.planned_none planned]
      exact ⟨l', .inl move, continued⟩

/-- Each execution is at its local state. -/
def Pool.At (p : Pool ι C A ε α σ) (program : ι → L → Program C A ε α) (loc : ι → L) : Prop :=
  ∀ i, p.threads i = program i (loc i)

/-- Execution `i` made one of the moves of its local state, by a call that is now on
record. -/
structure Pool.Moved (serve : Service C A ε σ) (program : ι → L → Program C A ε α)
    (moves : ι → σ → L → L → σ → Prop) (p : Pool ι C A ε α σ) (loc : ι → L) (i : ι) (l' : L)
    (p' : Pool ι C A ε α σ) : Prop where
  move : moves i p.store (loc i) l' p'.store
  served : ∃ c next, program i (loc i) = .call c next ∧
    p'.trace = p.trace ++ [⟨i, c, (serve p.store c).1⟩]

section Invariant

variable [DecidableEq ι] {serve : Service C A ε σ} {program : ι → L → Program C A ε α}
  {moves : ι → σ → L → L → σ → Prop}

/-- A step either finds its execution returned, or makes one of the moves of its
local state; the other executions stay where they are. -/
theorem Pool.step_at {p : Pool ι C A ε α σ} {loc : ι → L}
    (tracks : ∀ i, Tracks serve (program i) (moves i)) (located : p.At program loc) (i : ι) :
    p.step serve i = p ∨
      ∃ l', p.Moved serve program moves loc i l' (p.step serve i) ∧
        (p.step serve i).At program (Function.update loc i l') := by
  cases current : p.threads i with
  | ret result => exact .inl (step_of_ret current)
  | call c next =>
      have here : program i (loc i) = .call c next := (located i).symm.trans current
      obtain ⟨l', move, continued⟩ := tracks i p.store (loc i) c next here
      refine .inr ⟨l', ⟨?_, c, next, here, ?_⟩, fun j => ?_⟩
      · rw [step_of_call current]
        exact move
      · rw [step_of_call current]
      · by_cases same : j = i
        · subst same
          rw [step_of_call current, Function.update_self, continued]
          exact Function.update_self _ _ _
        · rw [step_threads_of_ne same, Function.update_of_ne same, located j]

/-- An invariant over local states that every allowed move keeps holds, at some local
states, after every admitted interleaving. -/
theorem Pool.invariant {allowed : Pool ι C A ε α σ → ι → Prop}
    (inv : Pool ι C A ε α σ → (ι → L) → Prop)
    (tracks : ∀ i, Tracks serve (program i) (moves i))
    (preserved : ∀ p loc i l', p.At program loc → inv p loc → allowed p i →
      p.Moved serve program moves loc i l' (p.step serve i) →
      (p.step serve i).At program (Function.update loc i l') →
      inv (p.step serve i) (Function.update loc i l'))
    {start : Pool ι C A ε α σ} {schedule : List ι}
    (run : Admitted (Pool.step serve) allowed start schedule) {loc : ι → L}
    (located : start.At program loc) (initial : inv start loc) :
    ∃ loc', (runFrom (Pool.step serve) start schedule).At program loc' ∧
      inv (runFrom (Pool.step serve) start schedule) loc' := by
  induction schedule generalizing start loc with
  | nil => exact ⟨loc, located, initial⟩
  | cons i schedule ih =>
      rcases step_at tracks located i with same | ⟨l', moved, after⟩
      · have rest := run.2
        rw [same] at rest
        rw [runFrom_cons, same]
        exact ih rest located initial
      · exact ih run.2 after (preserved start loc i l' located initial run.1 moved after)

end Invariant

end LocalStates

end Interaction
