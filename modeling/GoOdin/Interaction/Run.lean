import Mathlib.Data.List.Induction

/-!
# Finite runs of a labelled step function

A run is a list of labels fed to one step function from left to right. The same
definition serves a scheduler, whose labels name the execution that moves, and a
message queue, whose labels are the deliveries. Nothing is assumed about order,
repetition or fairness, so a statement about every run covers every one of them.

`Admitted` records that each step was taken in a state which allows it. The
condition looks at the state just before the step and never at later states.
-/

namespace Interaction

variable {σ ι : Type*} {step : σ → ι → σ}

/-- The state reached by taking the steps of `labels` in order. -/
def runFrom (step : σ → ι → σ) (start : σ) (labels : List ι) : σ :=
  labels.foldl step start

@[simp] theorem runFrom_nil (start : σ) : runFrom step start [] = start := rfl

@[simp] theorem runFrom_cons (start : σ) (label : ι) (labels : List ι) :
    runFrom step start (label :: labels) = runFrom step (step start label) labels := rfl

theorem runFrom_append (start : σ) (first second : List ι) :
    runFrom step start (first ++ second) = runFrom step (runFrom step start first) second :=
  List.foldl_append

/-- The last step of a run acts on the state its prefix reached. -/
theorem runFrom_concat (start : σ) (labels : List ι) (label : ι) :
    runFrom step start (labels ++ [label]) = step (runFrom step start labels) label := by
  rw [runFrom_append]
  rfl

/-- Every step of the run starts in a state in which its label is allowed. -/
def Admitted (step : σ → ι → σ) (allowed : σ → ι → Prop) : σ → List ι → Prop
  | _, [] => True
  | start, label :: labels =>
      allowed start label ∧ Admitted step allowed (step start label) labels

instance Admitted.decidable {allowed : σ → ι → Prop} [∀ s label, Decidable (allowed s label)] :
    ∀ start labels, Decidable (Admitted step allowed start labels)
  | _, [] => .isTrue trivial
  | start, label :: labels =>
      @instDecidableAnd _ _ _ (Admitted.decidable (step start label) labels)

/-- A condition on the labels alone does not depend on the states passed. -/
theorem admitted_of_forall {allowed : ι → Prop} {start : σ} {labels : List ι}
    (all : ∀ label ∈ labels, allowed label) :
    Admitted step (fun _ => allowed) start labels := by
  induction labels generalizing start with
  | nil => trivial
  | cons label labels ih =>
      rw [List.forall_mem_cons] at all
      exact ⟨all.1, ih all.2⟩

/-- Two conditions met by every step are met together. -/
theorem Admitted.and {allowed allowed' : σ → ι → Prop} {start : σ} {labels : List ι}
    (run : Admitted step allowed start labels) (run' : Admitted step allowed' start labels) :
    Admitted step (fun s label => allowed s label ∧ allowed' s label) start labels := by
  induction labels generalizing start with
  | nil => trivial
  | cons label labels ih => exact ⟨⟨run.1, run'.1⟩, ih run.2 run'.2⟩

/-- An invariant may also speak of the labels so far. -/
theorem runFrom_invariant {inv : σ → List ι → Prop}
    (preserved : ∀ s past label, inv s past → inv (step s label) (past ++ [label]))
    {start : σ} (initial : inv start []) (labels : List ι) :
    inv (runFrom step start labels) labels := by
  induction labels using List.reverseRecOn with
  | nil => exact initial
  | append_singleton labels label ih =>
      rw [runFrom_concat]
      exact preserved _ labels label ih

/-- An invariant kept by the allowed steps holds at the end of an admitted run. -/
theorem Admitted.invariant {allowed : σ → ι → Prop} {inv : σ → Prop}
    (preserved : ∀ s label, inv s → allowed s label → inv (step s label))
    {start : σ} {labels : List ι} (run : Admitted step allowed start labels)
    (initial : inv start) : inv (runFrom step start labels) := by
  induction labels generalizing start with
  | nil => exact initial
  | cons label labels ih =>
      exact ih run.2 (preserved start label initial run.1)

/-- Two machines fed the same labels stay related when the allowed steps keep the
relation. The second machine is usually what the first one is for. -/
theorem Admitted.simulation {τ : Type*} {allowed : σ → ι → Prop} {start : σ} {labels : List ι}
    (run : Admitted step allowed start labels) (abstractStep : τ → ι → τ) (rel : σ → τ → Prop)
    (preserved : ∀ s t label, rel s t → allowed s label →
      rel (step s label) (abstractStep t label)) {abstract : τ}
    (initial : rel start abstract) :
    rel (runFrom step start labels) (runFrom abstractStep abstract labels) := by
  induction labels generalizing start abstract with
  | nil => exact initial
  | cons label labels ih =>
      exact ih run.2 (preserved start abstract label initial run.1)

/-- Admission of a whole run is admission of both of its parts. -/
theorem admitted_append {allowed : σ → ι → Prop} {start : σ} {first second : List ι} :
    Admitted step allowed start (first ++ second) ↔
      Admitted step allowed start first ∧
        Admitted step allowed (runFrom step start first) second := by
  induction first generalizing start with
  | nil => simp [Admitted]
  | cons label labels ih =>
      simp only [List.cons_append, Admitted, ih, runFrom_cons, and_assoc]

/-- The steps of a run, each with the state it is taken in. -/
def transitions (step : σ → ι → σ) : σ → List ι → List (σ × ι)
  | _, [] => []
  | start, label :: labels => (start, label) :: transitions step (step start label) labels

@[simp] theorem transitions_nil (start : σ) : transitions step start [] = [] := rfl

@[simp] theorem transitions_cons (start : σ) (label : ι) (labels : List ι) :
    transitions step start (label :: labels) =
      (start, label) :: transitions step (step start label) labels := rfl

theorem transitions_append (start : σ) (first second : List ι) :
    transitions step start (first ++ second) =
      transitions step start first ++ transitions step (runFrom step start first) second := by
  induction first generalizing start with
  | nil => rfl
  | cons label labels ih =>
      rw [List.cons_append, transitions_cons, ih, transitions_cons]
      rfl

/-- An invariant may also speak of the steps taken so far. -/
theorem Admitted.invariant_transitions {allowed : σ → ι → Prop} {inv : σ → List (σ × ι) → Prop}
    (preserved : ∀ s past label, inv s past → allowed s label →
      inv (step s label) (past ++ [(s, label)]))
    {start : σ} {labels : List ι} (run : Admitted step allowed start labels)
    (initial : inv start []) :
    inv (runFrom step start labels) (transitions step start labels) := by
  induction labels using List.reverseRecOn with
  | nil => exact initial
  | append_singleton labels label ih =>
      obtain ⟨before, here, -⟩ := admitted_append.mp run
      rw [runFrom_concat, transitions_append]
      exact preserved _ _ label (ih before) here

/-- Admission is a condition on each step of the run. -/
theorem admitted_iff_forall_transitions {allowed : σ → ι → Prop} {start : σ} {labels : List ι} :
    Admitted step allowed start labels ↔
      ∀ taken ∈ transitions step start labels, allowed taken.1 taken.2 := by
  induction labels generalizing start with
  | nil => simp [Admitted]
  | cons label labels ih => simp [Admitted, ih]

/-- Under an invariant of the allowed steps, equivalent conditions admit the same runs. -/
theorem admitted_congr {allowed allowed' : σ → ι → Prop} {inv : σ → Prop}
    (preserved : ∀ s label, inv s → allowed s label → inv (step s label))
    (same : ∀ s label, inv s → (allowed s label ↔ allowed' s label))
    {start : σ} (initial : inv start) (labels : List ι) :
    Admitted step allowed start labels ↔ Admitted step allowed' start labels := by
  induction labels generalizing start with
  | nil => exact Iff.rfl
  | cons label labels ih =>
      refine (and_congr_right fun allowedHere => ?_).trans
        (and_congr_left fun _ => same start label initial)
      exact ih (preserved start label initial allowedHere)

/-- When the allowed steps keep an invariant and every other step leaves the safe states,
a run is admitted exactly if all states on its way are safe. -/
theorem admitted_iff_safe {allowed : σ → ι → Prop} {inv safe : σ → Prop}
    (sound : ∀ s, inv s → safe s)
    (preserved : ∀ s label, inv s → allowed s label → inv (step s label))
    (broken : ∀ s label, inv s → ¬ allowed s label → ¬ safe (step s label))
    {start : σ} (initial : inv start) (labels : List ι) :
    Admitted step allowed start labels ↔
      ∀ before, before <+: labels → safe (runFrom step start before) := by
  constructor
  · rintro run before ⟨after, rfl⟩
    exact sound _ ((admitted_append.mp run).1.invariant preserved initial)
  · intro safe
    induction labels generalizing start with
    | nil => trivial
    | cons label labels ih =>
        have allowedHere : allowed start label := by
          by_contra refused
          exact broken start label initial refused (safe [label] ⟨labels, rfl⟩)
        refine ⟨allowedHere, ih (preserved start label initial allowedHere) ?_⟩
        intro before isPrefix
        exact safe (label :: before) ((List.prefix_cons_inj label).mpr isPrefix)

/-- A property of histories that fails at the start and holds in the end becomes true
at some step. -/
theorem exists_turning_point {P : List ι → Prop} (start : ¬ P []) {labels : List ι}
    (holds : P labels) :
    ∃ before label after, labels = before ++ label :: after ∧ ¬ P before ∧
      P (before ++ [label]) := by
  induction labels using List.reverseRecOn with
  | nil => exact absurd holds start
  | append_singleton labels last ih =>
      by_cases earlier : P labels
      · obtain ⟨before, label, after, split, notYet, now⟩ := ih earlier
        refine ⟨before, label, after ++ [last], ?_, notYet, now⟩
        rw [split, List.append_assoc, List.cons_append]
      · exact ⟨labels, last, [], rfl, earlier, holds⟩

end Interaction
