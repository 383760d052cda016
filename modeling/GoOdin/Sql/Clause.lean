import Mathlib.Data.Fintype.EquivFin
import Mathlib.Data.List.Basic

/-!
# Conditions joined by AND and OR

A `WHERE` clause is a list of conditions, each with the word that joins it to what stands
before it. `AND` binds more tightly than `OR`. Read from the left, all that has to be kept is
whether one of the disjuncts that are complete holds, and whether the last one holds so far.

A row is known by the conditions that hold for it. A condition on a missing value is neither
true nor false in SQL; as nothing is negated here, only what is true counts.
-/

namespace Sql

variable {C : Type*}

inductive Connective where
  | and
  | or
  deriving DecidableEq, Repr

/-- Whether a complete disjunct holds, and whether the last one does so far. -/
structure Verdict where
  settled : Bool
  pending : Bool
  deriving DecidableEq, Repr

def Verdict.value (v : Verdict) : Bool := v.settled || v.pending

/-- One more condition. -/
def Verdict.join (holds : C → Bool) (v : Verdict) (part : Connective × C) : Verdict :=
  match part.1 with
  | .and => ⟨v.settled, v.pending && holds part.2⟩
  | .or => ⟨v.settled || v.pending, holds part.2⟩

/-- The word before the first condition is not written. Without a condition every row is
selected. -/
def verdict (holds : C → Bool) : List (Connective × C) → Verdict
  | [] => ⟨false, true⟩
  | (_, first) :: rest => rest.foldl (Verdict.join holds) ⟨false, holds first⟩

/-- The clause selects a row for which these conditions hold. -/
def selects (holds : C → Bool) (clause : List (Connective × C)) : Bool :=
  (verdict holds clause).value

variable {holds : C → Bool}

theorem foldl_join_and (v : Verdict) (conds : List C) :
    (conds.map (Prod.mk Connective.and)).foldl (Verdict.join holds) v =
      ⟨v.settled, v.pending && conds.all holds⟩ := by
  induction conds generalizing v with
  | nil => simp
  | cons c conds ih =>
      rw [List.map_cons, List.foldl_cons, ih]
      simp [Verdict.join, Bool.and_assoc]

theorem foldl_join_or (v : Verdict) (conds : List C) :
    ((conds.map (Prod.mk Connective.or)).foldl (Verdict.join holds) v).value =
      (v.value || conds.any holds) := by
  induction conds generalizing v with
  | nil => simp
  | cons c conds ih =>
      rw [List.map_cons, List.foldl_cons, ih]
      simp [Verdict.join, Verdict.value, Bool.or_assoc]

/-- A clause is continued by an `AND` from where it is. -/
theorem verdict_append_and (clause : List (Connective × C)) (c : C)
    (rest : List (Connective × C)) :
    verdict holds (clause ++ (.and, c) :: rest) =
      rest.foldl (Verdict.join holds) ((verdict holds clause).join holds (.and, c)) := by
  cases clause with
  | nil => simp [verdict, Verdict.join]
  | cons first clause => simp [verdict]

/-- A clause that gets some conjuncts and then some disjuncts. -/
theorem selects_append (clause : List (Connective × C)) {ands ors : List C}
    (started : ands = [] → ors = []) :
    selects holds (clause ++ (ands.map (Prod.mk .and) ++ ors.map (Prod.mk .or))) =
      ((verdict holds clause).settled || ((verdict holds clause).pending && ands.all holds) ||
        ors.any holds) := by
  cases ands with
  | nil =>
      rw [started rfl]
      simp [selects, Verdict.value]
  | cons c ands =>
      rw [selects, List.map_cons, List.cons_append, verdict_append_and, List.foldl_append,
        foldl_join_and, foldl_join_or]
      simp [Verdict.join, Verdict.value, Bool.and_assoc]

/-! ## Clauses that only select less -/

/-- For a row for which all further conditions hold, a disjunct selects it and a conjunct
changes nothing. -/
theorem value_foldl_join (v : Verdict) {parts : List (Connective × C)}
    (all : ∀ part ∈ parts, holds part.2 = true) :
    (parts.foldl (Verdict.join holds) v).value =
      (v.value || parts.any fun part => decide (part.1 = .or)) := by
  induction parts generalizing v with
  | nil => simp
  | cons part parts ih =>
      obtain ⟨here, later⟩ := List.forall_mem_cons.mp all
      obtain ⟨word, c⟩ := part
      rw [List.foldl_cons, ih _ later, List.any_cons]
      cases word <;> simp [Verdict.join, Verdict.value, show holds c = true from here]

/-- Continuing a clause never selects a row that was not selected before, whatever the clause
is, exactly if it is continued by `AND` only. -/
theorem narrows_iff [Infinite C] (parts : List (Connective × C)) :
    (∀ (clause : List (Connective × C)) (holds : C → Bool),
      selects holds (clause ++ parts) = true → selects holds clause = true) ↔
      ∀ part ∈ parts, part.1 = .and := by
  classical
  constructor
  · intro narrows
    by_contra wide
    obtain ⟨part, mem, isOr⟩ : ∃ part ∈ parts, part.1 = .or := by
      push Not at wide
      obtain ⟨part, mem, notAnd⟩ := wide
      refine ⟨part, mem, ?_⟩
      cases word : part.1 with
      | and => exact absurd word notAnd
      | or => rfl
    -- a row for which everything holds but a condition of the clause
    obtain ⟨fresh, unused⟩ := Infinite.exists_notMem_finset (parts.map Prod.snd).toFinset
    have all : ∀ part ∈ parts, decide (part.2 ≠ fresh) = true := by
      intro part mem
      refine decide_eq_true fun same => unused ?_
      rw [List.mem_toFinset, ← same]
      exact List.mem_map_of_mem mem
    have selected := narrows [(.and, fresh)] (fun c => decide (c ≠ fresh)) (by
      show Verdict.value (parts.foldl _ _) = true
      rw [value_foldl_join _ all, Bool.or_eq_true]
      exact .inr (List.any_eq_true.mpr ⟨part, mem, decide_eq_true isOr⟩))
    simp [selects, verdict, Verdict.value] at selected
  · intro ands clause holds selected
    have conjuncts : parts = (parts.map Prod.snd).map (Prod.mk .and) := by
      rw [List.map_map]
      exact (List.map_id parts).symm.trans (List.map_congr_left fun part mem =>
        Prod.ext (ands part mem) rfl)
    have value : selects holds (clause ++ ((parts.map Prod.snd).map (Prod.mk .and) ++
        ([] : List C).map (Prod.mk .or))) = _ := selects_append clause fun _ => rfl
    rw [List.map_nil, List.append_nil, ← conjuncts] at value
    rw [value] at selected
    rw [selects, Verdict.value]
    revert selected
    cases (verdict holds clause).settled <;> cases (verdict holds clause).pending <;> simp

end Sql
