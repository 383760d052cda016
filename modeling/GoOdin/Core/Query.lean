import GoOdin.Interaction.Run
import Mathlib.Data.List.Basic

/-!
# `withQuery`, the pipeline around a query handler

`BeforeQueryFunc` and `AfterQueryFunc` run the hook they are given, keep its error, and store
the hook; `Execute` runs the stored hooks again, around `Handle`, and drops their errors. A
hook therefore runs when it is set and once more when the query is executed, the after hook
also before the query it should follow.

A hook is known by a name; what a hook, `Validate` or `Handle` returns is an input of the call
that runs it, so that a hook may return something else each time.
-/

namespace GoOdin.Core

open Interaction

variable {H E Result : Type}

/-- A function that the pipeline has run, with the error it returned. -/
inductive QueryEvent (H E : Type) where
  | before (hook : H) (err : Option E)
  | after (hook : H) (err : Option E)
  | validated (err : Option E)
  | handled (err : Option E)

namespace QueryEvent

def err : QueryEvent H E → Option E
  | .before _ err => err
  | .after _ err => err
  | .validated err => err
  | .handled err => err

def Failed (e : QueryEvent H E) : Prop := e.err ≠ none

/-- `Validate` or a before hook. -/
def isCheck : QueryEvent H E → Bool
  | .before _ _ => true
  | .validated _ => true
  | .after _ _ => false
  | .handled _ => false

def isHandled : QueryEvent H E → Bool
  | .handled _ => true
  | _ => false

def isBefore [DecidableEq H] (hook : H) : QueryEvent H E → Bool
  | .before hook' _ => hook' = hook
  | _ => false

def isAfter [DecidableEq H] (hook : H) : QueryEvent H E → Bool
  | .after hook' _ => hook' = hook
  | _ => false

end QueryEvent

/-- The pipeline, with everything it has run so far. -/
structure WithQuery (H E Result : Type) where
  err : Option E
  res : Result
  beforeQueryFunc : Option H
  afterQueryFunc : Option H
  trace : List (QueryEvent H E)

/-- A call in the chain before `Execute`, with what the function returns that it runs. -/
inductive ChainCall (H E : Type) where
  | beforeQueryFunc (hook : H) (err : Option E)
  | afterQueryFunc (hook : H) (err : Option E)
  | validate (err : Option E)

/-- What the functions return that `Execute` may run. -/
structure Outcome (E Result : Type) where
  beforeErr : Option E
  result : Result
  err : Option E
  afterErr : Option E

namespace ChainCall

/-- What the call runs. -/
def event : ChainCall H E → QueryEvent H E
  | .beforeQueryFunc hook err => .before hook err
  | .afterQueryFunc hook err => .after hook err
  | .validate err => .validated err

def before? : ChainCall H E → Option H
  | .beforeQueryFunc hook _ => some hook
  | _ => none

def after? : ChainCall H E → Option H
  | .afterQueryFunc hook _ => some hook
  | _ => none

/-- A call that sets a hook. -/
def SetsHook (c : ChainCall H E) : Prop := c.before? ≠ none ∨ c.after? ≠ none

end ChainCall

/-- The hook of one kind that was set last. -/
def lastSet (hook? : ChainCall H E → Option H) (chain : List (ChainCall H E)) : Option H :=
  chain.reverse.findSome? hook?

theorem lastSet_concat (hook? : ChainCall H E → Option H) (chain : List (ChainCall H E))
    (c : ChainCall H E) : lastSet hook? (chain ++ [c]) = (hook? c).or (lastSet hook? chain) := by
  rw [lastSet, List.reverse_concat, List.findSome?_cons]
  cases hook? c <;> rfl

theorem exists_of_lastSet {hook? : ChainCall H E → Option H} {chain : List (ChainCall H E)}
    {hook : H} (last : lastSet hook? chain = some hook) : ∃ c ∈ chain, hook? c = some hook := by
  obtain ⟨c, mem, isHook⟩ := List.exists_of_findSome?_eq_some last
  exact ⟨c, List.mem_reverse.mp mem, isHook⟩

/-- A hook that was set has run by then. -/
theorem countP_chain_pos {chain : List (ChainCall H E)} {hook? : ChainCall H E → Option H}
    {isHook : H → QueryEvent H E → Bool}
    (runs : ∀ c hook, hook? c = some hook → isHook hook c.event) {hook : H}
    (last : lastSet hook? chain = some hook) :
    0 < (chain.map ChainCall.event).countP (isHook hook) := by
  obtain ⟨c, mem, isSet⟩ := exists_of_lastSet last
  exact List.countP_pos_iff.mpr ⟨c.event, List.mem_map_of_mem mem, runs c hook isSet⟩

theorem lastSet_eq_none_iff {hook? : ChainCall H E → Option H} {chain : List (ChainCall H E)} :
    lastSet hook? chain = none ↔ ∀ c ∈ chain, hook? c = none := by
  simp [lastSet]

def lastBefore (chain : List (ChainCall H E)) : Option H := lastSet ChainCall.before? chain

def lastAfter (chain : List (ChainCall H E)) : Option H := lastSet ChainCall.after? chain

namespace WithQuery

/-- The function `WithQuery`. -/
def new [Inhabited Result] : WithQuery H E Result := ⟨none, default, none, none, []⟩

def error (q : WithQuery H E Result) : Option E := q.err

/-- A function is run, and its error kept if there is one. -/
def check (q : WithQuery H E Result) (e : QueryEvent H E) : WithQuery H E Result :=
  { q with err := e.err.or q.err, trace := q.trace ++ [e] }

/-- A function is run, and its error dropped. -/
def ran (q : WithQuery H E Result) (e : QueryEvent H E) : WithQuery H E Result :=
  { q with trace := q.trace ++ [e] }

def step (q : WithQuery H E Result) : ChainCall H E → WithQuery H E Result
  | .beforeQueryFunc hook err =>
      { q.check (.before hook err) with beforeQueryFunc := some hook }
  | .afterQueryFunc hook err =>
      { q.check (.after hook err) with afterQueryFunc := some hook }
  | .validate err => q.check (.validated err)

def execute (q : WithQuery H E Result) (o : Outcome E Result) : WithQuery H E Result :=
  if q.err.isSome then q
  else
    let q := q.beforeQueryFunc.elim q fun hook => q.ran (.before hook o.beforeErr)
    let q := { q.ran (.handled o.err) with err := o.err, res := o.result }
    q.afterQueryFunc.elim q fun hook => q.ran (.after hook o.afterErr)

/-! ## What the chain leaves behind -/

theorem trace_step (q : WithQuery H E Result) (c : ChainCall H E) :
    (q.step c).trace = q.trace ++ [c.event] := by
  cases c <;> rfl

theorem err_step (q : WithQuery H E Result) (c : ChainCall H E) :
    (q.step c).err = c.event.err.or q.err := by
  cases c <;> rfl

theorem beforeQueryFunc_step (q : WithQuery H E Result) (c : ChainCall H E) :
    (q.step c).beforeQueryFunc = c.before?.or q.beforeQueryFunc := by
  cases c <;> rfl

theorem afterQueryFunc_step (q : WithQuery H E Result) (c : ChainCall H E) :
    (q.step c).afterQueryFunc = c.after?.or q.afterQueryFunc := by
  cases c <;> rfl

section Chain

variable [Inhabited Result] (chain : List (ChainCall H E))

theorem trace_chain :
    (runFrom step (new : WithQuery H E Result) chain).trace = chain.map ChainCall.event := by
  induction chain using List.reverseRecOn with
  | nil => rfl
  | append_singleton chain c ih =>
      rw [runFrom_concat, trace_step, ih, List.map_append]
      rfl

/-- The error is that of the last step that failed, so there is one if a step failed. -/
theorem err_chain_eq_none_iff :
    (runFrom step (new : WithQuery H E Result) chain).err = none ↔
      ∀ c ∈ chain, ¬c.event.Failed := by
  induction chain using List.reverseRecOn with
  | nil => exact iff_of_true rfl nofun
  | append_singleton chain c ih =>
      rw [runFrom_concat, err_step, Option.or_eq_none_iff, ih, List.forall_mem_append,
        List.forall_mem_singleton, and_comm, QueryEvent.Failed, not_not]

theorem beforeQueryFunc_chain :
    (runFrom step (new : WithQuery H E Result) chain).beforeQueryFunc = lastBefore chain := by
  induction chain using List.reverseRecOn with
  | nil => rfl
  | append_singleton chain c ih =>
      rw [runFrom_concat, beforeQueryFunc_step, ih]
      exact (lastSet_concat _ chain c).symm

theorem afterQueryFunc_chain :
    (runFrom step (new : WithQuery H E Result) chain).afterQueryFunc = lastAfter chain := by
  induction chain using List.reverseRecOn with
  | nil => rfl
  | append_singleton chain c ih =>
      rw [runFrom_concat, afterQueryFunc_step, ih]
      exact (lastSet_concat _ chain c).symm

theorem not_handled_of_chain : ∀ e ∈ chain.map ChainCall.event, e.isHandled = false := by
  intro e mem
  obtain ⟨c, -, rfl⟩ := List.mem_map.mp mem
  cases c <;> rfl

theorem countP_isHandled_chain :
    (chain.map ChainCall.event).countP QueryEvent.isHandled = 0 := by
  refine List.countP_eq_zero.mpr fun e here => ?_
  rw [not_handled_of_chain chain e here]
  exact Bool.false_ne_true

theorem handled_not_mem_chain (err : Option E) :
    QueryEvent.handled err ∉ chain.map ChainCall.event :=
  fun here => nomatch not_handled_of_chain chain _ here

end Chain

/-! ## The order of the pipeline -/

section Execute

variable {q : WithQuery H E Result}

theorem execute_of_err (failed : q.err ≠ none) (o : Outcome E Result) : q.execute o = q :=
  if_pos (Option.isSome_iff_ne_none.mpr failed)

/-- The hooks that `Execute` runs before and after `Handle`. -/
def beforeEvents (q : WithQuery H E Result) (o : Outcome E Result) : List (QueryEvent H E) :=
  q.beforeQueryFunc.toList.map fun hook => .before hook o.beforeErr

def afterEvents (q : WithQuery H E Result) (o : Outcome E Result) : List (QueryEvent H E) :=
  q.afterQueryFunc.toList.map fun hook => .after hook o.afterErr

theorem trace_execute (ok : q.err = none) (o : Outcome E Result) :
    (q.execute o).trace =
      (q.trace ++ q.beforeEvents o) ++ .handled o.err :: q.afterEvents o := by
  obtain ⟨err, res, before, after, trace⟩ := q
  subst ok
  cases before <;> cases after <;> simp [execute, ran, beforeEvents, afterEvents]

theorem err_execute (ok : q.err = none) (o : Outcome E Result) : (q.execute o).err = o.err := by
  obtain ⟨err, res, before, after, trace⟩ := q
  subst ok
  cases before <;> cases after <;> rfl

end Execute

variable [DecidableEq H]

/-- `Handle` runs at most once, and only if no check before it reported an error; when it
runs, the last hooks have each run once, on their side of it; and there is an error exactly
if something that ran failed. -/
structure InOrder (chain : List (ChainCall H E)) (q : WithQuery H E Result) : Prop where
  atMostOnce : q.trace.countP QueryEvent.isHandled ≤ 1
  checked : ∀ pre err post, q.trace = pre ++ .handled err :: post →
    ∀ e ∈ pre, e.isCheck → ¬e.Failed
  beforeOnce : ∀ pre err post, q.trace = pre ++ .handled err :: post →
    ∀ hook, lastBefore chain = some hook →
      pre.countP (QueryEvent.isBefore hook) = 1 ∧ post.countP (QueryEvent.isBefore hook) = 0
  afterOnce : ∀ pre err post, q.trace = pre ++ .handled err :: post →
    ∀ hook, lastAfter chain = some hook →
      pre.countP (QueryEvent.isAfter hook) = 0 ∧ post.countP (QueryEvent.isAfter hook) = 1
  error_iff : q.error ≠ none ↔ ∃ e ∈ q.trace, e.Failed

variable [Inhabited Result] {chain : List (ChainCall H E)}

/-- A step of the chain that fails is the error of the pipeline, and `Handle` is not run. -/
theorem inOrder_of_failed {c : ChainCall H E} (mem : c ∈ chain) (failed : c.event.Failed)
    (o : Outcome E Result) : InOrder chain ((runFrom step new chain).execute o) := by
  have kept : (runFrom step (new : WithQuery H E Result) chain).err ≠ none :=
    fun none => (err_chain_eq_none_iff chain).mp none c mem failed
  have trace : (runFrom step (new : WithQuery H E Result) chain).trace =
      chain.map ChainCall.event := trace_chain chain
  rw [execute_of_err kept]
  have unhandled : ∀ pre err post, (runFrom step (new : WithQuery H E Result) chain).trace ≠
      pre ++ .handled err :: post := by
    intro pre err post split
    refine handled_not_mem_chain chain err ?_
    rw [← trace, split]
    exact List.mem_append_right _ List.mem_cons_self
  refine ⟨?_, ?_, ?_, ?_, ?_⟩
  · rw [trace, countP_isHandled_chain]
    exact Nat.zero_le 1
  · exact fun pre err post split => absurd split (unhandled pre err post)
  · exact fun pre err post split => absurd split (unhandled pre err post)
  · exact fun pre err post split => absurd split (unhandled pre err post)
  · refine iff_of_true kept ⟨c.event, ?_, failed⟩
    rw [trace]
    exact List.mem_map_of_mem mem

theorem isBefore_event (c : ChainCall H E) (hook : H) (isSet : c.before? = some hook) :
    c.event.isBefore hook := by
  cases c <;> simp_all [ChainCall.before?, ChainCall.event, QueryEvent.isBefore]

theorem isAfter_event (c : ChainCall H E) (hook : H) (isSet : c.after? = some hook) :
    c.event.isAfter hook := by
  cases c <;> simp_all [ChainCall.after?, ChainCall.event, QueryEvent.isAfter]

/-- When the chain succeeds, a hook that was set spoils the order: it runs twice, and an after
hook also before `Handle`. -/
theorem not_setsHook_of_inOrder (ok : ∀ c ∈ chain, ¬c.event.Failed) {o : Outcome E Result}
    (order : InOrder chain ((runFrom step new chain).execute o)) :
    ∀ c ∈ chain, ¬c.SetsHook := by
  have noErr : (runFrom step (new : WithQuery H E Result) chain).err = none :=
    (err_chain_eq_none_iff chain).mpr ok
  have split := trace_execute noErr o
  rw [trace_chain] at split
  have noBefore : lastBefore chain = none := by
    refine Option.eq_none_iff_forall_ne_some.mpr fun hook last => ?_
    have once := (order.beforeOnce _ _ _ split hook last).1
    have early := countP_chain_pos isBefore_event last
    have again : (beforeEvents (runFrom step (new : WithQuery H E Result) chain) o).countP
        (QueryEvent.isBefore hook) = 1 := by
      rw [beforeEvents, beforeQueryFunc_chain, last]
      simp [QueryEvent.isBefore]
    rw [List.countP_append] at once
    omega
  have noAfter : lastAfter chain = none := by
    refine Option.eq_none_iff_forall_ne_some.mpr fun hook last => ?_
    have never := (order.afterOnce _ _ _ split hook last).1
    have early := countP_chain_pos isAfter_event last
    rw [List.countP_append] at never
    omega
  intro c mem
  rintro (sets | sets)
  · exact sets (lastSet_eq_none_iff.mp noBefore c mem)
  · exact sets (lastSet_eq_none_iff.mp noAfter c mem)

/-- Without hooks `Handle` runs after the checks, and nothing after it. -/
theorem inOrder_of_no_hook (ok : ∀ c ∈ chain, ¬c.event.Failed)
    (unhooked : ∀ c ∈ chain, ¬c.SetsHook) (o : Outcome E Result) :
    InOrder chain ((runFrom step new chain).execute o) := by
  have noErr : (runFrom step (new : WithQuery H E Result) chain).err = none :=
    (err_chain_eq_none_iff chain).mpr ok
  have noBefore : lastBefore chain = none :=
    lastSet_eq_none_iff.mpr fun c mem => not_not.mp fun sets => unhooked c mem (.inl sets)
  have noAfter : lastAfter chain = none :=
    lastSet_eq_none_iff.mpr fun c mem => not_not.mp fun sets => unhooked c mem (.inr sets)
  have trace : ((runFrom step (new : WithQuery H E Result) chain).execute o).trace =
      chain.map ChainCall.event ++ [.handled o.err] := by
    rw [trace_execute noErr, trace_chain, beforeEvents, afterEvents, beforeQueryFunc_chain,
      afterQueryFunc_chain, noBefore, noAfter]
    simp
  have succeeded : ∀ e ∈ chain.map ChainCall.event, ¬e.Failed := by
    intro e here
    obtain ⟨c, mem, rfl⟩ := List.mem_map.mp here
    exact ok c mem
  refine ⟨?_, ?_, ?_, ?_, ?_⟩
  · rw [trace, List.countP_append, countP_isHandled_chain]
    exact Nat.le_refl 1
  · intro pre err post split e here _
    rw [trace] at split
    obtain ⟨rfl, -, -⟩ := (List.append_cons_inj_of_notMem (handled_not_mem_chain chain err)
      List.not_mem_nil).mp split
    exact succeeded e here
  · exact fun _ _ _ _ hook last => nomatch noBefore.symm.trans last
  · exact fun _ _ _ _ hook last => nomatch noAfter.symm.trans last
  · rw [error, err_execute noErr, trace]
    constructor
    · intro failed
      exact ⟨.handled o.err, List.mem_append_right _ List.mem_cons_self, failed⟩
    · rintro ⟨e, here, failed⟩
      obtain early | last := List.mem_append.mp here
      · exact absurd failed (succeeded e early)
      · cases List.mem_singleton.mp last
        exact failed

/-- The pipeline runs its steps in order, for every chain and all results of its functions,
exactly if a step of the chain fails or the chain sets no hook. -/
theorem pipeline_in_order_iff (chain : List (ChainCall H E)) (o : Outcome E Result) :
    InOrder chain ((runFrom step new chain).execute o) ↔
      (∃ c ∈ chain, c.event.Failed) ∨ ∀ c ∈ chain, ¬c.SetsHook := by
  by_cases failed : ∃ c ∈ chain, c.event.Failed
  · obtain ⟨c, mem, fails⟩ := failed
    exact iff_of_true (inOrder_of_failed mem fails o) (.inl ⟨c, mem, fails⟩)
  · have ok : ∀ c ∈ chain, ¬c.event.Failed := fun c mem fails => failed ⟨c, mem, fails⟩
    constructor
    · exact fun order => .inr (not_setsHook_of_inOrder ok order)
    · rintro (fails | unhooked)
      · exact absurd fails failed
      · exact inOrder_of_no_hook ok unhooked o

/-- One before hook and one after hook: both run when they are set, the after hook before
the query. The error of the before hook in `Execute` does not keep `Handle` from running, and
is lost. -/
theorem hooks_run_twice :
    let q := (runFrom step (new : WithQuery String String Nat)
      [.beforeQueryFunc "log" none, .afterQueryFunc "audit" none]).execute
        ⟨some "denied", 7, none, none⟩
    q.trace = [.before "log" none, .after "audit" none, .before "log" (some "denied"),
      .handled none, .after "audit" none] ∧ q.error = none ∧ q.res = 7 :=
  ⟨rfl, rfl, rfl⟩

end WithQuery

end GoOdin.Core
