import GoOdin.Interaction.Loop
import GoOdin.Interaction.MapRange
import Mathlib.Data.List.Sort
import Mathlib.Data.String.Basic

/-!
# `hooks.Hook`

A hook maps keys to handlers, and the first handler added for a key stays. `Execute` ranges
over the map itself, so its order is the language's choice; `ExecuteWithExclude` collects the
keys in that order and sorts them first. Both stop at the first handler that fails, and one
of them names it in the error.

Which error a handler returns is left open: it is given for every key, since no execution
invokes a key twice. A handler may return the errors of the package itself, for instance
when it executes another hook. Locks and panicking handlers are left out.
-/

namespace GoOdin.Hooks

open Interaction MapRange

variable {H P E : Type*}

/-- The errors of the package and, in `other`, those of anybody else. -/
inductive HookError (E : Type*) where
  /-- `key already exists` -/
  | keyAlreadyExists
  /-- `key not exists` -/
  | keyNotExists
  /-- `handler not registered` -/
  | handlerNotRegistered
  /-- `hook %s: %w` -/
  | hook (key : String) (err : HookError E)
  | other (err : E)
deriving DecidableEq

structure Hook (H : Type*) where
  handlers : Finmap fun _ : String => H

/-- One invocation of a handler. -/
structure Invocation (H P : Type*) where
  key : String
  handler : H
  param : P
deriving DecidableEq

/-- What an execution did: the handlers it invoked, in order, and the error it returned. -/
structure Execution (H P E : Type*) where
  calls : List (Invocation H P)
  err : Option (HookError E)
deriving DecidableEq

namespace Hook

def new : Hook H := ⟨∅⟩

def isKeyAlreadySet (hook : Hook H) (key : String) : Bool :=
  (hook.handlers.lookup key).isSome

def add (hook : Hook H) (key : String) (handler : H) : Hook H × Option (HookError E) :=
  if hook.isKeyAlreadySet key then (hook, some .keyAlreadyExists)
  else (⟨hook.handlers.insert key handler⟩, none)

/-- The hook after a sequence of `Add` calls. -/
def addAll (hook : Hook H) (adds : List (String × H)) : Hook H :=
  runFrom (fun hook call => (hook.add (E := Empty) call.1 call.2).1) hook adds

def executeOnly (hook : Hook H) (results : String → Option (HookError E)) (key : String)
    (param : P) : Execution H P E :=
  match hook.handlers.lookup key with
  | none => ⟨[], some .keyNotExists⟩
  | some handler => ⟨[⟨key, handler, param⟩], results key⟩

/-- The loop of both executions: `ExecuteOnly` for each key until one of them fails, whose
error `wrap` may extend. -/
def executeKeys (hook : Hook H) (results : String → Option (HookError E)) (param : P)
    (wrap : String → HookError E → HookError E) : List String → Execution H P E
  | [] => ⟨[], none⟩
  | key :: rest =>
      let first := hook.executeOnly results key param
      match first.err with
      | some err => ⟨first.calls, some (wrap key err)⟩
      | none =>
          let later := executeKeys hook results param wrap rest
          ⟨first.calls ++ later.calls, later.err⟩

def execute (hook : Hook H) (order : RangeOrder hook.handlers)
    (results : String → Option (HookError E)) (param : P) : Execution H P E :=
  if hook.handlers.keys.card < 1 then ⟨[], some .handlerNotRegistered⟩
  else hook.executeKeys results param (fun _ err => err) order.entries.keys

def orderedLoop (hook : Hook H) (order : RangeOrder hook.handlers) : List String :=
  order.entries.keys.insertionSort (· ≤ ·)

def executeWithExclude (hook : Hook H) (order : RangeOrder hook.handlers)
    (results : String → Option (HookError E)) (param : P) (excludedKeys : List String) :
    Execution H P E :=
  if hook.handlers.keys.card < 1 then ⟨[], some .handlerNotRegistered⟩
  else
    let filtered := (hook.orderedLoop order).filter fun key => key ∉ excludedKeys
    if filtered.length = 0 then ⟨[], none⟩
    else hook.executeKeys results param .hook filtered

variable {hook : Hook H} {key : String} {handler : H}

/-! ### Registration -/

@[simp] theorem isKeyAlreadySet_iff : hook.isKeyAlreadySet key = true ↔ key ∈ hook.handlers := by
  rw [isKeyAlreadySet, Finmap.mem_iff, Option.isSome_iff_exists]

/-- A duplicate is rejected and changes nothing. -/
theorem add_of_mem (present : key ∈ hook.handlers) :
    hook.add key handler = (hook, some (.keyAlreadyExists : HookError E)) :=
  if_pos (isKeyAlreadySet_iff.mpr present)

theorem add_of_not_mem (absent : key ∉ hook.handlers) :
    hook.add key handler = (⟨hook.handlers.insert key handler⟩, (none : Option (HookError E))) :=
  if_neg fun set => absent (isKeyAlreadySet_iff.mp set)

theorem addAll_concat (adds : List (String × H)) (call : String × H) :
    hook.addAll (adds ++ [call]) = ((hook.addAll adds).add (E := Empty) call.1 call.2).1 :=
  runFrom_concat _ _ _

theorem addAll_append (first second : List (String × H)) :
    hook.addAll (first ++ second) = (hook.addAll first).addAll second :=
  runFrom_append _ _ _

/-- The hook after one call does not depend on the errors that handlers return. -/
theorem add_fst (hook : Hook H) (key : String) (handler : H) :
    (hook.add (E := E) key handler).1 = hook.addAll [(key, handler)] := by
  show _ = (hook.add (E := Empty) key handler).1
  rw [add, add]
  split <;> rfl

/-- The first handler added for a key is the one registered. -/
theorem lookup_addAll (adds : List (String × H)) (key : String) :
    (new.addAll adds).handlers.lookup key = (adds.find? (·.1 = key)).map (·.2) := by
  induction adds using List.reverseRecOn with
  | nil => exact Finmap.lookup_empty key
  | append_singleton adds call ih =>
      rw [addAll_concat, List.find?_append]
      by_cases present : call.1 ∈ (new.addAll adds).handlers
      · rw [add_of_mem present, ih]
        by_cases same : call.1 = key
        · -- the key is there, so the search ends before the duplicate
          obtain ⟨handler, found⟩ := Finmap.mem_iff.mp present
          rw [same, ih] at found
          obtain ⟨first, found, _⟩ := Option.map_eq_some_iff.mp found
          rw [found]
          rfl
        · simp [same]
      · rw [add_of_not_mem present]
        by_cases same : call.1 = key
        · subst same
          have absent := Finmap.lookup_eq_none.mpr present
          rw [ih, Option.map_eq_none_iff] at absent
          rw [Finmap.lookup_insert, absent]
          simp
        · rw [Finmap.lookup_insert_of_ne _ (Ne.symm same), ih]
          simp [same]

theorem mem_addAll {adds : List (String × H)} :
    key ∈ (new.addAll adds).handlers ↔ key ∈ adds.map Prod.fst := by
  rw [← not_iff_not, ← Finmap.lookup_eq_none, lookup_addAll]
  simp only [Option.map_eq_none_iff, List.find?_eq_none, List.mem_map, decide_eq_true_eq,
    not_exists, not_and]

theorem find?_of_lookup_addAll {adds : List (String × H)}
    (found : (new.addAll adds).handlers.lookup key = some handler) :
    adds.find? (·.1 = key) = some (key, handler) := by
  rw [lookup_addAll] at found
  obtain ⟨⟨key', handler'⟩, first, rfl⟩ := Option.map_eq_some_iff.mp found
  have chosen := List.find?_some first
  have same : key' = key := of_decide_eq_true chosen
  rw [first, same]

/-- The check for an empty hook. -/
theorem card_keys_addAll {adds : List (String × H)} :
    (new.addAll adds).handlers.keys.card < 1 ↔ adds = [] := by
  rw [Nat.lt_one_iff, Finset.card_eq_zero, Finset.eq_empty_iff_forall_notMem]
  simp only [Finmap.mem_keys, mem_addAll]
  constructor
  · intro none
    cases adds with
    | nil => rfl
    | cons call adds => exact absurd (List.mem_cons_self ..) (none call.1)
  · rintro rfl key
    exact List.not_mem_nil

/-! ### One execution -/

variable {results : String → Option (HookError E)} {param : P}
variable {wrap : String → HookError E → HookError E} {keys : List String}

/-- A failing handler ends the loop. -/
theorem executeKeys_cons_of_failed {err : HookError E}
    (found : hook.handlers.lookup key = some handler) (failed : results key = some err) :
    hook.executeKeys results param wrap (key :: keys) =
      ⟨[⟨key, handler, param⟩], some (wrap key err)⟩ := by
  simp only [executeKeys, executeOnly, found, failed]

theorem executeKeys_cons_of_passed (found : hook.handlers.lookup key = some handler)
    (passed : results key = none) :
    hook.executeKeys results param wrap (key :: keys) =
      ⟨⟨key, handler, param⟩ :: (hook.executeKeys results param wrap keys).calls,
        (hook.executeKeys results param wrap keys).err⟩ := by
  simp only [executeKeys, executeOnly, found, passed, List.cons_append, List.nil_append]

/-- The induction along the loop: it ends with its keys or with a handler that fails, and
goes on after one that succeeds. -/
theorem executeKeys_rec {motive : List String → Execution H P E → Prop}
    (nil : motive [] ⟨[], none⟩)
    (failed : ∀ key handler err rest, hook.handlers.lookup key = some handler →
      results key = some err →
      motive (key :: rest) ⟨[⟨key, handler, param⟩], some (wrap key err)⟩)
    (passed : ∀ key handler rest run, hook.handlers.lookup key = some handler →
      results key = none → motive rest run →
      motive (key :: rest) ⟨⟨key, handler, param⟩ :: run.calls, run.err⟩)
    (registered : ∀ key ∈ keys, key ∈ hook.handlers) :
    motive keys (hook.executeKeys results param wrap keys) := by
  induction keys with
  | nil => exact nil
  | cons key keys ih =>
      rw [List.forall_mem_cons] at registered
      obtain ⟨handler, found⟩ := Finmap.mem_iff.mp registered.1
      cases result : results key with
      | some err =>
          rw [executeKeys_cons_of_failed found result]
          exact failed key handler err keys found result
      | none =>
          rw [executeKeys_cons_of_passed found result]
          exact passed key handler keys _ found result (ih registered.2)

/-- Every invocation is of the handler registered for its key. -/
theorem lookup_of_mem_executeKeys (registered : ∀ key ∈ keys, key ∈ hook.handlers) :
    ∀ call ∈ (hook.executeKeys results param wrap keys).calls,
      hook.handlers.lookup call.key = some call.handler ∧ call.param = param := by
  refine executeKeys_rec (motive := fun _ run => ∀ call ∈ run.calls,
    hook.handlers.lookup call.key = some call.handler ∧ call.param = param) ?_ ?_ ?_ registered
  · exact fun call invoked => absurd invoked List.not_mem_nil
  · intro key handler err rest found _
    exact List.forall_mem_singleton.mpr ⟨found, rfl⟩
  · intro key handler rest run found _ later
    exact List.forall_mem_cons.mpr ⟨⟨found, rfl⟩, later⟩

/-- The loop invokes the handlers up to and including the first that fails. -/
theorem keys_executeKeys (registered : ∀ key ∈ keys, key ∈ hook.handlers) :
    (hook.executeKeys results param wrap keys).calls.map Invocation.key =
      takeThrough (fun key => (results key).isSome) keys := by
  refine executeKeys_rec (motive := fun keys run => run.calls.map Invocation.key =
    takeThrough (fun key => (results key).isSome) keys) rfl ?_ ?_ registered
  · intro key handler err rest _ result
    simp [result]
  · intro key handler rest run _ result later
    simp [result, later]

/-- Either no invoked handler fails and nor does the loop, or the last one does and the
loop returns its error. -/
theorem executeKeys_cases (registered : ∀ key ∈ keys, key ∈ hook.handlers)
    (results : String → Option (HookError E)) (param : P)
    (wrap : String → HookError E → HookError E) :
    ((hook.executeKeys results param wrap keys).err = none ∧
        ∀ call ∈ (hook.executeKeys results param wrap keys).calls, results call.key = none) ∨
      ∃ last err, (hook.executeKeys results param wrap keys).calls.getLast? = some last ∧
        results last.key = some err ∧
        (hook.executeKeys results param wrap keys).err = some (wrap last.key err) := by
  refine executeKeys_rec (motive := fun _ run =>
    (run.err = none ∧ ∀ call ∈ run.calls, results call.key = none) ∨
      ∃ last err, run.calls.getLast? = some last ∧ results last.key = some err ∧
        run.err = some (wrap last.key err)) ?_ ?_ ?_ registered
  · exact .inl ⟨rfl, fun call invoked => absurd invoked List.not_mem_nil⟩
  · intro key handler err rest _ result
    exact .inr ⟨_, err, rfl, result, rfl⟩
  · intro key handler rest run _ result later
    obtain ⟨passed, all⟩ | ⟨last, err, isLast, failed, returned⟩ := later
    · exact .inl ⟨passed, List.forall_mem_cons.mpr ⟨result, all⟩⟩
    · refine .inr ⟨last, err, ?_, failed, returned⟩
      rw [List.getLast?_cons, isLast]
      rfl

theorem err_executeKeys_eq_none_iff (registered : ∀ key ∈ keys, key ∈ hook.handlers) :
    (hook.executeKeys results param wrap keys).err = none ↔
      ∀ call ∈ (hook.executeKeys results param wrap keys).calls, results call.key = none := by
  obtain ⟨passed, all⟩ | ⟨last, err, isLast, failed, returned⟩ :=
    executeKeys_cases registered results param wrap
  · exact iff_of_true passed all
  · rw [returned]
    refine iff_of_false nofun fun all => ?_
    exact nomatch failed.symm.trans (all last (List.mem_of_getLast? isLast))

/-- How the error is wrapped makes no difference to what is invoked. -/
theorem calls_executeKeys (registered : ∀ key ∈ keys, key ∈ hook.handlers)
    (wrap wrap' : String → HookError E → HookError E) :
    (hook.executeKeys results param wrap keys).calls =
      (hook.executeKeys results param wrap' keys).calls := by
  induction keys with
  | nil => rfl
  | cons key keys ih =>
      rw [List.forall_mem_cons] at registered
      obtain ⟨handler, found⟩ := Finmap.mem_iff.mp registered.1
      cases result : results key with
      | some err => simp only [executeKeys_cons_of_failed found result]
      | none => simp only [executeKeys_cons_of_passed found result, ih registered.2]

/-! ### The order of the keys -/

section Order

variable (order : RangeOrder hook.handlers)

theorem mem_orderedLoop : key ∈ hook.orderedLoop order ↔ key ∈ hook.handlers := by
  rw [orderedLoop, List.mem_insertionSort, order.mem_keys]

theorem orderedLoop_perm : (hook.orderedLoop order).Perm order.entries.keys :=
  List.perm_insertionSort (· ≤ ·) _

/-- No key comes twice, so the sorted keys ascend strictly. -/
theorem orderedLoop_ascending : (hook.orderedLoop order).Pairwise (· < ·) := by
  have sorted : (hook.orderedLoop order).Pairwise (· ≤ ·) := List.pairwise_insertionSort (· ≤ ·) _
  have distinct : (hook.orderedLoop order).Nodup :=
    (orderedLoop_perm order).nodup_iff.mpr order.nodupKeys
  exact (sorted.and distinct).imp fun both => lt_of_le_of_ne both.1 both.2

/-- Handlers that all succeed are all invoked. -/
theorem keys_execute (passes : ∀ key, results key = none) :
    (hook.execute order results param).calls.map Invocation.key = order.entries.keys := by
  rw [execute]
  split
  · next none =>
      rw [Nat.lt_one_iff, Finset.card_eq_zero] at none
      have unvisited : ∀ key, key ∉ order.entries.keys := fun key visited => by
        have present := Finmap.mem_keys.mpr (order.mem_keys.mp visited)
        exact Finset.notMem_empty key (none ▸ present)
      exact (List.eq_nil_iff_forall_not_mem.mpr unvisited).symm
  · rw [keys_executeKeys fun key visited => order.mem_keys.mp visited,
      takeThrough_eq_self fun key _ => by rw [passes]; rfl]

/-- An execution invokes the handlers that the hook holds. -/
theorem lookup_of_mem_execute {call : Invocation H P}
    (invoked : call ∈ (hook.execute order results param).calls) :
    hook.handlers.lookup call.key = some call.handler := by
  rw [execute] at invoked
  split at invoked
  · exact absurd invoked List.not_mem_nil
  · exact (lookup_of_mem_executeKeys (fun key visited => order.mem_keys.mp visited) _ invoked).1

/-- The sorted keys do not depend on the order in which the map yields them. -/
theorem orderedLoop_eq_of_sorted (order' : RangeOrder hook.handlers)
    (sorted : order.entries.keys.Pairwise (· ≤ ·)) :
    order.entries.keys = hook.orderedLoop order' := by
  have entries : order.entries.Perm order'.entries :=
    Multiset.coe_eq_coe.mp (order.complete.trans order'.complete.symm)
  have keys : order.entries.keys.Perm (hook.orderedLoop order') :=
    (entries.map Sigma.fst).trans (orderedLoop_perm order').symm
  exact keys.eq_of_pairwise' sorted (List.pairwise_insertionSort (· ≤ ·) _)

/-- With handlers registered the sorted execution is one loop; an empty rest needs no
exception. -/
theorem executeWithExclude_of_registered (registered : ¬ hook.handlers.keys.card < 1)
    (excludedKeys : List String) :
    hook.executeWithExclude order results param excludedKeys =
      hook.executeKeys results param .hook
        ((hook.orderedLoop order).filter fun key => key ∉ excludedKeys) := by
  rw [executeWithExclude, if_neg registered]
  dsimp only
  split
  · next none =>
      rw [List.length_eq_zero_iff.mp none]
      rfl
  · rfl

end Order

end Hook

end GoOdin.Hooks
