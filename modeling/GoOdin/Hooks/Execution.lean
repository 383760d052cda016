import GoOdin.Hooks.Hook

/-!
# What an execution of a hook amounts to

`ExecuteWithExclude` is settled by the `Add` calls, the excluded keys and the results of the
handlers, whatever the order of the map. `Execute` is not: it agrees with
`ExecuteWithExclude` in every order only where there is no choice of an order.
-/

namespace GoOdin.Hooks

open Interaction MapRange

variable {H P E : Type*}

namespace Hook

/-- For every sequence of `Add` calls, every list of excluded keys, all results and every
order of the map: `ExecuteWithExclude` invokes the first handler added for each key that is
not excluded, in strictly ascending order, up to and including the first that fails. It
returns nil if none does and there is a handler at all, `ErrHandlerNotRegistered` if there is
none, and otherwise wraps the error of the failing one. A duplicate `Add` changes nothing. -/
theorem executeWithExclude_exact (adds : List (String × H))
    (results : String → Option (HookError E)) (param : P) (excludedKeys : List String)
    (order : RangeOrder (new.addAll adds).handlers) :
    let hook := new.addAll adds
    let run := hook.executeWithExclude order results param excludedKeys
    (∃ keys : List String, keys.Pairwise (· < ·) ∧
        (∀ key, key ∈ keys ↔ key ∈ adds.map Prod.fst ∧ key ∉ excludedKeys) ∧
        run.calls.map Invocation.key = takeThrough (fun key => (results key).isSome) keys) ∧
      (∀ call ∈ run.calls,
        adds.find? (·.1 = call.key) = some (call.key, call.handler) ∧ call.param = param) ∧
      (run.err = none ↔ adds ≠ [] ∧ ∀ call ∈ run.calls, results call.key = none) ∧
      (run.err = some .handlerNotRegistered ↔ adds = []) ∧
      (run.err ≠ none → adds ≠ [] → ∃ last err, run.calls.getLast? = some last ∧
        results last.key = some err ∧ run.err = some (.hook last.key err)) ∧
      ∀ key handler, key ∈ adds.map Prod.fst →
        hook.add key handler = (hook, some (.keyAlreadyExists : HookError E)) := by
  intro hook run
  have rejected : ∀ key handler, key ∈ adds.map Prod.fst →
      hook.add key handler = (hook, some (.keyAlreadyExists : HookError E)) :=
    fun key handler added => add_of_mem (mem_addAll.mpr added)
  by_cases empty : adds = []
  · subst empty
    have none : run = ⟨[], some .handlerNotRegistered⟩ := if_pos (card_keys_addAll.mpr rfl)
    rw [none]
    exact ⟨⟨[], .nil, by simp, rfl⟩, by simp, by simp, by simp, by simp, rejected⟩
  · let keys := (hook.orderedLoop order).filter fun key => key ∉ excludedKeys
    have runEq : run = hook.executeKeys results param .hook keys :=
      executeWithExclude_of_registered order (fun less => empty (card_keys_addAll.mp less)) _
    have selected : ∀ key, key ∈ keys ↔ key ∈ hook.handlers ∧ key ∉ excludedKeys := by
      intro key
      rw [List.mem_filter, mem_orderedLoop, decide_eq_true_eq]
    have registered : ∀ key ∈ keys, key ∈ hook.handlers := fun key mem => ((selected key).mp mem).1
    rw [runEq]
    refine ⟨⟨keys, (orderedLoop_ascending order).filter _, ?_, keys_executeKeys registered⟩, ?_,
      ?_, ?_, ?_, rejected⟩
    · intro key
      rw [selected, mem_addAll]
    · intro call invoked
      obtain ⟨found, param⟩ := lookup_of_mem_executeKeys registered _ invoked
      exact ⟨find?_of_lookup_addAll found, param⟩
    · rw [err_executeKeys_eq_none_iff registered]
      exact (and_iff_right empty).symm
    · obtain ⟨passed, -⟩ | ⟨last, err, -, -, returned⟩ :=
        executeKeys_cases registered results param .hook
      · rw [passed]
        exact iff_of_false nofun empty
      · rw [returned]
        exact iff_of_false nofun empty
    · intro fails _
      exact (executeKeys_cases registered results param .hook).resolve_left
        fun passed => fails passed.1

end Hook

/-- Two executions invoke the same handlers in the same order, and one fails exactly if the
other does, both for the handler they invoked last (or both for having none). The second one
names that handler in its error. -/
structure Execution.Agrees (results : String → Option (HookError E))
    (run sorted : Execution H P E) : Prop where
  calls : run.calls = sorted.calls
  fails : run.err = none ↔ sorted.err = none
  cause : ∀ err, run.err = some err → (run.calls = [] ∧ sorted.err = some err) ∨
    ∃ last, run.calls.getLast? = some last ∧ results last.key = some err ∧
      sorted.err = some (.hook last.key err)

namespace Hook

variable {hook : Hook H} {results : String → Option (HookError E)} {param : P}

/-- Over the same keys the two loops agree. -/
theorem executeKeys_agrees {keys : List String} (registered : ∀ key ∈ keys, key ∈ hook.handlers) :
    Execution.Agrees results (hook.executeKeys results param (fun _ err => err) keys)
      (hook.executeKeys results param .hook keys) := by
  have calls : (hook.executeKeys results param (fun _ err => err) keys).calls =
      (hook.executeKeys results param .hook keys).calls := calls_executeKeys registered _ _
  have fails : (hook.executeKeys results param (fun _ err => err) keys).err = none ↔
      (hook.executeKeys results param .hook keys).err = none := by
    rw [err_executeKeys_eq_none_iff registered, err_executeKeys_eq_none_iff registered, calls]
  refine ⟨calls, fails, fun e same => .inr ?_⟩
  obtain ⟨passed, -⟩ | ⟨last, err, isLast, failed, returned⟩ :=
    executeKeys_cases registered results param fun _ err => err
  · exact nomatch passed.symm.trans same
  · obtain ⟨passed, -⟩ | ⟨last', err', isLast', failed', returned'⟩ :=
      executeKeys_cases registered results param .hook
    · exact nomatch (fails.mpr passed).symm.trans same
    · -- both invoked the same handlers, so the last one is the same
      obtain rfl := Option.some.inj (isLast.symm.trans (calls ▸ isLast'))
      obtain rfl := Option.some.inj (failed.symm.trans failed')
      obtain rfl := Option.some.inj (returned.symm.trans same)
      exact ⟨last, isLast, failed, returned'⟩

/-- Some order of the map lets `Execute` begin with any key that is registered. -/
theorem exists_execute_head (results : String → Option (HookError E)) (param : P)
    {key : String} (present : key ∈ hook.handlers) :
    ∃ order : RangeOrder hook.handlers,
      (hook.execute order results param).calls.head?.map Invocation.key = some key := by
  obtain ⟨handler, found⟩ := Finmap.mem_iff.mp present
  obtain ⟨order, rest, first⟩ := RangeOrder.exists_cons (Finmap.lookup_eq_some_iff.mp found)
  have some : ¬ hook.handlers.keys.card < 1 := by
    have := Finset.card_pos.mpr ⟨key, Finmap.mem_keys.mpr present⟩
    omega
  refine ⟨order, ?_⟩
  rw [execute, if_neg some, ← List.head?_map,
    keys_executeKeys fun key visited => order.mem_keys.mp visited, head?_takeThrough, first]
  rfl

/-- For every sequence of `Add` calls, all results and every parameter: `Execute` agrees with
`ExecuteWithExclude` without exclusions in every order of the map exactly if all the calls
used one key. -/
theorem execute_agrees_iff (adds : List (String × H)) (results : String → Option (HookError E))
    (param : P) :
    (∀ order sorting : RangeOrder (new.addAll adds).handlers,
        Execution.Agrees results ((new.addAll adds).execute order results param)
          ((new.addAll adds).executeWithExclude sorting results param [])) ↔
      ∀ first ∈ adds, ∀ second ∈ adds, first.1 = second.1 := by
  constructor
  · intro agrees first addedFirst second addedSecond
    have present (call : String × H) (added : call ∈ adds) : call.1 ∈ (new.addAll adds).handlers :=
      mem_addAll.mpr (List.mem_map_of_mem added)
    obtain ⟨sorting⟩ := RangeOrder.nonempty (new.addAll adds).handlers
    obtain ⟨order, head⟩ := exists_execute_head results param (present first addedFirst)
    obtain ⟨order', head'⟩ := exists_execute_head results param (present second addedSecond)
    rw [(agrees order sorting).calls] at head
    rw [(agrees order' sorting).calls] at head'
    exact Option.some.inj (head.symm.trans head')
  · intro one order sorting
    by_cases empty : adds = []
    · subst empty
      have none : (new.addAll ([] : List (String × H))).handlers.keys.card < 1 :=
        card_keys_addAll.mpr rfl
      rw [execute, executeWithExclude, if_pos none, if_pos none]
      exact ⟨rfl, Iff.rfl, fun err same => .inl ⟨rfl, same⟩⟩
    · have some : ¬ (new.addAll adds).handlers.keys.card < 1 :=
        fun less => empty (card_keys_addAll.mp less)
      have registered : ∀ key ∈ order.entries.keys, key ∈ (new.addAll adds).handlers :=
        fun key visited => order.mem_keys.mp visited
      have sorted : order.entries.keys.Pairwise (· ≤ ·) := by
        refine List.pairwise_of_forall_mem_list fun key visited key' visited' => ?_
        obtain ⟨first, added, rfl⟩ := List.mem_map.mp (mem_addAll.mp (registered key visited))
        obtain ⟨second, added', rfl⟩ := List.mem_map.mp (mem_addAll.mp (registered key' visited'))
        exact (one first added second added').le
      rw [execute, if_neg some, executeWithExclude_of_registered sorting some,
        ← orderedLoop_eq_of_sorted order sorting sorted]
      simp only [List.not_mem_nil, not_false_eq_true, decide_true, List.filter_true]
      exact executeKeys_agrees registered

/-- The hooks of `Bootstrap` in the order opposite to their names, with a configuration that
cannot be loaded: the application is bootstrapped all the same, which the sorted execution
never does. -/
theorem execute_runs_bootstrap_first :
    let hook : Hook Nat := new.addAll [("a_load_cfg", 0), ("b_bootstrap", 1)]
    let results : String → Option (HookError String) :=
      fun key => if key = "a_load_cfg" then some (.other "no configuration") else none
    ∃ order : RangeOrder hook.handlers,
      (hook.execute order results ()).calls.map Invocation.key = ["b_bootstrap", "a_load_cfg"] ∧
      ∀ sorting : RangeOrder hook.handlers,
        (hook.executeWithExclude sorting results () []).calls.map Invocation.key =
            ["a_load_cfg"] ∧
          ¬ Execution.Agrees results (hook.execute order results ())
            (hook.executeWithExclude sorting results () []) := by
  intro hook results
  let order : RangeOrder hook.handlers := ⟨[⟨"b_bootstrap", 1⟩, ⟨"a_load_cfg", 0⟩], by decide⟩
  let ascending : RangeOrder hook.handlers := ⟨[⟨"a_load_cfg", 0⟩, ⟨"b_bootstrap", 1⟩], by decide⟩
  have executed : (hook.execute order results ()).calls.map Invocation.key =
      ["b_bootstrap", "a_load_cfg"] := by decide
  refine ⟨order, executed, fun sorting => ?_⟩
  have keys : hook.orderedLoop sorting = ["a_load_cfg", "b_bootstrap"] :=
    (orderedLoop_eq_of_sorted ascending sorting (by decide)).symm
  have sorted : (hook.executeWithExclude sorting results () []).calls.map Invocation.key =
      ["a_load_cfg"] := by
    rw [executeWithExclude_of_registered sorting (by decide), keys]
    decide
  refine ⟨sorted, fun agrees => ?_⟩
  rw [agrees.calls, sorted] at executed
  exact absurd executed (by decide)

end Hook

end GoOdin.Hooks
