import GoOdin.Drivers.Manager
import GoOdin.Hooks.Hook

/-!
# `Service.Shutdown`

The stop hook is executed twice: by the service, before the drivers are closed, and by the
application afterwards, which first adds two handlers of its own. Whatever was registered
before therefore runs in both executions.

A shutdown is described by what it did in order: the handlers it ran with what those of the
application do, and the calls it made to the drivers. The orders of the two `range` loops are
given, as are the results of the registered handlers in each execution.
-/

namespace GoOdin.App

open Interaction MapRange Hooks

variable {U V E : Type*}

/-- A handler of the stop hook: a registered one, or one of the two that the application
adds when it shuts down. -/
inductive StopHandler (U : Type*) where
  | registered (handler : U)
  | closeConnectionDb
  | printLog
deriving DecidableEq

inductive Event (U V E : Type*) where
  | ran (call : Invocation (StopHandler U) Unit)
  | driver (event : Drivers.Event V E)
  /-- `Data().Close` for this type of database. -/
  | closeData (dbType : String)
  | warn (msg : String)
  | info (msg : String)
deriving DecidableEq

structure BaseApp (U V : Type*) where
  onApplicationStop : Hook (StopHandler U)
  driver : Drivers.Manager V
  /-- `Data()` is not nil. -/
  hasData : Bool

/-- What a handler does; of a registered one nothing is known. -/
def StopHandler.effects (hasData : Bool) : StopHandler U → List (Event U V E)
  | .registered _ => []
  | .closeConnectionDb => if hasData then [.closeData "sql"] else [.warn "skip closing driver"]
  | .printLog => [.info "Application Stopped, ciao !"]

/-- What a handler returns: the application's own always return nil. -/
def stopResults (hook : Hook (StopHandler U)) (results : String → Option (HookError E))
    (key : String) : Option (HookError E) :=
  match hook.handlers.lookup key with
  | some (.registered _) => results key
  | _ => none

/-- The order of a `range` loop over any hook. -/
abbrev Order (U : Type*) := (hook : Hook (StopHandler U)) → RangeOrder hook.handlers

def invoke (hasData : Bool) (call : Invocation (StopHandler U) Unit) : List (Event U V E) :=
  .ran call :: call.handler.effects hasData

/-- `Execute` of the stop hook, of which both callers ignore the error. -/
def executeStop (hasData : Bool) (hook : Hook (StopHandler U)) (order : Order U)
    (results : String → Option (HookError E)) : List (Event U V E) :=
  (hook.execute (order hook) (stopResults hook results) ()).calls.flatMap (invoke hasData)

namespace BaseApp

/-- `BaseApp.Shutdown`. It gives up when it finds its first key taken, but not at the
second. -/
def shutdown (b : BaseApp U V) (order : Order U) (results : String → Option (HookError E)) :
    List (Event U V E) × Option (HookError E) :=
  match b.onApplicationStop.add "close_connection_db" .closeConnectionDb with
  | (_, some err) => ([], some err)
  | (hook, none) =>
      let hook := (hook.add (E := E) "print_log" .printLog).1
      (executeStop b.hasData hook order results, none)

end BaseApp

/-- `Service.Shutdown`, with the orders and results of the first and of the second
execution of the stop hook. -/
def Service.shutdown (b : BaseApp U V) (order order' : Order U)
    (results results' : String → Option (HookError E)) (closes : Nat → Option E) :
    List (Event U V E) :=
  let executed := executeStop b.hasData b.onApplicationStop order results
  let (driver, closed) := b.driver.closeAllDriver closes
  executed ++ closed.events.map .driver ++
    ({ b with driver }.shutdown order' results').1

/-! ### What is read off a shutdown -/

def Event.key : Event U V E → Option String
  | .ran call => some call.key
  | _ => none

def Event.closed : Event U V E → Option (Drivers.IDriver V)
  | .driver event => event.closed
  | _ => none

/-- Every handler registered before and `close_connection_db` run exactly once, the latter
when all drivers have been closed. -/
structure StopsOnce (b : BaseApp U V) (events : List (Event U V E)) : Prop where
  registered : ∀ key ∈ b.onApplicationStop.handlers, (events.filterMap Event.key).count key = 1
  closesDb : (events.filterMap Event.key).count "close_connection_db" = 1
  afterDrivers : ∃ before after, events =
      before ++ .ran ⟨"close_connection_db", .closeConnectionDb, ()⟩ :: after ∧
    before.filterMap Event.closed = b.driver.drivers ∧ after.filterMap Event.closed = []

variable {hasData : Bool} {hook : Hook (StopHandler U)} {order : Order U}

/-! ### One execution of the stop hook -/

/-- What a handler does leaves no trace among the handlers that ran. -/
theorem keys_invoke (call : Invocation (StopHandler U) Unit) :
    (invoke hasData call : List (Event U V E)).filterMap Event.key = [call.key] := by
  obtain ⟨key, _ | _ | _, param⟩ := call <;> cases hasData <;> rfl

/-- No handler of the stop hook closes a driver. -/
theorem closed_invoke (call : Invocation (StopHandler U) Unit) :
    (invoke hasData call : List (Event U V E)).filterMap Event.closed = [] := by
  obtain ⟨key, _ | _ | _, param⟩ := call <;> cases hasData <;> rfl

theorem closed_calls (calls : List (Invocation (StopHandler U) Unit)) :
    (calls.flatMap (invoke hasData) : List (Event U V E)).filterMap Event.closed = [] := by
  rw [List.filterMap_flatMap, List.flatMap_eq_nil_iff]
  exact fun call _ => closed_invoke call

/-- When every handler succeeds, all of them run, in the order of the loop. -/
theorem keys_execute_stop (hook : Hook (StopHandler U)) (order : Order U) :
    (hook.execute (order hook) (stopResults hook fun _ => (none : Option (HookError E))) ()
      ).calls.map Invocation.key = (order hook).entries.keys := by
  refine Hook.keys_execute _ fun key => ?_
  rw [stopResults]
  split <;> rfl

theorem keys_executeStop (hook : Hook (StopHandler U)) (order : Order U) :
    (executeStop hasData hook order fun _ => none : List (Event U V E)).filterMap Event.key =
      (order hook).entries.keys := by
  rw [executeStop, List.filterMap_flatMap]
  simp only [keys_invoke]
  rw [← List.map_eq_flatMap, keys_execute_stop]

theorem count_keys_of_mem {key : String} (present : key ∈ hook.handlers) :
    (order hook).entries.keys.count key = 1 :=
  List.count_eq_one_of_mem (order hook).nodupKeys ((order hook).mem_keys.mpr present)

theorem count_keys_of_not_mem {key : String} (absent : key ∉ hook.handlers) :
    (order hook).entries.keys.count key = 0 :=
  List.count_eq_zero.mpr fun visited => absent ((order hook).mem_keys.mp visited)

/-! ### The whole shutdown -/

/-- The two handlers that the application adds. -/
def ownHandlers : List (String × StopHandler U) :=
  [("close_connection_db", .closeConnectionDb), ("print_log", .printLog)]

theorem BaseApp.shutdown_eq {b : BaseApp U V} {results : String → Option (HookError E)}
    (free : "close_connection_db" ∉ b.onApplicationStop.handlers) :
    b.shutdown order results =
      (executeStop b.hasData (b.onApplicationStop.addAll ownHandlers) order results, none) := by
  have added : b.onApplicationStop.add "close_connection_db" .closeConnectionDb =
      (b.onApplicationStop.addAll [("close_connection_db", .closeConnectionDb)],
        (none : Option (HookError E))) := by
    rw [← Hook.add_fst (E := E), Hook.add_of_not_mem free]
  rw [shutdown, added]
  dsimp only
  rw [Hook.add_fst, ← Hook.addAll_append]
  rfl

/-- An application with these handlers registered on its stop hook. -/
def BaseApp.withHandlers (adds : List (String × U)) (driver : Drivers.Manager V)
    (hasData : Bool) : BaseApp U V :=
  ⟨Hook.new.addAll (adds.map fun call => (call.1, .registered call.2)), driver, hasData⟩

section Whole

variable {adds : List (String × U)} {driver : Drivers.Manager V}
variable {order' : Order U} {closes : Nat → Option E} {key : String}

theorem mem_withHandlers :
    key ∈ (BaseApp.withHandlers adds driver hasData).onApplicationStop.handlers ↔
      key ∈ adds.map Prod.fst := by
  rw [BaseApp.withHandlers, Hook.mem_addAll, List.map_map]
  rfl

/-- The stop hook in its second execution. -/
def BaseApp.finalHook (adds : List (String × U)) : Hook (StopHandler U) :=
  Hook.new.addAll (adds.map (fun call => (call.1, .registered call.2)) ++ ownHandlers)

theorem mem_finalHook :
    key ∈ (BaseApp.finalHook adds).handlers ↔
      key ∈ adds.map Prod.fst ∨ key = "close_connection_db" ∨ key = "print_log" := by
  rw [BaseApp.finalHook, Hook.mem_addAll, List.map_append, List.mem_append, List.map_map]
  simp [ownHandlers]

/-- A shutdown is an execution of the stop hook, the closing of the drivers and a second
execution with the application's handlers among the others. -/
theorem shutdown_eq (free : "close_connection_db" ∉ adds.map Prod.fst)
    (driver : Drivers.Manager V) (hasData : Bool) (order order' : Order U)
    (results results' : String → Option (HookError E)) (closes : Nat → Option E) :
    ∃ events : List (Drivers.Event V E), events.filterMap Drivers.Event.closed = driver.drivers ∧
      Service.shutdown (BaseApp.withHandlers adds driver hasData) order order' results results'
          closes =
        executeStop hasData (BaseApp.withHandlers adds driver hasData).onApplicationStop order
            results ++
          events.map .driver ++
          executeStop hasData (BaseApp.finalHook adds) order' results' := by
  obtain ⟨errs, events, next, closed, closesAll⟩ := driver.closeAllDriver_closesAll closes
  refine ⟨events, closesAll.closed, ?_⟩
  have free' : "close_connection_db" ∉
      (BaseApp.withHandlers adds next hasData).onApplicationStop.handlers :=
    fun taken => free (mem_withHandlers.mp taken)
  have last : (BaseApp.withHandlers adds next hasData).shutdown order' results' =
      ((executeStop hasData (BaseApp.finalHook adds) order' results' : List (Event U V E)),
        none) := by
    rw [BaseApp.shutdown_eq free', BaseApp.finalHook, Hook.addAll_append]
    rfl
  rw [Service.shutdown, BaseApp.withHandlers, closed]
  exact congrArg (executeStop _ _ order results ++ events.map .driver ++ ·) (congrArg Prod.fst last)

/-- The handlers that ran in a shutdown without failures: those of the first execution and
then those of the second. -/
theorem keys_shutdown (free : "close_connection_db" ∉ adds.map Prod.fst) :
    (Service.shutdown (BaseApp.withHandlers adds driver hasData) order order' (fun _ => none)
        (fun _ => none) closes).filterMap Event.key =
      (order (BaseApp.withHandlers adds driver hasData).onApplicationStop).entries.keys ++
        (order' (BaseApp.finalHook adds)).entries.keys := by
  obtain ⟨events, -, whole⟩ :=
    shutdown_eq free driver hasData order order' (fun _ => none) (fun _ => none) closes
  have silent : (events.map .driver : List (Event U V E)).filterMap Event.key = [] := by
    rw [List.filterMap_map, List.filterMap_eq_nil_iff]
    exact fun _ _ => rfl
  rw [whole, List.filterMap_append, List.filterMap_append, silent, keys_executeStop,
    keys_executeStop, List.append_nil]

/-- A registered handler runs in both executions. -/
theorem count_registered (free : "close_connection_db" ∉ adds.map Prod.fst)
    (registered : key ∈ adds.map Prod.fst) :
    ((Service.shutdown (BaseApp.withHandlers adds driver hasData) order order' (fun _ => none)
        (fun _ => none) closes).filterMap Event.key).count key = 2 := by
  rw [keys_shutdown free, List.count_append, count_keys_of_mem (mem_withHandlers.mpr registered),
    count_keys_of_mem (mem_finalHook.mpr (.inl registered))]

/-- The connection to the database is closed in the second execution only. -/
theorem count_closeConnectionDb (free : "close_connection_db" ∉ adds.map Prod.fst) :
    ((Service.shutdown (BaseApp.withHandlers adds driver hasData) order order' (fun _ => none)
        (fun _ => none) closes).filterMap Event.key).count "close_connection_db" = 1 := by
  rw [keys_shutdown free, List.count_append,
    count_keys_of_not_mem fun taken => free (mem_withHandlers.mp taken),
    count_keys_of_mem (mem_finalHook.mpr (.inr (.inl rfl)))]

/-- The handler under the application's key is the application's. -/
theorem lookup_finalHook (free : "close_connection_db" ∉ adds.map Prod.fst) :
    (BaseApp.finalHook adds).handlers.lookup "close_connection_db" = some .closeConnectionDb := by
  have unregistered : (adds.map fun call => (call.1, StopHandler.registered call.2)).find?
      (·.1 = "close_connection_db") = none := by
    rw [List.find?_eq_none]
    intro call added taken
    obtain ⟨add, mem, rfl⟩ := List.mem_map.mp added
    exact free (List.mem_map.mpr ⟨add, mem, of_decide_eq_true taken⟩)
  rw [BaseApp.finalHook, Hook.lookup_addAll, List.find?_append, unregistered]
  rfl

/-- When the connection to the database is closed, all drivers have been. -/
theorem closes_after_drivers (free : "close_connection_db" ∉ adds.map Prod.fst) :
    ∃ before after, Service.shutdown (BaseApp.withHandlers adds driver hasData) order order'
        (fun _ => none) (fun _ => none) closes =
      before ++ .ran ⟨"close_connection_db", .closeConnectionDb, ()⟩ :: after ∧
      before.filterMap Event.closed = driver.drivers ∧ after.filterMap Event.closed = [] := by
  obtain ⟨events, closed, whole⟩ :=
    shutdown_eq free driver hasData order order' (fun _ => none) (fun _ => none) closes
  have among : "close_connection_db" ∈ (order' (BaseApp.finalHook adds)).entries.keys :=
    (order' _).mem_keys.mpr (mem_finalHook.mpr (.inr (.inl rfl)))
  rw [← keys_execute_stop (E := E), List.mem_map] at among
  obtain ⟨⟨key, handler, ⟨⟩⟩, invoked, rfl⟩ := among
  have found := Hook.lookup_of_mem_execute _ invoked
  rw [lookup_finalHook free] at found
  obtain rfl := Option.some.inj found
  obtain ⟨first, rest, calls⟩ := List.append_of_mem invoked
  have second : (executeStop hasData (BaseApp.finalHook adds) order' fun _ => none) =
      first.flatMap (invoke hasData) ++
        .ran ⟨"close_connection_db", .closeConnectionDb, ()⟩ ::
          ((StopHandler.closeConnectionDb.effects hasData ++ rest.flatMap (invoke hasData) :
            List (Event U V E))) := by
    rw [executeStop, calls, List.flatMap_append, List.flatMap_cons]
    rfl
  rw [whole, second, ← List.append_assoc]
  refine ⟨_, _, rfl, ?_, ?_⟩
  · rw [List.filterMap_append, List.filterMap_append, executeStop, closed_calls, closed_calls,
      List.filterMap_map, List.nil_append, List.append_nil]
    exact closed
  · rw [List.filterMap_append, closed_calls, List.append_nil]
    cases hasData <;> rfl

/-- For every set of registered handlers that leave the application its two keys and return
nil, every pair of orders, all drivers and all results of closing them: each handler runs
exactly once, and so does `close_connection_db` after the drivers, exactly if no handler is
registered. -/
theorem stops_once_iff (adds : List (String × U))
    (unreserved : ∀ call ∈ adds, call.1 ≠ "close_connection_db" ∧ call.1 ≠ "print_log")
    (driver : Drivers.Manager V) (hasData : Bool) (order order' : Order U)
    (closes : Nat → Option E) :
    let b := BaseApp.withHandlers adds driver hasData
    StopsOnce b (Service.shutdown b order order' (fun _ => none) (fun _ => none) closes) ↔
      adds = [] := by
  intro b
  have free : "close_connection_db" ∉ adds.map Prod.fst := by
    intro taken
    obtain ⟨call, added, same⟩ := List.mem_map.mp taken
    exact (unreserved call added).1 same
  constructor
  · intro once
    by_contra some
    obtain ⟨call, added⟩ := List.exists_mem_of_ne_nil adds some
    have registered : call.1 ∈ adds.map Prod.fst := List.mem_map_of_mem added
    have one := once.registered call.1 (mem_withHandlers.mpr registered)
    rw [count_registered free registered] at one
    omega
  · rintro rfl
    refine ⟨fun key registered => ?_, count_closeConnectionDb free, closes_after_drivers free⟩
    exact absurd (mem_withHandlers.mp registered) List.not_mem_nil

/-- With nothing registered the application's handlers run once, after the driver; with two
handlers registered they do not. -/
theorem stops_once_iff_none_or_two :
    let without : BaseApp Nat Nat := BaseApp.withHandlers [] ⟨[⟨0, "fiber", none⟩]⟩ true
    let two : BaseApp Nat Nat :=
      BaseApp.withHandlers [("flush_cache", 0), ("close_files", 1)] ⟨[⟨0, "fiber", none⟩]⟩ true
    ∃ order order' : Order Nat,
      StopsOnce without (Service.shutdown without order order' (fun _ => none)
        (fun _ => none) fun _ => (none : Option String)) ∧
      ¬ StopsOnce two (Service.shutdown two order order' (fun _ => none)
        (fun _ => none) fun _ => (none : Option String)) := by
  intro without two
  let order : Order Nat := fun hook => Classical.choice (RangeOrder.nonempty hook.handlers)
  refine ⟨order, order, ?_, ?_⟩
  · exact (stops_once_iff [] (by simp) _ true order order fun _ => none).mpr rfl
  · intro once
    exact List.cons_ne_nil _ _
      ((stops_once_iff [("flush_cache", 0), ("close_files", 1)] (by simp) _ true order order
        fun _ => none).mp once)

/-- A single registered handler runs twice, whatever the orders. -/
theorem shutdown_runs_handler_twice :
    let b : BaseApp Nat Nat := BaseApp.withHandlers [("flush_cache", 0)] Drivers.Manager.new false
    (∀ order order' : Order Nat, ((Service.shutdown b order order' (fun _ => none)
        (fun _ => none) fun _ => (none : Option String)).filterMap Event.key).count
          "flush_cache" = 2) ∧
      ∃ order order' : Order Nat, ¬ StopsOnce b (Service.shutdown b order order' (fun _ => none)
        (fun _ => none) fun _ => (none : Option String)) := by
  intro b
  have registered : "flush_cache" ∈ ([("flush_cache", 0)] : List (String × Nat)).map Prod.fst := by
    simp
  have twice (order order' : Order Nat) : ((Service.shutdown b order order' (fun _ => none)
      (fun _ => none) fun _ => (none : Option String)).filterMap Event.key).count
        "flush_cache" = 2 := count_registered (by simp) registered
  refine ⟨twice, ?_⟩
  let order : Order Nat := fun hook => Classical.choice (RangeOrder.nonempty hook.handlers)
  refine ⟨order, order, fun once => ?_⟩
  have one := once.registered "flush_cache" (mem_withHandlers.mpr registered)
  rw [twice] at one
  omega

end Whole

end GoOdin.App
