import GoOdin.Interaction.Run
import Mathlib.Data.List.DropRight

/-!
# `driver.Manager`, version 2

The manager keeps the drivers whose `Init` succeeded and closes all of them at once. What
`Init` and `Close` return is given with the call: `Close` by position, since one driver may
be registered twice. A run records what every call returned and the calls it made to the
drivers and to `handleError`, in order.

The account of a run is one list equation (`closed_append_drivers`): the drivers closed so
far, followed by those still registered, are the successful `Init` calls in their order.
Typed access (`Get`, `MustGet`) and locks are left out.
-/

namespace GoOdin.Drivers

open Interaction

variable {V E M : Type*}

/-- `IDriver`. Two drivers may share a name, so `ref` tells them apart; `inst` is what
`Instance()` returns, which may be nil. -/
structure IDriver (V : Type*) where
  ref : Nat
  name : String
  inst : Option V
deriving DecidableEq

/-- The calls that a manager makes. -/
inductive Event (V E : Type*) where
  | init (driver : IDriver V)
  | close (driver : IDriver V)
  | handleError (name : String) (err : E)
deriving DecidableEq

inductive DriverError (E : Type*) where
  /-- `driver cannot be nil`, with a capital letter in the first version -/
  | nilDriver
  /-- The error of `Init` as it is. -/
  | init (err : E)
  /-- `failed to initialize driver %q: %w` -/
  | failedToInitialize (name : String) (err : E)
deriving DecidableEq

/-- `driver %q: %w` -/
structure CloseError (E : Type*) where
  name : String
  err : E
deriving DecidableEq

/-- A call of a manager, with the results of the driver calls that it leads to. -/
inductive Call (V E : Type*) where
  | runDriver (driver : Option (IDriver V)) (init : Option E)
  | instanceOf (name : String)
  | closeAllDriver (closes : Nat → Option E)

inductive Reply (V E : Type*) where
  | ran (err : Option (DriverError E))
  | instanceOf (value : Option V)
  /-- The errors joined; none of them is nil. -/
  | closed (errs : List (CloseError E))
deriving DecidableEq

/-- One call with its reply and the calls made meanwhile. -/
structure Exchange (V E : Type*) where
  reply : Reply V E
  events : List (Event V E)
deriving DecidableEq

/-- A manager of either version and everything that has passed. -/
structure Session (M V E : Type*) where
  manager : M
  history : List (Exchange V E)

namespace Session

def step (serve : M → Call V E → M × Exchange V E) (s : Session M V E) (call : Call V E) :
    Session M V E :=
  ⟨(serve s.manager call).1, s.history ++ [(serve s.manager call).2]⟩

def events (s : Session M V E) : List (Event V E) :=
  s.history.flatMap Exchange.events

theorem events_step (serve : M → Call V E → M × Exchange V E) (s : Session M V E)
    (call : Call V E) :
    (s.step serve call).events = s.events ++ (serve s.manager call).2.events := by
  rw [events, step, List.flatMap_append, List.flatMap_singleton]
  rfl

end Session

/-- `driver.Manager`; a nil slice and an empty one are the same to it. -/
structure Manager (V : Type*) where
  drivers : List (IDriver V)
deriving DecidableEq

namespace Manager

def new : Manager V := ⟨[]⟩

def instanceOf (m : Manager V) (name : String) : Option V :=
  (m.drivers.find? (·.name = name)).bind IDriver.inst

def has (m : Manager V) (name : String) : Bool :=
  m.drivers.any (·.name = name)

def runDriver (m : Manager V) (d : Option (IDriver V)) (init : Option E) :
    Manager V × Exchange V E :=
  match d with
  | none => (m, ⟨.ran (some .nilDriver), []⟩)
  | some d =>
      match init with
      | some err => (m, ⟨.ran (some (.failedToInitialize d.name err)), [.init d]⟩)
      | none => (⟨m.drivers ++ [d]⟩, ⟨.ran none, [.init d]⟩)

/-- One round of the loop in `CloseAllDriver`, which goes on after a failure. -/
def closeOne (closes : Nat → Option E) (s : List (Event V E) × List (CloseError E))
    (entry : IDriver V × Nat) : List (Event V E) × List (CloseError E) :=
  match closes entry.2 with
  | some err =>
      (s.1 ++ [.close entry.1, .handleError entry.1.name err], s.2 ++ [⟨entry.1.name, err⟩])
  | none => (s.1 ++ [.close entry.1], s.2)

def closeAllDriver (m : Manager V) (closes : Nat → Option E) : Manager V × Exchange V E :=
  let (events, errs) := runFrom (closeOne closes) ([], []) m.drivers.zipIdx
  (⟨[]⟩, ⟨.closed errs, events⟩)

def serve (m : Manager V) : Call V E → Manager V × Exchange V E
  | .runDriver d init => m.runDriver d init
  | .instanceOf name => (m, ⟨.instanceOf (m.instanceOf name), []⟩)
  | .closeAllDriver closes => m.closeAllDriver closes

def start : Session (Manager V) V E := ⟨new, []⟩

end Manager

/-! ### What is read off a call and a record -/

/-- The driver that a call initialises with success. -/
def Call.started : Call V E → Option (IDriver V)
  | .runDriver d none => d
  | _ => none

def Call.closesAll : Call V E → Bool
  | .closeAllDriver _ => true
  | _ => false

/-- A driver is never started by a call that closes. -/
theorem Call.started_of_closesAll {call : Call V E} (closes : call.closesAll = true) :
    call.started = none := by
  cases call with
  | closeAllDriver => rfl
  | _ => exact nomatch closes

def Event.closed : Event V E → Option (IDriver V)
  | .close d => some d
  | _ => none

def Event.reported : Event V E → Option (CloseError E)
  | .handleError name err => some ⟨name, err⟩
  | _ => none

namespace Manager

/-! ### Closing -/

/-- What closing one driver adds to the record. -/
def attempt (closes : Nat → Option E) (entry : IDriver V × Nat) : List (Event V E) :=
  .close entry.1 :: ((closes entry.2).map (.handleError entry.1.name)).toList

def failure (closes : Nat → Option E) (entry : IDriver V × Nat) : Option (CloseError E) :=
  (closes entry.2).map (⟨entry.1.name, ·⟩)

variable {m : Manager V} {closes : Nat → Option E}

theorem runFrom_closeOne (s : List (Event V E) × List (CloseError E))
    (entries : List (IDriver V × Nat)) :
    runFrom (closeOne closes) s entries =
      (s.1 ++ entries.flatMap (attempt closes), s.2 ++ entries.filterMap (failure closes)) := by
  induction entries generalizing s with
  | nil => simp
  | cons entry entries ih =>
      rw [runFrom_cons, ih]
      cases result : closes entry.2 <;> simp [closeOne, attempt, failure, result]

theorem closeAllDriver_eq (m : Manager V) (closes : Nat → Option E) :
    m.closeAllDriver closes =
      (⟨[]⟩, ⟨.closed (m.drivers.zipIdx.filterMap (failure closes)),
        m.drivers.zipIdx.flatMap (attempt closes)⟩) := by
  rw [closeAllDriver, runFrom_closeOne]
  rfl

/-- Every driver is closed once, in order. -/
theorem closed_attempts (entries : List (IDriver V × Nat)) :
    (entries.flatMap (attempt closes)).filterMap Event.closed = entries.map Prod.fst := by
  induction entries with
  | nil => rfl
  | cons entry entries ih =>
      rw [List.flatMap_cons, List.filterMap_append, ih]
      cases result : closes entry.2 <;> simp [attempt, Event.closed, result]

/-- The failures are reported, and nothing else. -/
theorem reported_attempts (entries : List (IDriver V × Nat)) :
    (entries.flatMap (attempt closes)).filterMap Event.reported =
      entries.filterMap (failure closes) := by
  induction entries with
  | nil => rfl
  | cons entry entries ih =>
      rw [List.flatMap_cons, List.filterMap_append, ih]
      cases result : closes entry.2 <;>
        simp [attempt, failure, Event.reported, result, List.filterMap_cons]

/-- What one `CloseAllDriver` does, whatever the drivers return: it closes each of them once
and in order, hands the failing ones to `handleError`, returns nil if there is none and
keeps no driver. -/
structure ClosesAll (m : Manager V) (closes : Nat → Option E) (errs : List (CloseError E))
    (events : List (Event V E)) (next : Manager V) : Prop where
  closed : events.filterMap Event.closed = m.drivers
  reported : events.filterMap Event.reported = m.drivers.zipIdx.filterMap (failure closes)
  returned : errs = [] ↔ ∀ i < m.drivers.length, closes i = none
  cleared : next.drivers = []

theorem closeAllDriver_closesAll (m : Manager V) (closes : Nat → Option E) :
    ∃ errs events next, m.closeAllDriver closes = (next, ⟨.closed errs, events⟩) ∧
      m.ClosesAll closes errs events next := by
  refine ⟨_, _, _, m.closeAllDriver_eq closes, ?_, reported_attempts _, ?_, rfl⟩
  · rw [closed_attempts, List.zipIdx_map_fst]
  · rw [List.filterMap_eq_nil_iff]
    constructor
    · intro passed i bound
      have entry : (m.drivers[i], i) ∈ m.drivers.zipIdx :=
        List.mem_zipIdx_iff_getElem?.mpr (List.getElem?_eq_getElem bound)
      exact Option.map_eq_none_iff.mp (passed _ entry)
    · intro passed entry mem
      have bound := (List.getElem?_eq_some_iff.mp (List.mem_zipIdx_iff_getElem?.mp mem)).1
      exact Option.map_eq_none_iff.mpr (passed entry.2 bound)

/-! ### Whole runs -/

/-- What one call does to the registered drivers. -/
theorem drivers_serve (m : Manager V) (call : Call V E) :
    (m.serve call).1.drivers =
      if call.closesAll then [] else m.drivers ++ [call].filterMap Call.started := by
  obtain ⟨_ | d, _ | err⟩ | name | closes := call
  case closeAllDriver =>
    show (m.closeAllDriver closes).1.drivers = []
    rw [closeAllDriver_eq]
  all_goals simp [serve, runDriver, Call.closesAll, Call.started, List.filterMap_cons]

/-- What one call closes: everything or nothing. -/
theorem closed_serve (m : Manager V) (call : Call V E) :
    (m.serve call).2.events.filterMap Event.closed =
      if call.closesAll then m.drivers else [] := by
  obtain ⟨_ | d, _ | err⟩ | name | closes := call
  case closeAllDriver =>
    show (m.closeAllDriver closes).2.events.filterMap Event.closed = m.drivers
    rw [closeAllDriver_eq, closed_attempts, List.zipIdx_map_fst]
  all_goals rfl

/-- The drivers whose `Init` succeeded since the last `CloseAllDriver`, in call order. -/
def startedSinceClose (calls : List (Call V E)) : List (IDriver V) :=
  (calls.rtakeWhile fun call => !call.closesAll).filterMap Call.started

theorem drivers_run (calls : List (Call V E)) :
    (runFrom (Session.step serve) start calls).manager.drivers = startedSinceClose calls := by
  induction calls using List.reverseRecOn with
  | nil => rfl
  | append_singleton calls call ih =>
      rw [runFrom_concat]
      show (serve (runFrom (Session.step serve) start calls).manager call).1.drivers = _
      rw [drivers_serve, ih]
      cases closes : call.closesAll <;>
        simp [startedSinceClose, closes, List.filterMap_append]

/-- The drivers closed so far and then those still registered are the successful `Init`
calls in their order. -/
theorem closed_append_drivers (calls : List (Call V E)) :
    let s := runFrom (Session.step serve) start calls
    s.events.filterMap Event.closed ++ s.manager.drivers = calls.filterMap Call.started := by
  induction calls using List.reverseRecOn with
  | nil => rfl
  | append_singleton calls call ih =>
      intro s
      have last : s = Session.step serve (runFrom (Session.step serve) start calls) call :=
        runFrom_concat _ _ _
      rw [last, Session.events_step, List.filterMap_append, closed_serve, List.filterMap_append,
        ← ih]
      show _ ++ (serve (runFrom (Session.step serve) start calls).manager call).1.drivers = _
      rw [drivers_serve]
      cases closes : call.closesAll with
      | true => simp [Call.started_of_closesAll closes]
      | false => simp

/-- For every sequence of calls, at every moment of it: the registered drivers are those
whose `Init` succeeded since the last `CloseAllDriver`, `Has` knows their names and no other,
and a `CloseAllDriver` would close each of them once. Over the run, the i-th `Close` is of the
i-th successful `Init`: no registration is closed twice, and no driver without one is ever
closed. -/
theorem lifecycle_exact (calls : List (Call V E)) :
    let s := runFrom (Session.step serve) start calls
    let closed := s.events.filterMap Event.closed
    s.manager.drivers = startedSinceClose calls ∧
      (∀ name, s.manager.has name = true ↔ ∃ d ∈ s.manager.drivers, d.name = name) ∧
      (∀ closes : Nat → Option E, ∃ errs events next,
        s.manager.closeAllDriver closes = (next, ⟨.closed errs, events⟩) ∧
          s.manager.ClosesAll closes errs events next) ∧
      closed ++ s.manager.drivers = calls.filterMap Call.started ∧
      (∀ (i : Nat) (d : IDriver V), closed[i]? = some d →
        (calls.filterMap Call.started)[i]? = some d) ∧
      ∀ d, (∀ call ∈ calls, call.started ≠ some d) → d ∉ closed := by
  intro s closed
  have account : closed ++ s.manager.drivers = calls.filterMap Call.started :=
    closed_append_drivers calls
  refine ⟨drivers_run calls, fun name => ?_, closeAllDriver_closesAll _, account, ?_, ?_⟩
  · simp [has]
  · intro i d isClosed
    rw [← account, List.getElem?_append_left (List.getElem?_eq_some_iff.mp isClosed).1]
    exact isClosed
  · intro d unstarted isClosed
    have started : d ∈ calls.filterMap Call.started := account ▸ List.mem_append_left _ isClosed
    obtain ⟨call, made, starts⟩ := List.mem_filterMap.mp started
    exact unstarted call made starts

end Manager

end GoOdin.Drivers
