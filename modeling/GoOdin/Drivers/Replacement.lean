import GoOdin.Drivers.Manager

/-!
# `driver.Driver`, version 1, and its replacement

The first version keeps a driver even if its `Init` failed, tells a nil slice from an empty
one and never returns an error from `CloseAllDriver`. Where every `Init` succeeds, a caller
sees no difference to `Manager` but that error: not after a `CloseAllDriver` either, which
leaves the first version with a nil slice.
-/

namespace GoOdin.Drivers

open Interaction

variable {V E : Type*}

/-- `driver.Driver`; `none` is the nil slice. -/
structure Driver (V : Type*) where
  drivers : Option (List (IDriver V))
deriving DecidableEq

namespace Driver

def newDriver : Driver V := ⟨some []⟩

/-- The drivers that a `range` over the slice visits. -/
def ranged (d : Driver V) : List (IDriver V) :=
  d.drivers.getD []

def instanceOf (d : Driver V) (name : String) : Option V :=
  if d.drivers.isNone then none
  else (d.ranged.find? (·.name = name)).bind IDriver.inst

/-- The driver is appended when `Init` has returned, with whatever result. -/
def runDriver (d : Driver V) (driver : Option (IDriver V)) (init : Option E) :
    Driver V × Exchange V E :=
  match driver with
  | none => (d, ⟨.ran (some .nilDriver), []⟩)
  | some driver => (⟨some (d.ranged ++ [driver])⟩, ⟨.ran (init.map .init), [.init driver]⟩)

def closeOne (closes : Nat → Option E) (events : List (Event V E)) (entry : IDriver V × Nat) :
    List (Event V E) :=
  match closes entry.2 with
  | some err => events ++ [.close entry.1, .handleError entry.1.name err]
  | none => events ++ [.close entry.1]

def closeAllDriver (d : Driver V) (closes : Nat → Option E) : Driver V × Exchange V E :=
  let events :=
    if d.ranged.length > 0 then runFrom (closeOne closes) [] d.ranged.zipIdx else []
  (⟨none⟩, ⟨.closed [], events⟩)

def serve (d : Driver V) : Call V E → Driver V × Exchange V E
  | .runDriver driver init => d.runDriver driver init
  | .instanceOf name => (d, ⟨.instanceOf (d.instanceOf name), []⟩)
  | .closeAllDriver closes => d.closeAllDriver closes

def start : Session (Driver V) V E := ⟨newDriver, []⟩

end Driver

/-- Every driver that the call initialises succeeds. -/
def Call.InitSucceeds : Call V E → Prop
  | .runDriver (some _) init => init = none
  | _ => True

/-- What a caller sees of a reply: all of it, but of an error only that there is one, and
nothing of the error of `CloseAllDriver`. -/
inductive Reply.View (V : Type*) where
  | ran (failed : Bool)
  | instanceOf (value : Option V)
  | closed
deriving DecidableEq

def Reply.view : Reply V E → Reply.View V
  | .ran err => .ran err.isSome
  | .instanceOf value => .instanceOf value
  | .closed _ => .closed

def Exchange.view (x : Exchange V E) : Reply.View V × List (Event V E) :=
  (x.reply.view, x.events)

variable {d : Driver V} {m : Manager V}

/-- The nil slice holds no driver, so the test for it changes nothing. -/
theorem Driver.instanceOf_eq (d : Driver V) (name : String) :
    d.instanceOf name = (d.ranged.find? (·.name = name)).bind IDriver.inst := by
  obtain ⟨_ | drivers⟩ := d <;> rfl

/-- Both loops make the same calls. -/
theorem Driver.runFrom_closeOne (closes : Nat → Option E) (events : List (Event V E))
    (entries : List (IDriver V × Nat)) :
    runFrom (Driver.closeOne closes) events entries =
      events ++ entries.flatMap (Manager.attempt closes) := by
  induction entries generalizing events with
  | nil => simp
  | cons entry entries ih =>
      rw [runFrom_cons, ih]
      cases result : closes entry.2 <;> simp [Driver.closeOne, Manager.attempt, result]

theorem Driver.closeAllDriver_eq (d : Driver V) (closes : Nat → Option E) :
    d.closeAllDriver closes =
      (⟨none⟩, ⟨.closed [], d.ranged.zipIdx.flatMap (Manager.attempt closes)⟩) := by
  rw [Driver.closeAllDriver, Driver.runFrom_closeOne]
  cases d.ranged <;> rfl

/-- The two versions hold the same drivers. -/
def SameDrivers (d : Driver V) (m : Manager V) : Prop :=
  d.ranged = m.drivers

/-- One call, on versions that hold the same drivers, looks the same and leaves them with
the same drivers. -/
theorem serve_view (same : SameDrivers d m) {call : Call V E} (succeeds : call.InitSucceeds) :
    SameDrivers (d.serve call).1 (m.serve call).1 ∧
      (d.serve call).2.view = (m.serve call).2.view := by
  cases call with
  | runDriver driver init =>
      cases driver with
      | none => exact ⟨same, rfl⟩
      | some driver =>
          obtain rfl : init = none := succeeds
          refine ⟨?_, rfl⟩
          show d.ranged ++ [driver] = m.drivers ++ [driver]
          rw [same]
  | instanceOf name =>
      refine ⟨same, ?_⟩
      show (Reply.View.instanceOf (d.instanceOf name), []) = (.instanceOf (m.instanceOf name), [])
      rw [d.instanceOf_eq, Manager.instanceOf, same]
  | closeAllDriver closes =>
      show SameDrivers (d.closeAllDriver closes).1 (m.closeAllDriver closes).1 ∧
        (d.closeAllDriver closes).2.view = (m.closeAllDriver closes).2.view
      rw [d.closeAllDriver_eq, m.closeAllDriver_eq, same]
      exact ⟨rfl, rfl⟩

/-- Two sessions that a caller cannot tell apart, and will not by the next call. -/
structure Session.Alike (s : Session (Driver V) V E) (t : Session (Manager V) V E) : Prop where
  drivers : SameDrivers s.manager t.manager
  seen : s.history.map Exchange.view = t.history.map Exchange.view

theorem Session.Alike.step {s : Session (Driver V) V E} {t : Session (Manager V) V E}
    (alike : s.Alike t) {call : Call V E} (succeeds : call.InitSucceeds) :
    (s.step Driver.serve call).Alike (t.step Manager.serve call) := by
  obtain ⟨same, view⟩ := serve_view alike.drivers succeeds
  refine ⟨same, ?_⟩
  show (s.history ++ [(s.manager.serve call).2]).map Exchange.view =
    (t.history ++ [(t.manager.serve call).2]).map Exchange.view
  simp only [List.map_append, List.map_singleton, alike.seen, view]

/-- For every sequence of calls in which every `Init` succeeds, the two versions return the
same to `RunDriver` and `Instance` and make the same `Init`, `Close` and `handleError` calls in
the same order. -/
theorem manager_replaces_driver (calls : List (Call V E))
    (succeed : ∀ call ∈ calls, call.InitSucceeds) :
    (runFrom (Session.step Driver.serve) Driver.start calls).history.map Exchange.view =
      (runFrom (Session.step Manager.serve) Manager.start calls).history.map Exchange.view := by
  have initial : (Driver.start : Session (Driver V) V E).Alike Manager.start := ⟨rfl, rfl⟩
  have alike := (admitted_of_forall succeed).simulation (Session.step Manager.serve) Session.Alike
    (fun s t call alike succeeds => alike.step succeeds) initial
  exact alike.seen

/-- Two drivers of one name, a failing `Close`, and a driver started afterwards. -/
theorem manager_replaces_driver_after_close :
    let db : IDriver Nat := ⟨0, "db", some 1⟩
    let replica : IDriver Nat := ⟨1, "db", none⟩
    let calls : List (Call Nat String) :=
      [.runDriver (some db) none, .runDriver none none, .runDriver (some replica) none,
        .instanceOf "db", .closeAllDriver fun i => if i = 0 then some "busy" else none,
        .instanceOf "db", .runDriver (some replica) none, .closeAllDriver fun _ => none]
    (runFrom (Session.step Driver.serve) Driver.start calls).history.map Exchange.view =
      (runFrom (Session.step Manager.serve) Manager.start calls).history.map Exchange.view := by
  intro db replica calls
  exact manager_replaces_driver calls (by simp [calls, Call.InitSucceeds])

end GoOdin.Drivers
