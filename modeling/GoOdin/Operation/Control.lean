import GoOdin.Interaction.Loop
import GoOdin.Memory.LastWrite
import GoOdin.Operation.Message

/-!
# `MasterRegistry` and the control loop of `Master.Run`

Lines from a controller connection become commands; the control loop passes each to
`Execute`, which looks its name up and runs the handler. `Register` files a handler under
the upper-case name, and `Execute` looks up the name as it was typed. An error of
`Execute`, for an unknown name as for a failing handler, ends the loop.

Handlers are known by an identifier of any type; the error a handler returns for an event
comes with the event. `strings.ToUpper` is a parameter.
-/

namespace GoOdin.Operation

open Interaction Memory

variable {H : Type*}

/-- The map from names to handlers. -/
structure MasterRegistry (H : Type*) where
  commands : String → Option H

/-- A command on the `Event` channel, with the error of its handler, if any. -/
structure ControlEvent where
  command : Command
  outcome : Option String := none
  deriving DecidableEq, Repr

/-- The event `handleConnectionController` makes of a line. -/
def ControlEvent.ofLine (line : String) (outcome : Option String) : ControlEvent where
  command := { name := line, type := .ping, payload := some line.toUTF8.toList }
  outcome := outcome

namespace MasterRegistry

def new : MasterRegistry H := ⟨fun _ => none⟩

/-- `Register`. The description and the usage are not stored. -/
def register (toUpper : String → String) (r : MasterRegistry H) (name : String)
    (handler : H) : MasterRegistry H :=
  ⟨fun key => if key = toUpper name then some handler else r.commands key⟩

/-- What one `Execute` returns, and the handler it ran. -/
structure Executed (H : Type*) where
  text : String
  err : Option String
  ran : Option H

def unknownCommand (name : String) : String :=
  "Unknown command: " ++ name ++ ". Type HELP for list."

def execute (r : MasterRegistry H) (e : ControlEvent) : Executed H :=
  match r.commands e.command.name with
  | none => ⟨unknownCommand e.command.name, some (unknownCommand e.command.name), none⟩
  | some handler => ⟨"", e.outcome, some handler⟩

/-- The calls of `Execute` and the handlers run so far. -/
structure ControlLog (H : Type*) where
  executed : List ControlEvent := []
  ran : List (H × Command) := []

/-- The handler that an event names, with its command. -/
def handlerCall (r : MasterRegistry H) (e : ControlEvent) : Option (H × Command) :=
  (r.commands e.command.name).map (·, e.command)

/-- The log after one call of `Execute`. -/
def logged (r : MasterRegistry H) (log : ControlLog H) (e : ControlEvent) : ControlLog H where
  executed := log.executed ++ [e]
  ran := log.ran ++ ((r.execute e).ran.map (·, e.command)).toList

/-- The body of the control loop. -/
def controlStep (r : MasterRegistry H) (log : ControlLog H) (e : ControlEvent) :
    ForInStep (ControlLog H) :=
  match (r.execute e).err with
  | some _ => .done (r.logged log e)
  | none => .yield (r.logged log e)

/-- The loop on the events that arrive, in order. -/
def controlLoop (r : MasterRegistry H) (events : List ControlEvent) : ControlLog H :=
  rangeUntil r.controlStep {} events

/-- `Execute` returns nil: the name is registered and its handler succeeds. -/
def Succeeds (r : MasterRegistry H) (e : ControlEvent) : Prop :=
  r.commands e.command.name ≠ none ∧ e.outcome = none

variable {r : MasterRegistry H}

theorem execute_err_eq_none_iff {e : ControlEvent} : (r.execute e).err = none ↔ r.Succeeds e := by
  unfold execute Succeeds
  split
  · next unknown => simp [unknown]
  · next known => simp [known]

theorem execute_ran (r : MasterRegistry H) (e : ControlEvent) :
    (r.execute e).ran = r.commands e.command.name := by
  unfold execute
  split
  · next unknown => rw [unknown]
  · next known => rw [known]

/-- The body leaves the loop exactly if `Execute` fails. -/
theorem controlStep_eq (r : MasterRegistry H) (log : ControlLog H) (e : ControlEvent) :
    r.controlStep log e =
      if (r.execute e).err.isSome then .done (r.logged log e) else .yield (r.logged log e) := by
  unfold controlStep
  cases (r.execute e).err <;> rfl

theorem controlLoop_eq (r : MasterRegistry H) (events : List ControlEvent) :
    r.controlLoop events =
      runFrom r.logged {} (takeThrough (fun e => (r.execute e).err.isSome) events) :=
  rangeUntil_eq_runFrom (controlStep_eq r) {} events

/-- A run of calls logs each event once, and each handler it names once. -/
theorem runFrom_logged (r : MasterRegistry H) (log : ControlLog H) (events : List ControlEvent) :
    runFrom r.logged log events =
      { executed := log.executed ++ events
        ran := log.ran ++ events.filterMap r.handlerCall } := by
  induction events generalizing log with
  | nil => simp
  | cons e events ih =>
      rw [runFrom_cons, ih, logged, execute_ran]
      cases known : r.commands e.command.name <;> simp [handlerCall, known]

/-- The control loop passes every event to `Execute` in order, and runs the handler of each
registered name once, exactly if no event but the last one has an unknown name or a
failing handler. -/
theorem controlLoop_serves_all_iff (r : MasterRegistry H) (events : List ControlEvent) :
    ((r.controlLoop events).executed = events ∧
        (r.controlLoop events).ran = events.filterMap r.handlerCall) ↔
      ∀ e ∈ events.dropLast, r.Succeeds e := by
  rw [controlLoop_eq, runFrom_logged]
  have cut : takeThrough (fun e => (r.execute e).err.isSome) events = events ↔
      ∀ e ∈ events.dropLast, r.Succeeds e := by
    rw [takeThrough_eq_self_iff]
    simp only [Option.isSome_eq_false_iff, Option.isNone_iff_eq_none, execute_err_eq_none_iff]
  dsimp only
  rw [List.nil_append, List.nil_append, cut]
  refine ⟨And.left, fun served => ⟨served, ?_⟩⟩
  rw [cut.mpr served]

/-- Upper case by character, for concrete runs. -/
def upperCase (s : String) : String := String.ofList (s.toList.map Char.toUpper)

/-- A typing error ends the control loop: the `STOP` after it is not even looked up. -/
theorem unknown_command_ends_loop :
    let r : MasterRegistry Nat := register upperCase new "stop" 7
    let events := [ControlEvent.ofLine "STPO" none, ControlEvent.ofLine "STOP" none]
    (r.controlLoop events).executed = [ControlEvent.ofLine "STPO" none] ∧
      (r.controlLoop events).ran = [] ∧
      events.filterMap r.handlerCall = [(7, (ControlEvent.ofLine "STOP" none).command)] :=
  ⟨rfl, rfl, rfl⟩

/-! ## Names up to letter case -/

/-- The registry after these `Register` calls. -/
def registerAll (toUpper : String → String) (calls : List (String × H)) : MasterRegistry H :=
  runFrom (fun r call => r.register toUpper call.1 call.2) new calls

/-- `drivers/master.RegisterCommand`. -/
def registerCommand (toUpper : String → String) (noop : H) : MasterRegistry H :=
  registerAll toUpper [("noop", noop)]

/-- The handler registered last under a name that equals this one up to letter case. -/
def lastUpToCase (toUpper : String → String) (calls : List (String × H)) (name : String) :
    Option H :=
  lastWrite (calls.map fun call => (toUpper call.1, call.2)) (toUpper name)

theorem commands_runFrom_register (toUpper : String → String) (r : MasterRegistry H)
    (calls : List (String × H)) (key : String) :
    (runFrom (fun r call => r.register toUpper call.1 call.2) r calls).commands key =
      (lastWrite (calls.map fun call => (toUpper call.1, call.2)) key).or (r.commands key) := by
  induction calls generalizing r with
  | nil => simp
  | cons call calls ih =>
      rw [runFrom_cons, ih, List.map_cons, lastWrite_cons, Option.or_assoc]
      congr 1
      by_cases same : key = toUpper call.1
      · simp [register, same]
      · simp [register, same, Ne.symm same]

/-- The registry finds the last registration whose upper-case name is the name itself. -/
theorem commands_registerAll (toUpper : String → String) (calls : List (String × H))
    (key : String) :
    (registerAll toUpper calls).commands key =
      lastWrite (calls.map fun call => (toUpper call.1, call.2)) key := by
  rw [registerAll, commands_runFrom_register]
  exact Option.or_none

/-- `Execute` answers that the command is unknown. -/
def ReportsUnknown (r : MasterRegistry H) (e : ControlEvent) : Prop :=
  (r.execute e).text = unknownCommand e.command.name ∧
    (r.execute e).err = some (unknownCommand e.command.name)

theorem unknownCommand_ne_empty (name : String) : unknownCommand name ≠ "" := by
  intro empty
  have rest := (String.append_eq_empty_iff.mp empty).2
  exact absurd rest (by simp)

theorem reportsUnknown_iff {e : ControlEvent} :
    r.ReportsUnknown e ↔ r.commands e.command.name = none := by
  unfold ReportsUnknown execute
  cases known : r.commands e.command.name with
  | none => simp
  | some handler => simp [Ne.symm (unknownCommand_ne_empty e.command.name)]

/-- No registered name equals this one up to letter case. -/
theorem lastUpToCase_eq_none_iff {toUpper : String → String} {calls : List (String × H)}
    {name : String} :
    lastUpToCase toUpper calls name = none ↔
      ∀ call ∈ calls, toUpper call.1 ≠ toUpper name := by
  simp [lastUpToCase, lastWrite_eq_none_iff]

section Case

variable {toUpper : String → String} (idempotent : ∀ s, toUpper (toUpper s) = toUpper s)

include idempotent in
/-- After any registrations, for every command: `Execute` runs the handler registered last
under its name up to letter case, and reports an unknown command exactly if there is none,
if and only if the name is all upper case or equals no registered name up to case. -/
theorem execute_ignores_case_iff (calls : List (String × H)) (e : ControlEvent) :
    let r := registerAll toUpper calls
    ((r.execute e).ran = lastUpToCase toUpper calls e.command.name ∧
        (r.ReportsUnknown e ↔ ∀ call ∈ calls, toUpper call.1 ≠ toUpper e.command.name)) ↔
      (toUpper e.command.name = e.command.name ∨
        ∀ call ∈ calls, toUpper call.1 ≠ toUpper e.command.name) := by
  intro r
  rw [reportsUnknown_iff, execute_ran, ← lastUpToCase_eq_none_iff, commands_registerAll]
  constructor
  · rintro ⟨found, -⟩
    cases last : lastUpToCase toUpper calls e.command.name with
    | none => exact .inr rfl
    | some handler =>
        -- what the registry finds is filed under an upper-case name
        rw [last] at found
        have filed := mem_of_lastWrite found
        obtain ⟨call, -, filed⟩ := List.mem_map.mp filed
        have name : toUpper call.1 = e.command.name := congrArg Prod.fst filed
        left
        rw [← name, idempotent]
  · rintro (upper | absent)
    · rw [lastUpToCase, upper]
      exact ⟨rfl, Iff.rfl⟩
    · have missing : lastWrite (calls.map fun call => (toUpper call.1, call.2))
          e.command.name = none := by
        simp only [lastWrite_eq_none_iff, List.mem_map, not_exists, not_and]
        rintro _ ⟨call, mem, rfl⟩ (name : toUpper call.1 = e.command.name)
        apply lastUpToCase_eq_none_iff.mp absent call mem
        rw [← name, idempotent]
      rw [missing, absent]
      exact ⟨rfl, Iff.rfl⟩

end Case

/-- A letter in upper case is no letter in lower case. -/
theorem toUpper_toUpper (c : Char) : c.toUpper.toUpper = c.toUpper := by
  by_cases lower : 'a'.val ≤ c.val ∧ c.val ≤ 'z'.val
  · have letter : c.toUpper = ⟨c.val + ('A'.val - 'a'.val), _⟩ := dif_pos lower
    refine dif_neg fun again => ?_
    rw [letter] at again
    simp only [Char.reduceVal, UInt32.reduceSub, UInt32.le_iff_toNat_le, UInt32.toNat_add,
      UInt32.reduceToNat] at lower again
    omega
  · have same : c.toUpper = c := dif_neg lower
    rw [same, same]

theorem upperCase_upperCase (s : String) : upperCase (upperCase s) = upperCase s := by
  have again : Char.toUpper ∘ Char.toUpper = Char.toUpper := funext toUpper_toUpper
  rw [upperCase, upperCase, String.toList_ofList, List.map_map, again]

/-- `STOP`, registered as `stop`, runs when it is typed in upper case. -/
theorem execute_ignores_case_iff_upper :
    ((registerAll upperCase [("stop", 7)]).execute (ControlEvent.ofLine "STOP" none)).ran =
      lastUpToCase upperCase [("stop", 7)] "STOP" :=
  ((execute_ignores_case_iff upperCase_upperCase [("stop", 7)]
    (ControlEvent.ofLine "STOP" none)).mpr (.inl (by decide))).1

/-- The one command that the master registers is unknown under the name it is registered
with. -/
theorem noop_is_unknown :
    (registerCommand upperCase 7).execute (ControlEvent.ofLine "noop" none) =
        ⟨unknownCommand "noop", some (unknownCommand "noop"), none⟩ ∧
      lastUpToCase upperCase [("noop", 7)] "noop" = some 7 :=
  ⟨rfl, rfl⟩

end MasterRegistry

end GoOdin.Operation
