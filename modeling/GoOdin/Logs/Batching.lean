import GoOdin.Interaction.Pool
import GoOdin.Logs.LogHandler

/-!
# Concurrent calls on one `LogHandler`

The two sections under the mutex are single steps: `Handle` appends an entry and reads off
the length, `WriteAll` copies the entries out and clears the slice. The test whether a flush
is due comes after the mutex is released, so other calls may append or flush in between.

That the batches and the pending entries are the appended ones holds for any programs made of
these steps. Which entries are appended is about the programs: a call appends its entry with
its first step if the filter accepts it, and nothing after that. So is it that a full batch does
not stay pending: whoever makes the length reach the batch size is about to flush, until
somebody has flushed.
-/

namespace GoOdin.Logs

open Interaction Memory

variable {A : Type}

/-- A handler and the arrays its slice points to. -/
structure LoggerState (A : Type) where
  heap : Heap LogRef
  handler : LogHandler A

namespace LoggerState

def start (opt : LogOptions) : LoggerState A where
  heap := ⟨fun _ _ => 0, 0⟩
  handler := .new opt

def pending (s : LoggerState A) : List LogRef := s.heap.read s.handler.logs

end LoggerState

/-- The steps of `Handle` and `WriteAll`. What `WriteFunc` returns is part of its call. -/
inductive LogCall where
  | push (log : LogRef) (room : Nat)
  | take
  | write (batch : List LogRef) (result : Option String)

abbrev LogCall.Answer : LogCall → Type
  | .push _ _ => Nat
  | .take => Option (List LogRef)
  | .write _ _ => Unit

def serve : Service LogCall LogCall.Answer String (LoggerState A)
  | s, .push log room =>
      let pushed := s.handler.push s.heap log room
      (.ok pushed.1, ⟨pushed.2.2, pushed.2.1⟩)
  | s, .take =>
      let taken := s.handler.take s.heap
      (.ok taken.1, { s with handler := taken.2 })
  | s, .write _ result =>
      match result with
      | none => (.ok (), s)
      | some e => (.error e, s)

abbrev LogProgram := Program LogCall LogCall.Answer String Unit

namespace LogHandler

/-- The call of `WriteFunc`, whose error is returned. -/
def callWriteFunc (batch : List LogRef) (result : Option String) : LogProgram :=
  .attempt (.write batch result) fun _ => .ret (.ok ())

def writeAll (result : Option String) : LogProgram :=
  .attempt .take fun taken : Option (List LogRef) =>
    match taken with
    | none => .ret (.ok ())
    | some batch => callWriteFunc batch result

/-- `Handle` from the filter on. -/
def handle (l : LogHandler A) (log : LogRef) (accepted : Bool) (room : Nat)
    (result : Option String) : LogProgram :=
  if accepted then
    .attempt (.push log room) fun logLength : Nat =>
      if l.isDue logLength then writeAll result else .ret (.ok ())
  else .ret (.ok ())

end LogHandler

/-- One call by a user of the handler, with its entry, the filter's verdict, the room a
growing array gets and what `WriteFunc` returns. -/
inductive Operation where
  | handle (log : LogRef) (accepted : Bool) (room : Nat) (result : Option String)
  | writeAll (result : Option String)

def Operation.program (l : LogHandler A) : Operation → LogProgram
  | .handle log accepted room result => l.handle log accepted room result
  | .writeAll result => LogHandler.writeAll result

/-- The entry of the call, if it has one and the filter accepts it. -/
def Operation.accepted : Operation → Option LogRef
  | .handle log true _ _ => some log
  | .handle _ false _ _ => none
  | .writeAll _ => none

/-- What `WriteFunc` returns if the call gets there. -/
def Operation.result : Operation → Option String
  | .handle _ _ _ result => result
  | .writeAll result => result

section Record

variable {ι : Type}

/-- The entries appended so far, in the order in which they were. -/
def appended (trace : List (Served ι LogCall LogCall.Answer String)) : List LogRef :=
  trace.filterMap fun
    | ⟨_, .push log _, _⟩ => some log
    | _ => none

/-- The batches taken so far, in the order in which they were. -/
def batches (trace : List (Served ι LogCall LogCall.Answer String)) : List (List LogRef) :=
  trace.filterMap fun
    | ⟨_, .take, .ok taken⟩ => taken
    | _ => none

variable {s : LoggerState A} {trace : List (Served ι LogCall LogCall.Answer String)}

@[simp] theorem appended_push (i : ι) (log : LogRef) (room : Nat) (reply : Except String Nat) :
    appended (trace ++ [⟨i, .push log room, reply⟩]) = appended trace ++ [log] := by
  simp [appended]

@[simp] theorem appended_take (i : ι) (reply : Except String (Option (List LogRef))) :
    appended (trace ++ [⟨i, .take, reply⟩]) = appended trace := by
  simp [appended]

@[simp] theorem appended_write (i : ι) (batch : List LogRef) (result : Option String)
    (reply : Except String Unit) :
    appended (trace ++ [⟨i, .write batch result, reply⟩]) = appended trace := by
  simp [appended]

@[simp] theorem batches_push (i : ι) (log : LogRef) (room : Nat) (reply : Except String Nat) :
    batches (trace ++ [⟨i, .push log room, reply⟩]) = batches trace := by
  simp [batches]

@[simp] theorem batches_take (i : ι) (taken : Option (List LogRef)) :
    batches (trace ++ [⟨i, .take, .ok taken⟩]) = batches trace ++ taken.toList := by
  cases taken <;> simp [batches]

@[simp] theorem batches_write (i : ι) (batch : List LogRef) (result : Option String)
    (reply : Except String Unit) :
    batches (trace ++ [⟨i, .write batch result, reply⟩]) = batches trace := by
  simp [batches]

/-- Nothing is lost, added or reordered, and no batch is empty. -/
structure Ordered (s : LoggerState A) (trace : List (Served ι LogCall LogCall.Answer String)) :
    Prop where
  exact : (batches trace).flatten ++ s.pending = appended trace
  nonempty : ∀ batch ∈ batches trace, batch ≠ []

theorem Ordered.push (ordered : Ordered s trace) (i : ι) (log : LogRef) (room : Nat) :
    Ordered (serve s (.push log room)).2
      (trace ++ [⟨i, .push log room, (serve s (.push log room)).1⟩]) := by
  have pending : (serve s (.push log room)).2.pending = s.pending ++ [log] :=
    Heap.read_append s.heap s.handler.logs log room
  constructor
  · rw [pending, batches_push, appended_push, ← List.append_assoc, ordered.exact]
  · rw [batches_push]
    exact ordered.nonempty

/-- Taking nothing out leaves the handler as it is. -/
theorem serve_take_of_empty (empty : s.handler.logs.len = 0) : serve s .take = (.ok none, s) := by
  simp only [serve, LogHandler.take_of_empty empty]

theorem serve_take_of_pending (full : s.handler.logs.len ≠ 0) :
    serve s .take =
      (.ok (some s.pending),
        { s with handler := { s.handler with logs := s.handler.logs.clear } }) := by
  simp only [serve, LogHandler.take_of_pending full]
  rfl

theorem Ordered.take (ordered : Ordered s trace) (i : ι) :
    Ordered (serve s .take).2 (trace ++ [⟨i, .take, (serve s .take).1⟩]) := by
  by_cases empty : s.handler.logs.len = 0
  · rw [serve_take_of_empty empty]
    constructor
    · rw [batches_take, appended_take, Option.toList_none, List.append_nil, ordered.exact]
    · rw [batches_take, Option.toList_none, List.append_nil]
      exact ordered.nonempty
  · have cleared : s.heap.read s.handler.logs.clear = [] := Heap.read_clear _ _
    have full : s.pending ≠ [] := fun nothing => empty ((Heap.read_eq_nil_iff _ _).mp nothing)
    rw [serve_take_of_pending empty]
    constructor
    · show (batches _).flatten ++ s.heap.read s.handler.logs.clear = _
      rw [cleared, batches_take, appended_take, ← ordered.exact]
      simp
    · rw [batches_take]
      intro batch mem
      obtain old | new := List.mem_append.mp mem
      · exact ordered.nonempty batch old
      · rw [List.mem_singleton.mp new]
        exact full

theorem serve_write_state (s : LoggerState A) (batch : List LogRef) (result : Option String) :
    (serve s (.write batch result)).2 = s := by
  cases result <;> rfl

theorem Ordered.write (ordered : Ordered s trace) (i : ι) (batch : List LogRef)
    (result : Option String) :
    Ordered (serve s (.write batch result)).2
      (trace ++ [⟨i, .write batch result, (serve s (.write batch result)).1⟩]) := by
  rw [serve_write_state]
  constructor
  · rw [batches_write, appended_write, ordered.exact]
  · rw [batches_write]
    exact ordered.nonempty

theorem Ordered.serve (s : LoggerState A) (trace : List (Served ι LogCall LogCall.Answer String))
    (i : ι) (c : LogCall) (ordered : Ordered s trace) :
    Ordered (Logs.serve s c).2 (trace ++ [⟨i, c, (Logs.serve s c).1⟩]) := by
  cases c with
  | push log room => exact ordered.push i log room
  | take => exact ordered.take i
  | write batch result => exact ordered.write i batch result

end Record

/-- Where a call stands. -/
inductive Stage where
  | start
  | flush
  | write (batch : List LogRef)
  | returned (result : Except String Unit)

namespace Stage

/-- The rest of the call. -/
def program (l : LogHandler A) (op : Operation) : Stage → LogProgram
  | .start => op.program l
  | .flush => LogHandler.writeAll op.result
  | .write batch => LogHandler.callWriteFunc batch op.result
  | .returned result => .ret result

/-- What one step can do to the number of pending entries: grow it by one, and flush next
if it is due; clear it; or leave it alone when the call does not stand before a flush. -/
inductive Moves (l : LogHandler A) (s : LoggerState A) : Stage → Stage → LoggerState A → Prop where
  | due {t : LoggerState A} : Moves l s .start .flush t
  | early {t : LoggerState A} (early : l.isDue t.handler.logs.len = false) :
      Moves l s .start (.returned (.ok ())) t
  | cleared {before after : Stage} {t : LoggerState A} (empty : t.handler.logs.len = 0) :
      Moves l s before after t
  | wrote {batch : List LogRef} {result : Except String Unit} :
      Moves l s (.write batch) (.returned result) s

end Stage

/-- A flush leaves nothing pending. -/
theorem len_serve_take (s : LoggerState A) : (serve s .take).2.handler.logs.len = 0 := by
  by_cases empty : s.handler.logs.len = 0
  · rw [serve_take_of_empty empty]
    exact empty
  · rw [serve_take_of_pending empty]
    rfl

theorem len_serve_push (s : LoggerState A) (log : LogRef) (room : Nat) :
    (serve s (.push log room)).1 = .ok (serve s (.push log room)).2.handler.logs.len := rfl

/-- `WriteAll` clears the slice with its first step, wherever it is called. -/
theorem tracks_writeAll (l : LogHandler A) (op : Operation) {before : Stage} {s : LoggerState A}
    {c : LogCall} {next : Except String c.Answer → LogProgram}
    (current : LogHandler.writeAll op.result = .call c next) :
    ∃ after, Stage.Moves l s before after (serve s c).2 ∧
      after.program l op = next (serve s c).1 := by
  cases current
  have empty := len_serve_take s
  by_cases nothing : s.handler.logs.len = 0
  · rw [serve_take_of_empty nothing] at empty ⊢
    exact ⟨.returned (.ok ()), .cleared empty, rfl⟩
  · rw [serve_take_of_pending nothing] at empty ⊢
    exact ⟨.write s.pending, .cleared empty, rfl⟩

theorem tracks_handle (l : LogHandler A) {log : LogRef} {accepted : Bool} {room : Nat}
    {result : Option String} {s : LoggerState A} {c : LogCall}
    {next : Except String c.Answer → LogProgram}
    (current : l.handle log accepted room result = .call c next) :
    ∃ after, Stage.Moves l s .start after (serve s c).2 ∧
      after.program l (.handle log accepted room result) = next (serve s c).1 := by
  cases accepted with
  | false => cases current
  | true =>
      cases current
      rw [len_serve_push]
      cases due : l.isDue (serve s (.push log room)).2.handler.logs.len with
      | true => exact ⟨.flush, .due, by simp [due]; rfl⟩
      | false => exact ⟨.returned (.ok ()), .early due, by simp [due]; rfl⟩

theorem stage_tracks (l : LogHandler A) (op : Operation) :
    Tracks (serve (A := A)) (Stage.program l op) (Stage.Moves l) := by
  intro s stage c next current
  cases stage with
  | start =>
      cases op with
      | handle log accepted room result => exact tracks_handle l current
      | writeAll result => exact tracks_writeAll l (.writeAll result) current
  | flush => exact tracks_writeAll l op current
  | write batch =>
      cases current
      rw [serve_write_state]
      cases outcome : op.result with
      | none => exact ⟨.returned (.ok ()), .wrote, rfl⟩
      | some e => exact ⟨.returned (.error e), .wrote, rfl⟩
  | returned result => cases current

section Concurrent

variable {ι : Type} [DecidableEq ι]

/-- Concurrent calls on one handler. -/
abbrev Calls (ι A : Type) := Pool ι LogCall LogCall.Answer String Unit (LoggerState A)

/-- Calls on a new handler, before their first step. -/
def startCalls (opt : LogOptions) (op : ι → Operation) : Calls ι A :=
  Pool.start (.start opt) fun i => (op i).program (LogHandler.new opt : LogHandler A)

/-- The call has not begun, or it has returned. -/
def Idle (p : Calls ι A) (i : ι) : Prop :=
  (∀ served ∈ p.trace, served.thread ≠ i) ∨ ∃ result, p.threads i = .ret result

/-- While a batch is due, somebody who has begun is about to flush. -/
structure Watched (l : LogHandler A) (p : Calls ι A) (stage : ι → Stage) : Prop where
  due : l.isDue p.store.handler.logs.len = true → ∃ i, stage i = .flush
  begun : ∀ i, stage i = .flush → ∃ served ∈ p.trace, served.thread = i

variable {l : LogHandler A} {p p' : Calls ι A} {stage : ι → Stage} {i : ι} {after : Stage}

theorem Watched.move (nonempty : l.isDue 0 = false) (watched : Watched l p stage)
    (move : Stage.Moves l p.store (stage i) after p'.store)
    (recorded : ∃ served, served.thread = i ∧ p'.trace = p.trace ++ [served]) :
    Watched l p' (Function.update stage i after) := by
  obtain ⟨served, mover, trace⟩ := recorded
  constructor
  · intro due
    generalize here : stage i = before at move
    generalize reached : p'.store = t at move
    rw [reached] at due
    cases move with
    | due => exact ⟨i, Function.update_self _ _ _⟩
    | early early => exact absurd (due.symm.trans early) (by decide)
    | cleared empty =>
        rw [empty] at due
        exact absurd (due.symm.trans nonempty) (by decide)
    | wrote =>
        -- the writer was not the one about to flush
        obtain ⟨j, flushing⟩ := watched.due due
        have different : j ≠ i := by
          rintro rfl
          rw [here] at flushing
          cases flushing
        exact ⟨j, (Function.update_of_ne different _ _).trans flushing⟩
  · intro j flushing
    rw [trace]
    by_cases same : j = i
    · exact ⟨served, by simp, mover.trans same.symm⟩
    · rw [Function.update_of_ne same] at flushing
      obtain ⟨older, mem, thread⟩ := watched.begun j flushing
      exact ⟨older, List.mem_append_left _ mem, thread⟩

/-- After every schedule some stages of the calls are watched. -/
theorem exists_watched (opt : LogOptions)
    (nonempty : (LogHandler.new opt : LogHandler A).isDue 0 = false)
    (op : ι → Operation) (schedule : List ι) :
    ∃ stage, (runFrom (Pool.step serve) (startCalls opt op : Calls ι A) schedule).At
        (fun i => Stage.program (.new opt : LogHandler A) (op i)) stage ∧
      Watched (.new opt) (runFrom (Pool.step serve) (startCalls opt op : Calls ι A) schedule)
        stage := by
  have all : Admitted (Pool.step serve) (fun _ _ => True) (startCalls opt op : Calls ι A)
      schedule := admitted_of_forall fun _ _ => trivial
  refine Pool.invariant (Watched (.new opt : LogHandler A))
    (fun i => stage_tracks (.new opt) (op i)) ?_ all
    (fun _ => rfl : Pool.At _ _ fun _ => .start) ⟨?_, ?_⟩
  · intro p stage i after _ watched _ moved _
    obtain ⟨c, next, _, trace⟩ := moved.served
    exact watched.move nonempty moved.move ⟨_, rfl, trace⟩
  · intro due
    exact absurd (due.symm.trans nonempty) (by decide)
  · intro i flushing
    cases flushing

/-! ## Which entries are appended -/

/-- The accepted entries, in the order in which their calls take their first step. -/
def acceptedEntries (op : ι → Operation) (schedule : List ι) : List LogRef :=
  schedule.eraseDups.filterMap fun i => (op i).accepted

theorem acceptedEntries_concat_of_mem {op : ι → Operation} {past : List ι} {i : ι}
    (begun : i ∈ past) : acceptedEntries op (past ++ [i]) = acceptedEntries op past := by
  simp [acceptedEntries, List.eraseDups_append, List.removeAll, begun]

theorem acceptedEntries_concat_of_notMem {op : ι → Operation} {past : List ι} {i : ι}
    (new : i ∉ past) :
    acceptedEntries op (past ++ [i]) = acceptedEntries op past ++ (op i).accepted.toList := by
  have first : [i].eraseDups = [i] := rfl
  rw [acceptedEntries, acceptedEntries, List.eraseDups_append]
  cases entry : (op i).accepted <;> simp [List.removeAll, new, first, entry]

/-- The call is past the section in which it may append. -/
def Begun (l : LogHandler A) (op : Operation) (rest : LogProgram) : Prop :=
  ∃ stage ≠ Stage.start, rest = stage.program l op

/-- A call that has begun appends nothing any more. -/
theorem Begun.step {op : Operation} (begun : Begun l op (p.threads i)) :
    Begun l op ((p.step serve i).threads i) ∧
      appended (p.step serve i).trace = appended p.trace := by
  obtain ⟨stage, notStart, here⟩ := begun
  cases stage with
  | start => exact absurd rfl notStart
  | flush =>
      obtain ⟨rest, trace⟩ := Pool.step_self_of_call here
      rw [rest, trace, appended_take]
      refine ⟨?_, rfl⟩
      by_cases nothing : p.store.handler.logs.len = 0
      · rw [serve_take_of_empty nothing]
        exact ⟨.returned (.ok ()), nofun, rfl⟩
      · rw [serve_take_of_pending nothing]
        exact ⟨.write p.store.pending, nofun, rfl⟩
  | write batch =>
      obtain ⟨rest, trace⟩ := Pool.step_self_of_call here
      rw [rest, trace, appended_write]
      refine ⟨?_, rfl⟩
      cases outcome : op.result with
      | none => exact ⟨.returned (.ok ()), nofun, rfl⟩
      | some e => exact ⟨.returned (.error e), nofun, rfl⟩
  | returned result =>
      rw [Pool.step_of_ret here]
      exact ⟨⟨_, notStart, here⟩, rfl⟩

/-- The first step of a call appends its entry exactly if the filter accepts it. -/
theorem first_step {op : Operation} (here : p.threads i = op.program l) :
    Begun l op ((p.step serve i).threads i) ∧
      appended (p.step serve i).trace = appended p.trace ++ op.accepted.toList := by
  cases op with
  | writeAll result =>
      rw [Operation.accepted, Option.toList_none, List.append_nil]
      exact Begun.step ⟨.flush, nofun, here⟩
  | handle log accepted room result =>
      cases accepted with
      | false =>
          rw [Operation.accepted, Option.toList_none, List.append_nil]
          exact Begun.step ⟨.returned (.ok ()), nofun, here⟩
      | true =>
          obtain ⟨rest, trace⟩ := Pool.step_self_of_call here
          rw [rest, trace, appended_push, len_serve_push]
          refine ⟨?_, rfl⟩
          cases due : l.isDue (serve p.store (.push log room)).2.handler.logs.len with
          | true => exact ⟨.flush, nofun, by simp [due]; rfl⟩
          | false => exact ⟨.returned (.ok ()), nofun, by simp [due]; rfl⟩

/-- The calls on the schedule have begun, and appended what the filter accepted. -/
structure AppendedAccepted (l : LogHandler A) (op : ι → Operation) (p : Calls ι A)
    (past : List ι) : Prop where
  fresh : ∀ i ∉ past, p.threads i = (op i).program l
  begun : ∀ i ∈ past, Begun l (op i) (p.threads i)
  entries : appended p.trace = acceptedEntries op past

theorem AppendedAccepted.step {op : ι → Operation} {past : List ι}
    (before : AppendedAccepted l op p past) (i : ι) :
    AppendedAccepted l op (p.step serve i) (past ++ [i]) := by
  obtain ⟨here, entries⟩ : Begun l (op i) ((p.step serve i).threads i) ∧
      appended (p.step serve i).trace = acceptedEntries op (past ++ [i]) := by
    by_cases old : i ∈ past
    · rw [acceptedEntries_concat_of_mem old, ← before.entries]
      exact (before.begun i old).step
    · rw [acceptedEntries_concat_of_notMem old, ← before.entries]
      exact first_step (before.fresh i old)
  refine ⟨fun j fresh => ?_, fun j begun => ?_, entries⟩
  · rw [List.mem_append, List.mem_singleton, not_or] at fresh
    rw [Pool.step_threads_of_ne fresh.2]
    exact before.fresh j fresh.1
  · by_cases same : j = i
    · exact same ▸ here
    · rw [Pool.step_threads_of_ne same]
      exact before.begun j ((List.mem_append.mp begun).resolve_right (by simpa using same))

/-- After every schedule, whatever the options. -/
theorem appendedAccepted_run (opt : LogOptions) (op : ι → Operation) (schedule : List ι) :
    AppendedAccepted (.new opt) op
      (runFrom (Pool.step serve) (startCalls opt op : Calls ι A) schedule) schedule :=
  runFrom_invariant (fun _ _ i before => before.step i)
    ⟨fun _ _ => rfl, fun _ mem => absurd mem List.not_mem_nil, rfl⟩ schedule

/-- In every interleaving of `Handle` and `WriteAll` calls on a handler with this batch size:
the entries appended are those that the filter accepts, in the order in which their calls
begin; the batches taken, in their order, and the pending entries are these entries; no batch
is empty; and while no call is in progress, fewer entries than a batch are pending. -/
theorem batching_exact (n : Int) (positive : 1 ≤ n) (op : ι → Operation) (schedule : List ι) :
    let p := runFrom (Pool.step serve) (startCalls ⟨n⟩ op : Calls ι A) schedule
    appended p.trace = acceptedEntries op schedule ∧
      (batches p.trace).flatten ++ p.store.pending = acceptedEntries op schedule ∧
      (∀ batch ∈ batches p.trace, batch ≠ []) ∧
      ((∀ i, Idle p i) → (p.store.pending.length : Int) < n) := by
  have options : (LogHandler.new ⟨n⟩ : LogHandler A).options = ⟨n⟩ := by
    have nonzero : n ≠ 0 := by omega
    simp [LogHandler.new, nonzero]
  have isDue (len : Nat) : (LogHandler.new ⟨n⟩ : LogHandler A).isDue len = decide (n ≤ len) := by
    rw [LogHandler.isDue, options]
  intro p
  have ordered : Ordered p.store p.trace :=
    Pool.record_invariant Ordered.serve ⟨rfl, fun _ mem => absurd mem List.not_mem_nil⟩ schedule
  have entries : appended p.trace = acceptedEntries op schedule :=
    (appendedAccepted_run ⟨n⟩ op schedule).entries
  refine ⟨entries, ordered.exact.trans entries, ordered.nonempty, fun idle => ?_⟩
  obtain ⟨stage, located, watched⟩ :=
    exists_watched ⟨n⟩ (by rw [isDue]; exact decide_eq_false (by omega)) op schedule
  by_contra full
  have due : (LogHandler.new ⟨n⟩ : LogHandler A).isDue p.store.handler.logs.len = true := by
    rw [isDue]
    rw [LoggerState.pending, Heap.length_read] at full
    exact decide_eq_true (by omega)
  obtain ⟨i, flushing⟩ := watched.due due
  obtain ⟨served, mem, thread⟩ := watched.begun i flushing
  obtain unbegun | ⟨result, returned⟩ := idle i
  · exact unbegun served mem thread
  · have here := located i
    rw [flushing] at here
    cases here.symm.trans returned

/-- Two calls append before either of them flushes, and the entry of a third is not accepted:
the first flush takes both entries and the second finds nothing. -/
theorem batching_exact_overlapping :
    let op : Fin 3 → Operation := fun i => .handle i (i ≠ 2) 0 none
    let p := runFrom (Pool.step serve) (startCalls ⟨1⟩ op : Calls (Fin 3) Unit)
      [0, 1, 2, 1, 0, 1]
    batches p.trace = [[0, 1]] ∧ appended p.trace = [0, 1] ∧
      (p.store.pending.length : Int) < 1 := by
  intro op p
  have whole := batching_exact (A := Unit) 1 (by decide) op [0, 1, 2, 1, 0, 1]
  refine ⟨rfl, whole.1, whole.2.2.2 fun i => .inr ⟨.ok (), ?_⟩⟩
  match i with
  | 0 | 1 | 2 => rfl

end Concurrent

end GoOdin.Logs
