import GoOdin.Interaction.Run
import GoOdin.Memory.Slice
import Mathlib.Data.List.Perm.Basic

/-!
# `logs.LogHandler` and the loggers derived from it

A handler collects entries in a slice and hands them to `WriteFunc` in batches. `WithAttrs`
and `WithGroup` copy the whole handler, the slice of pending entries with it, so parent and
child start with the same entries in the same array. From then on each of them appends to
and clears its own copy of the slice.

An entry is a `*Log`, known by the order in which `Handle` made them; how `Handle` fills it
in is the subject of `GoOdin.Logs.Entry`. Which records the filter accepts, what `WriteFunc`
returns and how much room a growing array gets are inputs of each call.
-/

namespace GoOdin.Logs

open Interaction Memory

/-- A `*Log`. -/
abbrev LogRef := Nat

structure GroupOrAttr (A : Type) where
  group : String := ""
  attrs : List A := []

structure LogOptions where
  batchSize : Int
  deriving DecidableEq, Repr

structure LogHandler (A : Type) where
  options : LogOptions
  logs : Slice
  groups : List (GroupOrAttr A)

variable {A : Type}

namespace LogHandler

/-- `NewBaseLogHandler`. -/
def new (opt : LogOptions) : LogHandler A where
  options := if opt.batchSize = 0 then ⟨100⟩ else opt
  logs := .nil
  groups := []

/-- The copied groups get an empty entry before the new one. -/
def withGroupAttrs (l : LogHandler A) (param : GroupOrAttr A) : LogHandler A :=
  { l with groups := l.groups ++ [{}] ++ [param] }

/-- The new handler, or none when `WithAttrs` returns the handler itself. -/
def withAttrs (l : LogHandler A) (attrs : List A) : Option (LogHandler A) :=
  if attrs.isEmpty then none else some (l.withGroupAttrs { attrs := attrs })

def withGroup (l : LogHandler A) (name : String) : Option (LogHandler A) :=
  if name = "" then none else some (l.withGroupAttrs { group := name })

/-- What `Handle` does under the mutex. It reads off the number of pending entries. -/
def push (l : LogHandler A) (heap : Heap LogRef) (log : LogRef) (room : Nat) :
    Nat × LogHandler A × Heap LogRef :=
  let appended := heap.append l.logs log room
  (appended.2.len, { l with logs := appended.2 }, appended.1)

/-- The test of `Handle` after the mutex is released. `WriteFunc` is never nil. -/
def isDue (l : LogHandler A) (logLength : Nat) : Bool := l.options.batchSize ≤ logLength

/-- What `WriteAll` does under the mutex: copy the pending entries and clear the slice. -/
def take (l : LogHandler A) (heap : Heap LogRef) : Option (List LogRef) × LogHandler A :=
  if l.logs.len = 0 then (none, l) else (some (heap.read l.logs), { l with logs := l.logs.clear })

theorem take_of_empty {l : LogHandler A} (empty : l.logs.len = 0) (heap : Heap LogRef) :
    l.take heap = (none, l) := if_pos empty

theorem take_of_pending {l : LogHandler A} (pending : l.logs.len ≠ 0) (heap : Heap LogRef) :
    l.take heap = (some (heap.read l.logs), { l with logs := l.logs.clear }) := if_neg pending

end LogHandler

/-- All handlers made so far, the entries and the batches passed to `WriteFunc`. -/
structure LogTree (A : Type) where
  heap : Heap LogRef
  handlers : List (LogHandler A)
  /-- The number of entries that `Handle` made. -/
  made : Nat
  /-- The entries that the filter accepted. -/
  accepted : List LogRef
  written : List (List LogRef)

namespace LogTree

def start (opt : LogOptions) : LogTree A where
  heap := ⟨fun _ _ => 0, 0⟩
  handlers := [.new opt]
  made := 0
  accepted := []
  written := []

/-- A call on the handler with this number; the derivations number the handlers. -/
inductive Call (A : Type) where
  | handle (i : Nat) (accepted : Bool) (room : Nat) (writeErr : Option String)
  | writeAll (i : Nat) (writeErr : Option String)
  | withAttrs (i : Nat) (attrs : List A)
  | withGroup (i : Nat) (name : String)

/-- `WriteAll`, with the error it returns. -/
def writeAll (s : LogTree A) (i : Nat) (writeErr : Option String) : Option String × LogTree A :=
  match s.handlers[i]? with
  | none => (none, s)
  | some l =>
      match l.take s.heap with
      | (none, _) => (none, s)
      | (some batch, l') =>
          (writeErr, { s with handlers := s.handlers.set i l', written := s.written ++ [batch] })

/-- An accepted entry is appended to the pending ones of its handler. -/
def push (s : LogTree A) (i : Nat) (l : LogHandler A) (room : Nat) : LogTree A where
  heap := (l.push s.heap s.made room).2.2
  handlers := s.handlers.set i (l.push s.heap s.made room).2.1
  made := s.made + 1
  accepted := s.accepted ++ [s.made]
  written := s.written

/-- `Handle`, with the error it returns. -/
def handle (s : LogTree A) (i : Nat) (accepted : Bool) (room : Nat) (writeErr : Option String) :
    Option String × LogTree A :=
  match s.handlers[i]? with
  | none => (none, s)
  | some l =>
      if accepted then
        if l.isDue (l.push s.heap s.made room).1 then (s.push i l room).writeAll i writeErr
        else (none, s.push i l room)
      else (none, { s with made := s.made + 1 })

/-- A derived handler is a new one. -/
def derive (s : LogTree A) (child : Option (LogHandler A)) : LogTree A :=
  match child with
  | none => s
  | some child => { s with handlers := s.handlers ++ [child] }

def step (s : LogTree A) : Call A → LogTree A
  | .handle i accepted room writeErr => (s.handle i accepted room writeErr).2
  | .writeAll i writeErr => (s.writeAll i writeErr).2
  | .withAttrs i attrs => s.derive (s.handlers[i]?.bind (·.withAttrs attrs))
  | .withGroup i name => s.derive (s.handlers[i]?.bind (·.withGroup name))

/-- The entries pending in these handlers. -/
def pendingIn (heap : Heap LogRef) (handlers : List (LogHandler A)) : List LogRef :=
  handlers.flatMap fun l => heap.read l.logs

/-- Every entry in a batch or pending, as often as it is there. -/
def entries (s : LogTree A) : List LogRef := s.written.flatten ++ pendingIn s.heap s.handlers

/-- Each accepted entry is in one batch or pending in one handler, once. -/
def PresentOnce (s : LogTree A) : Prop := ∀ log ∈ s.accepted, s.entries.count log = 1

end LogTree

end GoOdin.Logs
