import GoOdin.Cqrs.Envelope
import GoOdin.Logs.Attr
import GoOdin.Logs.LogHandler
import GoOdin.Tools.Stack
import Mathlib.Data.List.DropRight

/-!
# How `Handle` fills in an entry

`Handle` walks the groups and attributes of the handler from the newest to the oldest. It
pushes attributes on a stack; at a group it empties the stack into a map, which it stores
under the name of the group; what is left in the end goes to the top. The attributes of the
record come last. On the way the text of everything is appended to `buf`, a field of the
handler, and what is there in the end is the payload.

The field is cleared when the entry is accepted, and only then. The payload of an entry
therefore begins with whatever the entries since the last accepted one have left, and with
the 1024 zero bytes of a new handler until there is an accepted one.
-/

namespace GoOdin.Logs

open Interaction Tools

variable {V : Type}

/-- The frame of a program counter, with the base name of its file. -/
structure Frame where
  file : String
  base : String
  line : Int64
  deriving DecidableEq, Repr

/-- `slog.Record`. There is no frame if the program counter is zero. -/
structure Record (V : Type) where
  time : Time
  message : String
  level : Int64
  frame : Option Frame
  attrs : List (Attr V)

structure Log (V : Type) where
  time : Time
  message : String
  level : Int64
  data : GoMap V
  source : String
  payload : List UInt8

/-- A `LogHandler` with the fields that an entry is made from. -/
structure EntryHandler (V : Type) where
  handler : LogHandler (Attr V)
  addSource : Bool
  buf : List UInt8

/-- One call of `Handle`. -/
structure Handled (V : Type) where
  log : Log V
  /-- The bytes that the filter is given. -/
  logByte : List UInt8
  /-- The handler afterwards. -/
  next : EntryHandler V

/-- The locals of `Handle` that its walk over the groups changes, and the buffer. -/
structure Walk (V : Type) where
  stack : Stack (Attr V)
  data : GoMap V
  buf : List UInt8

/-- One round of the walk. -/
def Walk.visit (w : Walk V) (goa : GroupOrAttr (Attr V)) : Walk V :=
  if goa.group ≠ "" then
    let (popped, stack) := w.stack.popAll
    let (key, buf) := appendAll [] (w.buf ++ textBytes (goa.group ++ ".")) popped
    ⟨stack, w.data ++ [(goa.group, .map key)], buf⟩
  else ⟨goa.attrs.foldl Stack.push w.stack, w.data, w.buf⟩

namespace EntryHandler

def new (opt : LogOptions) (addSource : Bool) : EntryHandler V := ⟨.new opt, addSource, newBuf⟩

/-- The copy of the handler that `WithAttrs` returns, or the handler itself. -/
def withAttrs (l : EntryHandler V) (attrs : List (Attr V)) : EntryHandler V :=
  { l with handler := (l.handler.withAttrs attrs).getD l.handler }

def withGroup (l : EntryHandler V) (name : String) : EntryHandler V :=
  { l with handler := (l.handler.withGroup name).getD l.handler }

/-- The groups that `Handle` walks over: without those at the end if there is nothing to put
into them. -/
def visited (l : EntryHandler V) (record : Record V) : List (GroupOrAttr (Attr V)) :=
  if record.attrs.isEmpty then l.handler.groups.rdropWhile (fun goa => goa.group ≠ "")
  else l.handler.groups

/-- The frame that is added to the entry, if any. -/
def source (l : EntryHandler V) (record : Record V) : Option Frame :=
  if l.addSource then record.frame else none

def sourceAttr (f : Frame) : Attr V :=
  .leaf "source" (.string (f.file ++ ":" ++ toString f.line.toInt))

/-- The entry that `Handle` builds. Its payload is the buffer as it is then. -/
def entry (l : EntryHandler V) (record : Record V) : Log V :=
  let w := runFrom Walk.visit ⟨.new, [], l.buf⟩ (l.visited record).reverse
  let (data, buf) := appendAll w.data w.buf w.stack.popAll.1
  -- the bytes of the source attribute are not kept
  let data := (l.source record).elim data fun f => (appendAttr data (sourceAttr f)).1
  let (data, buf) := appendAll data buf record.attrs
  { time := record.time
    message := record.message
    level := record.level
    data := data
    source := (l.source record).elim "" fun f => f.base ++ ":" ++ toString f.line.toInt
    payload := buf }

/-- `Handle` when this is what the filter returns. An entry that is not accepted leaves the
buffer as it is. -/
def handle (l : EntryHandler V) (record : Record V) (accepted : Bool) : Handled V where
  log := l.entry record
  logByte := (l.entry record).payload
  next := { l with buf := if accepted then [] else (l.entry record).payload }

/-- The handler after these records, each with what the filter returned for it. -/
def handleAll (l : EntryHandler V) (history : List (Record V × Bool)) : EntryHandler V :=
  runFrom (fun l handled => (l.handle handled.1 handled.2).next) l history

end EntryHandler

/-! ## What the walk computes -/

/-- The attributes before the first group, in the order in which they are popped. -/
def leading : List (GroupOrAttr (Attr V)) → List (Attr V)
  | [] => []
  | goa :: goas => if goa.group ≠ "" then [] else goa.attrs.reverse ++ leading goas

/-- The assignments that the groups make, the oldest group last. -/
def groupWrites : List (GroupOrAttr (Attr V)) → GoMap V
  | [] => []
  | goa :: goas =>
      if goa.group ≠ "" then groupWrites goas ++ [(goa.group, .map (writesOf (leading goas)))]
      else groupWrites goas

def groupBytes : List (GroupOrAttr (Attr V)) → List UInt8
  | [] => []
  | goa :: goas =>
      if goa.group ≠ "" then
        groupBytes goas ++ textBytes (goa.group ++ ".") ++ bytesOf (leading goas)
      else groupBytes goas

theorem walk_eq (buf : List UInt8) (goas : List (GroupOrAttr (Attr V))) :
    runFrom Walk.visit ⟨.new, [], buf⟩ goas.reverse =
      ⟨⟨(leading goas).reverse⟩, groupWrites goas, buf ++ groupBytes goas⟩ := by
  induction goas with
  | nil => simp [leading, groupWrites, groupBytes, Stack.new]
  | cons goa goas ih =>
      rw [List.reverse_cons, runFrom_concat, ih, Walk.visit]
      by_cases isGroup : goa.group ≠ ""
      · simp [isGroup, leading, groupWrites, groupBytes, appendAll_eq, Stack.new]
      · simp [isGroup, leading, groupWrites, groupBytes, Stack.foldl_push]

/-- The names of the groups, the oldest first. -/
def groupNames (goas : List (GroupOrAttr (Attr V))) : List String :=
  (goas.map (·.group)).filter (· ≠ "")

section Append

variable {goa : GroupOrAttr (Attr V)} {before after : List (GroupOrAttr (Attr V))}

/-- A group ends what is in no group, whatever follows it. -/
theorem leading_append_group (isGroup : goa.group ≠ "") :
    leading (before ++ goa :: after) = leading before := by
  induction before with
  | nil => simp [leading, isGroup]
  | cons first before ih =>
      rw [List.cons_append, leading, leading, ih]

theorem leading_append (none : ∀ goa ∈ before, goa.group = "") :
    leading (before ++ after) = leading before ++ leading after := by
  induction before with
  | nil => rfl
  | cons first before ih =>
      rw [List.forall_mem_cons] at none
      simp [leading, none.1, ih none.2]

theorem groupWrites_eq_nil (none : ∀ goa ∈ before, goa.group = "") : groupWrites before = [] := by
  induction before with
  | nil => rfl
  | cons first before ih =>
      rw [List.forall_mem_cons] at none
      simp [groupWrites, none.1, ih none.2]

/-- A group holds what follows it up to the next one, and the groups before it hold nothing
of that. -/
theorem groupWrites_append_group (isGroup : goa.group ≠ "") :
    groupWrites (before ++ goa :: after) =
      groupWrites after ++ [(goa.group, .map (writesOf (leading after)))] ++
        groupWrites before := by
  induction before with
  | nil => simp [groupWrites, isGroup]
  | cons first before ih =>
      rw [List.cons_append, groupWrites, groupWrites, ih, leading_append_group isGroup]
      split_ifs <;> simp

theorem groupNames_append (before after : List (GroupOrAttr (Attr V))) :
    groupNames (before ++ after) = groupNames before ++ groupNames after := by
  simp [groupNames]

theorem groupNames_eq_nil_iff : groupNames before = [] ↔ ∀ goa ∈ before, goa.group = "" := by
  simp [groupNames]

theorem groupNames_cons (goa : GroupOrAttr (Attr V)) (goas : List (GroupOrAttr (Attr V))) :
    groupNames (goa :: goas) =
      if goa.group ≠ "" then goa.group :: groupNames goas else groupNames goas := by
  by_cases isGroup : goa.group = "" <;> simp [groupNames, isGroup]

/-- The newest group has the last name. -/
theorem groupNames_of_newest (isGroup : goa.group ≠ "") (none : ∀ goa ∈ after, goa.group = "") :
    groupNames (before ++ goa :: after) = groupNames before ++ [goa.group] := by
  rw [groupNames_append, groupNames_cons, if_pos isGroup, groupNames_eq_nil_iff.mpr none]

theorem keys_groupWrites (goas : List (GroupOrAttr (Attr V))) :
    (groupWrites goas).map Prod.fst = (groupNames goas).reverse := by
  induction goas with
  | nil => rfl
  | cons goa goas ih =>
      rw [groupWrites, groupNames_cons]
      split_ifs <;> simp [ih]

/-- There is no group, or a newest one. -/
theorem newest_group (goas : List (GroupOrAttr (Attr V))) :
    (∀ goa ∈ goas, goa.group = "") ∨
      ∃ before goa after, goas = before ++ goa :: after ∧ goa.group ≠ "" ∧
        ∀ goa ∈ after, goa.group = "" := by
  induction goas with
  | nil => exact .inl fun _ mem => nomatch mem
  | cons first goas ih =>
      obtain none | ⟨before, goa, after, rfl, isGroup, none⟩ := ih
      · by_cases isGroup : first.group = ""
        · exact .inl (List.forall_mem_cons.mpr ⟨isGroup, none⟩)
        · exact .inr ⟨[], first, goas, rfl, isGroup, none⟩
      · exact .inr ⟨first :: before, goa, after, rfl, isGroup, none⟩

end Append

namespace EntryHandler

variable {l : EntryHandler V} {record : Record V}

/-- The assignments of the source attribute, if it is added. -/
def sourceWrites (l : EntryHandler V) (record : Record V) : GoMap V :=
  (l.source record).elim [] fun f => (sourceAttr f).writes

/-- The bytes that `Handle` appends to the buffer. -/
def entryBytes (l : EntryHandler V) (record : Record V) : List UInt8 :=
  groupBytes (l.visited record) ++ bytesOf (leading (l.visited record)) ++ bytesOf record.attrs

/-- The data of an entry: the groups, what is in no group, the source and the record. -/
theorem entry_data (l : EntryHandler V) (record : Record V) :
    (l.entry record).data =
      groupWrites (l.visited record) ++ writesOf (leading (l.visited record)) ++
        l.sourceWrites record ++ writesOf record.attrs := by
  cases frame : l.source record <;>
    simp [entry, walk_eq, appendAll_eq, appendAttr_eq, sourceWrites, frame]

theorem entry_payload (l : EntryHandler V) (record : Record V) :
    (l.entry record).payload = l.buf ++ l.entryBytes record := by
  cases frame : l.source record <;> simp [entry, walk_eq, appendAll_eq, entryBytes, frame]

/-! ## What earlier entries leave in the buffer -/

/-- The bytes of the entries since the last accepted one, after those that the handler
started with if there was none. -/
def leftover (l : EntryHandler V) (history : List (Record V × Bool)) : List UInt8 :=
  (if history.any (·.2) then [] else l.buf) ++
    (history.rtakeWhile fun handled => !handled.2).flatMap fun handled => l.entryBytes handled.1

theorem handleAll_eq (l : EntryHandler V) (history : List (Record V × Bool)) :
    l.handleAll history = { l with buf := l.leftover history } := by
  induction history using List.reverseRecOn with
  | nil => simp [handleAll, leftover]
  | append_singleton history handled ih =>
      obtain ⟨record, accepted⟩ := handled
      have last : l.handleAll (history ++ [(record, accepted)]) =
          ((l.handleAll history).handle record accepted).next := runFrom_concat _ _ _
      have bytes :
          { l with buf := l.leftover history }.entryBytes record = l.entryBytes record := rfl
      rw [last, ih]
      cases accepted with
      | true => simp [handle, leftover]
      | false =>
          have same : (history ++ [(record, false)]).any (·.2) = history.any (·.2) := by simp
          have longer : l.leftover (history ++ [(record, false)]) =
              l.leftover history ++ l.entryBytes record := by
            rw [leftover, same, List.rtakeWhile_concat_pos _ _ _ rfl]
            simp [leftover]
          simp only [handle, entry_payload, bytes, longer]
          rfl

/-- The payload of an entry, and the bytes that the filter is given, are the same after two
histories exactly if both leave the same bytes in the buffer. -/
theorem payload_independent_iff (l : EntryHandler V) (record : Record V) (accepted : Bool)
    (first second : List (Record V × Bool)) :
    (((l.handleAll first).handle record accepted).log.payload =
          ((l.handleAll second).handle record accepted).log.payload ∧
        ((l.handleAll first).handle record accepted).logByte =
          ((l.handleAll second).handle record accepted).logByte) ↔
      l.leftover first = l.leftover second := by
  have payload : ∀ history : List (Record V × Bool),
      ((l.handleAll history).entry record).payload = l.leftover history ++ l.entryBytes record := by
    intro history
    rw [handleAll_eq, entry_payload]
    rfl
  simp only [handle, payload, List.append_left_inj, and_self]

/-- A record without attributes, and one with a password. -/
def quietRecord : Record Unit := ⟨⟨0⟩, "ready", 0, none, []⟩

def loginRecord : Record Unit := ⟨⟨0⟩, "login", 0, none, [.leaf "password" (.string "hunter2")]⟩

/-- The password of an entry that the filter rejected is in the payload of the next one. -/
theorem rejected_entry_leaks :
    let l : EntryHandler Unit := .new ⟨10⟩ false
    (((l.handleAll [(quietRecord, true)]).handle quietRecord true).log.payload = [] ∧
      ((l.handleAll [(quietRecord, true), (loginRecord, false)]).handle quietRecord
          true).log.payload =
        newBuf ++ textBytes "password=hunter2 ") ∧
      newBuf ++ textBytes "password=hunter2 " ≠ [] :=
  ⟨⟨rfl, rfl⟩, List.append_ne_nil_of_left_ne_nil (List.cons_ne_nil _ _) _⟩

end EntryHandler

end GoOdin.Logs
