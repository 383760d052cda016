import GoOdin.Memory.LastWrite
import Mathlib.Data.List.Flatten

/-!
# Attributes, and the maps that `appendAttr` fills

An attribute is resolved: a key with a plain value, or a key with a group of attributes.
`appendAttr` assigns the value to the key of a map and returns the text for the byte buffer;
for a group it fills a map of its own first. An empty attribute is passed over, and so is a
group in which there is nothing else.

A `map[string]any` is kept as the list of its assignments, the last one to a key being the one
that counts. What a map holds is read off through `contents`, which gives for each path of
keys what stands there; two maps are equal exactly if their contents are.
-/

namespace GoOdin.Logs

open Memory

variable {V : Type}

def textBytes (s : String) : List UInt8 := s.toUTF8.toList

/-- The expression `make([]byte, 1024)`. -/
def newBuf : List UInt8 := List.replicate 1024 0

/-- A resolved `slog.Value` that is not a group. The values that are passed on without being
looked at are of the type `V`; with one of them comes its text under the verb `%s`. -/
inductive Leaf (V : Type) where
  | nil
  | int64 (v : Int64)
  | uint64 (v : UInt64)
  | string (v : String)
  | error (message : String)
  | other (v : V) (text : String)

/-- A resolved `slog.Attr`. -/
inductive Attr (V : Type) where
  | leaf (key : String) (value : Leaf V)
  | group (key : String) (attrs : List (Attr V))

/-- Induction over attributes of any depth. -/
theorem Attr.induction {motive : Attr V → Prop}
    (leaf : ∀ key value, motive (.leaf key value))
    (group : ∀ key attrs, (∀ a ∈ attrs, motive a) → motive (.group key attrs)) (a : Attr V) :
    motive a :=
  @Attr.rec V motive (fun attrs => ∀ a ∈ attrs, motive a) leaf group nofun
    (fun _ _ first rest => List.forall_mem_cons.mpr ⟨first, rest⟩) a

/-- A plain value in a map. -/
inductive Scalar (V : Type) where
  | nil
  | int64 (v : Int64)
  | uint64 (v : UInt64)
  | string (v : String)
  | any (v : V)
  deriving DecidableEq, Repr

/-- A value in a `map[string]any`. -/
inductive Datum (V : Type) where
  | scalar (s : Scalar V)
  | map (writes : List (String × Datum V))

/-- A `map[string]any`, as the list of its assignments. -/
abbrev GoMap (V : Type) := List (String × Datum V)

/-- What stands at a path. -/
inductive Node (V : Type) where
  | scalar (s : Scalar V)
  | map
  deriving DecidableEq, Repr

def Datum.contents : Datum V → List String → Option (Node V)
  | .scalar s, [] => some (.scalar s)
  | .scalar _, _ :: _ => none
  | .map _, [] => some .map
  | .map writes, k :: path => (lastWrite writes k).bind fun d => d.contents path

/-- What a map holds at each path of keys. -/
def GoMap.contents (m : GoMap V) : List String → Option (Node V) := (Datum.map m).contents

namespace Leaf

/-- What `appendAttr` puts into the map. An error is replaced by its message. -/
def scalar : Leaf V → Scalar V
  | .nil => .nil
  | .int64 v => .int64 v
  | .uint64 v => .uint64 v
  | .string v => .string v
  | .error message => .string message
  | .other v _ => .any v

/-- What `appendAttr` formats for the buffer. An unsigned number has no blank after it. -/
def format (key : String) : Leaf V → String
  | .nil => key ++ "=%!s(<nil>) "
  | .int64 v => key ++ "=" ++ toString v.toInt ++ " "
  | .uint64 v => key ++ "=" ++ toString v.toNat
  | .string v => key ++ "=" ++ v ++ " "
  | .error message => key ++ "=" ++ message ++ " "
  | .other _ text => key ++ "=" ++ text ++ " "

def isNil : Leaf V → Bool
  | .nil => true
  | _ => false

end Leaf

def Attr.key : Attr V → String
  | .leaf key _ => key
  | .group key _ => key

mutual

/-- `appendAttr`: the map after its assignment, and the bytes it returns. -/
def appendAttr (data : GoMap V) : Attr V → GoMap V × List UInt8
  | .leaf key value =>
      if key = "" ∧ value.isNil then (data, [])
      else (data ++ [(key, .scalar value.scalar)], newBuf ++ textBytes (value.format key))
  | .group key attrs =>
      if attrs.isEmpty then (data, [])
      else
        let (groupData, buf) := appendMembers key [] newBuf attrs
        (if groupData.isEmpty then data else data ++ [(key, .map groupData)], buf)

/-- The loop over the members of a group. -/
def appendMembers (key : String) (groupData : GoMap V) (buf : List UInt8) :
    List (Attr V) → GoMap V × List UInt8
  | [] => (groupData, buf)
  | a :: rest =>
      let (groupData, b) := appendAttr groupData a
      appendMembers key groupData (buf ++ textBytes key ++ textBytes "." ++ b) rest

end

/-- A loop that appends attributes to a map and their bytes to a buffer. -/
def appendAll (data : GoMap V) (buf : List UInt8) (attrs : List (Attr V)) :
    GoMap V × List UInt8 :=
  attrs.foldl (fun filled a => ((appendAttr filled.1 a).1, filled.2 ++ (appendAttr filled.1 a).2))
    (data, buf)

namespace Attr

/-- The assignment that an attribute makes, if any. -/
def writes (a : Attr V) : GoMap V := (appendAttr [] a).1

/-- The bytes of an attribute. -/
def bytes (a : Attr V) : List UInt8 := (appendAttr [] a).2

end Attr

/-- The assignments of several attributes. -/
def writesOf (attrs : List (Attr V)) : GoMap V := attrs.flatMap Attr.writes

def bytesOf (attrs : List (Attr V)) : List UInt8 := attrs.flatMap Attr.bytes

/-- Neither the assignment nor the bytes depend on the map. -/
theorem appendAttr_eq (data : GoMap V) (a : Attr V) :
    appendAttr data a = (data ++ a.writes, a.bytes) := by
  cases a with
  | leaf key value =>
      unfold Attr.writes Attr.bytes appendAttr
      split_ifs <;> simp
  | group key attrs =>
      unfold Attr.writes Attr.bytes appendAttr
      by_cases none : (appendMembers key [] newBuf attrs).1.isEmpty <;> split_ifs <;> simp [none]

theorem appendAll_eq (data : GoMap V) (buf : List UInt8) (attrs : List (Attr V)) :
    appendAll data buf attrs = (data ++ writesOf attrs, buf ++ bytesOf attrs) := by
  induction attrs generalizing data buf with
  | nil => simp [appendAll, writesOf, bytesOf]
  | cons a attrs ih =>
      have first : appendAll data buf (a :: attrs) =
          appendAll (appendAttr data a).1 (buf ++ (appendAttr data a).2) attrs := rfl
      rw [first, ih, appendAttr_eq]
      simp [writesOf, bytesOf]

theorem Attr.writes_leaf (k : String) (v : Leaf V) :
    (Attr.leaf k v).writes = if k = "" ∧ v.isNil then [] else [(k, .scalar v.scalar)] := by
  unfold writes appendAttr
  split_ifs <;> rfl

/-- The loop over the members appends their assignments to the map of the group. -/
theorem appendMembers_data (key : String) (groupData : GoMap V) (buf : List UInt8)
    (attrs : List (Attr V)) :
    (appendMembers key groupData buf attrs).1 = groupData ++ writesOf attrs := by
  induction attrs generalizing groupData buf with
  | nil => exact (List.append_nil _).symm
  | cons a attrs ih =>
      rw [appendMembers, appendAttr_eq]
      show (appendMembers key (groupData ++ a.writes) _ attrs).1 = _
      rw [ih, List.append_assoc]
      rfl

/-- A group is assigned if a member is. -/
theorem Attr.writes_group (key : String) (attrs : List (Attr V)) :
    (Attr.group key attrs).writes =
      if writesOf attrs = [] then [] else [(key, .map (writesOf attrs))] := by
  have members := appendMembers_data key [] newBuf attrs
  rw [List.nil_append] at members
  unfold writes appendAttr
  cases attrs with
  | nil => rfl
  | cons a attrs => split_ifs <;> simp_all

/-- An attribute makes at most one assignment, to its own key. -/
theorem Attr.writes_cases (a : Attr V) : a.writes = [] ∨ ∃ d, a.writes = [(a.key, d)] := by
  cases a with
  | leaf key value =>
      rw [writes_leaf]
      split_ifs
      · exact .inl rfl
      · exact .inr ⟨_, rfl⟩
  | group key attrs =>
      rw [writes_group]
      split_ifs
      · exact .inl rfl
      · exact .inr ⟨_, rfl⟩

theorem writesOf_append (first second : List (Attr V)) :
    writesOf (first ++ second) = writesOf first ++ writesOf second := List.flatMap_append

theorem writesOf_reverse (attrs : List (Attr V)) :
    writesOf attrs.reverse = (writesOf attrs).reverse := by
  have single : ∀ a : Attr V, a.writes.reverse = a.writes := by
    intro a
    obtain none | ⟨d, one⟩ := a.writes_cases
    · rw [none]
      rfl
    · rw [one]
      rfl
  rw [writesOf, writesOf, List.reverse_flatMap]
  exact List.flatMap_congr fun a _ => (single a).symm

namespace GoMap

/-- What a map holds under a key. -/
def view (m : GoMap V) (k : String) : Option (List String → Option (Node V)) :=
  (lastWrite m k).map Datum.contents

theorem contents_cons (m : GoMap V) (k : String) (path : List String) :
    m.contents (k :: path) = (m.view k).bind fun d => d path := by
  rw [view, Option.bind_map]
  rfl

theorem view_append (earlier later : GoMap V) (k : String) :
    view (earlier ++ later) k = (later.view k).or (earlier.view k) := by
  rw [view, lastWrite_append, Option.map_or]
  rfl

theorem view_eq_none_iff {m : GoMap V} {k : String} : m.view k = none ↔ k ∉ m.map Prod.fst := by
  rw [view, Option.map_eq_none_iff, lastWrite_eq_none_iff]

/-- A later series of assignments decides about every key that it assigns. -/
theorem contents_append_of_view {earlier later : GoMap V} {k : String}
    (assigned : later.view k ≠ none) (path : List String) :
    contents (earlier ++ later) (k :: path) = later.contents (k :: path) := by
  obtain ⟨d, here⟩ := Option.ne_none_iff_exists'.mp assigned
  rw [contents_cons, contents_cons, view_append, here, Option.some_or]

theorem contents_append_of_view_none {earlier later : GoMap V} {k : String}
    (unassigned : later.view k = none) (path : List String) :
    contents (earlier ++ later) (k :: path) = earlier.contents (k :: path) := by
  rw [contents_cons, contents_cons, view_append, unassigned, Option.none_or]

/-- A path on which the earlier assignments put nothing is decided by the later ones. -/
theorem contents_append_of_absent {earlier later : GoMap V} {k : String} {path : List String}
    (absent : earlier.contents (k :: path) = none) :
    contents (earlier ++ later) (k :: path) = later.contents (k :: path) := by
  by_cases unassigned : later.view k = none
  · rw [contents_append_of_view_none unassigned, absent, contents_cons, unassigned,
      Option.bind_none]
  · exact contents_append_of_view unassigned path

theorem contents_nil_ne_none (d : Datum V) : d.contents [] ≠ none := by
  cases d <;> exact nofun

/-- Maps have the same contents exactly if they hold the same under each key. -/
theorem contents_eq_iff {m m' : GoMap V} :
    m.contents = m'.contents ↔ ∀ k, m.view k = m'.view k := by
  constructor
  · intro same k
    have under : ∀ path, ((m.view k).bind fun d => d path) = (m'.view k).bind fun d => d path := by
      intro path
      rw [← contents_cons, ← contents_cons, same]
    unfold view at under ⊢
    cases here : lastWrite m k with
    | none =>
        cases there : lastWrite m' k with
        | none => rfl
        | some e =>
            have root := under []
            rw [here, there] at root
            exact absurd root.symm (contents_nil_ne_none e)
    | some d =>
        cases there : lastWrite m' k with
        | none =>
            have root := under []
            rw [here, there] at root
            exact absurd root (contents_nil_ne_none d)
        | some e =>
            rw [here, there] at under
            exact congrArg some (funext under)
  · intro same
    funext path
    cases path with
    | nil => rfl
    | cons k path => rw [contents_cons, contents_cons, same]

end GoMap

end GoOdin.Logs
