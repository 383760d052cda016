import GoOdin.Logs.Attr

/-!
# What an attribute of any depth resolves to

An attribute is empty if it is the zero `Attr`, or a group in which every member is empty.
`appendAttr` looks for this in three places: it compares with the zero `Attr`, it looks at the
number of members, and it looks whether the members have left anything in the map of the
group. Together they find exactly the empty attributes, at every depth, so that no empty map
is stored.

`Attr.resolved` says what the others resolve to, by recursion on the attribute and without
the maps that the code fills; `Leaf.value` says what a plain value comes to.
-/

namespace GoOdin.Logs

open Memory

variable {V : Type}

mutual

/-- The zero `Attr`, or a group of empty members. -/
def Attr.isEmpty : Attr V → Bool
  | .leaf key .nil => key == ""
  | .leaf _ _ => false
  | .group _ attrs => allEmpty attrs

def allEmpty : List (Attr V) → Bool
  | [] => true
  | a :: attrs => a.isEmpty && allEmpty attrs

end

/-- What a plain value comes to, kind by kind: itself, but an error its message. -/
def Leaf.value : Leaf V → Scalar V
  | .nil => .nil
  | .int64 v => .int64 v
  | .uint64 v => .uint64 v
  | .string v => .string v
  | .error message => .string message
  | .other v _ => .any v

/-- An attribute with this key that is not empty. -/
def Attr.counts (k : String) (a : Attr V) : Bool := a.key = k && !a.isEmpty

mutual

/-- What stands at each path below an attribute: its value, or for a group the map of its
members. -/
def Attr.resolved : Attr V → List String → Option (Node V)
  | .leaf _ value => fun
      | [] => some (.scalar value.value)
      | _ :: _ => none
  | .group _ attrs => fun
      | [] => some .map
      | k :: path => (lastResolved attrs k).bind fun member => member path

/-- The last member with this key that is not empty. -/
def lastResolved : List (Attr V) → String → Option (List String → Option (Node V))
  | [], _ => none
  | a :: attrs, k => (lastResolved attrs k).or (if a.counts k then some a.resolved else none)

end

/-- Of the members that count for a key it is the last. -/
theorem lastResolved_eq (attrs : List (Attr V)) (k : String) :
    lastResolved attrs k = (attrs.filter (Attr.counts k)).getLast?.map Attr.resolved := by
  induction attrs with
  | nil => rfl
  | cons a attrs ih =>
      rw [lastResolved, ih, List.filter_cons]
      cases a.counts k with
      | false => exact Option.or_none
      | true =>
          rw [if_pos rfl, if_pos rfl, List.getLast?_cons]
          cases (attrs.filter (Attr.counts k)).getLast? <;> rfl

theorem allEmpty_iff {attrs : List (Attr V)} : allEmpty attrs ↔ ∀ a ∈ attrs, a.isEmpty := by
  induction attrs with
  | nil => simp [allEmpty]
  | cons a attrs ih => simp [allEmpty, ih]

/-! ## The assignments of an attribute -/

/-- The assignments are none for an empty attribute, and otherwise one, of a value with the
right contents. -/
def Attr.Assigns (a : Attr V) : Prop :=
  if a.isEmpty then a.writes = []
  else ∃ d : Datum V, a.writes = [(a.key, d)] ∧ d.contents = a.resolved

theorem Attr.Assigns.of_empty {a : Attr V} (assigns : a.Assigns) (empty : a.isEmpty) :
    a.writes = [] := by
  rwa [Assigns, if_pos empty] at assigns

theorem Attr.Assigns.of_nonempty {a : Attr V} (assigns : a.Assigns) (nonempty : ¬a.isEmpty) :
    ∃ d : Datum V, a.writes = [(a.key, d)] ∧ d.contents = a.resolved := by
  rwa [Assigns, if_neg nonempty] at assigns

theorem Attr.Assigns.writes_eq_nil_iff {a : Attr V} (assigns : a.Assigns) :
    a.writes = [] ↔ a.isEmpty := by
  by_cases empty : a.isEmpty
  · exact iff_of_true (assigns.of_empty empty) empty
  · obtain ⟨d, one, -⟩ := assigns.of_nonempty empty
    exact iff_of_false (by simp [one]) empty

/-- What the members leave in the map of their group. -/
theorem view_writesOf {attrs : List (Attr V)} (assign : ∀ a ∈ attrs, a.Assigns) (k : String) :
    GoMap.view (writesOf attrs) k = lastResolved attrs k := by
  induction attrs with
  | nil => rfl
  | cons a attrs ih =>
      rw [List.forall_mem_cons] at assign
      have first : writesOf (a :: attrs) = a.writes ++ writesOf attrs := rfl
      have here : GoMap.view a.writes k = if a.counts k then some a.resolved else none := by
        by_cases empty : a.isEmpty
        · simp [assign.1.of_empty empty, empty, GoMap.view, Attr.counts]
        · obtain ⟨d, one, same⟩ := assign.1.of_nonempty empty
          rw [one, GoMap.view, lastWrite_cons, lastWrite_nil, Option.none_or, ← same]
          by_cases isKey : a.key = k <;> simp [isKey, empty, Attr.counts]
      rw [first, GoMap.view_append, ih assign.2, here, lastResolved]

theorem writesOf_eq_nil_iff {attrs : List (Attr V)} (assign : ∀ a ∈ attrs, a.Assigns) :
    writesOf attrs = [] ↔ allEmpty attrs := by
  rw [allEmpty_iff, writesOf, List.flatMap_eq_nil_iff]
  exact forall₂_congr fun a mem => (assign a mem).writes_eq_nil_iff

/-- The switch of `appendAttr` stores what a plain value comes to. -/
theorem Leaf.scalar_eq_value (value : Leaf V) : value.scalar = value.value := by
  cases value <;> rfl

theorem Attr.isEmpty_leaf (key : String) (value : Leaf V) :
    (Attr.leaf key value).isEmpty = true ↔ key = "" ∧ value.isNil = true := by
  cases value <;> simp [Attr.isEmpty, Leaf.isNil]

theorem assigns_leaf (key : String) (value : Leaf V) : (Attr.leaf key value).Assigns := by
  have empty := Attr.isEmpty_leaf key value
  rw [Attr.Assigns, Attr.writes_leaf]
  by_cases zero : key = "" ∧ value.isNil
  · rw [if_pos zero, if_pos (empty.mpr zero)]
  · rw [if_neg zero, if_neg (mt empty.mp zero)]
    refine ⟨_, rfl, ?_⟩
    funext path
    cases path with
    | nil => exact congrArg (fun s => some (Node.scalar s)) value.scalar_eq_value
    | cons k path => rfl

theorem assigns_group (key : String) {attrs : List (Attr V)} (assign : ∀ a ∈ attrs, a.Assigns) :
    (Attr.group key attrs).Assigns := by
  have empty := writesOf_eq_nil_iff assign
  rw [Attr.Assigns, Attr.writes_group, Attr.isEmpty]
  by_cases nothing : writesOf attrs = []
  · rw [if_pos nothing, if_pos (empty.mp nothing)]
  · rw [if_neg nothing, if_neg (mt empty.mpr nothing)]
    refine ⟨_, rfl, ?_⟩
    funext path
    cases path with
    | nil => rfl
    | cons k path =>
        show (GoMap.contents (writesOf attrs) (k :: path)) = _
        rw [GoMap.contents_cons, view_writesOf assign]
        rfl

/-- Every attribute assigns what it resolves to. -/
theorem Attr.assigns (a : Attr V) : a.Assigns := by
  induction a using Attr.induction with
  | leaf key value => exact assigns_leaf key value
  | group key attrs ih => exact assigns_group key ih

/-! ## No map is empty -/

/-- Below this value every map has an entry. -/
def Filled (d : List String → Option (Node V)) : Prop :=
  ∀ path, d path = some .map → ∃ k, d (path ++ [k]) ≠ none

theorem resolved_nil_ne_none (a : Attr V) : a.resolved [] ≠ none := by
  cases a <;> exact nofun

theorem filled_group {key : String} {attrs : List (Attr V)} (nonempty : ¬allEmpty attrs)
    (filled : ∀ a ∈ attrs, ¬a.isEmpty → Filled a.resolved) :
    Filled (Attr.group key attrs).resolved := by
  intro path isMap
  cases path with
  | nil =>
      -- a member that is not empty is found under its key
      obtain ⟨a, mem, counts⟩ : ∃ a ∈ attrs, ¬a.isEmpty := by
        rw [allEmpty_iff] at nonempty
        simpa using nonempty
      refine ⟨a.key, ?_⟩
      have listed : a ∈ attrs.filter (Attr.counts a.key) := by
        simp [mem, counts, Attr.counts]
      obtain ⟨last, isLast⟩ := Option.isSome_iff_exists.mp
        (List.getLast?_isSome.mpr (List.ne_nil_of_mem listed))
      show (lastResolved attrs a.key).bind (fun member => member []) ≠ none
      rw [lastResolved_eq, isLast]
      exact resolved_nil_ne_none last
  | cons k path =>
      obtain ⟨member, found, below⟩ := Option.bind_eq_some_iff.mp isMap
      rw [lastResolved_eq] at found
      obtain ⟨a, isLast, rfl⟩ := Option.map_eq_some_iff.mp found
      obtain ⟨mem, counts⟩ := List.mem_filter.mp (List.mem_of_getLast? isLast)
      have nonempty : ¬a.isEmpty := by
        simp only [Attr.counts, Bool.and_eq_true, Bool.not_eq_true'] at counts
        exact Bool.not_eq_true _ ▸ counts.2
      obtain ⟨k', present⟩ := filled a mem nonempty path below
      refine ⟨k', ?_⟩
      show (lastResolved attrs k).bind (fun member => member (path ++ [k'])) ≠ none
      rw [lastResolved_eq, found]
      exact present

theorem Attr.filled (a : Attr V) (nonempty : ¬a.isEmpty) : Filled a.resolved := by
  induction a using Attr.induction with
  | leaf key value =>
      intro path isMap
      cases path <;> cases isMap
  | group key attrs ih => exact filled_group nonempty ih

/-- For every attribute and every map: an empty attribute leaves the map as it is, and any
other sets its own key, and no other key, to what it resolves to. No map that is stored for
a group is empty, at any depth. -/
theorem appendAttr_resolves (data : GoMap V) (a : Attr V) :
    (a.isEmpty → (appendAttr data a).1.contents = data.contents) ∧
    (¬a.isEmpty →
      (∀ k, (appendAttr data a).1.view k = if k = a.key then some a.resolved else data.view k) ∧
      ∀ path, (appendAttr data a).1.contents (a.key :: path) = some .map →
        ∃ k, (appendAttr data a).1.contents (a.key :: path ++ [k]) ≠ none) := by
  rw [appendAttr_eq]
  refine ⟨fun empty => ?_, fun nonempty => ?_⟩
  · rw [a.assigns.of_empty empty, List.append_nil]
  · obtain ⟨d, one, same⟩ := a.assigns.of_nonempty nonempty
    have views : ∀ k, GoMap.view (data ++ a.writes) k =
        if k = a.key then some a.resolved else data.view k := by
      intro k
      rw [GoMap.view_append, one, ← same]
      by_cases isKey : k = a.key
      · simp [isKey, GoMap.view, lastWrite_cons]
      · simp [isKey, Ne.symm isKey, GoMap.view, lastWrite_cons]
    have below : ∀ path, GoMap.contents (data ++ a.writes) (a.key :: path) = a.resolved path := by
      intro path
      rw [GoMap.contents_cons, views, if_pos rfl]
      rfl
    refine ⟨views, fun path isMap => ?_⟩
    rw [below] at isMap
    obtain ⟨k, present⟩ := a.filled nonempty path isMap
    refine ⟨k, ?_⟩
    rw [List.cons_append, below]
    exact present

end GoOdin.Logs
