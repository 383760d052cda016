import GoOdin.Logs.Composition

/-!
# Where the attributes of a handler end up

`Handle` stores the map of every group at the top, under the name of the group. A group that
was opened inside another is not put into it: an attribute is found under the newest group
that was open when it was given, and under no other. With at most one group that is the path
of all open groups, with two or more it is not.
-/

namespace GoOdin.Logs

open Interaction Memory

variable {V : Type}

/-- An attribute whose value is not a group. -/
structure PlainAttr (V : Type) where
  key : String
  value : Leaf V

def PlainAttr.attr (a : PlainAttr V) : Attr V := .leaf a.key a.value

/-- A call that derives a handler. -/
inductive Derivation (V : Type) where
  | withAttrs (attrs : List (PlainAttr V))
  | withGroup (name : String)

namespace Derivation

/-- The keys and group names that a call brings in. -/
def names : Derivation V → List String
  | .withAttrs attrs => attrs.map PlainAttr.key
  | .withGroup name => [name]

def group? : Derivation V → Option String
  | .withAttrs _ => none
  | .withGroup name => some name

/-- The entries that a call appends to the groups of the handler. -/
def entries : Derivation V → List (GroupOrAttr (Attr V))
  | .withAttrs attrs =>
      if attrs.isEmpty then [] else EntryHandler.attrsEntries (attrs.map PlainAttr.attr)
  | .withGroup name => if name = "" then [] else [{ group := "" }, { group := name }]

end Derivation

def EntryHandler.derive (l : EntryHandler V) : Derivation V → EntryHandler V
  | .withAttrs attrs => l.withAttrs (attrs.map PlainAttr.attr)
  | .withGroup name => l.withGroup name

/-- The names of the groups opened by a chain of calls, in order. -/
def opened (chain : List (Derivation V)) : List String := chain.filterMap Derivation.group?

/-- No name of a group is empty, no key or name occurs twice in the chain, and none of them
is a key of the record. -/
structure Distinct (chain : List (Derivation V)) (record : Record V) : Prop where
  named : ∀ name, .withGroup name ∈ chain → name ≠ ""
  once : (chain.flatMap Derivation.names).Nodup
  fresh : ∀ a ∈ record.attrs, a.key ∉ chain.flatMap Derivation.names

/-! ## The attributes in a list of groups -/

/-- The groups, each with what it holds. -/
def sections : List (GroupOrAttr (Attr V)) → List (String × List (Attr V))
  | [] => []
  | goa :: goas => if goa.group ≠ "" then (goa.group, leading goas) :: sections goas
      else sections goas

/-- Every attribute with the path of the map that it is assigned in. -/
def placed (goas : List (GroupOrAttr (Attr V))) : List (List String × Attr V) :=
  (leading goas).map (Prod.mk []) ++
    (sections goas).flatMap fun s => s.2.map (Prod.mk [s.1])

/-- The keys or the group name that an entry brings in. -/
def GroupOrAttr.names (goa : GroupOrAttr (Attr V)) : List String :=
  if goa.group ≠ "" then [goa.group] else goa.attrs.map Attr.key

/-- What the groups and the attributes of a handler assign. -/
def handlerWrites (goas : List (GroupOrAttr (Attr V))) : GoMap V :=
  groupWrites goas ++ writesOf (leading goas)

section Sections

variable {goas before after : List (GroupOrAttr (Attr V))} {goa : GroupOrAttr (Attr V)}
  {path : List String} {a : Attr V} {k : String} {d : Datum V}

theorem groupWrites_eq_sections (goas : List (GroupOrAttr (Attr V))) :
    groupWrites goas =
      ((sections goas).map fun s => (s.1, Datum.map (writesOf s.2))).reverse := by
  induction goas with
  | nil => rfl
  | cons goa goas ih =>
      rw [groupWrites, sections]
      split_ifs <;> simp [ih]

theorem mem_placed_nil : ([], a) ∈ placed goas ↔ a ∈ leading goas := by
  simp [placed]

theorem mem_placed_singleton {g : String} :
    ([g], a) ∈ placed goas ↔ ∃ seg, (g, seg) ∈ sections goas ∧ a ∈ seg := by
  simp [placed]

theorem exists_of_mem_leading (mem : a ∈ leading goas) : ∃ goa ∈ goas, a ∈ goa.attrs := by
  induction goas with
  | nil => exact absurd mem List.not_mem_nil
  | cons first goas ih =>
      rw [leading] at mem
      split_ifs at mem
      · exact absurd mem List.not_mem_nil
      · obtain here | later := List.mem_append.mp mem
        · exact ⟨first, List.mem_cons_self, List.mem_reverse.mp here⟩
        · obtain ⟨goa, among, inside⟩ := ih later
          exact ⟨goa, List.mem_cons_of_mem _ among, inside⟩

theorem exists_of_mem_sections {g : String} {seg : List (Attr V)} (mem : (g, seg) ∈ sections goas)
    (inside : a ∈ seg) : ∃ goa ∈ goas, a ∈ goa.attrs := by
  induction goas with
  | nil => nomatch mem
  | cons first goas ih =>
      have later : (∃ goa ∈ goas, a ∈ goa.attrs) → ∃ goa ∈ first :: goas, a ∈ goa.attrs :=
        fun ⟨goa, among, here⟩ => ⟨goa, List.mem_cons_of_mem _ among, here⟩
      rw [sections] at mem
      split_ifs at mem
      · obtain same | mem := List.mem_cons.mp mem
        · cases same
          exact later (exists_of_mem_leading inside)
        · exact later (ih mem)
      · exact later (ih mem)

/-- Every placed attribute was given to the handler. -/
theorem exists_of_mem_placed (mem : (path, a) ∈ placed goas) : ∃ goa ∈ goas, a ∈ goa.attrs := by
  obtain top | grouped := List.mem_append.mp mem
  · obtain ⟨b, among, same⟩ := List.mem_map.mp top
    cases same
    exact exists_of_mem_leading among
  · obtain ⟨⟨g, seg⟩, isSection, inside⟩ := List.mem_flatMap.mp grouped
    obtain ⟨b, among, same⟩ := List.mem_map.mp inside
    cases same
    exact exists_of_mem_sections isSection among

/-- Moving attributes into their groups changes the order of the names and nothing else. -/
theorem names_placed (goas : List (GroupOrAttr (Attr V))) :
    ((placed goas).map (·.2.key) ++ groupNames goas).Perm (goas.flatMap GroupOrAttr.names) := by
  induction goas with
  | nil => exact .refl _
  | cons goa goas ih =>
      rw [List.flatMap_cons, GroupOrAttr.names, groupNames_cons]
      by_cases isGroup : goa.group ≠ ""
      · have same : (placed (goa :: goas)).map (·.2.key) = (placed goas).map (·.2.key) := by
          simp [placed, leading, sections, isGroup, Function.comp_def]
        rw [same, if_pos isGroup, if_pos isGroup]
        exact List.perm_middle.trans (ih.cons _)
      · have more : (placed (goa :: goas)).map (·.2.key) =
            (goa.attrs.map Attr.key).reverse ++ (placed goas).map (·.2.key) := by
          simp [placed, leading, sections, isGroup, Function.comp_def]
        rw [more, if_neg isGroup, if_neg isGroup, List.append_assoc]
        exact (List.reverse_perm _).append ih

theorem mem_sections_of_group (isGroup : goa.group ≠ "") :
    (goa.group, leading after) ∈ sections (before ++ goa :: after) := by
  induction before with
  | nil => simp [sections, isGroup]
  | cons first before ih =>
      rw [List.cons_append, sections]
      split_ifs
      · exact List.mem_cons_of_mem _ ih
      · exact ih

/-- An attribute is placed in the newest group before it. -/
theorem mem_placed_of_mem (flat : goa.group = "") (mem : a ∈ goa.attrs) :
    ((groupNames before).getLast?.toList, a) ∈ placed (before ++ goa :: after) := by
  have leads : a ∈ leading (goa :: after) := by
    simp [leading, flat, mem]
  obtain none | ⟨older, newest, between, rfl, isGroup, none⟩ := newest_group before
  · rw [groupNames_eq_nil_iff.mpr none]
    refine mem_placed_nil.mpr ?_
    rw [leading_append none]
    exact List.mem_append_right _ leads
  · have last : (groupNames (older ++ newest :: between)).getLast? = some newest.group := by
      rw [groupNames_of_newest isGroup none, List.getLast?_concat]
    rw [last]
    refine mem_placed_singleton.mpr ⟨leading (between ++ goa :: after), ?_, ?_⟩
    · rw [List.append_assoc, List.cons_append]
      exact mem_sections_of_group isGroup
    · rw [leading_append none]
      exact List.mem_append_right _ leads

theorem writesOf_keys_sublist (attrs : List (Attr V)) :
    ((writesOf attrs).map Prod.fst).Sublist (attrs.map Attr.key) := by
  induction attrs with
  | nil => exact .slnil
  | cons a attrs ih =>
      have first : writesOf (a :: attrs) = a.writes ++ writesOf attrs := rfl
      rw [first, List.map_append]
      obtain nothing | ⟨d, one⟩ := a.writes_cases
      · rw [nothing]
        exact ih.cons _
      · rw [one]
        exact ih.cons_cons _

theorem mem_writesOf {attrs : List (Attr V)} (mem : (k, d) ∈ writesOf attrs) :
    ∃ a ∈ attrs, a.key = k ∧ a.writes = [(k, d)] := by
  obtain ⟨a, among, here⟩ := List.mem_flatMap.mp mem
  obtain nothing | ⟨e, one⟩ := a.writes_cases
  · rw [nothing] at here
    nomatch here
  · rw [one] at here
    cases List.mem_singleton.mp here
    exact ⟨a, among, rfl, one⟩

/-- Plain attributes are found in their map itself and not below it. -/
theorem of_contents_writesOf {attrs : List (Attr V)} (plain : ∀ a ∈ attrs, ∃ k v, a = .leaf k v)
    {node : Node V} (found : GoMap.contents (writesOf attrs) (path ++ [k]) = some node) :
    path = [] ∧ ∃ a ∈ attrs, a.key = k ∧ a.writes ≠ [] := by
  cases path with
  | nil =>
      obtain ⟨d, last, -⟩ := Option.bind_eq_some_iff.mp found
      obtain ⟨a, among, key, one⟩ := mem_writesOf (mem_of_lastWrite last)
      exact ⟨rfl, a, among, key, by simp [one]⟩
  | cons g path =>
      obtain ⟨d, last, below⟩ := Option.bind_eq_some_iff.mp found
      obtain ⟨a, among, -, one⟩ := mem_writesOf (mem_of_lastWrite last)
      obtain ⟨key, value, rfl⟩ := plain a among
      rw [Attr.writes_leaf] at one
      split_ifs at one
      cases one
      cases path <;> cases below

section Distinct

variable (distinct : (goas.flatMap GroupOrAttr.names).Nodup)
include distinct

theorem nodup_placed : ((placed goas).map (·.2.key) ++ groupNames goas).Nodup :=
  (names_placed goas).nodup_iff.mpr distinct

theorem nodup_handlerWrites : ((handlerWrites goas).map Prod.fst).Nodup := by
  have keys : ((writesOf (leading goas)).map Prod.fst).Sublist ((placed goas).map (·.2.key)) := by
    refine (writesOf_keys_sublist _).trans ?_
    simp [placed, Function.comp_def]
  rw [handlerWrites, List.map_append, keys_groupWrites, List.nodup_append_comm]
  have reversed : ((writesOf (leading goas)).map Prod.fst ++ (groupNames goas).reverse).Perm
      ((writesOf (leading goas)).map Prod.fst ++ groupNames goas) :=
    (List.reverse_perm _).append_left _
  exact reversed.nodup_iff.mpr ((nodup_placed distinct).sublist (keys.append (.refl _)))

/-- The attributes of one group have distinct keys. -/
theorem nodup_section {g : String} {seg : List (Attr V)} (mem : (g, seg) ∈ sections goas) :
    (seg.map Attr.key).Nodup := by
  have all := (nodup_placed distinct).of_append_left
  rw [placed, List.map_append, List.map_flatMap] at all
  have own := (List.nodup_flatMap.mp all.of_append_right).1 _ mem
  rwa [List.map_map] at own

/-- A plain attribute is found where it is placed, unless it is empty. -/
theorem contents_of_mem_placed {v : Leaf V} (mem : (path, Attr.leaf k v) ∈ placed goas)
    (nonzero : ¬(k = "" ∧ v.isNil)) :
    (handlerWrites goas).contents (path ++ [k]) = some (.scalar v.scalar) := by
  have written : ∀ attrs : List (Attr V), .leaf k v ∈ attrs →
      (k, .scalar v.scalar) ∈ writesOf attrs := by
    intro attrs among
    refine List.mem_flatMap.mpr ⟨_, among, ?_⟩
    rw [Attr.writes_leaf, if_neg nonzero]
    exact List.mem_singleton_self _
  obtain top | grouped := List.mem_append.mp mem
  · obtain ⟨a, among, same⟩ := List.mem_map.mp top
    cases same
    refine Option.bind_eq_some_iff.mpr ⟨.scalar v.scalar, ?_, rfl⟩
    exact lastWrite_of_mem (nodup_handlerWrites distinct)
      (List.mem_append_right _ (written _ among))
  · obtain ⟨⟨g, seg⟩, isSection, inside⟩ := List.mem_flatMap.mp grouped
    obtain ⟨a, among, same⟩ := List.mem_map.mp inside
    cases same
    refine Option.bind_eq_some_iff.mpr ⟨.map (writesOf seg), ?_, ?_⟩
    · refine lastWrite_of_mem (nodup_handlerWrites distinct) (List.mem_append_left _ ?_)
      rw [groupWrites_eq_sections, List.mem_reverse]
      exact List.mem_map.mpr ⟨_, isSection, rfl⟩
    · refine Option.bind_eq_some_iff.mpr ⟨.scalar v.scalar, ?_, rfl⟩
      exact lastWrite_of_mem
        ((nodup_section distinct isSection).sublist (writesOf_keys_sublist seg)) (written _ among)

end Distinct

/-- What is found under a key of the data is a group or an attribute placed there. -/
theorem of_contents_handlerWrites (plain : ∀ p ∈ placed goas, ∃ k v, p.2 = .leaf k v)
    {node : Node V} (found : (handlerWrites goas).contents (path ++ [k]) = some node) :
    k ∈ groupNames goas ∨ ∃ a, (path, a) ∈ placed goas ∧ a.key = k ∧ a.writes ≠ [] := by
  have topPlain : ∀ a ∈ leading goas, ∃ k v, a = .leaf k v :=
    fun a among => plain ([], a) (mem_placed_nil.mpr among)
  obtain ⟨top, rest, split⟩ := List.exists_cons_of_ne_nil (List.concat_ne_nil k path)
  rw [split, handlerWrites] at found
  by_cases grouped : GoMap.view (writesOf (leading goas)) top = none
  · rw [GoMap.contents_append_of_view_none grouped] at found
    obtain ⟨d, last, below⟩ := Option.bind_eq_some_iff.mp found
    have mem := mem_of_lastWrite last
    rw [groupWrites_eq_sections, List.mem_reverse] at mem
    obtain ⟨⟨g, seg⟩, isSection, same⟩ := List.mem_map.mp mem
    cases same
    cases path with
    | nil =>
        cases split
        refine .inl (List.mem_reverse.mp ?_)
        rw [← keys_groupWrites]
        exact List.mem_map_of_mem (mem_of_lastWrite last)
    | cons first path =>
        cases split
        have segPlain : ∀ a ∈ seg, ∃ k v, a = .leaf k v :=
          fun a among => plain ([g], a) (mem_placed_singleton.mpr ⟨seg, isSection, among⟩)
        obtain ⟨rfl, a, among, key, written⟩ := of_contents_writesOf segPlain below
        exact .inr ⟨a, mem_placed_singleton.mpr ⟨seg, isSection, among⟩, key, written⟩
  · rw [GoMap.contents_append_of_view grouped, ← split] at found
    obtain ⟨rfl, a, among, key, written⟩ := of_contents_writesOf topPlain found
    exact .inr ⟨a, mem_placed_nil.mpr among, key, written⟩

/-- An attribute is found where it is placed and nowhere else, and not at all if it is
empty. -/
theorem contents_handlerWrites_eq_none (distinct : (goas.flatMap GroupOrAttr.names).Nodup)
    (plain : ∀ p ∈ placed goas, ∃ k v, p.2 = .leaf k v) (mem : (path, a) ∈ placed goas)
    {other : List String} (absent : other ≠ path ∨ a.writes = []) :
    (handlerWrites goas).contents (other ++ [a.key]) = none := by
  have keys := nodup_placed distinct
  rw [List.nodup_append] at keys
  refine Option.eq_none_iff_forall_ne_some.mpr fun node found => ?_
  obtain isGroup | ⟨b, there, key, written⟩ := of_contents_handlerWrites plain found
  · exact keys.2.2 _ (List.mem_map_of_mem mem) _ isGroup rfl
  · -- keys are distinct, so it is the same attribute at the same place
    have same : (other, b) = (path, a) := List.inj_on_of_nodup_map keys.1 there mem key
    cases same
    exact absent.elim (fun elsewhere => elsewhere rfl) written

/-- Where it is placed, a plain attribute is found exactly if it is not empty. -/
theorem contents_placed_iff (distinct : (goas.flatMap GroupOrAttr.names).Nodup)
    (plain : ∀ p ∈ placed goas, ∃ k v, p.2 = .leaf k v) {b : PlainAttr V}
    (mem : (path, b.attr) ∈ placed goas) :
    (handlerWrites goas).contents (path ++ [b.key]) = some (.scalar b.value.scalar) ↔
      ¬(b.key = "" ∧ b.value.isNil) := by
  constructor
  · intro found zero
    have empty : b.attr.writes = [] := by
      rw [PlainAttr.attr, Attr.writes_leaf, if_pos zero]
    have absent : (handlerWrites goas).contents (path ++ [b.key]) = none :=
      contents_handlerWrites_eq_none distinct plain mem (.inr empty)
    exact nomatch found.symm.trans absent
  · exact contents_of_mem_placed distinct mem

end Sections

/-! ## The groups of a chain of calls -/

section Chain

variable {chain before after : List (Derivation V)} {record : Record V} {l : EntryHandler V}

theorem groups_derive (l : EntryHandler V) (d : Derivation V) :
    (l.derive d).handler.groups = l.handler.groups ++ d.entries := by
  cases d with
  | withAttrs attrs =>
      cases attrs with
      | nil => exact (List.append_nil _).symm
      | cons a attrs => exact EntryHandler.groups_withAttrs (List.cons_ne_nil _ _)
  | withGroup name =>
      by_cases empty : name = ""
      · subst empty
        exact (List.append_nil _).symm
      · simp [EntryHandler.derive, EntryHandler.withGroup, LogHandler.withGroup,
          LogHandler.withGroupAttrs, Derivation.entries, empty]

theorem groups_deriveAll (l : EntryHandler V) (chain : List (Derivation V)) :
    (runFrom EntryHandler.derive l chain).handler.groups =
      l.handler.groups ++ chain.flatMap Derivation.entries := by
  induction chain generalizing l with
  | nil => simp
  | cons d chain ih =>
      rw [runFrom_cons, ih, groups_derive, List.flatMap_cons, List.append_assoc]

theorem source_deriveAll (l : EntryHandler V) (chain : List (Derivation V)) (record : Record V) :
    (runFrom EntryHandler.derive l chain).source record = l.source record := by
  induction chain generalizing l with
  | nil => rfl
  | cons d chain ih =>
      rw [runFrom_cons, ih]
      cases d <;> rfl

theorem names_entries {d : Derivation V} (named : ∀ name, d = .withGroup name → name ≠ "") :
    d.entries.flatMap GroupOrAttr.names = d.names := by
  cases d with
  | withAttrs attrs =>
      cases attrs with
      | nil => rfl
      | cons a attrs =>
          simp [Derivation.entries, EntryHandler.attrsEntries, GroupOrAttr.names,
            Derivation.names, PlainAttr.attr, Attr.key, Function.comp_def]
  | withGroup name =>
      simp [Derivation.entries, GroupOrAttr.names, Derivation.names, named name rfl]

theorem names_chain (named : ∀ name, .withGroup name ∈ chain → name ≠ "") :
    (chain.flatMap Derivation.entries).flatMap GroupOrAttr.names =
      chain.flatMap Derivation.names := by
  rw [List.flatMap_assoc]
  exact List.flatMap_congr fun d mem => names_entries fun name same => named name (same ▸ mem)

theorem groupNames_chain (named : ∀ name, .withGroup name ∈ chain → name ≠ "") :
    groupNames (chain.flatMap Derivation.entries) = opened chain := by
  induction chain with
  | nil => rfl
  | cons d chain ih =>
      have rest := ih fun name mem => named name (List.mem_cons_of_mem _ mem)
      rw [List.flatMap_cons, groupNames_append, rest]
      cases d with
      | withAttrs attrs =>
          cases attrs <;> rfl
      | withGroup name =>
          simp [Derivation.entries, groupNames, opened, Derivation.group?,
            named name List.mem_cons_self]

/-- An entry that is no group keeps everything before it from being dropped. -/
theorem rdropWhile_append_cons {α : Type*} {p : α → Bool} {e : α} (kept : ¬p e) (xs ys : List α) :
    (xs ++ e :: ys).rdropWhile p = xs ++ e :: ys.rdropWhile p := by
  induction ys using List.reverseRecOn with
  | nil => rw [List.rdropWhile_concat_neg _ _ _ kept, List.rdropWhile_nil]
  | append_singleton ys y ih =>
      rw [← List.cons_append, ← List.append_assoc, List.rdropWhile_concat,
        List.rdropWhile_concat, ih]
      split_ifs <;> simp

theorem plain_entries {d : Derivation V} {goa : GroupOrAttr (Attr V)} {a : Attr V}
    (entry : goa ∈ d.entries) (mem : a ∈ goa.attrs) : ∃ k v, a = .leaf k v := by
  cases d with
  | withAttrs attrs =>
      rw [Derivation.entries] at entry
      split_ifs at entry
      · exact absurd entry List.not_mem_nil
      · obtain rfl | rfl : goa = { group := "" } ∨
            goa = { attrs := attrs.map PlainAttr.attr } := by
          simpa [EntryHandler.attrsEntries] using entry
        · exact absurd mem List.not_mem_nil
        · obtain ⟨b, -, rfl⟩ := List.mem_map.mp mem
          exact ⟨b.key, b.value, rfl⟩
  | withGroup name =>
      rw [Derivation.entries] at entry
      split_ifs at entry
      · exact absurd entry List.not_mem_nil
      · obtain rfl | rfl : goa = { group := "" } ∨ goa = { group := name } := by
          simpa using entry
        · exact absurd mem List.not_mem_nil
        · exact absurd mem List.not_mem_nil

end Chain

/-! ## Found at the path of the open groups -/

namespace EntryHandler

variable {l : EntryHandler V} {record : Record V}

/-- The attribute is at this path of the data. Anywhere else under its key there is only what
`own` has there. -/
def FoundOnlyAt (data own : GoMap V) (path : List String) (a : PlainAttr V) : Prop :=
  data.contents (path ++ [a.key]) = some (.scalar a.value.scalar) ∧
    ∀ other, other ≠ path → data.contents (other ++ [a.key]) = own.contents (other ++ [a.key])

/-- An attribute given under these groups is found at their path: it is not empty, there is
at most one group, and the source does not replace the entry at the top that it is in, unless
by the same value. -/
structure Lands (l : EntryHandler V) (record : Record V) (groups : List String)
    (a : PlainAttr V) : Prop where
  nonzero : ¬(a.key = "" ∧ a.value.isNil)
  single : groups.length ≤ 1
  kept : ∀ f, l.source record = some f → (groups ++ [a.key]).head? = some "source" →
    groups = [] ∧ a.value.scalar = .string (f.file ++ ":" ++ toString f.line.toInt)

/-- What is assigned after the attributes of the handler. -/
def ownWrites (l : EntryHandler V) (record : Record V) : GoMap V :=
  l.sourceWrites record ++ writesOf record.attrs

theorem entry_data_eq (l : EntryHandler V) (record : Record V) :
    (l.entry record).data = handlerWrites (l.visited record) ++ l.ownWrites record := by
  rw [entry_data, handlerWrites, ownWrites, List.append_assoc _ (l.sourceWrites record)]

/-- A handler without groups and attributes builds the rest. -/
theorem entry_data_new (opt : LogOptions) (addSource : Bool) (record : Record V) :
    ((new opt addSource).entry record).data = (new opt addSource).ownWrites record := by
  have nothing : (new opt addSource : EntryHandler V).visited record = [] := by
    rw [visited]
    split_ifs <;> rfl
  rw [entry_data_eq, nothing]
  rfl

theorem sourceWrites_of_some {f : Frame} (added : l.source record = some f) :
    l.sourceWrites record =
      [("source", .scalar (.string (f.file ++ ":" ++ toString f.line.toInt)))] := by
  rw [sourceWrites, added, Option.elim_some, sourceAttr, Attr.writes_leaf, if_neg (by simp)]
  rfl

theorem view_ownWrites {k : String} (fresh : ∀ a ∈ record.attrs, a.key ≠ k) :
    (l.ownWrites record).view k = (l.sourceWrites record).view k := by
  have absent : GoMap.view (writesOf record.attrs) k = none := by
    refine GoMap.view_eq_none_iff.mpr fun mem => ?_
    obtain ⟨a, among, key⟩ := List.mem_map.mp ((writesOf_keys_sublist _).subset mem)
    exact fresh a among key
  rw [ownWrites, GoMap.view_append, absent, Option.none_or]

/-- Under a key that is not in the record only the source can be found, at the top. -/
theorem contents_ownWrites {k : String} (fresh : ∀ a ∈ record.attrs, a.key ≠ k)
    (rest : List String) :
    (l.ownWrites record).contents (k :: rest) = (l.sourceWrites record).contents (k :: rest) := by
  rw [GoMap.contents_cons, GoMap.contents_cons, view_ownWrites fresh]

/-- The source is added and replaces what stands under this key. -/
theorem exists_source_of_view {k : String} (assigned : (l.sourceWrites record).view k ≠ none) :
    ∃ f, l.source record = some f ∧ k = "source" := by
  cases added : l.source record with
  | none =>
      rw [sourceWrites, added] at assigned
      exact absurd rfl assigned
  | some f =>
      rw [sourceWrites_of_some added, Ne, GoMap.view_eq_none_iff, not_not] at assigned
      exact ⟨f, rfl, List.mem_singleton.mp assigned⟩

theorem contents_sourceWrites {f : Frame} (added : l.source record = some f)
    (rest : List String) :
    (l.sourceWrites record).contents ("source" :: rest) =
      if rest = [] then some (.scalar (.string (f.file ++ ":" ++ toString f.line.toInt)))
      else none := by
  rw [sourceWrites_of_some added]
  cases rest <;> rfl

theorem contents_sourceWrites_cons_cons (k k' : String) (rest : List String) :
    (l.sourceWrites record).contents (k :: k' :: rest) = none := by
  by_cases assigned : (l.sourceWrites record).view k = none
  · rw [GoMap.contents_cons, assigned]
    rfl
  · obtain ⟨f, added, rfl⟩ := exists_source_of_view assigned
    rw [contents_sourceWrites added, if_neg (List.cons_ne_nil _ _)]

/-- A key at the top that neither the record nor the source has is the handler's. -/
theorem contents_entry_of_unhidden {top : String} (fresh : ∀ a ∈ record.attrs, a.key ≠ top)
    (unhidden : (l.sourceWrites record).view top = none) (rest : List String) :
    (l.entry record).data.contents (top :: rest) =
      (handlerWrites (l.visited record)).contents (top :: rest) := by
  rw [entry_data_eq,
    GoMap.contents_append_of_view_none ((view_ownWrites fresh).trans unhidden)]

/-- The source replaces what the handler has under its key. -/
theorem contents_entry_of_source {f : Frame} (added : l.source record = some f)
    (fresh : ∀ a ∈ record.attrs, a.key ≠ "source") (rest : List String) :
    (l.entry record).data.contents ("source" :: rest) =
      if rest = [] then some (.scalar (.string (f.file ++ ":" ++ toString f.line.toInt)))
      else none := by
  have hidden : (l.ownWrites record).view "source" ≠ none := by
    rw [view_ownWrites fresh, sourceWrites_of_some added]
    exact nofun
  rw [entry_data_eq, GoMap.contents_append_of_view hidden, contents_ownWrites fresh,
    contents_sourceWrites added]

/-- The newest group is the whole path exactly if there is at most one. -/
theorem getLast?_toList_eq_iff {α : Type*} (xs : List α) :
    xs.getLast?.toList = xs ↔ xs.length ≤ 1 := by
  match xs with
  | [] => simp
  | [_] => simp
  | first :: second :: more =>
      refine iff_of_false (fun same => ?_) (by simp)
      have length := congrArg List.length same
      cases last : (first :: second :: more).getLast? <;> simp [last] at length

section Lands

variable {groups : List String} {a : PlainAttr V}
  (distinct : ((l.visited record).flatMap GroupOrAttr.names).Nodup)
  (plain : ∀ p ∈ placed (l.visited record), ∃ k v, p.2 = .leaf k v)
  (mem : (groups.getLast?.toList, a.attr) ∈ placed (l.visited record))
  (fresh : ∀ b ∈ record.attrs, ∀ k ∈ groups ++ [a.key], b.key ≠ k)
include distinct plain mem

/-- The handler puts an attribute into the newest group only. -/
theorem contents_elsewhere {other : List String} (elsewhere : other ≠ groups.getLast?.toList) :
    (l.entry record).data.contents (other ++ [a.key]) =
      (l.ownWrites record).contents (other ++ [a.key]) := by
  have absent : (handlerWrites (l.visited record)).contents (other ++ [a.key]) = none :=
    contents_handlerWrites_eq_none distinct plain mem (.inl elsewhere)
  obtain ⟨top, rest, split⟩ := List.exists_cons_of_ne_nil (List.concat_ne_nil a.key other)
  rw [split] at absent ⊢
  rw [entry_data_eq, GoMap.contents_append_of_absent absent]

include fresh

/-- With at most one group the attribute is at the path of the groups, unless it is empty or
the source replaces it. -/
theorem contents_entry_iff (single : groups.length ≤ 1) :
    (l.entry record).data.contents (groups ++ [a.key]) = some (.scalar a.value.scalar) ↔
      l.Lands record groups a := by
  rw [(getLast?_toList_eq_iff groups).mpr single] at mem
  obtain ⟨top, rest, split⟩ := List.exists_cons_of_ne_nil (List.concat_ne_nil a.key groups)
  have topFresh : ∀ b ∈ record.attrs, b.key ≠ top :=
    fun b among => fresh b among top (split ▸ List.mem_cons_self)
  by_cases unhidden : (l.sourceWrites record).view top = none
  · rw [split, contents_entry_of_unhidden topFresh unhidden, ← split,
      contents_placed_iff distinct plain mem]
    refine ⟨fun nonzero => ⟨nonzero, single, fun f added isSource => ?_⟩, Lands.nonzero⟩
    rw [split, List.head?_cons, Option.some.injEq] at isSource
    rw [isSource, sourceWrites_of_some added] at unhidden
    exact nomatch unhidden
  · obtain ⟨f, added, rfl⟩ := exists_source_of_view unhidden
    rw [split, contents_entry_of_source added topFresh]
    cases groups with
    | nil =>
        obtain ⟨key, rfl⟩ := List.cons.inj split
        rw [if_pos rfl, Option.some.injEq, Node.scalar.injEq]
        constructor
        · intro same
          refine ⟨fun zero => absurd (key.symm.trans zero.1) (by decide), single, ?_⟩
          intro f' added' _
          cases added.symm.trans added'
          exact ⟨rfl, same.symm⟩
        · intro lands
          exact (lands.kept f added (congrArg some key)).2.symm
    | cons g groups =>
        obtain ⟨isSource, tail⟩ := List.cons.inj split
        rw [if_neg (tail ▸ List.concat_ne_nil a.key groups)]
        refine iff_of_false nofun fun lands => ?_
        exact nomatch (lands.kept f added (congrArg some isSource)).1

/-- An attribute is found at the path of the groups and nowhere else exactly if it lands. -/
theorem foundOnlyAt_iff :
    FoundOnlyAt (l.entry record).data (l.ownWrites record) groups a ↔ l.Lands record groups a := by
  by_cases single : groups.length ≤ 1
  · rw [FoundOnlyAt, contents_entry_iff distinct plain mem fresh single]
    refine and_iff_left fun other elsewhere => contents_elsewhere distinct plain mem ?_
    rwa [(getLast?_toList_eq_iff groups).mpr single]
  · refine iff_of_false (fun found => ?_) fun lands => single lands.single
    have deeper : groups ≠ groups.getLast?.toList :=
      fun same => single ((getLast?_toList_eq_iff groups).mp same.symm)
    have here := contents_elsewhere distinct plain mem deeper
    rw [found.1] at here
    -- below the top the record and the source have nothing under a name of the chain
    match groups, single with
    | [], single => exact single (Nat.zero_le 1)
    | top :: groups, _ =>
        have topFresh : ∀ b ∈ record.attrs, b.key ≠ top :=
          fun b among => fresh b among top List.mem_cons_self
        obtain ⟨second, rest, split⟩ :=
          List.exists_cons_of_ne_nil (List.concat_ne_nil a.key groups)
        rw [List.cons_append, contents_ownWrites topFresh, split,
          contents_sourceWrites_cons_cons] at here
        cases here

end Lands

section Chain

variable {chain before after : List (Derivation V)} {attrs : List (PlainAttr V)}
  {opt : LogOptions} {addSource : Bool}

theorem visited_append (l : EntryHandler V) (record : Record V) :
    ∃ dropped, l.visited record ++ dropped = l.handler.groups := by
  rw [visited]
  split_ifs
  · exact List.rdropWhile_prefix _ _
  · exact ⟨[], List.append_nil _⟩

theorem groups_chain (opt : LogOptions) (addSource : Bool) (chain : List (Derivation V)) :
    (runFrom derive (new opt addSource) chain).handler.groups =
      chain.flatMap Derivation.entries := groups_deriveAll _ chain

/-- The entries before some attributes are all visited. -/
theorem visited_chain (nonempty : attrs ≠ []) (opt : LogOptions) (addSource : Bool)
    (record : Record V) (before after : List (Derivation V)) :
    ∃ later, (runFrom derive (new opt addSource) (before ++ .withAttrs attrs :: after)).visited
        record =
      (before.flatMap Derivation.entries ++ [{ group := "" }]) ++
        { attrs := attrs.map PlainAttr.attr } :: later := by
  have entries : (before ++ .withAttrs attrs :: after).flatMap Derivation.entries =
      (before.flatMap Derivation.entries ++ [{ group := "" }]) ++
        { attrs := attrs.map PlainAttr.attr } :: after.flatMap Derivation.entries := by
    rw [List.flatMap_append, List.flatMap_cons, Derivation.entries,
      if_neg (by simpa using nonempty), attrsEntries]
    simp
  rw [visited, groups_chain, entries]
  split_ifs
  · exact ⟨_, rdropWhile_append_cons (by simp) _ _⟩
  · exact ⟨_, rfl⟩

theorem nodup_visited (distinct : Distinct chain record) :
    (((runFrom derive (new opt addSource) chain).visited record).flatMap
      GroupOrAttr.names).Nodup := by
  obtain ⟨dropped, all⟩ := visited_append (runFrom derive (new opt addSource) chain) record
  have names := distinct.once
  rw [← names_chain distinct.named, ← groups_chain opt addSource, ← all,
    List.flatMap_append] at names
  exact names.of_append_left

theorem plain_visited :
    ∀ p ∈ placed ((runFrom derive (new opt addSource) chain).visited record),
      ∃ k v, p.2 = .leaf k v := by
  intro p mem
  obtain ⟨dropped, all⟩ := visited_append (runFrom derive (new opt addSource) chain) record
  obtain ⟨goa, visits, inside⟩ := exists_of_mem_placed mem
  have among := List.mem_append_left dropped visits
  rw [all, groups_chain] at among
  obtain ⟨d, -, entry⟩ := List.mem_flatMap.mp among
  exact plain_entries entry inside

theorem opened_subset_names : ∀ name ∈ opened chain, name ∈ chain.flatMap Derivation.names := by
  intro name mem
  obtain ⟨d, among, isGroup⟩ := List.mem_filterMap.mp mem
  refine List.mem_flatMap.mpr ⟨d, among, ?_⟩
  cases d with
  | withAttrs attrs => nomatch isGroup
  | withGroup name' =>
      cases isGroup
      exact List.mem_singleton_self _

/-- Every attribute given to `WithAttrs` is found at the path of all groups opened before it,
and apart from what the record and the source put there nowhere else, exactly if none is empty,
there is at most one group before each, and the source replaces none of them. -/
theorem attrs_land_under_groups_iff (opt : LogOptions) (addSource : Bool)
    (chain : List (Derivation V)) (record : Record V) (distinct : Distinct chain record) :
    (∀ before attrs after, chain = before ++ .withAttrs attrs :: after → ∀ a ∈ attrs,
        FoundOnlyAt ((runFrom derive (new opt addSource) chain).entry record).data
          ((new opt addSource).entry record).data (opened before) a) ↔
      ∀ before attrs after, chain = before ++ .withAttrs attrs :: after → ∀ a ∈ attrs,
        (new opt addSource).Lands record (opened before) a := by
  have source := source_deriveAll (new opt addSource) chain record
  have own : (runFrom derive (new opt addSource) chain).ownWrites record =
      ((new opt addSource).entry record).data := by
    rw [entry_data_new, ownWrites, sourceWrites, source]
    rfl
  refine forall₄_congr fun before attrs after split => forall₂_congr fun a among => ?_
  have lands : (runFrom derive (new opt addSource) chain).Lands record (opened before) a ↔
      (new opt addSource).Lands record (opened before) a :=
    ⟨fun h => ⟨h.nonzero, h.single, source ▸ h.kept⟩,
      fun h => ⟨h.nonzero, h.single, source.symm ▸ h.kept⟩⟩
  rw [← own, ← lands]
  have names : ∀ k ∈ opened before ++ [a.key], k ∈ chain.flatMap Derivation.names := by
    intro k mem
    rw [split, List.flatMap_append, List.flatMap_cons]
    obtain group | key := List.mem_append.mp mem
    · exact List.mem_append_left _ (opened_subset_names k group)
    · rw [List.mem_singleton.mp key]
      exact List.mem_append_right _ (List.mem_append_left _ (List.mem_map_of_mem among))
  refine foundOnlyAt_iff (nodup_visited distinct) plain_visited ?_
    fun b inRecord k mem same => distinct.fresh b inRecord (same ▸ names k mem)
  have named : ∀ name, .withGroup name ∈ before → name ≠ "" :=
    fun name mem => distinct.named name (split ▸ List.mem_append_left _ mem)
  obtain ⟨later, visits⟩ :=
    visited_chain (List.ne_nil_of_mem among) opt addSource record before after
  have groups : groupNames (before.flatMap Derivation.entries ++ [{ group := "" }]) =
      opened before := by
    rw [groupNames_append, groupNames_chain named]
    exact List.append_nil _
  rw [← groups, split, visits]
  exact mem_placed_of_mem rfl (List.mem_map_of_mem among)

/-- An attribute in one group, and the same attribute in a group inside another. -/
def sampleUser : PlainAttr Unit := ⟨"user", .string "alice"⟩

def sampleGroup : List (Derivation Unit) := [.withGroup "sub", .withAttrs [sampleUser]]

def sampleNested : List (Derivation Unit) :=
  [.withGroup "a", .withGroup "b", .withAttrs [sampleUser]]

theorem attrs_land_under_groups_iff_sub :
    Distinct sampleGroup quietRecord ∧
      ∀ before attrs after, sampleGroup = before ++ .withAttrs attrs :: after → ∀ a ∈ attrs,
        FoundOnlyAt ((runFrom derive (new ⟨10⟩ false) sampleGroup).entry quietRecord).data
          ((new ⟨10⟩ false).entry quietRecord).data (opened before) a := by
  have distinct : Distinct sampleGroup quietRecord :=
    ⟨by simp [sampleGroup], by decide, by simp [quietRecord]⟩
  refine ⟨distinct, (attrs_land_under_groups_iff _ _ _ _ distinct).mpr ?_⟩
  intro before attrs after split a among
  match before, split with
  | [.withGroup _], split =>
      cases split
      obtain rfl := List.mem_singleton.mp among
      exact ⟨by simp [sampleUser], Nat.le_refl 1, fun f added => nomatch added⟩
  | _ :: _ :: [], split => nomatch split
  | _ :: _ :: _ :: _, split => nomatch split

/-- The second of two groups is not put into the first. -/
theorem nested_group_is_at_top :
    let data := ((runFrom derive (new ⟨10⟩ false) sampleNested).entry quietRecord).data
    Distinct sampleNested quietRecord ∧
      opened sampleNested = ["a", "b"] ∧
      data.contents ["a", "b", "user"] = none ∧
      data.contents ["b", "user"] = some (.scalar (.string "alice")) :=
  ⟨⟨by simp [sampleNested], by decide, by simp [quietRecord]⟩, rfl, by decide, by decide⟩

end Chain

end EntryHandler

end GoOdin.Logs
