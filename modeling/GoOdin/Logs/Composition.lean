import GoOdin.Logs.Entry

/-!
# `WithAttrs` twice and `WithAttrs` once

The attributes of one `WithAttrs` are pushed in order and popped in reverse, so of two with
the same key the first one is assigned last and stays. The attributes of two `WithAttrs` are
popped in the order of the calls, so there the second call wins. Giving the attributes of two
lists in one call or in two calls therefore makes a difference for the keys that are in both.
-/

namespace GoOdin.Logs.EntryHandler

variable {V : Type} {l : EntryHandler V} {record : Record V} {xs ys : List (Attr V)}

/-- The first value that a list has for a key, empty attributes not counted. -/
def firstView (attrs : List (Attr V)) (k : String) : Option (List String → Option (Node V)) :=
  ((writesOf attrs).lookup k).map Datum.contents

/-- The key at the top under which an attribute given to `WithAttrs` is found: that of the
newest group, or its own if there is no group. -/
def target (l : EntryHandler V) (k : String) : String :=
  (groupNames l.handler.groups).getLast?.getD k

/-- The keys at the top that are assigned after that: older groups and what is in no group
come after the newest group, the source and the record come last. -/
def assignedLater (l : EntryHandler V) (record : Record V) : List String :=
  (if groupNames l.handler.groups = [] then []
    else (groupNames l.handler.groups).dropLast ++
      (writesOf (leading l.handler.groups)).map Prod.fst) ++
    (l.sourceWrites record ++ writesOf record.attrs).map Prod.fst

theorem firstView_eq (attrs : List (Attr V)) (k : String) :
    firstView attrs k = GoMap.view (writesOf attrs.reverse) k := by
  rw [firstView, GoMap.view, writesOf_reverse, Memory.lastWrite_reverse]

/-- Options in two orders agree exactly if the values do where there are two. -/
theorem or_comm_iff {α : Type*} {p q r : Option α} :
    q.or (p.or r) = p.or (q.or r) ↔ ∀ d e, p = some d → q = some e → d = e := by
  cases p with
  | none => simp
  | some d =>
      cases q with
      | none => simp
      | some e => simp [eq_comm]

/-- A later assignment hides what two maps hold under its key. -/
theorem or_left_cancel_iff {α : Type*} {r p q : Option α} :
    r.or p = r.or q ↔ (r = none → p = q) := by
  cases r <;> simp

/-- The data of an entry when the handler has these entries after its own. -/
def dataWith (l : EntryHandler V) (record : Record V) (goas : List (GroupOrAttr (Attr V))) :
    GoMap V :=
  groupWrites (l.handler.groups ++ goas) ++ writesOf (leading (l.handler.groups ++ goas)) ++
    (l.sourceWrites record ++ writesOf record.attrs)

theorem dataWith_of_no_group (none : ∀ goa ∈ l.handler.groups, goa.group = "")
    {goas : List (GroupOrAttr (Attr V))} (flat : ∀ goa ∈ goas, goa.group = "") :
    l.dataWith record goas =
      (writesOf (leading l.handler.groups) ++ writesOf (leading goas)) ++
        (l.sourceWrites record ++ writesOf record.attrs) := by
  have all : ∀ goa ∈ l.handler.groups ++ goas, goa.group = "" :=
    List.forall_mem_append.mpr ⟨none, flat⟩
  rw [dataWith, groupWrites_eq_nil all, leading_append none, writesOf_append, List.nil_append]

theorem dataWith_of_newest_group {before after goas : List (GroupOrAttr (Attr V))}
    {newest : GroupOrAttr (Attr V)} (split : l.handler.groups = before ++ newest :: after)
    (isGroup : newest.group ≠ "") (none : ∀ goa ∈ after, goa.group = "")
    (flat : ∀ goa ∈ goas, goa.group = "") :
    l.dataWith record goas =
      [(newest.group, .map (writesOf (leading after) ++ writesOf (leading goas)))] ++
        (groupWrites before ++ (writesOf (leading before) ++
          (l.sourceWrites record ++ writesOf record.attrs))) := by
  have all : ∀ goa ∈ after ++ goas, goa.group = "" := List.forall_mem_append.mpr ⟨none, flat⟩
  have entries : l.handler.groups ++ goas = before ++ newest :: (after ++ goas) := by
    rw [split, List.append_assoc, List.cons_append]
  rw [dataWith, entries, groupWrites_append_group isGroup, leading_append_group isGroup,
    groupWrites_eq_nil all, leading_append none, writesOf_append]
  simp

/-- Maps stored first under one key make a difference unless the key is assigned again. -/
theorem contents_cons_map_iff {g : String} {m m' rest : GoMap V} :
    GoMap.contents ([(g, .map m)] ++ rest) = GoMap.contents ([(g, .map m')] ++ rest) ↔
      (rest.view g = none → m.contents = m'.contents) := by
  have single : ∀ (n : GoMap V) (k : String),
      GoMap.view [(g, .map n)] k = if g = k then some n.contents else none := by
    intro n k
    rw [GoMap.view, Memory.lastWrite_cons, Memory.lastWrite_nil, Option.none_or]
    split_ifs <;> rfl
  simp only [GoMap.contents_eq_iff (m := [(g, .map m)] ++ rest), GoMap.view_append,
    or_left_cancel_iff, single]
  constructor
  · intro same hidden
    simpa using same g hidden
  · intro same k hidden
    by_cases isKey : g = k
    · subst isKey
      simp [same hidden]
    · simp [isKey]

/-- Attributes given last are assigned to one map, after some others that do not depend on
them. Whether they differ in the end is decided in that map, unless it is replaced later. -/
theorem contents_dataWith_iff (l : EntryHandler V) (record : Record V) :
    ∃ base : GoMap V, ∀ goas goas' : List (GroupOrAttr (Attr V)),
      (∀ goa ∈ goas, goa.group = "") → (∀ goa ∈ goas', goa.group = "") →
      ((l.dataWith record goas).contents = (l.dataWith record goas').contents ↔
        ∀ k, l.target k ∉ l.assignedLater record →
          (GoMap.view (writesOf (leading goas)) k).or (base.view k) =
            (GoMap.view (writesOf (leading goas')) k).or (base.view k)) := by
  obtain none | ⟨before, newest, after, split, isGroup, none⟩ := newest_group l.handler.groups
  · -- without a group they are assigned at the top, before the source and the record
    refine ⟨writesOf (leading l.handler.groups), fun goas goas' flat flat' => ?_⟩
    have later : ∀ k, l.target k ∉ l.assignedLater record ↔
        GoMap.view (l.sourceWrites record ++ writesOf record.attrs) k = Option.none := by
      intro k
      rw [GoMap.view_eq_none_iff, target, assignedLater, groupNames_eq_nil_iff.mpr none]
      rfl
    rw [dataWith_of_no_group none flat, dataWith_of_no_group none flat', GoMap.contents_eq_iff]
    refine forall_congr' fun k => ?_
    rw [later, GoMap.view_append _ (_ ++ _), GoMap.view_append _ (_ ++ _), or_left_cancel_iff,
      GoMap.view_append _ (writesOf (leading goas)), GoMap.view_append _ (writesOf (leading goas'))]
  · -- with a group they are assigned in its map, which is assigned first at the top
    refine ⟨writesOf (leading after), fun goas goas' flat flat' => ?_⟩
    have names : groupNames l.handler.groups = groupNames before ++ [newest.group] := by
      rw [split, groupNames_of_newest isGroup none]
    have later : ∀ k, l.target k ∉ l.assignedLater record ↔
        GoMap.view (groupWrites before ++ (writesOf (leading before) ++
          (l.sourceWrites record ++ writesOf record.attrs))) newest.group = Option.none := by
      intro k
      have leads : leading l.handler.groups = leading before := by
        rw [split, leading_append_group isGroup]
      rw [GoMap.view_eq_none_iff, target, assignedLater, names, leads]
      simp only [List.map_append, keys_groupWrites]
      simp
    rw [dataWith_of_newest_group split isGroup none flat,
      dataWith_of_newest_group split isGroup none flat', contents_cons_map_iff,
      GoMap.contents_eq_iff]
    simp only [later, GoMap.view_append _ (writesOf (leading goas)),
      GoMap.view_append _ (writesOf (leading goas'))]
    exact ⟨fun same k hidden => same hidden k, fun same hidden k => same k hidden⟩

/-- The two entries that a call of `WithAttrs` appends. -/
def attrsEntries (attrs : List (Attr V)) : List (GroupOrAttr (Attr V)) :=
  [{ group := "" }, { attrs := attrs }]

theorem attrsEntries_flat (attrs : List (Attr V)) :
    ∀ goa ∈ attrsEntries attrs, goa.group = "" := by
  simp [attrsEntries]

theorem groups_withAttrs (nonempty : xs ≠ []) :
    (l.withAttrs xs).handler.groups = l.handler.groups ++ attrsEntries xs := by
  cases xs with
  | nil => exact absurd rfl nonempty
  | cons x xs => exact List.append_assoc _ _ _

/-- A handler whose last entry holds attributes walks over all its entries. -/
theorem visited_withAttrs (nonempty : xs ≠ []) :
    (l.withAttrs xs).visited record = (l.withAttrs xs).handler.groups := by
  have last : l.handler.groups ++ attrsEntries xs =
      (l.handler.groups ++ [{ group := "" }]) ++ [{ attrs := xs }] := by
    rw [List.append_assoc]
    rfl
  rw [visited, groups_withAttrs nonempty, last, List.rdropWhile_concat_neg _ _ _ (by simp),
    ite_self]

/-- The entry of a handler that `WithAttrs` made. -/
theorem data_withAttrs (nonempty : xs ≠ []) :
    ((l.withAttrs xs).entry record).data = l.dataWith record (attrsEntries xs) := by
  rw [entry_data, visited_withAttrs nonempty, groups_withAttrs nonempty, dataWith,
    List.append_assoc]
  rfl

theorem data_withAttrs_twice (first : xs ≠ []) (second : ys ≠ []) :
    (((l.withAttrs xs).withAttrs ys).entry record).data =
      l.dataWith record (attrsEntries xs ++ attrsEntries ys) := by
  rw [data_withAttrs second, dataWith, groups_withAttrs first,
    List.append_assoc l.handler.groups, dataWith]
  rfl

/-- Two calls of `WithAttrs` build the same data as one, for every handler and every record,
exactly if each key that has a value in both lists has the same first value in them, or the
entry at the top in which it would be found is assigned again later. -/
theorem withAttrs_composes_iff (l : EntryHandler V) (record : Record V) (xs ys : List (Attr V)) :
    (((l.withAttrs xs).withAttrs ys).entry record).data.contents =
        ((l.withAttrs (xs ++ ys)).entry record).data.contents ↔
      ∀ k, l.target k ∉ l.assignedLater record →
        ∀ d e, firstView xs k = some d → firstView ys k = some e → d = e := by
  by_cases first : xs = []
  · subst first
    exact iff_of_true rfl fun _ _ _ _ none => nomatch none
  by_cases second : ys = []
  · subst second
    rw [List.append_nil]
    exact iff_of_true rfl fun _ _ _ _ _ none => nomatch none
  obtain ⟨base, decided⟩ := contents_dataWith_iff l record
  have flat : ∀ goa ∈ attrsEntries xs ++ attrsEntries ys, goa.group = "" :=
    List.forall_mem_append.mpr ⟨attrsEntries_flat xs, attrsEntries_flat ys⟩
  have twice : leading (attrsEntries xs ++ attrsEntries ys) = xs.reverse ++ ys.reverse := by
    simp [attrsEntries, leading]
  have once : leading (attrsEntries (xs ++ ys)) = ys.reverse ++ xs.reverse := by
    simp [attrsEntries, leading]
  rw [data_withAttrs_twice first second,
    data_withAttrs (List.append_ne_nil_of_left_ne_nil first ys),
    decided _ _ flat (attrsEntries_flat (xs ++ ys)), twice, once]
  refine forall₂_congr fun k _ => ?_
  rw [writesOf_append, writesOf_append, GoMap.view_append, GoMap.view_append, firstView_eq,
    firstView_eq, Option.or_assoc, Option.or_assoc]
  exact or_comm_iff

/-- A user of one name, and then of another. -/
def sampleXs : List (Attr Unit) := [.leaf "user" (.string "alice")]

def sampleYs : List (Attr Unit) := [.leaf "user" (.string "bob")]

/-- Given in two calls the second user stays, given in one call the first. -/
theorem one_call_keeps_first_value :
    let l : EntryHandler Unit := .new ⟨10⟩ false
    (((l.withAttrs sampleXs).withAttrs sampleYs).entry quietRecord).data.contents ["user"] =
        some (.scalar (.string "bob")) ∧
      ((l.withAttrs (sampleXs ++ sampleYs)).entry quietRecord).data.contents ["user"] =
        some (.scalar (.string "alice")) := by
  decide

end GoOdin.Logs.EntryHandler
