import GoOdin.Gorm.Search

/-!
# Statements built by several helpers

A statement passes through any of the helpers that search and sort, one after another. Two
things are asked of the result: that what a client sends never becomes part of the text of the
statement, and that a search never selects a row that the statement did not select before.

`WithSearchV2`, `WithSearchAllColumn` and their counterparts for sorting leave the work to
handlers that the caller writes. What is asked of them differs: for the first they use the value
in arguments only, for the second they add conjuncts and columns of their own, whatever the
statement. That gorm appends to the statement it is called on, and that the database lets `AND`
bind more tightly than `OR`, is part of the model of a statement.
-/

namespace GoOdin.Gorm

open MapRange Sql

/-- `SearchHandler`. -/
abbrev SearchHandler := Finmap fun _ : String => String → Tx → Tx

structure WithSearchParam where
  column : String
  value : String

def withSearchV2 (param : WithSearchParam) (handlers : SearchHandler) (tx : Tx) : Tx :=
  match handlers.lookup param.column with
  | some value => value param.value tx
  | none => tx

/-- One round of the loop of `WithSearchAllColumn`. -/
def searchColumn (request : StringMap) (entry : Σ _ : String, String → Tx → Tx) (tx : Tx) : Tx :=
  match request.lookup entry.1 with
  | some text => entry.2 text tx
  | none => tx

def withSearchAllColumn (request : StringMap) {handlers : SearchHandler}
    (range : RangeOrder handlers) (tx : Tx) : Tx :=
  range.entries.foldl (fun tx entry => searchColumn request entry tx) tx

/-- `SortHandler`. -/
abbrev SortHandler := Finmap fun _ : String => String → Bool → Tx → Tx

def withDefaultSort (column : String) : String → Bool → Tx → Tx :=
  fun _ desc tx => tx.addOrder ⟨column, desc⟩

structure WithSortV2Param where
  column : String
  direction : String

/-- Only here is `desc` read as a direction too. -/
def WithSortV2Param.desc (param : WithSortV2Param) : Bool :=
  param.direction = "descend" || param.direction = "desc"

def withSortV2 (param : WithSortV2Param) (handlers : SortHandler) (tx : Tx) : Tx :=
  match handlers.lookup param.column with
  | some value => value param.column param.desc tx
  | none => tx

/-- One round of the loop of `WithSortAllColumn`. -/
def sortColumn (request : StringMap) (entry : Σ _ : String, String → Bool → Tx → Tx) (tx : Tx) :
    Tx :=
  match request.lookup entry.1 with
  | some direction => entry.2 direction (direction = "descend") tx
  | none => tx

def withSortAllColumn (request : StringMap) {handlers : SortHandler}
    (range : RangeOrder handlers) (tx : Tx) : Tx :=
  range.entries.foldl (fun tx entry => sortColumn request entry tx) tx

/-! ## What is added to a statement -/

/-- The builder adds these conditions and these columns, whatever the statement. -/
def Appends (f : Tx → Tx) (parts : List (Connective × Condition)) (columns : List OrderByColumn) :
    Prop :=
  ∀ tx, f tx = ⟨tx.wheres ++ parts, tx.orders ++ columns⟩

theorem appends_id : Appends id [] [] := by
  intro tx
  rw [List.append_nil, List.append_nil]
  rfl

theorem appends_addWhere (c : Condition) : Appends (fun tx => tx.addWhere c) [(.and, c)] [] := by
  intro tx
  show Tx.addWhere tx c = _
  rw [Tx.addWhere, List.append_nil]

theorem appends_addOr (c : Condition) : Appends (fun tx => tx.addOr c) [(.or, c)] [] := by
  intro tx
  show Tx.addOr tx c = _
  rw [Tx.addOr, List.append_nil]

theorem appends_addOrder (column : OrderByColumn) :
    Appends (fun tx => tx.addOrder column) [] [column] := by
  intro tx
  show Tx.addOrder tx column = _
  rw [Tx.addOrder, List.append_nil]

theorem Appends.comp {f g : Tx → Tx} {parts parts' : List (Connective × Condition)}
    {columns columns' : List OrderByColumn} (first : Appends f parts columns)
    (second : Appends g parts' columns') :
    Appends (fun tx => g (f tx)) (parts ++ parts') (columns ++ columns') := by
  intro tx
  show g (f tx) = _
  rw [second, first, List.append_assoc, List.append_assoc]

/-- The builder adds conjuncts, and columns to sort by. -/
def Conjunctive (f : Tx → Tx) : Prop :=
  ∃ parts columns, Appends f parts columns ∧ ∀ part ∈ parts, part.1 = .and

theorem conjunctive_id : Conjunctive id :=
  ⟨[], [], appends_id, fun _ mem => absurd mem List.not_mem_nil⟩

theorem Conjunctive.foldl {ι : Type} {step : ι → Tx → Tx} {entries : List ι}
    (each : ∀ entry ∈ entries, Conjunctive (step entry)) :
    Conjunctive fun tx => entries.foldl (fun tx entry => step entry tx) tx := by
  induction entries with
  | nil => exact conjunctive_id
  | cons entry entries ih =>
      obtain ⟨here, later⟩ := List.forall_mem_cons.mp each
      obtain ⟨parts, columns, first, ands⟩ := here
      obtain ⟨parts', columns', second, ands'⟩ := ih later
      exact ⟨parts ++ parts', columns ++ columns', first.comp second,
        List.forall_mem_append.mpr ⟨ands, ands'⟩⟩

/-! ## Calls -/

/-- A call of one of the helpers, with the order of its loop. -/
inductive Call where
  | withSearch (request keys : StringMap) (range : RangeOrder keys)
  | withSearchV2 (param : WithSearchParam) (handlers : SearchHandler)
  | withSearchAllColumn (request : StringMap) (handlers : SearchHandler)
      (range : RangeOrder handlers)
  | withSort (request keys : StringMap) (range : RangeOrder keys)
  | withSortV2 (param : WithSortV2Param) (handlers : SortHandler)
  | withSortAllColumn (request : StringMap) (handlers : SortHandler) (range : RangeOrder handlers)

variable (toLower : String → String)

def Call.apply : Call → Tx → Tx
  | .withSearch request _ range => Gorm.withSearch toLower request range
  | .withSearchV2 param handlers => Gorm.withSearchV2 param handlers
  | .withSearchAllColumn request _ range => Gorm.withSearchAllColumn request range
  | .withSort request _ range => Gorm.withSort request range
  | .withSortV2 param handlers => Gorm.withSortV2 param handlers
  | .withSortAllColumn request _ range => Gorm.withSortAllColumn request range

/-- A statement after these calls. -/
def build (calls : List Call) (tx : Tx) : Tx :=
  calls.foldl (fun tx call => call.apply toLower tx) tx

/-- The handlers of the call, if it has any, add conjuncts and columns only. -/
def Call.AddsConjuncts : Call → Prop
  | .withSearchV2 _ handlers | .withSearchAllColumn _ handlers _ =>
      ∀ key handler, handlers.lookup key = some handler → ∀ value, Conjunctive (handler value)
  | .withSortV2 _ handlers | .withSortAllColumn _ handlers _ =>
      ∀ key handler, handlers.lookup key = some handler →
        ∀ value desc, Conjunctive (handler value desc)
  | .withSearch _ _ _ | .withSort _ _ _ => True

/-- More than two keys of a plain search are in the request. -/
def Call.Wide : Call → Prop
  | .withSearch request keys _ => 2 < (matching toLower request keys).card
  | _ => False

variable {toLower}

theorem withSearch_appends (request : StringMap) {keys : StringMap} (range : RangeOrder keys) :
    Appends (withSearch toLower request range)
      (joined (range.entries.filterMap (searched toLower request))) [] := by
  intro tx
  rw [withSearch_eq, List.append_nil]

theorem withSort_appends (request : StringMap) {keys : StringMap} (range : RangeOrder keys) :
    Appends (withSort request range) [] (range.entries.filterMap (sorted request)) := by
  intro tx
  rw [withSort_eq, List.append_nil]

theorem joined_conjuncts_iff (conds : List Condition) :
    (∀ part ∈ joined conds, part.1 = .and) ↔ conds.length ≤ 2 := by
  constructor
  · intro ands
    by_contra long
    obtain ⟨c, mem⟩ := List.exists_mem_of_ne_nil (conds.drop 2) (by
      intro empty
      have := List.drop_eq_nil_iff.mp empty
      omega)
    have last : (Connective.or, c) ∈ joined conds :=
      List.mem_append_right _ (List.mem_map_of_mem mem)
    cases ands _ last
  · intro short part mem
    rw [joined, List.drop_of_length_le short, List.map_nil, List.append_nil] at mem
    obtain ⟨c, -, rfl⟩ := List.mem_map.mp mem
    rfl

theorem searchColumn_conjunctive (request : StringMap) {entry : Σ _ : String, String → Tx → Tx}
    (adds : ∀ value, Conjunctive (entry.2 value)) : Conjunctive (searchColumn request entry) := by
  show Conjunctive fun tx => searchColumn request entry tx
  unfold searchColumn
  cases request.lookup entry.1 with
  | none => exact conjunctive_id
  | some text => exact adds text

theorem sortColumn_conjunctive (request : StringMap)
    {entry : Σ _ : String, String → Bool → Tx → Tx}
    (adds : ∀ value desc, Conjunctive (entry.2 value desc)) :
    Conjunctive (sortColumn request entry) := by
  show Conjunctive fun tx => sortColumn request entry tx
  unfold sortColumn
  cases request.lookup entry.1 with
  | none => exact conjunctive_id
  | some direction => exact adds direction _

/-- A call adds conjuncts only, unless it is a plain search for more than two keys. -/
theorem Call.appends {call : Call} (adds : call.AddsConjuncts) :
    ∃ parts columns, Appends (call.apply toLower) parts columns ∧
      ((∀ part ∈ parts, part.1 = .and) ↔ ¬ call.Wide toLower) := by
  have narrow : ∀ {f : Tx → Tx}, Conjunctive f → ∃ parts columns, Appends f parts columns ∧
      ((∀ part ∈ parts, part.1 = .and) ↔ ¬ False) := by
    rintro f ⟨parts, columns, appends, ands⟩
    exact ⟨parts, columns, appends, iff_of_true ands not_false⟩
  cases call with
  | withSearch request keys range =>
      have number := card_matching toLower request range fun _ => true
      rw [List.length_map] at number
      refine ⟨_, _, withSearch_appends request range, ?_⟩
      rw [joined_conjuncts_iff, Call.Wide, Nat.not_lt, number]
  | withSearchV2 param handlers =>
      refine narrow ?_
      show Conjunctive fun tx => Gorm.withSearchV2 param handlers tx
      unfold Gorm.withSearchV2
      cases found : handlers.lookup param.column with
      | none => exact conjunctive_id
      | some handler => exact adds _ _ found param.value
  | withSearchAllColumn request handlers range =>
      exact narrow (.foldl fun entry mem => searchColumn_conjunctive request
        (adds entry.1 entry.2 (range.mem_entries.mp mem)))
  | withSort request keys range =>
      exact ⟨_, _, withSort_appends request range,
        iff_of_true (fun _ mem => absurd mem List.not_mem_nil) not_false⟩
  | withSortV2 param handlers =>
      refine narrow ?_
      show Conjunctive fun tx => Gorm.withSortV2 param handlers tx
      unfold Gorm.withSortV2
      cases found : handlers.lookup param.column with
      | none => exact conjunctive_id
      | some handler => exact adds _ _ found param.column param.desc
  | withSortAllColumn request handlers range =>
      exact narrow (.foldl fun entry mem => sortColumn_conjunctive request
        (adds entry.1 entry.2 (range.mem_entries.mp mem)))

theorem build_appends {calls : List Call} (adds : ∀ call ∈ calls, call.AddsConjuncts) :
    ∃ parts columns, Appends (build toLower calls) parts columns ∧
      ((∀ part ∈ parts, part.1 = .and) ↔ ∀ call ∈ calls, ¬ call.Wide toLower) := by
  induction calls with
  | nil =>
      exact ⟨[], [], appends_id, iff_of_true (fun _ mem => absurd mem List.not_mem_nil)
        fun _ mem => absurd mem List.not_mem_nil⟩
  | cons call calls ih =>
      obtain ⟨here, later⟩ := List.forall_mem_cons.mp adds
      obtain ⟨parts, columns, first, narrow⟩ := Call.appends here
      obtain ⟨parts', columns', second, narrow'⟩ := ih later
      refine ⟨parts ++ parts', columns ++ columns', first.comp second, ?_⟩
      rw [List.forall_mem_append, List.forall_mem_cons, narrow, narrow']

instance : Infinite Condition :=
  .of_injective (fun query : String => (⟨query, ""⟩ : Condition)) fun _ _ same =>
    congrArg Condition.query same

/-- Any sequence of calls of the helpers, with any requests, tables and orders of the loops and
with handlers that add conjuncts and columns of their own: the statement never selects a row
that it did not select before, whatever it was and whatever the database makes of the
conditions, exactly if no plain search finds more than two of its keys in the request. -/
theorem statement_narrows_iff (toLower : String → String) (calls : List Call)
    (adds : ∀ call ∈ calls, call.AddsConjuncts) :
    (∀ (tx : Tx) (holds : Condition → Bool),
        selects holds (build toLower calls tx).wheres = true → selects holds tx.wheres = true) ↔
      ∀ request keys range, .withSearch request keys range ∈ calls →
        (matching toLower request keys).card ≤ 2 := by
  obtain ⟨parts, columns, appends, narrow⟩ :
      ∃ parts columns, Appends (build toLower calls) parts columns ∧ _ := build_appends adds
  have clauses : (∀ (tx : Tx) (holds : Condition → Bool),
      selects holds (build toLower calls tx).wheres = true → selects holds tx.wheres = true) ↔
      ∀ (clause : List (Connective × Condition)) (holds : Condition → Bool),
        selects holds (clause ++ parts) = true → selects holds clause = true := by
    constructor
    · intro narrows clause holds selected
      refine narrows ⟨clause, []⟩ holds ?_
      rw [appends]
      exact selected
    · intro narrows tx holds selected
      rw [appends] at selected
      exact narrows tx.wheres holds selected
  rw [clauses, narrows_iff, narrow]
  constructor
  · intro none request keys range mem
    exact Nat.not_lt.mp (none _ mem)
  · intro short call mem
    cases call with
    | withSearch request keys range => exact Nat.not_lt.mpr (short request keys range mem)
    | _ => exact not_false

section Sample

/-- A table with one handler. -/
theorem lookup_singleton_eq_some {β : Type} {handler found : β} {column key : String}
    (here : (Finmap.singleton column handler : Finmap fun _ : String => β).lookup key =
      some found) : found = handler := by
  obtain rfl : key = column := (Finmap.mem_singleton _ _ _).mp (Finmap.mem_of_lookup_eq_some here)
  rw [Finmap.lookup_singleton_eq] at here
  exact (Option.some.inj here).symm

/-- A plain search, one by a handler, and sorting by the handler of the package. -/
def sampleCalls (request : StringMap) (value direction : String) (handler : String → Tx → Tx) :
    List Call :=
  [.withSearch request sampleKeys nameFirst,
    .withSearchV2 ⟨"name", value⟩ (.singleton "name" handler),
    .withSortV2 ⟨"name", direction⟩ (.singleton "name" (withDefaultSort "c.name"))]

end Sample

/-- A search for three columns can select more, here with a handler that takes the value for a
condition. -/
theorem statement_narrows_iff_three :
    let asCondition : String → Tx → Tx := fun value tx => tx.addWhere ⟨value, ""⟩
    ¬ ∀ (tx : Tx) (holds : Condition → Bool),
      selects holds (build lower (sampleCalls sampleRequest "active" "desc" asCondition)
          tx).wheres = true → selects holds tx.wheres = true := by
  intro asCondition
  have adds : ∀ call ∈ sampleCalls sampleRequest "active" "desc" asCondition,
      call.AddsConjuncts := by
    rintro call (_ | ⟨_, _ | ⟨_, _ | ⟨_, ⟨⟩⟩⟩⟩)
    · trivial
    · intro key handler found value
      rw [lookup_singleton_eq_some found]
      exact ⟨_, _, appends_addWhere ⟨value, ""⟩, by simp⟩
    · intro key handler found value desc
      rw [lookup_singleton_eq_some found]
      exact ⟨_, _, appends_addOrder ⟨"c.name", desc⟩, by simp⟩
  rw [statement_narrows_iff lower _ adds]
  intro short
  have three : (matching lower sampleRequest sampleKeys).card = 3 := by decide
  have few := short sampleRequest sampleKeys nameFirst List.mem_cons_self
  omega

/-! ## Two requests -/

/-- A condition as it is written, without its argument. -/
def text (part : Connective × Condition) : Connective × String := (part.1, part.2.query)

/-- What is written into the statement: everything but the arguments. -/
def Tx.text (tx : Tx) : List (Connective × String) × List OrderByColumn :=
  (tx.wheres.map Gorm.text, tx.orders)

/-- The two builders make the same text of the same text. -/
def Twins (f g : Tx → Tx) : Prop := ∀ tx tx', tx.text = tx'.text → (f tx).text = (g tx').text

theorem twins_id : Twins id id := fun _ _ same => same

theorem Twins.comp {f f' g g' : Tx → Tx} (first : Twins f f') (second : Twins g g') :
    Twins (fun tx => g (f tx)) fun tx => g' (f' tx) :=
  fun tx tx' same => second _ _ (first tx tx' same)

theorem Twins.foldl {ι : Type} {step step' : ι → Tx → Tx} {entries : List ι}
    (each : ∀ entry ∈ entries, Twins (step entry) (step' entry)) :
    Twins (fun tx => entries.foldl (fun tx entry => step entry tx) tx)
      fun tx => entries.foldl (fun tx entry => step' entry tx) tx := by
  induction entries with
  | nil => exact twins_id
  | cons entry entries ih =>
      obtain ⟨here, later⟩ := List.forall_mem_cons.mp each
      exact here.comp (ih later)

/-- Builders that add the same text are twins. -/
theorem Appends.twins {f g : Tx → Tx} {parts parts' : List (Connective × Condition)}
    {columns : List OrderByColumn} (first : Appends f parts columns)
    (second : Appends g parts' columns) (written : parts.map text = parts'.map text) :
    Twins f g := by
  intro tx tx' same
  obtain ⟨wheres, orders⟩ := Prod.mk.inj same
  rw [first, second, Tx.text, Tx.text, List.map_append, List.map_append, wheres, orders, written]

/-- The handler uses the value in arguments only. -/
def BindsValue (handler : String → Tx → Tx) : Prop :=
  ∀ value value', Twins (handler value) (handler value')

/-- The handlers of the call, if it has any, use the value in arguments only. -/
def Call.BindsValues : Call → Prop
  | .withSearchV2 _ handlers | .withSearchAllColumn _ handlers _ =>
      ∀ key handler, handlers.lookup key = some handler → BindsValue handler
  | .withSortV2 _ handlers | .withSortAllColumn _ handlers _ =>
      ∀ key handler, handlers.lookup key = some handler →
        ∀ desc, BindsValue fun value => handler value desc
  | .withSearch _ _ _ | .withSort _ _ _ => True

/-- The handler that the package offers for sorting is of this kind. -/
theorem withDefaultSort_bindsValue (column : String) (desc : Bool) :
    BindsValue fun value => withDefaultSort column value desc :=
  fun _ _ => (appends_addOrder ⟨column, desc⟩).twins (appends_addOrder ⟨column, desc⟩) rfl

/-- The requests have the same keys. -/
def SameKeys (request request' : StringMap) : Prop :=
  ∀ key, (request.lookup key).isSome = (request'.lookup key).isSome

/-- The requests have the same keys and ask for the same directions. -/
def SameDirections (request request' : StringMap) : Prop :=
  ∀ key, (request.lookup key).map (fun direction => decide (direction = "descend")) =
    (request'.lookup key).map fun direction => decide (direction = "descend")

/-- Two calls of the same helper with the same table and the same order of the loop, whose
requests have the same keys and, where they sort, the same directions. -/
inductive Alike : Call → Call → Prop
  | withSearch {request request' keys : StringMap} (range : RangeOrder keys)
      (same : SameKeys request request') :
      Alike (.withSearch request keys range) (.withSearch request' keys range)
  | withSearchV2 (column value value' : String) (handlers : SearchHandler) :
      Alike (.withSearchV2 ⟨column, value⟩ handlers) (.withSearchV2 ⟨column, value'⟩ handlers)
  | withSearchAllColumn {request request' : StringMap} {handlers : SearchHandler}
      (range : RangeOrder handlers) (same : SameKeys request request') :
      Alike (.withSearchAllColumn request handlers range)
        (.withSearchAllColumn request' handlers range)
  | withSort {request request' keys : StringMap} (range : RangeOrder keys)
      (same : SameDirections request request') :
      Alike (.withSort request keys range) (.withSort request' keys range)
  | withSortV2 {param param' : WithSortV2Param} (handlers : SortHandler)
      (column : param.column = param'.column) (desc : param.desc = param'.desc) :
      Alike (.withSortV2 param handlers) (.withSortV2 param' handlers)
  | withSortAllColumn {request request' : StringMap} {handlers : SortHandler}
      (range : RangeOrder handlers) (same : SameDirections request request') :
      Alike (.withSortAllColumn request handlers range)
        (.withSortAllColumn request' handlers range)

section Requests

variable {request request' : StringMap}

theorem SameKeys.cases (same : SameKeys request request') (key : String) :
    (request.lookup key = none ∧ request'.lookup key = none) ∨
      ∃ value value', request.lookup key = some value ∧ request'.lookup key = some value' := by
  have both := same key
  cases found : request.lookup key with
  | none =>
      rw [found] at both
      exact .inl ⟨rfl, Option.isNone_iff_eq_none.mp (by simpa using both.symm)⟩
  | some value =>
      rw [found] at both
      obtain ⟨value', found'⟩ := Option.isSome_iff_exists.mp both.symm
      exact .inr ⟨value, value', rfl, found'⟩

theorem SameDirections.sameKeys (same : SameDirections request request') :
    SameKeys request request' := by
  intro key
  have both := congrArg Option.isSome (same key)
  rwa [Option.isSome_map, Option.isSome_map] at both

theorem text_joined {conds conds' : List Condition}
    (same : conds.map (·.query) = conds'.map (·.query)) :
    (joined conds).map text = (joined conds').map text := by
  have written : ∀ conds : List Condition, (joined conds).map text =
      ((conds.map (·.query)).take 2).map (Prod.mk .and) ++
        ((conds.map (·.query)).drop 2).map (Prod.mk .or) := by
    intro conds
    rw [joined, List.map_append, List.map_map, List.map_map, ← List.map_take, ← List.map_drop,
      List.map_map, List.map_map]
    rfl
  rw [written, written, same]

theorem withSearch_twins (same : SameKeys request request') {keys : StringMap}
    (range : RangeOrder keys) :
    Twins (withSearch toLower request range) (withSearch toLower request' range) := by
  refine (withSearch_appends request range).twins (withSearch_appends request' range)
    (text_joined ?_)
  rw [List.map_filterMap, List.map_filterMap]
  refine List.filterMap_congr fun entry _ => ?_
  rw [searched, searched]
  obtain ⟨found, found'⟩ | ⟨_, _, found, found'⟩ := same.cases entry.1 <;> rw [found, found']
  rfl

theorem withSort_twins (same : SameDirections request request') {keys : StringMap}
    (range : RangeOrder keys) : Twins (withSort request range) (withSort request' range) := by
  have columns : range.entries.filterMap (sorted request) =
      range.entries.filterMap (sorted request') := by
    refine List.filterMap_congr fun entry _ => ?_
    have both := congrArg (Option.map fun desc => (⟨entry.2, desc⟩ : OrderByColumn)) (same entry.1)
    rw [Option.map_map, Option.map_map] at both
    exact both
  refine (withSort_appends request range).twins ?_ rfl
  rw [columns]
  exact withSort_appends request' range

theorem searchColumn_twins (same : SameKeys request request')
    {entry : Σ _ : String, String → Tx → Tx} (binds : BindsValue entry.2) :
    Twins (searchColumn request entry) (searchColumn request' entry) := by
  show Twins (fun tx => searchColumn request entry tx) fun tx => searchColumn request' entry tx
  unfold searchColumn
  obtain ⟨found, found'⟩ | ⟨value, value', found, found'⟩ := same.cases entry.1 <;>
    rw [found, found']
  · exact twins_id
  · exact binds value value'

theorem sortColumn_twins (same : SameDirections request request')
    {entry : Σ _ : String, String → Bool → Tx → Tx}
    (binds : ∀ desc, BindsValue fun value => entry.2 value desc) :
    Twins (sortColumn request entry) (sortColumn request' entry) := by
  have both := same entry.1
  show Twins (fun tx => sortColumn request entry tx) fun tx => sortColumn request' entry tx
  unfold sortColumn
  obtain ⟨found, found'⟩ | ⟨value, value', found, found'⟩ := same.sameKeys.cases entry.1 <;>
    rw [found, found'] at both ⊢
  · exact twins_id
  · have desc : decide (value = "descend") = decide (value' = "descend") := Option.some.inj both
    show Twins (entry.2 value (decide (value = "descend")))
      (entry.2 value' (decide (value' = "descend")))
    rw [desc]
    exact binds _ value value'

end Requests

theorem Alike.twins {call call' : Call} (alike : Alike call call') (binds : call.BindsValues) :
    Twins (call.apply toLower) (call'.apply toLower) := by
  cases alike with
  | withSearch range same => exact withSearch_twins same range
  | withSearchV2 column value value' handlers =>
      show Twins (fun tx => Gorm.withSearchV2 ⟨column, value⟩ handlers tx)
        fun tx => Gorm.withSearchV2 ⟨column, value'⟩ handlers tx
      unfold Gorm.withSearchV2
      cases found : handlers.lookup column with
      | none => exact twins_id
      | some handler => exact binds _ _ found value value'
  | withSearchAllColumn range same =>
      exact .foldl fun entry mem => searchColumn_twins same
        (binds entry.1 entry.2 (range.mem_entries.mp mem))
  | withSort range same => exact withSort_twins same range
  | @withSortV2 param param' handlers column desc =>
      show Twins (fun tx => Gorm.withSortV2 param handlers tx)
        fun tx => Gorm.withSortV2 param' handlers tx
      unfold Gorm.withSortV2
      rw [← column, ← desc]
      cases found : handlers.lookup param.column with
      | none => exact twins_id
      | some handler => exact binds _ _ found _ _ _
  | withSortAllColumn range same =>
      exact .foldl fun entry mem => sortColumn_twins same
        (binds entry.1 entry.2 (range.mem_entries.mp mem))

/-- Two clients whose requests have the same keys and ask for the same directions get the same
text of the statement from any sequence of calls, with handlers that use the value in arguments
only: what they search for is in the arguments only. -/
theorem client_text_only_in_arguments (toLower : String → String) (calls calls' : List Call)
    (alike : List.Forall₂ Alike calls calls') (binds : ∀ call ∈ calls, call.BindsValues)
    (tx : Tx) : (build toLower calls tx).text = (build toLower calls' tx).text := by
  have twins : Twins (build toLower calls) (build toLower calls') := by
    induction alike with
    | nil => exact twins_id
    | cons here later ih =>
        obtain ⟨first, rest⟩ := List.forall_mem_cons.mp binds
        exact (here.twins first).comp (ih rest)
  exact twins tx tx rfl

/-- What looks like a part of a statement is searched for by the same text as a name, also by a
handler that adds a disjunct. -/
theorem client_text_only_in_arguments_name :
    let orName : String → Tx → Tx := fun value tx => tx.addOr ⟨"c.name = ?", value⟩
    (build lower (sampleCalls (.singleton "name" "Ada") "Ada" "desc" orName) ⟨[], []⟩).text =
      (build lower (sampleCalls (.singleton "name" "x%' OR 1=1") "x%' OR 1=1" "descend" orName)
        ⟨[], []⟩).text := by
  intro orName
  have sameKeys : SameKeys (.singleton "name" "Ada") (.singleton "name" "x%' OR 1=1") := by
    intro key
    rw [Bool.eq_iff_iff, Finmap.lookup_isSome, Finmap.lookup_isSome, Finmap.mem_singleton,
      Finmap.mem_singleton]
  refine client_text_only_in_arguments lower _ _
    (.cons (.withSearch _ sameKeys) (.cons (.withSearchV2 _ _ _ _)
      (.cons (.withSortV2 _ rfl rfl) .nil))) ?_ ⟨[], []⟩
  rintro call (_ | ⟨_, _ | ⟨_, _ | ⟨_, ⟨⟩⟩⟩⟩)
  · trivial
  · intro key handler found value value'
    rw [lookup_singleton_eq_some found]
    exact (appends_addOr _).twins (appends_addOr _) rfl
  · intro key handler found desc
    rw [lookup_singleton_eq_some found]
    exact withDefaultSort_bindsValue "c.name" desc

end GoOdin.Gorm
