import GoOdin.Interaction.MapRange
import GoOdin.Text.Bytes

/-!
# Query parameters in brackets

`requestBinder` lets echo bind the request to a struct and then looks at the fields of the
struct by reflection. A map field `Sorter` is replaced by the parameters `sorter[name]`, a map
field `Search` by the parameters `search[name]`, each with its first value. The name is cut
out of the key by fixed indices.

What runs out of range, and a map that does not take strings, stops the program: the functions
return `none` then.
-/

namespace GoOdin.Http

open MapRange Text

/-- A `map[string]string`. -/
abbrev StringMap := Finmap fun _ : Bytes => Bytes

/-- `url.Values`. -/
abbrev QueryParams := Finmap fun _ : Bytes => List Bytes

/-- What reflection does for a map of some other type. -/
structure MapType (V : Type) where
  makeMap : V
  setMapIndex : V → Bytes → Bytes → Option V

inductive FieldValue (V : Type) where
  | strings (m : StringMap)
  | map (type : MapType V) (m : V)
  | other (v : V)

namespace FieldValue

variable {V : Type}

/-- `Kind() == reflect.Map`. -/
def isMap : FieldValue V → Bool
  | strings _ => true
  | map _ _ => true
  | other _ => false

/-- `reflect.MakeMap` for the type of the value. -/
def makeMap : FieldValue V → Option (FieldValue V)
  | strings _ => some (strings ∅)
  | map type _ => some (map type type.makeMap)
  | other _ => none

/-- `SetMapIndex` with a string as key and value. -/
def setMapIndex (name value : Bytes) : FieldValue V → Option (FieldValue V)
  | strings m => some (strings (m.insert name value))
  | map type m => (type.setMapIndex m name value).map (map type)
  | other _ => none

end FieldValue

/-- A field of the struct. -/
structure Field (V : Type) where
  name : String
  canSet : Bool
  value : FieldValue V

variable {V : Type}

/-- One round of the loop over the query parameters. -/
def fillRound (opening : Bytes) (m : FieldValue V) (param : Σ _ : Bytes, List Bytes) :
    Option (FieldValue V) :=
  if opening <+: param.1 ∧ bytes "]" <:+ param.1 then do
    let sortKey ← slice? param.1 7 (param.1.length - 1)
    let value ← param.2.head?
    m.setMapIndex sortKey value
  else some m

variable {params : QueryParams}

/-- A map field with this name gets the parameters that start like this. -/
def bindBracketed (name : String) (opening : Bytes) (range : RangeOrder params)
    (field : Field V) : Option (Field V) :=
  if field.value.isMap ∧ field.name = name then do
    let fieldMap ← field.value.makeMap
    if field.canSet then
      let fieldMap ← range.entries.foldlM (fillRound opening) fieldMap
      some { field with value := fieldMap }
    else some field
  else some field

def bindSorter (range : RangeOrder params) (field : Field V) : Option (Field V) :=
  bindBracketed "Sorter" (bytes "sorter[") range field

def bindSearch (range : RangeOrder params) (field : Field V) : Option (Field V) :=
  bindBracketed "Search" (bytes "search[") range field

/-- The body of the loop over the fields. -/
def bindField (sorting searching : RangeOrder params) (field : Field V) : Option (Field V) := do
  let field ← bindSorter sorting field
  bindSearch searching field

/-- The loop over the fields from index `j` on, with the orders of the loops that may run for
each of them. -/
def bindFields (sorting searching : Nat → RangeOrder params) :
    Nat → List (Field V) → Option (List (Field V))
  | _, [] => some []
  | j, field :: fields => do
      let field ← bindField (sorting j) (searching j) field
      let fields ← bindFields sorting searching (j + 1) fields
      some (field :: fields)

def requestBinder {ε : Type} (bind : List (Field V) → Except ε (List (Field V)))
    (sorting searching : Nat → RangeOrder params) (param : List (Field V)) :
    Option (Except ε (List (Field V))) :=
  match bind param with
  | .error err => some (.error err)
  | .ok fields => (bindFields sorting searching 0 fields).map .ok

/-! ## The loop over the parameters -/

/-- The opening of a bracket, as long as the index at which the names are cut. -/
structure IsOpening (opening : Bytes) : Prop where
  length : opening.length = 7
  ends : opening.getLast? ≠ some 93

/-- The map has the first values of the bracketed parameters among those visited. -/
def Collected (opening : Bytes) (visited : List (Σ _ : Bytes, List Bytes)) (m : StringMap) :
    Prop :=
  ∀ k v, m.lookup k = some v ↔
    ∃ values, ⟨opening ++ k ++ bytes "]", values⟩ ∈ visited ∧ values.head? = some v

theorem isOpening_sorter : IsOpening (bytes "sorter[") := ⟨by decide, by decide⟩

theorem isOpening_search : IsOpening (bytes "search[") := ⟨by decide, by decide⟩

theorem collected_nil (opening : Bytes) : Collected opening [] ∅ := by
  intro k v
  simp

/-- A further parameter adds nothing under another key. -/
theorem mem_concat_of_ne {visited : List (Σ _ : Bytes, List Bytes)} {key other : Bytes}
    (different : key ≠ other) {values otherValues : List Bytes} :
    (⟨key, values⟩ : Σ _ : Bytes, List Bytes) ∈ visited ++ [⟨other, otherValues⟩] ↔
      ⟨key, values⟩ ∈ visited := by
  rw [List.mem_append, List.mem_singleton, or_iff_left]
  exact fun same => different (congrArg Sigma.fst same)

section Loop

variable {opening : Bytes} (isOpening : IsOpening opening)

include isOpening

theorem fillRound_bracketed (m : FieldValue V) (name value : Bytes) (values : List Bytes) :
    fillRound opening m ⟨opening ++ name ++ bytes "]", value :: values⟩ =
      m.setMapIndex name value := by
  have cut : slice? (opening ++ name ++ bytes "]") 7
      ((opening ++ name ++ bytes "]").length - 1) = some name := by
    have atLength := slice?_between opening name 93
    rw [isOpening.length] at atLength
    exact atLength
  have here : opening <+: opening ++ name ++ bytes "]" ∧
      bytes "]" <:+ opening ++ name ++ bytes "]" :=
    (between_iff isOpening.ends).mpr ⟨name, rfl⟩
  rw [fillRound, if_pos here]
  dsimp only
  rw [cut]
  rfl

theorem fillRound_other (m : FieldValue V) {param : Σ _ : Bytes, List Bytes}
    (plain : ¬∃ name, param.1 = opening ++ name ++ bytes "]") :
    fillRound opening m param = some m :=
  if_neg fun here => plain ((between_iff isOpening.ends).mp here)

/-- A round takes a parameter that was not visited yet into the map if it is in brackets. -/
theorem fillRound_collected {visited : List (Σ _ : Bytes, List Bytes)} {m : StringMap}
    (collected : Collected opening visited m) {param : Σ _ : Bytes, List Bytes}
    (fresh : param.1 ∉ visited.keys) (nonempty : param.2 ≠ []) :
    ∃ m', fillRound (V := V) opening (.strings m) param = some (.strings m') ∧
      Collected opening (visited ++ [param]) m' := by
  obtain ⟨key, values⟩ := param
  by_cases bracketed : ∃ name, key = opening ++ name ++ bytes "]"
  · obtain ⟨name, rfl⟩ := bracketed
    obtain ⟨value, values, rfl⟩ := List.exists_cons_of_ne_nil nonempty
    refine ⟨m.insert name value, fillRound_bracketed isOpening _ name value values, ?_⟩
    intro k v
    by_cases same : k = name
    · subst same
      simp only [Finmap.lookup_insert, List.mem_append, List.mem_singleton]
      constructor
      · intro first
        exact ⟨value :: values, .inr rfl, first⟩
      · rintro ⟨values', earlier | here, first⟩
        · exact absurd (List.mem_keys_of_mem earlier) fresh
        · cases here
          exact first
    · have different : opening ++ k ++ bytes "]" ≠ opening ++ name ++ bytes "]" :=
        fun equal => same (List.append_cancel_left (List.append_cancel_right equal))
      simp only [Finmap.lookup_insert_of_ne _ same, mem_concat_of_ne different]
      exact collected k v
  · refine ⟨m, fillRound_other isOpening _ bracketed, ?_⟩
    intro k v
    have different : opening ++ k ++ bytes "]" ≠ key := fun equal => bracketed ⟨k, equal.symm⟩
    simp only [mem_concat_of_ne different]
    exact collected k v

/-- The loop collects the bracketed parameters, each of them once. -/
theorem foldlM_fillRound (visits : List (Σ _ : Bytes, List Bytes)) (distinct : visits.NodupKeys)
    (nonempty : ∀ param ∈ visits, param.2 ≠ []) :
    ∃ m, visits.foldlM (fillRound (V := V) opening) (.strings ∅) = some (.strings m) ∧
      Collected opening visits m := by
  induction visits using List.reverseRecOn with
  | nil => exact ⟨∅, rfl, collected_nil opening⟩
  | append_singleton visited param ih =>
      rw [List.forall_mem_append, List.forall_mem_singleton] at nonempty
      have keys : (visited.keys ++ [param.1]).Nodup := by simpa [List.NodupKeys] using distinct
      rw [List.nodup_append'] at keys
      obtain ⟨m, filled, collected⟩ := ih keys.1 nonempty.1
      have fresh : param.1 ∉ visited.keys := fun mem => keys.2.2 mem (by simp)
      obtain ⟨m', round, collected'⟩ :=
        fillRound_collected (V := V) isOpening collected fresh nonempty.2
      refine ⟨m', ?_, collected'⟩
      rw [List.foldlM_append, filled]
      show (fillRound opening (.strings m) param).bind some = _
      rw [round]
      rfl

end Loop

/-! ## The fields of the struct -/

/-- The map has exactly the first values of the bracketed parameters. -/
def HasExactly (params : QueryParams) (opening : Bytes) (m : StringMap) : Prop :=
  ∀ k v, m.lookup k = some v ↔
    ∃ values, params.lookup (opening ++ k ++ bytes "]") = some values ∧ values.head? = some v

/-- What a field is after the request was bound: the two maps have their parameters, and
nothing else has changed. -/
structure IsBound (params : QueryParams) (field bound : Field V) : Prop where
  sorter : field.name = "Sorter" → ∃ m, bound = { field with value := .strings m } ∧
    HasExactly params (bytes "sorter[") m
  search : field.name = "Search" → ∃ m, bound = { field with value := .strings m } ∧
    HasExactly params (bytes "search[") m
  other : field.name ≠ "Sorter" → field.name ≠ "Search" → bound = field

theorem bindBracketed_other {name : String} (opening : Bytes) (range : RangeOrder params)
    {field : Field V} (other : field.name ≠ name) :
    bindBracketed name opening range field = some field :=
  if_neg fun here => other here.2

theorem bindBracketed_strings {opening : Bytes} (isOpening : IsOpening opening)
    (nonempty : ∀ key values, params.lookup key = some values → values ≠ [])
    (range : RangeOrder params) {name : String} {field : Field V} (named : field.name = name)
    (canSet : field.canSet = true) {old : StringMap} (strings : field.value = .strings old) :
    ∃ m, bindBracketed name opening range field =
        some { field with value := .strings m } ∧ HasExactly params opening m := by
  obtain ⟨m, filled, collected⟩ := foldlM_fillRound (V := V) isOpening range.entries
    range.nodupKeys fun param mem => nonempty param.1 param.2 (range.mem_entries.mp mem)
  refine ⟨m, ?_, fun k v => ?_⟩
  · rw [bindBracketed, strings, if_pos ⟨rfl, named⟩]
    show (if field.canSet = true then
      Option.bind (range.entries.foldlM (fillRound opening) (.strings ∅)) _ else _) = _
    rw [if_pos canSet, filled]
    rfl
  · rw [collected k v]
    exact exists_congr fun values => and_congr_left' range.mem_entries

/-- No field has both names, so at most one of the two loops runs for it. -/
theorem bindField_isBound (sorting searching : RangeOrder params)
    (nonempty : ∀ key values, params.lookup key = some values → values ≠ []) {field : Field V}
    (settable : field.name = "Sorter" ∨ field.name = "Search" →
      field.canSet = true ∧ ∃ m, field.value = .strings m) :
    ∃ bound, bindField sorting searching field = some bound ∧ IsBound params field bound := by
  by_cases sorter : field.name = "Sorter"
  · obtain ⟨canSet, old, strings⟩ := settable (.inl sorter)
    obtain ⟨m, done, exactly⟩ :=
      bindBracketed_strings isOpening_sorter nonempty sorting sorter canSet strings
    have notSearch : field.name ≠ "Search" := by
      rw [sorter]
      decide
    refine ⟨{ field with value := .strings m }, ?_, fun _ => ⟨m, rfl, exactly⟩,
      fun search => absurd search notSearch, fun other => absurd sorter other⟩
    rw [bindField, bindSorter, done]
    show bindSearch searching { field with value := .strings m } = _
    exact bindBracketed_other _ searching notSearch
  · have unsorted : bindSorter sorting field = some field := bindBracketed_other _ sorting sorter
    rw [bindField, unsorted]
    by_cases search : field.name = "Search"
    · obtain ⟨canSet, old, strings⟩ := settable (.inr search)
      obtain ⟨m, done, exactly⟩ :=
        bindBracketed_strings isOpening_search nonempty searching search canSet strings
      exact ⟨{ field with value := .strings m }, done, fun is => absurd is sorter,
        fun _ => ⟨m, rfl, exactly⟩, fun _ other => absurd search other⟩
    · exact ⟨field, bindBracketed_other _ searching search, fun is => absurd is sorter,
        fun is => absurd is search, fun _ _ => rfl⟩

theorem bindFields_isBound (sorting searching : Nat → RangeOrder params)
    (nonempty : ∀ key values, params.lookup key = some values → values ≠ [])
    (fields : List (Field V))
    (settable : ∀ field ∈ fields, field.name = "Sorter" ∨ field.name = "Search" →
      field.canSet = true ∧ ∃ m, field.value = .strings m) (j : Nat) :
    ∃ bound, bindFields sorting searching j fields = some bound ∧
      List.Forall₂ (IsBound params) fields bound := by
  induction fields generalizing j with
  | nil => exact ⟨[], rfl, .nil⟩
  | cons field fields ih =>
      rw [List.forall_mem_cons] at settable
      obtain ⟨first, done, isBound⟩ :=
        bindField_isBound (sorting j) (searching j) nonempty settable.1
      obtain ⟨rest, done', areBound⟩ := ih settable.2 (j + 1)
      refine ⟨first :: rest, ?_, .cons isBound areBound⟩
      rw [bindFields, done, done']
      rfl

/-- Whatever the orders of the loops, a bound struct whose fields `Sorter` and `Search` are
settable maps of strings gets exactly the bracketed parameters, and no index is out of
range. -/
theorem bracketed_parameters_exact {ε : Type}
    (bind : List (Field V) → Except ε (List (Field V))) (params : QueryParams)
    (sorting searching : Nat → RangeOrder params) {param fields : List (Field V)}
    (bound : bind param = .ok fields)
    (nonempty : ∀ key values, params.lookup key = some values → values ≠ [])
    (settable : ∀ field ∈ fields, field.name = "Sorter" ∨ field.name = "Search" →
      field.canSet = true ∧ ∃ m, field.value = .strings m) :
    ∃ result, requestBinder bind sorting searching param = some (.ok result) ∧
      List.Forall₂ (IsBound params) fields result := by
  obtain ⟨result, done, areBound⟩ :=
    bindFields_isBound sorting searching nonempty fields settable 0
  refine ⟨result, ?_, areBound⟩
  rw [requestBinder, bound]
  show (bindFields sorting searching 0 fields).map _ = _
  rw [done]
  rfl

/-- Names that are empty or have brackets of their own, and a parameter without brackets. -/
def sampleParams : QueryParams :=
  [⟨bytes "sorter[]", [bytes "descend"]⟩, ⟨bytes "search[a[b]]", [bytes "x", bytes "y"]⟩,
    ⟨bytes "page", [bytes "2"]⟩].toFinmap

def sampleRange : RangeOrder sampleParams :=
  ⟨[⟨bytes "page", [bytes "2"]⟩, ⟨bytes "search[a[b]]", [bytes "x", bytes "y"]⟩,
    ⟨bytes "sorter[]", [bytes "descend"]⟩], by decide⟩

def sampleFields : List (Field Unit) :=
  [⟨"Page", true, .other ()⟩, ⟨"Sorter", true, .strings ∅⟩, ⟨"Search", true, .strings ∅⟩]

theorem bracketed_parameters_exact_sample :
    (∀ key values, sampleParams.lookup key = some values → values ≠ []) ∧
      ∃ result, requestBinder (ε := String) .ok (fun _ => sampleRange) (fun _ => sampleRange)
          sampleFields = some (.ok result) ∧
        List.Forall₂ (IsBound sampleParams) sampleFields result := by
  have nonempty : ∀ key values, sampleParams.lookup key = some values → values ≠ [] := by
    intro key values found
    have listed : ∀ param ∈ sampleRange.entries, param.2 ≠ [] := by decide
    exact listed _ (sampleRange.mem_entries.mpr found)
  refine ⟨nonempty, bracketed_parameters_exact .ok sampleParams _ _ rfl nonempty ?_⟩
  intro field mem
  simp only [sampleFields, List.mem_cons, List.not_mem_nil, or_false] at mem
  obtain rfl | rfl | rfl := mem
  · intro named
    exact absurd named (by decide)
  · exact fun _ => ⟨rfl, ∅, rfl⟩
  · exact fun _ => ⟨rfl, ∅, rfl⟩

end GoOdin.Http
