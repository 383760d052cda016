import GoOdin.Interaction.MapRange
import GoOdin.Sql.Clause
import Mathlib.Data.Bool.Count

/-!
# `WithSearch` and `WithSort`

Both range over the map of searchable keys, in an order that the language leaves open, and
act on each key that the request has. `WithSearch` joins the first two conditions by `AND` and
every further one by `OR`; `WithSort` appends a column to the ordering. Which conditions come
first, and which column is sorted by first, is therefore up to the order of the loop.

What the database makes of a condition is a parameter: a row is anything for which conditions
hold or do not.
-/

namespace GoOdin.Gorm

open MapRange Sql

/-- A `map[string]string`. -/
abbrev StringMap := Finmap fun _ : String => String

/-- The text of a condition and its argument. -/
structure Condition where
  query : String
  arg : String
  deriving DecidableEq, Repr

/-- `clause.OrderByColumn`. -/
structure OrderByColumn where
  name : String
  desc : Bool
  deriving DecidableEq, Repr

/-- The clauses of a statement that are built here. -/
structure Tx where
  wheres : List (Connective × Condition)
  orders : List OrderByColumn

namespace Tx

/-- `tx.Where`, `tx.Or` and `tx.Order`. -/
def addWhere (tx : Tx) (c : Condition) : Tx := { tx with wheres := tx.wheres ++ [(.and, c)] }

def addOr (tx : Tx) (c : Condition) : Tx := { tx with wheres := tx.wheres ++ [(.or, c)] }

def addOrder (tx : Tx) (column : OrderByColumn) : Tx := { tx with orders := tx.orders ++ [column] }

end Tx

variable (toLower : String → String) (request : StringMap)

/-- The condition for an entry of the keys, if the request has its key. -/
def searched (entry : Σ _ : String, String) : Option Condition :=
  (request.lookup entry.1).map fun text =>
    ⟨"lower(" ++ entry.2 ++ ") like ? ", "%" ++ toLower text ++ "%"⟩

/-- The column for an entry of the keys, if the request has its key. -/
def sorted (entry : Σ _ : String, String) : Option OrderByColumn :=
  (request.lookup entry.1).map fun direction => ⟨entry.2, direction = "descend"⟩

/-- One round of the loop of `WithSearch`, with its index. -/
def searchRound (s : Nat × Tx) (entry : Σ _ : String, String) : Nat × Tx :=
  match searched toLower request entry with
  | none => s
  | some c => (s.1 + 1, if s.1 > 1 then s.2.addOr c else s.2.addWhere c)

def withSearch {keys : StringMap} (range : RangeOrder keys) (tx : Tx) : Tx :=
  (range.entries.foldl (searchRound toLower request) (0, tx)).2

def withSort {keys : StringMap} (range : RangeOrder keys) (tx : Tx) : Tx :=
  range.entries.foldl (fun tx entry => (sorted request entry).elim tx tx.addOrder) tx

/-! ## What the loops build -/

/-- The first two conditions are conjuncts, the others disjuncts. -/
def joined (conds : List Condition) : List (Connective × Condition) :=
  (conds.take 2).map (Prod.mk .and) ++ (conds.drop 2).map (Prod.mk .or)

theorem joined_concat (conds : List Condition) (c : Condition) :
    joined (conds ++ [c]) = joined conds ++ [(if conds.length > 1 then .or else .and, c)] := by
  match conds with
  | [] => rfl
  | [_] => rfl
  | _ :: _ :: conds => simp [joined]

theorem foldl_searchRound (tx : Tx) (entries : List (Σ _ : String, String)) :
    entries.foldl (searchRound toLower request) (0, tx) =
      ((entries.filterMap (searched toLower request)).length,
        { tx with
          wheres := tx.wheres ++ joined (entries.filterMap (searched toLower request)) }) := by
  induction entries using List.reverseRecOn with
  | nil => simp [joined]
  | append_singleton entries entry ih =>
      rw [List.foldl_concat, ih, List.filterMap_append, searchRound]
      cases found : searched toLower request entry with
      | none => simp [found]
      | some c =>
          have last : [entry].filterMap (searched toLower request) = [c] := by simp [found]
          rw [last, joined_concat, List.length_append]
          split_ifs <;> simp [Tx.addOr, Tx.addWhere]

variable {keys : StringMap}

theorem withSearch_eq (range : RangeOrder keys) (tx : Tx) :
    withSearch toLower request range tx =
      { tx with
        wheres := tx.wheres ++ joined (range.entries.filterMap (searched toLower request)) } := by
  rw [withSearch, foldl_searchRound]

theorem withSort_eq (range : RangeOrder keys) (tx : Tx) :
    withSort request range tx =
      { tx with orders := tx.orders ++ range.entries.filterMap (sorted request) } := by
  have loop : ∀ (entries : List (Σ _ : String, String)),
      entries.foldl (fun tx entry => (sorted request entry).elim tx tx.addOrder) tx =
        { tx with orders := tx.orders ++ entries.filterMap (sorted request) } := by
    intro entries
    induction entries using List.reverseRecOn with
    | nil => simp
    | append_singleton entries entry ih =>
        rw [List.foldl_concat, ih, List.filterMap_append]
        cases found : sorted request entry <;> simp [found, Tx.addOrder]
  exact loop range.entries

/-! ## Orders of the conditions -/

/-- The value of the clause, when the last disjunct before it holds or not and this is what
the conditions are. -/
def chosen (pending : Bool) (values : List Bool) : Bool :=
  (pending && (values.take 2).all id) || (values.drop 2).any id

theorem selects_withSearch (holds : Condition → Bool) (range : RangeOrder keys) (tx : Tx) :
    selects holds (withSearch toLower request range tx).wheres =
      ((verdict holds tx.wheres).settled || chosen (verdict holds tx.wheres).pending
        ((range.entries.filterMap (searched toLower request)).map holds)) := by
  have started : ∀ conds : List Condition, conds.take 2 = [] → conds.drop 2 = [] := by
    intro conds empty
    cases conds with
    | nil => rfl
    | cons c conds => nomatch empty
  rw [withSearch_eq]
  show selects holds (tx.wheres ++ joined _) = _
  rw [joined, selects_append _ (started _), chosen, Bool.or_assoc, ← List.map_take,
    ← List.map_drop, List.all_map, List.any_map]
  rfl

theorem any_eq_count (values : List Bool) : values.any id = decide (0 < values.count true) := by
  induction values with
  | nil => rfl
  | cons b values ih => cases b <;> simp [ih]

/-- Two conditions are joined by `AND` in any order. -/
theorem chosen_of_length_le {pending : Bool} {values : List Bool} (short : values.length ≤ 2) :
    chosen pending values = (pending && values.all id) := by
  rw [chosen, List.take_of_length_le short, List.drop_of_length_le short]
  simp

/-- Three or more conditions of which none or enough hold are decided by their number. -/
theorem chosen_of_count {pending : Bool} {values : List Bool} (long : 3 ≤ values.length)
    (notOne : values.count true ≠ 1) (enough : pending = true ∨ values.count true ≠ 2) :
    chosen pending values = decide (0 < values.count true) := by
  match values, long with
  | first :: second :: values, _ =>
      have total : (first :: second :: values).count true =
          values.count true + second.toNat + first.toNat := by
        cases first <;> cases second <;> simp
      show (pending && (first && (second && true)) || values.any id) = _
      rw [total] at notOne enough ⊢
      rw [any_eq_count]
      generalize values.count true = rest at notOne enough ⊢
      cases pending <;> cases first <;> cases second <;> simp at notOne enough ⊢ <;> omega

/-- Otherwise it matters whether those that hold come first or last. -/
theorem chosen_true_first {pending : Bool} {k m : Nat} (long : 3 ≤ k + m)
    (few : k = 1 ∨ (k = 2 ∧ pending = false)) :
    chosen pending (List.replicate k true ++ List.replicate m false) = false := by
  obtain rfl | ⟨rfl, rfl⟩ := few
  · obtain ⟨m, rfl⟩ : ∃ n, m = n + 1 := ⟨m - 1, by omega⟩
    simp [chosen, List.replicate_succ]
  · simp [chosen, List.replicate_succ]

theorem chosen_true_last {pending : Bool} {k m : Nat} (long : 3 ≤ k + m) (positive : 0 < k) :
    chosen pending (List.replicate m false ++ List.replicate k true) = true := by
  have last : 0 < ((List.replicate m false ++ List.replicate k true).drop 2).count true := by
    rw [List.drop_append, List.count_append, List.drop_replicate, List.drop_replicate,
      List.count_replicate, List.count_replicate, List.length_replicate]
    simp
    omega
  rw [chosen, any_eq_count, decide_eq_true last, Bool.or_true]

section Partition

variable {α : Type*} {f : α → Option Bool} {p : α → Bool} {b : Bool}

/-- What is kept for its value has that value. -/
theorem filterMap_filter_eq_replicate (kept : ∀ x v, f x = some v → p x = (v == b))
    (l : List α) : (l.filter p).filterMap f = List.replicate ((l.filterMap f).count b) b := by
  induction l with
  | nil => rfl
  | cons x l ih =>
      cases value : f x with
      | none =>
          rw [List.filterMap_cons_none value, ← ih, List.filter_cons]
          split_ifs
          · rw [List.filterMap_cons_none value]
          · rfl
      | some v =>
          rw [List.filterMap_cons_some value, List.count_cons, List.filter_cons, kept x v value]
          cases same : v == b with
          | false => simpa using ih
          | true =>
              obtain rfl := beq_iff_eq.mp same
              rw [if_pos rfl, if_pos rfl, List.filterMap_cons_some value, ih, List.replicate_succ]

end Partition

/-! ## When the order does not matter -/

/-- The conditions of a request, in no order. -/
def matching (keys : StringMap) : Multiset Condition :=
  keys.entries.filterMap (searched toLower request)

/-- The columns of a request, in no order. -/
def sortColumns (keys : StringMap) : Multiset OrderByColumn :=
  keys.entries.filterMap (sorted request)

/-- The clause of the statement and the number of conditions that hold decide about a row:
an earlier disjunct holds, or the conditions that hold are not just one, and not just two when
the disjunct that is continued fails. -/
def Decided (tx : Tx) (holds : Condition → Bool) (conds : Multiset Condition) : Prop :=
  (verdict holds tx.wheres).settled = true ∨
    (conds.countP (fun c => holds c) ≠ 1 ∧
      ((verdict holds tx.wheres).pending = true ∨ conds.countP (fun c => holds c) ≠ 2))

theorem card_matching (range : RangeOrder keys) (holds : Condition → Bool) :
    ((range.entries.filterMap (searched toLower request)).map holds).length =
      (matching toLower request keys).card := by
  rw [matching, ← range.complete, List.length_map]
  rfl

theorem count_matching (range : RangeOrder keys) (holds : Condition → Bool) :
    ((range.entries.filterMap (searched toLower request)).map holds).count true =
      (matching toLower request keys).countP (fun c => holds c) := by
  rw [matching, ← range.complete, Multiset.filterMap_coe, Multiset.coe_countP, List.count,
    List.countP_map]
  congr 1

variable {toLower request}

theorem selects_of_card_le (short : (matching toLower request keys).card ≤ 2)
    (range range' : RangeOrder keys) (tx : Tx) (holds : Condition → Bool) :
    selects holds (withSearch toLower request range tx).wheres =
      selects holds (withSearch toLower request range' tx).wheres := by
  have same : ((range.entries.filterMap (searched toLower request)).map holds).all id =
      ((range'.entries.filterMap (searched toLower request)).map holds).all id :=
    (((range.perm range').filterMap _).map _).all_eq
  rw [selects_withSearch, selects_withSearch,
    chosen_of_length_le ((card_matching toLower request range holds).trans_le short),
    chosen_of_length_le ((card_matching toLower request range' holds).trans_le short), same]

theorem selects_of_decided (long : 2 < (matching toLower request keys).card) {tx : Tx}
    {holds : Condition → Bool} (decided : Decided tx holds (matching toLower request keys))
    (range range' : RangeOrder keys) :
    selects holds (withSearch toLower request range tx).wheres =
      selects holds (withSearch toLower request range' tx).wheres := by
  rw [selects_withSearch, selects_withSearch]
  obtain settled | ⟨notOne, enough⟩ := decided
  · rw [settled, Bool.true_or, Bool.true_or]
  · have value : ∀ range : RangeOrder keys,
        chosen (verdict holds tx.wheres).pending
            ((range.entries.filterMap (searched toLower request)).map holds) =
          decide (0 < (matching toLower request keys).countP (fun c => holds c)) := by
      intro range
      have number := count_matching toLower request range holds
      have length := card_matching toLower request range holds
      rw [chosen_of_count (by omega) (number ▸ notOne) (number ▸ enough), number]
    rw [value, value]

/-- A row about which more than two conditions leave it open is selected in one order and not
in another. -/
theorem exists_ranges_of_not_decided (long : 2 < (matching toLower request keys).card) {tx : Tx}
    {holds : Condition → Bool} (undecided : ¬Decided tx holds (matching toLower request keys)) :
    ∃ range range' : RangeOrder keys,
      selects holds (withSearch toLower request range tx).wheres = false ∧
        selects holds (withSearch toLower request range' tx).wheres = true := by
  obtain ⟨range⟩ := RangeOrder.nonempty keys
  -- the entries whose condition holds come first in one order and last in the other
  let value := fun entry => (searched toLower request entry).map holds
  let hold := range.entries.filter fun entry => value entry = some true
  let fail := range.entries.filter fun entry => !decide (value entry = some true)
  have parts : (hold ++ fail).Perm range.entries := List.filter_append_perm _ _
  have swapped : (fail ++ hold).Perm range.entries := List.perm_append_comm.trans parts
  have values : ∀ entries : List (Σ _ : String, String),
      (entries.filterMap (searched toLower request)).map holds = entries.filterMap value :=
    fun entries => List.map_filterMap
  have number := count_matching toLower request range holds
  have length := card_matching toLower request range holds
  rw [values] at number length
  have both := List.count_false_add_count_true (range.entries.filterMap value)
  have allHold : hold.filterMap value =
      List.replicate ((range.entries.filterMap value).count true) true :=
    filterMap_filter_eq_replicate (fun entry v is => by simp [is]) _
  have allFail : fail.filterMap value =
      List.replicate ((range.entries.filterMap value).count false) false :=
    filterMap_filter_eq_replicate (fun entry v is => by cases v <;> simp [is]) _
  rw [Decided, ← number, not_or, not_and_or, not_or, not_not, not_not, Bool.not_eq_true,
    Bool.not_eq_true] at undecided
  obtain ⟨unsettled, few⟩ := undecided
  refine ⟨range.ofPerm parts, range.ofPerm swapped, ?_, ?_⟩
  · rw [selects_withSearch, values, unsettled]
    show (false || chosen _ ((hold ++ fail).filterMap value)) = false
    rw [List.filterMap_append, allHold, allFail,
      chosen_true_first (by omega) (few.imp_right And.symm), Bool.false_or]
  · rw [selects_withSearch, values, unsettled]
    show (false || chosen _ ((fail ++ hold).filterMap value)) = true
    rw [List.filterMap_append, allHold, allFail, chosen_true_last (by omega) (by omega),
      Bool.false_or]

theorem search_same_iff {Row : Type} (tx : Tx) (holds : Row → Condition → Bool) :
    (∀ range range' : RangeOrder keys, ∀ row,
        selects (holds row) (withSearch toLower request range tx).wheres =
          selects (holds row) (withSearch toLower request range' tx).wheres) ↔
      (matching toLower request keys).card ≤ 2 ∨
        ∀ row, Decided tx (holds row) (matching toLower request keys) := by
  constructor
  · intro same
    refine (Nat.lt_or_ge 2 (matching toLower request keys).card).symm.imp_right fun long row => ?_
    by_contra undecided
    obtain ⟨range, range', no, yes⟩ := exists_ranges_of_not_decided long undecided
    rw [same range range' row, yes] at no
    cases no
  · intro decided range range' row
    by_cases short : (matching toLower request keys).card ≤ 2
    · exact selects_of_card_le short range range' tx (holds row)
    · exact selects_of_decided (by omega) (decided.resolve_left short row) range range'

theorem sort_same_iff (tx : Tx) :
    (∀ range range' : RangeOrder keys,
        (withSort request range tx).orders = (withSort request range' tx).orders) ↔
      ∀ column ∈ sortColumns request keys, ∀ other ∈ sortColumns request keys,
        column = other := by
  simp only [withSort_eq, List.append_cancel_left_eq]
  constructor
  · intro same column mem other mem'
    -- either column comes first in some order
    obtain ⟨entry, present, isColumn⟩ := (Multiset.mem_filterMap _ _).mp mem
    obtain ⟨entry', present', isOther⟩ := (Multiset.mem_filterMap _ _).mp mem'
    obtain ⟨range, rest, first⟩ := RangeOrder.exists_cons present
    obtain ⟨range', rest', first'⟩ := RangeOrder.exists_cons present'
    have heads := same range range'
    rw [first, first', List.filterMap_cons_some isColumn, List.filterMap_cons_some isOther]
      at heads
    exact (List.cons.inj heads).1
  · intro equal range range'
    have listed : ∀ range : RangeOrder keys, ∀ column ∈ range.entries.filterMap (sorted request),
        column ∈ sortColumns request keys := by
      intro range column mem
      rw [sortColumns, ← range.complete, Multiset.filterMap_coe]
      exact mem
    have shared := (range.perm range').filterMap (sorted request)
    by_cases empty : range.entries.filterMap (sorted request) = []
    · rw [empty] at shared ⊢
      exact shared.nil_eq
    · obtain ⟨column, mem⟩ := List.exists_mem_of_ne_nil _ empty
      have constant : ∀ range : RangeOrder keys, range.entries.filterMap (sorted request) =
          List.replicate (range.entries.filterMap (sorted request)).length column :=
        fun range => List.eq_replicate_of_mem fun other mem' =>
          equal other (listed range other mem') column (listed _ column mem)
      calc range.entries.filterMap (sorted request)
          = List.replicate (range.entries.filterMap (sorted request)).length column :=
            constant range
        _ = List.replicate (range'.entries.filterMap (sorted request)).length column := by
            rw [shared.length_eq]
        _ = range'.entries.filterMap (sorted request) := (constant range').symm

/-- A request means the same in all orders of the loops, for every statement and whatever the
database makes of the conditions, exactly if at most two conditions are built or their number
decides about every row, and all columns to sort by are the same one. -/
theorem request_means_same_iff (toLower : String → String) (request keys : StringMap) (tx : Tx)
    {Row : Type} (holds : Row → Condition → Bool) :
    (∀ range range' : RangeOrder keys,
        (∀ row, selects (holds row) (withSearch toLower request range tx).wheres =
          selects (holds row) (withSearch toLower request range' tx).wheres) ∧
        (withSort request range tx).orders = (withSort request range' tx).orders) ↔
      ((matching toLower request keys).card ≤ 2 ∨
        ∀ row, Decided tx (holds row) (matching toLower request keys)) ∧
      ∀ column ∈ sortColumns request keys, ∀ other ∈ sortColumns request keys,
        column = other := by
  rw [← search_same_iff, ← sort_same_iff tx]
  exact ⟨fun same => ⟨fun range range' => (same range range').1,
      fun range range' => (same range range').2⟩,
    fun same range range' => ⟨same.1 range range', same.2 range range'⟩⟩

/-- `LIKE` without an escape character. -/
def like : List Char → List Char → Bool
  | [], text => text.isEmpty
  | '%' :: pattern, text => text.tails.any (like pattern)
  | '_' :: pattern, text => !text.isEmpty && like pattern text.tail
  | c :: pattern, text => text.head? = some c && like pattern text.tail

/-- Lower case, letter by letter. -/
def lower (text : String) : String := String.ofList (text.toList.map Char.toLower)

/-- A request for three columns, and a customer with one of the values. -/
def sampleRequest : StringMap :=
  [⟨"name", "Ada"⟩, ⟨"city", "Oslo"⟩, ⟨"mail", "descend"⟩].toFinmap

def sampleKeys : StringMap :=
  [⟨"name", "c.name"⟩, ⟨"city", "c.city"⟩, ⟨"mail", "c.mail"⟩].toFinmap

def sampleRow (query : String) : String := if query = "lower(c.name) like ? " then "ada" else ""

def sampleHolds (c : Condition) : Bool := like c.arg.toList (sampleRow c.query).toList

def nameFirst : RangeOrder sampleKeys :=
  ⟨[⟨"name", "c.name"⟩, ⟨"city", "c.city"⟩, ⟨"mail", "c.mail"⟩], by decide⟩

def nameLast : RangeOrder sampleKeys :=
  ⟨[⟨"city", "c.city"⟩, ⟨"mail", "c.mail"⟩, ⟨"name", "c.name"⟩], by decide⟩

/-- The customer is found or not, and the columns to sort by change places, by the order in
which the map is visited. -/
theorem request_depends_on_order :
    selects sampleHolds (withSearch lower sampleRequest nameFirst ⟨[], []⟩).wheres = false ∧
      selects sampleHolds (withSearch lower sampleRequest nameLast ⟨[], []⟩).wheres = true ∧
      (withSort sampleRequest nameFirst ⟨[], []⟩).orders =
        [⟨"c.name", false⟩, ⟨"c.city", false⟩, ⟨"c.mail", true⟩] ∧
      (withSort sampleRequest nameLast ⟨[], []⟩).orders =
        [⟨"c.city", false⟩, ⟨"c.mail", true⟩, ⟨"c.name", false⟩] := by
  decide

end GoOdin.Gorm
