import Mathlib.Data.Finmap

/-!
# Ranging over a map

A `range` loop visits the entries of a map in an order that the language leaves open. A
`RangeOrder` is one such order: a list with exactly the entries of the map. Results about
every order hold for every execution of the loop.

A loop may delete the entry it is visiting; every other entry is then still visited, and
what remains does not depend on the order (`lookup_eraseWhere`).
-/

namespace MapRange

variable {α : Type*} {β : α → Type*}

/-- The order of one `range` loop over a map. -/
structure RangeOrder (m : Finmap β) where
  entries : List (Sigma β)
  complete : (entries : Multiset (Sigma β)) = m.entries

/-- Visit the listed entries and delete those with the property. -/
def eraseWhere [DecidableEq α] (p : Sigma β → Bool) (m : Finmap β) (visits : List (Sigma β)) :
    Finmap β :=
  visits.foldl (fun m entry => if p entry then m.erase entry.1 else m) m

variable {m : Finmap β}

theorem RangeOrder.nodupKeys (order : RangeOrder m) : order.entries.NodupKeys := by
  rw [← Multiset.coe_nodupKeys, order.complete]
  exact m.nodupKeys

/-- Two loops over a map visit the same entries. -/
theorem RangeOrder.perm (order order' : RangeOrder m) : order.entries.Perm order'.entries :=
  Multiset.coe_eq_coe.mp (order.complete.trans order'.complete.symm)

/-- The entries may be visited in any other order. -/
def RangeOrder.ofPerm (order : RangeOrder m) {entries : List (Sigma β)}
    (moved : entries.Perm order.entries) : RangeOrder m :=
  ⟨entries, (Multiset.coe_eq_coe.mpr moved).trans order.complete⟩

/-- Every map can be ranged over. -/
instance RangeOrder.nonempty (m : Finmap β) : Nonempty (RangeOrder m) := by
  obtain ⟨entries, complete⟩ := Quot.exists_rep m.entries
  exact ⟨⟨entries, complete⟩⟩

/-- Any entry may come first. -/
theorem RangeOrder.exists_cons {entry : Sigma β} (present : entry ∈ m.entries) :
    ∃ (order : RangeOrder m) (rest : List (Sigma β)), order.entries = entry :: rest := by
  classical
  obtain ⟨order⟩ := RangeOrder.nonempty m
  have visited : entry ∈ order.entries := by
    rw [← Multiset.mem_coe, order.complete]
    exact present
  have moved : (entry :: order.entries.erase entry).Perm order.entries :=
    (List.perm_cons_erase visited).symm
  exact ⟨order.ofPerm moved, _, rfl⟩

variable [DecidableEq α]

/-- The loop visits an entry exactly if the map has it. -/
theorem RangeOrder.mem_entries (order : RangeOrder m) {a : α} {b : β a} :
    ⟨a, b⟩ ∈ order.entries ↔ m.lookup a = some b := by
  rw [← Multiset.mem_coe, order.complete]
  exact Finmap.lookup_eq_some_iff.symm

/-- The loop visits the keys of the map, each of them once. -/
theorem RangeOrder.mem_keys (order : RangeOrder m) {a : α} :
    a ∈ order.entries.keys ↔ a ∈ m := by
  rw [Finmap.mem_iff, List.mem_keys]
  exact exists_congr fun _ => order.mem_entries

variable {p : Sigma β → Bool}

/-- What is left after any visits: the entries whose key was not visited with the
property. -/
theorem lookup_eraseWhere {visits : List (Sigma β)} {a : α} {b : β a} :
    (eraseWhere p m visits).lookup a = some b ↔
      m.lookup a = some b ∧ ∀ entry ∈ visits, entry.1 = a → p entry = false := by
  induction visits generalizing m with
  | nil => simp [eraseWhere]
  | cons entry visits ih =>
      change (eraseWhere p (if p entry then m.erase entry.1 else m) visits).lookup a = some b ↔ _
      rw [ih, List.forall_mem_cons]
      cases deleted : p entry with
      | false => simp
      | true =>
          by_cases same : entry.1 = a
          · subst same
            simp
          · simp [same, Finmap.lookup_erase_ne (Ne.symm same)]

/-- A loop over the whole map leaves the entries without the property, in every order. -/
theorem RangeOrder.lookup_eraseWhere (order : RangeOrder m) {a : α} {b : β a} :
    (eraseWhere p m order.entries).lookup a = some b ↔
      m.lookup a = some b ∧ p ⟨a, b⟩ = false := by
  rw [MapRange.lookup_eraseWhere]
  refine and_congr_right fun found => ⟨fun all => all _ (order.mem_entries.mpr found) rfl, ?_⟩
  rintro kept ⟨_, b'⟩ visited rfl
  have same := (order.mem_entries.mp visited).symm.trans found
  cases same
  exact kept

end MapRange
