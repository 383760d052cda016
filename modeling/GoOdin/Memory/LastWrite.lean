import Mathlib.Data.List.Nodup

/-!
# Tables that keep the last write

A table written again and again keeps for each key the value written last. Nothing is lost
exactly if no key was written twice (`forall_lastWrite_iff`). When the values of one table
are the keys of another, the positions of the writes can all be found again through both
exactly if neither table lost anything (`forall_reached_iff`).
-/

namespace Memory

variable {κ ν α β : Type*} [DecidableEq κ]

/-- What a table holds under a key after these writes. -/
def lastWrite : List (κ × ν) → κ → Option ν
  | [], _ => none
  | write :: rest, k => (lastWrite rest k).or (if write.1 = k then some write.2 else none)

variable {writes : List (κ × ν)} {k : κ} {v : ν}

@[simp] theorem lastWrite_nil : lastWrite ([] : List (κ × ν)) k = none := rfl

theorem lastWrite_cons (write : κ × ν) (writes : List (κ × ν)) (k : κ) :
    lastWrite (write :: writes) k =
      (lastWrite writes k).or (if write.1 = k then some write.2 else none) := rfl

theorem lastWrite_eq_none_iff : lastWrite writes k = none ↔ k ∉ writes.map Prod.fst := by
  induction writes with
  | nil => simp
  | cons write writes ih =>
      rw [lastWrite_cons, Option.or_eq_none_iff, ih, List.map_cons, List.mem_cons]
      by_cases same : write.1 = k
      · simp [same]
      · simp [same, Ne.symm same]

/-- A later series of writes hides an earlier one key by key. -/
theorem lastWrite_append (earlier later : List (κ × ν)) (k : κ) :
    lastWrite (earlier ++ later) k = (lastWrite later k).or (lastWrite earlier k) := by
  induction earlier with
  | nil => simp
  | cons write earlier ih =>
      rw [List.cons_append, lastWrite_cons, ih, lastWrite_cons, Option.or_assoc]

/-- Of writes made in reverse order the first counts. -/
theorem lastWrite_reverse (writes : List (κ × ν)) (k : κ) :
    lastWrite writes.reverse k = writes.lookup k := by
  induction writes with
  | nil => rfl
  | cons write writes ih =>
      rw [List.reverse_cons, lastWrite_append, ih, List.lookup_cons, lastWrite_cons, lastWrite_nil,
        Option.none_or]
      by_cases same : write.1 = k
      · simp [same]
      · have different : (k == write.1) = false := beq_false_of_ne (Ne.symm same)
        simp [same, different]

/-- The table holds only what was written. -/
theorem mem_of_lastWrite (found : lastWrite writes k = some v) : (k, v) ∈ writes := by
  induction writes with
  | nil => cases found
  | cons write writes ih =>
      rw [lastWrite_cons, Option.or_eq_some_iff] at found
      obtain later | ⟨-, here⟩ := found
      · exact List.mem_cons_of_mem _ (ih later)
      · split at here
        · next same =>
            cases here
            rw [← same]
            exact List.mem_cons_self
        · cases here

/-- A write to a key that is written once can be read back. -/
theorem lastWrite_of_mem (keys : (writes.map Prod.fst).Nodup) (mem : (k, v) ∈ writes) :
    lastWrite writes k = some v := by
  induction writes with
  | nil => nomatch mem
  | cons write writes ih =>
      rw [List.map_cons, List.nodup_cons] at keys
      obtain rfl | later := List.mem_cons.mp mem
      · rw [lastWrite_cons, lastWrite_eq_none_iff.mpr keys.1, if_pos rfl, Option.none_or]
      · rw [lastWrite_cons, ih keys.2 later, Option.some_or]

/-- When no value is written twice, every write can be read back exactly if no key is. -/
theorem forall_lastWrite_iff (distinct : (writes.map Prod.snd).Nodup) :
    (∀ write ∈ writes, lastWrite writes write.1 = some write.2) ↔
      (writes.map Prod.fst).Nodup := by
  induction writes with
  | nil => simp
  | cons write writes ih =>
      rw [List.map_cons, List.nodup_cons] at distinct
      rw [List.map_cons, List.nodup_cons, ← ih distinct.2, List.forall_mem_cons]
      have first : lastWrite (write :: writes) write.1 = some write.2 ↔
          write.1 ∉ writes.map Prod.fst := by
        rw [← lastWrite_eq_none_iff, lastWrite_cons, if_pos rfl]
        cases later : lastWrite writes write.1 with
        | none => simp
        | some v =>
            refine iff_of_false (fun same => ?_) nofun
            obtain rfl : v = write.2 := Option.some.inj same
            exact distinct.1 (List.mem_map.mpr ⟨_, mem_of_lastWrite later, rfl⟩)
      rw [first]
      refine and_congr_right fun fresh => forall₂_congr fun other mem => ?_
      have different : write.1 ≠ other.1 :=
        fun same => fresh (same ▸ List.mem_map_of_mem mem)
      rw [lastWrite_cons, if_neg different, Option.or_none]

/-- Two tables in a row: the position of each write is found again through a key of the
first table exactly if no key of either was written twice. -/
theorem forall_reached_iff [DecidableEq α] [DecidableEq β] (writes : List (α × β)) :
    (∀ i < writes.length, ∃ a b, lastWrite writes a = some b ∧
        lastWrite (writes.map Prod.snd).zipIdx b = some i) ↔
      (writes.map Prod.snd).Nodup ∧ (writes.map Prod.fst).Nodup := by
  have positions : ((writes.map Prod.snd).zipIdx.map Prod.snd).Nodup := by
    rw [List.zipIdx_map_snd]
    exact List.nodup_range'
  have second := forall_lastWrite_iff positions
  rw [List.zipIdx_map_fst] at second
  constructor
  · intro reached
    -- what the second table returns for a position was written at it
    have at_position : ∀ i b, lastWrite (writes.map Prod.snd).zipIdx b = some i →
        (writes.map Prod.snd)[i]? = some b :=
      fun i b found => List.mem_zipIdx_iff_getElem?.mp (mem_of_lastWrite found)
    have distinct : (writes.map Prod.snd).Nodup := by
      refine second.mp fun write mem => ?_
      have here := List.mem_zipIdx_iff_getElem?.mp mem
      have bound := (List.getElem?_eq_some_iff.mp here).1
      rw [List.length_map] at bound
      obtain ⟨a, b, -, found⟩ := reached write.2 bound
      obtain rfl := Option.some.inj ((at_position _ _ found).symm.trans here)
      exact found
    refine ⟨distinct, (forall_lastWrite_iff distinct).mp fun write mem => ?_⟩
    obtain ⟨i, bound, rfl⟩ := List.mem_iff_getElem.mp mem
    obtain ⟨a, b, first, found⟩ := reached i bound
    have same : writes[i].2 = b := by
      have here := at_position i b found
      rw [List.getElem?_map, List.getElem?_eq_getElem bound] at here
      exact Option.some.inj here
    -- the value was written once, so the key it was found under is its own
    have own : (a, b) = writes[i] :=
      List.inj_on_of_nodup_map distinct (mem_of_lastWrite first) mem same.symm
    rw [← own]
    exact first
  · rintro ⟨distinct, keys⟩ i bound
    have mem : writes[i] ∈ writes := List.getElem_mem bound
    refine ⟨writes[i].1, writes[i].2, (forall_lastWrite_iff distinct).mpr keys _ mem, ?_⟩
    refine second.mpr distinct (writes[i].2, i) (List.mem_zipIdx_iff_getElem?.mpr ?_)
    rw [List.getElem?_map, List.getElem?_eq_getElem bound]
    rfl

end Memory
