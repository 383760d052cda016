import Mathlib.Data.List.Basic

/-!
# Logs whose entries name an earlier entry

Each entry of a log has a key and names the key of its source. Some entries are
roots: they come from outside and their source is not looked at. A log is linked
when every other entry was added after an entry with the key it names, in the same
group. In a linked log whose keys identify the entries, following the sources from
any entry ends at a root of its group.
-/

namespace Interaction

/-- How the entries of a log refer to each other. -/
structure Lineage (α κ γ : Type*) where
  key : α → κ
  source : α → κ
  group : α → γ
  isRoot : α → Bool

namespace Lineage

variable {α κ γ : Type*}

/-- `y` is the entry that `x` names as its source. -/
structure Derives (L : Lineage α κ γ) (y x : α) : Prop where
  source_eq : L.source x = L.key y
  group_eq : L.group x = L.group y

/-- Every entry is a root or derives from an entry before it. -/
inductive Linked (L : Lineage α κ γ) : List α → Prop where
  | nil : Linked L []
  | root {log : List α} (linked : Linked L log) (x : α) (outside : L.isRoot x = true) :
      Linked L (log ++ [x])
  | derived {log : List α} {y : α} (linked : Linked L log) (x : α) (mem : y ∈ log)
      (derives : L.Derives y x) : Linked L (log ++ [x])

variable {L : Lineage α κ γ} {log new : List α} {x y : α}

/-- A batch of entries that all derive from one entry of the log keeps it linked. -/
theorem Linked.append (linked : L.Linked log) (mem : y ∈ log)
    (derives : ∀ x ∈ new, L.Derives y x) : L.Linked (log ++ new) := by
  induction new generalizing log with
  | nil => rwa [List.append_nil]
  | cons x rest ih =>
      rw [List.append_cons]
      exact ih (.derived linked x mem (derives x List.mem_cons_self))
        (List.mem_append_left _ mem) fun z later => derives z (List.mem_cons_of_mem _ later)

/-- What an entry derives from was there before it. -/
theorem Linked.exists_source (linked : L.Linked log) {before after : List α}
    (split : log = before ++ x :: after) (inside : L.isRoot x = false) :
    ∃ y ∈ before, L.Derives y x := by
  induction linked generalizing after with
  | nil => exact absurd split (by simp)
  | @root log last _ outside ih =>
      rcases List.eq_nil_or_concat after with rfl | ⟨rest, z, rfl⟩
      · obtain ⟨_, same⟩ := List.append_inj' split rfl
        cases same
        rw [outside] at inside
        cases inside
      · rw [List.concat_eq_append, ← List.cons_append, ← List.append_assoc] at split
        exact ih (List.append_inj' split rfl).1
  | @derived log source _ last mem derives ih =>
      rcases List.eq_nil_or_concat after with rfl | ⟨rest, z, rfl⟩
      · obtain ⟨rfl, same⟩ := List.append_inj' split rfl
        cases same
        exact ⟨source, mem, derives⟩
      · rw [List.concat_eq_append, ← List.cons_append, ← List.append_assoc] at split
        exact ih (List.append_inj' split rfl).1

section Follow

variable [DecidableEq κ]

/-- Follow the sources until a root, for at most `n` steps. -/
def origin (L : Lineage α κ γ) (log : List α) : Nat → α → Option α
  | n, x =>
      if L.isRoot x then some x
      else
        match n with
        | 0 => none
        | n + 1 => (log.find? fun y => L.key y = L.source x).bind (L.origin log n)

/-- More steps find the same root. -/
theorem origin_succ {n : Nat} {o : α} (found : L.origin log n x = some o) :
    L.origin log (n + 1) x = some o := by
  induction n generalizing x with
  | zero =>
      unfold origin at found ⊢
      split at found
      · next root => rwa [if_pos root]
      · cases found
  | succ n ih =>
      unfold origin at found ⊢
      split at found
      · next root => rwa [if_pos root]
      · next inside =>
          obtain ⟨y, lookup, rest⟩ := Option.bind_eq_some_iff.mp found
          rw [if_neg inside]
          exact Option.bind_eq_some_iff.mpr ⟨y, lookup, ih rest⟩

/-- Following the sources from an entry of a linked log ends at a root of its group.
The log may be a part of the one that is searched. -/
theorem Linked.origin_eq (linked : L.Linked log) {whole : List α} (part : log ⊆ whole)
    (identified : ∀ a ∈ whole, ∀ b ∈ whole, L.key a = L.key b → a = b) (mem : x ∈ log) :
    ∃ o ∈ log, L.origin whole log.length x = some o ∧ L.isRoot o = true ∧
      L.group o = L.group x := by
  induction linked generalizing x with
  | nil => exact absurd mem List.not_mem_nil
  | @root log last _ outside ih =>
      rw [List.length_append]
      rcases List.mem_append.mp mem with old | new
      · obtain ⟨o, oMem, found, root, group⟩ := ih (fun _ h => part (List.mem_append_left _ h)) old
        exact ⟨o, List.mem_append_left _ oMem, origin_succ found, root, group⟩
      · obtain rfl := List.mem_singleton.mp new
        refine ⟨x, mem, ?_, outside, rfl⟩
        unfold origin
        rw [if_pos outside]
  | @derived log source _ last sourceMem derives ih =>
      have earlier : log ⊆ whole := fun _ h => part (List.mem_append_left _ h)
      rw [List.length_append]
      rcases List.mem_append.mp mem with old | new
      · obtain ⟨o, oMem, found, root, group⟩ := ih earlier old
        exact ⟨o, List.mem_append_left _ oMem, origin_succ found, root, group⟩
      · obtain rfl := List.mem_singleton.mp new
        by_cases outside : L.isRoot x = true
        · refine ⟨x, mem, ?_, outside, rfl⟩
          unfold origin
          rw [if_pos outside]
        · -- The search by key finds the source itself, since keys identify entries.
          obtain ⟨o, oMem, found, root, group⟩ := ih earlier sourceMem
          refine ⟨o, List.mem_append_left _ oMem, ?_, root, group.trans derives.group_eq.symm⟩
          obtain ⟨y, lookup⟩ : ∃ y, whole.find? (fun y => L.key y = L.source x) = some y := by
            apply Option.isSome_iff_exists.mp
            rw [List.find?_isSome]
            exact ⟨source, earlier sourceMem, by simpa using derives.source_eq.symm⟩
          have named : L.key y = L.source x := by simpa using List.find?_some lookup
          have same : y = source := identified y (List.mem_of_find?_eq_some lookup) source
            (earlier sourceMem) (named.trans derives.source_eq)
          change L.origin whole (log.length + 1) x = some o
          unfold origin
          rw [if_neg outside]
          exact Option.bind_eq_some_iff.mpr ⟨y, lookup, by rw [same]; exact found⟩

end Follow

end Lineage

end Interaction
