import GoOdin.Logs.LogHandler
import Mathlib.Data.List.Nodup

/-!
# No entry is lost or duplicated among derived loggers

Two handlers that show entries of the same array get in each other's way: what one of them
appends overwrites what the other one has pending. `Sound` rules that out and says that the
batches and the pending entries together are the accepted entries.

A call keeps it unless it derives a handler from one with pending entries, or appends in
place to an array in which another handler has pending entries. Each of these two puts one
entry into two handlers at once, so the condition is exact over whole runs.
-/

namespace GoOdin.Logs.LogTree

open Interaction Memory

variable {A : Type}

/-- Two handlers do not both have pending entries in one array. -/
def Apart (a b : LogHandler A) : Prop :=
  0 < a.logs.len → 0 < b.logs.len → a.logs.base ≠ b.logs.base

theorem Apart.symm {a b : LogHandler A} (apart : Apart a b) : Apart b a :=
  fun pendingB pendingA => (apart pendingA pendingB).symm

structure Sound (s : LogTree A) : Prop where
  held : ∀ l ∈ s.handlers, s.heap.Holds l.logs
  apart : s.handlers.Pairwise Apart
  exact : s.entries.Perm s.accepted
  distinct : s.accepted.Nodup
  older : ∀ log ∈ s.accepted, log < s.made

/-- The condition on a call: a handler is derived only from one without pending entries,
and an accepted record goes to a handler with room in its array only while no other handler
has pending entries in that array. -/
def KeepsApart (s : LogTree A) : Call A → Prop
  | .handle i accepted _ _ => accepted = true → ∀ l, s.handlers[i]? = some l →
      l.logs.len < l.logs.cap → ∀ j other, j ≠ i → s.handlers[j]? = some other →
        other.logs.base = l.logs.base → other.logs.len = 0
  | .writeAll _ _ => True
  | .withAttrs i attrs => attrs ≠ [] → ∀ l, s.handlers[i]? = some l → l.logs.len = 0
  | .withGroup i name => name ≠ "" → ∀ l, s.handlers[i]? = some l → l.logs.len = 0

variable {s t : LogTree A} {i : Nat} {l l' : LogHandler A} {others : List (LogHandler A)}

section Focus

/-- The handlers with one of them in front. -/
theorem handlers_perm (found : s.handlers[i]? = some l) :
    s.handlers.Perm (l :: s.handlers.eraseIdx i) := by
  obtain ⟨inside, rfl⟩ := List.getElem?_eq_some_iff.mp found
  exact (List.getElem_cons_eraseIdx_perm inside).symm

theorem set_perm (found : s.handlers[i]? = some l) (l' : LogHandler A) :
    (s.handlers.set i l').Perm (l' :: s.handlers.eraseIdx i) := by
  obtain ⟨inside, -⟩ := List.getElem?_eq_some_iff.mp found
  exact List.set_perm_cons_eraseIdx inside l'

theorem pendingIn_perm {heap : Heap LogRef} {first second : List (LogHandler A)}
    (same : first.Perm second) : (pendingIn heap first).Perm (pendingIn heap second) :=
  same.flatMap_right _

theorem pendingIn_cons (heap : Heap LogRef) (l : LogHandler A) (others : List (LogHandler A)) :
    pendingIn heap (l :: others) = heap.read l.logs ++ pendingIn heap others := rfl

theorem entries_perm (shape : s.handlers.Perm (l :: others)) :
    s.entries.Perm (s.written.flatten ++ (s.heap.read l.logs ++ pendingIn s.heap others)) :=
  (pendingIn_perm shape).append_left _

/-- Soundness seen from one handler. -/
theorem sound_iff (shape : s.handlers.Perm (l :: others)) :
    Sound s ↔ (s.heap.Holds l.logs ∧ ∀ o ∈ others, s.heap.Holds o.logs) ∧
      ((∀ o ∈ others, Apart l o) ∧ others.Pairwise Apart) ∧
      (s.written.flatten ++ (s.heap.read l.logs ++ pendingIn s.heap others)).Perm s.accepted ∧
      s.accepted.Nodup ∧ ∀ log ∈ s.accepted, log < s.made := by
  have mem : (∀ o ∈ s.handlers, s.heap.Holds o.logs) ↔
      s.heap.Holds l.logs ∧ ∀ o ∈ others, s.heap.Holds o.logs := by
    simp only [shape.mem_iff, List.forall_mem_cons]
  have pairwise : s.handlers.Pairwise Apart ↔
      (∀ o ∈ others, Apart l o) ∧ others.Pairwise Apart := by
    rw [shape.pairwise_iff Apart.symm, List.pairwise_cons]
  constructor
  · intro sound
    exact ⟨mem.mp sound.held, pairwise.mp sound.apart, (entries_perm shape).symm.trans sound.exact,
      sound.distinct, sound.older⟩
  · rintro ⟨held, apart, exact, distinct, older⟩
    exact ⟨mem.mpr held, pairwise.mpr apart, (entries_perm shape).trans exact, distinct, older⟩

/-- Sound states have every accepted entry once. -/
theorem Sound.presentOnce (sound : Sound s) : PresentOnce s := by
  intro log accepted
  rw [sound.exact.count_eq]
  exact List.count_eq_one_of_mem sound.distinct accepted

/-- An entry that two handlers have pending is there twice. -/
theorem not_presentOnce {a b : LogHandler A} {rest : List (LogHandler A)} {log : LogRef}
    (shape : s.handlers.Perm (a :: b :: rest)) (accepted : log ∈ s.accepted)
    (inA : log ∈ s.heap.read a.logs) (inB : log ∈ s.heap.read b.logs) : ¬ PresentOnce s := by
  intro once
  have countA := List.one_le_count_iff.mpr inA
  have countB := List.one_le_count_iff.mpr inB
  have total := once log accepted
  rw [(entries_perm shape).count_eq, pendingIn_cons] at total
  simp only [List.count_append] at total
  omega

end Focus

section Derive

/-- A handler without pending entries may be copied. -/
theorem Sound.derive (sound : Sound s) (found : s.handlers[i]? = some l)
    (empty : l.logs.len = 0) {child : LogHandler A} (copied : child.logs = l.logs) :
    Sound (s.derive (some child)) := by
  have shape : (s.derive (some child)).handlers.Perm (child :: s.handlers) :=
    List.perm_append_singleton child s.handlers
  have nothing : s.heap.read child.logs = [] := by
    rw [copied]
    exact (Heap.read_eq_nil_iff _ _).mpr empty
  refine (sound_iff shape).mpr ⟨⟨?_, sound.held⟩, ⟨?_, sound.apart⟩, ?_, sound.distinct,
    sound.older⟩
  · rw [copied]
    exact sound.held l (List.mem_of_getElem? found)
  · intro o _ pending
    rw [copied] at pending
    omega
  · show (s.written.flatten ++ (s.heap.read child.logs ++ pendingIn s.heap s.handlers)).Perm _
    rw [nothing, List.nil_append]
    exact sound.exact

/-- A copy of a handler with pending entries has them pending as well. -/
theorem not_presentOnce_derive (sound : Sound s) (found : s.handlers[i]? = some l)
    (pending : l.logs.len ≠ 0) {child : LogHandler A} (copied : child.logs = l.logs) :
    ¬ PresentOnce (s.derive (some child)) := by
  have shape : (s.derive (some child)).handlers.Perm
      (child :: l :: s.handlers.eraseIdx i) :=
    (List.perm_append_singleton child s.handlers).trans ((handlers_perm found).cons child)
  obtain ⟨log, shown⟩ : ∃ log, log ∈ s.heap.read l.logs := by
    apply List.exists_mem_of_ne_nil
    exact fun nothing => pending ((Heap.read_eq_nil_iff _ _).mp nothing)
  have accepted : log ∈ s.accepted := by
    rw [← sound.exact.mem_iff, (entries_perm (handlers_perm found)).mem_iff]
    simp [shown]
  exact not_presentOnce shape accepted (copied ▸ shown) shown

end Derive

section Write

/-- A flush moves the pending entries of one handler into a batch. -/
theorem writeAll_cases (s : LogTree A) (i : Nat) (writeErr : Option String) :
    (s.writeAll i writeErr).2 = s ∨
      ∃ l, s.handlers[i]? = some l ∧ (s.writeAll i writeErr).2 =
        { s with
          handlers := s.handlers.set i { l with logs := l.logs.clear }
          written := s.written ++ [s.heap.read l.logs] } := by
  cases found : s.handlers[i]? with
  | none => exact .inl (by simp only [writeAll, found])
  | some l =>
      by_cases empty : l.logs.len = 0
      · exact .inl (by simp only [writeAll, found, LogHandler.take_of_empty empty])
      · exact .inr ⟨l, rfl, by simp only [writeAll, found, LogHandler.take_of_pending empty]⟩

/-- A flush neither adds nor drops an entry. -/
theorem entries_writeAll (s : LogTree A) (i : Nat) (writeErr : Option String) :
    (s.writeAll i writeErr).2.entries.Perm s.entries := by
  obtain unchanged | ⟨l, found, after⟩ := writeAll_cases s i writeErr
  · rw [unchanged]
  · rw [after]
    refine (entries_perm (set_perm found _)).trans ?_
    refine List.Perm.trans ?_ (entries_perm (handlers_perm found)).symm
    simp

theorem accepted_writeAll (s : LogTree A) (i : Nat) (writeErr : Option String) :
    (s.writeAll i writeErr).2.accepted = s.accepted := by
  obtain unchanged | ⟨l, found, after⟩ := writeAll_cases s i writeErr
  · rw [unchanged]
  · rw [after]

theorem presentOnce_writeAll_iff (s : LogTree A) (i : Nat) (writeErr : Option String) :
    PresentOnce (s.writeAll i writeErr).2 ↔ PresentOnce s := by
  simp only [PresentOnce, accepted_writeAll, (entries_writeAll s i writeErr).count_eq]

theorem Sound.writeAll (sound : Sound s) (i : Nat) (writeErr : Option String) :
    Sound (s.writeAll i writeErr).2 := by
  obtain unchanged | ⟨l, found, after⟩ := writeAll_cases s i writeErr
  · rw [unchanged]
    exact sound
  · obtain ⟨⟨held, heldOthers⟩, ⟨-, apartOthers⟩, exact, distinct, older⟩ :=
      (sound_iff (handlers_perm found)).mp sound
    have kept := (entries_writeAll s i writeErr).trans sound.exact
    rw [after] at kept ⊢
    refine (sound_iff (set_perm found _)).mpr ⟨⟨held.clear, heldOthers⟩, ⟨?_, apartOthers⟩,
      (entries_perm (set_perm found _)).symm.trans kept, distinct, older⟩
    intro o _ pending
    exact absurd pending (Nat.lt_irrefl 0)

end Write

section Push

/-- An accepted entry may go to a handler whose array nobody else uses, or to a new
array. -/
theorem Sound.push (sound : Sound s) (found : s.handlers[i]? = some l)
    (alone : l.logs.len < l.logs.cap → ∀ o ∈ s.handlers.eraseIdx i,
      o.logs.base = l.logs.base → o.logs.len = 0) (room : Nat) :
    Sound (s.push i l room) := by
  obtain ⟨⟨held, heldOthers⟩, ⟨-, apartOthers⟩, exact, distinct, older⟩ :=
    (sound_iff (handlers_perm found)).mp sound
  have undisturbed : pendingIn (s.heap.append l.logs s.made room).1 (s.handlers.eraseIdx i) =
      pendingIn s.heap (s.handlers.eraseIdx i) := by
    apply List.flatMap_congr
    intro o mem
    apply Heap.read_append_of_apart (heldOthers o mem)
    intro fits same
    have empty := alone fits o mem same
    omega
  have shape : (s.push i l room).handlers.Perm
      ((l.push s.heap s.made room).2.1 :: s.handlers.eraseIdx i) := set_perm found _
  refine (sound_iff shape).mpr
    ⟨⟨held.append s.made room, ?_⟩, ⟨?_, apartOthers⟩, ?_, ?_, ?_⟩
  · exact fun o mem => (heldOthers o mem).append_other _ _ _
  · intro o mem _ pending
    show (s.heap.append l.logs s.made room).2.base ≠ o.logs.base
    rw [Heap.base_append]
    split
    · next fits =>
        intro same
        have empty := alone fits o mem same.symm
        omega
    · have within := (heldOthers o mem).within
      have used := (heldOthers o mem).used (by omega)
      omega
  · show (s.written.flatten ++
      ((s.heap.append l.logs s.made room).1.read (s.heap.append l.logs s.made room).2 ++
        pendingIn (s.heap.append l.logs s.made room).1 (s.handlers.eraseIdx i))).Perm
      (s.accepted ++ [s.made])
    rw [Heap.read_append, undisturbed]
    refine List.Perm.trans ?_ (exact.append_right [s.made])
    simp only [List.append_assoc]
    exact ((List.perm_append_comm).append_left _).append_left _
  · show (s.accepted ++ [s.made]).Nodup
    rw [(List.perm_append_singleton _ _).nodup_iff, List.nodup_cons]
    exact ⟨fun old => Nat.lt_irrefl _ (older _ old), distinct⟩
  · intro log mem
    show log < s.made + 1
    obtain old | new := List.mem_append.mp mem
    · exact Nat.lt_succ_of_lt (older log old)
    · rw [List.mem_singleton.mp new]
      exact Nat.lt_succ_self _

/-- An entry written in place over a pending one of another handler is in both. -/
theorem not_presentOnce_push (sound : Sound s) (found : s.handlers[i]? = some l)
    (fits : l.logs.len < l.logs.cap) {o : LogHandler A} (mem : o ∈ s.handlers.eraseIdx i)
    (same : o.logs.base = l.logs.base) (pending : o.logs.len ≠ 0) (room : Nat) :
    ¬ PresentOnce (s.push i l room) := by
  obtain ⟨-, ⟨apart, -⟩, -⟩ := (sound_iff (handlers_perm found)).mp sound
  -- the two handlers share the array, so the one that is appended to shows nothing yet
  have empty : l.logs.len = 0 := by
    by_contra shown
    exact apart o mem (by omega) (by omega) same.symm
  obtain ⟨front, back, split⟩ := List.append_of_mem mem
  have shape : (s.push i l room).handlers.Perm
      ((l.push s.heap s.made room).2.1 :: o :: (front ++ back)) := by
    refine (set_perm found _).trans (List.Perm.cons _ ?_)
    rw [split]
    exact List.perm_middle
  refine not_presentOnce shape (?_ : s.made ∈ _) ?_ ?_
  · exact List.mem_append_right _ (List.mem_singleton.mpr rfl)
  · show s.made ∈ (s.heap.append l.logs s.made room).1.read (s.heap.append l.logs s.made room).2
    rw [Heap.read_append]
    exact List.mem_append_right _ (List.mem_singleton.mpr rfl)
  · show s.made ∈ (s.heap.append l.logs s.made room).1.read o.logs
    rw [Heap.append_of_room fits, empty, ← same]
    exact Heap.mem_read_write (by omega) _ _

end Push

section Runs

/-- All that `Handle` can do: nothing, drop the record, append it, or append it and flush. -/
theorem handle_cases (s : LogTree A) (i : Nat) (accepted : Bool) (room : Nat)
    (writeErr : Option String) :
    (s.handlers[i]? = none ∧ (s.handle i accepted room writeErr).2 = s) ∨
      ∃ l, s.handlers[i]? = some l ∧
        ((accepted = false ∧
            (s.handle i accepted room writeErr).2 = { s with made := s.made + 1 }) ∨
          (accepted = true ∧ (s.handle i accepted room writeErr).2 = s.push i l room) ∨
          (accepted = true ∧
            (s.handle i accepted room writeErr).2 =
              ((s.push i l room).writeAll i writeErr).2)) := by
  cases found : s.handlers[i]? with
  | none => exact .inl ⟨rfl, by simp only [handle, found]⟩
  | some l =>
      refine .inr ⟨l, rfl, ?_⟩
      cases accepted with
      | false => exact .inl ⟨rfl, by simp [handle, found]⟩
      | true =>
          cases due : l.isDue (l.push s.heap s.made room).1 with
          | false => exact .inr (.inl ⟨rfl, by simp [handle, found, due]⟩)
          | true => exact .inr (.inr ⟨rfl, by simp [handle, found, due]⟩)

theorem Sound.drop (sound : Sound s) : Sound { s with made := s.made + 1 } :=
  ⟨sound.held, sound.apart, sound.exact, sound.distinct,
    fun log mem => Nat.lt_succ_of_lt (sound.older log mem)⟩

theorem Sound.handle (sound : Sound s) {accepted : Bool} {room : Nat} {writeErr : Option String}
    (alone : KeepsApart s (.handle i accepted room writeErr)) :
    Sound (s.handle i accepted room writeErr).2 := by
  obtain ⟨-, after⟩ | ⟨l, found, outcome⟩ := handle_cases s i accepted room writeErr
  · rw [after]
    exact sound
  · have pushed (kept : accepted = true) : Sound (s.push i l room) := by
      apply sound.push found
      intro fits o mem same
      obtain ⟨j, different, there⟩ := List.mem_eraseIdx_iff_getElem?.mp mem
      exact alone kept l found fits j o different there same
    obtain ⟨-, after⟩ | ⟨kept, after⟩ | ⟨kept, after⟩ := outcome
    · rw [after]
      exact sound.drop
    · rw [after]
      exact pushed kept
    · rw [after]
      exact (pushed kept).writeAll i writeErr

theorem not_presentOnce_handle (sound : Sound s) {accepted : Bool} {room : Nat}
    {writeErr : Option String} (clash : ¬ KeepsApart s (.handle i accepted room writeErr)) :
    ¬ PresentOnce (s.handle i accepted room writeErr).2 := by
  simp only [KeepsApart, not_forall] at clash
  obtain ⟨rfl, l, found, fits, j, o, different, there, same, pending⟩ := clash
  have mem : o ∈ s.handlers.eraseIdx i := List.mem_eraseIdx_iff_getElem?.mpr ⟨j, different, there⟩
  have twice := not_presentOnce_push sound found fits mem same pending room
  obtain ⟨absent, -⟩ | ⟨l', found', outcome⟩ := handle_cases s i true room writeErr
  · rw [found] at absent
    cases absent
  · obtain rfl : l = l' := Option.some.inj (found.symm.trans found')
    obtain ⟨dropped, -⟩ | ⟨-, after⟩ | ⟨-, after⟩ := outcome
    · cases dropped
    · rw [after]
      exact twice
    · rw [after, presentOnce_writeAll_iff]
      exact twice

/-- `WithAttrs` and `WithGroup` in one: a child is made unless the argument is empty, and it
has the entries of its parent. -/
theorem sound_derive_iff (sound : Sound s) {f : LogHandler A → Option (LogHandler A)} {made : Prop}
    (derived : ∀ l, made → ∃ child, f l = some child ∧ child.logs = l.logs)
    (same : ∀ l, ¬ made → f l = none) :
    ((made → ∀ l, s.handlers[i]? = some l → l.logs.len = 0) →
        Sound (s.derive (s.handlers[i]?.bind f))) ∧
      (¬ (made → ∀ l, s.handlers[i]? = some l → l.logs.len = 0) →
        ¬ PresentOnce (s.derive (s.handlers[i]?.bind f))) := by
  constructor
  · intro empty
    cases found : s.handlers[i]? with
    | none => exact sound
    | some l =>
        rw [Option.bind_some]
        by_cases new : made
        · obtain ⟨child, run, copied⟩ := derived l new
          rw [run]
          exact sound.derive found (empty new l found) copied
        · rw [same l new]
          exact sound
  · intro clash
    simp only [not_forall] at clash
    obtain ⟨new, l, found, pending⟩ := clash
    obtain ⟨child, run, copied⟩ := derived l new
    rw [found, Option.bind_some, run]
    exact not_presentOnce_derive sound found pending copied

theorem sound_step (sound : Sound s) (call : Call A) :
    (KeepsApart s call → Sound (s.step call)) ∧
      (¬ KeepsApart s call → ¬ PresentOnce (s.step call)) := by
  cases call with
  | handle i accepted room writeErr => exact ⟨sound.handle, not_presentOnce_handle sound⟩
  | writeAll i writeErr =>
      exact ⟨fun _ => sound.writeAll i writeErr, fun clash => absurd trivial clash⟩
  | withAttrs i attrs =>
      apply sound_derive_iff sound
      · intro l new
        refine ⟨l.withGroupAttrs { attrs := attrs }, ?_, rfl⟩
        simp [LogHandler.withAttrs, new]
      · intro l new
        simp [LogHandler.withAttrs, not_not.mp new]
  | withGroup i name =>
      apply sound_derive_iff sound
      · exact fun l new => ⟨l.withGroupAttrs { group := name }, if_neg new, rfl⟩
      · exact fun l new => if_pos (not_not.mp new)

theorem sound_start (opt : LogOptions) : Sound (start opt : LogTree A) where
  held := by
    intro l mem
    rw [List.mem_singleton.mp mem]
    exact Heap.holds_nil _
  apart := List.pairwise_singleton _ _
  exact := List.Perm.refl _
  distinct := List.nodup_nil
  older := fun _ mem => absurd mem List.not_mem_nil

/-- In every run from a new handler, all states on the way have each accepted record
exactly once, in the batches or pending, if and only if every call meets `KeepsApart`. -/
theorem derived_handlers_exact_iff (opt : LogOptions) (calls : List (Call A)) :
    (∀ before, before <+: calls → PresentOnce (runFrom step (start opt) before)) ↔
      Admitted step KeepsApart (start opt) calls := by
  have once (s : LogTree A) (sound : Sound s) : PresentOnce s := sound.presentOnce
  symm
  exact admitted_iff_safe once (fun _ call sound => (sound_step sound call).1)
    (fun _ call sound => (sound_step sound call).2) (sound_start opt) calls

/-- A record is pending when a logger is derived: both handlers write it. -/
theorem derived_handler_writes_again :
    let s := runFrom step (start ⟨3⟩ : LogTree Unit)
      [.handle 0 true 0 none, .withGroup 0 "db", .writeAll 0 none, .writeAll 1 none]
    s.accepted = [0] ∧ s.written = [[0], [0]] ∧ ¬ PresentOnce s := by
  refine ⟨rfl, rfl, fun once => ?_⟩
  exact absurd (once 0 (List.mem_singleton.mpr rfl)) (by decide)

end Runs

end GoOdin.Logs.LogTree
