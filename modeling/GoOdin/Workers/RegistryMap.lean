import GoOdin.Workers.Registry

/-!
# `ConnectionRegistry` as a map from pids to workers

The reads of the registry (`Get`, `GetAll`, `Total`) agree at any time with what the history
of `Add` and `Remove` calls says: a pid has the worker added last, unless it was removed
since. `Remove` deletes the right entry, but returns its error whether or not there was one.
-/

namespace GoOdin.Workers

open Interaction MapRange

inductive RegistryCall where
  | add (worker : WorkerClient)
  | remove (pid : Int64)
  | get (pid : Int64)
  | getAll
  | total

/-- The call changes the entry of this pid. -/
def RegistryCall.Writes (pid : Int64) : RegistryCall → Prop
  | .add worker => worker.pid = pid
  | .remove other => other = pid
  | .get _ => False
  | .getAll => False
  | .total => False

/-- The worker was added under this pid, and the entry was not changed since. -/
def LastAdded (calls : List RegistryCall) (pid : Int64) (w : WorkerClient) : Prop :=
  w.pid = pid ∧ ∃ earlier later, calls = earlier ++ .add w :: later ∧
    ∀ call ∈ later, ¬ call.Writes pid

theorem lastAdded_concat {calls : List RegistryCall} {c : RegistryCall} {pid : Int64}
    {w : WorkerClient} :
    LastAdded (calls ++ [c]) pid w ↔
      (c = .add w ∧ w.pid = pid) ∨ (LastAdded calls pid w ∧ ¬ c.Writes pid) := by
  constructor
  · rintro ⟨own, earlier, later, split, untouched⟩
    induction later using List.reverseRecOn with
    | nil =>
        obtain ⟨-, last⟩ := List.append_inj' split rfl
        exact .inl ⟨List.singleton_inj.mp last, own⟩
    | append_singleton later last _ =>
        rw [← List.cons_append, ← List.append_assoc] at split
        obtain ⟨same, final⟩ := List.append_inj' split rfl
        obtain rfl := List.singleton_inj.mp final
        refine .inr ⟨⟨own, earlier, later, same, fun call mem => ?_⟩, ?_⟩
        · exact untouched call (List.mem_append_left _ mem)
        · exact untouched c (List.mem_append_right _ List.mem_cons_self)
  · rintro (⟨rfl, own⟩ | ⟨⟨own, earlier, later, rfl, untouched⟩, notHere⟩)
    · exact ⟨own, calls, [], rfl, fun _ mem => nomatch mem⟩
    · refine ⟨own, earlier, later ++ [c], by simp, fun call mem => ?_⟩
      obtain old | new := List.mem_append.mp mem
      · exact untouched call old
      · exact List.mem_singleton.mp new ▸ notHere

namespace ConnectionRegistry

/-- `Total`. -/
def total (r : ConnectionRegistry) : Nat := r.conns.entries.card

/-- The error that `Remove` returns, never nil. -/
def removeErr (r : ConnectionRegistry) (pid : Int64) : Option String := some (r.remove pid).2

def step (r : ConnectionRegistry) : RegistryCall → ConnectionRegistry
  | .add worker => r.add worker
  | .remove pid => (r.remove pid).1
  | .get _ => r
  | .getAll => r
  | .total => r

variable {r : ConnectionRegistry} {pid : Int64} {w : WorkerClient}

theorem get_step (c : RegistryCall) :
    (r.step c).get pid = some w ↔
      (c = .add w ∧ w.pid = pid) ∨ (r.get pid = some w ∧ ¬ c.Writes pid) := by
  cases c with
  | add worker =>
      by_cases own : worker.pid = pid
      · subst own
        simp only [step, get_add_self, RegistryCall.Writes, Option.some_inj, RegistryCall.add.injEq,
          not_true, and_false, or_false]
        exact ⟨fun same => ⟨same, same ▸ rfl⟩, And.left⟩
      · simp only [step, get_add_of_ne r (Ne.symm own), RegistryCall.Writes, RegistryCall.add.injEq,
          own, not_false_iff, and_true]
        refine ⟨.inr, fun found => found.resolve_left ?_⟩
        rintro ⟨rfl, same⟩
        exact own same
  | remove other =>
      by_cases own : other = pid
      · subst own
        simp [step, remove, get, RegistryCall.Writes]
      · simp [step, remove, get, RegistryCall.Writes, own, Finmap.lookup_erase_ne (Ne.symm own)]
  | get _ => simp [step, RegistryCall.Writes]
  | getAll => simp [step, RegistryCall.Writes]
  | total => simp [step, RegistryCall.Writes]

/-- The registry finds the worker added last and not removed since. -/
theorem get_runFrom (calls : List RegistryCall) (pid : Int64) (w : WorkerClient) :
    (runFrom step new calls).get pid = some w ↔ LastAdded calls pid w := by
  induction calls using List.reverseRecOn with
  | nil =>
      refine iff_of_false nofun ?_
      rintro ⟨-, earlier, later, split, -⟩
      simp at split
  | append_singleton calls c ih => rw [runFrom_concat, get_step, lastAdded_concat, ih]

/-- The total is the number of workers listed, in any order of the loop. -/
theorem length_getAll (order : RangeOrder r.conns) : (r.getAll order).length = r.total := by
  rw [getAll, List.length_map, total, ← order.complete, Multiset.coe_card]

/-- Removing a pid that is not there changes nothing. -/
theorem remove_of_absent (absent : r.get pid = none) : (r.remove pid).1 = r := by
  have same : r.conns.erase pid = r.conns := by
    refine Finmap.ext_lookup fun key => ?_
    by_cases own : key = pid
    · rw [own, Finmap.lookup_erase]
      exact absent.symm
    · exact Finmap.lookup_erase_ne own
  obtain ⟨conns, keyed⟩ := r
  simpa only [remove, mk.injEq] using same

/-- What the reads of the registry return after these calls. -/
structure ReadsAsMap (calls : List RegistryCall) (r : ConnectionRegistry) : Prop where
  get : ∀ pid w, r.get pid = some w ↔ LastAdded calls pid w
  keyed : ∀ pid w, r.get pid = some w → w.pid = pid
  listed : ∀ order : RangeOrder r.conns, (r.getAll order).Nodup ∧
    ∀ w, w ∈ r.getAll order ↔ LastAdded calls w.pid w
  total : ∀ order : RangeOrder r.conns, r.total = (r.getAll order).length

/-- `Remove` returns nil for a registered pid, and for any other pid an error that leaves
the registry as it was. -/
def RemoveAnswers (calls : List RegistryCall) (r : ConnectionRegistry) (pid : Int64) : Prop :=
  (r.removeErr pid = none ↔ ∃ w, LastAdded calls pid w) ∧
    (r.removeErr pid ≠ none ∧ (r.remove pid).1 = r ↔ ¬ ∃ w, LastAdded calls pid w)

theorem readsAsMap_runFrom (calls : List RegistryCall) :
    ReadsAsMap calls (runFrom step new calls) where
  get := get_runFrom calls
  keyed := fun _ _ => pid_of_get
  listed := fun order => ⟨nodup_getAll order, fun w => by rw [mem_getAll, get_runFrom]⟩
  total := fun order => (length_getAll order).symm

/-- The answer of `Remove` is right exactly for the pids that are not registered. -/
theorem removeAnswers_iff (calls : List RegistryCall) (pid : Int64) :
    RemoveAnswers calls (runFrom step new calls) pid ↔ ¬ ∃ w, LastAdded calls pid w := by
  constructor
  · rintro ⟨nil, -⟩ registered
    exact nomatch nil.mpr registered
  · intro absent
    refine ⟨iff_of_false nofun absent, iff_of_true ⟨nofun, remove_of_absent ?_⟩ absent⟩
    rw [Option.eq_none_iff_forall_ne_some]
    intro w found
    exact absent ⟨w, (get_runFrom calls pid w).mp found⟩

/-- In every sequence of calls, the reads agree with the map from pids to workers at any
time; and all answers of `Remove` do exactly if no `Remove` in the sequence names a pid that
is registered at that time. -/
theorem registry_behaves_as_map_iff (calls : List RegistryCall) :
    ((∀ before after, calls = before ++ after → ReadsAsMap before (runFrom step new before)) ∧
        ∀ before pid after, calls = before ++ .remove pid :: after →
          RemoveAnswers before (runFrom step new before) pid) ↔
      ∀ before pid after, calls = before ++ .remove pid :: after →
        ¬ ∃ w, LastAdded before pid w := by
  simp only [removeAnswers_iff]
  exact and_iff_right fun before _ _ => readsAsMap_runFrom before

/-- A worker is added and removed: it is gone, and yet `Remove` says that there was none. -/
theorem remove_of_registered_reports_missing :
    let w : WorkerClient := ⟨0, 42, none⟩
    let r := runFrom step new [.add w]
    r.get 42 = some w ∧ (r.remove 42).1.get 42 = none ∧
      r.removeErr 42 = some "no worker found to remove" := by
  decide

end ConnectionRegistry

end GoOdin.Workers
