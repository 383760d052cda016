import GoOdin.Adapters.SqlAdapters

/-!
# When `SqlAdapters.Connect` completes

It completes exactly if every database names a registered adapter and opens; what `Get` then
returns for an alias is the connection of the last database with that alias.
-/

namespace GoOdin.Adapters.SqlAdapters

open Memory

variable {E : Type*} {connects : Nat → Option E} {s s' : SqlAdapters × Connections}

/-- `Get`, with the adapter that opened the connection: `Connect` writes it under the same
alias. -/
def get (a : SqlAdapters) (connectionName : String) : Option (Adapter × Nat) := do
  let db ← a.result.lookup connectionName
  let adapter ← a.aliases.lookup connectionName
  pure (adapter, db)

/-- The state after an adapter has opened a database. -/
def connected (s : SqlAdapters × Connections) (cfg : Database) (adapter : Adapter) :
    SqlAdapters × Connections :=
  ({ s.1 with
      result := s.1.result.insert cfg.aliasName s.2.opened
      aliases := s.1.aliases.insert cfg.aliasName adapter },
    { s.2 with
      db := Function.update s.2.db adapter (some s.2.opened)
      opened := s.2.opened + 1 })

theorem connectDatabase_eq_ok_iff {cfg : Database} :
    connectDatabase connects s cfg = .ok s' ↔
      ∃ adapter, s.1.getAdapterByDriver cfg.adapter = some adapter ∧
        connects s.2.opened = none ∧ s' = connected s cfg adapter := by
  cases found : s.1.getAdapterByDriver cfg.adapter with
  | none =>
      simp only [connectDatabase, initConnection, found]
      refine iff_of_false (fun ran => ?_) (by simp)
      cases ran
  | some adapter =>
      cases result : connects s.2.opened with
      | some err =>
          simp only [connectDatabase, initConnection, found, Adapter.connect, result]
          refine iff_of_false (fun ran => ?_) (by simp)
          cases ran
      | none =>
          simp only [connectDatabase, initConnection, found, Adapter.connect, result]
          constructor
          · intro same
            cases same
            exact ⟨adapter, rfl, trivial, rfl⟩
          · rintro ⟨_, ⟨⟩, -, rfl⟩
            rfl

theorem foldlM_connectDatabase_iff (connects : Nat → Option E) (databases : List Database)
    (s : SqlAdapters × Connections) :
    (∃ s', databases.foldlM (connectDatabase connects) s = .ok s') ↔
      ∀ i cfg, databases[i]? = some cfg →
        s.1.getAdapterByDriver cfg.adapter ≠ none ∧ connects (s.2.opened + i) = none := by
  induction databases generalizing s with
  | nil => exact iff_of_true ⟨s, rfl⟩ nofun
  | cons cfg databases ih =>
      rw [List.foldlM_cons]
      constructor
      · rintro ⟨s', run⟩
        cases first : connectDatabase connects s cfg with
        | error err =>
            rw [first] at run
            cases run
        | ok next =>
            rw [first] at run
            obtain ⟨adapter, found, opens, rfl⟩ := connectDatabase_eq_ok_iff.mp first
            intro i cfg' at_
            cases i with
            | zero =>
                cases at_
                exact ⟨by simp [found], opens⟩
            | succ i =>
                have rest := (ih _).mp ⟨s', run⟩ i cfg' at_
                refine ⟨rest.1, ?_⟩
                rw [← rest.2]
                show connects _ = connects (s.2.opened + 1 + i)
                congr 1
                omega
      · intro all
        obtain ⟨known, opens⟩ := all 0 cfg rfl
        obtain ⟨adapter, found⟩ := Option.ne_none_iff_exists'.mp known
        rw [connectDatabase_eq_ok_iff.mpr ⟨adapter, found, opens, rfl⟩]
        refine (ih _).mpr fun i cfg' at_ => ?_
        have rest := all (i + 1) cfg' at_
        refine ⟨rest.1, ?_⟩
        rw [← rest.2]
        show connects (s.2.opened + 1 + i) = _
        congr 1
        omega

theorem get_connected (s : SqlAdapters × Connections) (cfg : Database) (adapter : Adapter)
    (name : String) :
    (connected s cfg adapter).1.get name =
      if cfg.aliasName = name then some (adapter, s.2.opened) else s.1.get name := by
  by_cases same : cfg.aliasName = name
  · subst same
    simp [get, connected]
  · simp [get, connected, same, Finmap.lookup_insert_of_ne _ (Ne.symm same)]

/-- What `Get` returns, by the name of the adapter and the number of the connection. -/
def found (entry : Adapter × Nat) : String × Nat := (entry.1.driverName, entry.2)

/-- The entry that a database makes when it is the one opened at this position. -/
def entry (at_ : Database × Nat) : String × String × Nat :=
  (at_.1.aliasName, at_.1.adapter, at_.2)

theorem get_foldlM {databases : List Database}
    (run : databases.foldlM (connectDatabase connects) s = .ok s') (name : String) :
    (s'.1.get name).map found =
      (lastWrite ((databases.zipIdx s.2.opened).map entry) name).or
        ((s.1.get name).map found) := by
  induction databases generalizing s with
  | nil =>
      cases run
      rfl
  | cons cfg databases ih =>
      rw [List.foldlM_cons] at run
      cases first : connectDatabase connects s cfg with
      | error err =>
          rw [first] at run
          cases run
      | ok next =>
          rw [first] at run
          obtain ⟨adapter, isFound, -, rfl⟩ := connectDatabase_eq_ok_iff.mp first
          have chosen := List.find?_some isFound
          have driver : adapter.driverName = cfg.adapter := of_decide_eq_true chosen
          rw [ih run, get_connected, List.zipIdx_cons, List.map_cons, lastWrite_cons,
            Option.or_assoc]
          congr 1
          by_cases same : cfg.aliasName = name
          · simp [same, entry, found, driver]
          · simp [same, entry]

end GoOdin.Adapters.SqlAdapters
