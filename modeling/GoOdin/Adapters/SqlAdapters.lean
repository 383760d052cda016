import GoOdin.Interaction.MapRange
import GoOdin.Interaction.Run
import GoOdin.Memory.LastWrite

/-!
# `adapters.SqlAdapters`

An adapter is found by the driver's name, opens connections and remembers the one it opened
last; `Close` closes that one. The alias map remembers the adapter of each alias. Both are
tables that keep the last write, so a connection is lost when a driver or an alias is used
a second time.

Connections are numbered in the order in which they are opened. Whether opening one succeeds
is given for its number, and whether a `Close` does for its place in the `range` loop.
`Connect` reports an error and panics, so it either returns or leaves an error behind. The
settings of a database that only its driver reads are left out.
-/

namespace GoOdin.Adapters

open Interaction MapRange Memory

variable {E : Type*}

/-- `Adapter`: one of the objects that were registered. -/
structure Adapter where
  ref : Nat
  driverName : String
deriving DecidableEq

/-- What `config.Database` says to `SqlAdapters`. -/
structure Database where
  adapter : String
  aliasName : String
deriving DecidableEq

structure Config where
  database : Database
  externalDatabases : List Database

/-- All databases, the default one first. -/
def Config.databases (cfg : Config) : List Database :=
  cfg.database :: cfg.externalDatabases

inductive SqlError (E : Type*) where
  /-- `cannot find adapter for %s` -/
  | cannotFind (adapter : String)
  /-- `cannot connect %s database detail=%s` -/
  | cannotConnect (aliasName : String) (detail : E)
  /-- `cannot close database %s detail=%s` -/
  | cannotClose (driverName : String) (detail : E)
deriving DecidableEq

/-- The connections of all adapters: the one that each of them keeps, how many were opened
and those that were closed. -/
structure Connections where
  db : Adapter → Option Nat
  opened : Nat
  closed : List Nat

namespace Connections

def start : Connections := ⟨fun _ => none, 0, []⟩

end Connections

namespace Adapter

def connect (adapter : Adapter) (w : Connections) (result : Option E) :
    Except E (Nat × Connections) :=
  match result with
  | some err => .error err
  | none =>
      .ok (w.opened,
        { w with db := Function.update w.db adapter (some w.opened), opened := w.opened + 1 })

def close (adapter : Adapter) (w : Connections) (result : Option E) : Option E × Connections :=
  match result with
  | some err => (some err, w)
  | none => (none, { w with closed := w.closed ++ (w.db adapter).toList })

end Adapter

structure SqlAdapters where
  adapters : List Adapter
  aliases : Finmap fun _ : String => Adapter
  result : Finmap fun _ : String => Nat
  config : Config

namespace SqlAdapters

def new (cfg : Config) (adapters : List Adapter) : SqlAdapters := ⟨adapters, ∅, ∅, cfg⟩

def getAdapterByDriver (a : SqlAdapters) (driver : String) : Option Adapter :=
  a.adapters.find? (·.driverName = driver)

/-- The new connection, with the adapter that the caller looks up once more. -/
def initConnection (a : SqlAdapters) (connects : Nat → Option E) (w : Connections)
    (cfg : Database) : Except (SqlError E) (Adapter × Nat × Connections) :=
  match a.getAdapterByDriver cfg.adapter with
  | none => .error (.cannotFind cfg.adapter)
  | some adapter =>
      match adapter.connect w (connects w.opened) with
      | .error err => .error (.cannotConnect cfg.aliasName err)
      | .ok (db, w) => .ok (adapter, db, w)

/-- What `Connect` does with one database. -/
def connectDatabase (connects : Nat → Option E) (s : SqlAdapters × Connections)
    (cfg : Database) : Except (SqlError E) (SqlAdapters × Connections) := do
  let (adapter, db, w) ← s.1.initConnection connects s.2 cfg
  pure ({ s.1 with
    result := s.1.result.insert cfg.aliasName db
    aliases := s.1.aliases.insert cfg.aliasName adapter }, w)

def connect (a : SqlAdapters) (connects : Nat → Option E) (w : Connections) :
    Except (SqlError E) (SqlAdapters × Connections) := do
  let s ← connectDatabase connects (a, w) a.config.database
  a.config.externalDatabases.foldlM (connectDatabase connects) s

/-- One round of the loop in `Disconnect`. -/
def closeOne (closes : Nat → Option E) (s : List (SqlError E) × Connections)
    (entry : (_ : String) × Adapter) (i : Nat) : List (SqlError E) × Connections :=
  match entry.2.close s.2 (closes i) with
  | (some err, w) => (s.1 ++ [.cannotClose entry.2.driverName err], w)
  | (none, w) => (s.1, w)

def disconnect (a : SqlAdapters) (order : RangeOrder a.aliases) (closes : Nat → Option E)
    (w : Connections) : List (SqlError E) × Connections :=
  runFrom (fun s entry => closeOne closes s entry.1 entry.2) ([], w) order.entries.zipIdx

variable {connects closes : Nat → Option E} {a a' : SqlAdapters} {w w' : Connections}

/-! ### Connecting -/

/-- All that connecting to one database can do without an error. -/
theorem connectDatabase_eq_ok {cfg : Database}
    (run : connectDatabase connects (a, w) cfg = .ok (a', w')) :
    ∃ adapter, a.getAdapterByDriver cfg.adapter = some adapter ∧
      a' = { a with
        result := a.result.insert cfg.aliasName w.opened
        aliases := a.aliases.insert cfg.aliasName adapter } ∧
      w' = { w with
        db := Function.update w.db adapter (some w.opened)
        opened := w.opened + 1 } := by
  cases found : a.getAdapterByDriver cfg.adapter with
  | none =>
      simp only [connectDatabase, initConnection, found] at run
      cases run
  | some adapter =>
      cases result : connects w.opened with
      | some err =>
          simp only [connectDatabase, initConnection, found, Adapter.connect, result] at run
          cases run
      | none =>
          simp only [connectDatabase, initConnection, found, Adapter.connect, result] at run
          cases run
          exact ⟨adapter, rfl, rfl, rfl⟩

/-- What connecting to these databases leaves behind, as two tables: the connections by
adapter and the adapters by alias. -/
structure Connected (a : SqlAdapters) (w : Connections) (databases : List Database)
    (picks : List Adapter) (a' : SqlAdapters) (w' : Connections) : Prop where
  picked : databases.map (fun cfg => a.getAdapterByDriver cfg.adapter) = picks.map some
  opened : w'.opened = w.opened + picks.length
  closed : w'.closed = w.closed
  db : ∀ adapter, w'.db adapter =
    (lastWrite (picks.zipIdx w.opened) adapter).or (w.db adapter)
  aliases : ∀ name, a'.aliases.lookup name =
    (lastWrite ((databases.map Database.aliasName).zip picks) name).or (a.aliases.lookup name)

theorem exists_connected {databases : List Database}
    (run : databases.foldlM (connectDatabase connects) (a, w) = .ok (a', w')) :
    ∃ picks, Connected a w databases picks a' w' := by
  induction databases generalizing a w with
  | nil =>
      cases run
      exact ⟨[], rfl, rfl, rfl, fun _ => rfl, fun _ => rfl⟩
  | cons cfg databases ih =>
      rw [List.foldlM_cons] at run
      cases first : connectDatabase connects (a, w) cfg with
      | error err =>
          rw [first] at run
          cases run
      | ok next =>
          rw [first] at run
          obtain ⟨a₁, w₁⟩ := next
          obtain ⟨adapter, found, rfl, rfl⟩ := connectDatabase_eq_ok first
          obtain ⟨picks, rest⟩ := ih run
          refine ⟨adapter :: picks, ?_, ?_, rest.closed, fun other => ?_, fun name => ?_⟩
          · rw [List.map_cons, List.map_cons, found]
            exact congrArg _ rest.picked
          · have := rest.opened
            simp only [List.length_cons] at this ⊢
            omega
          · rw [rest.db, List.zipIdx_cons, lastWrite_cons, Option.or_assoc]
            congr 1
            by_cases same : adapter = other
            · subst same
              simp
            · simp [same, Function.update_of_ne (Ne.symm same)]
          · rw [rest.aliases, List.map_cons, List.zip_cons_cons, lastWrite_cons, Option.or_assoc]
            congr 1
            by_cases same : cfg.aliasName = name
            · subst same
              simp
            · simp [same, Finmap.lookup_insert_of_ne _ (Ne.symm same)]

theorem connect_eq_foldlM (cfg : Config) (adapters : List Adapter) (connects : Nat → Option E)
    (w : Connections) :
    (new cfg adapters).connect connects w =
      cfg.databases.foldlM (connectDatabase connects) (new cfg adapters, w) := by
  rw [Config.databases, List.foldlM_cons]
  rfl

/-- One connection is opened for each database. -/
theorem Connected.opened_eq {databases : List Database} {picks : List Adapter}
    (connected : Connected a w databases picks a' w') :
    w'.opened = w.opened + databases.length := by
  have count := congrArg List.length connected.picked
  rw [List.length_map, List.length_map] at count
  rw [connected.opened, count]

/-- An adapter is picked for one driver name only, and a name always picks the same one. -/
theorem Connected.nodup_picks_iff {databases : List Database} {picks : List Adapter}
    (connected : Connected a w databases picks a' w') :
    picks.Nodup ↔ (databases.map Database.adapter).Nodup := by
  have names : picks.map (fun adapter => adapter.driverName) =
      databases.map Database.adapter := by
    have picked := connected.picked
    clear connected
    induction databases generalizing picks with
    | nil => cases picks with
      | nil => rfl
      | cons adapter picks => cases picked
    | cons cfg databases ih => cases picks with
      | nil => cases picked
      | cons adapter picks =>
          rw [List.map_cons, List.map_cons, List.cons_eq_cons] at picked
          have found := List.find?_some picked.1
          rw [List.map_cons, List.map_cons, ih picked.2, of_decide_eq_true found]
  constructor
  · intro distinct
    refine List.Nodup.of_map a.getAdapterByDriver ?_
    rw [List.map_map]
    exact connected.picked ▸ distinct.map (Option.some_injective _)
  · intro distinct
    exact List.Nodup.of_map _ (names ▸ distinct)

/-! ### Disconnecting -/

theorem closeOne_of_success {s : List (SqlError E) × Connections}
    {entry : (_ : String) × Adapter} {i : Nat} (succeeds : closes i = none) :
    closeOne closes s entry i =
      (s.1, { s.2 with closed := s.2.closed ++ (s.2.db entry.2).toList }) := by
  rw [closeOne, succeeds]
  rfl

/-- When every `Close` succeeds, what is closed are the connections that the visited adapters
keep. -/
theorem runFrom_closeOne (succeed : ∀ i, closes i = none)
    (s : List (SqlError E) × Connections) (entries : List (((_ : String) × Adapter) × Nat)) :
    runFrom (fun s entry => closeOne closes s entry.1 entry.2) s entries =
      (s.1, { s.2 with
        closed := s.2.closed ++
          (entries.map Prod.fst).flatMap fun entry => (s.2.db entry.2).toList }) := by
  induction entries generalizing s with
  | nil => simp
  | cons entry entries ih =>
      rw [runFrom_cons, closeOne_of_success (succeed _), ih]
      simp

/-- A connection is closed exactly if it is kept by an adapter that still has an alias. -/
theorem mem_closed_disconnect (succeed : ∀ i, closes i = none) (fresh : w.closed = [])
    (order : RangeOrder a.aliases) (c : Nat) :
    c ∈ (a.disconnect order closes w).2.closed ↔
      ∃ name adapter, a.aliases.lookup name = some adapter ∧ w.db adapter = some c := by
  rw [disconnect, runFrom_closeOne succeed, List.zipIdx_map_fst, fresh]
  show c ∈ [] ++ order.entries.flatMap _ ↔ _
  rw [List.nil_append, List.mem_flatMap]
  constructor
  · rintro ⟨⟨name, adapter⟩, visited, kept⟩
    exact ⟨name, adapter, order.mem_entries.mp visited, Option.mem_toList.mp kept⟩
  · rintro ⟨name, adapter, found, kept⟩
    exact ⟨⟨name, adapter⟩, order.mem_entries.mpr found, Option.mem_toList.mpr kept⟩

/-- For every configuration, all registered adapters and every order of the alias map, when
`Connect` completes and every `Close` succeeds: `Disconnect` closes every connection that was
opened exactly if no two databases share a driver and no two share an alias. -/
theorem disconnect_closes_all_iff (cfg : Config) (adapters : List Adapter)
    (connects closes : Nat → Option E)
    (completes : (new cfg adapters).connect connects .start = .ok (a, w))
    (succeed : ∀ i, closes i = none) (order : RangeOrder a.aliases) :
    (∀ c < w.opened, c ∈ (a.disconnect order closes w).2.closed) ↔
      (cfg.databases.map Database.adapter).Nodup ∧
        (cfg.databases.map Database.aliasName).Nodup := by
  rw [connect_eq_foldlM] at completes
  obtain ⟨picks, connected⟩ := exists_connected completes
  have count : (cfg.databases.map Database.aliasName).length = picks.length := by
    have := congrArg List.length connected.picked
    simpa using this
  have reached (c : Nat) : c ∈ (a.disconnect order closes w).2.closed ↔
      ∃ name adapter,
        lastWrite ((cfg.databases.map Database.aliasName).zip picks) name = some adapter ∧
          lastWrite picks.zipIdx adapter = some c := by
    rw [mem_closed_disconnect succeed connected.closed]
    simp only [connected.aliases, connected.db]
    simp [new, Connections.start]
  have whole := forall_reached_iff ((cfg.databases.map Database.aliasName).zip picks)
  rw [List.map_snd_zip (Nat.le_of_eq count.symm), List.map_fst_zip (Nat.le_of_eq count),
    List.length_zip, count, Nat.min_self, connected.nodup_picks_iff] at whole
  rw [connected.opened, ← whole]
  simp only [Connections.start, Nat.zero_add]
  exact forall₂_congr fun c _ => reached c

/-- The databases of the test: one driver for each, and every connection is closed. -/
theorem disconnect_closes_all_iff_two_drivers :
    let cfg : Config := ⟨⟨"test_adapter", "test"⟩, [⟨"test_adapter_2", "test_2"⟩]⟩
    ∃ a w, (new cfg [⟨0, "test_adapter"⟩, ⟨1, "test_adapter_2"⟩]).connect
        (fun _ => (none : Option String)) .start = .ok (a, w) ∧ w.opened = 2 ∧
      ∀ order : RangeOrder a.aliases,
        ∀ c < w.opened, c ∈ (a.disconnect order (fun _ => (none : Option String)) w).2.closed := by
  intro cfg
  obtain ⟨⟨a, w⟩, completes⟩ : ∃ s, (new cfg [⟨0, "test_adapter"⟩, ⟨1, "test_adapter_2"⟩]).connect
      (fun _ => (none : Option String)) .start = .ok s := ⟨_, rfl⟩
  have folded := completes
  rw [connect_eq_foldlM] at folded
  obtain ⟨picks, connected⟩ := exists_connected folded
  refine ⟨a, w, completes, connected.opened_eq, fun order => ?_⟩
  exact (disconnect_closes_all_iff cfg _ _ _ completes (fun _ => rfl) order).mpr (by decide)

/-- Two databases with the same driver: the connection to the first is never closed. -/
theorem disconnect_leaves_first_open :
    let cfg : Config :=
      ⟨⟨"postgres-gorm", "default"⟩, [⟨"postgres-gorm", "analytics"⟩]⟩
    ∃ a w, (new cfg [⟨0, "postgres-sql/db"⟩, ⟨1, "postgres-gorm"⟩]).connect
        (fun _ => (none : Option String)) .start = .ok (a, w) ∧ w.opened = 2 ∧
      ∀ order : RangeOrder a.aliases,
        0 ∉ (a.disconnect order (fun _ => (none : Option String)) w).2.closed := by
  intro cfg
  obtain ⟨⟨a, w⟩, completes⟩ : ∃ s, (new cfg [⟨0, "postgres-sql/db"⟩, ⟨1, "postgres-gorm"⟩]).connect
      (fun _ => (none : Option String)) .start = .ok s := ⟨_, rfl⟩
  have folded := completes
  rw [connect_eq_foldlM] at folded
  obtain ⟨picks, connected⟩ := exists_connected folded
  refine ⟨a, w, completes, connected.opened_eq, fun order isClosed => ?_⟩
  obtain ⟨name, adapter, -, kept⟩ :=
    (mem_closed_disconnect (fun _ => rfl) connected.closed order 0).mp isClosed
  have same : picks = [⟨1, "postgres-gorm"⟩, ⟨1, "postgres-gorm"⟩] :=
    List.map_injective_iff.mpr (Option.some_injective _) connected.picked.symm
  rw [connected.db, same] at kept
  by_cases own : (⟨1, "postgres-gorm"⟩ : Adapter) = adapter
  · simp [lastWrite, own, Connections.start] at kept
  · simp [lastWrite, own, Connections.start] at kept

end SqlAdapters

end GoOdin.Adapters
