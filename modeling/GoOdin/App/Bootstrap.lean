import GoOdin.Adapters.Connect
import GoOdin.App.Config
import GoOdin.Hooks.Hook
import Mathlib.Data.List.Permutation

/-!
# `BaseApp.Bootstrap` and the connections of an application

Two handlers run when an application has been bootstrapped: both read the configuration, and
the second also connects to the databases. The hook executes them in the order of its map, so
either may come first, and the file may change between the two readings: they are numbered.

A panic ends the process, so the handlers and what follows them return one instead of a
state. What a database answers when it is opened is given for its position, and so are the
package that validates the configuration and its errors.
-/

namespace GoOdin.App

open Interaction MapRange Memory Hooks Adapters Validation

variable {V : Type} {E : Type*}

/-- `RegisteredSQLAdapters`. -/
def registeredSQLAdapters : List Adapter :=
  [⟨0, "postgres-sql/db"⟩, ⟨1, "mysql"⟩, ⟨2, "postgres-gorm"⟩, ⟨3, "sqlite"⟩, ⟨4, "sqlite-gorm"⟩]

/-- The adapters whose `Connect` returns a `*gorm.DB`; the others return a `*sql.DB`. -/
def isGorm (driverName : String) : Bool :=
  driverName = "postgres-gorm" || driverName = "sqlite-gorm"

inductive OpenError (E : Type*) where
  /-- `sqlite requires a file path via 'path' or 'database_name' config field` -/
  | noPath
  | other (err : E)

/-- What opening the i-th database returns. -/
def Config.opens (config : Config) (answers : Nat → Option E) (i : Nat) : Option (OpenError E) :=
  match config.databases[i]? with
  | none => none
  | some database =>
      if database.isSQLite && database.path = "" && database.databaseName = "" then some .noPath
      else (answers i).map .other

inductive Panic (V : Type) (E : Type*) where
  | config (reason : ConfigPanic V)
  /-- `cannot find adapter for type %s` -/
  | noAdapter (dbType : String)
  /-- An empty panic, after the error was logged. -/
  | connect (logged : SqlError (OpenError E))
  /-- `datamanagerfx: connection alias %q is not a *gorm.DB` -/
  | notGorm (aliasName : String)
  | nilDereference

/-- `datamanager.DataManager`, the first version. -/
structure DataManager where
  adapter : Finmap fun _ : String => SqlAdapters

namespace DataManager

def new : DataManager := ⟨∅⟩

def addAdapter (d : DataManager) (key : String) (adapter : SqlAdapters) : DataManager :=
  ⟨d.adapter.insert key adapter⟩

def get (d : DataManager) (dbType connectionName : String) :
    Except (Panic V E) (Option (Adapter × Nat)) :=
  match d.adapter.lookup dbType with
  | none => .error (.noAdapter dbType)
  | some adapter => .ok (adapter.get connectionName)

def connect (d : DataManager) (dbType : String) (connects : Nat → Option (OpenError E))
    (w : Connections) : Except (Panic V E) (DataManager × Connections) :=
  match d.adapter.lookup dbType with
  | none => .error (.noAdapter dbType)
  | some adapter =>
      match adapter.connect connects w with
      | .error err => .error (.connect err)
      | .ok (adapter, w) => .ok (d.addAdapter dbType adapter, w)

end DataManager

def initDatasource (config : Config) (answers : Nat → Option E) :
    Except (Panic V E) (DataManager × Connections) :=
  (DataManager.new.addAdapter "sql" (.new config.settings registeredSQLAdapters)).connect "sql"
    (config.opens answers) .start

/-- `ProvideGorm`. -/
def provideGorm (aliasName : String) (dm : DataManager) : Except (Panic V E) Nat := do
  match ← dm.get "sql" aliasName with
  | some (adapter, db) => if isGorm adapter.driverName then pure db else .error (.notGorm aliasName)
  | none => .error (.notGorm aliasName)

/-! ### The hook -/

/-- The handlers that `Bootstrap` adds. -/
inductive BootHandler where
  | loadCfg
  | bootstrap
deriving DecidableEq

/-- What the handlers write, and how often the file was read. -/
structure Booting where
  reads : Nat
  config : Option Config
  data : Option DataManager

def loadConfig (v : Package V) (files : Nat → ConfigFile) (app : Booting) :
    Except (Panic V E) (Config × Booting) :=
  match newConfig v (files app.reads) with
  | .error reason => .error (.config reason)
  | .ok config => .ok (config, { app with reads := app.reads + 1, config := some config })

def BootHandler.run (v : Package V) (files : Nat → ConfigFile) (answers : Nat → Option E)
    (app : Booting) : BootHandler → Except (Panic V E) Booting
  | .loadCfg => do
      let (_, app) ← loadConfig v files app
      pure app
  | .bootstrap => do
      let (config, app) ← loadConfig v files app
      let (data, _) ← initDatasource config answers
      pure { app with data := some data }

def onAfterApplicationBootstrapped : Hook BootHandler :=
  Hook.new.addAll [("a_load_cfg", .loadCfg), ("b_bootstrap", .bootstrap)]

/-- `Execute` of the hook: its handlers return nil or panic. -/
def boot (v : Package V) (order : RangeOrder onAfterApplicationBootstrapped.handlers)
    (files : Nat → ConfigFile) (answers : Nat → Option E) : Except (Panic V E) Booting :=
  (onAfterApplicationBootstrapped.execute order (fun _ => (none : Option (HookError E))) ()
    ).calls.foldlM (fun app call => call.handler.run v files answers app) ⟨0, none, none⟩

/-! ### Connecting -/

namespace Config

/-- Every database names a registered adapter and opens. -/
def Opens (config : Config) (answers : Nat → Option E) : Prop :=
  ∀ i database, config.databases[i]? = some database →
    database.adapter ∈ registeredSQLAdapters.map Adapter.driverName ∧
      (database.isSQLite = true → database.path = "" → database.databaseName ≠ "") ∧
      answers i = none

/-- The adapter and the position of the last database with this alias. -/
def lastWithAlias (config : Config) (aliasName : String) : Option (String × Nat) :=
  lastWrite (config.databases.zipIdx.map fun at_ => (at_.1.aliasName, at_.1.adapter, at_.2))
    aliasName

end Config

variable {config : Config} {answers : Nat → Option E} {name : String}

theorem Config.opens_eq_none {i : Nat} {database : Database}
    (at_ : config.databases[i]? = some database) :
    config.opens answers i = none ↔
      (database.isSQLite = true → database.path = "" → database.databaseName ≠ "") ∧
        answers i = none := by
  rw [opens, at_]
  show (if _ then _ else _) = none ↔ _
  split
  · next bare =>
      simp only [Bool.and_eq_true, decide_eq_true_eq] at bare
      exact iff_of_false nofun fun ok => ok.1 bare.1.1 bare.1.2 bare.2
  · next named =>
      simp only [Bool.and_eq_true, decide_eq_true_eq, not_and] at named
      rw [Option.map_eq_none_iff]
      exact ⟨fun opened => ⟨fun lite path => named ⟨lite, path⟩, opened⟩, And.right⟩

theorem getAdapterByDriver_ne_none {driver : String} :
    (SqlAdapters.new config.settings registeredSQLAdapters).getAdapterByDriver driver ≠ none ↔
      driver ∈ registeredSQLAdapters.map Adapter.driverName := by
  simp only [SqlAdapters.getAdapterByDriver, SqlAdapters.new, ne_eq, List.find?_eq_none,
    decide_eq_true_eq, List.mem_map, not_forall, not_not, exists_prop]

/-- `Connect` of a new application is the loop over all databases. -/
def connectAll (config : Config) (answers : Nat → Option E) :
    Except (SqlError (OpenError E)) (SqlAdapters × Connections) :=
  (config.databases.map Database.settings).foldlM
    (SqlAdapters.connectDatabase (config.opens answers))
    (.new config.settings registeredSQLAdapters, .start)

theorem initDatasource_eq_ok_iff {data : DataManager} {w : Connections} :
    initDatasource (V := V) config answers = .ok (data, w) ↔
      ∃ adapter, connectAll config answers = .ok (adapter, w) ∧
        data = ⟨(∅ : Finmap fun _ : String => SqlAdapters).insert "sql" adapter⟩ := by
  have same : (SqlAdapters.new config.settings registeredSQLAdapters).connect
      (config.opens answers) .start = connectAll config answers := by
    rw [SqlAdapters.connect_eq_foldlM, Config.databases_settings]
    rfl
  simp only [initDatasource, DataManager.connect, DataManager.addAdapter, Finmap.lookup_insert,
    same]
  cases connectAll config answers with
  | error err => exact iff_of_false nofun (by rintro ⟨_, ⟨⟩, -⟩)
  | ok result =>
      obtain ⟨adapter, w'⟩ := result
      simp [DataManager.new, eq_comm, and_comm]

theorem get_sql (adapter : SqlAdapters) (name : String) :
    (DataManager.mk ((∅ : Finmap fun _ : String => SqlAdapters).insert "sql" adapter)
      ).get (V := V) (E := E) "sql" name = .ok (adapter.get name) := by
  simp [DataManager.get]

theorem initDatasource_isOk :
    (∃ data w, initDatasource (V := V) config answers = .ok (data, w)) ↔ config.Opens answers := by
  have all := SqlAdapters.foldlM_connectDatabase_iff (config.opens answers)
    (config.databases.map Database.settings)
    (.new config.settings registeredSQLAdapters, .start)
  have connects : (∃ data w, initDatasource (V := V) config answers = .ok (data, w)) ↔
      ∃ s, connectAll config answers = .ok s := by
    constructor
    · rintro ⟨data, w, ran⟩
      obtain ⟨adapter, ran, -⟩ := initDatasource_eq_ok_iff.mp ran
      exact ⟨_, ran⟩
    · rintro ⟨⟨adapter, w⟩, ran⟩
      exact ⟨_, w, initDatasource_eq_ok_iff.mpr ⟨adapter, ran, rfl⟩⟩
  refine (connects.trans all).trans ?_
  constructor
  · intro opens i database at_
    have here := opens i database.settings (by rw [List.getElem?_map, at_]; rfl)
    rw [getAdapterByDriver_ne_none, Connections.start, Nat.zero_add, Config.opens_eq_none at_]
      at here
    exact here
  · intro opens i cfg at_
    rw [List.getElem?_map, Option.map_eq_some_iff] at at_
    obtain ⟨database, at_, rfl⟩ := at_
    rw [getAdapterByDriver_ne_none, Connections.start, Nat.zero_add, Config.opens_eq_none at_]
    exact opens i database at_

/-- `ProvideGorm` looks at the last database with the alias. -/
theorem provideGorm_eq_ok_iff {data : DataManager} {w : Connections}
    (ran : initDatasource (V := V) config answers = .ok (data, w)) {db : Nat} :
    provideGorm (V := V) (E := E) name data = .ok db ↔
      ∃ adapter, config.lastWithAlias name = some (adapter, db) ∧ isGorm adapter = true := by
  obtain ⟨adapter, connected, rfl⟩ := initDatasource_eq_ok_iff.mp ran
  have got : (adapter.get name).map SqlAdapters.found = config.lastWithAlias name := by
    have last := SqlAdapters.get_foldlM connected name
    rw [last, Config.lastWithAlias, List.zipIdx_map, List.map_map]
    simp [SqlAdapters.get, SqlAdapters.new]
    rfl
  rw [← got]
  simp only [provideGorm, get_sql]
  cases adapter.get name with
  | none =>
      refine iff_of_false (fun provided => ?_) (by simp)
      cases provided
  | some entry =>
      obtain ⟨opener, number⟩ := entry
      show (if isGorm opener.driverName = true then Except.ok number else _) = _ ↔ _
      cases gorm : isGorm opener.driverName with
      | false =>
          refine iff_of_false (by simp) ?_
          rintro ⟨_, ⟨⟩, isGorm⟩
          exact Bool.false_ne_true (gorm.symm.trans isGorm)
      | true =>
          constructor
          · rintro ⟨⟩
            exact ⟨_, rfl, gorm⟩
          · rintro ⟨_, ⟨⟩, -⟩
            rfl

/-! ### Both orders of the handlers -/

section Boot

variable {v : Package V} {files : Nat → ConfigFile} {app app' : Booting}
variable (order : RangeOrder onAfterApplicationBootstrapped.handlers)

/-- A computation that may panic returns exactly if both of its parts do. -/
theorem bind_eq_ok_iff {P : Type*} {α β : Type} {x : Except P α} {f : α → Except P β} {b : β} :
    x >>= f = .ok b ↔ ∃ a, x = .ok a ∧ f a = .ok b := by
  cases x with
  | error p => exact iff_of_false nofun (by rintro ⟨_, ⟨⟩, -⟩)
  | ok a =>
      constructor
      · exact fun ran => ⟨a, rfl, ran⟩
      · rintro ⟨_, ⟨⟩, ran⟩
        exact ran

theorem loadConfig_eq_ok_iff (laws : v.Laws) :
    loadConfig (E := E) v files app = .ok (config, app') ↔
      files app.reads = .parsed config ∧ config.Valid ∧
        app' = { app with reads := app.reads + 1, config := some config } := by
  rw [← and_assoc, ← newConfig_eq_ok laws, loadConfig]
  cases newConfig v (files app.reads) with
  | error reason => exact iff_of_false nofun (by rintro ⟨⟨⟩, -⟩)
  | ok read =>
      constructor
      · rintro ⟨⟩
        exact ⟨rfl, rfl⟩
      · rintro ⟨⟨⟩, rfl⟩
        rfl

/-- The configuration that the databases are taken from: the one of the first reading if the
second handler happens to run first. -/
def bootstrapConfig (first second : Config) : Config :=
  if order.entries.keys.head? = some "b_bootstrap" then first else second

theorem keys_order : order.entries.keys = ["a_load_cfg", "b_bootstrap"] ∨
    order.entries.keys = ["b_bootstrap", "a_load_cfg"] := by
  rw [← List.perm_pair]
  refine (List.perm_ext_iff_of_nodup order.nodupKeys (by decide)).mpr fun key => ?_
  rw [order.mem_keys]
  exact Hook.mem_addAll

/-- The handlers that run are those of the keys, in the order of the loop. -/
theorem handlers_execute :
    (onAfterApplicationBootstrapped.execute order (fun _ => (none : Option (HookError E))) ()
      ).calls.map Invocation.handler =
        order.entries.keys.filterMap fun key =>
          onAfterApplicationBootstrapped.handlers.lookup key := by
  have keys : (onAfterApplicationBootstrapped.execute order
      (fun _ => (none : Option (HookError E))) ()).calls.map Invocation.key =
        order.entries.keys := Hook.keys_execute order fun _ => rfl
  rw [← keys, List.filterMap_map, ← List.filterMap_eq_map]
  refine List.filterMap_congr fun call invoked => ?_
  exact (Hook.lookup_of_mem_execute order invoked).symm

theorem run_loadCfg_eq_ok_iff (laws : v.Laws) :
    BootHandler.loadCfg.run v files answers app = .ok app' ↔
      ∃ config, files app.reads = .parsed config ∧ config.Valid ∧
        app' = { app with reads := app.reads + 1, config := some config } := by
  simp only [BootHandler.run, bind_eq_ok_iff, Prod.exists, loadConfig_eq_ok_iff laws]
  constructor
  · rintro ⟨config, _, ⟨read, valid, rfl⟩, ⟨⟩⟩
    exact ⟨config, read, valid, rfl⟩
  · rintro ⟨config, read, valid, rfl⟩
    exact ⟨config, _, ⟨read, valid, rfl⟩, rfl⟩

theorem run_bootstrap_eq_ok_iff (laws : v.Laws) :
    BootHandler.bootstrap.run v files answers app = .ok app' ↔
      ∃ config data w, files app.reads = .parsed config ∧ config.Valid ∧
        initDatasource (V := V) config answers = .ok (data, w) ∧
        app' = ⟨app.reads + 1, some config, some data⟩ := by
  simp only [BootHandler.run, bind_eq_ok_iff, Prod.exists, loadConfig_eq_ok_iff laws]
  constructor
  · rintro ⟨config, _, ⟨read, valid, rfl⟩, data, w, ran, ⟨⟩⟩
    exact ⟨config, data, w, read, valid, ran, rfl⟩
  · rintro ⟨config, data, w, read, valid, ran, rfl⟩
    exact ⟨config, _, ⟨read, valid, rfl⟩, data, w, ran, rfl⟩

/-- Both handlers run and read the file; which of the two readings the databases are taken
from depends on the order. -/
theorem boot_eq_ok_iff (laws : v.Laws) :
    boot v order files answers = .ok app ↔
      ∃ first second data w, files 0 = .parsed first ∧ first.Valid ∧
        files 1 = .parsed second ∧ second.Valid ∧
        initDatasource (V := V) (bootstrapConfig order first second) answers = .ok (data, w) ∧
        app = ⟨2, some second, some data⟩ := by
  have folded : boot v order files answers =
      (order.entries.keys.filterMap fun key =>
        onAfterApplicationBootstrapped.handlers.lookup key).foldlM
          (fun app handler => handler.run v files answers app) ⟨0, none, none⟩ := by
    rw [← handlers_execute (E := E), List.foldlM_map, boot]
  have loads : onAfterApplicationBootstrapped.handlers.lookup "a_load_cfg" = some .loadCfg :=
    Hook.lookup_addAll _ _
  have connects : onAfterApplicationBootstrapped.handlers.lookup "b_bootstrap" =
      some .bootstrap := Hook.lookup_addAll _ _
  rw [folded]
  obtain keys | keys := keys_order order
  · have used (first second : Config) : bootstrapConfig order first second = second := by
      rw [bootstrapConfig, keys]
      rfl
    simp only [keys, List.filterMap_cons, loads, connects, List.filterMap_nil, List.foldlM_cons,
      List.foldlM_nil, bind_eq_ok_iff, run_loadCfg_eq_ok_iff laws,
      run_bootstrap_eq_ok_iff laws, used]
    constructor
    · rintro ⟨_, ⟨first, read, valid, rfl⟩, _, ⟨second, data, w, read', valid', ran, rfl⟩, ⟨⟩⟩
      exact ⟨first, second, data, w, read, valid, read', valid', ran, rfl⟩
    · rintro ⟨first, second, data, w, read, valid, read', valid', ran, rfl⟩
      exact ⟨_, ⟨first, read, valid, rfl⟩, _, ⟨second, data, w, read', valid', ran, rfl⟩, rfl⟩
  · have used (first second : Config) : bootstrapConfig order first second = first := by
      rw [bootstrapConfig, keys]
      rfl
    simp only [keys, List.filterMap_cons, loads, connects, List.filterMap_nil, List.foldlM_cons,
      List.foldlM_nil, bind_eq_ok_iff, run_loadCfg_eq_ok_iff laws,
      run_bootstrap_eq_ok_iff laws, used]
    constructor
    · rintro ⟨_, ⟨first, data, w, read, valid, ran, rfl⟩, _, ⟨second, read', valid', rfl⟩, ⟨⟩⟩
      exact ⟨first, second, data, w, read, valid, read', valid', ran, rfl⟩
    · rintro ⟨first, second, data, w, read, valid, read', valid', ran, rfl⟩
      exact ⟨_, ⟨first, data, w, read, valid, ran, rfl⟩, _, ⟨second, read', valid', rfl⟩, rfl⟩

end Boot

end GoOdin.App
