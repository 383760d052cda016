import GoOdin.Adapters.SqlAdapters
import GoOdin.Validation.Fields

/-!
# `config.Config`

The configuration of an application and what `NewConfig` accepts of a file. The errors of a
record are under the `json` names of its fields, or under the Go names where there is none. The
rules are those of a package outside this repository, which is a parameter.

`Config.Validate` does not look at `Monitoring`. It asks nothing of the name of an adapter
either, and of a SQLite database neither a path nor a name. Fields that nothing reads on the
way from the file to a connection are left out, as is the reading of the file itself.
-/

namespace GoOdin.App

open Validation

variable {V : Type}

structure AppConfig where
  name : String
  mode : String
  version : Int

def AppConfig.validate (v : Package V) (config : AppConfig) : Option V :=
  v.validateStruct [
    ("Version", [v.required config.version]),
    ("Name", [v.required config.name]),
    ("Mode", [v.required config.mode, v.oneOf ["development", "production"] config.mode])]

structure Monitoring where
  enableCollectLog : Bool
  enableTelemetry : Bool

structure Database where
  adapter : String
  encoding : String
  databaseName : String
  sslMode : Bool
  aliasName : String
  pool : Int
  schema : String
  host : String
  port : Int
  username : String
  password : String
  path : String

namespace Database

def isSQLite (config : Database) : Bool :=
  config.adapter = "sqlite" || config.adapter = "sqlite-gorm"

def validate (v : Package V) (config : Database) : Option V :=
  if config.isSQLite then
    v.validateStruct [
      ("adapter", [v.required config.adapter]),
      ("alias", [v.required config.aliasName])]
  else
    v.validateStruct [
      ("adapter", [v.required config.adapter]),
      ("encoding", [v.required config.encoding]),
      ("database_name", [v.required config.databaseName]),
      ("ssl_mode", []),
      ("schema", []),
      ("alias", [v.required config.aliasName]),
      ("pool", [v.required config.pool]),
      ("port", [v.required config.port]),
      ("host", [v.required config.host]),
      ("username", [v.required config.username]),
      ("password", [v.required config.password])]

/-- What `SqlAdapters` reads of a database. -/
def settings (config : Database) : Adapters.Database := ⟨config.adapter, config.aliasName⟩

end Database

structure CorsConfig where
  allowedOrigins : List String
  allowedMethods : List String

def CorsConfig.validate (v : Package V) (config : CorsConfig) : Option V :=
  v.validateStruct [
    ("allowed_origins", [v.required config.allowedOrigins]),
    ("allowed_methods", [v.required config.allowedMethods])]

/-- A record is never blank, so `Required` says nothing about `cors`. -/
instance : Blank CorsConfig := ⟨fun _ => false⟩

structure ApiConfig where
  port : Int
  cors : CorsConfig

def ApiConfig.validate (v : Package V) (config : ApiConfig) : Option V :=
  v.validateStruct [
    ("port", [v.required config.port]),
    ("cors", [v.required config.cors, config.cors.validate v])]

structure Config where
  app : AppConfig
  database : Database
  monitoring : Monitoring
  externalDatabases : List Database
  api : ApiConfig

namespace Config

/-- The fields have no rules here but their own `Validate`. -/
def validate (v : Package V) (config : Config) : Option V :=
  v.validateStruct [
    ("app", [config.app.validate v]),
    ("database", [config.database.validate v]),
    ("external_databases", [v.each (config.externalDatabases.map (Database.validate v))]),
    ("apis", [config.api.validate v])]

/-- All databases, the default one first. -/
def databases (config : Config) : List Database := config.database :: config.externalDatabases

/-- What `SqlAdapters` reads of the configuration. -/
def settings (config : Config) : Adapters.Config :=
  ⟨config.database.settings, config.externalDatabases.map Database.settings⟩

theorem databases_settings (config : Config) :
    config.settings.databases = config.databases.map Database.settings := rfl

end Config

/-- What becomes of the file at one reading. -/
inductive ConfigFile where
  | notFound
  | unreadable (msg : String)
  | malformed (msg : String)
  | parsed (config : Config)

/-- The panics of `NewConfig`. -/
inductive ConfigPanic (V : Type) where
  /-- `config not found` -/
  | notFound
  /-- `Config error occured, %s` -/
  | configError (msg : String)
  /-- `error while marshalling to struct %s` -/
  | marshalling (msg : String)
  | invalid (err : V)

def newConfig (v : Package V) : ConfigFile → Except (ConfigPanic V) Config
  | .notFound => .error .notFound
  | .unreadable msg => .error (.configError msg)
  | .malformed msg => .error (.marshalling msg)
  | .parsed config =>
      match config.validate v with
      | some err => .error (.invalid err)
      | none => .ok config

/-! ### What is accepted -/

/-- What `Validate` asks of a database. -/
@[mk_iff]
structure Database.Valid (config : Database) : Prop where
  adapter : config.adapter ≠ ""
  aliasName : config.aliasName ≠ ""
  network : config.isSQLite = false → config.encoding ≠ "" ∧ config.databaseName ≠ "" ∧
    config.pool ≠ 0 ∧ config.port ≠ 0 ∧ config.host ≠ "" ∧ config.username ≠ "" ∧
      config.password ≠ ""

theorem Database.validate_eq_none {v : Package V} (laws : v.Laws) {config : Database} :
    config.validate v = none ↔ config.Valid := by
  rw [Database.valid_iff]
  cases lite : config.isSQLite with
  | true => simp [validate, lite, laws.validateStruct_eq_none, laws.required_eq_none]
  | false =>
      simp only [validate, lite, Bool.false_eq_true, if_false, laws.validateStruct_eq_none,
        List.forall_mem_cons]
      simp [laws.required_eq_none]
      tauto

/-- What `Validate` asks of a configuration. -/
@[mk_iff]
structure Config.Valid (config : Config) : Prop where
  version : config.app.version ≠ 0
  name : config.app.name ≠ ""
  mode : config.app.mode = "development" ∨ config.app.mode = "production"
  databases : ∀ database ∈ config.databases, database.Valid
  port : config.api.port ≠ 0
  origins : config.api.cors.allowedOrigins ≠ []
  methods : config.api.cors.allowedMethods ≠ []

theorem AppConfig.validate_eq_none {v : Package V} (laws : v.Laws) {config : AppConfig} :
    config.validate v = none ↔ config.version ≠ 0 ∧ config.name ≠ "" ∧
      (config.mode = "development" ∨ config.mode = "production") := by
  have mode : config.mode ≠ "" ∧ (config.mode = "" ∨ config.mode = "development" ∨
      config.mode = "production") ↔ config.mode = "development" ∨ config.mode = "production" := by
    constructor
    · rintro ⟨present, blank | valid⟩
      · exact absurd blank present
      · exact valid
    · intro valid
      refine ⟨fun blank => ?_, .inr valid⟩
      rw [blank] at valid
      exact absurd valid (by decide)
  rw [← mode]
  simp [AppConfig.validate, laws.validateStruct_eq_none, laws.required_eq_none,
    laws.oneOf_eq_none]

theorem Config.validate_eq_none {v : Package V} (laws : v.Laws) {config : Config} :
    config.validate v = none ↔ config.Valid := by
  have api : config.api.validate v = none ↔ config.api.port ≠ 0 ∧
      config.api.cors.allowedOrigins ≠ [] ∧ config.api.cors.allowedMethods ≠ [] := by
    simp [ApiConfig.validate, CorsConfig.validate, laws.validateStruct_eq_none,
      laws.required_eq_none, Blank.isBlank]
  rw [Config.valid_iff]
  simp only [validate, databases, laws.validateStruct_eq_none, laws.each_eq_none,
    List.forall_mem_cons, List.forall_mem_map, AppConfig.validate_eq_none laws,
    Database.validate_eq_none laws, api]
  simp
  tauto

/-- `NewConfig` returns exactly the valid configurations, as they are in the file. -/
theorem newConfig_eq_ok {v : Package V} (laws : v.Laws) {file : ConfigFile} {config : Config} :
    newConfig v file = .ok config ↔ file = .parsed config ∧ config.Valid := by
  cases file with
  | parsed read =>
      rw [← Config.validate_eq_none laws, newConfig]
      cases verdict : read.validate v with
      | none =>
          constructor
          · intro same
            cases same
            exact ⟨rfl, verdict⟩
          · rintro ⟨same, -⟩
            cases same
            rfl
      | some err =>
          refine iff_of_false nofun ?_
          rintro ⟨same, valid⟩
          cases same
          exact nomatch verdict.symm.trans valid
  | _ => exact iff_of_false nofun (by rintro ⟨same, -⟩; cases same)

end GoOdin.App
