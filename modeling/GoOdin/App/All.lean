import GoOdin.App.Bootstrap
import GoOdin.Monitoring.Otel

/-!
# The command `all`

The command bootstraps the application, runs the telemetry and the NATS driver and lets the
container build the server, which needs the database of the loyalty domain. It goes on when
NATS cannot be reached. When it can be reached, but without the stream that the listener
consumes, the nil consumer ends the process.

What the container builds besides the database handle and the calls of the running server are
left out, as is the responder for order details, whose errors are only logged. `NewCommands` has
the command commented out at present.
-/

namespace GoOdin.App

open Interaction MapRange Drivers Telemetry Validation

variable {V : Type} {E : Type*}

/-- What NATS answers while its driver starts: errors, and whether the connection is up. -/
structure NatsAnswers where
  connect : Option String
  isConnected : Bool
  jetstream : Option String
  createConsumer : Option String

/-- `NatsInfrastructureImpl` after its `Init`: whether `jetstream` is set. -/
structure NatsInfrastructure where
  jetstream : Bool

def NatsInfrastructure.init (answers : NatsAnswers) : Except String NatsInfrastructure :=
  match answers.connect with
  | some err => .error err
  | none =>
      if answers.isConnected then
        match answers.jetstream with
        | some err => .error err
        | none => .ok ⟨true⟩
      else .ok ⟨false⟩

/-- `SubscribeEphemeral`: an error of `CreateOrUpdateConsumer` is logged, and the nil consumer
is used all the same. -/
def subscribeEphemeral (infra : NatsInfrastructure) (answers : NatsAnswers) :
    Except (Panic V E) Unit :=
  if infra.jetstream then
    match answers.createConsumer with
    | some _ => .error .nilDereference
    | none => .ok ()
  else .error .nilDereference

/-- Without a `*gorm.DB` under the alias the responder for order details is skipped. -/
def registerListener (infra : NatsInfrastructure) (answers : NatsAnswers) (data : DataManager) :
    Except (Panic V E) Unit := do
  subscribeEphemeral infra answers
  let _ ← data.get "sql" "gorm"
  pure ()

namespace NatsMessaging

/-- `Init`, which returns an error or panics. -/
def init (answers : NatsAnswers) (data : DataManager) : Except (Panic V E) (Option String) :=
  match NatsInfrastructure.init answers with
  | .error err => .ok (some err)
  | .ok infra => do
      registerListener infra answers data
      pure none

/-- The driver as the manager sees it. `Instance()` is the infrastructure. -/
def driver : IDriver Unit := ⟨1, "NATS_DRIVER", some ()⟩

end NatsMessaging

/-- How the process ends early. -/
inductive Halt (V : Type) (E : Type*) where
  | panic (reason : Panic V E)
  | exit (code : Nat)

structure Started where
  config : Config
  /-- The connection that the loyalty domain works on. -/
  connection : Nat
  manager : Manager Unit

/-- Telemetry, if it is enabled; its failure ends the process. -/
def runOtel (config : Config) (telemetry : Answers E) (m : Manager Unit) :
    Except (Halt V E) (Manager Unit) :=
  if config.monitoring.enableTelemetry then
    match (Otel.new.init config.monitoring telemetry .start).1 with
    | [] => .ok (m.serve (E := List E) (.runDriver (some (Otel.driver 0)) none)).1
    | _ => .error (.exit 1)
  else .ok m

/-- `RunE` up to the moment at which the server can be built. -/
def runE (v : Package V) (order : RangeOrder onAfterApplicationBootstrapped.handlers)
    (files : Nat → ConfigFile) (answers : Nat → Option E) (telemetry : Answers E)
    (nats : NatsAnswers) : Except (Halt V E) Started := do
  match ← (boot v order files answers).mapError .panic with
  | ⟨_, some config, some data⟩ =>
      let m ← runOtel config telemetry .new
      let err ← (NatsMessaging.init nats data).mapError .panic
      let connection ← (provideGorm "gorm" data).mapError .panic
      pure ⟨config, connection, (m.serve (.runDriver (some NatsMessaging.driver) err)).1⟩
  | _ => .error (.panic .nilDereference)

/-! ### When it starts -/

namespace NatsAnswers

/-- The driver gets as far as its listener. -/
def serves (nats : NatsAnswers) : Bool :=
  nats.connect.isNone && nats.isConnected && nats.jetstream.isNone

/-- NATS is down, or it is up with the stream of the listener. -/
structure Harmless (nats : NatsAnswers) : Prop where
  connected : nats.connect = none → nats.isConnected = true
  consumer : nats.serves = true → nats.createConsumer = none

end NatsAnswers

variable {config : Config} {data : DataManager} {nats : NatsAnswers} {telemetry : Answers E}

theorem mapError_eq_ok_iff {P Q : Type*} {α : Type} {f : P → Q} {x : Except P α} {a : α} :
    x.mapError f = .ok a ↔ x = .ok a := by
  cases x <;> simp [Except.mapError]

theorem runOtel_eq_ok_iff {m m' : Manager Unit} :
    runOtel (V := V) config telemetry m = .ok m' ↔
      (config.monitoring.enableTelemetry = true →
        (setupOTelSDK config.monitoring telemetry .start).err = []) ∧
      m' = ⟨m.drivers ++ if config.monitoring.enableTelemetry then [Otel.driver 0] else []⟩ := by
  cases enabled : config.monitoring.enableTelemetry with
  | false =>
      simp only [runOtel, enabled, Bool.false_eq_true, if_false, false_implies, true_and,
        List.append_nil, Except.ok.injEq]
      exact eq_comm
  | true =>
      have init : (Otel.new.init config.monitoring telemetry .start).1 =
          (setupOTelSDK config.monitoring telemetry .start).err := by
        simp only [Otel.init]
        split
        · next nothing => exact nothing.symm
        · rfl
      simp only [runOtel, enabled, if_true, init, true_implies]
      cases (setupOTelSDK config.monitoring telemetry .start).err with
      | nil => simp [Manager.serve, Manager.runDriver, eq_comm]
      | cons err errs => simp

/-- The driver fails without harm, or its listener gets a consumer. -/
theorem nats_init_eq_ok_iff {entry : Option (Adapters.Adapter × Nat)}
    (connected : data.get (V := V) (E := E) "sql" "gorm" = .ok entry) {err : Option String} :
    NatsMessaging.init (V := V) (E := E) nats data = .ok err ↔
      nats.Harmless ∧ err = nats.connect.or nats.jetstream := by
  obtain ⟨connect, isConnected, jetstream, createConsumer⟩ := nats
  cases connect with
  | some reason =>
      have harmless : NatsAnswers.Harmless ⟨some reason, isConnected, jetstream, createConsumer⟩ :=
        ⟨nofun, nofun⟩
      simp [NatsMessaging.init, NatsInfrastructure.init, harmless, eq_comm]
  | none =>
      cases isConnected with
      | false =>
          have down : NatsMessaging.init (V := V) (E := E)
              ⟨none, false, jetstream, createConsumer⟩ data = .error .nilDereference := rfl
          rw [down]
          exact iff_of_false nofun fun ok => nomatch ok.1.connected rfl
      | true =>
          cases jetstream with
          | some reason =>
              have harmless : NatsAnswers.Harmless ⟨none, true, some reason, createConsumer⟩ :=
                ⟨fun _ => rfl, nofun⟩
              simp [NatsMessaging.init, NatsInfrastructure.init, harmless, eq_comm]
          | none =>
              cases createConsumer with
              | some reason =>
                  have nilConsumer : NatsMessaging.init (V := V) (E := E)
                      ⟨none, true, none, some reason⟩ data = .error .nilDereference := rfl
                  rw [nilConsumer]
                  exact iff_of_false nofun fun ok => nomatch ok.1.consumer rfl
              | none =>
                  have harmless : NatsAnswers.Harmless ⟨none, true, none, none⟩ :=
                    ⟨fun _ => rfl, fun _ => rfl⟩
                  have ran : NatsMessaging.init (V := V) (E := E) ⟨none, true, none, none⟩ data =
                      .ok none := by
                    simp [NatsMessaging.init, NatsInfrastructure.init, registerListener,
                      subscribeEphemeral, connected]
                    rfl
                  simp [ran, harmless, eq_comm]

theorem serves_iff (harmless : nats.Harmless) :
    nats.connect.or nats.jetstream = none ↔ nats.serves = true := by
  simp only [NatsAnswers.serves, Option.or_eq_none_iff, Bool.and_eq_true, Option.isNone_iff_eq_none]
  exact ⟨fun up => ⟨⟨up.1, harmless.connected up.1⟩, up.2⟩, fun up => ⟨up.1.1, up.2⟩⟩

theorem runE_eq_ok_iff {v : Package V} {order : RangeOrder onAfterApplicationBootstrapped.handlers}
    {files : Nat → ConfigFile} {answers : Nat → Option E} {started : Started} :
    runE v order files answers telemetry nats = .ok started ↔
      ∃ reads config data m err connection,
        boot v order files answers = .ok ⟨reads, some config, some data⟩ ∧
        runOtel (V := V) config telemetry .new = .ok m ∧
        NatsMessaging.init (V := V) (E := E) nats data = .ok err ∧
        provideGorm (V := V) (E := E) "gorm" data = .ok connection ∧
        started = ⟨config, connection,
          (m.serve (.runDriver (some NatsMessaging.driver) err)).1⟩ := by
  rw [runE, bind_eq_ok_iff]
  simp only [mapError_eq_ok_iff]
  constructor
  · rintro ⟨⟨reads, _ | config, _ | data⟩, booted, rest⟩
    case some.some =>
      simp only [bind_eq_ok_iff, mapError_eq_ok_iff] at rest
      obtain ⟨m, otel, err, ran, connection, provided, ⟨⟩⟩ := rest
      exact ⟨reads, config, data, m, err, connection, booted, otel, ran, provided, rfl⟩
    all_goals cases rest
  · rintro ⟨reads, config, data, m, err, connection, booted, otel, ran, provided, rfl⟩
    refine ⟨_, booted, ?_⟩
    simp only [bind_eq_ok_iff, mapError_eq_ok_iff]
    exact ⟨m, otel, err, ran, connection, provided, rfl⟩

/-- The manager after the NATS driver was run. -/
theorem drivers_nats (m : Manager Unit) (harmless : nats.Harmless) :
    (m.serve (.runDriver (some NatsMessaging.driver) (nats.connect.or nats.jetstream))).1.drivers =
      m.drivers ++ if nats.serves then [NatsMessaging.driver] else [] := by
  rw [Manager.drivers_serve]
  cases up : nats.connect.or nats.jetstream with
  | none => simp [(serves_iff harmless).mp up, Call.closesAll, Call.started]
  | some err =>
      have down : nats.serves = false := by
        rw [Bool.eq_false_iff, ne_eq, ← serves_iff harmless, up]
        simp
      simp [down, Call.closesAll, Call.started]

/-- For every package of validation with its laws, every file at its two readings, every order of
the hook, and whatever the databases, the collector and NATS answer, the command starts exactly
if: both readings are valid; every database of the reading that the second handler saw names a
registered adapter and opens, a SQLite database having a path or a name; the last database under
the alias `gorm` is opened with gorm; telemetry, if the second reading enables it, can be set up;
and NATS is down or has the stream of the listener. The loyalty domain then works on the
connection of that database, and the drivers that run are registered. -/
theorem all_starts_iff {v : Package V} (laws : v.Laws)
    (order : RangeOrder onAfterApplicationBootstrapped.handlers) (files : Nat → ConfigFile)
    (answers : Nat → Option E) (telemetry : Answers E) (nats : NatsAnswers) (started : Started) :
    runE v order files answers telemetry nats = .ok started ↔
      ∃ first second adapter, files 0 = .parsed first ∧ first.Valid ∧
        files 1 = .parsed second ∧ second.Valid ∧
        (bootstrapConfig order first second).Opens answers ∧
        (bootstrapConfig order first second).lastWithAlias "gorm" =
          some (adapter, started.connection) ∧ isGorm adapter = true ∧
        (second.monitoring.enableTelemetry = true →
          (setupOTelSDK second.monitoring telemetry .start).err = []) ∧
        nats.Harmless ∧ started.config = second ∧
        started.manager.drivers =
          (if second.monitoring.enableTelemetry then [Otel.driver 0] else []) ++
            if nats.serves then [NatsMessaging.driver] else [] := by
  rw [runE_eq_ok_iff]
  constructor
  · rintro ⟨reads, config, data, m, err, connection, booted, otel, ran, provided, rfl⟩
    obtain ⟨first, second, data', w, read, valid, read', valid', connected, same⟩ :=
      (boot_eq_ok_iff order laws).mp booted
    cases same
    obtain ⟨enabled, rfl⟩ := runOtel_eq_ok_iff.mp otel
    obtain ⟨sql, -, rfl⟩ := initDatasource_eq_ok_iff.mp connected
    obtain ⟨harmless, rfl⟩ := (nats_init_eq_ok_iff (get_sql sql _)).mp ran
    obtain ⟨adapter, last, gorm⟩ := (provideGorm_eq_ok_iff connected).mp provided
    exact ⟨first, config, adapter, read, valid, read', valid',
      initDatasource_isOk.mp ⟨_, w, connected⟩, last, gorm, enabled, harmless, rfl,
      drivers_nats _ harmless⟩
  · rintro ⟨first, second, adapter, read, valid, read', valid', opens, last, gorm, enabled,
      harmless, same, drivers⟩
    obtain ⟨data, w, connected⟩ := initDatasource_isOk (V := V).mpr opens
    have booted := (boot_eq_ok_iff order laws).mpr
      ⟨first, second, data, w, read, valid, read', valid', connected, rfl⟩
    have provided := (provideGorm_eq_ok_iff connected).mpr ⟨adapter, last, gorm⟩
    obtain ⟨sql, -, rfl⟩ := initDatasource_eq_ok_iff.mp connected
    have ran := (nats_init_eq_ok_iff (get_sql (V := V) (E := E) sql "gorm")).mpr ⟨harmless, rfl⟩
    refine ⟨2, second, _, _, _, _, booted, runOtel_eq_ok_iff.mpr ⟨enabled, rfl⟩, ran, provided, ?_⟩
    obtain ⟨config, connection, ⟨registered⟩⟩ := started
    subst same
    exact congrArg (fun ds => Started.mk config connection ⟨ds⟩)
      (drivers.trans (drivers_nats _ harmless).symm)

/-- One SQLite database, no telemetry. -/
def sampleConfig : Config where
  app := ⟨"goodin", "development", 1⟩
  database := ⟨"sqlite-gorm", "", "", false, "gorm", 0, "", "", 0, "", "", "goodin.db"⟩
  monitoring := ⟨false, false⟩
  externalDatabases := []
  api := ⟨8080, ⟨["*"], ["GET"]⟩⟩

theorem sampleConfig_valid : sampleConfig.Valid where
  version := by decide
  name := by decide
  mode := .inl rfl
  databases := by
    intro database mem
    obtain rfl := List.mem_singleton.mp mem
    exact ⟨by decide, by decide, nofun⟩
  port := by decide
  origins := List.cons_ne_nil _ _
  methods := List.cons_ne_nil _ _

/-- With that file and while NATS cannot be reached, the command starts on that database. -/
theorem all_starts_iff_sqlite :
    let order := (RangeOrder.nonempty onAfterApplicationBootstrapped.handlers).some
    let telemetry : Answers String := ⟨fun _ => none, fun _ => none, fun _ => none⟩
    runE verdictsOnly order (fun _ => .parsed sampleConfig) (fun _ => none) telemetry
      ⟨some "nats: no servers available for connection", false, none, none⟩ =
        .ok ⟨sampleConfig, 0, ⟨[]⟩⟩ := by
  intro order telemetry
  have used : bootstrapConfig order sampleConfig sampleConfig = sampleConfig := ite_self _
  refine (all_starts_iff verdictsOnly_laws order _ _ telemetry _ _).mpr
    ⟨sampleConfig, sampleConfig, "sqlite-gorm", rfl, sampleConfig_valid, rfl, sampleConfig_valid,
      ?_, ?_, rfl, nofun, ⟨nofun, nofun⟩, rfl, rfl⟩
  · rw [used]
    intro i database at_
    cases i with
    | zero =>
        cases at_
        exact ⟨by decide, by decide, rfl⟩
    | succ i => cases at_
  · rw [used]
    rfl

end GoOdin.App
