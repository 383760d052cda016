import GoOdin.App.Config
import GoOdin.Drivers.Manager

/-!
# The telemetry driver and the providers that it owns

`setupOTelSDK` builds up to three providers and returns a closure that shuts down those it
has built; the closure forgets them once it has run. `Otel` keeps the closure of its last
successful `Init`, and the manager calls `Init` and `Close`.

A provider is named by the setup that built it, so that an object which is initialised twice
owns different ones. What the SDK answers is given with the call that leads to it. Joined
errors are listed, and the empty list is nil. The resource and the batching options of the
builders are left out.
-/

namespace GoOdin.Telemetry

open Interaction Drivers

variable {E : Type*}

inductive Signal where
  | trace
  | metric
  | log
deriving DecidableEq

/-- A provider, and the exporter that it was built with. -/
structure Provider where
  setup : Nat
  signal : Signal
deriving DecidableEq

/-- The errors of the SDK during one call of the manager. -/
structure Answers (E : Type*) where
  newOTLP : Signal → Option E
  build : Signal → Option E
  shutdown : Provider → Option E

/-- The providers of the process: how many setups there were, the exporters that were
opened, the providers that were built and the calls of `Shutdown`, in order, and the
provider that is installed for each signal. -/
structure Sdk where
  setups : Nat
  opened : List Provider
  built : List Provider
  stopped : List Provider
  installed : Signal → Option Provider

def Sdk.start : Sdk := ⟨0, [], [], [], fun _ => none⟩

/-! ### `setupOTelSDK` -/

/-- `newTraceProvider`, `newMeterProvider` and `newLoggerProvider`. An exporter is not shut
down when the provider cannot be built. -/
def newProvider (signal : Signal) (setup : Nat) (answers : Answers E) (sdk : Sdk) :
    Except E Provider × Sdk :=
  match answers.newOTLP signal with
  | some err => (.error err, sdk)
  | none =>
      let sdk := { sdk with opened := sdk.opened ++ [⟨setup, signal⟩] }
      match answers.build signal with
      | some err => (.error err, sdk)
      | none => (.ok ⟨setup, signal⟩, { sdk with built := sdk.built ++ [⟨setup, signal⟩] })

/-- The closure `shutdown` with the list that it has captured: the errors joined. -/
def shutdown (answers : Answers E) (sdk : Sdk) (shutdownFuncs : List Provider) : List E × Sdk :=
  runFrom (fun s fn => (s.1 ++ (answers.shutdown fn).toList,
    { s.2 with stopped := s.2.stopped ++ [fn] })) ([], sdk) shutdownFuncs

/-- `handleErr`: what it assigns to the result variable `err`. -/
def handleErr (answers : Answers E) (inErr : E) (shutdownFuncs : List Provider) (sdk : Sdk) :
    List E × Sdk :=
  let (err, sdk) := shutdown answers sdk shutdownFuncs
  (inErr :: err, sdk)

def Sdk.install (sdk : Sdk) (provider : Provider) : Sdk :=
  { sdk with installed := Function.update sdk.installed provider.signal (some provider) }

/-- The blocks for the meter and the log provider: the error that they return with, or the
registered functions. -/
def setUp (enabled : Bool) (signal : Signal) (setup : Nat) (answers : Answers E)
    (shutdownFuncs : List Provider) (sdk : Sdk) : Except E (List Provider) × Sdk :=
  if enabled then
    match newProvider signal setup answers sdk with
    -- The joined error goes to the result variable, which the `err` of the block hides:
    -- `return nil, err` returns the latter.
    | (.error err, sdk) => (.error err, (handleErr answers err shutdownFuncs sdk).2)
    | (.ok provider, sdk) => (.ok (shutdownFuncs ++ [provider]), sdk.install provider)
  else (.ok shutdownFuncs, sdk)

/-- The results of `setupOTelSDK`: the closure, by the list that it has captured, and the
error. -/
structure Setup (E : Type*) where
  shutdown : Option (List Provider)
  err : List E
  sdk : Sdk

def setupOTelSDK (cfg : App.Monitoring) (answers : Answers E) (sdk : Sdk) : Setup E :=
  let setup := sdk.setups
  match newProvider .trace setup answers { sdk with setups := setup + 1 } with
  | (.error err, sdk) =>
      let (err, sdk) := handleErr answers err [] sdk
      ⟨some [], err, sdk⟩
  | (.ok tracerProvider, sdk) =>
      match setUp cfg.enableTelemetry .metric setup answers [tracerProvider]
          (sdk.install tracerProvider) with
      | (.error err, sdk) => ⟨none, [err], sdk⟩
      | (.ok shutdownFuncs, sdk) =>
          match setUp cfg.enableCollectLog .log setup answers shutdownFuncs sdk with
          | (.error err, sdk) => ⟨none, [err], sdk⟩
          | (.ok shutdownFuncs, sdk) => ⟨some shutdownFuncs, [], sdk⟩

/-! ### The driver -/

/-- `Otel`: its field `shutdown`, which is nil before the first successful `Init`. -/
structure Otel where
  shutdown : Option (List Provider)

namespace Otel

def new : Otel := ⟨none⟩

def init (otel : Otel) (cfg : App.Monitoring) (answers : Answers E) (sdk : Sdk) :
    List E × Otel × Sdk :=
  let result := setupOTelSDK cfg answers sdk
  match result.err with
  | [] => ([], ⟨result.shutdown⟩, result.sdk)
  | err => (err, otel, result.sdk)

/-- `Close` calls the closure, which forgets what it has shut down; a nil function panics. -/
def close (otel : Otel) (answers : Answers E) (sdk : Sdk) : Option (List E × Otel × Sdk) :=
  otel.shutdown.map fun shutdownFuncs =>
    let (err, sdk) := Telemetry.shutdown answers sdk shutdownFuncs
    (err, ⟨some []⟩, sdk)

/-- The driver as the manager sees it. `Instance()` is nil. -/
def driver (ref : Nat) : IDriver Unit := ⟨ref, "OTEL", none⟩

/-- The providers that `Close` would shut down. -/
def held (otel : Otel) : List Provider := otel.shutdown.getD []

end Otel

/-! ### What a setup can do -/

variable {start sdk : Sdk} {setup : Nat} {signal : Signal} {seen : List Signal}
variable {shutdownFuncs : List Provider}

theorem shutdown_sdk (answers : Answers E) (sdk : Sdk) (shutdownFuncs : List Provider) :
    (shutdown answers sdk shutdownFuncs).2 =
      { sdk with stopped := sdk.stopped ++ shutdownFuncs } := by
  suffices ∀ s : List E × Sdk, (runFrom (fun s fn => (s.1 ++ (answers.shutdown fn).toList,
      { s.2 with stopped := s.2.stopped ++ [fn] })) s shutdownFuncs).2 =
        { s.2 with stopped := s.2.stopped ++ shutdownFuncs } from this ([], sdk)
  induction shutdownFuncs with
  | nil => intro s; simp
  | cons fn shutdownFuncs ih => intro s; rw [runFrom_cons, ih]; simp

/-- Since `start`, a setup has built these providers and shut down others. -/
structure Grown (start : Sdk) (built stopped : List Provider) (sdk : Sdk) : Prop where
  setups : sdk.setups = start.setups + 1
  built : sdk.built = start.built ++ built
  stopped : sdk.stopped = start.stopped ++ stopped

/-- A provider that cannot be built changes neither list. -/
theorem Grown.newProvider (grown : Grown start shutdownFuncs [] sdk) (signal : Signal)
    (answers : Answers E) :
    (∃ err sdk', Telemetry.newProvider signal start.setups answers sdk = (.error err, sdk') ∧
        Grown start shutdownFuncs [] sdk') ∨
      ∃ sdk', Telemetry.newProvider signal start.setups answers sdk =
          (.ok ⟨start.setups, signal⟩, sdk') ∧
        Grown start (shutdownFuncs ++ [⟨start.setups, signal⟩]) [] sdk' := by
  cases exporter : answers.newOTLP signal with
  | some err => exact .inl ⟨err, _, by rw [Telemetry.newProvider, exporter], grown⟩
  | none =>
      cases provider : answers.build signal with
      | some err =>
          refine .inl ⟨err, { sdk with opened := sdk.opened ++ [⟨start.setups, signal⟩] }, ?_, ?_⟩
          · simp only [Telemetry.newProvider, exporter, provider]
          · exact ⟨grown.setups, grown.built, grown.stopped⟩
      | none =>
          refine .inr ⟨{ sdk with
            opened := sdk.opened ++ [⟨start.setups, signal⟩]
            built := sdk.built ++ [⟨start.setups, signal⟩] }, ?_, ?_⟩
          · simp only [Telemetry.newProvider, exporter, provider]
          · exact ⟨grown.setups, by simp [grown.built], grown.stopped⟩

theorem Grown.shutdown (grown : Grown start shutdownFuncs [] sdk) (answers : Answers E) :
    Grown start shutdownFuncs shutdownFuncs (Telemetry.shutdown answers sdk shutdownFuncs).2 := by
  rw [shutdown_sdk]
  exact ⟨grown.setups, grown.built, by simp [grown.stopped]⟩

/-- A block goes on with the functions registered so far, and its own one if it is enabled, or
it shuts down all of them. -/
theorem Grown.setUp (grown : Grown start shutdownFuncs [] sdk) (enabled : Bool)
    (signal : Signal) (answers : Answers E) :
    (∃ next sdk', Telemetry.setUp enabled signal start.setups answers shutdownFuncs sdk =
        (.ok next, sdk') ∧ Grown start next [] sdk' ∧
          (next = shutdownFuncs ∨ next = shutdownFuncs ++ [⟨start.setups, signal⟩])) ∨
      ∃ err sdk', Telemetry.setUp enabled signal start.setups answers shutdownFuncs sdk =
        (.error err, sdk') ∧ Grown start shutdownFuncs shutdownFuncs sdk' := by
  cases enabled with
  | false => exact .inl ⟨_, _, rfl, grown, .inl rfl⟩
  | true =>
      obtain ⟨err, sdk', failed, grown⟩ | ⟨sdk', built, grown⟩ := grown.newProvider signal answers
      · refine .inr ⟨err, _, ?_, grown.shutdown answers⟩
        simp only [Telemetry.setUp, failed, if_true, handleErr]
      · refine .inl ⟨_, sdk'.install ⟨start.setups, signal⟩, ?_, ?_, .inr rfl⟩
        · simp only [Telemetry.setUp, built, if_true]
        · exact ⟨grown.setups, grown.built, grown.stopped⟩

/-- The functions that a setup has registered are those of its own providers, for signals
that it has come to. -/
structure Registered (setup : Nat) (seen : List Signal) (shutdownFuncs : List Provider) :
    Prop where
  own : ∀ p ∈ shutdownFuncs, p.setup = setup ∧ p.signal ∈ seen
  distinct : shutdownFuncs.Nodup
  nonempty : shutdownFuncs ≠ []

theorem Registered.next (registered : Registered setup seen shutdownFuncs)
    (fresh : signal ∉ seen) {next : List Provider}
    (grows : next = shutdownFuncs ∨ next = shutdownFuncs ++ [⟨setup, signal⟩]) :
    Registered setup (signal :: seen) next := by
  have own : ∀ p ∈ shutdownFuncs, p.setup = setup ∧ p.signal ∈ signal :: seen :=
    fun p mem => ⟨(registered.own p mem).1, List.mem_cons_of_mem _ (registered.own p mem).2⟩
  obtain rfl | rfl := grows
  · exact ⟨own, registered.distinct, registered.nonempty⟩
  · refine ⟨?_, ?_, by simp⟩
    · rw [List.forall_mem_append]
      exact ⟨own, by simp⟩
    · refine registered.distinct.append (List.nodup_singleton _) ?_
      rw [List.disjoint_singleton]
      exact fun mem => fresh (registered.own _ mem).2

/-- Everything that a setup can do: it returns a closure for all that it has built, or one
error after it has shut all of it down. The errors of that cleanup are never returned. -/
inductive Outcome (start : Sdk) : Setup E → Prop
  | ok {providers : List Provider} {sdk : Sdk}
      (own : ∀ p ∈ providers, p.setup = start.setups) (distinct : providers.Nodup)
      (nonempty : providers ≠ []) (grown : Grown start providers [] sdk) :
      Outcome start ⟨some providers, [], sdk⟩
  | failed {providers : List Provider} {sdk : Sdk} (closure : Option (List Provider)) (cause : E)
      (own : ∀ p ∈ providers, p.setup = start.setups) (distinct : providers.Nodup)
      (grown : Grown start providers providers sdk) : Outcome start ⟨closure, [cause], sdk⟩

theorem setup_outcome (cfg : App.Monitoring) (answers : Answers E) (start : Sdk) :
    Outcome start (setupOTelSDK cfg answers start) := by
  have opening : Grown start [] [] { start with setups := start.setups + 1 } :=
    ⟨rfl, by simp, by simp⟩
  obtain ⟨err, sdk, failed, grown⟩ | ⟨sdk, built, grown⟩ := opening.newProvider .trace answers
  · simp only [setupOTelSDK, failed]
    exact .failed (some []) err (by simp) .nil (grown.shutdown answers)
  have registered : Registered start.setups [.trace] [⟨start.setups, .trace⟩] :=
    ⟨by simp, List.nodup_singleton _, by simp⟩
  have grown : Grown start [⟨start.setups, .trace⟩] [] (sdk.install ⟨start.setups, .trace⟩) :=
    ⟨grown.setups, grown.built, grown.stopped⟩
  obtain ⟨funcs, sdk₂, ran, grown, grows⟩ | ⟨err, sdk₂, ran, grown⟩ :=
    grown.setUp cfg.enableTelemetry .metric answers
  · have registered := registered.next (by decide) grows
    obtain ⟨last, sdk₃, ran', grown, grows⟩ | ⟨err, sdk₃, ran', grown⟩ :=
      grown.setUp cfg.enableCollectLog .log answers
    · have registered := registered.next (by decide) grows
      simp only [setupOTelSDK, built, ran, ran']
      exact .ok (fun p mem => (registered.own p mem).1) registered.distinct registered.nonempty
        grown
    · simp only [setupOTelSDK, built, ran, ran']
      exact .failed none err (fun p mem => (registered.own p mem).1) registered.distinct grown
  · simp only [setupOTelSDK, built, ran]
    exact .failed none err (fun p mem => (registered.own p mem).1) registered.distinct grown

end GoOdin.Telemetry
