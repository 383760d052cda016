import GoOdin.Monitoring.Otel

/-!
# Telemetry drivers under the manager

The drivers of an application are `Otel` objects here, and one object may be run more than
once. The manager is the second version, which keeps a driver only after a successful `Init`.

The books of a run (`Books`) say where each provider is: one object at most holds it, and it
is held no more once it has been shut down. They are kept by every call, so no provider is
shut down twice. A provider is lost when its object is initialised again before it is closed,
and in no other way.
-/

namespace GoOdin.Telemetry

open Interaction Drivers

variable {E : Type*}

/-- An application whose drivers are `Otel` objects, told apart by their references. -/
structure System where
  sdk : Sdk
  otels : Nat → Otel
  manager : Manager Unit
  panicked : Bool

inductive Action (E : Type*) where
  | runDriver (ref : Nat) (cfg : App.Monitoring) (answers : Answers E)
  | closeAllDriver (answers : Answers E)

namespace System

def start : System := ⟨.start, fun _ => .new, .new, false⟩

/-- A nil error when nothing was joined. -/
def joined : List E → Option (List E)
  | [] => none
  | err => some err

def close (s : System) (answers : Answers E) (ref : Nat) : Option (List E × System) :=
  ((s.otels ref).close answers s.sdk).map fun (err, otel, sdk) =>
    (err, { s with sdk := sdk, otels := Function.update s.otels ref otel })

/-- The calls of `Close` in `CloseAllDriver`, with what each of them returned. -/
def closeEach (answers : Answers E) : System → List (IDriver Unit) →
    Option (List (Option (List E)) × System)
  | s, [] => some ([], s)
  | s, d :: ds => do
      let (err, s) ← s.close answers d.ref
      let (errs, s) ← closeEach answers s ds
      pure (joined err :: errs, s)

def runDriver (s : System) (ref : Nat) (cfg : App.Monitoring) (answers : Answers E) : System :=
  let (err, otel, sdk) := (s.otels ref).init cfg answers s.sdk
  { s with
    sdk := sdk
    otels := Function.update s.otels ref otel
    manager := (s.manager.serve (.runDriver (some (Otel.driver ref)) (joined err))).1 }

def closeAllDriver (s : System) (answers : Answers E) : System :=
  match s.closeEach answers s.manager.drivers with
  | none => { s with panicked := true }
  | some (errs, s) =>
      { s with manager := (s.manager.serve (.closeAllDriver fun i => errs[i]?.join)).1 }

def step (s : System) (action : Action E) : System :=
  if s.panicked then s
  else match action with
    | .runDriver ref cfg answers => s.runDriver ref cfg answers
    | .closeAllDriver answers => s.closeAllDriver answers

end System

/-! ### Closing -/

namespace System

variable {s : System} {ref : Nat} {p : Provider} {answers : Answers E}

/-- The providers that an object would shut down. -/
def held (s : System) (ref : Nat) : List Provider := (s.otels ref).held

/-- The state after a `Close` of this object. -/
def closed (s : System) (ref : Nat) : System :=
  { s with
    sdk := { s.sdk with stopped := s.sdk.stopped ++ s.held ref }
    otels := Function.update s.otels ref ⟨some []⟩ }

theorem close_eq (ready : (s.otels ref).shutdown ≠ none) (answers : Answers E) :
    ∃ err, s.close answers ref = some (err, s.closed ref) := by
  obtain ⟨shutdownFuncs, set⟩ := Option.ne_none_iff_exists'.mp ready
  refine ⟨(shutdown answers s.sdk shutdownFuncs).1, ?_⟩
  simp only [close, Otel.close, set, Option.map_some, shutdown_sdk, closed, held, Otel.held,
    Option.getD_some]

@[simp] theorem held_closed (s : System) (ref ref' : Nat) :
    (s.closed ref).held ref' = if ref' = ref then [] else s.held ref' := by
  by_cases same : ref' = ref
  · subst same
    simp [held, closed, Otel.held]
  · simp [held, closed, same]

theorem ready_closed (ready : (s.otels ref).shutdown ≠ none) (ref' : Nat) :
    ((s.closed ref').otels ref).shutdown ≠ none := by
  by_cases same : ref = ref'
  · subst same
    simp [closed]
  · simpa [closed, same] using ready

theorem closeEach_eq (answers : Answers E) (ds : List (IDriver Unit))
    (ready : ∀ d ∈ ds, (s.otels d.ref).shutdown ≠ none) :
    ∃ errs, closeEach answers s ds = some (errs, runFrom closed s (ds.map IDriver.ref)) := by
  induction ds generalizing s with
  | nil => exact ⟨[], rfl⟩
  | cons d ds ih =>
      rw [List.forall_mem_cons] at ready
      obtain ⟨err, first⟩ := close_eq ready.1 answers
      obtain ⟨errs, rest⟩ := ih fun d' mem => ready_closed (ready.2 d' mem) d.ref
      exact ⟨joined err :: errs, by simp [closeEach, first, rest]⟩

theorem held_runFrom_closed (s : System) (refs : List Nat) (ref : Nat) :
    (runFrom closed s refs).held ref = if ref ∈ refs then [] else s.held ref := by
  induction refs generalizing s with
  | nil => simp
  | cons first refs ih =>
      rw [runFrom_cons, ih, held_closed]
      by_cases later : ref ∈ refs
      · simp [later]
      · simp [later]

/-- Closing moves providers from the objects to those that were shut down, and leaves the
rest as it is. -/
structure Moved (s t : System) : Prop where
  manager : t.manager = s.manager
  running : t.panicked = s.panicked
  built : t.sdk.built = s.sdk.built
  accounted : ∀ p, p ∈ t.sdk.stopped ∨ (∃ ref, p ∈ t.held ref) ↔
    p ∈ s.sdk.stopped ∨ ∃ ref, p ∈ s.held ref

theorem moved_closed (s : System) (ref : Nat) : Moved s (s.closed ref) where
  manager := rfl
  running := rfl
  built := rfl
  accounted p := by
    show p ∈ s.sdk.stopped ++ s.held ref ∨ _ ↔ _
    rw [List.mem_append]
    constructor
    · rintro ((stopped | mine) | ⟨ref', there⟩)
      · exact .inl stopped
      · exact .inr ⟨ref, mine⟩
      · rw [held_closed] at there
        split at there
        · exact nomatch there
        · exact .inr ⟨ref', there⟩
    · rintro (stopped | ⟨ref', there⟩)
      · exact .inl (.inl stopped)
      · by_cases same : ref' = ref
        · exact .inl (.inr (same ▸ there))
        · exact .inr ⟨ref', by rw [held_closed, if_neg same]; exact there⟩

theorem moved_runFrom_closed (s : System) (refs : List Nat) :
    Moved s (runFrom closed s refs) := by
  induction refs generalizing s with
  | nil => exact ⟨rfl, rfl, rfl, fun _ => Iff.rfl⟩
  | cons ref refs ih =>
      have first := moved_closed s ref
      have rest := ih (s.closed ref)
      exact ⟨rest.manager, rest.running, rest.built,
        fun p => (rest.accounted p).trans (first.accounted p)⟩

/-! ### The books -/

/-- Where the providers are. -/
structure Books (s : System) : Prop where
  past : ∀ p ∈ s.sdk.built, p.setup < s.sdk.setups
  builtOnce : s.sdk.built.Nodup
  stoppedOnce : s.sdk.stopped.Nodup
  stopped : ∀ p ∈ s.sdk.stopped, p ∈ s.sdk.built
  held : ∀ {ref p}, p ∈ s.held ref → p ∈ s.sdk.built ∧ p ∉ s.sdk.stopped
  distinct : ∀ ref, (s.held ref).Nodup
  apart : ∀ {ref ref' p}, p ∈ s.held ref → p ∈ s.held ref' → ref = ref'

theorem Books.closed (books : Books s) (ref : Nat) : Books (s.closed ref) where
  past := books.past
  builtOnce := books.builtOnce
  stoppedOnce := books.stoppedOnce.append (books.distinct ref)
    fun _ stopped mine => (books.held mine).2 stopped
  stopped := by
    show ∀ p ∈ s.sdk.stopped ++ s.held ref, p ∈ s.sdk.built
    rw [List.forall_mem_append]
    exact ⟨books.stopped, fun p mine => (books.held mine).1⟩
  held {ref' p} there := by
    rw [held_closed] at there
    split at there
    · exact nomatch there
    · next other =>
        refine ⟨(books.held there).1, fun stopped => ?_⟩
        obtain before | mine := List.mem_append.mp stopped
        · exact (books.held there).2 before
        · exact other (books.apart there mine)
  distinct ref' := by
    rw [held_closed]
    split
    · exact .nil
    · exact books.distinct ref'
  apart {ref₁ ref₂ p} one two := by
    rw [held_closed] at one two
    split at one
    · exact nomatch one
    · split at two
      · exact nomatch two
      · exact books.apart one two

theorem Books.runFrom_closed (books : Books s) (refs : List Nat) :
    Books (runFrom System.closed s refs) := by
  induction refs generalizing s with
  | nil => exact books
  | cons ref refs ih => exact ih (books.closed ref)

/-! ### Running a driver -/

/-- The state after a successful `Init` of this object. -/
def initialised (s : System) (ref : Nat) (providers : List Provider) (sdk : Sdk) : System :=
  { s with
    sdk := sdk
    otels := Function.update s.otels ref ⟨some providers⟩
    manager := ⟨s.manager.drivers ++ [Otel.driver ref]⟩ }

/-- All that `RunDriver` can do. A failed `Init` has shut down what it has built. -/
theorem runDriver_cases (s : System) (ref : Nat) (cfg : App.Monitoring) (answers : Answers E) :
    ∃ providers sdk, (∀ p ∈ providers, p.setup = s.sdk.setups) ∧ providers.Nodup ∧
      ((setupOTelSDK cfg answers s.sdk).err = [] ∧ providers ≠ [] ∧ Grown s.sdk providers [] sdk ∧
          s.runDriver ref cfg answers = s.initialised ref providers sdk ∨
        (setupOTelSDK cfg answers s.sdk).err ≠ [] ∧ Grown s.sdk providers providers sdk ∧
          s.runDriver ref cfg answers = { s with sdk := sdk }) := by
  have outcome := setup_outcome cfg answers s.sdk
  simp only [runDriver, Otel.init]
  generalize setupOTelSDK cfg answers s.sdk = result at outcome ⊢
  cases outcome with
  | ok own distinct nonempty grown =>
      exact ⟨_, _, own, distinct, .inl ⟨rfl, nonempty, grown, rfl⟩⟩
  | failed closure cause own distinct grown =>
      refine ⟨_, _, own, distinct, .inr ⟨by simp, grown, ?_⟩⟩
      simp [joined, Manager.serve, Manager.runDriver]

@[simp] theorem held_initialised (s : System) (ref ref' : Nat) (providers : List Provider)
    (sdk : Sdk) :
    (s.initialised ref providers sdk).held ref' =
      if ref' = ref then providers else s.held ref' := by
  by_cases same : ref' = ref
  · subst same
    simp [held, initialised, Otel.held]
  · simp [held, initialised, same]

variable {providers : List Provider} {sdk : Sdk}

/-- The providers of a new setup are not among those built before. -/
theorem Books.not_built (books : Books s) (own : ∀ p ∈ providers, p.setup = s.sdk.setups) :
    ∀ p ∈ providers, p ∉ s.sdk.built := by
  intro p new old
  have := books.past p old
  have := own p new
  omega

theorem Books.built_grown (books : Books s) (own : ∀ p ∈ providers, p.setup = s.sdk.setups)
    (distinct : providers.Nodup) {stopped : List Provider}
    (grown : Grown s.sdk providers stopped sdk) :
    (∀ p ∈ sdk.built, p.setup < sdk.setups) ∧ sdk.built.Nodup := by
  rw [grown.built, grown.setups, List.forall_mem_append]
  refine ⟨⟨fun p old => ?_, fun p new => ?_⟩, books.builtOnce.append distinct ?_⟩
  · have := books.past p old
    omega
  · have := own p new
    omega
  · exact fun p old new => books.not_built own p new old

theorem Books.failed (books : Books s) (own : ∀ p ∈ providers, p.setup = s.sdk.setups)
    (distinct : providers.Nodup) (grown : Grown s.sdk providers providers sdk) :
    Books { s with sdk := sdk } where
  past := (books.built_grown own distinct grown).1
  builtOnce := (books.built_grown own distinct grown).2
  stoppedOnce := by
    show sdk.stopped.Nodup
    rw [grown.stopped]
    exact books.stoppedOnce.append distinct
      fun p old new => books.not_built own p new (books.stopped p old)
  stopped := by
    show ∀ p ∈ sdk.stopped, p ∈ sdk.built
    rw [grown.stopped, grown.built, List.forall_mem_append]
    exact ⟨fun p old => List.mem_append_left _ (books.stopped p old),
      fun p new => List.mem_append_right _ new⟩
  held {ref p} (there : p ∈ s.held ref) := by
    show p ∈ sdk.built ∧ p ∉ sdk.stopped
    rw [grown.stopped, grown.built, List.mem_append, List.mem_append, not_or]
    have old := books.held there
    exact ⟨.inl old.1, old.2, fun new => books.not_built own p new old.1⟩
  distinct := books.distinct
  apart := books.apart

theorem Books.initialised (books : Books s) (own : ∀ p ∈ providers, p.setup = s.sdk.setups)
    (distinct : providers.Nodup) (grown : Grown s.sdk providers [] sdk) (ref : Nat) :
    Books (s.initialised ref providers sdk) where
  past := (books.built_grown own distinct grown).1
  builtOnce := (books.built_grown own distinct grown).2
  stoppedOnce := by
    show sdk.stopped.Nodup
    rw [grown.stopped, List.append_nil]
    exact books.stoppedOnce
  stopped := by
    show ∀ p ∈ sdk.stopped, p ∈ sdk.built
    rw [grown.stopped, grown.built, List.append_nil]
    exact fun p old => List.mem_append_left _ (books.stopped p old)
  held {ref' p} there := by
    show p ∈ sdk.built ∧ p ∉ sdk.stopped
    rw [grown.stopped, grown.built, List.append_nil, List.mem_append]
    rw [held_initialised] at there
    split at there
    · exact ⟨.inr there, fun old => books.not_built own p there (books.stopped p old)⟩
    · exact ⟨.inl (books.held there).1, (books.held there).2⟩
  distinct ref' := by
    rw [held_initialised]
    split
    · exact distinct
    · exact books.distinct ref'
  apart {ref₁ ref₂ p} one two := by
    rw [held_initialised] at one two
    split at one
    · next same₁ =>
        split at two
        · next same₂ => rw [same₁, same₂]
        · exact absurd (books.held two).1 (books.not_built own p one)
    · split at two
      · exact absurd (books.held one).1 (books.not_built own p two)
      · exact books.apart one two

/-! ### Whole runs -/

/-- What holds between two calls: the registered drivers are the objects that hold
providers. -/
structure Sound (s : System) : Prop where
  running : s.panicked = false
  books : Books s
  ready : ∀ d ∈ s.manager.drivers, s.held d.ref ≠ []
  registered : ∀ ref, s.held ref ≠ [] → Otel.driver ref ∈ s.manager.drivers

theorem sound_start : Sound start where
  running := rfl
  books := ⟨nofun, .nil, .nil, nofun, nofun, fun _ => .nil, nofun⟩
  ready := nofun
  registered _ some := absurd rfl some

theorem Sound.closeAllDriver_eq (sound : Sound s) (answers : Answers E) :
    s.closeAllDriver answers =
      { runFrom closed s (s.manager.drivers.map IDriver.ref) with manager := ⟨[]⟩ } := by
  have ready : ∀ d ∈ s.manager.drivers, (s.otels d.ref).shutdown ≠ none :=
    fun d mem unset => sound.ready d mem (by simp [held, Otel.held, unset])
  obtain ⟨errs, all⟩ := closeEach_eq answers s.manager.drivers ready
  simp only [closeAllDriver, all]
  rfl

theorem Sound.held_closeAll (sound : Sound s) (ref : Nat) :
    (runFrom closed s (s.manager.drivers.map IDriver.ref)).held ref = [] := by
  rw [held_runFrom_closed]
  split
  · rfl
  · next absent =>
      by_contra some
      exact absent (List.mem_map_of_mem (sound.registered ref some))

theorem Sound.closeAllDriver (sound : Sound s) (answers : Answers E) :
    Sound (s.closeAllDriver answers) := by
  rw [sound.closeAllDriver_eq]
  have moved := moved_runFrom_closed s (s.manager.drivers.map IDriver.ref)
  have books := sound.books.runFrom_closed (s.manager.drivers.map IDriver.ref)
  exact {
    running := moved.running.trans sound.running
    books := ⟨books.past, books.builtOnce, books.stoppedOnce, books.stopped, books.held,
      books.distinct, books.apart⟩
    ready := nofun
    registered := fun ref some => absurd (sound.held_closeAll ref) some }

theorem Sound.runDriver (sound : Sound s) (ref : Nat) (cfg : App.Monitoring)
    (answers : Answers E) : Sound (s.runDriver ref cfg answers) := by
  obtain ⟨providers, sdk, own, distinct, ⟨-, nonempty, grown, ran⟩ | ⟨-, grown, ran⟩⟩ :=
    runDriver_cases s ref cfg answers
  · rw [ran]
    refine ⟨sound.running, sound.books.initialised own distinct grown ref, ?_, ?_⟩
    · intro d mem
      rw [held_initialised]
      split
      · exact nonempty
      · next other =>
          obtain old | new := List.mem_append.mp mem
          · exact sound.ready d old
          · exact absurd (congrArg IDriver.ref (List.mem_singleton.mp new)) other
    · intro ref' some
      rw [held_initialised] at some
      split at some
      · next same =>
          subst same
          exact List.mem_append_right _ (List.mem_singleton_self _)
      · exact List.mem_append_left _ (sound.registered ref' some)
  · rw [ran]
    exact ⟨sound.running, sound.books.failed own distinct grown, sound.ready, sound.registered⟩

theorem Sound.step_runDriver (sound : Sound s) (ref : Nat) (cfg : App.Monitoring)
    (answers : Answers E) :
    s.step (.runDriver ref cfg answers) = s.runDriver ref cfg answers := by
  simp [System.step, sound.running]

theorem Sound.step_closeAllDriver (sound : Sound s) (answers : Answers E) :
    s.step (.closeAllDriver answers) = s.closeAllDriver answers := by
  simp [System.step, sound.running]

theorem Sound.step (sound : Sound s) (action : Action E) : Sound (s.step action) := by
  cases action with
  | runDriver ref cfg answers =>
      rw [sound.step_runDriver]
      exact sound.runDriver ref cfg answers
  | closeAllDriver answers =>
      rw [sound.step_closeAllDriver]
      exact sound.closeAllDriver answers

theorem sound_run (actions : List (Action E)) : Sound (runFrom step start actions) := by
  have every : Admitted step (fun _ _ => True) start actions :=
    admitted_of_forall fun _ _ => trivial
  exact every.invariant (fun s action sound _ => sound.step action) sound_start

/-- For every sequence of `RunDriver` and `CloseAllDriver` calls, on the same object or on
different ones, and whatever the SDK answers: no call panics on a nil function, and no
provider is shut down twice or without having been built. -/
theorem providers_stopped_at_most_once (actions : List (Action E)) :
    let s := runFrom step start actions
    s.panicked = false ∧ s.sdk.stopped.Nodup ∧ s.sdk.stopped ⊆ s.sdk.built := by
  intro s
  have sound : Sound s := sound_run actions
  exact ⟨sound.running, sound.books.stoppedOnce, sound.books.stopped⟩

/-! ### Providers that are lost -/

/-- Every provider that was built has been shut down or is kept by a registered driver. -/
def Kept (s : System) : Prop :=
  ∀ p ∈ s.sdk.built, p ∈ s.sdk.stopped ∨ ∃ d ∈ s.manager.drivers, p ∈ s.held d.ref

/-- A successful `Init` of an object that is registered already. -/
def Reinitialises (s : System) : Action E → Prop
  | .runDriver ref cfg answers =>
      (setupOTelSDK cfg answers s.sdk).err = [] ∧ Otel.driver ref ∈ s.manager.drivers
  | .closeAllDriver _ => False

/-- After a `CloseAllDriver` nothing is held any more. -/
theorem Kept.closeAllDriver (kept : Kept s) (sound : Sound s) (answers : Answers E) :
    ∀ p ∈ (s.closeAllDriver answers).sdk.built, p ∈ (s.closeAllDriver answers).sdk.stopped := by
  rw [sound.closeAllDriver_eq]
  have moved := moved_runFrom_closed s (s.manager.drivers.map IDriver.ref)
  intro p (built : p ∈ (runFrom closed s (s.manager.drivers.map IDriver.ref)).sdk.built)
  rw [moved.built] at built
  have before : p ∈ s.sdk.stopped ∨ ∃ ref, p ∈ s.held ref :=
    (kept p built).imp_right fun ⟨d, _, there⟩ => ⟨d.ref, there⟩
  obtain stopped | ⟨ref, there⟩ := (moved.accounted p).mpr before
  · exact stopped
  · rw [sound.held_closeAll] at there
    exact nomatch there

theorem Kept.step (kept : Kept s) (sound : Sound s) {action : Action E}
    (first : ¬ Reinitialises s action) : Kept (s.step action) := by
  cases action with
  | closeAllDriver answers =>
      rw [sound.step_closeAllDriver]
      exact fun p built => .inl (kept.closeAllDriver sound answers p built)
  | runDriver ref cfg answers =>
      rw [sound.step_runDriver]
      obtain ⟨providers, sdk, own, distinct, ⟨succeeds, nonempty, grown, ran⟩ | ⟨-, grown, ran⟩⟩ :=
        runDriver_cases s ref cfg answers
      · rw [ran]
        intro p (built : p ∈ sdk.built)
        rw [grown.built] at built
        show p ∈ sdk.stopped ∨ ∃ d ∈ s.manager.drivers ++ [Otel.driver ref], _
        rw [grown.stopped, List.append_nil]
        obtain old | new := List.mem_append.mp built
        · refine (kept p old).imp_right fun ⟨d, registered, there⟩ => ?_
          -- The object was not registered, so it held nothing that could be replaced.
          have other : d.ref ≠ ref := fun same =>
            first ⟨succeeds, sound.registered ref (List.ne_nil_of_mem (same ▸ there))⟩
          refine ⟨d, List.mem_append_left _ registered, ?_⟩
          rw [held_initialised, if_neg other]
          exact there
        · refine .inr ⟨_, List.mem_append_right _ (List.mem_singleton_self _), ?_⟩
          rw [held_initialised]
          show p ∈ if ref = ref then providers else _
          rw [if_pos rfl]
          exact new
      · rw [ran]
        intro p (built : p ∈ sdk.built)
        rw [grown.built] at built
        show p ∈ sdk.stopped ∨ _
        rw [grown.stopped, List.mem_append]
        obtain old | new := List.mem_append.mp built
        · exact (kept p old).imp_left .inl
        · exact .inl (.inr new)

/-- What a registered object held is lost when it is initialised again. -/
theorem Sound.lost (sound : Sound s) {action : Action E} (again : Reinitialises s action) :
    ¬ Kept (s.step action) := by
  cases action with
  | closeAllDriver answers => exact again.elim
  | runDriver ref cfg answers =>
      obtain ⟨succeeds, registered⟩ := again
      obtain ⟨p, mine⟩ := List.exists_mem_of_ne_nil _ (sound.ready _ registered)
      have before := sound.books.held mine
      rw [sound.step_runDriver]
      obtain ⟨providers, sdk, own, distinct, ⟨-, nonempty, grown, ran⟩ | ⟨fails, -, -⟩⟩ :=
        runDriver_cases s ref cfg answers
      · rw [ran]
        intro kept
        have built : p ∈ sdk.built := grown.built ▸ List.mem_append_left _ before.1
        obtain stopped | ⟨d, -, there⟩ := kept p built
        · change p ∈ sdk.stopped at stopped
          rw [grown.stopped, List.append_nil] at stopped
          exact before.2 stopped
        · rw [held_initialised] at there
          split at there
          · exact sound.books.not_built own p there before.1
          · next other => exact other (sound.books.apart there mine)
      · exact absurd succeeds fails

/-- For every run: at each moment every provider that was built has been shut down, once, or
is kept by a registered driver, exactly if no object is initialised again with success while
it is registered. A `CloseAllDriver` after such a run leaves no provider behind: those shut
down are those built, each of them once, whatever the calls of `Shutdown` return. -/
theorem providers_kept_iff (actions : List (Action E)) :
    (Admitted step (fun s action => ¬ Reinitialises s action) start actions ↔
        ∀ before, before <+: actions → Kept (runFrom step start before)) ∧
      (Admitted step (fun s action => ¬ Reinitialises s action) start actions →
        ∀ answers : Answers E,
          let s := runFrom step start (actions ++ [.closeAllDriver answers])
          s.sdk.stopped.Perm s.sdk.built) := by
  have preserved : ∀ (s : System) (action : Action E), Sound s ∧ Kept s →
      ¬ Reinitialises s action → Sound (s.step action) ∧ Kept (s.step action) :=
    fun s action inv first => ⟨inv.1.step action, inv.2.step inv.1 first⟩
  have initial : Sound start ∧ Kept start := ⟨sound_start, nofun⟩
  constructor
  · exact admitted_iff_safe (fun s inv => inv.2) preserved
      (fun s action inv again => inv.1.lost (not_not.mp again)) initial actions
  · intro run answers s
    obtain ⟨sound, kept⟩ := run.invariant preserved initial
    have last : s = (runFrom step start actions).closeAllDriver answers :=
      (runFrom_concat _ _ _).trans (sound.step_closeAllDriver answers)
    have books := (sound.closeAllDriver answers).books
    rw [last, List.perm_ext_iff_of_nodup books.stoppedOnce books.builtOnce]
    exact fun p => ⟨books.stopped p, kept.closeAllDriver sound answers p⟩

end System

end GoOdin.Telemetry
