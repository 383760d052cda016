import GoOdin.Interaction.Rely
import GoOdin.Workers.Delivery
import GoOdin.Workers.Streams
import GoOdin.Workers.Traffic

/-!
# What the master takes its workers for and what they do

The master keeps a state for every client; the worker at the other end reads lines and stops on
its own account, at a Shutdown or at a line it cannot read. Nothing but the bytes on the
connection connects the two, and the goroutines of the master write to it in any order.

Still the views agree. A worker whose client is not disconnected and about to be shut down by no
goroutine is running (`connected_worker_is_running`). When all goroutines have returned, the
workers whose connection never failed have stopped exactly if their clients are disconnected
(`views_agree_at_rest`).
-/

namespace GoOdin.Workers

open Interaction Operation

open MessagePayload (unmarshal)

/-! ## What the goroutines keep to -/

/-- What stays true once it is. -/
inductive Fact where
  | started (w : WorkerClient)
  | told (w : WorkerClient)

abbrev Known := Set Fact

/-- Goroutines send only to started clients, only lines that a worker can read, and a Shutdown
only to those that were shut down. -/
def masterTerms : Terms Known MasterCall MasterCall.Answer where
  guarantee known
    | .send w msg => .started w ∈ known ∧ msg.json.length < maxScanTokenSize ∧
        (isShutdown msg = true → .told w ∈ known)
    | .shutdown w => .started w ∈ known
    | _ => True
  rely known
    | .getAll _, workers => ∀ w ∈ workers, .started w ∈ known
    | _, _ => True

/-- A `Send` that fails is followed by `Shutdown`, unless it was the last message. -/
def Prompt : (c : MasterCall) → (Except SendError c.Answer → Goroutine) → Prop
  | .send w msg, next => isShutdown msg = true ∨ ∀ e, (next (.error e)).pending = some (.shutdown w)
  | _, _ => True

structure Goroutine.Orderly (known : Known) (g : Goroutine) : Prop where
  keeps : g.Keeps masterTerms known
  prompt : g.Throughout Prompt

namespace Goroutine

variable {known known' : Known} {msg : MessagePayload} {after : Goroutine} {w : WorkerClient}

theorem Orderly.mono {g : Goroutine} (orderly : g.Orderly known) (grown : known ≤ known') :
    g.Orderly known' := ⟨orderly.keeps.mono grown, orderly.prompt⟩

theorem orderly_ret (result : Except SendError Unit) : Orderly known (.ret result) :=
  ⟨.ret result, trivial⟩

theorem sendTo_orderly (started : .started w ∈ known) (short : msg.json.length < maxScanTokenSize)
    (ordinary : isShutdown msg = false) (rest : Orderly known after) :
    Orderly known (sendTo w msg after) where
  keeps := by
    refine fun now grown =>
      ⟨⟨grown started, short, fun last => ?_⟩, fun later further reply _ => ?_⟩
    · rw [ordinary] at last
      cases last
    · have keeps := rest.keeps.mono (le_trans grown further)
      cases reply with
      | ok n => exact keeps
      | error e =>
          refine fun now' grown' =>
            ⟨grown' (further (grown started)), fun later' further' _ _ => ?_⟩
          exact keeps.mono (le_trans grown' further')
  prompt := by
    refine ⟨.inr fun e => rfl, fun reply => ?_⟩
    cases reply with
    | ok n => exact rest.prompt
    | error e => exact ⟨trivial, fun _ => rest.prompt⟩

theorem broadcast_orderly {workers : List WorkerClient}
    (started : ∀ w ∈ workers, .started w ∈ known) (short : msg.json.length < maxScanTokenSize)
    (ordinary : isShutdown msg = false) (rest : Orderly known after) :
    Orderly known (broadcast msg after workers) := by
  induction workers with
  | nil => exact rest
  | cons v workers ih =>
      rw [List.forall_mem_cons] at started
      have visit (status : WorkerClientState) : Orderly known
          (if status = .disconnected then broadcast msg after workers
            else sendTo v msg (broadcast msg after workers)) := by
        split
        · exact ih started.2
        · exact sendTo_orderly started.1 short ordinary (ih started.2)
      refine ⟨.attempt (fun _ _ => trivial) fun later grown status _ => ?_,
        .attempt (fun _ => trivial) fun status => (visit status).prompt⟩
      exact ((visit status).mono grown).keeps

/-- What is done with a snapshot of the registry may take its clients for started. -/
theorem getAll_orderly {order : Lifecycle.Orders} {next : List WorkerClient → Goroutine}
    (orderly : ∀ later workers, (∀ w ∈ workers, .started w ∈ later) →
      Orderly later (next workers)) : Orderly known (.attempt (.getAll order) next) where
  keeps := .attempt (fun _ _ => trivial) fun later _ workers relied =>
    (orderly later workers relied).keeps
  prompt := .attempt (fun _ => trivial) fun workers =>
    (orderly Set.univ workers fun _ _ => trivial).prompt

theorem tick_orderly (ping eliminate : Lifecycle.Orders) (now : Int64) :
    Orderly known (tick ping eliminate now) := by
  refine getAll_orderly fun later workers started => ?_
  have short := (short_message_iff ⟨0, 0, none⟩ (.ping now)).mpr fun _ _ other => nomatch other
  refine broadcast_orderly started short rfl ⟨?_, trivial, fun _ => trivial⟩
  exact fun _ _ => ⟨trivial, fun _ _ _ _ => .ret _⟩

theorem chat_orderly (order : Lifecycle.Orders) {payload : Option (List UInt8)} {now : Int64}
    (short : broadcastLength payload now < maxScanTokenSize) :
    Orderly known (chat order payload now) := by
  refine getAll_orderly fun later workers started => ?_
  rw [← length_json_chat] at short
  exact broadcast_orderly started short rfl (orderly_ret _)

theorem closeAll_orderly (order : Lifecycle.Orders) : Orderly known (closeAll order) := by
  refine getAll_orderly fun later workers started => ?_
  induction workers generalizing later with
  | nil => exact orderly_ret _
  | cons v workers ih =>
      rw [List.forall_mem_cons] at started
      have rest := ih later started.2
      refine ⟨fun now grown => ⟨grown started.1, fun after further _ _ => ?_⟩, trivial,
        fun _ => rest.prompt⟩
      exact rest.keeps.mono (le_trans grown further)

theorem shutdownMessage_short (now : Int64) :
    (WorkerClient.shutdownMessage now).json.length < maxScanTokenSize :=
  length_json_lt ⟨rfl, rfl, rfl⟩ (.inr rfl) rfl

theorem lastMessage_orderly (started : .started w ∈ known) (told : .told w ∈ known)
    (now : Int64) : Orderly known (lastMessage w now) where
  keeps := fun _ grown =>
    ⟨⟨grown started, shutdownMessage_short now, fun _ => grown told⟩, fun _ _ _ _ => .ret _⟩
  prompt := ⟨.inl rfl, fun _ => trivial⟩

end Goroutine

/-! ## Who was told what -/

namespace Fleet

def known (s : Fleet) : Known
  | .started w => w ∈ s.core.started
  | .told w => w ∈ s.core.master.world.shutdowns

theorem known_le {s t : Fleet} (started : s.core.started ⊆ t.core.started)
    (told : s.core.master.world.shutdowns ⊆ t.core.master.world.shutdowns) : s.known ≤ t.known := by
  intro fact holds
  cases fact with
  | started w => exact started holds
  | told w => exact told holds

structure Sound (s : Fleet) : Prop where
  tidy : s.core.Tidy
  books : Books s.core s.failed
  orderly : ∀ g ∈ s.goroutines, g.Orderly s.known
  short : ∀ x ∈ s.core.master.world.sends, x.2.json.length < maxScanTokenSize
  /-- A Shutdown was sent only to a client that was shut down. -/
  last : ∀ x ∈ s.core.master.world.sends, isShutdown x.2 = true →
    x.1 ∈ s.core.master.world.shutdowns
  told : ∀ w ∈ s.core.master.world.shutdowns, w ∈ s.core.started
  view : ∀ w ∈ s.core.started, s.core.master.world.status w = .disconnected ↔
    w ∈ s.core.master.world.shutdowns
  /-- A client to which a `Send` failed was shut down, or is about to be. -/
  pending : ∀ w ∈ s.failed, w ∈ s.core.master.world.shutdowns ∨
    ∃ g ∈ s.goroutines, g.pending = some (.shutdown w)
  /-- A client that was shut down got the last message, or is about to. -/
  messenger : ∀ w ∈ s.core.master.world.shutdowns,
    (∃ now, .lastMessage w now ∈ s.goroutines) ∨
      ∃ msg, (w, msg) ∈ s.core.master.world.sends ∧ isShutdown msg = true

theorem sound_initial : Sound initial where
  tidy := Lifecycle.sound_initial.1
  books := by constructor <;> simp [initial, Lifecycle.initial, MasterState.initial, World.initial]
  orderly := by simp [initial]
  short := by simp [initial, Lifecycle.initial, MasterState.initial, World.initial]
  last := by simp [initial, Lifecycle.initial, MasterState.initial, World.initial]
  told := by simp [initial, Lifecycle.initial, MasterState.initial, World.initial]
  view := by simp [initial, Lifecycle.initial, MasterState.initial, World.initial]
  pending := by simp [initial]
  messenger := by simp [initial, Lifecycle.initial, MasterState.initial, World.initial]

variable {s : Fleet} {i : Nat} {c d : MasterCall} {next : Except SendError c.Answer → Goroutine}

/-- A goroutine that is about to make another call is still there. -/
theorem mem_set_of_pending {gs : List Goroutine} (found : gs[i]? = some (.call c next))
    {g : Goroutine} (mem : g ∈ gs) (awaits : g.pending = some d) (other : d ≠ c)
    (g' : Goroutine) : g ∈ gs.set i g' := by
  obtain ⟨j, at_j⟩ := List.mem_iff_getElem?.mp mem
  have moved : i ≠ j := by
    rintro rfl
    rw [at_j] at found
    cases found
    cases awaits
    exact other rfl
  exact List.mem_of_getElem? ((List.getElem?_set_ne moved).trans at_j)

theorem mem_set_self {gs : List Goroutine} {g : Goroutine} (found : gs[i]? = some g)
    (g' : Goroutine) : g' ∈ gs.set i g' := by
  obtain ⟨bound, -⟩ := List.getElem?_eq_some_iff.mp found
  exact List.mem_of_getElem? (List.getElem?_set_self bound)

/-- A goroutine is started. -/
theorem Sound.start (sound : Sound s) {g : Goroutine} (orderly : g.Orderly s.known) :
    Sound (s.start g) := by
  have mem {g' : Goroutine} (before : g' ∈ s.goroutines) : g' ∈ s.goroutines ++ [g] :=
    List.mem_append_left _ before
  refine { sound with orderly := ?_, pending := ?_, messenger := ?_ }
  · intro g' mem
    obtain before | rfl := List.mem_append.mp mem |>.imp_right List.mem_singleton.mp
    · exact sound.orderly g' before
    · exact orderly
  · exact fun w failed => (sound.pending w failed).imp_right fun ⟨g', before, awaits⟩ =>
      ⟨g', mem before, awaits⟩
  · exact fun w told => (sound.messenger w told).imp_left fun ⟨now, before⟩ => ⟨now, mem before⟩

/-- A call that changes at most the registry. -/
theorem Sound.quiet (sound : Sound s) (found : s.goroutines[i]? = some (.call c next))
    (silent : ∀ w msg, c ≠ .send w msg) (mild : ∀ w, c ≠ .shutdown w) {r : ConnectionRegistry}
    (fewer : ∀ pid w, r.get pid = some w → s.core.master.registry.get pid = some w)
    {g : Goroutine} (orderly : g.Orderly s.known) :
    Sound
      { s with
        core := { s.core with master := { s.core.master with registry := r } }
        goroutines := s.goroutines.set i g } where
  tidy := { sound.tidy with known := fun pid w here => sound.tidy.known pid w (fewer pid w here) }
  books := sound.books.congr rfl rfl rfl rfl rfl
  orderly g' mem := (List.mem_or_eq_of_mem_set mem).elim (sound.orderly g') fun same =>
    same ▸ orderly
  short := sound.short
  last := sound.last
  told := sound.told
  view := sound.view
  pending w failed := (sound.pending w failed).imp_right fun ⟨g', before, awaits⟩ =>
    ⟨g', mem_set_of_pending found before awaits (mild w).symm g, awaits⟩
  messenger w told := (sound.messenger w told).imp_left fun ⟨now, before⟩ =>
    ⟨now, mem_set_of_pending found before rfl (silent w _).symm g⟩

theorem Sound.send (sound : Sound s) {w : WorkerClient} {msg : MessagePayload}
    {next : Except SendError Nat → Goroutine}
    (found : s.goroutines[i]? = some (.call (.send w msg) next)) (write : Option WriteError) :
    let after := w.send write msg s.core.master.world
    Sound
      { core := { s.core with master := { s.core.master with world := after.2 } }
        goroutines := s.goroutines.set i (next after.1)
        failed := s.failed ++ failures (.send w msg) after.1 } := by
  intro after
  have running := sound.orderly _ (List.mem_of_getElem? found)
  obtain ⟨started, short, told⟩ := running.keeps.guarantee
  have sends : after.2.sends = s.core.master.world.sends ++ [(w, msg)] := WorkerClient.send_sends
  have shutdowns : after.2.shutdowns = s.core.master.world.shutdowns :=
    WorkerClient.send_shutdowns
  have status : after.2.status = s.core.master.world.status := WorkerClient.send_status
  have kept : s.core.master.world.shutdowns ⊆ after.2.shutdowns := by
    rw [shutdowns]
    exact List.Subset.refl _
  constructor
  · exact { sound.tidy with }
  · exact sound.books.send started write msg
  · intro g mem
    obtain before | rfl := List.mem_or_eq_of_mem_set mem
    · exact (sound.orderly g before).mono (known_le (List.Subset.refl _) kept)
    · refine ⟨running.keeps.reply ?_ fun _ _ => trivial, running.prompt.2 _⟩
      exact known_le (List.Subset.refl _) kept
  · intro x called
    simp only [sends, List.mem_append, List.mem_singleton] at called
    obtain before | rfl := called
    · exact sound.short x before
    · exact short
  · intro x called isLast
    simp only [sends, List.mem_append, List.mem_singleton] at called
    simp only [shutdowns]
    obtain before | rfl := called
    · exact sound.last x before isLast
    · exact told isLast
  · simpa only [shutdowns] using sound.told
  · simpa only [shutdowns, status] using sound.view
  · intro v failed
    simp only [shutdowns]
    obtain before | now := List.mem_append.mp failed
    · refine (sound.pending v before).imp_right fun ⟨g, mem, awaits⟩ => ⟨g, ?_, awaits⟩
      exact mem_set_of_pending found mem awaits (fun same => nomatch same) _
    · cases outcome : after.1 with
      | ok n =>
          rw [outcome] at now
          cases now
      | error e =>
          rw [outcome] at now
          obtain rfl := List.mem_singleton.mp now
          refine running.prompt.1.imp told fun prompt => ?_
          exact ⟨_, mem_set_self found _, prompt e⟩
  · intro v stopped
    simp only [shutdowns] at stopped
    simp only [sends]
    obtain ⟨now, mem⟩ | ⟨last, called, isLast⟩ := sound.messenger v stopped
    · -- The goroutine that has this message is either still to run or is the one that ran.
      by_cases ran : MasterCall.send v (WorkerClient.shutdownMessage now) = .send w msg
      · cases ran
        exact .inr ⟨_, List.mem_append_right _ (List.mem_singleton_self _), rfl⟩
      · exact .inl ⟨now, mem_set_of_pending found mem rfl ran _⟩
    · exact .inr ⟨last, List.mem_append_left _ called, isLast⟩

theorem Sound.shutdown (sound : Sound s) {w : WorkerClient}
    {next : Except SendError Unit → Goroutine}
    (found : s.goroutines[i]? = some (.call (.shutdown w) next)) (now : Int64) :
    Sound
      { s with
        core := { s.core with
          master := { s.core.master with world := w.shutdown s.core.master.world } }
        goroutines := s.goroutines.set i (next (.ok ())) ++ spawned now (.shutdown w) } := by
  have running := sound.orderly _ (List.mem_of_getElem? found)
  have started : w ∈ s.core.started := running.keeps.guarantee
  have conn := sound.tidy.connected w started
  have world : w.shutdown s.core.master.world =
      { s.core.master.world.setStatus w .disconnected with
        shutdowns := s.core.master.world.shutdowns ++ [w] } := if_neg conn
  have forked : spawned now (.shutdown w) = [.lastMessage w now] := if_neg conn
  rw [world, forked]
  constructor
  · exact { sound.tidy with }
  · exact sound.books.congr rfl rfl rfl rfl rfl
  · intro g mem
    have kept := List.subset_append_left s.core.master.world.shutdowns [w]
    obtain mem | rfl := List.mem_append.mp mem |>.imp_right List.mem_singleton.mp
    · obtain before | rfl := List.mem_or_eq_of_mem_set mem
      · exact (sound.orderly g before).mono (known_le (List.Subset.refl _) kept)
      · refine ⟨running.keeps.reply ?_ fun _ _ => trivial, running.prompt.2 _⟩
        exact known_le (List.Subset.refl _) kept
    · exact Goroutine.lastMessage_orderly started
        (List.mem_append_right _ (List.mem_singleton_self w)) now
  · exact sound.short
  · exact fun x called isLast => List.mem_append_left _ (sound.last x called isLast)
  · intro v stopped
    obtain before | rfl := List.mem_append.mp stopped |>.imp_right List.mem_singleton.mp
    · exact sound.told v before
    · exact started
  · intro v started'
    show Function.update _ w _ v = _ ↔ v ∈ _ ++ [w]
    by_cases same : v = w
    · simp [same]
    · simp [same, sound.view v started']
  · intro v failed
    by_cases same : v = w
    · exact .inl (List.mem_append_right _ (List.mem_singleton.mpr same))
    · refine (sound.pending v failed).imp (List.mem_append_left _) fun ⟨g, mem, awaits⟩ => ?_
      refine ⟨g, List.mem_append_left _ (mem_set_of_pending found mem awaits ?_ _), awaits⟩
      rintro ⟨⟩
      exact same rfl
  · intro v stopped
    obtain before | rfl := List.mem_append.mp stopped |>.imp_right List.mem_singleton.mp
    · refine (sound.messenger v before).imp_left fun ⟨now, mem⟩ => ⟨now, List.mem_append_left _ ?_⟩
      exact mem_set_of_pending found mem rfl (fun other => nomatch other) _
    · exact .inl ⟨now, List.mem_append_right _ (List.mem_singleton_self _)⟩

theorem Sound.call (sound : Sound s) (i : Nat) (write : Option WriteError) (now : Int64) :
    Sound (s.call i write now) := by
  rw [Fleet.call]
  split
  next c next found =>
    have running := sound.orderly _ (List.mem_of_getElem? found)
    -- What a call that changes no client leads to, if its answer may be relied on.
    have goesOn {reply : Except SendError c.Answer}
        (relied : ∀ a, reply = .ok a → masterTerms.rely s.known c a) :
        Goroutine.Orderly s.known (next reply) :=
      ⟨running.keeps.reply le_rfl relied, running.prompt.2 _⟩
    cases c with
    | getAll order =>
        simp only [MasterState.serve, spawned, failures, List.append_nil]
        refine sound.quiet found (by simp) (by simp)
          (fun _ _ here => here) (goesOn ?_)
        rintro workers ⟨⟩ w mem
        exact sound.tidy.known w.pid w ((ConnectionRegistry.mem_getAll _).mp mem)
    | state w =>
        simp only [MasterState.serve, spawned, failures, List.append_nil]
        exact sound.quiet found (by simp) (by simp)
          (fun _ _ here => here) (goesOn fun _ _ => trivial)
    | send w msg =>
        simp only [MasterState.serve, spawned, List.append_nil]
        exact sound.send found write
    | shutdown w =>
        simp only [MasterState.serve, failures, List.append_nil]
        exact sound.shutdown found now
    | eliminate order =>
        simp only [MasterState.serve, spawned, failures, List.append_nil]
        exact sound.quiet found (by simp) (by simp)
          (fun _ _ here => ((ConnectionRegistry.get_eliminateWorkers _ _).mp here).1)
          (goesOn fun _ _ => trivial)
  next => exact sound

theorem Sound.handshake (sound : Sound s) (payload : Option (List Char)) :
    Sound { s with core := s.core.handshake payload } := by
  have tidy := sound.tidy.handshake payload
  have books := sound.books.handshake payload
  obtain unchanged | ⟨w, serial, after⟩ := Lifecycle.handshake_cases s.core payload
  · rw [unchanged]
    exact sound
  · rw [after] at tidy books ⊢
    refine { sound with tidy, books, view := fun v started => ?_ }
    have other : v ≠ w := by
      rintro rfl
      exact sound.tidy.fresh serial (List.mem_append_right _ started)
    show Function.update _ w _ v = _ ↔ _
    rw [Function.update_of_ne other]
    exact sound.view v started

/-- `Start` of the first client of the inbox, whether it goes through or not. -/
theorem Sound.startFirst (sound : Sound s) {w : WorkerClient} {rest : List WorkerClient}
    (waiting : s.core.inbox = w :: rest) (write : Option WriteError) (now : Int64)
    {registry : ConnectionRegistry} {registering : Bool} {started : List WorkerClient}
    (outcome : started = s.core.started ∨ write = none ∧ started = s.core.started ++ [w])
    (tidy : Lifecycle.Tidy
      { s.core with
        master := ⟨registry, (w.start write now s.core.master.world).2⟩
        inbox := rest
        registering
        started }) :
    Sound
      { s with
        core :=
          { s.core with
            master := ⟨registry, (w.start write now s.core.master.world).2⟩
            inbox := rest
            registering
            started } } := by
  have shutdowns : (w.start write now s.core.master.world).2.shutdowns =
      s.core.master.world.shutdowns := WorkerClient.start_shutdowns now
  have kept : s.core.master.world.shutdowns ⊆
      (w.start write now s.core.master.world).2.shutdowns := by
    rw [shutdowns]
    exact List.Subset.refl _
  have more : s.core.started ⊆ started := by
    obtain rfl | ⟨-, rfl⟩ := outcome <;> simp
  have unstarted : w ∉ s.core.started := fun mem => sound.tidy.ne_of_started waiting mem rfl
  constructor
  · exact tidy
  · exact sound.books.startFirst waiting write now outcome
  · exact fun g mem => (sound.orderly g mem).mono (known_le more kept)
  · intro x called
    simp only [WorkerClient.start_sends, List.mem_append, List.mem_singleton] at called
    obtain before | rfl := called
    · exact sound.short x before
    · exact (short_message_iff w (.start now)).mpr fun _ _ other => nomatch other
  · intro x called isLast
    simp only [WorkerClient.start_sends, List.mem_append, List.mem_singleton] at called
    simp only [shutdowns]
    obtain before | rfl := called
    · exact sound.last x before isLast
    · cases isLast
  · intro v stopped
    simp only [shutdowns] at stopped
    exact more (sound.told v stopped)
  · intro v mem
    simp only [shutdowns, WorkerClient.start_status]
    by_cases same : v = w
    · subst same
      rw [Function.update_self]
      refine iff_of_false (fun other => nomatch other) fun stopped => ?_
      exact unstarted (sound.told v stopped)
    · have old : v ∈ s.core.started := by
        obtain rfl | ⟨-, rfl⟩ := outcome
        · exact mem
        · exact (List.mem_append.mp mem).resolve_right fun new => same (List.mem_singleton.mp new)
      rw [Function.update_of_ne same]
      exact sound.view v old
  · simpa only [shutdowns] using sound.pending
  · intro v stopped
    simp only [shutdowns] at stopped
    simp only [WorkerClient.start_sends]
    refine (sound.messenger v stopped).imp_right fun ⟨msg, called, isLast⟩ => ?_
    exact ⟨msg, List.mem_append_left _ called, isLast⟩

theorem Sound.register (sound : Sound s) (write : Option WriteError) (now : Int64) :
    Sound { s with core := s.core.register write now } := by
  have tidy := sound.tidy.register write now
  obtain ⟨-, same⟩ | ⟨w, rest, -, waiting, ⟨-, after⟩ | ⟨delivers, after⟩⟩ :=
    Lifecycle.register_cases s.core write now
  · rw [same]
    exact sound
  · rw [after] at tidy ⊢
    exact sound.startFirst waiting write now (.inl rfl) tidy
  · rw [after] at tidy ⊢
    exact sound.startFirst waiting write now (.inr ⟨delivers.2, rfl⟩) tidy

/-- No line of a broadcast is longer than a worker can read. -/
def Brief : Action → Prop
  | .chat _ payload now => broadcastLength payload now < maxScanTokenSize
  | _ => True

theorem Sound.step (sound : Sound s) {action : Action} (brief : Brief action) :
    Sound (s.step action) := by
  cases action with
  | handshake payload => exact sound.handshake payload
  | register write now => exact sound.register write now
  | tick ping eliminate now => exact sound.start (Goroutine.tick_orderly ping eliminate now)
  | chat order payload now => exact sound.start (Goroutine.chat_orderly order brief)
  | closeAll order => exact sound.start (Goroutine.closeAll_orderly order)
  | call i write now => exact sound.call i write now

theorem sound_run {actions : List Action} (brief : ∀ action ∈ actions, Brief action) :
    Sound (runFrom step initial actions) :=
  (admitted_of_forall brief).invariant (fun _ _ sound brief => sound.step brief) sound_initial

/-! ## The two views -/

/-- A client that is not disconnected and not about to be got the lines of its messages, and no
Shutdown is among them. -/
theorem Sound.connected (sound : Sound s) {w : WorkerClient} (started : w ∈ s.core.started)
    (connected : s.core.master.world.status w ≠ .disconnected)
    (safe : ∀ g ∈ s.goroutines, g.pending ≠ some (.shutdown w)) :
    s.core.master.world.written w.serial =
        (messagesTo w s.core.master.world.sends).flatMap MessagePayload.line ∧
      ∀ msg ∈ messagesTo w s.core.master.world.sends, isShutdown msg = false := by
  have alive : w ∉ s.core.master.world.shutdowns := (sound.view w started).not.mp connected
  constructor
  · refine sound.books.lines w started fun failed => ?_
    obtain stopped | ⟨g, mem, awaits⟩ := sound.pending w failed
    · exact alive stopped
    · exact safe g mem awaits
  · intro msg sent
    by_contra last
    exact alive (sound.last (w, msg) (mem_messagesTo.mp sent) (by simpa using last))

theorem Sound.short_messages (sound : Sound s) (w : WorkerClient) :
    ∀ msg ∈ messagesTo w s.core.master.world.sends, msg.json.length < maxScanTokenSize :=
  fun msg sent => sound.short (w, msg) (mem_messagesTo.mp sent)

/-- In every interleaving of handshakes, registrations, health checks, broadcasts and shutdowns,
with any writes failing: a worker whose client was started, is not disconnected and is about to
be shut down by no goroutine is running. It has decoded messages as the master sent them, in
order, and all whose line has come. -/
theorem connected_worker_is_running (actions : List Action)
    (brief : ∀ action ∈ actions, Brief action) (w : WorkerClient)
    (started : w ∈ (runFrom step initial actions).core.started)
    (connected : (runFrom step initial actions).core.master.world.status w ≠ .disconnected)
    (safe : ∀ g ∈ (runFrom step initial actions).goroutines, g.pending ≠ some (.shutdown w))
    (arrived : List UInt8)
    (part : arrived <+: (runFrom step initial actions).core.master.world.written w.serial) :
    let sent := messagesTo w (runFrom step initial actions).core.master.world.sends
    let got := receiveMessage unmarshal undisturbed false 0 arrived
    got.cancels = 0 ∧ got.exit = none ∧ got.decoded <+: sent ∧
      ∀ n, (sent.take n).flatMap MessagePayload.line <+: arrived → sent.take n <+: got.decoded := by
  intro sent got
  have sound := sound_run brief
  obtain ⟨bytes, ordinary⟩ := sound.connected started connected safe
  rw [bytes] at part
  have delivered : Delivers false sent arrived got := delivers (sound.short_messages w) part
  have running : got.decoded.any isShutdown = false := by
    rw [List.any_eq_false]
    intro msg decoded
    simp [ordinary msg (delivered.sent.subset decoded)]
  obtain ⟨cancels, exit⟩ := delivered.waits rfl running
  refine ⟨cancels, exit, delivered.sent, fun n come => ?_⟩
  have through : takeThrough isShutdown (sent.take n) = sent.take n := by
    rw [takeThrough_eq_self_iff]
    exact fun msg mem => ordinary msg (List.take_subset n sent (List.dropLast_subset _ mem))
  rw [← through]
  exact delivered.complete n come

section Sample

def sampleWorker : WorkerClient := ⟨0, 7, some 0⟩

/-- A worker connects and is registered. -/
def sampleConnected : List Action := [.handshake (some ['7', '\n']), .register none 1700000000000]

/-- All connections are closed. -/
def sampleClosing (order : Lifecycle.Orders) : List Action :=
  [.closeAll order, .call 0 none 1700000001000, .call 0 none 1700000001001, .call 1 none 0]

theorem getAll_singleton (w : WorkerClient)
    (order : MapRange.RangeOrder (ConnectionRegistry.new.add w).conns) :
    (ConnectionRegistry.new.add w).getAll order = [w] := by
  have entries : order.entries = [⟨w.pid, w⟩] :=
    Multiset.coe_eq_singleton.mp (order.complete.trans rfl)
  rw [ConnectionRegistry.getAll, entries]
  rfl

/-- The worker is told to stop, and both goroutines have returned. -/
theorem sampleClosing_run (order : Lifecycle.Orders) :
    let s := runFrom step initial (sampleConnected ++ sampleClosing order)
    s.goroutines = [.ret (.ok ()), .ret (.ok ())] ∧ s.core.started = [sampleWorker] ∧
      s.failed = [] ∧ s.core.master.world.status sampleWorker = .disconnected := by
  have first : ((runFrom step initial sampleConnected).start (.closeAll order)).call 0 none
      1700000001000 =
      ⟨(runFrom step initial sampleConnected).core, [.shutdownAll [sampleWorker]], []⟩ := by
    rw [← getAll_singleton sampleWorker (order _)]
    rfl
  have run : runFrom step initial (sampleConnected ++ sampleClosing order) =
      ((((runFrom step initial sampleConnected).start (.closeAll order)).call 0 none
        1700000001000).call 0 none 1700000001001).call 1 none 0 := rfl
  rw [run, first]
  exact ⟨rfl, rfl, rfl, by decide⟩

end Sample

/-- A worker that has read half of the message of `Start`, while a health check begins. -/
theorem connected_worker_is_running_sample :
    let choose : Lifecycle.Orders := fun r => (MapRange.RangeOrder.nonempty r.conns).some
    let s := runFrom step initial (sampleConnected ++ [.tick choose choose 1700000003000])
    (receiveMessage unmarshal undisturbed false 0
      ((s.core.master.world.written 0).take 50)).cancels = 0 := by
  intro choose s
  have started : sampleWorker ∈ (runFrom step initial sampleConnected).core.started := by decide
  have connected : (runFrom step initial sampleConnected).core.master.world.status sampleWorker ≠
      .disconnected := by decide
  refine (connected_worker_is_running (sampleConnected ++ [.tick choose choose 1700000003000])
    ?_ sampleWorker started connected ?_ _ (List.take_prefix 50 _)).1
  · simp [sampleConnected, Brief]
  · intro g mem
    obtain rfl : g = .tick choose choose 1700000003000 := List.mem_singleton.mp mem
    exact fun other => nomatch other

/-- When every goroutine has returned: a client that was started, and to which a later `Send` of
a goroutine failed, is disconnected; and the worker of a started client with no such failure, once
it has read all that was sent, has decoded it up to the first Shutdown, and has stopped exactly if
its client is disconnected. -/
theorem views_agree_at_rest (actions : List Action) (brief : ∀ action ∈ actions, Brief action)
    (rest : ∀ g ∈ (runFrom step initial actions).goroutines, g.pending = none)
    (w : WorkerClient) (started : w ∈ (runFrom step initial actions).core.started) :
    let s := runFrom step initial actions
    let got := receiveMessage unmarshal undisturbed false 0
      (s.core.master.world.written w.serial)
    (w ∈ s.failed → s.core.master.world.status w = .disconnected) ∧
      (w ∉ s.failed →
        got.decoded = takeThrough isShutdown (messagesTo w s.core.master.world.sends) ∧
        got.cancels = if s.core.master.world.status w = .disconnected then 1 else 0) := by
  intro s got
  have sound : Sound s := sound_run brief
  constructor
  · intro failed
    refine (sound.view w started).mpr ((sound.pending w failed).resolve_right ?_)
    rintro ⟨g, mem, awaits⟩
    rw [rest g mem] at awaits
    cases awaits
  · intro fine
    have read : got = receptionOf false (messagesTo w s.core.master.world.sends) := by
      show receiveMessage _ _ _ _ (s.core.master.world.written w.serial) = _
      rw [sound.books.lines w started fine]
      exact receiveMessage_lines (fun msg _ => msg.unmarshal_json) (sound.short_messages w)
    -- The last message has come, since no goroutine still has it.
    have stopped : (messagesTo w s.core.master.world.sends).any isShutdown = true ↔
        s.core.master.world.status w = .disconnected := by
      rw [sound.view w started, List.any_eq_true]
      constructor
      · rintro ⟨msg, sent, last⟩
        exact sound.last (w, msg) (mem_messagesTo.mp sent) last
      · intro told
        obtain ⟨now, mem⟩ | ⟨msg, sent, last⟩ := sound.messenger w told
        · cases rest _ mem
        · exact ⟨msg, mem_messagesTo.mpr sent, last⟩
    rw [read, receptionOf]
    by_cases told : (messagesTo w s.core.master.world.sends).any isShutdown = true
    · rw [if_pos told, if_pos (stopped.mp told)]
      exact ⟨rfl, rfl⟩
    · rw [if_neg told, if_neg (stopped.not.mp told)]
      refine ⟨(takeThrough_eq_self_iff.mpr fun msg mem => ?_).symm, rfl⟩
      rw [List.any_eq_true] at told
      by_contra last
      exact told ⟨msg, List.dropLast_subset _ mem, by simpa using last⟩

/-- The worker of the sample has stopped when all connections are closed. -/
theorem views_agree_at_rest_closed :
    let choose : Lifecycle.Orders := fun r => (MapRange.RangeOrder.nonempty r.conns).some
    let s := runFrom step initial (sampleConnected ++ sampleClosing choose)
    (receiveMessage unmarshal undisturbed false 0
      (s.core.master.world.written 0)).cancels = 1 := by
  intro choose s
  obtain ⟨goroutines, started, failed, status⟩ := sampleClosing_run choose
  have agree := views_agree_at_rest (sampleConnected ++ sampleClosing choose)
    (by simp [sampleConnected, sampleClosing, Brief]) (by rw [goroutines]; simp) sampleWorker
    (by rw [started]; exact List.mem_singleton_self _)
  refine (agree.2 (by rw [failed]; exact List.not_mem_nil)).2.trans ?_
  rw [status]
  rfl

end Fleet

end GoOdin.Workers
