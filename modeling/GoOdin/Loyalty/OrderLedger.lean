import GoOdin.Loyalty.Ledger
import GoOdin.Loyalty.OrderCompleted

/-!
# Completed orders delivered one after another

Delivered through `OnOrderCompletedHandler`, an order becomes a command whose key is the
event id. The ledger of the commands holds each event once, however often it is delivered;
a redelivery adds a compensation to the log and nothing to the ledger. Compensations are
therefore left out of what the ledger describes.
-/

namespace GoOdin.Loyalty

open Interaction CreditLoyaltyHandler

namespace Ledger

section Keyed

variable {cmds : List CreditLoyaltyRequest}

theorem effective_concat (cmds : List CreditLoyaltyRequest) (cmd : CreditLoyaltyRequest) :
    effective (cmds ++ [cmd]) = record (effective cmds) cmd :=
  runFrom_concat _ _ _

theorem effective_subset (cmds : List CreditLoyaltyRequest) : effective cmds ⊆ cmds := by
  induction cmds using List.reverseRecOn with
  | nil => exact List.Subset.refl _
  | append_singleton cmds cmd ih =>
      rw [effective_concat, record]
      split
      · exact List.append_subset.mpr ⟨List.subset_append_of_subset_left _ ih,
          List.subset_append_right _ _⟩
      · exact List.subset_append_of_subset_left _ ih

/-- No two entries with a key have the same one. -/
theorem effective_keys_nodup (keyed : ∀ cmd ∈ cmds, cmd.causationEventID ≠ "") :
    ((effective cmds).map (·.causationEventID)).Nodup := by
  induction cmds using List.reverseRecOn with
  | nil => exact List.nodup_nil
  | append_singleton cmds cmd ih =>
      have before := ih fun cmd mem => keyed cmd (List.mem_append_left _ mem)
      rw [effective_concat, record]
      split
      · next effective =>
          have unused := effective.2.resolve_left
            (keyed cmd (List.mem_append_right _ (List.mem_singleton_self _)))
          rw [List.map_append, List.map_singleton, ← List.concat_eq_append, List.nodup_concat]
          refine ⟨fun used => ?_, before⟩
          obtain ⟨earlier, mem, same⟩ := List.mem_map.mp used
          exact unused earlier mem same
      · exact before

/-- If a key stands for one command, every command with positive points has its entry. -/
theorem mem_effective (positive : ∀ cmd ∈ cmds, 0 < cmd.points)
    (unique : ∀ a ∈ cmds, ∀ b ∈ cmds, a.causationEventID = b.causationEventID → a = b)
    (cmd : CreditLoyaltyRequest) : cmd ∈ effective cmds ↔ cmd ∈ cmds := by
  refine ⟨fun mem => effective_subset cmds mem, fun mem => ?_⟩
  induction cmds using List.reverseRecOn generalizing cmd with
  | nil => exact absurd mem List.not_mem_nil
  | append_singleton cmds last ih =>
      have kept : ∀ cmd ∈ cmds, cmd ∈ effective cmds := fun cmd mem =>
        ih (fun cmd mem => positive cmd (List.mem_append_left _ mem))
          (fun a aMem b bMem => unique a (List.mem_append_left _ aMem) b
            (List.mem_append_left _ bMem)) cmd mem
      rw [effective_concat, record]
      split
      · obtain old | new := List.mem_append.mp mem
        · exact List.mem_append_left _ (kept cmd old)
        · exact List.mem_append_right _ new
      · next refused =>
          obtain old | new := List.mem_append.mp mem
          · exact kept cmd old
          · -- The refused command has the key of an entry, so it is that entry.
            obtain rfl := List.mem_singleton.mp new
            have used : ∃ earlier ∈ effective cmds,
                earlier.causationEventID = cmd.causationEventID := by
              by_contra unused
              exact refused ⟨positive cmd mem, .inr fun earlier mem same =>
                unused ⟨earlier, mem, same⟩⟩
            obtain ⟨earlier, entry, same⟩ := used
            have listed := List.mem_append_left [cmd] (effective_subset cmds entry)
            rwa [← unique earlier listed cmd mem same]

end Keyed

theorem balanceOf_perm {ledger ledger' : List CreditLoyaltyRequest} (same : ledger.Perm ledger')
    (customerID : String) : balanceOf customerID ledger = balanceOf customerID ledger' :=
  ((same.filter _).map _).sum_eq

/-- The entries of the running balances are those of the ledger. -/
theorem map_fst_running (seen ledger : List CreditLoyaltyRequest) :
    (running seen ledger).map Prod.fst = ledger := by
  induction ledger generalizing seen with
  | nil => rfl
  | cons cmd rest ih => rw [running, List.map_cons, ih]

/-- What the announcements say of their commands, in the order of the ledger. -/
theorem Represents.map_published {s : LoyaltyStore} {ledger : List CreditLoyaltyRequest}
    (rep : Represents s ledger) {β : Type} {f : EventEnvelope → β} {g : CreditLoyaltyRequest → β}
    (copied : ∀ env entry, Announces env entry → f env = g entry.1) :
    s.published.map f = ledger.map g := by
  have pairs : List.Forall₂ Eq (s.published.map f) ((running [] ledger).map (g ∘ Prod.fst)) :=
    List.forall₂_map_left_iff.mpr (List.forall₂_map_right_iff.mpr
      (rep.published.imp fun env entry announces => copied env entry announces))
  rw [List.forall₂_eq_eq_eq] at pairs
  rw [pairs, ← List.map_map, map_fst_running]

end Ledger

namespace OnOrderCompletedHandler

open Ledger

/-- The store without the compensations. -/
def credits (s : LoyaltyStore) : LoyaltyStore :=
  { s with published := s.published.filter (·.eventName = Events.loyaltyCredited) }

/-- One delivery in which no call fails. -/
def delivered (s : LoyaltyStore) (d : OrderAmbient × EventEnvelope) : LoyaltyStore :=
  deliver s { amb := d.1, env := d.2, fault := fun _ => none }

/-- The command that a delivery asks for. -/
def requested (d : OrderAmbient × EventEnvelope) : Option CreditLoyaltyRequest :=
  match d.2.payload with
  | some (.orderCompleted payload) => some (creditRequest d.1 d.2 payload)
  | _ => none

/-- The account id drawn during a delivery is not in use. -/
def DrawsFresh (s : LoyaltyStore) (d : OrderAmbient × EventEnvelope) : Prop :=
  ∀ cmd ∈ requested d, FreshAccountID s d.1.command cmd.customerID

variable {s : LoyaltyStore} {ledger : List CreditLoyaltyRequest} {d : OrderAmbient × EventEnvelope}

theorem requested_eq_some {cmd : CreditLoyaltyRequest} (asks : requested d = some cmd) :
    ∃ payload, d.2.payload = some (.orderCompleted payload) ∧
      cmd = creditRequest d.1 d.2 payload := by
  rw [requested] at asks
  split at asks
  · next payload typed => exact ⟨payload, typed, (Option.some.inj asks).symm⟩
  · cases asks

theorem delivered_of_not_requested (asks : requested d = none) : delivered s d = s := by
  refine deliver_of_malformed fun payload typed => ?_
  rw [requested, show d.2.payload = _ from typed] at asks
  cases asks

theorem credits_publish_compensation (amb : OrderAmbient) (env : EventEnvelope)
    (payload : OrderCompletedPayload) (e : LoyaltyError) :
    credits (s.publish [compensation amb env payload e]) = credits s := by
  have silent : ([compensation amb env payload e].filter
      (·.eventName = Events.loyaltyCredited)) = [] := by
    simp [compensation, Events.loyaltyCreditFailed, Events.loyaltyCredited]
  rw [credits, LoyaltyStore.publish, List.filter_append, silent, List.append_nil]
  rfl

theorem credits_announced (amb : Ambient) (cmd : CreditLoyaltyRequest) (account : LoyaltyAccount) :
    credits (marked cmd (announced amb cmd account s)) =
      marked cmd (announced amb cmd account (credits s)) := by
  have kept : ([creditedEnvelope amb cmd account].filter
      (·.eventName = Events.loyaltyCredited)) = [creditedEnvelope amb cmd account] := by
    simp [creditedEnvelope]
  rw [credits, marked_published, announced, LoyaltyStore.publish, List.filter_append, kept]
  rw [marked, marked]
  split <;> rfl

theorem credits_saved {account : LoyaltyAccount} {t : LoyaltyStore} (saved : Saved s account t) :
    Saved (credits s) account (credits t) where
  self := saved.self
  other := saved.other
  ids := saved.ids
  keys := saved.keys
  published := by
    show t.published.filter _ = s.published.filter _
    rw [saved.published]

/-- One delivery takes the store along with the ledger. -/
theorem delivered_represents {cmd : CreditLoyaltyRequest} (asks : requested d = some cmd)
    (rep : Represents (credits s) ledger) (fresh : FreshAccountID s d.1.command cmd.customerID)
    (fits : Fits (record ledger cmd)) :
    Represents (credits (delivered s d)) (record ledger cmd) := by
  obtain ⟨payload, typed, rfl⟩ := requested_eq_some asks
  have reaches_iff : ReachesSave (fun _ => none) s (creditRequest d.1 d.2 payload) ↔
      Effective ledger (creditRequest d.1 d.2 payload) := by
    rw [← rep.reachesSave_iff]
    exact ⟨fun r => ⟨r.unmarked, r.answered, r.loadable, r.positive⟩,
      fun r => ⟨r.unmarked, r.answered, r.loadable, r.positive⟩⟩
  rw [record] at fits ⊢
  by_cases effective : Effective ledger (creditRequest d.1 d.2 payload)
  · rw [if_pos effective] at fits ⊢
    obtain ⟨t, saved, run⟩ :=
      creditWith_success (reaches_iff.mpr effective) fresh rfl rfl fun _ => rfl
    have result : delivered s d = _ := deliver_of_ok typed run
    rw [result, credits_announced]
    exact rep.concat effective (fits _) (credits_saved saved)
  · rw [if_neg effective]
    obtain ⟨e, run⟩ := creditWith_of_not_reachesSave d.1.command
      fun reaches => effective (reaches_iff.mp reaches)
    have result : delivered s d = _ := deliver_of_error typed run
    rw [result, if_pos rfl, credits_publish_compensation]
    exact rep

/-- The ledger after a delivery. -/
def recordOrder (ledger : List CreditLoyaltyRequest) (d : OrderAmbient × EventEnvelope) :
    List CreditLoyaltyRequest :=
  (requested d).elim ledger (record ledger)

theorem effective_requested (ds : List (OrderAmbient × EventEnvelope)) :
    effective (ds.filterMap requested) = runFrom recordOrder [] ds := by
  rw [effective, runFrom, List.foldl_filterMap, runFrom]
  congr 1
  funext ledger d
  rw [recordOrder]
  cases requested d <;> rfl

/-- Every history of deliveries leaves exactly its effective commands, and compensations. -/
theorem deliveries_represent {ds : List (OrderAmbient × EventEnvelope)}
    (fresh : Admitted delivered DrawsFresh .empty ds)
    (fits : Fits (effective (ds.filterMap requested))) :
    Represents (credits (runFrom delivered .empty ds)) (effective (ds.filterMap requested)) := by
  rw [effective_requested] at fits ⊢
  refine fresh.simulation recordOrder (fun s ledger => Fits ledger → Represents (credits s) ledger)
    (fun s ledger d tracks fresh fits => ?_) (fun _ => represents_empty) fits
  rw [recordOrder] at fits ⊢
  cases asks : requested d with
  | none =>
      rw [asks] at fits
      rw [delivered_of_not_requested asks]
      exact tracks fits
  | some cmd =>
      rw [asks] at fits
      have fits : Fits (record ledger cmd) := fits
      exact delivered_represents asks (tracks fits.of_record) (fresh cmd asks) fits

/-- Only credits and compensations are published. -/
def LoyaltyEventsOnly (s : LoyaltyStore) : Prop :=
  ∀ env ∈ s.published,
    env.eventName = Events.loyaltyCredited ∨ env.eventName = Events.loyaltyCreditFailed

theorem LoyaltyEventsOnly.publish (only : LoyaltyEventsOnly s) {env : EventEnvelope}
    (named : env.eventName = Events.loyaltyCredited ∨
      env.eventName = Events.loyaltyCreditFailed) : LoyaltyEventsOnly (s.publish [env]) := by
  intro other mem
  obtain old | new := List.mem_append.mp mem
  · exact only other old
  · rwa [List.mem_singleton.mp new]

theorem LoyaltyEventsOnly.delivered (only : LoyaltyEventsOnly s) :
    LoyaltyEventsOnly (delivered s d) := by
  cases asks : requested d with
  | none => rwa [delivered_of_not_requested asks]
  | some cmd =>
      obtain ⟨payload, typed, rfl⟩ := requested_eq_some asks
      have compensated : ∀ {t : LoyaltyStore} {e : LoyaltyError}, LoyaltyEventsOnly t →
          creditWith (fun _ => none) d.1.command (creditRequest d.1 d.2 payload) s =
            (.error e, t) → LoyaltyEventsOnly (OnOrderCompletedHandler.delivered s d) := by
        intro t e only run
        have result : OnOrderCompletedHandler.delivered s d = _ := deliver_of_error typed run
        rw [result, if_pos rfl]
        exact only.publish (.inr rfl)
      obtain ⟨e, run⟩ | ⟨t, -, saves, outcome⟩ :=
        creditWith_cases (fun _ => none) d.1.command (creditRequest d.1 d.2 payload) s
      · exact compensated only run
      · have saved : LoyaltyEventsOnly t := by
          rwa [LoyaltyEventsOnly, (save_frame saves).2]
        obtain ⟨e, run⟩ | ⟨-, e, run⟩ | run := outcome
        · exact compensated saved run
        · exact compensated (saved.publish (.inl rfl)) run
        · have result : OnOrderCompletedHandler.delivered s d = _ := deliver_of_ok typed run
          rw [result, LoyaltyEventsOnly, marked_published]
          exact saved.publish (.inl rfl)

theorem loyaltyEventsOnly_run (ds : List (OrderAmbient × EventEnvelope)) :
    LoyaltyEventsOnly (runFrom delivered .empty ds) := by
  have any : Admitted delivered (fun _ _ => True) .empty ds := admitted_of_forall fun _ _ => trivial
  exact any.invariant (fun _ _ only _ => only.delivered) fun _ mem => absurd mem List.not_mem_nil

end OnOrderCompletedHandler

end GoOdin.Loyalty
