import GoOdin.Choreography
import GoOdin.Interaction.Rely

/-!
# What the log of the choreography may be taken to mean

Concurrent executions can lose an update of a saga or a credit, and can credit or announce
twice. What they cannot do is to announce something that has not happened. In every
interleaving and with any failures, an order is announced as ready only after points were
credited and stock was reserved for it, a credit says what the order it was caused by says,
and a key is marked only after its credit was announced.

Each handler is shown to keep to its terms, call by call; the store and the log then keep
theirs at every step of the system.

The system is the one that the handlers are written for. The source subscribes only
`OnOrderCompletedHandler`: it registers the saga nowhere, and has no implementation of the saga's
repository, which is a map here. Credits that are asked for over HTTP are outside these runs.
-/

namespace GoOdin.Choreography

open Interaction Loyalty

abbrev World := Set EventEnvelope

/-- An event of this name and correlation id has happened. -/
def Happened (w : World) (name correlationID : String) : Prop :=
  ∃ e ∈ w, e.eventName = name ∧ e.correlationID = correlationID

/-- An order with this payload was completed. -/
def Ordered (w : World) (eventID correlationID : String) (payload : OrderCompletedPayload) : Prop :=
  ∃ order ∈ w, order.eventName = Events.orderCompleted ∧ order.eventID = eventID ∧
    order.correlationID = correlationID ∧ order.payload = some (.orderCompleted payload)

/-- The credit of this event was announced. -/
def Announced (w : World) (key : String) : Prop :=
  ∃ e ∈ w, e.eventName = Events.loyaltyCredited ∧ e.causationID = key

theorem Happened.mono {w w' : World} {name c : String} (happened : Happened w name c)
    (grown : w ≤ w') : Happened w' name c := by
  obtain ⟨e, mem, names⟩ := happened
  exact ⟨e, grown mem, names⟩

theorem Ordered.mono {w w' : World} {eventID c : String} {payload : OrderCompletedPayload}
    (ordered : Ordered w eventID c payload) (grown : w ≤ w') : Ordered w' eventID c payload := by
  obtain ⟨order, mem, rest⟩ := ordered
  exact ⟨order, grown mem, rest⟩

theorem Announced.mono {w w' : World} {key : String} (announced : Announced w key)
    (grown : w ≤ w') : Announced w' key := by
  obtain ⟨e, mem, rest⟩ := announced
  exact ⟨e, grown mem, rest⟩

/-- What must have happened before an envelope is published. -/
structure Reason (w : World) (e : EventEnvelope) : Prop where
  credit : e.eventName = Events.loyaltyCredited →
    ∃ payload overflow credit, Ordered w e.causationID e.correlationID payload ∧
      e.payload = some (.loyaltyCredited credit) ∧ credit.customerID = payload.customerID ∧
      credit.orderID = payload.orderID ∧
      credit.pointsEarned = OnOrderCompletedHandler.orderPoints overflow payload.totalAmount
  failure : e.eventName = Events.loyaltyCreditFailed →
    ∃ payload failed, Ordered w e.causationID e.correlationID payload ∧
      e.payload = some (.loyaltyCreditFailed failed) ∧ failed.customerID = payload.customerID ∧
      failed.orderID = payload.orderID
  ready : e.eventName = Events.orderFulfillmentReady →
    Happened w Events.loyaltyCredited e.correlationID ∧
      Happened w Events.inventoryReserved e.correlationID

theorem Reason.mono (w w' : World) (grown : w ≤ w') (e : EventEnvelope) (reason : Reason w e) :
    Reason w' e where
  credit named := by
    obtain ⟨payload, overflow, credit, ordered, rest⟩ := reason.credit named
    exact ⟨payload, overflow, credit, ordered.mono grown, rest⟩
  failure named := by
    obtain ⟨payload, failed, ordered, rest⟩ := reason.failure named
    exact ⟨payload, failed, ordered.mono grown, rest⟩
  ready named := (reason.ready named).imp (·.mono grown) (·.mono grown)

section Names

variable {w : World} {e : EventEnvelope}

theorem Reason.of_credit (named : e.eventName = Events.loyaltyCredited)
    {payload : OrderCompletedPayload} {overflow : Int64} {credit : LoyaltyCreditedEvent}
    (ordered : Ordered w e.causationID e.correlationID payload)
    (carried : e.payload = some (.loyaltyCredited credit))
    (customer : credit.customerID = payload.customerID) (order : credit.orderID = payload.orderID)
    (points : credit.pointsEarned =
      OnOrderCompletedHandler.orderPoints overflow payload.totalAmount) : Reason w e where
  credit _ := ⟨payload, overflow, credit, ordered, carried, customer, order, points⟩
  failure other := absurd (named.symm.trans other) (by decide)
  ready other := absurd (named.symm.trans other) (by decide)

theorem Reason.of_failure (named : e.eventName = Events.loyaltyCreditFailed)
    {payload : OrderCompletedPayload} {failed : LoyaltyCreditFailedEvent}
    (ordered : Ordered w e.causationID e.correlationID payload)
    (carried : e.payload = some (.loyaltyCreditFailed failed))
    (customer : failed.customerID = payload.customerID)
    (order : failed.orderID = payload.orderID) : Reason w e where
  credit other := absurd (named.symm.trans other) (by decide)
  failure _ := ⟨payload, failed, ordered, carried, customer, order⟩
  ready other := absurd (named.symm.trans other) (by decide)

theorem Reason.of_ready (named : e.eventName = Events.orderFulfillmentReady)
    (credited : Happened w Events.loyaltyCredited e.correlationID)
    (reserved : Happened w Events.inventoryReserved e.correlationID) : Reason w e where
  credit other := absurd (named.symm.trans other) (by decide)
  failure other := absurd (named.symm.trans other) (by decide)
  ready _ := ⟨credited, reserved⟩

theorem Reason.of_external {topic : ExternalTopic} (named : e.eventName = topic.eventName) :
    Reason w e := by
  cases topic
  all_goals exact
    { credit := fun other => absurd (named.symm.trans other) (by decide)
      failure := fun other => absurd (named.symm.trans other) (by decide)
      ready := fun other => absurd (named.symm.trans other) (by decide) }

end Names

/-! ## The credit handler -/

/-- The terms of the loyalty handlers: they publish with reason and mark what they have
announced. -/
def loyaltyTerms : Terms World LoyaltyCall LoyaltyCall.Answer where
  guarantee w
    | .publish envelopes => ∀ e ∈ envelopes, Reason w e
    | .mark key => Announced w key
    | _ => True
  rely w
    | .findByCustomerID customerID, found =>
        ∀ agg ∈ found, agg.account.customerID = customerID ∧ agg.domainEvents = []
    | .publish envelopes, _ => ∀ e ∈ envelopes, e ∈ w
    | _, _ => True

/-- The command that a completed order asks for. -/
def Asked (w : World) (cmd : CreditLoyaltyRequest) : Prop :=
  ∃ payload overflow, Ordered w cmd.causationEventID cmd.correlationID payload ∧
    cmd.customerID = payload.customerID ∧ cmd.orderID = payload.orderID ∧
    cmd.points = OnOrderCompletedHandler.orderPoints overflow payload.totalAmount

theorem Asked.mono {w w' : World} {cmd : CreditLoyaltyRequest} (asked : Asked w cmd)
    (grown : w ≤ w') : Asked w' cmd := by
  obtain ⟨payload, overflow, ordered, rest⟩ := asked
  exact ⟨payload, overflow, ordered.mono grown, rest⟩

section Credit

open CreditLoyaltyHandler

variable {w : World} {amb : Loyalty.Ambient} {cmd : CreditLoyaltyRequest} {agg : LoyaltyAggregate}

theorem markKey_keeps (announced : Announced w cmd.causationEventID) :
    (markKey cmd agg).Keeps loyaltyTerms w := by
  rw [markKey]
  split
  · exact .attempt (fun _ grown => announced.mono grown) fun _ _ _ _ => .ret _
  · exact .ret _

theorem publishEvents_keeps (asked : Asked w cmd) {credit : LoyaltyCreditedEvent}
    (raised : agg.domainEvents = [.loyaltyCredited credit])
    (customer : credit.customerID = cmd.customerID) (order : credit.orderID = cmd.orderID)
    (points : credit.pointsEarned = cmd.points) :
    (publishEvents amb cmd agg).Keeps loyaltyTerms w := by
  have one : envelopes amb cmd agg.flushEvents.1 =
      [{ eventID := amb.eventID 0, correlationID := cmd.correlationID,
         causationID := cmd.causationEventID, eventName := Events.loyaltyCredited,
         occurredAt := credit.occurredAt, payload := some (.loyaltyCredited credit) }] := by
    show envelopes amb cmd agg.domainEvents = _
    rw [raised]
    rfl
  rw [publishEvents, one]
  refine .attempt (fun now grown e mem => ?_) fun after grown _ relied => ?_
  · obtain rfl := List.mem_singleton.mp mem
    obtain ⟨payload, overflow, ordered, sameCustomer, sameOrder, samePoints⟩ := asked.mono grown
    exact .of_credit rfl ordered rfl (customer.trans sameCustomer) (order.trans sameOrder)
      (points.trans samePoints)
  · exact markKey_keeps ⟨_, relied _ List.mem_cons_self, rfl, rfl⟩

theorem mutate_keeps (asked : Asked w cmd) (customer : agg.account.customerID = cmd.customerID)
    (quiet : agg.domainEvents = []) : (mutate amb cmd agg).Keeps loyaltyTerms w := by
  rw [mutate]
  split
  · exact .ret _
  · next pts valid =>
      have value : pts.value = cmd.points := by
        rw [newPoints] at valid
        split at valid <;> cases valid
        rfl
      split
      · exact .ret _
      · next credited credits =>
          rw [LoyaltyAggregate.creditPoints] at credits
          split at credits <;> cases credits
          refine .attempt (fun _ _ => trivial) fun after grown _ _ => ?_
          have raised : agg.domainEvents ++
              [.loyaltyCredited (LoyaltyAggregate.creditedEvent amb
                (LoyaltyAggregate.creditedAccount amb agg.account pts) cmd.orderID pts)] =
              [.loyaltyCredited (LoyaltyAggregate.creditedEvent amb
                (LoyaltyAggregate.creditedAccount amb agg.account pts) cmd.orderID pts)] := by
            rw [quiet, List.nil_append]
          exact publishEvents_keeps (asked.mono grown) raised customer rfl value

theorem loadOrCreate_keeps (asked : Asked w cmd) :
    (loadOrCreate amb cmd).Keeps loyaltyTerms w := by
  refine .attempt (fun _ _ => trivial) fun after grown found relied => ?_
  cases found with
  | none => exact mutate_keeps (asked.mono grown) rfl rfl
  | some agg =>
      obtain ⟨customer, quiet⟩ := relied agg rfl
      exact mutate_keeps (asked.mono grown) customer quiet

theorem credit_keeps (asked : Asked w cmd) :
    (CreditLoyaltyHandler.handle amb cmd).Keeps loyaltyTerms w := by
  rw [CreditLoyaltyHandler.handle]
  split
  · refine .attempt (fun _ _ => trivial) fun after grown found _ => ?_
    split
    · exact .ret _
    · exact loadOrCreate_keeps (asked.mono grown)
  · exact loadOrCreate_keeps asked

end Credit

theorem order_keeps {w : World} (amb : OnOrderCompletedHandler.OrderAmbient) {env : EventEnvelope}
    (mem : env ∈ w) (named : env.eventName = Events.orderCompleted) :
    (OnOrderCompletedHandler.handle (.registered amb.command) amb env).Keeps loyaltyTerms w := by
  rw [OnOrderCompletedHandler.handle]
  split
  · next payload typed =>
      have ordered : Ordered w env.eventID env.correlationID payload :=
        ⟨env, mem, named, rfl, rfl, typed⟩
      refine .andThen (credit_keeps ⟨payload, amb.overflow, ordered, rfl, rfl, rfl⟩)
        fun after grown result => ?_
      cases result with
      | ok r => exact .ret _
      | error err =>
          refine fun now later => ⟨fun e mem => ?_, fun _ _ _ _ => .ret _⟩
          obtain rfl := List.mem_singleton.mp mem
          exact .of_failure rfl (ordered.mono (le_trans grown later)) rfl rfl rfl
  · exact .ret _

/-! ## The saga -/

/-- The flags of a state are set for what has happened. -/
def Noted (w : World) (state : Saga.FulfillmentSagaState) : Prop :=
  (state.loyaltyCredited = true → Happened w Events.loyaltyCredited state.correlationID) ∧
    (state.inventoryReserved = true → Happened w Events.inventoryReserved state.correlationID)

theorem Noted.mono {w w' : World} {state : Saga.FulfillmentSagaState} (noted : Noted w state)
    (grown : w ≤ w') : Noted w' state :=
  ⟨fun set => (noted.1 set).mono grown, fun set => (noted.2 set).mono grown⟩

/-- The terms of the saga: it saves what has happened and publishes with reason. -/
def sagaTerms : Terms World Saga.SagaCall Saga.SagaCall.Answer where
  guarantee w
    | .findOrCreate _ => True
    | .save state => Noted w state
    | .publish e => Reason w e
  rely w
    | .findOrCreate c, state => Noted w state ∧ state.correlationID = c
    | _, _ => True

section Fulfilment

open Saga.OrderFulfillmentSaga

variable {w : World} {env : EventEnvelope} {state : Saga.FulfillmentSagaState}

theorem observe_noted (noted : Noted w state) (own : state.correlationID = env.correlationID)
    (mem : env ∈ w) : Noted w (state.observe env.eventName) := by
  rw [Saga.FulfillmentSagaState.observe]
  split
  · next named => exact ⟨fun _ => ⟨env, mem, named, own.symm⟩, noted.2⟩
  · split
    · next named => exact ⟨noted.1, fun _ => ⟨env, mem, named, own.symm⟩⟩
    · exact noted

theorem saveProgress_keeps (amb : Saga.OrderFulfillmentSaga.Ambient) (noted : Noted w state)
    (own : state.correlationID = env.correlationID) :
    (saveProgress amb env state).Keeps sagaTerms w := by
  refine .attempt (fun _ grown => noted.mono grown) fun after grown _ _ => ?_
  split
  · next ready =>
      obtain ⟨credited, reserved⟩ := Bool.and_eq_true_iff.mp ready
      have noted := noted.mono grown
      refine .attempt (fun _ grown => noted.mono grown) fun after later _ _ => ?_
      refine .attempt (fun _ grown => ?_) fun _ _ _ _ => .ret _
      have noted := noted.mono (le_trans later grown)
      exact .of_ready rfl (own ▸ noted.1 credited) (own ▸ noted.2 reserved)
  · exact .ret _

theorem saga_keeps (amb : Saga.OrderFulfillmentSaga.Ambient) (mem : env ∈ w) :
    (Saga.OrderFulfillmentSaga.handle amb env).Keeps sagaTerms w := by
  refine .attempt (fun _ _ => trivial) fun after grown state relied => ?_
  split
  · exact .ret _
  · refine saveProgress_keeps amb (observe_noted relied.1 relied.2 (grown mem)) ?_
    rw [Saga.FulfillmentSagaState.observe_eq]
    exact relied.2

end Fulfilment

/-! ## The services -/

/-- What the loyalty repositories answer may be relied on, and they mark only the key they
are asked to mark. -/
theorem loyalty_relied (fault : LoyaltyCall → Option LoyaltyError) (s : LoyaltyStore)
    (c : LoyaltyCall) (log : List EventEnvelope) :
    let served := serve.withFaults fault s c
    (∀ a, served.1 = .ok a → loyaltyTerms.rely
      (entries (log ++ served.2.published.drop s.published.length)) c a) ∧
      ∀ key ∈ served.2.keys, key ∈ s.keys ∨ c = .mark key := by
  intro served
  cases failed : fault c with
  | some e =>
      have result : served = (.error e, s) := Service.withFaults_some failed s
      rw [result]
      exact ⟨nofun, fun key mem => .inl mem⟩
  | none =>
      have result : served = serve s c := Service.withFaults_none failed s
      rw [result]
      cases c with
      | «exists» key => exact ⟨fun _ _ => trivial, fun key mem => .inl mem⟩
      | findByCustomerID customerID =>
          refine ⟨fun found lookup agg mem => ?_, fun key mem => .inl mem⟩
          have lookup : s.findByCustomerID customerID = .ok found := lookup
          obtain rfl : found = some agg := mem
          rw [LoyaltyStore.findByCustomerID] at lookup
          split at lookup
          · cases lookup
          · next row stored =>
              split at lookup <;> cases lookup
              exact ⟨(AccountTable.findByCustomer_some stored).2, rfl⟩
      | save agg =>
          refine ⟨fun _ _ => trivial, fun key mem => .inl ?_⟩
          cases outcome : s.save agg with
          | error e => simpa [serve, outcome, writeReply] using mem
          | ok t =>
              have frame := (CreditLoyaltyHandler.save_frame outcome).1
              simpa [serve, outcome, writeReply, frame] using mem
      | publish envelopes =>
          refine ⟨fun _ _ e mem => ?_, fun key mem => .inl mem⟩
          show e ∈ log ++ (s.published ++ envelopes).drop s.published.length
          rw [List.drop_left]
          exact List.mem_append_right _ mem
      | mark marked =>
          refine ⟨fun _ _ => trivial, fun key mem => ?_⟩
          cases outcome : s.mark marked with
          | error e => exact .inl (by simpa [serve, outcome, writeReply] using mem)
          | ok t =>
              obtain ⟨-, rfl⟩ := LoyaltyStore.mark_ok outcome
              have mem : key ∈ s.keys ++ [marked] := by
                simpa [serve, outcome, writeReply] using mem
              obtain mem | mem := List.mem_append.mp mem
              · exact .inl mem
              · exact .inr (by rw [List.mem_singleton.mp mem])

/-- What the repository of the saga answers may be relied on while it holds what has
happened, and it goes on doing so if what it is asked to save has happened. -/
theorem saga_relied (fault : Saga.SagaCall → Option Saga.SagaError) {s : Saga.SagaStore}
    {c : Saga.SagaCall} {w after : World} (grown : w ≤ after)
    (noted : ∀ c, Noted w (s.current c)) (guaranteed : sagaTerms.guarantee w c) :
    let served := Saga.serve.withFaults fault s c
    (∀ a, served.1 = .ok a → sagaTerms.rely after c a) ∧
      ∀ c, Noted after (served.2.current c) := by
  intro served
  cases failed : fault c with
  | some e =>
      have result : served = (.error e, s) := Service.withFaults_some failed s
      rw [result]
      exact ⟨nofun, fun c => (noted c).mono grown⟩
  | none =>
      have result : served = Saga.serve s c := Service.withFaults_none failed s
      rw [result]
      cases c with
      | findOrCreate c =>
          refine ⟨fun state answer => ?_, fun c' => ?_⟩
          · cases answer
            exact ⟨(noted c).mono grown, s.current_correlationID c⟩
          · show Noted after ((s.create c).current c')
            rw [Saga.SagaStore.current_create]
            exact (noted c').mono grown
      | save state =>
          refine ⟨fun _ _ => trivial, fun c => ?_⟩
          show Noted after ((s.save state).current c)
          rw [Saga.SagaStore.current_save]
          split
          · exact Noted.mono guaranteed grown
          · exact (noted c).mono grown
      | publish e => exact ⟨fun _ _ => trivial, fun c => (noted c).mono grown⟩

/-! ## The system -/

def Execution.Keeps (w : World) : Execution → Prop
  | .order program => program.Keeps loyaltyTerms w
  | .saga program => program.Keeps sagaTerms w

theorem Execution.Keeps.mono {w w' : World} {e : Execution} (keeps : e.Keeps w)
    (grown : w ≤ w') : e.Keeps w' := by
  cases e with
  | order program => exact Program.Keeps.mono keeps grown
  | saga program => exact Program.Keeps.mono keeps grown

/-- `OnOrderCompletedHandler` is subscribed to the topic of completed orders. -/
def Routed (s : System) : Action → Prop
  | .deliverOrder place _ => ∀ env ∈ s.log[place]?, env.eventName = Events.orderCompleted
  | _ => True

instance (s : System) : ∀ action, Decidable (Routed s action)
  | .deliverOrder place _ =>
      inferInstanceAs (Decidable (∀ env ∈ s.log[place]?, env.eventName = Events.orderCompleted))
  | .external _ _ | .deliverSaga _ _ | .call _ _ => .isTrue trivial

/-- The log, the stores and the executions in flight are true to what has happened. -/
structure Sound (marked : List String) (s : System) : Prop where
  reasoned : Reasoned Reason s.log
  noted : ∀ c, Noted (entries s.log) (s.saga.current c)
  announced : ∀ key ∈ s.loyalty.keys, key ∈ marked ∨ Announced (entries s.log) key
  running : ∀ e ∈ s.running, e.Keeps (entries s.log)

variable {marked : List String} {s : System}

theorem Sound.start (sound : Sound marked s) {e : Execution} (keeps : e.Keeps (entries s.log)) :
    Sound marked { s with running := s.running ++ [e] } := by
  refine { sound with running := fun other mem => ?_ }
  obtain old | new := List.mem_append.mp mem
  · exact sound.running other old
  · rwa [List.mem_singleton.mp new]

/-- The executions after one of them has made a call. -/
theorem Sound.running_set (sound : Sound marked s) {log : List EventEnvelope}
    (grown : entries s.log ≤ entries log) {k : Nat} {e : Execution}
    (keeps : e.Keeps (entries log)) :
    ∀ other ∈ s.running.set k e, other.Keeps (entries log) := by
  intro other mem
  obtain old | rfl := List.mem_or_eq_of_mem_set mem
  · exact (sound.running other old).mono grown
  · exact keeps

theorem Sound.step (sound : Sound marked s) {action : Action} (routed : Routed s action) :
    Sound marked (step s action) := by
  cases action with
  | external topic env =>
      have grown := entries_append_left s.log [{ env with eventName := topic.eventName }]
      exact
        { reasoned := sound.reasoned.concat (.of_external rfl)
          noted := fun c => (sound.noted c).mono grown
          announced := fun key mem => (sound.announced key mem).imp_right (·.mono grown)
          running := fun e mem => (sound.running e mem).mono grown }
  | deliverOrder place amb =>
      rw [Choreography.step]
      split
      · exact sound
      · next env found =>
          exact sound.start (order_keeps amb (List.mem_of_getElem? found) (routed env found))
  | deliverSaga place amb =>
      rw [Choreography.step]
      split
      · exact sound
      · next env found => exact sound.start (saga_keeps amb (List.mem_of_getElem? found))
  | call execution fault =>
      rw [Choreography.step]
      split
      · next c next found =>
          obtain ⟨guaranteed, later⟩ :=
            sound.running _ (List.mem_of_getElem? found) (entries s.log) (le_refl _)
          have grown := entries_append_left s.log ((serve.withFaults (fun _ => fault.map .external)
            s.loyalty c).2.published.drop s.loyalty.published.length)
          have published := loyalty_published_subset (fun _ => fault.map .external) s.loyalty c
          obtain ⟨relied, keys⟩ := loyalty_relied (fun _ => fault.map .external) s.loyalty c s.log
          exact
            { reasoned := sound.reasoned.append Reason.mono fun e mem => by
                have asked := published mem
                cases c with
                | publish envelopes => exact guaranteed e asked
                | _ => cases asked
              noted := fun c => (sound.noted c).mono grown
              announced := fun key mem => by
                obtain old | rfl := keys key mem
                · exact (sound.announced key old).imp_right (·.mono grown)
                · exact .inr (Announced.mono guaranteed grown)
              running := sound.running_set grown (later _ grown _ relied) }
      · next c next found =>
          obtain ⟨guaranteed, later⟩ :=
            sound.running _ (List.mem_of_getElem? found) (entries s.log) (le_refl _)
          have grown := entries_append_left s.log ((Saga.serve.withFaults (fun _ => fault)
            s.saga c).2.published.drop s.saga.published.length)
          have published := saga_published_subset (fun _ => fault) s.saga c
          obtain ⟨relied, noted⟩ := saga_relied (fun _ => fault) grown sound.noted guaranteed
          exact
            { reasoned := sound.reasoned.append Reason.mono fun e mem => by
                have asked := published mem
                cases c with
                | publish env =>
                    rw [List.mem_singleton.mp asked]
                    exact guaranteed
                | _ => cases asked
              noted := noted
              announced := fun key mem => (sound.announced key mem).imp_right (·.mono grown)
              running := sound.running_set grown (later _ grown _ relied) }
      · exact sound

theorem sound_start (loyalty : LoyaltyStore) : Sound loyalty.keys (start loyalty .empty) where
  reasoned := reasoned_nil
  noted _ := ⟨nofun, nofun⟩
  announced _ mem := .inl mem
  running _ mem := absurd mem List.not_mem_nil

theorem sound_run {loyalty : LoyaltyStore} {actions : List Action}
    (routed : Admitted step Routed (start loyalty .empty) actions) :
    Sound loyalty.keys (runFrom step (start loyalty .empty) actions) :=
  routed.invariant (fun _ _ sound routed => sound.step routed) (sound_start loyalty)

section Sample

open OnOrderCompletedHandler

/-- The values drawn while the sample order is handled. -/
def sampleOrderAmbient : OrderAmbient := (sampleDelivery fun _ => none).amb

def sampleRequest : CreditLoyaltyRequest :=
  creditRequest sampleOrderAmbient sampleOrder ⟨"order-1", "customer-1", 100.0⟩

/-- The order is completed, and its handler has looked for the key and for the account. -/
def sampleBeginning : List Action :=
  [.external .orderCompleted sampleOrder, .deliverOrder 0 sampleOrderAmbient, .call 0 none,
    .call 0 none]

/-- The credit is saved, announced and marked; stock is reserved; the saga handles both. -/
def sampleEnd : List Action :=
  [.call 0 none, .call 0 none, .call 0 none, .external .inventoryReserved sampleStock,
    .deliverSaga 1 ⟨"01FIRST", ⟨1700000003000000000⟩⟩, .call 1 none, .call 1 none,
    .deliverSaga 2 ⟨"01READY", ⟨1700000004000000000⟩⟩, .call 2 none, .call 2 none, .call 2 none,
    .call 2 none]

/-- What the sample run publishes: the order, its credit, the reservation, the announcement. -/
def sampleLog : List EventEnvelope :=
  [sampleOrder,
    CreditLoyaltyHandler.creditedEnvelope sampleOrderAmbient.command sampleRequest
      (CreditLoyaltyHandler.creditedAccount .empty sampleOrderAmbient.command sampleRequest),
    sampleStock,
    Saga.OrderFulfillmentSaga.readyEnvelope ⟨"01READY", ⟨1700000004000000000⟩⟩ sampleStock]

/-- The points of the order are a float that nothing here computes; that they are positive
is enough. -/
theorem sample_run :
    let s := runFrom step (start .empty .empty) (sampleBeginning ++ sampleEnd)
    s.log = sampleLog ∧ s.loyalty.keys = ["01ORDER"] := by
  have positive : 0 < sampleRequest.points := orderPoints_pos _ _
  have halfway : runFrom step (start .empty .empty) sampleBeginning =
      { loyalty := .empty, saga := .empty, log := [sampleOrder]
        running := [.order ((CreditLoyaltyHandler.mutate sampleOrderAmbient.command sampleRequest
          ⟨(newLoyaltyAggregate sampleOrderAmbient.command "customer-1").account, []⟩).andThen
            (compensate sampleOrderAmbient sampleOrder ⟨"order-1", "customer-1", 100.0⟩))] } := rfl
  rw [runFrom_append, halfway, CreditLoyaltyHandler.mutate_of_pos _ _ _ positive]
  exact ⟨rfl, rfl⟩

theorem sample_routed :
    Admitted step Routed (start .empty .empty) (sampleBeginning ++ sampleEnd) := by
  refine ⟨trivial, ?_, trivial, trivial, trivial, trivial, trivial, trivial, trivial, trivial,
    trivial, trivial, trivial, trivial, trivial, trivial, trivial⟩
  decide

end Sample

/-- Whatever is delivered, how often and in which order, however the executions interleave and
whatever calls fail: an order is announced as ready only after an order of that correlation id
was completed, its credit was announced and stock was reserved for it. -/
theorem fulfilment_is_earned (loyalty : LoyaltyStore) (actions : List Action)
    (routed : Admitted step Routed (start loyalty .empty) actions)
    (before after : List EventEnvelope) (ready : EventEnvelope)
    (split : (runFrom step (start loyalty .empty) actions).log = before ++ ready :: after)
    (named : ready.eventName = Events.orderFulfillmentReady) :
    ∃ order ∈ before, ∃ credit ∈ before, ∃ stock ∈ before,
      order.eventName = Events.orderCompleted ∧ credit.eventName = Events.loyaltyCredited ∧
      stock.eventName = Events.inventoryReserved ∧ credit.causationID = order.eventID ∧
      order.correlationID = ready.correlationID ∧ credit.correlationID = ready.correlationID ∧
      stock.correlationID = ready.correlationID := by
  have sound := sound_run routed
  obtain ⟨⟨credit, creditMem, credited, sameCredit⟩, ⟨stock, stockMem, reserved, sameStock⟩⟩ :=
    (sound.reasoned before ready after split).ready named
  -- The credit stands before the announcement, and what it rests on before the credit.
  obtain ⟨front, back, rfl⟩ := List.append_of_mem creditMem
  have reason := sound.reasoned front credit (back ++ ready :: after) (by simpa using split)
  obtain ⟨_, _, _, ⟨order, orderMem, completed, cause, sameOrder, -⟩, -⟩ := reason.credit credited
  exact ⟨order, List.mem_append_left _ orderMem, credit, creditMem, stock, stockMem, completed,
    credited, reserved, cause.symm, sameOrder.trans sameCredit, sameCredit, sameStock⟩

/-- The announcement of the sample order comes after all three. -/
theorem fulfilment_is_earned_sample :
    ∃ order ∈ sampleLog.take 3, ∃ credit ∈ sampleLog.take 3, ∃ stock ∈ sampleLog.take 3,
      order.eventName = Events.orderCompleted ∧ credit.eventName = Events.loyaltyCredited ∧
      stock.eventName = Events.inventoryReserved ∧ credit.causationID = order.eventID ∧
      order.correlationID = "trace-1" ∧ credit.correlationID = "trace-1" ∧
      stock.correlationID = "trace-1" :=
  fulfilment_is_earned .empty _ sample_routed (sampleLog.take 3) [] _ sample_run.1 rfl

/-- A credit or a compensation in the log is one for the order that caused it: it comes after
it and names the same customer and the same order, and a credit the points that the total of
the order gives. -/
theorem announcements_match_orders (loyalty : LoyaltyStore) (actions : List Action)
    (routed : Admitted step Routed (start loyalty .empty) actions)
    (before after : List EventEnvelope) (e : EventEnvelope)
    (split : (runFrom step (start loyalty .empty) actions).log = before ++ e :: after) :
    (e.eventName = Events.loyaltyCredited → ∃ order ∈ before, ∃ payload credit overflow,
      order.eventName = Events.orderCompleted ∧ order.eventID = e.causationID ∧
      order.payload = some (.orderCompleted payload) ∧
      e.payload = some (.loyaltyCredited credit) ∧ credit.customerID = payload.customerID ∧
      credit.orderID = payload.orderID ∧
      credit.pointsEarned = OnOrderCompletedHandler.orderPoints overflow payload.totalAmount) ∧
    (e.eventName = Events.loyaltyCreditFailed → ∃ order ∈ before, ∃ payload failed,
      order.eventName = Events.orderCompleted ∧ order.eventID = e.causationID ∧
      order.payload = some (.orderCompleted payload) ∧
      e.payload = some (.loyaltyCreditFailed failed) ∧ failed.customerID = payload.customerID ∧
      failed.orderID = payload.orderID) := by
  have reason := (sound_run routed).reasoned before e after split
  constructor
  · intro named
    obtain ⟨payload, overflow, credit, ⟨order, mem, isOrder, cause, -, typed⟩, carried, customer,
      sameOrder, points⟩ := reason.credit named
    exact ⟨order, mem, payload, credit, overflow, isOrder, cause, typed, carried, customer,
      sameOrder, points⟩
  · intro named
    obtain ⟨payload, failed, ⟨order, mem, isOrder, cause, -, typed⟩, carried, customer,
      sameOrder⟩ := reason.failure named
    exact ⟨order, mem, payload, failed, isOrder, cause, typed, carried, customer, sameOrder⟩

/-- The credit of the sample order names its customer. -/
theorem announcements_match_orders_sample :
    ∃ order ∈ [OnOrderCompletedHandler.sampleOrder], ∃ payload credit overflow,
      order.eventName = Events.orderCompleted ∧ order.eventID = "01ORDER" ∧
      order.payload = some (.orderCompleted payload) ∧
      (sampleLog[1]).payload = some (.loyaltyCredited credit) ∧
      credit.customerID = payload.customerID ∧ credit.orderID = payload.orderID ∧
      credit.pointsEarned = OnOrderCompletedHandler.orderPoints overflow payload.totalAmount :=
  (announcements_match_orders .empty _ sample_routed [OnOrderCompletedHandler.sampleOrder]
    (sampleLog.drop 2) sampleLog[1] sample_run.1).1 rfl

/-- At every moment of every interleaving, a key that was marked is one whose credit has been
announced: an event that is refused as a duplicate was never skipped. -/
theorem marked_keys_were_announced (loyalty : LoyaltyStore) (actions : List Action)
    (routed : Admitted step Routed (start loyalty .empty) actions) (key : String)
    (marked : key ∈ (runFrom step (start loyalty .empty) actions).loyalty.keys)
    (new : key ∉ loyalty.keys) :
    ∃ credit ∈ (runFrom step (start loyalty .empty) actions).log,
      credit.eventName = Events.loyaltyCredited ∧ credit.causationID = key :=
  ((sound_run routed).announced key marked).resolve_left new

/-- The key of the sample order. -/
theorem marked_keys_were_announced_sample :
    ∃ credit ∈ (runFrom step (start .empty .empty) (sampleBeginning ++ sampleEnd)).log,
      credit.eventName = Events.loyaltyCredited ∧ credit.causationID = "01ORDER" :=
  marked_keys_were_announced .empty _ sample_routed "01ORDER"
    (by rw [sample_run.2]; exact List.mem_singleton_self _) List.not_mem_nil

end GoOdin.Choreography
