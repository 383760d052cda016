import GoOdin.Loyalty.CreditHandler

/-!
# The credit handler run alone, with failing calls

Each of the five repository calls may fail, independently of the others; a call
that fails has no effect. The handler makes no identical call twice, so a choice
of failing calls is a function of the call. Up to the save the handler only reads,
and a run that ends there leaves the store as it was. After the save nothing
undoes it: the registrar passes the plain repositories and no caller opens a
transaction around the handler.
-/

namespace GoOdin.Loyalty.CreditLoyaltyHandler

open Interaction

variable {fault : LoyaltyCall → Option LoyaltyError} {s : LoyaltyStore}
variable {amb : Ambient} {cmd : CreditLoyaltyRequest}

/-- Handle one command while no other execution is in progress. -/
def creditWith (fault : LoyaltyCall → Option LoyaltyError) (amb : Ambient)
    (cmd : CreditLoyaltyRequest) (s : LoyaltyStore) :
    Except LoyaltyError CreditLoyaltyResponse × LoyaltyStore :=
  (handle amb cmd).run (serve.withFaults fault) s

/-- The run gets as far as calling `Save`: the key is empty, or the check answers
and finds it unmarked; the account loads; and the points are positive. -/
structure ReachesSave (fault : LoyaltyCall → Option LoyaltyError) (s : LoyaltyStore)
    (cmd : CreditLoyaltyRequest) : Prop where
  unmarked : cmd.causationEventID ≠ "" →
    fault (.exists cmd.causationEventID) = none ∧ cmd.causationEventID ∉ s.keys
  answered : fault (.findByCustomerID cmd.customerID) = none
  loadable : Loadable s cmd.customerID
  positive : 0 < cmd.points

theorem run_loadOrCreate (answered : fault (.findByCustomerID cmd.customerID) = none)
    (loadable : Loadable s cmd.customerID) :
    (loadOrCreate amb cmd).run (serve.withFaults fault) s =
      (mutate amb cmd ⟨baseAccount s amb cmd.customerID, []⟩).run (serve.withFaults fault) s := by
  obtain ⟨found, lookup, base⟩ := findByCustomerID_of_loadable loadable amb
  have reply : serve.withFaults fault s (.findByCustomerID cmd.customerID) = (.ok found, s) := by
    rw [Service.withFaults_none answered]
    exact congrArg (·, s) lookup
  rw [loadOrCreate, Program.run_attempt_ok reply, base]

private theorem run_loadOrCreate_error
    (rejected : ¬ (fault (.findByCustomerID cmd.customerID) = none ∧
      Loadable s cmd.customerID ∧ 0 < cmd.points)) :
    ∃ e, (loadOrCreate amb cmd).run (serve.withFaults fault) s = (.error e, s) := by
  cases failed : fault (.findByCustomerID cmd.customerID) with
  | some e => exact ⟨e, Program.run_attempt_error (Service.withFaults_some failed s)⟩
  | none =>
      by_cases loadable : Loadable s cmd.customerID
      · have notPositive : ¬ 0 < cmd.points := fun h => rejected ⟨failed, loadable, h⟩
        obtain ⟨e, stopped⟩ :=
          mutate_of_not_pos amb cmd ⟨baseAccount s amb cmd.customerID, []⟩ notPositive
        refine ⟨e, ?_⟩
        rw [run_loadOrCreate failed loadable, stopped]
        rfl
      · obtain ⟨e, lookup⟩ := findByCustomerID_of_not_loadable loadable
        refine ⟨e, Program.run_attempt_error ?_⟩
        rw [Service.withFaults_none failed]
        exact congrArg (·, s) lookup

/-- The check passes when it answers and the key is not marked. -/
theorem run_handle_unmarked
    (unmarked : cmd.causationEventID ≠ "" →
      fault (.exists cmd.causationEventID) = none ∧ cmd.causationEventID ∉ s.keys) :
    creditWith fault amb cmd s =
      (loadOrCreate amb cmd).run (serve.withFaults fault) s := by
  unfold creditWith handle
  by_cases key : cmd.causationEventID ≠ ""
  · obtain ⟨answered, absent⟩ := unmarked key
    have reply : serve.withFaults fault s (.exists cmd.causationEventID) = (.ok false, s) := by
      rw [Service.withFaults_none answered]
      simp [serve, LoyaltyStore.existsKey, absent]
    rw [if_pos key, Program.run_attempt_ok reply]
    rfl
  · rw [if_neg key]

theorem creditWith_of_reachesSave (reaches : ReachesSave fault s cmd) :
    creditWith fault amb cmd s =
      (saveAggregate amb cmd (creditedAggregate s amb cmd)).run (serve.withFaults fault) s := by
  rw [run_handle_unmarked reaches.unmarked,
    run_loadOrCreate reaches.answered reaches.loadable,
    mutate_of_pos amb cmd _ reaches.positive]
  rfl

/-- Every exit before the save returns an error and has changed nothing. -/
theorem creditWith_of_not_reachesSave (amb : Ambient) (stopped : ¬ ReachesSave fault s cmd) :
    ∃ e, creditWith fault amb cmd s = (.error e, s) := by
  by_cases unmarked : cmd.causationEventID ≠ "" →
      fault (.exists cmd.causationEventID) = none ∧ cmd.causationEventID ∉ s.keys
  · rw [run_handle_unmarked unmarked]
    apply run_loadOrCreate_error
    rintro ⟨answered, loadable, positive⟩
    exact stopped ⟨unmarked, answered, loadable, positive⟩
  · rw [Classical.not_imp] at unmarked
    obtain ⟨key, checked⟩ := unmarked
    unfold creditWith handle
    rw [if_pos key]
    cases failed : fault (.exists cmd.causationEventID) with
    | some e => exact ⟨e, Program.run_attempt_error (Service.withFaults_some failed s)⟩
    | none =>
        have marked : cmd.causationEventID ∈ s.keys :=
          Classical.not_not.mp fun absent => checked ⟨failed, absent⟩
        have reply : serve.withFaults fault s (.exists cmd.causationEventID) = (.ok true, s) := by
          rw [Service.withFaults_none failed]
          simp [serve, LoyaltyStore.existsKey, marked]
        exact ⟨.duplicateEvent, by rw [Program.run_attempt_ok reply]; rfl⟩

/-- The store after the save and the publish of one credit. -/
def announced (amb : Ambient) (cmd : CreditLoyaltyRequest) (account : LoyaltyAccount)
    (t : LoyaltyStore) : LoyaltyStore :=
  t.publish [creditedEnvelope amb cmd account]

theorem run_saveAggregate {agg : LoyaltyAggregate} {t : LoyaltyStore}
    (answered : fault (.save agg) = none) (saved : s.save agg = .ok t) :
    (saveAggregate amb cmd agg).run (serve.withFaults fault) s =
      (publishEvents amb cmd agg).run (serve.withFaults fault) t := by
  have reply : serve.withFaults fault s (.save agg) = (.ok (), t) := by
    rw [Service.withFaults_none answered]
    simp [serve, saved, writeReply]
  rw [saveAggregate, Program.run_attempt_ok reply]

theorem run_publishEvents {account : LoyaltyAccount} {t : LoyaltyStore}
    (answered : fault (.publish [creditedEnvelope amb cmd account]) = none) :
    (publishEvents amb cmd (raised amb cmd account)).run (serve.withFaults fault) t =
      (markKey cmd ⟨account, []⟩).run (serve.withFaults fault) (announced amb cmd account t) := by
  have reply : serve.withFaults fault t (.publish [creditedEnvelope amb cmd account]) =
      (.ok (), announced amb cmd account t) := Service.withFaults_none answered t
  rw [publishEvents, envelopes_raised, Program.run_attempt_ok reply]
  rfl

theorem run_publishEvents_error {account : LoyaltyAccount} {t : LoyaltyStore} {e : LoyaltyError}
    (failed : fault (.publish [creditedEnvelope amb cmd account]) = some e) :
    (publishEvents amb cmd (raised amb cmd account)).run (serve.withFaults fault) t =
      (.error e, t) := by
  rw [publishEvents, envelopes_raised]
  exact Program.run_attempt_error (Service.withFaults_some failed t)

/-- The store after step 6, which does nothing for an empty key. -/
def marked (cmd : CreditLoyaltyRequest) (t : LoyaltyStore) : LoyaltyStore :=
  if cmd.causationEventID ≠ "" then { t with keys := t.keys ++ [cmd.causationEventID] } else t

@[simp] theorem marked_accounts (cmd : CreditLoyaltyRequest) (t : LoyaltyStore) :
    (marked cmd t).accounts = t.accounts := by
  unfold marked
  split <;> rfl

@[simp] theorem marked_published (cmd : CreditLoyaltyRequest) (t : LoyaltyStore) :
    (marked cmd t).published = t.published := by
  unfold marked
  split <;> rfl

theorem run_markKey {agg : LoyaltyAggregate} {t : LoyaltyStore}
    (answered : cmd.causationEventID ≠ "" →
      fault (.mark cmd.causationEventID) = none ∧ cmd.causationEventID ∉ t.keys) :
    (markKey cmd agg).run (serve.withFaults fault) t = (.ok (response agg), marked cmd t) := by
  unfold markKey marked
  by_cases key : cmd.causationEventID ≠ ""
  · obtain ⟨answered, absent⟩ := answered key
    have reply : serve.withFaults fault t (.mark cmd.causationEventID) =
        (.ok (), { t with keys := t.keys ++ [cmd.causationEventID] }) := by
      rw [Service.withFaults_none answered]
      simp [serve, LoyaltyStore.mark, absent, writeReply]
    rw [if_pos key, if_pos key, Program.run_attempt_ok reply]
    rfl
  · rw [if_neg key, if_neg key]
    rfl

theorem run_markKey_error {agg : LoyaltyAggregate} {t : LoyaltyStore} {e : LoyaltyError}
    (key : cmd.causationEventID ≠ "") (failed : fault (.mark cmd.causationEventID) = some e) :
    (markKey cmd agg).run (serve.withFaults fault) t = (.error e, t) := by
  rw [markKey, if_pos key]
  exact Program.run_attempt_error (Service.withFaults_some failed t)

/-- The whole run when it reaches the save and no call fails from there on. -/
theorem creditWith_success (reaches : ReachesSave fault s cmd)
    (fresh : FreshAccountID s amb cmd.customerID)
    (saveAnswered : fault (.save (creditedAggregate s amb cmd)) = none)
    (published :
      fault (.publish [creditedEnvelope amb cmd (creditedAccount s amb cmd)]) = none)
    (markAnswered : cmd.causationEventID ≠ "" → fault (.mark cmd.causationEventID) = none) :
    ∃ t, Saved s (creditedAccount s amb cmd) t ∧
      creditWith fault amb cmd s =
        (.ok (response ⟨creditedAccount s amb cmd, []⟩),
          marked cmd (announced amb cmd (creditedAccount s amb cmd) t)) := by
  obtain ⟨t, saves, saved⟩ := save_creditedAggregate cmd fresh
  refine ⟨t, saved, ?_⟩
  rw [creditWith_of_reachesSave reaches, run_saveAggregate saveAnswered saves,
    creditedAggregate, run_publishEvents published]
  apply run_markKey
  intro key
  refine ⟨markAnswered key, ?_⟩
  change cmd.causationEventID ∉ t.keys
  rw [saved.keys]
  exact (reaches.unmarked key).2

/-- A save touches the account table only. -/
theorem save_frame {agg : LoyaltyAggregate} {t : LoyaltyStore} (saves : s.save agg = .ok t) :
    t.keys = s.keys ∧ t.published = s.published := by
  unfold LoyaltyStore.save at saves
  split at saves
  · cases saves
  · cases saves
    exact ⟨rfl, rfl⟩

theorem run_markKey_cases (fault : LoyaltyCall → Option LoyaltyError)
    (cmd : CreditLoyaltyRequest) (agg : LoyaltyAggregate) (t : LoyaltyStore) :
    (cmd.causationEventID ≠ "" ∧
        ∃ e, (markKey cmd agg).run (serve.withFaults fault) t = (.error e, t)) ∨
      (markKey cmd agg).run (serve.withFaults fault) t = (.ok (response agg), marked cmd t) := by
  by_cases key : cmd.causationEventID ≠ ""
  · cases failed : fault (.mark cmd.causationEventID) with
    | some e => exact .inl ⟨key, e, run_markKey_error key failed⟩
    | none =>
        by_cases taken : cmd.causationEventID ∈ t.keys
        · refine .inl ⟨key, LoyaltyStore.duplicateKey, ?_⟩
          rw [markKey, if_pos key]
          apply Program.run_attempt_error
          rw [Service.withFaults_none failed]
          simp [serve, LoyaltyStore.mark, taken, writeReply]
        · exact .inr (run_markKey fun _ => ⟨failed, taken⟩)
  · exact .inr (run_markKey fun h => absurd h key)

private theorem run_saveAggregate_cases (agg : LoyaltyAggregate) :
    (∃ e, (saveAggregate amb cmd agg).run (serve.withFaults fault) s = (.error e, s)) ∨
      ∃ t, s.save agg = .ok t ∧
        (saveAggregate amb cmd agg).run (serve.withFaults fault) s =
          (publishEvents amb cmd agg).run (serve.withFaults fault) t := by
  cases failed : fault (.save agg) with
  | some e => exact .inl ⟨e, Program.run_attempt_error (Service.withFaults_some failed s)⟩
  | none =>
      cases outcome : s.save agg with
      | error e =>
          refine .inl ⟨e, Program.run_attempt_error ?_⟩
          rw [Service.withFaults_none failed]
          simp [serve, outcome, writeReply]
      | ok t => exact .inr ⟨t, rfl, run_saveAggregate failed outcome⟩

/-- All a run can do: stop before or at the save, or save and then fail to publish,
fail to mark, or succeed. -/
theorem creditWith_cases (fault : LoyaltyCall → Option LoyaltyError) (amb : Ambient)
    (cmd : CreditLoyaltyRequest) (s : LoyaltyStore) :
    (∃ e, creditWith fault amb cmd s = (.error e, s)) ∨
      ∃ t, ReachesSave fault s cmd ∧ s.save (creditedAggregate s amb cmd) = .ok t ∧
        ((∃ e, creditWith fault amb cmd s = (.error e, t)) ∨
          (cmd.causationEventID ≠ "" ∧ ∃ e, creditWith fault amb cmd s =
            (.error e, announced amb cmd (creditedAccount s amb cmd) t)) ∨
          creditWith fault amb cmd s =
            (.ok (response ⟨creditedAccount s amb cmd, []⟩),
              marked cmd (announced amb cmd (creditedAccount s amb cmd) t))) := by
  by_cases reaches : ReachesSave fault s cmd
  · rw [creditWith_of_reachesSave reaches]
    rcases run_saveAggregate_cases (creditedAggregate s amb cmd) with stopped | ⟨t, saves, run⟩
    · exact .inl stopped
    · refine .inr ⟨t, reaches, saves, ?_⟩
      rw [run]
      cases published : fault (.publish [creditedEnvelope amb cmd (creditedAccount s amb cmd)]) with
      | some e => exact .inl ⟨e, run_publishEvents_error published⟩
      | none =>
          rw [creditedAggregate, run_publishEvents published]
          exact .inr (run_markKey_cases _ _ _ _)
  · exact .inl (creditWith_of_not_reachesSave amb reaches)

/-- Step 4 never violates a constraint: a customer without an account clashes with no
row, and one with an account is found under its own id. -/
theorem save_creditedAggregate_ok (s : LoyaltyStore) (amb : Ambient)
    (cmd : CreditLoyaltyRequest) : ∃ t, s.save (creditedAggregate s amb cmd) = .ok t := by
  cases lookup : s.accounts.findByCustomer cmd.customerID with
  | none =>
      by_cases freshID : ∀ row ∈ s.accounts.rows, row.id ≠ (toRow (creditedAccount s amb cmd)).id
      · obtain ⟨t, saves, _⟩ := save_creditedAggregate_new lookup freshID
        exact ⟨t, saves⟩
      · push Not at freshID
        obtain ⟨row, mem, same⟩ := freshID
        refine ⟨{ s with accounts := s.accounts.update (toRow (creditedAccount s amb cmd)) }, ?_⟩
        simp only [LoyaltyStore.save, creditedAggregate, raised,
          AccountTable.upsert_of_mem mem same]
  | some row =>
      obtain ⟨t, saves, _⟩ := save_creditedAggregate_existing lookup
      exact ⟨t, saves⟩

/-- The run gets to the save, and the save answers. -/
structure Writes (fault : LoyaltyCall → Option LoyaltyError) (s : LoyaltyStore) (amb : Ambient)
    (cmd : CreditLoyaltyRequest) : Prop where
  reaches : ReachesSave fault s cmd
  saved : fault (.save (creditedAggregate s amb cmd)) = none

/-- A run that does not write returns an error and has changed nothing. -/
theorem creditWith_of_not_writes (amb : Ambient) (stopped : ¬ Writes fault s amb cmd) :
    ∃ e, creditWith fault amb cmd s = (.error e, s) := by
  by_cases reaches : ReachesSave fault s cmd
  · cases saved : fault (.save (creditedAggregate s amb cmd)) with
    | some e =>
        rw [creditWith_of_reachesSave reaches]
        exact ⟨e, Program.run_attempt_error (Service.withFaults_some saved s)⟩
    | none => exact absurd ⟨reaches, saved⟩ stopped
  · exact creditWith_of_not_reachesSave amb reaches

/-- Nothing after the save touches the accounts. -/
theorem creditWith_accounts_of_writes (writes : Writes fault s amb cmd) {t : LoyaltyStore}
    (saves : s.save (creditedAggregate s amb cmd) = .ok t) :
    (creditWith fault amb cmd s).2.accounts = t.accounts := by
  rw [creditWith_of_reachesSave writes.reaches, run_saveAggregate writes.saved saves]
  cases published : fault (.publish [creditedEnvelope amb cmd (creditedAccount s amb cmd)]) with
  | some e => rw [creditedAggregate, run_publishEvents_error published]
  | none =>
      rw [creditedAggregate, run_publishEvents published]
      rcases run_markKey_cases fault cmd ⟨creditedAccount s amb cmd, []⟩
        (announced amb cmd (creditedAccount s amb cmd) t) with ⟨_, e, run⟩ | run
      · rw [run]
        rfl
      · rw [run, marked_accounts]
        rfl

/-- The balance to be saved is not the one the account had. -/
theorem creditedAccount_balance_ne (amb : Ambient) (positive : 0 < cmd.points)
    {row : LoyaltyAccountRow} (found : s.accounts.findByCustomer cmd.customerID = some row) :
    (toRow (creditedAccount s amb cmd)).balance ≠ row.balance := by
  have loaded := baseAccount_balance_of_found found amb
  have written : (toRow (creditedAccount s amb cmd)).balance =
      (baseAccount s amb cmd.customerID).balance.value + cmd.points := rfl
  intro unchanged
  have zero : cmd.points = 0 := by grind
  rw [zero] at positive
  exact Int64.lt_irrefl positive

/-- A save that credited points is visible: the balance it wrote is another one. -/
theorem Saved.accounts_ne {t : LoyaltyStore} (saved : Saved s (creditedAccount s amb cmd) t)
    (positive : 0 < cmd.points) : t.accounts ≠ s.accounts := by
  intro unchanged
  have row := saved.self
  rw [unchanged, creditedAccount_customerID] at row
  exact creditedAccount_balance_ne amb positive row rfl

section AllOrNothing

/-- A choice of failing calls that looks only at the repository method. -/
def byMethod (fault : CallKind → Option LoyaltyError) : LoyaltyCall → Option LoyaltyError :=
  fun c => fault c.kind

/-- If the dispatched handler returns an error, accounts, keys and published
messages are what they were. The choice of failing calls is by repository method. -/
def AllOrNothing (fault : CallKind → Option LoyaltyError) (amb : Ambient)
    (cmd : CreditLoyaltyRequest) (s : LoyaltyStore) : Prop :=
  ∀ e, (creditWith (byMethod fault) amb cmd s).1 = .error e →
    (creditWith (byMethod fault) amb cmd s).2 = s

/-- The run gets past an answered save, and a later call of it fails. -/
def FailsAfterSave (fault : CallKind → Option LoyaltyError) (cmd : CreditLoyaltyRequest)
    (s : LoyaltyStore) : Prop :=
  ReachesSave (byMethod fault) s cmd ∧ fault .save = none ∧
    (fault .publish ≠ none ∨ cmd.causationEventID ≠ "" ∧ fault .mark ≠ none)

variable {fault : CallKind → Option LoyaltyError}

/-- A failure behind the save returns an error from a changed account table. -/
theorem failsAfterSave_changes (fresh : FreshAccountID s amb cmd.customerID)
    (late : FailsAfterSave fault cmd s) :
    ∃ e t, creditWith (byMethod fault) amb cmd s = (.error e, t) ∧
      t.accounts ≠ s.accounts := by
  obtain ⟨reaches, saveAnswered, later⟩ := late
  obtain ⟨t, saves, saved⟩ := save_creditedAggregate cmd fresh
  have changed := saved.accounts_ne reaches.positive
  rw [creditWith_of_reachesSave reaches, run_saveAggregate saveAnswered saves]
  cases published : fault .publish with
  | some e => exact ⟨e, t, run_publishEvents_error published, changed⟩
  | none =>
      obtain ⟨key, failed⟩ := later.resolve_left (not_not.mpr published)
      obtain ⟨e, failed⟩ := Option.ne_none_iff_exists'.mp failed
      refine ⟨e, announced amb cmd (creditedAccount s amb cmd) t, ?_, changed⟩
      rw [creditedAggregate, run_publishEvents published]
      exact run_markKey_error key failed

/-- Without such a failure a run that gets to the save either fails there, with no
effect, or goes through to success. -/
theorem creditWith_of_not_failsAfterSave (fresh : FreshAccountID s amb cmd.customerID)
    (reaches : ReachesSave (byMethod fault) s cmd) (early : ¬ FailsAfterSave fault cmd s) :
    (∃ e, creditWith (byMethod fault) amb cmd s = (.error e, s)) ∨
      ∃ r t, creditWith (byMethod fault) amb cmd s = (.ok r, t) := by
  cases saveAnswered : fault .save with
  | some e =>
      have failed : byMethod fault (.save (creditedAggregate s amb cmd)) = some e := saveAnswered
      rw [creditWith_of_reachesSave reaches]
      exact .inl ⟨e, Program.run_attempt_error (Service.withFaults_some failed s)⟩
  | none =>
      right
      have notLater := fun later => early ⟨reaches, saveAnswered, later⟩
      have published : fault .publish = none := not_not.mp fun h => notLater (.inl h)
      obtain ⟨t, _, run⟩ := creditWith_success reaches fresh saveAnswered published
        fun key => not_not.mp fun h => notLater (.inr ⟨key, h⟩)
      exact ⟨_, _, run⟩

/-- The handler is all-or-nothing exactly when no call fails behind an answered
save. -/
theorem allOrNothing_iff (fault : CallKind → Option LoyaltyError) (amb : Ambient)
    (cmd : CreditLoyaltyRequest) (s : LoyaltyStore)
    (fresh : FreshAccountID s amb cmd.customerID) :
    AllOrNothing fault amb cmd s ↔ ¬ FailsAfterSave fault cmd s := by
  constructor
  · intro atomic late
    obtain ⟨e, t, failed, changed⟩ := failsAfterSave_changes fresh late
    have same := atomic e (by rw [failed])
    rw [failed] at same
    exact changed (congrArg LoyaltyStore.accounts same)
  · intro early e failed
    by_cases reaches : ReachesSave (byMethod fault) s cmd
    · rcases creditWith_of_not_failsAfterSave fresh reaches early with ⟨_, run⟩ | ⟨r, t, run⟩
      · rw [run]
      · rw [run] at failed
        cases failed
    · obtain ⟨_, run⟩ := creditWith_of_not_reachesSave amb reaches
      rw [run]

/-- A save is refused: the caller gets the error, and the stored account is as it was. -/
theorem allOrNothing_save_refused :
    let refused : CallKind → Option LoyaltyError :=
      fun | .save => some (.external "disk full") | _ => none
    (creditWith (byMethod refused) sampleAmbient sampleCommand sampleStore).1 =
        .error (.external "disk full") ∧
      AllOrNothing refused sampleAmbient sampleCommand sampleStore := by
  intro refused
  have fresh : FreshAccountID sampleStore sampleAmbient "customer-1" := by
    intro missing
    cases missing
  refine ⟨rfl, (allOrNothing_iff refused sampleAmbient sampleCommand sampleStore fresh).mpr ?_⟩
  intro late
  cases late.2.1

/-- The publish fails after the save: the caller gets the error and the balance
stays. -/
theorem publish_failure_keeps_account :
    ¬ AllOrNothing (fun | .publish => some (.external "broker unavailable") | _ => none)
      sampleAmbient sampleCommand LoyaltyStore.empty := by
  intro atomic
  have same := atomic (.external "broker unavailable") rfl
  have rows := congrArg (fun t => t.accounts.rows.length) same
  exact absurd rows (by decide)

end AllOrNothing

end GoOdin.Loyalty.CreditLoyaltyHandler
