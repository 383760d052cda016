import GoOdin.Interaction.Run
import GoOdin.Loyalty.CreditStages
import Mathlib.Logic.Function.Basic

/-!
# `GetLoyaltyBalanceHandler.Handle` and its cache

A query answers from the cache when it can, and otherwise reads the account and caches
what it read. The cache port is a map from customers to responses; `Operation.evict` is
an entry that expires or that `InvalidateBalance` drops. No handler calls
`InvalidateBalance`, so a credit leaves the cache as it is.

`Coherent` says that every cached response is what a read of the store would answer.
Queries and evictions keep it. A credit keeps it unless it writes the account of a
customer whose balance is cached, and then it always breaks it.
-/

namespace GoOdin.Loyalty

open Interaction

structure GetLoyaltyBalanceResponse where
  loyaltyAccountID : String
  customerID : String
  balance : Int64
  tier : String
  deriving DecidableEq, Repr

/-- The errors of the balance query. Those of the database and the cache are known only
by their text. -/
inductive BalanceError where
  | accountNotFound
  | external (message : String)
  deriving DecidableEq, Repr

def BalanceError.message : BalanceError → String
  | .accountNotFound => "loyalty account not found"
  | .external message => message

/-- The response `GetBalanceByCustomerID` builds from a row. -/
def balanceOfRow (row : LoyaltyAccountRow) : GetLoyaltyBalanceResponse where
  loyaltyAccountID := row.id
  customerID := row.customerID
  balance := row.balance
  tier := row.tier

/-- `loyaltyReadGormRepository.GetBalanceByCustomerID`. It reports a stored balance of
either sign. -/
def LoyaltyStore.getBalanceByCustomerID (s : LoyaltyStore) (customerID : String) :
    Except BalanceError GetLoyaltyBalanceResponse :=
  match s.accounts.findByCustomer customerID with
  | none => .error .accountNotFound
  | some row => .ok (balanceOfRow row)

/-- The calls of the query on the cache and on the read repository. -/
inductive BalanceCall where
  | getBalance (customerID : String)
  | getBalanceByCustomerID (customerID : String)
  | setBalance (customerID : String) (balance : GetLoyaltyBalanceResponse)

/-- `GetBalance` answers a response and a flag, here an option. -/
abbrev BalanceCall.Answer : BalanceCall → Type
  | .getBalance _ => Option GetLoyaltyBalanceResponse
  | .getBalanceByCustomerID _ => GetLoyaltyBalanceResponse
  | .setBalance _ _ => Unit

abbrev BalanceProgram :=
  Program BalanceCall BalanceCall.Answer BalanceError GetLoyaltyBalanceResponse

/-- The store and a cache in front of it. -/
structure CachedStore where
  store : LoyaltyStore
  cache : String → Option GetLoyaltyBalanceResponse

def CachedStore.serve : Service BalanceCall BalanceCall.Answer BalanceError CachedStore
  | s, .getBalance customerID => (.ok (s.cache customerID), s)
  | s, .getBalanceByCustomerID customerID => (s.store.getBalanceByCustomerID customerID, s)
  | s, .setBalance customerID balance =>
      (.ok (), { s with cache := Function.update s.cache customerID (some balance) })

namespace GetLoyaltyBalanceHandler

/-- Steps 2 and 3: read the account, then populate the cache if there is one. An error of
`SetBalance` is only logged. -/
def readThrough (hasCache : Bool) (customerID : String) : BalanceProgram :=
  .attempt (.getBalanceByCustomerID customerID) fun result : GetLoyaltyBalanceResponse =>
    if hasCache then .call (.setBalance customerID result) fun _ => .ret (.ok result)
    else .ret (.ok result)

/-- Step 1, then the rest. A cache that is nil is skipped, and one that fails or has no
entry falls through. -/
def handle (hasCache : Bool) (customerID : String) : BalanceProgram :=
  if hasCache then
    .call (.getBalance customerID) fun
      | .ok (some cached) => .ret (.ok cached)
      | _ => readThrough hasCache customerID
  else readThrough hasCache customerID

/-- Answer one query while nothing else is in progress. -/
def queryWith (hasCache : Bool) (fault : BalanceCall → Option BalanceError) (customerID : String)
    (s : CachedStore) : Except BalanceError GetLoyaltyBalanceResponse × CachedStore :=
  (handle hasCache customerID).run (CachedStore.serve.withFaults fault) s

variable {hasCache : Bool} {fault : BalanceCall → Option BalanceError} {customerID : String}
variable {s : CachedStore}

/-- The state after a read of this customer's account may have been cached. -/
inductive Cached (s : CachedStore) (customerID : String) (r : GetLoyaltyBalanceResponse) :
    CachedStore → Prop
  | unchanged : Cached s customerID r s
  | populated :
      Cached s customerID r { s with cache := Function.update s.cache customerID (some r) }

/-- All that reading through can do: fail without an effect, or answer what the store
holds. -/
theorem run_readThrough (hasCache : Bool) (fault : BalanceCall → Option BalanceError)
    (customerID : String) (s : CachedStore) :
    (∃ e, (readThrough hasCache customerID).run (CachedStore.serve.withFaults fault) s =
        (.error e, s)) ∨
      ∃ r t, s.store.getBalanceByCustomerID customerID = .ok r ∧ Cached s customerID r t ∧
        (readThrough hasCache customerID).run (CachedStore.serve.withFaults fault) s =
          (.ok r, t) := by
  cases failed : fault (.getBalanceByCustomerID customerID) with
  | some e => exact .inl ⟨e, Program.run_attempt_error (Service.withFaults_some failed s)⟩
  | none =>
      have reply : CachedStore.serve.withFaults fault s (.getBalanceByCustomerID customerID) =
          (s.store.getBalanceByCustomerID customerID, s) := Service.withFaults_none failed s
      cases read : s.store.getBalanceByCustomerID customerID with
      | error e =>
          rw [read] at reply
          exact .inl ⟨e, Program.run_attempt_error reply⟩
      | ok r =>
          rw [read] at reply
          right
          rw [readThrough, Program.run_attempt_ok reply]
          cases hasCache with
          | false => exact ⟨r, s, rfl, .unchanged, rfl⟩
          | true =>
              rw [if_pos rfl, Program.run_call]
              cases refused : fault (.setBalance customerID r) with
              | some e =>
                  rw [Service.withFaults_some refused]
                  exact ⟨r, s, rfl, .unchanged, rfl⟩
              | none =>
                  rw [Service.withFaults_none refused]
                  exact ⟨r, _, rfl, .populated, rfl⟩

/-- All that a query can do: answer the cached response, fail without an effect, or
answer what the store holds. -/
theorem queryWith_cases (hasCache : Bool) (fault : BalanceCall → Option BalanceError)
    (customerID : String) (s : CachedStore) :
    (∃ r, s.cache customerID = some r ∧ queryWith hasCache fault customerID s = (.ok r, s)) ∨
      (∃ e, queryWith hasCache fault customerID s = (.error e, s)) ∨
      ∃ r t, s.store.getBalanceByCustomerID customerID = .ok r ∧ Cached s customerID r t ∧
        queryWith hasCache fault customerID s = (.ok r, t) := by
  have through := run_readThrough hasCache fault customerID s
  unfold queryWith handle
  cases hasCache with
  | false => exact .inr through
  | true =>
      rw [if_pos rfl, Program.run_call]
      cases failed : fault (.getBalance customerID) with
      | some e =>
          rw [Service.withFaults_some failed]
          exact .inr through
      | none =>
          rw [Service.withFaults_none failed]
          cases entry : s.cache customerID with
          | none =>
              simp only [CachedStore.serve, entry]
              exact .inr through
          | some r =>
              simp only [CachedStore.serve, entry]
              exact .inl ⟨r, rfl, rfl⟩

/-- Every cached response is what a read of the store answers now. -/
def Coherent (s : CachedStore) : Prop :=
  ∀ customerID r, s.cache customerID = some r →
    s.store.getBalanceByCustomerID customerID = .ok r

/-- A query of a coherent cache answers what the store holds. -/
theorem Coherent.answer (coherent : Coherent s) {r : GetLoyaltyBalanceResponse}
    (answered : (queryWith hasCache fault customerID s).1 = .ok r) :
    s.store.getBalanceByCustomerID customerID = .ok r := by
  rcases queryWith_cases hasCache fault customerID s with
    ⟨hit, entry, run⟩ | ⟨e, run⟩ | ⟨r', t, read, _, run⟩
  · rw [run] at answered
    cases answered
    exact coherent customerID _ entry
  · rw [run] at answered
    cases answered
  · rw [run] at answered
    cases answered
    exact read

theorem Coherent.cached {r : GetLoyaltyBalanceResponse} {t : CachedStore}
    (coherent : Coherent s) (read : s.store.getBalanceByCustomerID customerID = .ok r)
    (cached : Cached s customerID r t) : Coherent t := by
  cases cached with
  | unchanged => exact coherent
  | populated =>
      intro other r' entry
      change Function.update s.cache customerID (some r) other = some r' at entry
      by_cases same : other = customerID
      · subst same
        rw [Function.update_self] at entry
        cases entry
        exact read
      · rw [Function.update_of_ne same] at entry
        exact coherent other r' entry

theorem Coherent.query (coherent : Coherent s) :
    Coherent (queryWith hasCache fault customerID s).2 := by
  rcases queryWith_cases hasCache fault customerID s with
    ⟨hit, entry, run⟩ | ⟨e, run⟩ | ⟨r, t, read, cached, run⟩
  · rw [run]
    exact coherent
  · rw [run]
    exact coherent
  · rw [run]
    exact coherent.cached read cached

end GetLoyaltyBalanceHandler

open CreditLoyaltyHandler GetLoyaltyBalanceHandler

namespace CachedStore

variable {s : CachedStore}

/-- What happens to the store and the cache: a command, a query, or an entry that goes
away. The first two come with the calls that fail in them. -/
inductive Operation where
  | credit (fault : LoyaltyCall → Option LoyaltyError) (amb : Ambient)
      (cmd : CreditLoyaltyRequest)
  | query (fault : BalanceCall → Option BalanceError) (customerID : String)
  | evict (customerID : String)

def step (hasCache : Bool) (s : CachedStore) : Operation → CachedStore
  | .credit fault amb cmd => { s with store := (creditWith fault amb cmd s.store).2 }
  | .query fault customerID => (queryWith hasCache fault customerID s).2
  | .evict customerID => { s with cache := Function.update s.cache customerID none }

/-- The account ids that `ulid.Make` draws are new. -/
def DrawsFreshIDs (s : CachedStore) : Operation → Prop
  | .credit _ amb cmd => FreshAccountID s.store amb cmd.customerID
  | _ => True

/-- A command writes no account whose balance is cached. -/
def SparesCache (s : CachedStore) : Operation → Prop
  | .credit fault amb cmd => s.cache cmd.customerID = none ∨ ¬ Writes fault s.store amb cmd
  | _ => True

theorem coherent_evict (coherent : Coherent s) (customerID : String) :
    Coherent { s with cache := Function.update s.cache customerID none } := by
  intro other r entry
  change Function.update s.cache customerID none other = some r at entry
  by_cases same : other = customerID
  · subst same
    rw [Function.update_self] at entry
    cases entry
  · rw [Function.update_of_ne same] at entry
    exact coherent other r entry

/-- What the read repository answers after a command that wrote: the credited account for
its customer, and what it answered before for everybody else. -/
theorem getBalance_of_writes {fault : LoyaltyCall → Option LoyaltyError} {store : LoyaltyStore}
    {amb : Ambient} {cmd : CreditLoyaltyRequest} (writes : Writes fault store amb cmd)
    (fresh : FreshAccountID store amb cmd.customerID) (customerID : String) :
    (creditWith fault amb cmd store).2.getBalanceByCustomerID customerID =
      if customerID = cmd.customerID then
        .ok (balanceOfRow (toRow (creditedAccount store amb cmd)))
      else store.getBalanceByCustomerID customerID := by
  obtain ⟨t, saves, saved⟩ := save_creditedAggregate cmd fresh
  have table := creditWith_accounts_of_writes writes saves
  have reads := saved.findByCustomer customerID
  rw [creditedAccount_customerID] at reads
  rw [LoyaltyStore.getBalanceByCustomerID, table, reads]
  by_cases same : customerID = cmd.customerID
  · rw [if_pos same, if_pos same]
  · rw [if_neg same, if_neg same]
    rfl

/-- The response from before a credit is not the response after it. -/
theorem credited_balance_ne {store : LoyaltyStore} {cmd : CreditLoyaltyRequest} (amb : Ambient)
    (positive : 0 < cmd.points) {r : GetLoyaltyBalanceResponse}
    (before : store.getBalanceByCustomerID cmd.customerID = .ok r) :
    balanceOfRow (toRow (creditedAccount store amb cmd)) ≠ r := by
  rw [LoyaltyStore.getBalanceByCustomerID] at before
  split at before
  · cases before
  · next row found =>
      intro same
      have balances := congrArg GetLoyaltyBalanceResponse.balance
        (same.trans (Except.ok.inj before).symm)
      exact creditedAccount_balance_ne amb positive found balances

/-- A command keeps the cache coherent exactly if it does not write, or writes an account
whose balance is not cached. -/
theorem coherent_credit_iff {fault : LoyaltyCall → Option LoyaltyError} {amb : Ambient}
    {cmd : CreditLoyaltyRequest} (coherent : Coherent s)
    (fresh : FreshAccountID s.store amb cmd.customerID) :
    Coherent { s with store := (creditWith fault amb cmd s.store).2 } ↔
      s.cache cmd.customerID = none ∨ ¬ Writes fault s.store amb cmd := by
  by_cases writes : Writes fault s.store amb cmd
  · have reads := getBalance_of_writes writes fresh
    constructor
    · intro after
      left
      by_contra entry
      obtain ⟨r, entry⟩ := Option.ne_none_iff_exists'.mp entry
      have now := after _ r entry
      rw [reads, if_pos rfl] at now
      exact credited_balance_ne amb writes.reaches.positive (coherent _ r entry)
        (Except.ok.inj now)
    · intro spared customerID r entry
      have absent := spared.resolve_right (not_not.mpr writes)
      have different : customerID ≠ cmd.customerID := by
        rintro rfl
        exact absurd (entry.symm.trans absent) (Option.some_ne_none r)
      change (creditWith fault amb cmd s.store).2.getBalanceByCustomerID customerID = _
      rw [reads, if_neg different]
      exact coherent customerID r entry
  · obtain ⟨e, run⟩ := creditWith_of_not_writes amb writes
    rw [run]
    exact iff_of_true coherent (.inr writes)

theorem coherent_step (hasCache : Bool) (op : Operation) (coherent : Coherent s)
    (allowed : SparesCache s op ∧ DrawsFreshIDs s op) : Coherent (step hasCache s op) := by
  cases op with
  | credit fault amb cmd => exact (coherent_credit_iff coherent allowed.2).mpr allowed.1
  | query fault customerID => exact coherent.query
  | evict customerID => exact coherent_evict coherent customerID

/-- In every mix of commands and queries that starts with an empty cache, and in which no
command writes an account whose balance is cached, each successful query answers what the
read repository would. -/
theorem cached_balance_agrees (hasCache : Bool) (store : LoyaltyStore)
    (before : List Operation) (fault : BalanceCall → Option BalanceError) (customerID : String)
    (fresh : Admitted (step hasCache) DrawsFreshIDs ⟨store, fun _ => none⟩ before)
    (spared : Admitted (step hasCache) SparesCache ⟨store, fun _ => none⟩ before)
    (r : GetLoyaltyBalanceResponse)
    (answered : (queryWith hasCache fault customerID
      (runFrom (step hasCache) ⟨store, fun _ => none⟩ before)).1 = .ok r) :
    (runFrom (step hasCache) ⟨store, fun _ => none⟩ before).store.getBalanceByCustomerID
      customerID = .ok r := by
  have initial : Coherent ⟨store, fun _ => none⟩ := fun _ _ entry => nomatch entry
  have coherent := (spared.and fresh).invariant
    (fun _ op coherent allowed => coherent_step hasCache op coherent allowed) initial
  exact coherent.answer answered

/-- Two customers are credited, one before and one after the balance of the first is
cached. -/
def sampleOperations : List Operation :=
  [.credit (fun _ => none) sampleAmbient sampleCommand,
    .query (fun _ => none) "customer-1",
    .credit (fun _ => none) { sampleAmbient with accountID := "02ACCOUNT" }
      { sampleCommand with customerID := "customer-2", causationEventID := "02ORDER" }]

theorem cached_balance_agrees_two_customers :
    (runFrom (step true) ⟨sampleStore, fun _ => none⟩
      sampleOperations).store.getBalanceByCustomerID "customer-1" =
        .ok ⟨"01ACCOUNT", "customer-1", 110, "BRONZE"⟩ :=
  cached_balance_agrees true sampleStore sampleOperations (fun _ => none) "customer-1"
    ⟨fun absent => absurd absent (by decide), trivial, fun _ => by decide, trivial⟩
    ⟨.inl rfl, trivial, .inl (by decide), trivial⟩ _ (by decide)

/-- A balance is read, ten points are credited, and the next query still answers the old
balance. -/
theorem credit_leaves_stale_balance :
    let s := runFrom (step true) ⟨sampleStore, fun _ => none⟩
      [.query (fun _ => none) "customer-1", .credit (fun _ => none) sampleAmbient sampleCommand]
    (queryWith true (fun _ => none) "customer-1" s).1 =
        .ok ⟨"01ACCOUNT", "customer-1", 100, "BRONZE"⟩ ∧
      s.store.getBalanceByCustomerID "customer-1" =
        .ok ⟨"01ACCOUNT", "customer-1", 110, "BRONZE"⟩ := by
  decide

end CachedStore

end GoOdin.Loyalty
