import GoOdin.Http.ErrorHandler
import GoOdin.Loyalty.BalanceQuery
import GoOdin.Loyalty.Ledger
import GoOdin.Loyalty.OrderCompleted

/-!
# The loyalty endpoints

`LoyaltyController` has one route that reads a balance and one that credits points. Both go
through a bus to the use case, and through `NewServiceError` and `HttpErrorHandler` when that
fails. The registrar wires the balance query to the cache that never caches.

A client knows nothing of this. For a client the service is a ledger: the list of the commands
that took effect, each with the account id that was drawn for it. `answer` is what the ledger
has to say to a request. The theorem of this module is that requests that come one after another
get exactly these replies, as long as the repositories answer and the sums fit.

What echo binds from a body is a parameter, as are the time and the request ids.
-/

namespace GoOdin.Http

open Interaction Loyalty Loyalty.CreditLoyaltyHandler

/-! ## Buses and cache -/

structure QueryBus where
  handlers : String → Option (String → BalanceProgram)

namespace QueryBus

def empty : QueryBus := ⟨fun _ => none⟩

def register (bus : QueryBus) (name : String) (fn : String → BalanceProgram) : QueryBus :=
  ⟨fun other => if other = name then some fn else bus.handlers other⟩

/-- `Ask` with a `GetLoyaltyBalanceRequest` for a customer. -/
def ask (bus : QueryBus) (customerID : String) : BalanceProgram :=
  match bus.handlers "loyalty.get_balance" with
  | none => .ret (.error (.external "no handler registered for query: loyalty.get_balance"))
  | some fn => fn customerID

/-- The bus as `Registrar.Register` leaves it. -/
def registered : QueryBus :=
  empty.register "loyalty.get_balance" (GetLoyaltyBalanceHandler.handle true)

end QueryBus

/-- The read repository behind `noopLoyaltyCacheRepository`. -/
def noopCacheServe : Service BalanceCall BalanceCall.Answer BalanceError LoyaltyStore
  | s, .getBalance _ => (.ok none, s)
  | s, .getBalanceByCustomerID customerID => (s.getBalanceByCustomerID customerID, s)
  | s, .setBalance _ _ => (.ok (), s)

/-- The query reads the store, at every request. -/
theorem run_ask (customerID : String) (s : LoyaltyStore) :
    (QueryBus.registered.ask customerID).run noopCacheServe s =
      (s.getBalanceByCustomerID customerID, s) := by
  show (GetLoyaltyBalanceHandler.readThrough true customerID).run noopCacheServe s = _
  cases read : s.getBalanceByCustomerID customerID with
  | error e =>
      refine Program.run_attempt_error ?_
      rw [noopCacheServe, read]
  | ok balance =>
      have reply : noopCacheServe s (.getBalanceByCustomerID customerID) = (.ok balance, s) := by
        rw [noopCacheServe, read]
      exact Program.run_attempt_ok reply

/-! ## The controller -/

/-- The data of a response. -/
inductive Data where
  | balance (result : GetLoyaltyBalanceResponse)
  | credit (result : CreditLoyaltyResponse)
  deriving DecidableEq, Repr

/-- `api.ApiResponse`. -/
structure ApiResponse (T : Type) where
  path : String
  time : T
  data : Data
  code : Int
  requestId : String
  deriving DecidableEq, Repr

/-- A request that has been routed; the body of a credit is what echo binds from it, or the text
of its error. -/
inductive Request where
  | getBalance (customerID : String)
  | creditPoints (bound : Except String CreditLoyaltyRequest)

/-- A request with what is drawn while it is served and the request ids of its headers. -/
structure Exchange (T : Type) where
  request : Request
  amb : Ambient
  now : T
  requestHeader : String
  responseHeader : String

inductive Reply (T : Type) where
  | json (status : Int) (response : ApiResponse T)
  | error (response : Response T)
  deriving DecidableEq, Repr

variable {T : Type}

/-- `NewApiResponse`, which does not set the request id. -/
def newApiResponse (path : String) (now : T) (data : Data) (code : Int) : ApiResponse T :=
  ⟨path, now, data, code, ""⟩

def newBadRequestError (now : T) (trimSpace : String → String) (message : String) : ApiError T :=
  (newApiError now trimSpace 400
    (if message = "" then "Something went wrong while processing your request." else message)
  ).withStatus 0

/-- What a route returns. There is no error if `NewServiceError` follows a nil pointer. -/
abbrev Returned (T : Type) := Except (Option (ApiError T)) (ApiResponse T)

namespace LoyaltyController

section Routes

variable (trimSpace : String → String) (x : Exchange T)

/-- The error of a bus, which wraps no other. -/
def serviceError (text : String) : Returned T :=
  .error (newServiceError x.now trimSpace (.other text []))

def getBalance (customerID : String) (s : LoyaltyStore) : Returned T × LoyaltyStore :=
  match (QueryBus.registered.ask customerID).run noopCacheServe s with
  | (.error e, s) => (serviceError trimSpace x e.message, s)
  | (.ok result, s) => (.ok (newApiResponse "/api/v1/loyalty" x.now (.balance result) 200), s)

def creditPoints (bound : Except String CreditLoyaltyRequest) (s : LoyaltyStore) :
    Returned T × LoyaltyStore :=
  match bound with
  | .error text => (.error (some (newBadRequestError x.now trimSpace text)), s)
  | .ok req =>
      match ((CommandBus.registered x.amb).dispatch req).run serve s with
      | (.error e, s) => (serviceError trimSpace x e.message, s)
      | (.ok result, s) =>
          (.ok (newApiResponse "/api/v1/loyalty/credit" x.now (.credit result) 201), s)

/-- The reply to what a route returned, with an echo that writes what it is asked to. -/
def respond (mode : String) : Returned T → Option (Reply T)
  | .ok response => some (.json response.code response)
  | .error none => none
  | .error (some e) =>
      (httpErrorHandler (fun code _ => some code) mode x.requestHeader x.responseHeader
        (.api e)).map .error

end Routes

variable (mode : String) (trimSpace : String → String)

def route (s : LoyaltyStore) (x : Exchange T) : Returned T × LoyaltyStore :=
  match x.request with
  | .getBalance customerID => getBalance trimSpace x customerID s
  | .creditPoints bound => creditPoints trimSpace x bound s

/-- The store after a request. -/
def step (s : LoyaltyStore) (x : Exchange T) : LoyaltyStore := (route trimSpace s x).2

def reply (s : LoyaltyStore) (x : Exchange T) : Option (Reply T) :=
  respond x mode (route trimSpace s x).1

/-- The replies to requests that come one after another. -/
def replies (s : LoyaltyStore) (xs : List (Exchange T)) : List (Option (Reply T)) :=
  (transitions (step trimSpace) s xs).map fun taken => reply mode trimSpace taken.1 taken.2

end LoyaltyController

/-! ## The ledger as a client sees it -/

namespace ClientLedger

open LoyaltyController

/-- A command that took effect, with the values drawn for it. -/
abbrev Entry := Ambient × CreditLoyaltyRequest

def commands (entries : List Entry) : List CreditLoyaltyRequest := entries.map Prod.snd

/-- Why a command has no effect. -/
def refusal (ledger : List CreditLoyaltyRequest) (cmd : CreditLoyaltyRequest) :
    Option LoyaltyError :=
  if cmd.causationEventID ≠ "" ∧
      ∃ earlier ∈ ledger, earlier.causationEventID = cmd.causationEventID then
    some .duplicateEvent
  else if cmd.points < 0 then some .negativePoints
  else if cmd.points = 0 then some .zeroPoints
  else none

/-- The account of a customer has the id that was drawn for the first entry. -/
def accountID (entries : List Entry) (customerID : String) : Option String :=
  (entries.find? (·.2.customerID = customerID)).map (·.1.accountID)

/-- The sum of a customer, in an `int`. -/
def balance (entries : List Entry) (customerID : String) : Int64 :=
  Int64.ofInt (Ledger.balanceOf customerID (commands entries))

def tier (entries : List Entry) (customerID : String) : String :=
  (calculateTier ⟨balance entries customerID⟩).name

/-- A command is entered unless it is refused. -/
def enter (entries : List Entry) (amb : Ambient) (cmd : CreditLoyaltyRequest) : List Entry :=
  if refusal (commands entries) cmd = none then entries ++ [(amb, cmd)] else entries

/-- The ledger after a request. -/
def next (entries : List Entry) (x : Exchange T) : List Entry :=
  match x.request with
  | .creditPoints (.ok cmd) => enter entries x.amb cmd
  | _ => entries

section Answers

variable (mode : String) (trimSpace : String → String) (x : Exchange T)

/-- An error with its code and text. A server error keeps its text for itself in production. -/
def failed (code : Int) (text : String) : Reply T :=
  .error ⟨code, jsonBody (some
    { code := code
      requestId := getRequestId x.requestHeader x.responseHeader
      message := if mode = "production" ∧ code = 500 then genericMessage else trimSpace text
      status := "ERROR"
      time := x.now })⟩

def succeeded (code : Int) (path : String) (data : Data) : Reply T :=
  .json code ⟨path, x.now, data, code, ""⟩

def balanceAnswer (entries : List Entry) (customerID : String) : Reply T :=
  match accountID entries customerID with
  | none => failed mode trimSpace x 500 "loyalty account not found"
  | some id => succeeded x 200 "/api/v1/loyalty"
      (.balance ⟨id, customerID, balance entries customerID, tier entries customerID⟩)

/-- The answer to a command, from the ledger with the command in it. -/
def creditAnswer (entries : List Entry) (cmd : CreditLoyaltyRequest) : Reply T :=
  match refusal (commands entries) cmd with
  | some e => failed mode trimSpace x 500 e.message
  | none =>
      let entries := entries ++ [(x.amb, cmd)]
      succeeded x 201 "/api/v1/loyalty/credit"
        (.credit ⟨(accountID entries cmd.customerID).getD "", balance entries cmd.customerID,
          tier entries cmd.customerID⟩)

/-- What the ledger says to a request. -/
def answer (entries : List Entry) : Reply T :=
  match x.request with
  | .getBalance customerID => balanceAnswer mode trimSpace x entries customerID
  | .creditPoints (.error text) => failed mode trimSpace x 400
      (if text = "" then "Something went wrong while processing your request." else text)
  | .creditPoints (.ok cmd) => creditAnswer mode trimSpace x entries cmd

end Answers

def answers (mode : String) (trimSpace : String → String) (entries : List Entry)
    (xs : List (Exchange T)) : List (Reply T) :=
  (transitions next entries xs).map fun taken => answer mode trimSpace taken.2 taken.1

/-! ## The store describes the ledger -/

variable {s : LoyaltyStore} {ledger : List CreditLoyaltyRequest} {entries : List Entry}
variable {amb : Ambient} {cmd : CreditLoyaltyRequest}

theorem refusal_eq_none_iff : refusal ledger cmd = none ↔ Ledger.Effective ledger cmd := by
  have unused : ¬(cmd.causationEventID ≠ "" ∧
      ∃ earlier ∈ ledger, earlier.causationEventID = cmd.causationEventID) ↔
      (cmd.causationEventID = "" ∨
        ∀ earlier ∈ ledger, earlier.causationEventID ≠ cmd.causationEventID) := by
    rw [not_and_or, not_exists, Classical.not_not]
    simp only [not_and]
  have positive : (¬cmd.points < 0 ∧ cmd.points ≠ 0) ↔ 0 < cmd.points := by
    rw [Int64.not_lt, Int64.lt_iff_le_and_ne]
    exact and_congr_right fun _ => ne_comm
  rw [refusal, Ledger.Effective, ← unused, ← positive]
  split_ifs with used negative zero
  · simp [used]
  · simp [negative]
  · simp [zero]
  · simp [used, negative, zero]

/-- The commands are the ledger of the use case. -/
theorem commands_enter (entries : List Entry) (amb : Ambient) (cmd : CreditLoyaltyRequest) :
    commands (enter entries amb cmd) = Ledger.record (commands entries) cmd := by
  simp only [enter, Ledger.record, refusal_eq_none_iff]
  split
  · exact List.map_append
  · rfl

theorem mutate_of_neg (amb : Ambient) (agg : LoyaltyAggregate) (negative : cmd.points < 0) :
    mutate amb cmd agg = .ret (.error .negativePoints) := by
  rw [mutate, newPoints_of_neg negative]

theorem mutate_of_zero (amb : Ambient) (agg : LoyaltyAggregate) (zero : cmd.points = 0) :
    mutate amb cmd agg = .ret (.error .zeroPoints) := by
  rw [mutate, newPoints_of_nonneg (by rw [zero]; decide)]
  simp [LoyaltyAggregate.creditPoints, Points.isZero, zero]

/-- A command that the ledger refuses is refused by the handler for the same reason. -/
theorem run_refused (rep : Ledger.Represents s ledger) {e : LoyaltyError}
    (refused : refusal ledger cmd = some e) : (handle amb cmd).run serve s = (.error e, s) := by
  rw [refusal] at refused
  split_ifs at refused with used negative zero
  · cases refused
    have marked : cmd.causationEventID ∈ s.keys := (rep.mem_keys used.1).mpr used.2
    have reply : serve s (.exists cmd.causationEventID) = (.ok true, s) := by
      simp [serve, LoyaltyStore.existsKey, marked]
    rw [handle, if_pos used.1, Program.run_attempt_ok reply]
    rfl
  all_goals
    cases refused
    have unmarked (key : cmd.causationEventID ≠ "") : cmd.causationEventID ∉ s.keys :=
      fun marked => used ⟨key, (rep.mem_keys key).mp marked⟩
    show creditWith (fun _ => none) amb cmd s = _
    rw [run_handle_unmarked fun key => ⟨rfl, unmarked key⟩, run_loadOrCreate rfl (rep.loadable _)]
  · rw [mutate_of_neg _ _ negative]
    rfl
  · rw [mutate_of_zero _ _ zero]
    rfl

/-- The store describes the commands, and the accounts have the ids of the first entries. -/
structure Describes (s : LoyaltyStore) (entries : List Entry) : Prop where
  represents : Ledger.Represents s (commands entries)
  id : ∀ customerID,
    accountID entries customerID = (s.accounts.findByCustomer customerID).map (·.id)

theorem describes_empty : Describes LoyaltyStore.empty [] := ⟨Ledger.represents_empty, fun _ => rfl⟩

theorem accountID_concat (entries : List Entry) (amb : Ambient) (cmd : CreditLoyaltyRequest)
    (customerID : String) :
    accountID (entries ++ [(amb, cmd)]) customerID =
      (accountID entries customerID).or
        (if cmd.customerID = customerID then some amb.accountID else none) := by
  rw [accountID, accountID, List.find?_append, Option.map_or]
  by_cases same : cmd.customerID = customerID <;> simp [same]

theorem baseAccount_id (s : LoyaltyStore) (amb : Ambient) (customerID : String) :
    (baseAccount s amb customerID).id =
      ((s.accounts.findByCustomer customerID).map (·.id)).getD amb.accountID := by
  rw [baseAccount]
  cases s.accounts.findByCustomer customerID <;> rfl

/-- What the repository reads is the sum of the entries, under the id of the first. -/
theorem Describes.read (describes : Describes s entries) (customerID : String) :
    s.getBalanceByCustomerID customerID =
      match accountID entries customerID with
      | none => .error .accountNotFound
      | some id => .ok ⟨id, customerID, balance entries customerID, tier entries customerID⟩ := by
  rw [describes.id, LoyaltyStore.getBalanceByCustomerID]
  cases lookup : s.accounts.findByCustomer customerID with
  | none => rfl
  | some row =>
      have sum : row.balance = balance entries customerID := by
        rw [balance, ← describes.represents.balance customerID row lookup, Int64.ofInt_toInt]
      have named : row.tier = tier entries customerID := by
        rw [describes.represents.tier customerID row lookup, sum]
        rfl
      have owner : row.customerID = customerID := (AccountTable.findByCustomer_some lookup).2
      show Except.ok (balanceOfRow row) = .ok ⟨row.id, _, _, _⟩
      rw [balanceOfRow, owner, sum, named]

/-- A command that takes effect is answered from the longer ledger, which the store describes
afterwards. -/
theorem Describes.credit (describes : Describes s entries)
    (effective : refusal (commands entries) cmd = none)
    (fresh : FreshAccountID s amb cmd.customerID)
    (fits : Ledger.Fits (commands (entries ++ [(amb, cmd)]))) :
    ∃ t, (handle amb cmd).run serve s =
        (.ok ⟨(accountID (entries ++ [(amb, cmd)]) cmd.customerID).getD "",
          balance (entries ++ [(amb, cmd)]) cmd.customerID,
          tier (entries ++ [(amb, cmd)]) cmd.customerID⟩, t) ∧
      Describes t (entries ++ [(amb, cmd)]) := by
  have effective := refusal_eq_none_iff.mp effective
  have longer : commands (entries ++ [(amb, cmd)]) = commands entries ++ [cmd] := List.map_append
  rw [longer] at fits
  obtain ⟨t, saved, run⟩ := creditWith_success (describes.represents.reachesSave_iff.mpr effective)
    fresh rfl rfl fun _ => rfl
  have account : accountID (entries ++ [(amb, cmd)]) cmd.customerID =
      some (creditedAccount s amb cmd).id := by
    show _ = some (baseAccount s amb cmd.customerID).id
    rw [accountID_concat, if_pos rfl, baseAccount_id, describes.id]
    cases s.accounts.findByCustomer cmd.customerID <;> rfl
  have sum : balance (entries ++ [(amb, cmd)]) cmd.customerID =
      (creditedAccount s amb cmd).balance.value := by
    have credited : (creditedAccount s amb cmd).balance.value.toInt = _ :=
      describes.represents.creditedAccount_balance effective.1 (fits cmd.customerID)
    rw [balance, longer, ← credited, Int64.ofInt_toInt]
  refine ⟨marked cmd (announced amb cmd (creditedAccount s amb cmd) t), run.trans ?_, ?_,
    fun customerID => ?_⟩
  · rw [account, tier, sum]
    rfl
  · rw [longer]
    exact describes.represents.concat effective (fits cmd.customerID) saved
  · rw [marked_accounts]
    show _ = (t.accounts.findByCustomer customerID).map (·.id)
    rw [saved.findByCustomer, creditedAccount_customerID]
    split
    next same =>
      rw [same, account]
      rfl
    next different =>
      rw [accountID_concat, if_neg (Ne.symm different), Option.or_none, describes.id]

/-! ## Requests -/

section Requests

variable (mode : String) (trimSpace : String → String) {x : Exchange T}

/-- The reply to an error with its status set. -/
theorem respond_error (x : Exchange T) (code : Int) (text : String) :
    respond x mode (.error (some ((newApiError x.now trimSpace code text).withStatus 0))) =
      some (failed mode trimSpace x code text) := by
  by_cases hidden : mode = "production" ∧ code = 500
  · obtain ⟨rfl, rfl⟩ := hidden
    rfl
  · have shown (e : ApiError T) (requestId : String) (same : e.code = code) :
        e.shown mode requestId = { e with requestId } := by
      subst same
      exact if_neg hidden
    rw [respond, httpErrorHandler_of_reported rfl, shown _ _ rfl, failed, if_neg hidden]
    rfl

theorem respond_serviceError (x : Exchange T) (text : String) :
    respond x mode (serviceError trimSpace x text) = some (failed mode trimSpace x 500 text) :=
  respond_error mode trimSpace x 500 text

/-- An account id that is drawn for a customer without an account is not in use. -/
def Fresh (s : LoyaltyStore) (x : Exchange T) : Prop :=
  match x.request with
  | .creditPoints (.ok cmd) => FreshAccountID s x.amb cmd.customerID
  | _ => True

theorem Describes.getBalance (describes : Describes s entries) (x : Exchange T)
    (customerID : String) :
    respond x mode (LoyaltyController.getBalance trimSpace x customerID s).1 =
        some (balanceAnswer mode trimSpace x entries customerID) ∧
      (LoyaltyController.getBalance trimSpace x customerID s).2 = s := by
  rw [LoyaltyController.getBalance, run_ask, describes.read, balanceAnswer]
  cases accountID entries customerID with
  | none => exact ⟨respond_serviceError mode trimSpace x _, rfl⟩
  | some id => exact ⟨rfl, rfl⟩

theorem Describes.creditPoints (describes : Describes s entries)
    (fresh : FreshAccountID s x.amb cmd.customerID)
    (fits : Ledger.Fits (commands (enter entries x.amb cmd))) :
    respond x mode (LoyaltyController.creditPoints trimSpace x (.ok cmd) s).1 =
        some (creditAnswer mode trimSpace x entries cmd) ∧
      Describes (LoyaltyController.creditPoints trimSpace x (.ok cmd) s).2
        (enter entries x.amb cmd) := by
  simp only [LoyaltyController.creditPoints, CommandBus.registered_dispatch, creditAnswer]
  cases refused : refusal (commands entries) cmd with
  | some e =>
      rw [enter, if_neg (by rw [refused]; simp), run_refused describes.represents refused]
      exact ⟨respond_serviceError mode trimSpace x _, describes⟩
  | none =>
      rw [enter, if_pos refused] at fits ⊢
      obtain ⟨t, run, longer⟩ := describes.credit refused fresh fits
      rw [run]
      exact ⟨rfl, longer⟩

/-- One request: the reply is that of the ledger, and the store follows it. -/
theorem Describes.step (describes : Describes s entries) (fresh : Fresh s x)
    (fits : Ledger.Fits (commands (next entries x))) :
    reply mode trimSpace s x = some (answer mode trimSpace x entries) ∧
      Describes (LoyaltyController.step trimSpace s x) (next entries x) := by
  rw [reply, LoyaltyController.step, route, answer]
  rw [next] at fits ⊢
  rw [Fresh] at fresh
  match x.request, fresh, fits with
  | .getBalance customerID, _, _ =>
      obtain ⟨replied, kept⟩ := describes.getBalance mode trimSpace x customerID
      exact ⟨replied, kept.symm ▸ describes⟩
  | .creditPoints (.error text), _, _ => exact ⟨respond_error mode trimSpace x 400 _, describes⟩
  | .creditPoints (.ok cmd), fresh, fits => exact describes.creditPoints mode trimSpace fresh fits

/-- Sums only grow, so what fits at the end fitted before. -/
theorem fits_of_run {xs : List (Exchange T)}
    (fits : Ledger.Fits (commands (runFrom next entries xs))) : Ledger.Fits (commands entries) := by
  induction xs generalizing entries with
  | nil => exact fits
  | cons x xs ih =>
      have fits := ih fits
      rw [next] at fits
      match x.request, fits with
      | .getBalance customerID, fits => exact fits
      | .creditPoints (.error text), fits => exact fits
      | .creditPoints (.ok cmd), fits =>
          rw [commands_enter] at fits
          exact fits.of_record

/-- Requests one after another: the replies are those of the ledger. -/
theorem Describes.run {xs : List (Exchange T)} (describes : Describes s entries)
    (fresh : Admitted (LoyaltyController.step trimSpace) Fresh s xs)
    (fits : Ledger.Fits (commands (runFrom next entries xs))) :
    replies mode trimSpace s xs = (answers mode trimSpace entries xs).map some ∧
      Describes (runFrom (LoyaltyController.step trimSpace) s xs) (runFrom next entries xs) := by
  induction xs generalizing s entries with
  | nil => exact ⟨rfl, describes⟩
  | cons x xs ih =>
      obtain ⟨replied, longer⟩ := describes.step mode trimSpace fresh.1 (fits_of_run fits)
      obtain ⟨rest, final⟩ := ih longer fresh.2 fits
      refine ⟨?_, final⟩
      show reply mode trimSpace s x :: replies mode trimSpace _ xs = _
      rw [replied, rest]
      rfl

end Requests

/-- A client that sends any requests one after another to a service with empty tables gets the
replies of the ledger: the sums of the commands that took effect, an error for a customer
without any, and for every other command the reason why it has no effect. -/
theorem api_replies_from_ledger (mode : String) (trimSpace : String → String)
    (xs : List (Exchange T))
    (fresh : Admitted (LoyaltyController.step trimSpace) Fresh LoyaltyStore.empty xs)
    (fits : ∀ customerID, Ledger.balanceOf customerID (commands (runFrom next [] xs)) < 2 ^ 63) :
    replies mode trimSpace LoyaltyStore.empty xs = (answers mode trimSpace [] xs).map some :=
  (describes_empty.run mode trimSpace fresh fits).1

/-- A credit, the same again, and the balance. -/
def sampleExchanges : List (Exchange Unit) :=
  [.creditPoints (.ok sampleCommand), .creditPoints (.ok sampleCommand),
    .getBalance sampleCommand.customerID].map fun request =>
      ⟨request, sampleAmbient, (), "request-1", ""⟩

theorem api_replies_from_ledger_sample :
    replies "development" id LoyaltyStore.empty sampleExchanges =
      [some (.json 201 ⟨"/api/v1/loyalty/credit", (),
          .credit ⟨"01ACCOUNT", 10, "BRONZE"⟩, 201, ""⟩),
        some (.error ⟨500, .object [("code", .number 500), ("request_id", .string "request-1"),
          ("message", .string "event already processed (idempotency)"),
          ("event_code", .string "ERROR"), ("time", .time ())]⟩),
        some (.json 200 ⟨"/api/v1/loyalty", (),
          .balance ⟨"01ACCOUNT", "customer-1", 10, "BRONZE"⟩, 200, ""⟩)] := by
  have fits (customerID : String) : Ledger.balanceOf customerID [sampleCommand] < 2 ^ 63 := by
    rw [← List.nil_append [sampleCommand], Ledger.balanceOf_concat, Ledger.balanceOf_nil]
    split <;> decide
  refine (api_replies_from_ledger "development" id sampleExchanges ⟨?_, ?_, trivial, trivial⟩
    fits).trans (by decide)
  · exact fun _ _ mem => (List.not_mem_nil mem).elim
  · exact fun missing => absurd missing (by decide)

end ClientLedger

end GoOdin.Http
