import Mathlib.Tactic.Common

/-!
# Error responses

`HttpErrorHandler` answers a request whose handler returned an error. It looks for an
`*api.ApiError` among the errors that the error wraps and writes it as JSON; the status is
taken from another variable, which is also set when there is no such error. An
`*echo.HTTPError`, such as the framework's own for a path that no route has, is never searched.

Errors are trees: an error may wrap one other or, as those of `errors.Join`, several. A nil
pointer is an error too, and following it stops the handler. What echo writes for a status and
a body is a parameter.
-/

namespace GoOdin.Http

/-- `api.ApiError`, without the raw data that no response has. -/
structure ApiError (T : Type) where
  code : Int
  requestId : String
  message : String
  status : String
  time : T
  deriving DecidableEq, Repr

/-- `exceptions.BaseException`. -/
structure BaseException where
  code : Int
  status : Int
  message : String
  deriving DecidableEq, Repr

/-- An error: pointers to the types that are looked for, nil or not, and any other error with
its text. The lists are what `Unwrap` returns. -/
inductive GoError (T : Type) where
  | api (e : ApiError T)
  | nilApi
  | http (code : Int) (text : String) (internal : List (GoError T))
  | nilHttp
  | base (e : BaseException)
  | other (text : String) (wrapped : List (GoError T))

variable {T α : Type}

namespace GoError

/-- `Error()`, which follows the pointer. -/
def error : GoError T → Option String
  | api e => some e.message
  | nilApi => none
  | http _ text _ => some text
  | nilHttp => none
  | base e => some e.message
  | other text _ => some text

mutual

/-- `errors.As`: the first error of the tree that is picked, depth first. The result is `none`
when a nil pointer is asked for what it wraps. -/
def as (pick : GoError T → Option α) : GoError T → Option (Option α)
  | http code text internal =>
      match pick (http code text internal) with
      | some found => some (some found)
      | none => asAny pick internal
  | nilHttp =>
      match pick nilHttp with
      | some found => some (some found)
      | none => none
  | other text wrapped =>
      match pick (other text wrapped) with
      | some found => some (some found)
      | none => asAny pick wrapped
  | api e => some (pick (api e))
  | nilApi => some (pick nilApi)
  | base e => some (pick (base e))

def asAny (pick : GoError T → Option α) : List (GoError T) → Option (Option α)
  | [] => some none
  | err :: errs =>
      match as pick err with
      | none => none
      | some (some found) => some (some found)
      | some none => asAny pick errs

end

/-- The target `*api.ApiError`, a pointer that may be nil. -/
def pickApi : GoError T → Option (Option (ApiError T))
  | api e => some (some e)
  | nilApi => some none
  | _ => none

/-- The target `*exceptions.BaseException`. -/
def pickBase : GoError T → Option BaseException
  | base e => some e
  | _ => none

theorem pickApi_other (text : String) (wrapped : List (GoError T)) :
    pickApi (other text wrapped) = none := rfl

theorem pickBase_other (text : String) (wrapped : List (GoError T)) :
    pickBase (other text wrapped) = none := rfl

/-- A chain of wrappers around an error, the outermost first. -/
def wrapped (texts : List String) (err : GoError T) : GoError T :=
  texts.foldr (fun text err => other text [err]) err

/-- The search goes through a chain of wrappers of any length. -/
theorem as_wrapped {pick : GoError T → Option α}
    (through : ∀ text errs, pick (other text errs) = none) (texts : List String)
    (err : GoError T) : (err.wrapped texts).as pick = err.as pick := by
  induction texts with
  | nil => rfl
  | cons text texts ih =>
      show as pick (other text [err.wrapped texts]) = _
      rw [as, through]
      show asAny pick [err.wrapped texts] = _
      rw [asAny, ih]
      match found : err.as pick with
      | none => rfl
      | some none => rfl
      | some (some a) => rfl

end GoError

/-! ## Responses -/

/-- A value in a JSON object. -/
inductive Member (T : Type) where
  | number (n : Int)
  | string (text : String)
  | time (t : T)
  deriving DecidableEq, Repr

inductive Body (T : Type) where
  | null
  | object (members : List (String × Member T))
  deriving DecidableEq, Repr

def Body.member? (name : String) : Body T → Option (Member T)
  | null => none
  | object members => members.lookup name

structure Response (T : Type) where
  status : Int
  body : Body T
  deriving DecidableEq, Repr

/-- A pointer to an error, as JSON. -/
def jsonBody : Option (ApiError T) → Body T
  | none => .null
  | some e => .object
      ([("code", .number e.code), ("request_id", .string e.requestId),
          ("message", .string e.message)] ++
        (if e.status = "" then [] else [("event_code", .string e.status)]) ++
        [("time", .time e.time)])

/-- `GetRequestId`, from the header of the request and that of the response. -/
def getRequestId (request response : String) : String := if request = "" then response else request

def genericMessage : String := "Oops something went wrong, Contact Developer for the issue"

def statusInternalServerError : Int := 500

/-- The error as it is written. -/
def ApiError.shown (mode requestId : String) (e : ApiError T) : ApiError T :=
  let e := { e with requestId }
  if mode = "production" ∧ e.code = statusInternalServerError then
    { e with message := genericMessage }
  else e

/-- The code of the report and the error that is written, which may be nil, after the search. -/
def reportSearched (mode requestId : String) :
    Option (Option (Option (ApiError T))) → Option (Int × Option (ApiError T))
  | none => none
  | some (some none) => none
  | some (some (some e)) =>
      some ((e.shown mode requestId).code, some (e.shown mode requestId))
  | some none => some (statusInternalServerError, none)

/-- The same for any error; an `*echo.HTTPError` is its own report. -/
def report (mode requestId : String) : GoError T → Option (Int × Option (ApiError T))
  | .http code _ _ => some (code, none)
  | .nilHttp => none
  | err => reportSearched mode requestId (err.as GoError.pickApi)

/-- `c.JSON`; `serve` is the status with which echo writes a body when it is asked for a
status, if it can. -/
def answer (serve : Int → Body T → Option Int) (code : Int) (errorApp : Option (ApiError T)) :
    Option (Response T) :=
  (serve code (jsonBody errorApp)).map fun status => ⟨status, jsonBody errorApp⟩

def httpErrorHandler (serve : Int → Body T → Option Int) (mode request response : String)
    (err : GoError T) : Option (Response T) :=
  (report mode (getRequestId request response) err).bind fun (code, errorApp) =>
    answer serve code errorApp

/-- A response carries its error: it is an object with the status as its code, and has the
message or, for an internal error in production, the generic one. -/
structure Carries (mode message : String) (r : Response T) : Prop where
  isObject : ∃ members, r.body = .object members
  code : r.body.member? "code" = some (.number r.status)
  message : r.body.member? "message" = some (.string
    (if mode = "production" ∧ r.status = statusInternalServerError then genericMessage
      else message))

/-! ## Which errors are carried -/

/-- The error that the handler writes: there is none for an `*echo.HTTPError`. -/
def GoError.reported : GoError T → Option (ApiError T)
  | .http _ _ _ => none
  | err => ((err.as pickApi).join).join

@[simp] theorem ApiError.shown_code (mode requestId : String) (e : ApiError T) :
    (e.shown mode requestId).code = e.code := by
  rw [shown]
  split_ifs <;> rfl

theorem ApiError.shown_message (mode requestId : String) (e : ApiError T) :
    (e.shown mode requestId).message =
      if mode = "production" ∧ e.code = statusInternalServerError then genericMessage
      else e.message := by
  rw [shown]
  split_ifs <;> rfl

theorem member?_code (e : ApiError T) :
    (jsonBody (some e)).member? "code" = some (.number e.code) := rfl

theorem member?_message (e : ApiError T) :
    (jsonBody (some e)).member? "message" = some (.string e.message) := rfl

/-- Every error but an `*echo.HTTPError` is searched; a nil pointer to one makes no difference
to that. -/
theorem GoError.http_or_searched (err : GoError T) (mode requestId : String) :
    (∃ code text internal, err = .http code text internal) ∨
      err.reported = (err.as pickApi).join.join ∧
        report mode requestId err = reportSearched mode requestId (err.as pickApi) := by
  cases err with
  | http code text internal => exact .inl ⟨code, text, internal, rfl⟩
  | api e => exact .inr ⟨rfl, rfl⟩
  | nilApi => exact .inr ⟨rfl, rfl⟩
  | nilHttp => exact .inr ⟨rfl, rfl⟩
  | base e => exact .inr ⟨rfl, rfl⟩
  | other text wrapped => exact .inr ⟨rfl, rfl⟩

theorem report_of_reported {err : GoError T} {e : ApiError T} (found : err.reported = some e)
    (mode requestId : String) :
    report mode requestId err = some (e.code, some (e.shown mode requestId)) := by
  obtain ⟨code, text, internal, rfl⟩ | ⟨search, same⟩ := err.http_or_searched mode requestId
  · cases found
  · rw [search, Option.join_eq_some_iff, Option.join_eq_some_iff] at found
    rw [same, found, ← ApiError.shown_code mode requestId e]
    rfl

theorem null_of_not_found {found : Option (Option (Option (ApiError T)))}
    (missing : found.join.join = none) {mode requestId : String} {code : Int}
    {errorApp : Option (ApiError T)}
    (reported : reportSearched mode requestId found = some (code, errorApp)) :
    errorApp = none := by
  match found with
  | none => cases reported
  | some none =>
      cases reported
      rfl
  | some (some none) => cases reported
  | some (some (some e)) => cases missing

theorem null_of_not_reported {err : GoError T} (missing : err.reported = none)
    {mode requestId : String} {code : Int} {errorApp : Option (ApiError T)}
    (reported : report mode requestId err = some (code, errorApp)) : errorApp = none := by
  obtain ⟨code', text, internal, rfl⟩ | ⟨search, same⟩ := err.http_or_searched mode requestId
  · cases reported
    rfl
  · rw [search] at missing
    rw [same] at reported
    exact null_of_not_found missing reported

theorem httpErrorHandler_of_reported {err : GoError T} {e : ApiError T}
    (found : err.reported = some e) (serve : Int → Body T → Option Int)
    (mode request response : String) :
    httpErrorHandler serve mode request response err =
      answer serve e.code (some (e.shown mode (getRequestId request response))) := by
  rw [httpErrorHandler, report_of_reported found]
  rfl

theorem body_of_not_reported {err : GoError T} (missing : err.reported = none)
    {serve : Int → Body T → Option Int} {mode request response : String} {r : Response T}
    (answered : httpErrorHandler serve mode request response err = some r) : r.body = .null := by
  obtain ⟨⟨code, errorApp⟩, reported, written⟩ := Option.bind_eq_some_iff.mp answered
  obtain rfl := null_of_not_reported missing reported
  obtain ⟨status, -, rfl⟩ := Option.map_eq_some_iff.mp written
  rfl

/-- What is written for an error carries a message exactly if the status is its code and the
message its own or not shown. -/
theorem carries_shown_iff (mode requestId message : String) (e : ApiError T) (status : Int) :
    Carries mode message ⟨status, jsonBody (some (e.shown mode requestId))⟩ ↔
      status = e.code ∧
        (e.message = message ∨ mode = "production" ∧ e.code = statusInternalServerError) := by
  have isCode : (jsonBody (some (e.shown mode requestId))).member? "code" =
      some (.number e.code) := by
    rw [member?_code, ApiError.shown_code]
  have isMessage := member?_message (e.shown mode requestId)
  rw [ApiError.shown_message] at isMessage
  constructor
  · intro carries
    obtain rfl : e.code = status := by simpa using isCode.symm.trans carries.code
    refine ⟨rfl, ?_⟩
    by_cases hidden : mode = "production" ∧ e.code = statusInternalServerError
    · exact .inr hidden
    · have same := isMessage.symm.trans carries.message
      rw [if_neg hidden, if_neg hidden] at same
      exact .inl (by simpa using same)
  · rintro ⟨rfl, own⟩
    refine ⟨⟨_, rfl⟩, isCode, isMessage.trans ?_⟩
    obtain rfl | hidden := own
    · rfl
    · rw [if_pos hidden, if_pos hidden]

/-- A response carries its error exactly if that is not an `*echo.HTTPError`, an
`*api.ApiError` is found in it, echo writes the status it is asked for, and the message is
that of the `*api.ApiError` or is not shown. -/
theorem response_carries_error_iff (serve : Int → Body T → Option Int)
    (mode request response : String) (err : GoError T) (message : String) :
    (∃ r, httpErrorHandler serve mode request response err = some r ∧ Carries mode message r) ↔
      ∃ e, err.reported = some e ∧
        serve e.code (jsonBody (some (e.shown mode (getRequestId request response)))) =
          some e.code ∧
        (e.message = message ∨ mode = "production" ∧ e.code = statusInternalServerError) := by
  constructor
  · rintro ⟨r, answered, carries⟩
    cases found : err.reported with
    | none =>
        obtain ⟨members, isObject⟩ := carries.isObject
        rw [body_of_not_reported found answered] at isObject
        cases isObject
    | some e =>
        rw [httpErrorHandler_of_reported found] at answered
        obtain ⟨status, served, rfl⟩ := Option.map_eq_some_iff.mp answered
        obtain ⟨rfl, own⟩ := (carries_shown_iff ..).mp carries
        exact ⟨e, rfl, served, own⟩
  · rintro ⟨e, found, served, own⟩
    rw [httpErrorHandler_of_reported found, answer, served]
    exact ⟨_, rfl, (carries_shown_iff ..).mpr ⟨rfl, own⟩⟩

/-- The framework's answer to a path without a route, and an error of some library: the body
is `null` in both cases. -/
theorem other_errors_are_null :
    let serve : Int → Body Unit → Option Int := fun code _ => some code
    httpErrorHandler serve "development" "r1" "" (.http 404 "code=404, message=Not Found" []) =
        some ⟨404, .null⟩ ∧
      httpErrorHandler serve "development" "r1" "" (.other "connection refused" []) =
        some ⟨500, .null⟩ ∧
      ∀ status message, ¬Carries "development" message (⟨status, .null⟩ : Response Unit) := by
  refine ⟨rfl, rfl, fun status message carries => ?_⟩
  obtain ⟨members, isObject⟩ := carries.isObject
  cases isObject

/-! ## Errors of routes and services -/

theorem reported_wrapped_api (texts : List String) (e : ApiError T) :
    ((GoError.api e).wrapped texts).reported = some e := by
  have found := GoError.as_wrapped GoError.pickApi_other texts (.api e)
  cases texts with
  | nil => rfl
  | cons text texts =>
      show ((((GoError.api e).wrapped (text :: texts)).as GoError.pickApi).join).join = _
      rw [found]
      rfl

/-- An `*api.ApiError` is carried from within any chain of wrappers, if echo writes what it is
asked to. -/
theorem api_error_carried {serve : Int → Body T → Option Int}
    (writes : ∀ code body, serve code body = some code) (mode request response : String)
    (texts : List String) (e : ApiError T) :
    ∃ r, httpErrorHandler serve mode request response ((GoError.api e).wrapped texts) = some r ∧
      r.status = e.code ∧ Carries mode e.message r := by
  rw [httpErrorHandler_of_reported (reported_wrapped_api texts e), answer, writes]
  exact ⟨_, rfl, rfl, (carries_shown_iff ..).mpr ⟨rfl, .inl rfl⟩⟩

section Constructors

variable (now : T) (trimSpace : String → String)

/-- `exceptions.Status.String`. -/
def statusString : Int → String
  | 0 => "ERROR"
  | 1 => "INVALID_INPUT"
  | _ => "unknown"

def newApiError (status : Int) (message : String) : ApiError T :=
  ⟨status, "", trimSpace message, "", now⟩

def ApiError.withStatus (e : ApiError T) (status : Int) : ApiError T :=
  { e with status := statusString status }

def newInternalServerError (err : GoError T) : Option (ApiError T) :=
  err.error.map fun text => (newApiError now trimSpace statusInternalServerError text).withStatus 0

def newServiceError (err : GoError T) : Option (ApiError T) :=
  match err.as GoError.pickBase with
  | none => none
  | some (some e) => some ((newApiError now trimSpace e.code e.message).withStatus e.status)
  | some none => newInternalServerError now trimSpace err

/-- A route that turns the error of a service into an `*api.ApiError` answers with the code
and the trimmed message of the exception in it, however often it was wrapped. -/
theorem service_error_carried {serve : Int → Body T → Option Int}
    (writes : ∀ code body, serve code body = some code) (mode request response : String)
    (texts : List String) (b : BaseException) :
    ∃ e r, newServiceError now trimSpace ((GoError.base b).wrapped texts) = some e ∧
      httpErrorHandler serve mode request response (.api e) = some r ∧
      r.status = b.code ∧ Carries mode (trimSpace b.message) r := by
  have found := GoError.as_wrapped (T := T) GoError.pickBase_other texts (.base b)
  obtain ⟨r, answered, status, carries⟩ := api_error_carried writes mode request response []
    ((newApiError now trimSpace b.code b.message).withStatus b.status)
  refine ⟨_, r, ?_, answered, status, carries⟩
  rw [newServiceError, found]
  rfl

end Constructors

end GoOdin.Http
