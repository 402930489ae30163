/-
  The request-context middleware (core/middleware.py, core/request_context.py).

  An application is what it does when it is called: the messages that it sends
  and how it ends.  The middleware runs in a world of its own locals, the
  context variable, the client's `send`, which does not fail, and the log.  The
  `duration_ms` of a log record is left out.
-/
import TicketReservation.Http.Exec
import TicketReservation.Http.Message
import TicketReservation.Model
import Mathlib.Algebra.Group.Nat.Defs

namespace TicketReservation.Http

open Effects

/-- An exception in flight: of a subclass of `Exception`, or another one such as `CancelledError`. -/
inductive Raised where
  | exception (exc : String)
  | baseException (exc : String)
  deriving DecidableEq, Repr

/-- Of the `state` of a scope, the entry that the service uses. -/
structure ScopeState where
  requestId : Option String
  deriving DecidableEq, Repr

structure Scope where
  type : String
  method : String
  path : String
  headers : List Header
  state : Option ScopeState := none
  deriving DecidableEq, Repr

/-- `extra` of a record of the logger `app.http`, and its message. -/
structure LogRecord where
  message : String
  method : String
  path : String
  statusCode : Option ℕ := none
  requestId : String
  deriving DecidableEq, Repr

/-- What a call reads and writes. -/
structure World where
  /-- `_request_id_context` -/
  context : Option String
  responseStarted : Bool := false
  statusCode : ℕ := 500
  /-- the messages that the client's `send` has received -/
  sent : List Message := []
  logs : List LogRecord := []
  deriving DecidableEq, Repr

abbrev M (α : Type) := Exec Raised World α

/-- A finished call of an application. -/
structure Ran where
  sent : List Message
  result : Except Raised Unit
  /-- the value that it leaves in the context variable -/
  context : Option String

/-- An application, which may look at its scope and at the context variable. -/
abbrev ASGIApp := Scope → Option String → Ran

/-- `await self.app(scope, receive, send)`. -/
def ASGIApp.call (app : ASGIApp) (scope : Scope) (send : Message → M Unit) : M Unit := do
  let ran := app scope (← get).context
  ran.sent.forM send
  modify fun w => { w with context := ran.context }
  match ran.result with
  | .ok () => return
  | .error e => throw e

def REQUEST_ID_HEADER : String := "X-Request-ID"

/-- The token holds the former value. -/
def setRequestId (requestId : String) : M (Option String) := do
  let token := (← get).context
  modify fun w => { w with context := some requestId }
  return token

def resetRequestId (token : Option String) : M Unit := modify fun w => { w with context := token }

/-- `value or default`: `None` and the empty text are false. -/
def orElse (value : Option String) (default : String) : String :=
  match value with
  | none | some "" => default
  | some value => value

/-- The 32 hexadecimal digits of a UUID. -/
def hexDigits (uuid : UUID) : List Char :=
  (List.range 32).reverse.map fun i => Nat.digitChar (uuid / 16 ^ i % 16)

/-- `str(uuid)`. -/
def strUUID (uuid : UUID) : String :=
  let hex := hexDigits uuid
  String.ofList (hex.take 8 ++ '-' :: (hex.drop 8).take 4 ++ '-' :: (hex.drop 12).take 4 ++
    '-' :: (hex.drop 16).take 4 ++ '-' :: hex.drop 20)

/-- The client's `send`. -/
def send (message : Message) : M Unit := modify fun w => { w with sent := w.sent ++ [message] }

def log (record : LogRecord) : M Unit := modify fun w => { w with logs := w.logs ++ [record] }

namespace RequestContextMiddleware

def sendWithRequestId (starlette : Starlette) (requestId : String) : Message → M Unit
  | .start status headers => do
    modify fun w => { w with responseStarted := true, statusCode := status }
    send (.start status (starlette.setItem headers REQUEST_ID_HEADER requestId))
  | message => send message

/-- `headers.get(REQUEST_ID_HEADER) or str(uuid4())`. -/
def requestId (starlette : Starlette) (uuid4 : UUID) (scope : Scope) : String :=
  orElse (starlette.get scope.headers REQUEST_ID_HEADER) (strUUID uuid4)

/-- The record of an exception that the application has not handled. -/
def exceptionRecord (scope : Scope) (requestId : String) : LogRecord where
  message := "Unhandled application exception"
  method := scope.method
  path := scope.path
  requestId := requestId

def completedRecord (scope : Scope) (requestId : String) (statusCode : ℕ) : LogRecord where
  message := "HTTP request completed"
  method := scope.method
  path := scope.path
  statusCode := some statusCode
  requestId := requestId

/-- The content of the response to an unhandled exception. -/
def internalServerError (requestId : String) : Json :=
  errorContent "INTERNAL_SERVER_ERROR" "An unexpected error occurred" requestId

/-- The `except Exception` block of `__call__`. -/
def onException (starlette : Starlette) (scope : Scope) (requestId : String) : Raised → M Unit
  | .baseException exc => throw (.baseException exc)
  | .exception exc => do
    log (exceptionRecord scope requestId)
    if (← get).responseStarted then throw (.exception exc)
    else
      let response := starlette.jsonResponse 500 (internalServerError requestId) []
      response.forM (sendWithRequestId starlette requestId)

/-- The `finally` block of `__call__`. -/
def onExit (scope : Scope) (requestId : String) (contextToken : Option String) : M Unit := do
  log (completedRecord scope requestId (← get).statusCode)
  resetRequestId contextToken

/-- `__call__`; `uuid4` is drawn by the call. -/
def call (starlette : Starlette) (uuid4 : UUID) (app : ASGIApp) (scope : Scope) : M Unit := do
  if scope.type ≠ "http" then
    app.call scope send
  else
    let requestId := requestId starlette uuid4 scope
    let scope := { scope with state := some { requestId := some requestId } }
    let contextToken ← setRequestId requestId
    modify fun w => { w with statusCode := 500, responseStarted := false }
    try
      app.call scope (sendWithRequestId starlette requestId)
    catch e =>
      onException starlette scope requestId e
    finally
      onExit scope requestId contextToken

end RequestContextMiddleware

end TicketReservation.Http
