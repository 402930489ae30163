/-
  The responses of the error handlers (core/error_handlers.py).

  A handler takes the request id from the state of the scope, then from the
  context variable, and names it in the body and in a header of its own, which
  the middleware replaces.

  * `error_response_id`: header and body name the same id.
-/
import TicketReservation.Http.RequestContext

namespace TicketReservation.Http

open Effects

/-- `_request_id`. -/
def requestIdOf (scope : Scope) (context : Option String) : String :=
  orElse (scope.state.bind ScopeState.requestId) (orElse context "unknown")

/-- The messages of `_error_response`. -/
def errorResponse (starlette : Starlette) (scope : Scope) (context : Option String)
    (statusCode : ℕ) (code message : String) : List Message :=
  let requestId := requestIdOf scope context
  starlette.jsonResponse statusCode (errorContent code message requestId)
    [(REQUEST_ID_HEADER, requestId)]

/-- An application that answers every request with an error. -/
def answering (starlette : Starlette) (statusCode : ℕ) (code message : String) : ASGIApp :=
  fun scope context =>
    { sent := errorResponse starlette scope context statusCode code message
      result := .ok ()
      context := context }

section
variable {starlette : Starlette} {uuid4 : UUID} {scope : Scope}

/-- The state comes first. -/
theorem requestIdOf_state (scope : Scope) {id : String} (h : id ≠ "") (context : Option String) :
    requestIdOf { scope with state := some ⟨some id⟩ } context = id :=
  RequestContextMiddleware.orElse_some h _

open RequestContextMiddleware in
/-- **An error response names one id**, in its header and in its body. -/
theorem error_response_id (http : scope.type = "http") (statusCode : ℕ) (code message : String)
    (context : Option String) : ∃ headers body,
    (exec (call starlette uuid4 (answering starlette statusCode code message) scope)
      { context := context }).2.sent = [.start statusCode headers, .body body false] ∧
    (values REQUEST_ID_HEADER headers).map decodeLatin1 = [requestId starlette uuid4 scope] ∧
    errorRequestId body = some (requestId starlette uuid4 scope) := by
  have hid := latin1_requestId starlette uuid4 scope
  have hstate := requestIdOf_state scope (requestId_ne_empty starlette uuid4 scope)
    (some (requestId starlette uuid4 scope))
  obtain ⟨raw, hraw⟩ := starlette.jsonResponse_eq statusCode
    (errorContent code message (requestId starlette uuid4 scope))
    [(REQUEST_ID_HEADER, requestId starlette uuid4 scope)]
    (List.forall_mem_singleton.2 ⟨show Latin1 "X-Request-ID" by decide, hid⟩)
  have hsent : (ran starlette uuid4 (answering starlette statusCode code message) scope).sent =
      [.start statusCode raw, .body (encodeUtf8
        (errorContent code message (requestId starlette uuid4 scope)).dumps) false] := by
    rw [← hraw]
    simp only [ran, answering, errorResponse, hstate]
  rw [sent_call http, passed_of_ok rfl, hsent]
  refine ⟨_, _, rfl, ?_, errorRequestId_errorContent _ _ _⟩
  exact values_stamp hid (m := .start statusCode raw) rfl

end

end TicketReservation.Http
