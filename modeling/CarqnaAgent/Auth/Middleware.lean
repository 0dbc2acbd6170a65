import Mathlib
import CarqnaAgent.Auth.Verification
import CarqnaAgent.Foundations.LocalPrograms

/-!
# `AuthMiddleware`

`src/agent/auth_middleware.py` around an arbitrary application. A task serves HTTP
requests one after the other; its context variable is its own. Every synchronous
effect (a read or a change of the context, a verification) and every await is one
step of the task, so the interleavings of tasks are the schedules of a pool.

The service writes a log of what happens, each entry under the number of the request
in its task. The numbers and the log are for the statements only: no answer depends
on them.
-/

set_option autoImplicit false

namespace CarqnaAgent.Auth

open Foundations

/-- An ASGI scope, and the `Authorization` header of its request. -/
structure Scope where
  type : PyStr
  path : PyStr
  authorization : Option PyStr

/-- `_UNAUTHENTICATED_PATHS`. -/
def unauthenticatedPaths : List PyStr :=
  [py "/health", py "/docs", py "/redoc", py "/openapi.json"]

/-- The middleware passes the scope on as it is. -/
def Scope.bypasses (scope : Scope) : Bool :=
  decide (scope.type ≠ py "http" ∨ scope.path ∈ unauthenticatedPaths)

/-! ## Effects -/

/-- An effect of a task. `begin` and `finish` mark the ends of a request, `enterApp` the call
of the inner application. -/
inductive Effect (Value : Type) where
  | begin
  | decode (token : PyStr)
  | setContext (ctx : AuthContext Value)
  | resetContext (oldValue : Option (AuthContext Value))
  | enterApp
  | access (accessor : Accessor)
  | await
  | respond (status_code : ℕ) (detail : PyStr)
  | finish

/-- The answer to an effect. The token of `ContextVar.set` holds the old value. -/
def Effect.Answer {Value : Type} : Effect Value → Type
  | .decode _ => Except DecodeError (Claims Value)
  | .setContext _ => Option (AuthContext Value)
  | .access _ => Except PyException (AccessorValue Value)
  | .await => Except PyException Unit
  | .respond _ _ => Except PyException Unit
  | _ => Unit

/-- An entry of the log. -/
inductive Event (Value : Type) where
  | began (context : Option (AuthContext Value))
  | decoded (token : PyStr) (answer : Except DecodeError (Claims Value))
  | contextSet
  | contextReset
  | entered
  | accessed (accessor : Accessor) (answer : Except PyException (AccessorValue Value))
  | awaited
  | rejected (status_code : ℕ) (detail : PyStr)
  | finished (context : Option (AuthContext Value))

/-- What a task has to itself: its context variable, and the log of its requests. -/
structure TaskState (Value : Type) where
  context : Option (AuthContext Value)
  log : List (ℕ × Event Value)

/-- What a step does not choose: the answer of the JWT library, and how an await ends. -/
structure Circumstance (Value : Type) where
  decoded : Except DecodeError (Claims Value)
  awaited : Except PyException Unit

section Tasks

variable {Value : Type}

/-- The state with a further entry of the log. -/
def TaskState.record (state : TaskState Value) (n : ℕ) (event : Event Value)
    (context : Option (AuthContext Value)) : TaskState Value where
  context := context
  log := state.log ++ [(n, event)]

/-- The effects of request `n` on its task. -/
def task : Service (ℕ × Effect Value) (fun request => request.2.Answer) (TaskState Value)
    (Circumstance Value) :=
  fun circumstance state (n, effect) =>
    match effect with
    | .begin => ((), state.record n (.began state.context) state.context)
    | .decode token =>
        (circumstance.decoded, state.record n (.decoded token circumstance.decoded) state.context)
    | .setContext ctx => (state.context, state.record n .contextSet (some ctx))
    | .resetContext oldValue => ((), state.record n .contextReset oldValue)
    | .enterApp => ((), state.record n .entered state.context)
    | .access accessor =>
        (accessor.call state.context,
          state.record n (.accessed accessor (accessor.call state.context)) state.context)
    | .await => (circumstance.awaited, state.record n .awaited state.context)
    | .respond status_code detail =>
        (circumstance.awaited, state.record n (.rejected status_code detail) state.context)
    | .finish => ((), state.record n (.finished state.context) state.context)

/-- A program of a task. -/
abbrev TaskProgram (Value : Type) :=
  Program (ℕ × Effect Value) fun request => request.2.Answer

/-- Issue an effect of request `n`. -/
def issue (n : ℕ) (effect : Effect Value) : TaskProgram Value effect.Answer :=
  .call (n, effect) .ret

/-! ## The application -/

/-- A step of a handler: it calls an accessor, or it awaits. -/
inductive HandlerStep where
  | access (accessor : Accessor)
  | await

/-- The answer to a step of a handler. -/
def HandlerStep.Answer (Value : Type) : HandlerStep → Type
  | .access _ => Except PyException (AccessorValue Value)
  | .await => Except PyException Unit

/-- How a call ends: it returns, or it raises. -/
abbrev Outcome := Except PyException Unit

/-- The inner application: what it does on a scope. -/
abbrev App (Value : Type) := Scope → Program HandlerStep (HandlerStep.Answer Value) Outcome

/-- A step of a handler is an effect of its task. -/
def HandlerStep.perform (n : ℕ) : (step : HandlerStep) → TaskProgram Value (step.Answer Value)
  | .access accessor => issue n (.access accessor)
  | .await => issue n .await

/-- `await self.app(scope, receive, send)`. -/
def runApp (app : App Value) (n : ℕ) (scope : Scope) : TaskProgram Value Outcome := do
  issue n .enterApp
  (app scope).interpret (HandlerStep.perform n)

/-! ## The middleware -/

variable [Truthy Value] (settings : AuthSettings) (app : App Value) (n : ℕ)

/-- `authenticate_request`. -/
def authenticateRequest (token : PyStr) : TaskProgram Value (Except PyException (Claims Value)) :=
  if settings.complete = false then
    return .error (.runtimeError (py "AUTH0_DOMAIN and AUTH0_AUDIENCE must both be set"))
  else do
    let decoded ← issue n (.decode token)
    return checkClaims decoded

/-- The `except HTTPException` clause. No clause catches another exception. -/
def refuse : PyException → TaskProgram Value Outcome
  | .httpException status_code detail => issue n (.respond status_code detail)
  | exception => return .error exception

/-- The context is set, the application runs, and `finally` resets the context. -/
def runAs (scope : Scope) (ctx : AuthContext Value) : TaskProgram Value Outcome := do
  let resetToken ← issue n (.setContext ctx)
  let outcome ← runApp app n scope
  issue n (.resetContext resetToken)
  return outcome

/-- What follows the verification of the token. -/
def dispatch (scope : Scope) (token : PyStr) :
    Except PyException (Claims Value) → TaskProgram Value Outcome
  | .error exception => refuse n exception
  | .ok claims =>
      match claims.get? (py "sub") with
      | none => return .error (.keyError (py "sub"))
      | some sub => runAs app n scope ⟨sub, claims, token⟩

/-- `AuthMiddleware.__call__`. -/
def AuthMiddleware.call (scope : Scope) : TaskProgram Value Outcome :=
  if scope.bypasses then runApp app n scope
  else
    match getBearerToken scope.authorization with
    | .error exception => refuse n exception
    | .ok token => do dispatch app n scope token (← authenticateRequest settings n token)

/-- One request of a task. The server catches what the application raises. -/
def serveRequest (scope : Scope) : TaskProgram Value Unit := do
  issue n .begin
  let _ ← AuthMiddleware.call settings app n scope
  issue n .finish

/-- The requests of a task, from number `n` on. -/
def serve : ℕ → List Scope → TaskProgram Value Unit
  | _, [] => return ()
  | n, scope :: rest => do
      serveRequest settings app n scope
      serve (n + 1) rest

/-- A task that has served no request: its context variable has its default. -/
def TaskState.initial : TaskState Value := ⟨none, []⟩

/-- Any number of tasks, each with its requests. -/
def server {ι : Type} (requests : ι → List Scope) :
    Pool ι (ι × (ℕ × Effect Value)) (fun request => request.2.2.Answer) Unit
      (ι → TaskState Value) :=
  .sideBySide (fun i => serve settings app 0 (requests i)) fun _ => .initial

end Tasks

end CarqnaAgent.Auth
