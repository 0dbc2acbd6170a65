import Mathlib
import CarqnaAgent.Auth.Middleware
import CarqnaAgent.Foundations.Layers
import CarqnaAgent.Server.Ownership

/-!
# The whole server

The application of `src/agent/copilotkit_server.py` as it is served: `AuthMiddleware` around
the routes. Each request is a task with a context variable of its own; the stores are shared.
The steps of a request on its context are interleaved with the store steps of the others.

What a request is to the stores is settled by the request and by what the JWT library says
of its token (`admission`).
-/

set_option autoImplicit false

namespace CarqnaAgent.Server

open Foundations
open CarqnaAgent.Sessions

/-! ## Requests and responses -/

/-- A request as it reaches the application. -/
structure WebRequest (Body : Type) extends Auth.Scope where
  method : PyStr
  body : Body

/-- What a request is answered. -/
inductive WebResponse where
  /-- The answer of an endpoint. -/
  | endpoint (response : Response)
  /-- The answer of `health`. -/
  | health
  /-- The 422 of the framework for a body that does not validate. -/
  | validationError
  /-- What the framework answers where the application has no route. -/
  | framework
  /-- The `JSONResponse` of the middleware. -/
  | refused (status_code : ℕ) (detail : PyStr)
  /-- The 500 of the framework for an exception that leaves the middleware or a route. -/
  | internalServerError (exception : Auth.PyException)

/-- What the application is deployed with: its environment, its agent, the validation of the
bodies, and `str` of a claim. The JWT library refuses a `sub` that is not a string. -/
structure Deployment (Value Body History Reply Message : Type) where
  settings : Auth.AuthSettings
  maxStrDigits : ℕ
  agent : Agent History Reply Message
  runAgentInput : Body → Option (RunAgentInput Message)
  createSessionRequest : Body → Option PyStr
  str : Value → PyStr

/-! ## The task of a request -/

/-- A step of a request on what is its own. -/
inductive OwnStep (Value : Type) where
  | decode (token : PyStr)
  | setContext (ctx : Auth.AuthContext Value)
  | resetContext (oldValue : Option (Auth.AuthContext Value))
  | currentUserId
  | currentClaims
  | currentAccessToken
  | send (response : WebResponse)
  | sent

/-- The answer to an own step. -/
def OwnStep.Answer {Value : Type} : OwnStep Value → Type
  | .decode _ => Except Auth.DecodeError (Auth.Claims Value)
  | .setContext _ => Option (Auth.AuthContext Value)
  | .resetContext _ => Unit
  | .currentUserId => Except Auth.PyException Value
  | .currentClaims => Except Auth.PyException (Auth.Claims Value)
  | .currentAccessToken => Except Auth.PyException PyStr
  | .send _ => Unit
  | .sent => Option WebResponse

/-- What a request has to itself. -/
structure OwnState (Value : Type) where
  context : Option (Auth.AuthContext Value)
  response : Option WebResponse

/-- A new task: the context variable has its default, and nothing is sent. -/
def OwnState.initial {Value : Type} : OwnState Value := ⟨none, none⟩

/-- What a step does not choose: the answer of the JWT library, and a moment of the stores. -/
structure WebMoment (Value Reply : Type) extends Moment Reply where
  decoded : Except Auth.DecodeError (Auth.Claims Value)

section Tasks

variable {Value Body History Reply Message : Type}

/-- The own steps of a request. -/
def ownTask : Service (OwnStep Value) OwnStep.Answer (OwnState Value) (WebMoment Value Reply) :=
  fun moment state step =>
    match step with
    | .decode _ => (moment.decoded, state)
    | .setContext ctx => (state.context, { state with context := some ctx })
    | .resetContext oldValue => ((), { state with context := oldValue })
    | .currentUserId => (Auth.getCurrentUserId state.context, state)
    | .currentClaims => (Auth.getCurrentClaims state.context, state)
    | .currentAccessToken => (Auth.getCurrentAccessToken state.context, state)
    | .send response => ((), { state with response := some response })
    | .sent => (state.response, state)

/-- The stores, of the part of a moment that is theirs. -/
def stores : Service (Request History) (Request.Answer History Reply) (Backend History)
    (WebMoment Value Reply) :=
  backend.under WebMoment.toMoment

/-- A program of a request: own steps and steps on the stores. -/
abbrev WebProgram (Value History Reply α : Type) :=
  Program (OwnStep Value ⊕ Request History)
    (Sum.elim OwnStep.Answer (Request.Answer History Reply)) α

/-- Take one own step. -/
def take (step : OwnStep Value) : WebProgram Value History Reply step.Answer :=
  .call (.inl step) .ret

/-! ## The routes -/

variable (deployment : Deployment Value Body History Reply Message)

/-- A handler reads its caller from the context: the user id, and the access token that
`track_user` forwards. -/
def asCaller (handler : PyStr → ServerProgram History Reply Response) :
    WebProgram Value History Reply WebResponse := do
  match ← take .currentUserId with
  | .error exception => return .internalServerError exception
  | .ok user_id =>
      match ← take .currentAccessToken with
      | .error exception => return .internalServerError exception
      | .ok _ => do
          let response ← (handler (deployment.str user_id)).lifted (OwnStep Value) OwnStep.Answer
          return .endpoint response

/-- The handler of a route, once its body is validated. -/
def withBody {Parsed : Type} (body : Option Parsed)
    (handler : Parsed → PyStr → ServerProgram History Reply Response) :
    WebProgram Value History Reply WebResponse :=
  match body with
  | none => return .validationError
  | some parsed => asCaller deployment (handler parsed)

/-- The routes of `app`. -/
def app (request : WebRequest Body) : WebProgram Value History Reply WebResponse :=
  if request.type ≠ py "http" then return .framework
  else if request.path = py "/" ∧ request.method = py "POST" then
    withBody deployment (deployment.runAgentInput request.body) fun input_data user_id =>
      langgraphAgentEndpoint deployment.maxStrDigits deployment.agent user_id input_data
  else if request.path = py "/sessions" ∧ request.method = py "GET" then
    asCaller deployment fun user_id => listSessionsEndpoint user_id
  else if request.path = py "/sessions" ∧ request.method = py "POST" then
    withBody deployment (deployment.createSessionRequest request.body)
      fun session_name user_id => createSessionEndpoint user_id session_name
  else if request.path = py "/health" ∧ request.method = py "GET" then return .health
  else return .framework

/-- The effects of the middleware, on the task of a request; to enter the application is to take
a route and send what it answers. -/
def performEffect (request : WebRequest Body) :
    (effect : ℕ × Auth.Effect Value) → WebProgram Value History Reply effect.2.Answer
  | (_, .begin) => return ()
  | (_, .decode token) => take (.decode token)
  | (_, .setContext ctx) => take (.setContext ctx)
  | (_, .resetContext oldValue) => take (.resetContext oldValue)
  | (_, .enterApp) => do
      let response ← app deployment request
      take (.send response)
  | (_, .access .userId) => do return (← take .currentUserId).map .userId
  | (_, .access .claims) => do return (← take .currentClaims).map .claims
  | (_, .access .accessToken) => do return (← take .currentAccessToken).map .accessToken
  | (_, .await) => return .ok ()
  | (_, .respond status_code detail) => do
      take (.send (.refused status_code detail))
      return .ok ()
  | (_, .finish) => return ()

/-- How a request ends: the framework answers an exception that leaves the middleware. -/
def conclude : Auth.Outcome → WebProgram Value History Reply (Option WebResponse)
  | .error exception => return some (.internalServerError exception)
  | .ok () => take .sent

variable [Auth.Truthy Value]

/-- A request to `app` behind `AuthMiddleware`, and what it is answered. -/
def serveWeb (request : WebRequest Body) :
    WebProgram Value History Reply (Option WebResponse) := do
  conclude (← (Auth.AuthMiddleware.call deployment.settings (fun _ => return .ok ()) 0
    request.toScope).interpret (performEffect deployment request))

/-- Any number of requests, served at once. -/
def webServer {ι : Type} (requests : ι → WebRequest Body) (state : Backend History) :
    Pool ι (ι × (OwnStep Value ⊕ Request History))
      (fun request => Sum.elim OwnStep.Answer (Request.Answer History Reply) request.2)
      (Option WebResponse) ((ι → OwnState Value) × Backend History) :=
  .layered (fun i => serveWeb deployment (requests i)) (fun _ => .initial) state

end Tasks

/-! ## What a request is to the stores -/

section Admission

variable {Value Body History Reply Message : Type}
  (deployment : Deployment Value Body History Reply Message) (request : WebRequest Body)

/-- The answer of a route that has no caller, or the request of a caller. -/
def routed : WebResponse ⊕ (PyStr → HttpRequest Message) :=
  if request.type ≠ py "http" then .inl .framework
  else if request.path = py "/" ∧ request.method = py "POST" then
    match deployment.runAgentInput request.body with
    | none => .inl .validationError
    | some input_data => .inr fun user_id => .chat user_id input_data
  else if request.path = py "/sessions" ∧ request.method = py "GET" then .inr .listSessions
  else if request.path = py "/sessions" ∧ request.method = py "POST" then
    match deployment.createSessionRequest request.body with
    | none => .inl .validationError
    | some session_name => .inr fun user_id => .createSession user_id session_name
  else if request.path = py "/health" ∧ request.method = py "GET" then .inl .health
  else .inl .framework

/-- The answer to a request whose token is not accepted. -/
def refusal : Auth.PyException → WebResponse
  | .httpException status_code detail => .refused status_code detail
  | exception => .internalServerError exception

/-- The exception of an accessor where no context is set. -/
def noContext : Auth.PyException :=
  .runtimeError (py ("No authenticated request context is active -- " ++
    "AuthMiddleware must run before this code path, and the route must not be on " ++
    "the middleware's unauthenticated-path allowlist."))

/-- A request with verified claims, or what the middleware answers. -/
def admitClaims [Auth.Truthy Value] :
    Except Auth.PyException (Auth.Claims Value) → WebResponse ⊕ HttpRequest Message
  | .error exception => .inl (refusal exception)
  | .ok claims =>
      match claims.get? (py "sub") with
      | none => .inl (.internalServerError (.keyError (py "sub")))
      | some sub => (routed deployment request).map id (· (deployment.str sub))

/-- What is answered with no verified user, or the request of the verified user. -/
def admission [Auth.Truthy Value] (decoded : Except Auth.DecodeError (Auth.Claims Value)) :
    WebResponse ⊕ HttpRequest Message :=
  if request.bypasses then
    .inl ((routed deployment request).elim id fun _ => .internalServerError noContext)
  else
    match Auth.getBearerToken request.authorization with
    | .error exception => .inl (refusal exception)
    | .ok _ =>
        if deployment.settings.complete = false then
          .inl (.internalServerError
            (.runtimeError (py "AUTH0_DOMAIN and AUTH0_AUDIENCE must both be set")))
        else admitClaims deployment request (Auth.checkClaims decoded)

variable {deployment request}

/-- A route answers, or handles the request of its caller. -/
theorem app_eq : app deployment request = (routed deployment request).elim .ret fun made =>
    asCaller deployment fun user_id =>
      handle deployment.maxStrDigits deployment.agent (made user_id) := by
  unfold app routed withBody
  split_ifs
  · rfl
  · cases deployment.runAgentInput request.body with
    | none => rfl
    | some input_data => rfl
  · rfl
  · cases deployment.createSessionRequest request.body with
    | none => rfl
    | some session_name => rfl
  · rfl
  · rfl

variable [Auth.Truthy Value]

/-- **A request is admitted exactly when its own token verifies**, as the request its route makes
of the verified `sub`. -/
theorem admission_eq_inr_iff {decoded : Except Auth.DecodeError (Auth.Claims Value)}
    {served : HttpRequest Message} :
    admission deployment request decoded = .inr served ↔
      request.bypasses = false ∧
      (∃ token, Auth.getBearerToken request.authorization = .ok token) ∧
      deployment.settings.complete = true ∧
      ∃ claims sub made, decoded = .ok claims ∧ Auth.subject claims = some sub ∧
        routed deployment request = .inr made ∧ served = made (deployment.str sub) := by
  constructor
  · intro admitted
    unfold admission at admitted
    split at admitted
    · cases admitted
    · rename_i guarded
      cases bearer : Auth.getBearerToken request.authorization with
      | error exception => simp [bearer] at admitted
      | ok token =>
          simp only [bearer] at admitted
          split at admitted
          · cases admitted
          · rename_i complete
            cases checked : Auth.checkClaims decoded with
            | error exception => simp [checked, admitClaims] at admitted
            | ok claims =>
                obtain ⟨verified, sub, found⟩ := Auth.checkClaims_eq_ok checked
                obtain ⟨looked, -⟩ := Option.filter_eq_some_iff.mp found
                rw [checked, admitClaims, looked] at admitted
                cases route : routed deployment request with
                | inl response => simp [route] at admitted
                | inr made =>
                    simp only [route, Sum.map_inr, Sum.inr.injEq] at admitted
                    exact ⟨by simpa using guarded, ⟨token, rfl⟩, by simpa using complete, claims,
                      sub, made, verified, found, rfl, admitted.symm⟩
  · rintro ⟨guarded, ⟨token, bearer⟩, complete, claims, sub, made, rfl, found, route, rfl⟩
    obtain ⟨looked, -⟩ := Option.filter_eq_some_iff.mp found
    simp [admission, guarded, bearer, complete, Auth.checkClaims, found, admitClaims, looked, route]

end Admission

/-! ## A request and its endpoint -/

section Settled

variable {Value Body History Reply Message : Type}

/-- What a request answers when it ends, against its endpoint. -/
def Settled (admitted : WebResponse ⊕ HttpRequest Message) (value : Option (Option WebResponse))
    (endpoint : ServerProgram History Reply Response) : Prop :=
  ∀ answer ∈ value, admitted.elim (fun response => answer = some response) fun _ =>
    ∃ response, endpoint = .ret response ∧ answer = some (.endpoint response)

theorem settled_none {admitted : WebResponse ⊕ HttpRequest Message}
    {endpoint : ServerProgram History Reply Response} : Settled admitted none endpoint := by
  intro answer member
  simp at member

theorem settled_answer (response : WebResponse) (endpoint : ServerProgram History Reply Response) :
    Settled (.inl response : WebResponse ⊕ HttpRequest Message) (some (some response)) endpoint :=
  fun _ member => (Option.mem_some.mp member).symm

theorem settled_endpoint (served : HttpRequest Message) (response : Response) :
    Settled (.inr served) (some (some (.endpoint response)))
      (.ret response : ServerProgram History Reply Response) :=
  fun _ member => ⟨response, rfl, (Option.mem_some.mp member).symm⟩

/-- Whatever the moments of its turns, the program is behind the endpoint. -/
def Follows (admitted : WebResponse ⊕ HttpRequest Message)
    (program : WebProgram Value History Reply (Option WebResponse)) (state : OwnState Value)
    (endpoint : ServerProgram History Reply Response) : Prop :=
  ∀ turns : List (WebMoment Value Reply),
    (program.resolve ownTask turns state).Behind (Settled admitted) endpoint

variable {admitted : WebResponse ⊕ HttpRequest Message} {state : OwnState Value}
  {endpoint : ServerProgram History Reply Response}

theorem follows_ret {answer : Option WebResponse}
    (settled : Settled admitted (some answer) endpoint) :
    Follows admitted (.ret answer : WebProgram Value History Reply (Option WebResponse)) state
      endpoint :=
  fun _ => settled

theorem follows_own {step : OwnStep Value}
    {next : step.Answer → WebProgram Value History Reply (Option WebResponse)}
    (goes : ∀ moment : WebMoment Value Reply, Follows admitted (next (ownTask moment state step).1)
      (ownTask moment state step).2 endpoint) :
    Follows admitted (.call (.inl step) next) state endpoint :=
  fun _ => Program.behind_own (fun _ => settled_none) fun moment rest _ => goes moment rest

/-- What is sent last is the answer. -/
theorem follows_sent {answer : Option WebResponse} (here : state.response = answer)
    (settled : Settled admitted (some answer) endpoint) :
    Follows admitted (take .sent) state endpoint := by
  refine follows_own fun moment => follows_ret ?_
  simp only [ownTask, here]
  exact settled

variable (deployment : Deployment Value Body History Reply Message) {request : WebRequest Body}

/-- In a context, a handler is the endpoint of the caller. -/
theorem follows_asCaller (handler : PyStr → ServerProgram History Reply Response)
    {ctx : Auth.AuthContext Value} {response : Option WebResponse}
    {after : WebResponse → WebProgram Value History Reply (Option WebResponse)}
    (ending : ∀ value, Follows admitted (after (.endpoint value)) ⟨some ctx, response⟩
      (.ret value)) :
    Follows admitted (asCaller deployment handler >>= after) ⟨some ctx, response⟩
      (handler (deployment.str ctx.user_id)) := by
  refine follows_own fun _ => follows_own fun _ turns => ?_
  have lifted : ((((handler (deployment.str ctx.user_id)).lifted (OwnStep Value) OwnStep.Answer >>=
      fun value => .ret (.endpoint value)) >>= after).resolve ownTask turns
      ⟨some ctx, response⟩).Behind (Settled admitted) (handler (deployment.str ctx.user_id)) := by
    rw [bind_assoc]
    exact Program.behind_lifted ending
  exact lifted

/-- A route in a context, up to the reset of the context. -/
theorem follows_app (ctx : Auth.AuthContext Value) (oldValue : Option (Auth.AuthContext Value))
    (served : ∀ request', (routed deployment request).map id (· (deployment.str ctx.user_id)) =
      .inr request' → endpoint = handle deployment.maxStrDigits deployment.agent request') :
    Follows ((routed deployment request).map id (· (deployment.str ctx.user_id)))
      (app deployment request >>= fun response => .call (.inl (.send response)) fun _ =>
        .call (.inl (.resetContext oldValue)) fun _ => take .sent) ⟨some ctx, none⟩ endpoint := by
  rw [app_eq]
  cases route : routed deployment request with
  | inl response =>
      refine follows_own fun _ => follows_own fun _ => follows_sent rfl ?_
      exact settled_answer response endpoint
  | inr made =>
      rw [route] at served
      obtain rfl := served _ rfl
      refine follows_asCaller deployment
        (fun user_id => handle deployment.maxStrDigits deployment.agent (made user_id))
        fun response => ?_
      refine follows_own fun _ => follows_own fun _ => follows_sent rfl ?_
      exact settled_endpoint _ response

variable [Auth.Truthy Value]

/-- On the allowlist the application runs without a context. -/
theorem serveWeb_of_bypasses (bypasses : request.bypasses = true) :
    serveWeb deployment request = (app deployment request >>= fun response =>
      .call (.inl (.send response)) fun _ => take .sent) := by
  have enters : serveWeb deployment request =
      (((app deployment request >>= fun response =>
        (.call (.inl (.send response)) fun _ => .ret () : WebProgram Value History Reply Unit)) >>=
          fun _ => .ret (.ok ())) >>= conclude) := by
    unfold serveWeb Auth.AuthMiddleware.call
    rw [if_pos bypasses]
    rfl
  rw [enters, bind_assoc, bind_assoc]
  rfl

/-- A request that the middleware refuses. -/
def refuseWeb : Auth.PyException → WebProgram Value History Reply (Option WebResponse)
  | .httpException status_code detail =>
      .call (.inl (.send (.refused status_code detail))) fun _ => take .sent
  | exception => .ret (some (.internalServerError exception))

/-- What follows the verification. -/
def afterDecode (request : WebRequest Body) (token : PyStr) :
    Except Auth.PyException (Auth.Claims Value) →
      WebProgram Value History Reply (Option WebResponse)
  | .error exception => refuseWeb exception
  | .ok claims =>
      match claims.get? (py "sub") with
      | none => .ret (some (.internalServerError (.keyError (py "sub"))))
      | some sub => .call (.inl (.setContext ⟨sub, claims, token⟩)) fun oldValue =>
          app deployment request >>= fun response => .call (.inl (.send response)) fun _ =>
            .call (.inl (.resetContext oldValue)) fun _ => take .sent

omit [Auth.Truthy Value] in
theorem interpret_refuse (exception : Auth.PyException) :
    (((Auth.refuse 0 exception).interpret (performEffect deployment request)) >>= conclude) =
      refuseWeb exception := by
  cases exception with
  | httpException status_code detail => rfl
  | runtimeError message => rfl
  | keyError key => rfl
  | other text => rfl

/-- Outside the allowlist a request without a bearer token is refused. -/
theorem serveWeb_of_malformed (guarded : request.bypasses = false) {exception : Auth.PyException}
    (malformed : Auth.getBearerToken request.authorization = .error exception) :
    serveWeb deployment request = refuseWeb exception := by
  unfold serveWeb Auth.AuthMiddleware.call
  rw [if_neg (by simp [guarded])]
  simp only [malformed]
  exact interpret_refuse deployment exception

/-- An incomplete environment. -/
theorem serveWeb_of_incomplete (guarded : request.bypasses = false) {token : PyStr}
    (bearer : Auth.getBearerToken request.authorization = .ok token)
    (incomplete : deployment.settings.complete = false) :
    serveWeb deployment request = .ret (some (.internalServerError
      (.runtimeError (py "AUTH0_DOMAIN and AUTH0_AUDIENCE must both be set")))) := by
  unfold serveWeb Auth.AuthMiddleware.call
  rw [if_neg (by simp [guarded])]
  simp only [bearer, Auth.authenticateRequest]
  rw [if_pos incomplete]
  rfl

omit [Auth.Truthy Value] in
/-- What the middleware does with the outcome of the verification. -/
theorem interpret_dispatch (token : PyStr) (checked : Except Auth.PyException (Auth.Claims Value)) :
    (((Auth.dispatch (fun _ => return .ok ()) 0 request.toScope token checked).interpret
      (performEffect deployment request)) >>= conclude) =
      afterDecode deployment request token checked := by
  cases checked with
  | error exception => exact interpret_refuse deployment exception
  | ok claims =>
      cases looked : claims.get? (py "sub") with
      | none =>
          simp only [Auth.dispatch, afterDecode, looked]
          rfl
      | some sub =>
          have runs : ∀ oldValue : Option (Auth.AuthContext Value),
              ((((app deployment request >>= fun response => (.call (.inl (.send response))
                fun _ => .ret () : WebProgram Value History Reply Unit)) >>= fun _ =>
                  .call (.inl (.resetContext oldValue)) fun _ => .ret (.ok ())) >>= conclude) :
                WebProgram Value History Reply (Option WebResponse)) =
              (app deployment request >>= fun response => .call (.inl (.send response)) fun _ =>
                .call (.inl (.resetContext oldValue)) fun _ => take .sent) := by
            intro oldValue
            rw [bind_assoc, bind_assoc]
            rfl
          simp only [Auth.dispatch, afterDecode, looked]
          exact congrArg (Program.call (Sum.inl (OwnStep.setContext ⟨sub, claims, token⟩)))
            (funext runs)

/-- The token is verified first. -/
theorem serveWeb_of_bearer (guarded : request.bypasses = false) {token : PyStr}
    (bearer : Auth.getBearerToken request.authorization = .ok token)
    (complete : deployment.settings.complete = true) :
    serveWeb deployment request = .call (.inl (.decode token)) fun decoded =>
      afterDecode deployment request token (Auth.checkClaims decoded) := by
  unfold serveWeb Auth.AuthMiddleware.call
  rw [if_neg (by simp [guarded])]
  simp only [bearer, Auth.authenticateRequest]
  rw [if_neg (by simp [complete])]
  exact congrArg (Program.call _)
    (funext fun decoded => interpret_dispatch deployment token (Auth.checkClaims decoded))

omit [Auth.Truthy Value] in
theorem follows_refuse (exception : Auth.PyException) :
    Follows (.inl (refusal exception) : WebResponse ⊕ HttpRequest Message) (refuseWeb exception)
      state endpoint := by
  cases exception with
  | httpException status_code detail =>
      exact follows_own fun _ => follows_sent rfl (settled_answer _ endpoint)
  | runtimeError message => exact follows_ret (settled_answer _ endpoint)
  | keyError key => exact follows_ret (settled_answer _ endpoint)
  | other text => exact follows_ret (settled_answer _ endpoint)

omit [Auth.Truthy Value] in
/-- Without a context, a handler raises. -/
theorem follows_asCaller_none (handler : PyStr → ServerProgram History Reply Response)
    {response : Option WebResponse}
    {after : WebResponse → WebProgram Value History Reply (Option WebResponse)}
    (ending : Follows admitted (after (.internalServerError noContext)) ⟨none, response⟩
      endpoint) :
    Follows admitted (asCaller deployment handler >>= after) ⟨none, response⟩ endpoint :=
  follows_own fun _ => ending

/-- What follows the verification, for the endpoint of the verified user. -/
theorem follows_afterDecode (token : PyStr)
    (checked : Except Auth.PyException (Auth.Claims Value))
    (served : ∀ request', admitClaims deployment request checked = .inr request' →
      endpoint = handle deployment.maxStrDigits deployment.agent request') :
    Follows (admitClaims deployment request checked) (afterDecode deployment request token checked)
      .initial endpoint := by
  cases checked with
  | error exception => exact follows_refuse exception
  | ok claims =>
      cases looked : claims.get? (py "sub") with
      | none =>
          simp only [admitClaims, afterDecode, looked]
          exact follows_ret (settled_answer _ endpoint)
      | some sub =>
          simp only [admitClaims, looked] at served
          simp only [admitClaims, afterDecode, looked]
          exact follows_own fun _ => follows_app deployment ⟨sub, claims, token⟩ none served

/-- **A request does to the stores what the endpoint of its verified user does.** -/
theorem serveWeb_behind (moment : WebMoment Value Reply) (rest : List (WebMoment Value Reply))
    (served : ∀ request', admission deployment request moment.decoded = .inr request' →
      endpoint = handle deployment.maxStrDigits deployment.agent request') :
    ((serveWeb deployment request).resolve ownTask (moment :: rest) .initial).Behind
      (Settled (admission deployment request moment.decoded)) endpoint := by
  unfold admission at served ⊢
  cases guarded : request.bypasses with
  | true =>
      rw [serveWeb_of_bypasses deployment guarded, app_eq]
      simp only [if_true]
      cases routed deployment request with
      | inl response =>
          exact follows_own (fun _ => follows_sent rfl (settled_answer response endpoint)) _
      | inr made =>
          refine follows_asCaller_none deployment
            (fun user_id => handle deployment.maxStrDigits deployment.agent (made user_id)) ?_ _
          exact follows_own fun _ => follows_sent rfl (settled_answer _ endpoint)
  | false =>
      simp only [guarded, Bool.false_eq_true, if_false] at served ⊢
      cases bearer : Auth.getBearerToken request.authorization with
      | error exception =>
          rw [serveWeb_of_malformed deployment guarded bearer]
          exact follows_refuse exception _
      | ok token =>
          simp only [bearer] at served ⊢
          cases complete : deployment.settings.complete with
          | false =>
              rw [serveWeb_of_incomplete deployment guarded bearer complete]
              exact settled_answer _ endpoint
          | true =>
              rw [serveWeb_of_bearer deployment guarded bearer complete]
              simp only [complete, Bool.true_eq_false, if_false] at served ⊢
              exact follows_afterDecode deployment token _ served rest

end Settled

end CarqnaAgent.Server
