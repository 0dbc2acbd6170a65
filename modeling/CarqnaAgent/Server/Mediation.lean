import Mathlib
import CarqnaAgent.Server.Gateway
import CarqnaAgent.Sessions.Histories

/-!
# What reaches the stores

Runs of the whole server, against runs of the endpoints behind the middleware.

* **Every run of the server is a run of the endpoints, for the requests whose own tokens have
  verified** (`webServer_refines_serving`): the same store steps in the same order, the same
  stores after them, the same answers.
* **No step reaches a store before the request's own token has verified**
  (`store_steps_mediated`).
* **What users see of their chats does not depend on the other requests**
  (`web_chats_unaffected`).
-/

set_option autoImplicit false

namespace CarqnaAgent.Server

open Foundations
open CarqnaAgent.Sessions

variable {Value Body History Reply Message ι : Type} [Auth.Truthy Value] [DecidableEq ι]

/-! ## Admitted requests -/

/-- What a request of a run is admitted as: its token is verified in its first turn. -/
def admitted (deployment : Deployment Value Body History Reply Message)
    (requests : ι → WebRequest Body) (schedule : List (ι × WebMoment Value Reply)) (i : ι) :
    Option (HttpRequest Message) :=
  (turnsOf schedule i).head?.bind fun moment =>
    (admission deployment (requests i) moment.decoded).getRight?

section Admitted

variable {deployment : Deployment Value Body History Reply Message}
  {requests : ι → WebRequest Body} {schedule : List (ι × WebMoment Value Reply)} {i : ι}

theorem admitted_eq_some_iff {request : HttpRequest Message} :
    admitted deployment requests schedule i = some request ↔
      ∃ moment, (turnsOf schedule i).head? = some moment ∧
        admission deployment (requests i) moment.decoded = .inr request := by
  simp only [admitted, Option.bind_eq_some_iff, Sum.getRight?_eq_some_iff]

/-- A request with no turn has not reached a store. -/
theorem serveWeb_resolve_nil (deployment : Deployment Value Body History Reply Message)
    (request : WebRequest Body) :
    ∃ value, (serveWeb deployment request).resolve ownTask ([] : List (WebMoment Value Reply))
      .initial = .ret value := by
  cases guarded : request.bypasses with
  | true =>
      rw [serveWeb_of_bypasses deployment guarded, app_eq]
      cases routed deployment request with
      | inl response => exact ⟨_, rfl⟩
      | inr made => exact ⟨_, rfl⟩
  | false =>
      cases bearer : Auth.getBearerToken request.authorization with
      | error exception =>
          rw [serveWeb_of_malformed deployment guarded bearer]
          cases exception with
          | httpException status_code detail => exact ⟨_, rfl⟩
          | runtimeError message => exact ⟨_, rfl⟩
          | keyError key => exact ⟨_, rfl⟩
          | other text => exact ⟨_, rfl⟩
      | ok token =>
          cases complete : deployment.settings.complete with
          | false =>
              rw [serveWeb_of_incomplete deployment guarded bearer complete]
              exact ⟨_, rfl⟩
          | true =>
              rw [serveWeb_of_bearer deployment guarded bearer complete]
              exact ⟨_, rfl⟩

/-- How a request has ended, by its first turn. -/
def Ended (deployment : Deployment Value Body History Reply Message)
    (requests : ι → WebRequest Body) (schedule : List (ι × WebMoment Value Reply)) (i : ι)
    (value : Option (Option WebResponse)) (endpoint : ServerProgram History Reply Response) : Prop :=
  ∀ moment ∈ (turnsOf schedule i).head?,
    Settled (admission deployment (requests i) moment.decoded) value endpoint

/-- **In a run, each request is behind the endpoint of what it is admitted as.** -/
theorem resolved_behind {endpoint : ServerProgram History Reply Response}
    (served : ∀ request, admitted deployment requests schedule i = some request →
      endpoint = handle deployment.maxStrDigits deployment.agent request) :
    ((serveWeb deployment (requests i)).resolve ownTask (turnsOf schedule i) .initial).Behind
      (Ended deployment requests schedule i) endpoint := by
  cases turns : turnsOf schedule i with
  | nil =>
      obtain ⟨value, returned⟩ := serveWeb_resolve_nil deployment (requests i)
      rw [returned]
      intro moment first
      simp [turns] at first
  | cons moment rest =>
      have first : (turnsOf schedule i).head? = some moment := by rw [turns, List.head?_cons]
      have behind := serveWeb_behind deployment moment rest fun request admits =>
        served request (admitted_eq_some_iff.mpr ⟨moment, first, admits⟩)
      refine Program.behind_mono behind fun value other settled moment' same => ?_
      rw [first, Option.mem_some_iff] at same
      exact same ▸ settled

/-- The store steps of a request of a run are those of what it is admitted as. -/
theorem resolved_uses (deployment : Deployment Value Body History Reply Message)
    (requests : ι → WebRequest Body) (schedule : List (ι × WebMoment Value Reply)) (i : ι) :
    ((serveWeb deployment (requests i)).resolve ownTask (turnsOf schedule i) .initial).Uses
      fun asked => ∀ step ∈ asked, ∃ request,
        admitted deployment requests schedule i = some request ∧
          request.MayTake deployment.maxStrDigits step := by
  cases admits : admitted deployment requests schedule i with
  | none =>
      have behind : ((serveWeb deployment (requests i)).resolve ownTask (turnsOf schedule i)
          .initial).Behind (Ended deployment requests schedule i)
          (.ret (.stream []) : ServerProgram History Reply Response) :=
        resolved_behind fun request found =>
          absurd (admits.symm.trans found) (Option.some_ne_none request).symm
      have silent : (.ret (.stream []) : ServerProgram History Reply Response).Uses fun _ => False :=
        trivial
      exact Program.uses_mono (Program.uses_of_behind behind silent)
        fun asked unasked step member => (unasked step member).elim
  | some request =>
      have behind := resolved_behind fun other found =>
        congrArg (handle deployment.maxStrDigits deployment.agent)
          (Option.some.inj (admits.symm.trans found))
      have uses := handle_steps deployment.maxStrDigits deployment.agent request
      exact Program.uses_mono (Program.uses_of_behind behind uses)
        fun asked may step member => ⟨request, rfl, may step member⟩

end Admitted

/-- A region of the stores, for resolved requests. -/
def atStores (Value : Type) (region : Region (backend : Service (Request History) (Request.Answer History Reply)
    (Backend History) (Moment Reply))) :
    Region (Service.waiting (stores : Service (Request History) (Request.Answer History Reply)
      (Backend History) (WebMoment Value Reply))) :=
  (region.under WebMoment.toMoment).waiting

/-! ## Refinement -/

/-- **Every run of the server is a run of the endpoints**, of the requests that are admitted, in
some of its moments: with the same store steps, the same stores and the same answers. -/
theorem webServer_refines_serving (deployment : Deployment Value Body History Reply Message)
    (requests : ι → WebRequest Body) (state : Backend History)
    (schedule : List (ι × WebMoment Value Reply)) :
    let web := webServer deployment requests state
    let final := web.execute (ownTask.layered stores) schedule
    ∃ (verified : ι → HttpRequest Message) (schedule' : List (ι × Moment Reply)),
      let served := serving deployment.maxStrDigits deployment.agent verified state
      (∀ i request, admitted deployment requests schedule i = some request →
        verified i = request) ∧
      schedule'.Sublist (schedule.map (Prod.map id WebMoment.toMoment)) ∧
      (∀ turn ∈ schedule', (admitted deployment requests schedule turn.1).isSome) ∧
      sharedOnly (web.trace (ownTask.layered stores) schedule) =
        served.trace backend schedule' ∧
      final.state.2 = (served.execute backend schedule').state ∧
      ∀ i answer, final.threads i = .ret answer →
        ∀ moment, (turnsOf schedule i).head? = some moment →
          (∀ response, admission deployment (requests i) moment.decoded = .inl response →
            answer = some response) ∧
          ∀ request, admission deployment (requests i) moment.decoded = .inr request →
            ∃ response, (served.execute backend schedule').threads i = .ret response ∧
              answer = some (.endpoint response) := by
  intro web final
  let verified := fun i =>
    (admitted deployment requests schedule i).getD (HttpRequest.listSessions [])
  have agrees : ∀ i request, admitted deployment requests schedule i = some request →
      verified i = request := fun i request admits => by simp only [verified, admits, Option.getD_some]
  have behind : ∀ i, ((serveWeb deployment (requests i)).resolve ownTask (turnsOf schedule i)
      .initial).Behind (Ended deployment requests schedule i)
      (handle deployment.maxStrDigits deployment.agent (verified i)) := fun i =>
    resolved_behind fun request admits =>
      congrArg (handle deployment.maxStrDigits deployment.agent) (agrees i request admits)
  obtain ⟨programs, states, state', layered, resolved, traces⟩ := Pool.execute_resolve ownTask
    stores schedule (fun i => serveWeb deployment (requests i)) (fun _ => .initial) state
  obtain ⟨schedule', sublist, same, busy, turns, after⟩ := Pool.execute_behind stores schedule
    (Pool.resolved ownTask (fun i => serveWeb deployment (requests i)) (fun _ => .initial) state
      schedule) (serving deployment.maxStrDigits deployment.agent verified state) rfl behind
  rw [resolved] at same after
  rw [stores, Pool.trace_under] at busy turns
  rw [stores, Pool.execute_under] at same after
  have final_eq : final = Pool.layered programs states state' := layered
  refine ⟨verified, schedule'.map (Prod.map id WebMoment.toMoment), agrees, sublist.map _, ?_,
    traces.trans busy, ?_, ?_⟩
  · intro turn member
    obtain ⟨full, there, rfl⟩ := List.mem_map.mp member
    obtain ⟨⟨i, step⟩, issued, named⟩ := List.mem_map.mp (turns full there)
    rw [← busy] at issued
    obtain ⟨request, admits, -⟩ := Pool.uses_of_mem_trace
      (resolved_uses deployment requests schedule) (mem_busyOnly.mp issued) step rfl
    exact Option.isSome_iff_exists.mpr ⟨request, named ▸ admits⟩
  · rw [final_eq]
    exact same
  · intro i answer returned moment first
    rw [final_eq] at returned
    have settled := after i
    simp only [Pool.resolved, Program.located_eq_ret_iff.mp returned, Program.resolve] at settled
    have ended := settled moment first answer rfl
    constructor
    · intro response answers
      rwa [answers] at ended
    · intro request admits
      rwa [admits] at ended

/-! ## Mediation -/

section Mediation

variable (deployment : Deployment Value Body History Reply Message)
  (requests : ι → WebRequest Body) (state : Backend History)
  (schedule : List (ι × WebMoment Value Reply))

omit [DecidableEq ι] in
/-- A request with a bearer token outside the allowlist starts with the verification. -/
theorem webServer_threads_of_bearer {i : ι} (guarded : (requests i).bypasses = false)
    {token : PyStr} (bearer : Auth.getBearerToken (requests i).authorization = .ok token)
    (complete : deployment.settings.complete = true) :
    (webServer deployment requests state).threads i =
      .call (i, .inl (.decode token)) fun decoded =>
        (afterDecode deployment (requests i) token (Auth.checkClaims decoded) :
          WebProgram Value History Reply (Option WebResponse)).located i := by
  simp only [webServer, Pool.layered, serveWeb_of_bearer deployment guarded bearer complete,
    Program.located]

omit [Auth.Truthy Value] in
theorem user_id_of_routed {request : WebRequest Body} {made : PyStr → HttpRequest Message}
    (route : routed deployment request = .inr made) (user_id : PyStr) :
    (made user_id).user_id = user_id := by
  unfold routed at route
  split_ifs at route
  · cases body : deployment.runAgentInput request.body with
    | none => simp [body] at route
    | some input_data =>
        simp only [body, Sum.inr.injEq] at route
        exact route ▸ rfl
  · exact Sum.inr.inj route ▸ rfl
  · cases body : deployment.createSessionRequest request.body with
    | none => simp [body] at route
    | some session_name =>
        simp only [body, Sum.inr.injEq] at route
        exact route ▸ rfl

/-- A step on the stores is one of a request whose own token was verified before. -/
theorem step_mediated {before after : List (ι × (ι × (OwnStep Value ⊕ Request History)))} {i j : ι}
    {step : Request History}
    (split : (webServer deployment requests state).trace (ownTask.layered stores) schedule =
      before ++ (i, (j, .inr step)) :: after) :
    ∃ token moment claims sub made,
      (requests i).bypasses = false ∧
      Auth.getBearerToken (requests i).authorization = .ok token ∧
      (i, (i, .inl (.decode token))) ∈ before ∧
      (turnsOf schedule i).head? = some moment ∧ moment.decoded = .ok claims ∧
      Auth.subject claims = some sub ∧ routed deployment (requests i) = .inr made ∧
      (made (deployment.str sub)).user_id = deployment.str sub ∧
      (made (deployment.str sub)).MayTake deployment.maxStrDigits step := by
  obtain ⟨programs, states, state', layered, resolved, traces⟩ := Pool.execute_resolve ownTask
    stores schedule (fun i => serveWeb deployment (requests i)) (fun _ => .initial) state
  have issued : (i, (j, .inr step)) ∈
      (webServer deployment requests state).trace (ownTask.layered stores) schedule :=
    split ▸ List.mem_append_right before List.mem_cons_self
  have asked := mem_busyOnly.mp (traces ▸ mem_sharedOnly.mpr ⟨j, issued⟩)
  obtain ⟨request, admits, may⟩ := Pool.uses_of_mem_trace
    (resolved_uses deployment requests schedule) asked step rfl
  obtain ⟨moment, first, accepted⟩ := admitted_eq_some_iff.mp admits
  obtain ⟨guarded, ⟨token, bearer⟩, complete, claims, sub, made, decoded, found, route, rfl⟩ :=
    admission_eq_inr_iff.mp accepted
  refine ⟨token, moment, claims, sub, made, guarded, bearer, ?_, first, decoded, found, route,
    user_id_of_routed deployment route _, may⟩
  have starts := webServer_threads_of_bearer deployment requests state guarded bearer complete
  exact Pool.mem_of_trace_split starts (by simp) split

end Mediation

/-! ## Users who are not there -/

/-- The stores hold the same of the user: profile, sessions and conversations. -/
structure SameUserData {History : Type} (maxStrDigits : ℕ) (user_id : PyStr)
    (first second : Backend History) : Prop where
  profile : first.tables.ledger.profiles user_id = second.tables.ledger.profiles user_id
  sessions : first.tables.ledger.sessionsOf user_id = second.tables.ledger.sessionsOf user_id
  conversations : SameConversations maxStrDigits user_id first second

section UserData

variable {maxStrDigits : ℕ} {user_id : PyStr}

theorem sameConversations_refl (state : Backend History) :
    SameConversations maxStrDigits user_id state state := fun _ _ => rfl

/-- Steps that another user's call takes on the tables. -/
theorem sameUserData_of_perform {before after : Backend History} (now : Timestamptz) (call : Call)
    (other : call.user_id ≠ user_id)
    (tables : after.tables.ledger = (before.tables.ledger.perform now call).2)
    (checkpoints : after.checkpoints = before.checkpoints) :
    SameUserData maxStrDigits user_id after before := by
  obtain ⟨profile, sessions⟩ := perform_other now before.tables.ledger other
  refine ⟨?_, ?_, fun thread_id _ => congrFun checkpoints _⟩
  · rw [tables, profile]
  · rw [tables, sessions]

variable (History Reply maxStrDigits user_id) in
/-- What the stores hold of a user, for requests that are not the user's. -/
def userData : Region (backend : Service (Request History) (Request.Answer History Reply)
    (Backend History) (Moment Reply)) where
  Owns _ := False
  Agrees := SameUserData maxStrDigits user_id
  equivalence := {
    refl := fun state => ⟨rfl, rfl, sameConversations_refl state⟩
    symm := fun same => ⟨same.profile.symm, same.sessions.symm,
      fun thread_id accepted => (same.conversations thread_id accepted).symm⟩
    trans := fun first second => ⟨first.profile.trans second.profile,
      first.sessions.trans second.sessions, fun thread_id accepted =>
        (first.conversations thread_id accepted).trans (second.conversations thread_id accepted)⟩ }
  alike _ _ _ _ owned _ := owned.elim

/-- A request leaves alone what is held of other users. -/
theorem userData_spared {request : HttpRequest Message} (other : request.user_id ≠ user_id)
    {step : Request History} (may : request.MayTake maxStrDigits step) :
    (userData History Reply maxStrDigits user_id).Spares step := by
  intro moment state
  have foreign : ¬ request.IsChatOf user_id := by
    intro chat
    cases request with
    | chat caller input_data => exact other chat
    | listSessions caller => exact chat
    | createSession caller session_name => exact chat
  have spared : (ownThreads History Reply maxStrDigits user_id).Spares step :=
    spares_of_mayTake foreign may
  have conversations := spared moment state
  cases step with
  | trackUser caller =>
      obtain rfl : caller = request.user_id := may
      exact sameUserData_of_perform moment.now (.track moment.userinfo _) other
        (track_refines moment.now moment.userinfo _ state.tables) rfl
  | touchSession caller session_id =>
      obtain ⟨thread_id, chats, -⟩ := may
      obtain rfl := chats.own.1
      exact sameUserData_of_perform moment.now (.touch _ session_id) other
        (touch_refines moment.now _ session_id state.tables) rfl
  | listSessions caller =>
      obtain rfl : request = .listSessions caller := may
      exact sameUserData_of_perform moment.now (.list moment.order caller) other
        (list_refines moment.order caller state.tables).2 rfl
  | createSession caller session_name =>
      obtain rfl : request = .createSession caller session_name := may
      exact sameUserData_of_perform moment.now (.create caller session_name) other
        (congrArg Prod.snd (create_refines moment.now caller session_name state.tables)) rfl
  | getCheckpoint key => exact ⟨rfl, rfl, conversations⟩
  | putCheckpoint key history => exact ⟨rfl, rfl, conversations⟩
  | outside => exact ⟨rfl, rfl, conversations⟩

end UserData

section Runs

variable (deployment : Deployment Value Body History Reply Message)
  (requests : ι → WebRequest Body) (state : Backend History)
  (schedule : List (ι × WebMoment Value Reply))

/-- A user for whom no token verifies keeps what the stores hold. -/
theorem absent_user_kept {user_id : PyStr}
    (absent : ∀ i request, admitted deployment requests schedule i = some request →
      request.user_id ≠ user_id) :
    SameUserData deployment.maxStrDigits user_id
      ((webServer deployment requests state).execute (ownTask.layered stores) schedule).state.2
      state := by
  refine (atStores Value (userData History Reply deployment.maxStrDigits user_id)
    ).layered_execute_spared _ _ state schedule fun i => ?_
  refine Program.uses_mono (resolved_uses deployment requests schedule i) fun asked may => ?_
  refine Region.spares_waiting fun step member => ?_
  obtain ⟨request, admits, allowed⟩ := may step member
  have spares : (userData History Reply deployment.maxStrDigits user_id).Spares step :=
    userData_spared (absent i request admits) allowed
  exact fun moment state => spares moment.toMoment state

/-- **Complete mediation.** In every interleaving, a step on the stores is one of a request outside
the allowlist whose own bearer token was verified before, with a `sub`, and it is a step that the
request may take as that user; and a user for whom no token verifies keeps profile, sessions and
conversations. -/
theorem stores_mediated :
    (∀ before i j step after,
      (webServer deployment requests state).trace (ownTask.layered stores) schedule =
        before ++ (i, (j, .inr step)) :: after →
      ∃ token moment claims sub made,
        (requests i).bypasses = false ∧
        Auth.getBearerToken (requests i).authorization = .ok token ∧
        (i, (i, .inl (.decode token))) ∈ before ∧
        (turnsOf schedule i).head? = some moment ∧ moment.decoded = .ok claims ∧
        Auth.subject claims = some sub ∧ routed deployment (requests i) = .inr made ∧
        (made (deployment.str sub)).user_id = deployment.str sub ∧
        (made (deployment.str sub)).MayTake deployment.maxStrDigits step) ∧
    ∀ user_id,
      (∀ i request, admitted deployment requests schedule i = some request →
        request.user_id ≠ user_id) →
      SameUserData deployment.maxStrDigits user_id
        ((webServer deployment requests state).execute (ownTask.layered stores) schedule).state.2
        state :=
  ⟨fun _ _ _ _ _ split => step_mediated deployment requests state schedule split,
    fun _ absent => absent_user_kept deployment requests state schedule absent⟩

end Runs

/-! ## Chats -/

/-- A request of the run that is admitted as a chat of the user. -/
def ChatsIn (deployment : Deployment Value Body History Reply Message)
    (requests : ι → WebRequest Body) (schedule : List (ι × WebMoment Value Reply))
    (user_id : PyStr) (i : ι) : Prop :=
  ∃ request ∈ admitted deployment requests schedule i, request.IsChatOf user_id

instance (deployment : Deployment Value Body History Reply Message)
    (requests : ι → WebRequest Body) (schedule : List (ι × WebMoment Value Reply))
    (user_id : PyStr) : DecidablePred (ChatsIn deployment requests schedule user_id) := fun i =>
  inferInstanceAs (Decidable (∃ request ∈ admitted deployment requests schedule i,
    request.IsChatOf user_id))

/-- **Chats do not notice the other requests of the server.** A request that is admitted as a chat
of a user is answered in every run what it is answered in that run without all requests that are
not, and the conversations of the user are the same. -/
theorem web_chats_unaffected (deployment : Deployment Value Body History Reply Message)
    (requests : ι → WebRequest Body) (state : Backend History)
    (schedule : List (ι × WebMoment Value Reply)) (user_id : PyStr) :
    let web := webServer deployment requests state
    let chats := ChatsIn deployment requests schedule user_id
    let together := web.execute (ownTask.layered stores) schedule
    let alone := web.execute (ownTask.layered stores) (schedule.filter fun turn => chats turn.1)
    (∀ i, chats i → ∀ answer, together.threads i = .ret answer ↔ alone.threads i = .ret answer) ∧
      SameConversations deployment.maxStrDigits user_id together.state.2 alone.state.2 := by
  have uses := resolved_uses deployment requests schedule
  refine (atStores Value (ownThreads History Reply deployment.maxStrDigits user_id)
    ).layered_execute_filter _ _ state schedule (ChatsIn deployment requests schedule user_id)
    (fun i chats => ?_) fun i foreign => ?_
  · obtain ⟨request, admits, mine⟩ := chats
    refine Program.uses_mono (uses i) fun asked may step member => ?_
    obtain ⟨request', admits', allowed⟩ := may step member
    obtain rfl : request' = request := Option.some.inj (admits'.symm.trans admits)
    exact ofUser_of_mayTake mine allowed
  · refine Program.uses_mono (uses i) fun asked may => ?_
    refine Region.spares_waiting fun step member => ?_
    obtain ⟨request, admits, allowed⟩ := may step member
    have elsewhere : ¬ request.IsChatOf user_id := fun mine => foreign ⟨request, admits, mine⟩
    have spares : (ownThreads History Reply deployment.maxStrDigits user_id).Spares step :=
      spares_of_mayTake elsewhere allowed
    exact fun moment state => spares moment.toMoment state

end CarqnaAgent.Server
