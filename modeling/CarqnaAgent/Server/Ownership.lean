import Mathlib
import CarqnaAgent.Server.Endpoints

/-!
# Whose conversation a request touches

A chat request runs the agent on the checkpoint thread `{user_id}:{thread_id}`, with the
client's `thread_id` as it is. A `':'` can be anywhere in a user id, so the key alone does
not say where the user id ends. It does for an accepted `thread_id`: `int` reads no string
with a `':'`, so the last `':'` of the key is the separator (`threadKey_injective`).

* `handle_steps`: the steps of a request; it touches no thread but its own.
* `ownThreads`: the conversations of a user are a region of the stores.
* **No request of one user reads or writes a conversation of another, and a user's chats
  go as they would without the other users** (`conversations_owned`).
-/

set_option autoImplicit false

namespace CarqnaAgent.Server

open Foundations
open CarqnaAgent.Sessions

/-! ## Keys -/

theorem colon_not_inNumeral : ¬ PyStr.InNumeral (CodePoint.ofChar ':') := by
  unfold PyStr.InNumeral
  decide

/-- A `thread_id` the route accepts. -/
def Accepted (maxStrDigits : ℕ) (thread_id : PyStr) : Prop :=
  ∃ session_id, PyStr.parseInt maxStrDigits thread_id = some session_id

/-- **An accepted thread id and its user are determined by the key.** -/
theorem threadKey_injective {maxStrDigits : ℕ} {user_id other thread_id thread_id' : PyStr}
    (accepted : Accepted maxStrDigits thread_id) (accepted' : Accepted maxStrDigits thread_id')
    (same : threadKey user_id thread_id = threadKey other thread_id') :
    user_id = other ∧ thread_id = thread_id' := by
  obtain ⟨session_id, read⟩ := accepted
  obtain ⟨session_id', read'⟩ := accepted'
  have free := PyStr.not_mem_of_parseInt read colon_not_inNumeral
  have free' := PyStr.not_mem_of_parseInt read' colon_not_inNumeral
  unfold threadKey at same
  rw [List.append_assoc, List.append_assoc] at same
  exact PyStr.append_separator_inj free free' same

/-! ## The steps of a request -/

/-- The checkpoint thread a step reads or writes. -/
def Request.thread? {History : Type} : Request History → Option PyStr
  | .getCheckpoint thread_id => some thread_id
  | .putCheckpoint thread_id _ => some thread_id
  | _ => none

/-- The verified user of a request. -/
def HttpRequest.user_id {Message : Type} : HttpRequest Message → PyStr
  | .chat user_id _ => user_id
  | .listSessions user_id => user_id
  | .createSession user_id _ => user_id

/-- The request is a chat of the user under an accepted thread id. -/
inductive Chats {Message : Type} (maxStrDigits : ℕ) :
    HttpRequest Message → PyStr → PyStr → Prop where
  | intro {user_id : PyStr} {input_data : RunAgentInput Message}
      (accepted : Accepted maxStrDigits input_data.thread_id) :
      Chats maxStrDigits (.chat user_id input_data) user_id input_data.thread_id

theorem Chats.own {Message : Type} {maxStrDigits : ℕ} {request : HttpRequest Message}
    {user_id thread_id : PyStr} (chats : Chats maxStrDigits request user_id thread_id) :
    user_id = request.user_id ∧ Accepted maxStrDigits thread_id := by
  obtain ⟨accepted⟩ := chats
  exact ⟨rfl, accepted⟩

/-- The steps a request may take. -/
def HttpRequest.MayTake {Message History : Type} (maxStrDigits : ℕ)
    (request : HttpRequest Message) : Request History → Prop
  | .trackUser user_id => user_id = request.user_id
  | .touchSession user_id session_id => ∃ thread_id,
      Chats maxStrDigits request user_id thread_id ∧
        PyStr.parseInt maxStrDigits thread_id = some session_id
  | .listSessions user_id => request = .listSessions user_id
  | .createSession user_id session_name => request = .createSession user_id session_name
  | .getCheckpoint key => ∃ user_id thread_id,
      Chats maxStrDigits request user_id thread_id ∧ key = threadKey user_id thread_id
  | .putCheckpoint key _ => ∃ user_id thread_id,
      Chats maxStrDigits request user_id thread_id ∧ key = threadKey user_id thread_id
  | .outside => True

section Steps

variable {History Reply Message : Type} {maxStrDigits : ℕ}

/-- The agent stays on the thread of its user and thread id. -/
theorem runOwnThread_steps (agent : Agent History Reply Message) {user_id : PyStr}
    {input_data : RunAgentInput Message} (accepted : Accepted maxStrDigits input_data.thread_id) :
    (runOwnThread agent user_id input_data).Uses
      (HttpRequest.MayTake maxStrDigits (.chat user_id input_data)) := by
  refine Program.uses_bind (Program.uses_interpret (fun step => ?_) _) fun _ => trivial
  cases step with
  | load => exact ⟨⟨user_id, _, .intro accepted, rfl⟩, fun _ => trivial⟩
  | store history => exact ⟨⟨user_id, _, .intro accepted, rfl⟩, fun _ => trivial⟩
  | ask => exact ⟨trivial, fun _ => trivial⟩

/-- **The steps of a request, whatever the agent and the answers.** -/
theorem handle_steps (maxStrDigits : ℕ) (agent : Agent History Reply Message)
    (request : HttpRequest Message) :
    (handle maxStrDigits agent request).Uses (request.MayTake maxStrDigits) := by
  cases request with
  | chat user_id input_data =>
      rw [handle]
      cases read : PyStr.parseInt maxStrDigits input_data.thread_id with
      | none =>
          rw [langgraphAgentEndpoint_of_refused maxStrDigits agent read]
          exact ⟨rfl, fun _ => trivial⟩
      | some session_id =>
          rw [langgraphAgentEndpoint_of_read maxStrDigits agent read]
          have accepted : Accepted maxStrDigits input_data.thread_id := ⟨session_id, read⟩
          refine ⟨rfl, fun _ => ⟨⟨_, .intro accepted, read⟩, fun _ => ?_⟩⟩
          exact runOwnThread_steps agent accepted
  | listSessions user_id => exact ⟨rfl, fun _ => ⟨rfl, fun _ => trivial⟩⟩
  | createSession user_id session_name => exact ⟨rfl, fun _ => ⟨rfl, fun _ => trivial⟩⟩

/-- What a run does for a request, the request may do. -/
theorem mayTake_of_mem_trace {ι : Type} [DecidableEq ι] {agent : Agent History Reply Message}
    {requests : ι → HttpRequest Message} {state : Backend History}
    {schedule : List (ι × Moment Reply)} {i : ι} {step : Request History}
    (taken : (i, step) ∈ (serving maxStrDigits agent requests state).trace backend schedule) :
    (requests i).MayTake maxStrDigits step :=
  have uses : ∀ i, ((serving maxStrDigits agent requests state).threads i).Uses
      ((requests i).MayTake maxStrDigits) := fun i => handle_steps maxStrDigits agent (requests i)
  Pool.uses_of_mem_trace uses taken

/-- A request touches no thread but that of its user and its accepted thread id. -/
theorem thread_of_mayTake {request : HttpRequest Message} {step : Request History} {key : PyStr}
    (may : request.MayTake maxStrDigits step) (touched : step.thread? = some key) :
    ∃ user_id thread_id, Chats maxStrDigits request user_id thread_id ∧
      key = threadKey user_id thread_id := by
  cases step with
  | getCheckpoint thread_id => exact Option.some.inj touched ▸ may
  | putCheckpoint thread_id history => exact Option.some.inj touched ▸ may
  | _ => cases touched

end Steps

/-! ## The conversations of a user -/

/-- A chat request of the user. -/
def HttpRequest.IsChatOf {Message : Type} (user_id : PyStr) : HttpRequest Message → Prop
  | .chat other _ => other = user_id
  | _ => False

instance {Message : Type} (user_id : PyStr) (request : HttpRequest Message) :
    Decidable (request.IsChatOf user_id) :=
  match request with
  | .chat other _ => inferInstanceAs (Decidable (other = user_id))
  | .listSessions _ => inferInstanceAs (Decidable False)
  | .createSession _ _ => inferInstanceAs (Decidable False)

/-- A step of a chat of the user: its answer is settled by the conversations of the user, and by
the moment. -/
def Request.OfUser {History : Type} (maxStrDigits : ℕ) (user_id : PyStr) :
    Request History → Prop
  | .getCheckpoint key =>
      ∃ thread_id, Accepted maxStrDigits thread_id ∧ key = threadKey user_id thread_id
  | .putCheckpoint key _ =>
      ∃ thread_id, Accepted maxStrDigits thread_id ∧ key = threadKey user_id thread_id
  | .listSessions _ => False
  | .createSession _ _ => False
  | _ => True

/-- The stores hold the same conversations of the user. -/
def SameConversations {History : Type} (maxStrDigits : ℕ) (user_id : PyStr)
    (first second : Backend History) : Prop :=
  ∀ thread_id, Accepted maxStrDigits thread_id →
    first.checkpoints (threadKey user_id thread_id) =
      second.checkpoints (threadKey user_id thread_id)

section Region

variable {History Reply Message : Type} {maxStrDigits : ℕ} {user_id : PyStr}

theorem sameConversations_alike (moment : Moment Reply) {first second : Backend History}
    {step : Request History} (mine : step.OfUser maxStrDigits user_id)
    (same : SameConversations maxStrDigits user_id first second) :
    (backend moment first step).1 = (backend moment second step).1 ∧
      SameConversations maxStrDigits user_id (backend moment first step).2
        (backend moment second step).2 := by
  cases step with
  | trackUser other => exact ⟨rfl, same⟩
  | touchSession other session_id => exact ⟨rfl, same⟩
  | listSessions other => exact mine.elim
  | createSession other session_name => exact mine.elim
  | getCheckpoint key =>
      obtain ⟨thread_id, accepted, rfl⟩ := mine
      exact ⟨same thread_id accepted, same⟩
  | putCheckpoint key history =>
      refine ⟨rfl, fun thread_id accepted => ?_⟩
      by_cases here : threadKey user_id thread_id = key
      · simp only [backend, here, Function.update_self]
      · simp only [backend, Function.update_of_ne here]
        exact same thread_id accepted
  | outside => exact ⟨rfl, same⟩

variable (History Reply maxStrDigits user_id) in
/-- **The conversations of a user are a region of the stores.** -/
def ownThreads : Region (backend : Service (Request History) (Request.Answer History Reply)
    (Backend History) (Moment Reply)) where
  Owns step := step.OfUser maxStrDigits user_id
  Agrees := SameConversations maxStrDigits user_id
  equivalence := {
    refl := fun _ _ _ => rfl
    symm := fun same thread_id accepted => (same thread_id accepted).symm
    trans := fun first second thread_id accepted =>
      (first thread_id accepted).trans (second thread_id accepted) }
  alike := sameConversations_alike

/-- The chats of the user live in the region. -/
theorem ofUser_of_mayTake {request : HttpRequest Message} (mine : request.IsChatOf user_id)
    {step : Request History} (may : request.MayTake maxStrDigits step) :
    step.OfUser maxStrDigits user_id := by
  cases request with
  | chat other input_data =>
      obtain rfl : other = user_id := mine
      cases step with
      | getCheckpoint key =>
          obtain ⟨_, _, ⟨accepted⟩, same⟩ := may
          exact ⟨input_data.thread_id, accepted, same⟩
      | putCheckpoint key history =>
          obtain ⟨_, _, ⟨accepted⟩, same⟩ := may
          exact ⟨input_data.thread_id, accepted, same⟩
      | listSessions other => cases may
      | createSession other session_name => cases may
      | _ => trivial
  | listSessions other => exact mine.elim
  | createSession other session_name => exact mine.elim

/-- The other requests leave the region alone. -/
theorem spares_of_mayTake {request : HttpRequest Message}
    (foreign : ¬ request.IsChatOf user_id) {step : Request History}
    (may : request.MayTake maxStrDigits step) :
    (ownThreads History Reply maxStrDigits user_id).Spares step := by
  intro moment state thread_id accepted
  cases step with
  | putCheckpoint key history =>
      obtain ⟨other, thread_id', chats, rfl⟩ := may
      have elsewhere : threadKey user_id thread_id ≠ threadKey other thread_id' := by
        intro same
        obtain ⟨accepted'⟩ := chats
        exact foreign (threadKey_injective accepted accepted' same).1.symm
      simp only [backend, Function.update_of_ne elsewhere]
  | _ => rfl

/-- **The chats of a user do not notice the other requests.** -/
theorem chats_filter {ι : Type} [DecidableEq ι] (agent : Agent History Reply Message)
    (requests : ι → HttpRequest Message) (state : Backend History)
    (schedule : List (ι × Moment Reply)) (user_id : PyStr) :
    let pool := serving maxStrDigits agent requests state
    let together := pool.execute backend schedule
    let alone := pool.execute backend
      (schedule.filter fun turn => (requests turn.1).IsChatOf user_id)
    (∀ i, (requests i).IsChatOf user_id → together.threads i = alone.threads i) ∧
      SameConversations maxStrDigits user_id together.state alone.state := by
  refine (ownThreads History Reply maxStrDigits user_id).execute_filter
    (fun i => (requests i).IsChatOf user_id) ?_ ?_ (fun _ _ => rfl) fun _ _ => rfl
  · intro i mine
    exact Program.uses_mono (handle_steps maxStrDigits agent (requests i)) fun _ may =>
      ofUser_of_mayTake mine may
  · intro i foreign
    exact Program.uses_mono (handle_steps maxStrDigits agent (requests i)) fun _ may =>
      spares_of_mayTake foreign may

end Region

/-- **Conversation ownership.** Keys determine their user and thread id; in every run no request
touches the thread of another user, or its own user's under another thread id; and a user's chats
do in every run what they do in that run without all other requests. -/
theorem conversations_owned {History Reply Message ι : Type} [DecidableEq ι] (maxStrDigits : ℕ)
    (agent : Agent History Reply Message) (requests : ι → HttpRequest Message)
    (state : Backend History) (schedule : List (ι × Moment Reply)) :
    (∀ user_id other thread_id thread_id', Accepted maxStrDigits thread_id →
      Accepted maxStrDigits thread_id' →
      threadKey user_id thread_id = threadKey other thread_id' →
      user_id = other ∧ thread_id = thread_id') ∧
    (∀ i step key, (i, step) ∈ (serving maxStrDigits agent requests state).trace backend schedule →
      step.thread? = some key →
      ∃ thread_id, Chats maxStrDigits (requests i) (requests i).user_id thread_id ∧
        key = threadKey (requests i).user_id thread_id ∧
        ∀ other thread_id', Accepted maxStrDigits thread_id' →
          key = threadKey other thread_id' →
          other = (requests i).user_id ∧ thread_id' = thread_id) ∧
    ∀ user_id,
      let pool := serving maxStrDigits agent requests state
      let together := pool.execute backend schedule
      let alone := pool.execute backend
        (schedule.filter fun turn => (requests turn.1).IsChatOf user_id)
      (∀ i, (requests i).IsChatOf user_id → together.threads i = alone.threads i) ∧
        SameConversations maxStrDigits user_id together.state alone.state := by
  refine ⟨?_, ?_, ?_⟩
  · intro user_id other thread_id thread_id' accepted accepted' same
    exact threadKey_injective accepted accepted' same
  · intro i step key taken touched
    obtain ⟨user_id, thread_id, chats, rfl⟩ :=
      thread_of_mayTake (mayTake_of_mem_trace taken) touched
    obtain ⟨rfl, accepted⟩ := chats.own
    refine ⟨thread_id, chats, rfl, fun other thread_id' accepted' same => ?_⟩
    obtain ⟨user_eq, thread_eq⟩ := threadKey_injective accepted accepted' same
    exact ⟨user_eq.symm, thread_eq.symm⟩
  · exact chats_filter agent requests state schedule

end CarqnaAgent.Server
