import Mathlib
import CarqnaAgent.Server.Ownership
import CarqnaAgent.Sessions.Isolation

/-!
# The conversation of a new session

The chat route does not ask whether its session exists: it touches the row if there is
one, and runs the agent either way. So the conversation of an id may be older than the
session of that id. What can have been said in it is settled by ownership: only chats of
the same user under the same thread id reach it.

* `stored_iff`: a conversation is stored exactly when a chat of the run has stored it.
* **When a session is created its id is new, and its conversation is empty unless the
  user's own chats under that id have stored one** (`new_session_conversation`).
* A user who chats under id 1 before creating session 1 resumes that chat in it
  (`new_session_resumes`).
-/

set_option autoImplicit false

namespace CarqnaAgent.Server

open Foundations
open CarqnaAgent.Sessions

section Stored

variable {ι History Reply Message : Type} [DecidableEq ι]

/-- Only a store under the key makes a conversation appear there. -/
theorem store_of_appeared {moment : Moment Reply} {state : Backend History}
    {step : Request History} {key : PyStr} (absent : state.checkpoints key = none)
    (present : (backend moment state step).2.checkpoints key ≠ none) :
    ∃ history, step = .putCheckpoint key history := by
  cases step with
  | putCheckpoint thread_id history =>
      by_cases here : key = thread_id
      · exact ⟨history, here ▸ rfl⟩
      · simp only [backend, Function.update_of_ne here] at present
        exact absurd absent present
  | _ => exact absurd absent present

/-- A stored conversation stays stored. -/
theorem stored_step {moment : Moment Reply} {state : Backend History} {step : Request History}
    {key : PyStr} (present : state.checkpoints key ≠ none) :
    (backend moment state step).2.checkpoints key ≠ none := by
  cases step with
  | putCheckpoint thread_id history =>
      by_cases here : key = thread_id
      · subst here
        simp [backend]
      · simpa only [backend, Function.update_of_ne here] using present
  | _ => exact present

/-- **A conversation is stored exactly when the run has stored it.** -/
theorem stored_iff {pool : Pool ι (Request History) (Request.Answer History Reply) Response
    (Backend History)} {key : PyStr} (absent : pool.state.checkpoints key = none)
    (schedule : List (ι × Moment Reply)) :
    (pool.execute backend schedule).state.checkpoints key ≠ none ↔
      ∃ i history, (i, .putCheckpoint key history) ∈ pool.trace backend schedule := by
  constructor
  · intro present
    obtain ⟨i, step, moment, state, taken, before, after⟩ :=
      Pool.mem_trace_of_changed (fun state : Backend History => state.checkpoints key ≠ none)
        (not_not.mpr absent) present
    obtain ⟨history, rfl⟩ := store_of_appeared (not_not.mp before) after
    exact ⟨i, history, taken⟩
  · rintro ⟨i, history, taken⟩
    have made : ∀ (moment : Moment Reply) (state : Backend History),
        (backend moment state (.putCheckpoint key history)).2.checkpoints key ≠ none := by
      intro moment state
      simp [backend]
    have kept : ∀ (moment : Moment Reply) (state : Backend History) (step : Request History),
        state.checkpoints key ≠ none → (backend moment state step).2.checkpoints key ≠ none :=
      fun _ _ _ => stored_step
    exact Pool.of_mem_trace (fun state : Backend History => state.checkpoints key ≠ none) kept made
      taken

/-- The id of a created session is no id of a session that is there. -/
theorem created_id_new {now : Timestamptz} {user_id session_name : PyStr} {tables : Tables}
    {row : SessionRow}
    (created : (createSession now user_id session_name tables).1 = .ok (some row)) :
    ∀ session ∈ tables.user_sessions.rows, session.id ≠ row.id := by
  intro session member
  rcases createSession_cases now user_id session_name tables with
    ⟨-, -, owner, -, answer, -, -⟩ | ⟨refused, -⟩
  · rw [answer] at created
    cases created
    have drawn : session.id ≤ tables.user_sessions.drawn :=
      tables.user_sessions.ids_le session member
    exact (Nat.lt_succ_of_le drawn).ne
  · exact absurd created (refused row)

/-- **A new session and its conversation.** In every run from a state without conversations: the
conversation of a user under an accepted thread id is stored exactly when a request has stored it,
and only the user's own chats under that thread id reach it. When a session is created, its id is
new, and its conversation is empty unless such a chat has stored it before. -/
theorem new_session_conversation (maxStrDigits : ℕ) (agent : Agent History Reply Message)
    (requests : ι → HttpRequest Message) (tables : Tables) (schedule : List (ι × Moment Reply)) :
    let start := serving maxStrDigits agent requests ⟨tables, fun _ => none⟩
    let steps := start.trace backend schedule
    let reached := start.execute backend schedule
    (∀ user_id thread_id, Accepted maxStrDigits thread_id →
      (reached.state.checkpoints (threadKey user_id thread_id) ≠ none ↔
        ∃ i history, (i, .putCheckpoint (threadKey user_id thread_id) history) ∈ steps) ∧
      ∀ i step, (i, step) ∈ steps → step.thread? = some (threadKey user_id thread_id) →
        Chats maxStrDigits (requests i) user_id thread_id) ∧
    ∀ i (moment : Moment Reply) user_id session_name next row,
      reached.threads i = .call (.createSession user_id session_name) next →
      (backend moment reached.state (.createSession user_id session_name)).1 = .ok (some row) →
      (∀ session ∈ reached.state.tables.user_sessions.rows, session.id ≠ row.id) ∧
      ∀ thread_id, PyStr.parseInt maxStrDigits thread_id = some (row.id : ℤ) →
        (∀ j history, Chats maxStrDigits (requests j) user_id thread_id →
          (j, .putCheckpoint (threadKey user_id thread_id) history) ∉ steps) →
        reached.state.checkpoints (threadKey user_id thread_id) = none := by
  intro start steps reached
  have own : ∀ user_id thread_id, Accepted maxStrDigits thread_id → ∀ i step, (i, step) ∈ steps →
      step.thread? = some (threadKey user_id thread_id) →
      Chats maxStrDigits (requests i) user_id thread_id := by
    intro user_id thread_id accepted i step taken touched
    obtain ⟨other, thread_id', chats, same⟩ :=
      thread_of_mayTake (mayTake_of_mem_trace taken) touched
    obtain ⟨rfl, rfl⟩ := threadKey_injective accepted chats.own.2 same
    exact chats
  have stored : ∀ key, reached.state.checkpoints key ≠ none ↔
      ∃ i history, (i, .putCheckpoint key history) ∈ steps := fun key => stored_iff rfl schedule
  refine ⟨fun user_id thread_id accepted => ⟨stored _, own user_id thread_id accepted⟩, ?_⟩
  intro i moment user_id session_name next row _ created
  refine ⟨created_id_new created, fun thread_id read unstored => ?_⟩
  by_contra present
  obtain ⟨j, history, taken⟩ := (stored _).mp present
  exact unstored j history (own user_id thread_id ⟨_, read⟩ j _ taken rfl) taken

end Stored

/-- An agent that stores the messages it is sent. -/
def storing : Agent (List Unit) Unit Unit := fun input_data =>
  .call (.store input_data.messages) fun _ => .ret []

/-- A chat under id 1, and the creation of a session by the same user. -/
def chatFirst : Bool → HttpRequest Unit
  | true => .chat (py "auth0|u") ⟨py "1", [()]⟩
  | false => .createSession (py "auth0|u") (py "notes")

/-- A moment at which a new user has a profile. -/
def firstVisit : Moment Unit := ⟨0, some (none, none), (), .stable _⟩

/-- The session that is created after the chat resumes it. -/
theorem new_session_resumes :
    ¬ ∀ (agent : Agent (List Unit) Unit Unit) (requests : Bool → HttpRequest Unit)
      (schedule : List (Bool × Moment Unit)) (i : Bool) (moment : Moment Unit)
      (user_id session_name : PyStr) next (row : SessionRow),
      let reached := (serving 4300 agent requests (Backend.empty _)).execute backend schedule
      reached.threads i = .call (.createSession user_id session_name) next →
      (backend moment reached.state (.createSession user_id session_name)).1 = .ok (some row) →
      ∀ thread_id, PyStr.parseInt 4300 thread_id = some (row.id : ℤ) →
        reached.state.checkpoints (threadKey user_id thread_id) = none := by
  intro empty
  have absent := empty storing chatFirst
    [(true, firstVisit), (true, firstVisit), (true, firstVisit), (false, firstVisit)]
    false firstVisit (py "auth0|u") (py "notes") _ ⟨1, py "notes", 0⟩ rfl
    rfl (py "1") (by decide)
  revert absent
  decide

end CarqnaAgent.Server
