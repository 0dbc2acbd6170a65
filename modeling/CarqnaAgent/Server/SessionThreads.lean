import Mathlib
import CarqnaAgent.Server.Ownership

/-!
# One session, one conversation

A chat request derives two names from its `thread_id`: the session it touches is the
number `int` reads, and the checkpoint thread is keyed by the text as it is. The two
agree for the spelling `str` gives the number, and for no other spelling that `int`
accepts.

* `aligned_of_canonical`: canonical thread ids keep a session and its conversation
  together in every run.
* **They are together in every run exactly when every accepted thread id is canonical**
  (`session_conversation_iff`).
* `1` and `01` are one session with two conversations (`session_split`).
-/

set_option autoImplicit false

namespace CarqnaAgent.Server

open Foundations
open CarqnaAgent.Sessions

section Alignment

variable {ι History Reply Message : Type} {maxStrDigits : ℕ}

/-- A request that touches a session accesses the conversation of that session, the one keyed by
its user and the decimal form of its id; so all requests that touch a session access one
conversation. -/
def Aligned (steps : List (ι × Request History)) : Prop :=
  ∀ i user_id session_id step key, (i, .touchSession user_id session_id) ∈ steps →
    (i, step) ∈ steps → step.thread? = some key →
    key = threadKey user_id (PyStr.decimalForm session_id)

/-- A chat is of one user and one thread id. -/
theorem Chats.unique {request : HttpRequest Message} {user_id other thread_id thread_id' : PyStr}
    (first : Chats maxStrDigits request user_id thread_id)
    (second : Chats maxStrDigits request other thread_id') :
    user_id = other ∧ thread_id = thread_id' := by
  obtain ⟨-⟩ := first
  obtain ⟨-⟩ := second
  exact ⟨rfl, rfl⟩

variable [DecidableEq ι]

/-- **Canonical thread ids keep sessions and conversations together.** -/
theorem aligned_of_canonical {agent : Agent History Reply Message}
    {requests : ι → HttpRequest Message} {state : Backend History}
    {schedule : List (ι × Moment Reply)}
    (canonical : ∀ i user_id thread_id, Chats maxStrDigits (requests i) user_id thread_id →
      PyStr.Canonical thread_id) :
    Aligned ((serving maxStrDigits agent requests state).trace backend schedule) := by
  intro i user_id session_id step key touch taken accessed
  obtain ⟨thread_id, chats, read⟩ := mayTake_of_mem_trace touch
  obtain ⟨other, thread_id', chats', rfl⟩ :=
    thread_of_mayTake (mayTake_of_mem_trace taken) accessed
  obtain ⟨rfl, rfl⟩ := chats.unique chats'
  rw [(PyStr.eq_decimalForm_iff read).mpr (canonical i user_id thread_id chats)]

/-- An agent that loads its conversation. -/
def loading : Agent History Reply Message := fun _ => .call .load fun _ => .ret []

/-- The steps of a chat of that agent, taken alone. -/
theorem trace_loading {requests : ι → HttpRequest Message} {i : ι} {user_id : PyStr}
    {input_data : RunAgentInput Message} {session_id : ℤ}
    (request : requests i = .chat user_id input_data)
    (read : PyStr.parseInt maxStrDigits input_data.thread_id = some session_id)
    (state : Backend History) (moment : Moment Reply) :
    (serving maxStrDigits loading requests state).trace backend
        [(i, moment), (i, moment), (i, moment)] =
      [(i, .trackUser user_id), (i, .touchSession user_id session_id),
        (i, .getCheckpoint (threadKey user_id input_data.thread_id))] := by
  have tracking : (serving maxStrDigits (loading : Agent History Reply Message) requests
      state).threads i = .call (.trackUser user_id) fun _ =>
        .call (.touchSession user_id session_id) fun _ =>
          .call (.getCheckpoint (threadKey user_id input_data.thread_id)) fun _ =>
            .ret (.stream []) := by
    rw [serving_threads, request, handle, langgraphAgentEndpoint_of_read maxStrDigits loading read]
    rfl
  generalize serving maxStrDigits (loading : Agent History Reply Message) requests state = pool
    at tracking
  have touching : (pool.step backend (i, moment)).threads i =
      .call (.touchSession user_id session_id) fun _ =>
        .call (.getCheckpoint (threadKey user_id input_data.thread_id)) fun _ =>
          .ret (.stream []) := by
    rw [Pool.step_threads_self tracking]
  have accessing : ((pool.step backend (i, moment)).step backend (i, moment)).threads i =
      .call (.getCheckpoint (threadKey user_id input_data.thread_id)) fun _ =>
        .ret (.stream []) := by
    rw [Pool.step_threads_self touching]
  rw [Pool.trace_cons_of_call tracking, Pool.trace_cons_of_call touching,
    Pool.trace_cons_of_call accessing, Pool.trace]

/-- A session and its conversation are together in every run only if the accepted thread ids are
canonical. -/
theorem canonical_of_aligned [Inhabited Reply] {requests : ι → HttpRequest Message}
    (aligned : ∀ (agent : Agent History Reply Message) state schedule,
      Aligned ((serving maxStrDigits agent requests state).trace backend schedule))
    {i : ι} {user_id thread_id : PyStr}
    (chats : Chats maxStrDigits (requests i) user_id thread_id) : PyStr.Canonical thread_id := by
  generalize request : requests i = asked at chats
  obtain @⟨_, input_data, session_id, read⟩ := chats
  have together := aligned loading (Backend.empty History)
    [(i, ⟨0, none, default, .stable _⟩), (i, ⟨0, none, default, .stable _⟩),
      (i, ⟨0, none, default, .stable _⟩)]
  rw [trace_loading request read] at together
  have same := together i user_id session_id
    (.getCheckpoint (threadKey user_id input_data.thread_id)) _ (by simp) (by simp) rfl
  exact (PyStr.eq_decimalForm_iff read).mp (List.append_cancel_left same)

/-- **One session is one conversation exactly for canonical thread ids.** Two accepted thread ids
of one session have the conversation of that session exactly when both are canonical; and some
requests keep every session with its conversation, in every run and whatever the agent does,
exactly when the accepted thread ids of their chats are canonical. -/
theorem session_conversation_iff [Inhabited Reply] (maxStrDigits : ℕ)
    (requests : ι → HttpRequest Message) :
    (∀ user_id thread_id thread_id' session_id,
      PyStr.parseInt maxStrDigits thread_id = some session_id →
      PyStr.parseInt maxStrDigits thread_id' = some session_id →
      (threadKey user_id thread_id = threadKey user_id (PyStr.decimalForm session_id) ∧
        threadKey user_id thread_id' = threadKey user_id (PyStr.decimalForm session_id) ↔
        PyStr.Canonical thread_id ∧ PyStr.Canonical thread_id')) ∧
    ((∀ (agent : Agent History Reply Message) state schedule,
      Aligned ((serving maxStrDigits agent requests state).trace backend schedule)) ↔
      ∀ i user_id thread_id, Chats maxStrDigits (requests i) user_id thread_id →
        PyStr.Canonical thread_id) := by
  refine ⟨?_, ?_, ?_⟩
  · intro user_id thread_id thread_id' session_id read read'
    unfold threadKey
    rw [List.append_cancel_left_eq, List.append_cancel_left_eq,
      PyStr.eq_decimalForm_iff read, PyStr.eq_decimalForm_iff read']
  · exact fun aligned i user_id thread_id chats => canonical_of_aligned aligned chats
  · exact fun canonical agent state schedule => aligned_of_canonical canonical

end Alignment

/-- Two chats of one user that touch session 1. -/
def oneSession : Bool → HttpRequest Unit
  | true => .chat (py "auth0|u") ⟨py "1", []⟩
  | false => .chat (py "auth0|u") ⟨py "01", []⟩

/-- Both spellings name session 1, and they have two conversations. -/
theorem session_split :
    (¬ ∀ user_id thread_id thread_id' session_id,
      PyStr.parseInt 4300 thread_id = some session_id →
      PyStr.parseInt 4300 thread_id' = some session_id →
      threadKey user_id thread_id = threadKey user_id (PyStr.decimalForm session_id) ∧
        threadKey user_id thread_id' = threadKey user_id (PyStr.decimalForm session_id)) ∧
    ¬ ∀ (agent : Agent Unit Unit Unit) state schedule,
      Aligned ((serving 4300 agent oneSession state).trace backend schedule) := by
  have split : ¬ threadKey (py "auth0|u") (py "01") = threadKey (py "auth0|u")
      (PyStr.decimalForm 1) := by
    simp [PyStr.decimalForm, PyStr.naturalForm]
    decide
  constructor
  · intro together
    exact split (together (py "auth0|u") (py "01") (py "1") 1 (by decide) (by decide)).1
  · intro aligned
    have chats : Chats 4300 (oneSession false) (py "auth0|u") (py "01") := .intro ⟨1, by decide⟩
    have canonical := canonical_of_aligned aligned chats
    revert canonical
    decide

end CarqnaAgent.Server
