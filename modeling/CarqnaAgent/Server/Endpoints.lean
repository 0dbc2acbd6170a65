import Mathlib
import CarqnaAgent.Foundations.Programs
import CarqnaAgent.Sessions.Store

/-!
# The endpoints

The routes of `src/agent/copilotkit_server.py`, behind the middleware: `user_id` is the
verified user of the request. A route is a program whose steps are the transactions of
the session store and the accesses of the checkpoint store.

A transaction is one step here; `Sessions.Interleavings` has its statements one by one. The
checkpointer is a map from threads to the conversations stored last.

The agent is a parameter. It loads and stores the checkpoint of the thread it is run on,
and it asks the world outside (models, tools), whose replies are not up to the server. What
it yields is what the chat route streams.
-/

set_option autoImplicit false

namespace CarqnaAgent.Server

open Foundations
open CarqnaAgent.Sessions

/-- `RunAgentInput`, the fields the route and the agent use. -/
structure RunAgentInput (Message : Type) where
  thread_id : PyStr
  messages : List Message

/-! ## The backend -/

section Backend

variable (History Reply : Type)

/-- The two stores: the tables, and the conversation of each checkpoint thread. -/
structure Backend where
  tables : Tables
  checkpoints : PyStr → Option History

/-- What a step does not choose: the time, the answer of `/userinfo`, what the outside replies,
and in which order a listing has the sessions of one time. -/
structure Moment where
  now : Timestamptz
  userinfo : Userinfo
  reply : Reply
  order : OrderBy SessionRow.AsRecent

/-- A step of a route. -/
inductive Request where
  | trackUser (user_id : PyStr)
  | touchSession (user_id : PyStr) (session_id : ℤ)
  | listSessions (user_id : PyStr)
  | createSession (user_id session_name : PyStr)
  | getCheckpoint (thread_id : PyStr)
  | putCheckpoint (thread_id : PyStr) (history : History)
  | outside

/-- The answer to a step. -/
def Request.Answer : Request History → Type
  | .trackUser _ => Unit
  | .touchSession _ _ => Unit
  | .listSessions _ => Except PyException (List SessionRow)
  | .createSession _ _ => Except PyException (Option SessionRow)
  | .getCheckpoint _ => Option History
  | .putCheckpoint _ _ => Unit
  | .outside => Reply

/-- The stores of a new deployment. -/
def Backend.empty : Backend History := ⟨.empty, fun _ => none⟩

end Backend

variable {History Reply Message : Type}

/-- The stores and the outside. -/
def backend :
    Service (Request History) (Request.Answer History Reply) (Backend History) (Moment Reply) :=
  fun moment state request =>
    match request with
    | .trackUser user_id =>
        ((), { state with tables := trackUser moment.now moment.userinfo user_id state.tables })
    | .touchSession user_id session_id =>
        ((), { state with tables := touchSession moment.now user_id session_id state.tables })
    | .listSessions user_id =>
        let (answer, tables) := listSessions moment.order user_id state.tables
        (answer, { state with tables := tables })
    | .createSession user_id session_name =>
        let (answer, tables) := createSession moment.now user_id session_name state.tables
        (answer, { state with tables := tables })
    | .getCheckpoint thread_id => (state.checkpoints thread_id, state)
    | .putCheckpoint thread_id history =>
        ((), { state with checkpoints := Function.update state.checkpoints thread_id history })
    | .outside => (moment.reply, state)

/-- A program of the server. -/
abbrev ServerProgram (History Reply α : Type) :=
  Program (Request History) (Request.Answer History Reply) α

/-- Take one step. -/
def send (request : Request History) :
    ServerProgram History Reply (request.Answer History Reply) :=
  .call request .ret

/-! ## The agent -/

/-- A step of the agent. -/
inductive AgentStep (History : Type) where
  | load
  | store (history : History)
  | ask

/-- The answer to a step of the agent. -/
def AgentStep.Answer (History Reply : Type) : AgentStep History → Type
  | .load => Option History
  | .store _ => Unit
  | .ask => Reply

/-- What the agent does on an input, and the events it yields, as `encoder.encode` writes them. -/
abbrev Agent (History Reply Message : Type) :=
  RunAgentInput Message → Program (AgentStep History) (AgentStep.Answer History Reply) (List PyStr)

/-- The checkpointer serves the thread of the input. -/
def AgentStep.perform (thread_id : PyStr) :
    (step : AgentStep History) → ServerProgram History Reply (step.Answer History Reply)
  | .load => send (.getCheckpoint thread_id)
  | .store history => send (.putCheckpoint thread_id history)
  | .ask => send .outside

/-- `agent.clone().run(input_data)`. -/
def runAgent (agent : Agent History Reply Message) (input_data : RunAgentInput Message) :
    ServerProgram History Reply (List PyStr) :=
  (agent input_data).interpret (AgentStep.perform input_data.thread_id)

/-! ## Responses -/

/-- The response of a route. -/
inductive Response where
  | stream (events : List PyStr)
  | sessions (rows : List SessionRow)
  | session (row : SessionRow)
  | httpException (status_code : ℕ) (detail : PyStr)
  /-- An exception nothing catches. -/
  | internalServerError (exception : PyException)
  deriving DecidableEq

/-- The status code. -/
def Response.statusCode : Response → ℕ
  | .httpException status_code _ => status_code
  | .internalServerError _ => 500
  | _ => 200

/-- A hexadecimal digit. -/
def hexDigit (digit : ℕ) : CodePoint :=
  CodePoint.ofNat (if digit < 10 then 0x30 + digit else 0x57 + digit)

/-- `str(e)` of the `UnicodeEncodeError` of a text: its first run of surrogates. -/
def unicodeEncodeMessage (object : PyStr) : PyStr :=
  let surrogate : CodePoint → Bool := fun c => c.toChar?.isNone
  let start := object.findIdx surrogate
  let run := (object.drop start).takeWhile surrogate
  let subject :=
    match run with
    | [c] => py " '\\u" ++ [hexDigit (c.val / 4096), hexDigit (c.val / 256 % 16),
        hexDigit (c.val / 16 % 16), hexDigit (c.val % 16)] ++ py "' in position " ++
        PyStr.decimalForm start
    | _ => py "s in position " ++ PyStr.decimalForm start ++ py "-" ++
        PyStr.decimalForm (start + run.length - 1 : ℕ)
  py "'utf-8' codec can't encode character" ++ subject ++ py ": surrogates not allowed"

/-- What the clauses of `create_session_endpoint` make of an exception. -/
def refuseSession : PyException → Response
  | .valueError message => .httpException 400 message
  | .unicodeEncodeError object => .httpException 400 (unicodeEncodeMessage object)
  | .uniqueViolation => .httpException 409 (py "A session with that name already exists")
  | exception => .internalServerError exception

/-- What `create_session_endpoint` makes of the outcome of `create_session`. -/
def answerCreate : Except PyException (Option SessionRow) → Response
  | .error exception => refuseSession exception
  | .ok none => .httpException 500 (py "Failed to create session")
  | .ok (some row) => .session row

/-- What `list_sessions_endpoint` makes of the outcome of `list_sessions`. -/
def answerList : Except PyException (List SessionRow) → Response
  | .error exception => .internalServerError exception
  | .ok rows => .sessions rows

/-! ## Routes -/

/-- The checkpoint key, `f"{user_id}:{input_data.thread_id}"`. -/
def threadKey (user_id thread_id : PyStr) : PyStr := user_id ++ py ":" ++ thread_id

section Routes

variable (maxStrDigits : ℕ) (agent : Agent History Reply Message)

/-- `POST /`. -/
def langgraphAgentEndpoint (user_id : PyStr) (input_data : RunAgentInput Message) :
    ServerProgram History Reply Response := do
  send (.trackUser user_id)
  match PyStr.parseInt maxStrDigits input_data.thread_id with
  | none => return .httpException 400 (py "thread_id must be a valid session id")
  | some session_id => do
      send (.touchSession user_id session_id)
      let events ←
        runAgent agent { input_data with thread_id := threadKey user_id input_data.thread_id }
      return .stream events

/-- The agent on the thread of the user. -/
def runOwnThread (user_id : PyStr) (input_data : RunAgentInput Message) :
    ServerProgram History Reply Response := do
  let events ←
    runAgent agent { input_data with thread_id := threadKey user_id input_data.thread_id }
  return .stream events

/-- The route on a `thread_id` that `int` reads. -/
theorem langgraphAgentEndpoint_of_read {user_id : PyStr} {input_data : RunAgentInput Message}
    {session_id : ℤ} (read : PyStr.parseInt maxStrDigits input_data.thread_id = some session_id) :
    langgraphAgentEndpoint maxStrDigits agent user_id input_data =
      .call (.trackUser user_id) fun _ => .call (.touchSession user_id session_id) fun _ =>
        runOwnThread agent user_id input_data := by
  simp only [langgraphAgentEndpoint, read, runOwnThread]
  rfl

/-- The route on a `thread_id` that `int` refuses. -/
theorem langgraphAgentEndpoint_of_refused {user_id : PyStr} {input_data : RunAgentInput Message}
    (refused : PyStr.parseInt maxStrDigits input_data.thread_id = none) :
    langgraphAgentEndpoint maxStrDigits agent user_id input_data =
      .call (.trackUser user_id) fun _ =>
        .ret (.httpException 400 (py "thread_id must be a valid session id")) := by
  simp only [langgraphAgentEndpoint, refused]
  rfl

/-- `GET /sessions`. -/
def listSessionsEndpoint (user_id : PyStr) : ServerProgram History Reply Response := do
  send (.trackUser user_id)
  let rows ← send (.listSessions user_id)
  return answerList rows

/-- `POST /sessions`. -/
def createSessionEndpoint (user_id session_name : PyStr) :
    ServerProgram History Reply Response := do
  send (.trackUser user_id)
  let session ← send (.createSession user_id session_name)
  return answerCreate session

/-- A request of a verified user. -/
inductive HttpRequest (Message : Type) where
  | chat (user_id : PyStr) (input_data : RunAgentInput Message)
  | listSessions (user_id : PyStr)
  | createSession (user_id session_name : PyStr)

/-- The route a request takes. -/
def handle : HttpRequest Message → ServerProgram History Reply Response
  | .chat user_id input_data => langgraphAgentEndpoint maxStrDigits agent user_id input_data
  | .listSessions user_id => listSessionsEndpoint user_id
  | .createSession user_id session_name => createSessionEndpoint user_id session_name

/-- Any number of requests, served at once. -/
def serving {ι : Type} (requests : ι → HttpRequest Message) (state : Backend History) :
    Pool ι (Request History) (Request.Answer History Reply) Response (Backend History) where
  threads i := handle maxStrDigits agent (requests i)
  state := state

theorem serving_threads {ι : Type} (requests : ι → HttpRequest Message)
    (state : Backend History) (i : ι) :
    (serving maxStrDigits agent requests state).threads i =
      handle maxStrDigits agent (requests i) := rfl

end Routes

end CarqnaAgent.Server
