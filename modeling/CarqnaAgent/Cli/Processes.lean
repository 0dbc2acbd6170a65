import Mathlib
import CarqnaAgent.Foundations.Knowledge
import CarqnaAgent.Server.Endpoints
import CarqnaAgent.Cli.SessionTable
import CarqnaAgent.Cli.Overtaking

/-!
# Processes of the command line

`main` of `src/agent/carqna_cli.py` as a program, and any number of processes of it at once on
one SQLite file.

A process opens its session statement by statement (`World.step`), creates the agent, and
then reads its input line by line. What the user types is given with the process; a process
whose input is used up reads on for ever. The agent is a parameter: it loads and stores the
checkpoint of its thread and asks the world outside, and it may raise.

The checkpointer is a map from threads to the conversations stored last. A write of a
checkpoint waits while another connection has the write lock of the file.
-/

set_option autoImplicit false

namespace CarqnaAgent.Cli

open Foundations
open CarqnaAgent.Server (AgentStep)

/-! ## Values -/

/-- What is raised, by the clauses that tell it apart. -/
inductive Raised where
  /-- An `Exception`, with its text. -/
  | exception (text : PyStr)
  | keyboardInterrupt
  /-- A `BaseException` no clause is for. -/
  | baseException
  deriving DecidableEq

/-- What a call of `input` does. -/
inductive Input where
  | line (text : PyStr)
  | raised (raised : Raised)
  deriving DecidableEq

/-- What `ainvoke` returns: a `dict`, with the texts of the contents of its messages and of its
other values, or something else. `shown` is the text of the whole. -/
inductive InvokeResult where
  | dict (messages : Option (List PyStr)) (items : List (PyStr × PyStr)) (shown : PyStr)
  | other (shown : PyStr)

/-- What `parse_args` returns. -/
structure Args where
  session : Option PyStr
  list : Bool

/-- `not args.list and not args.session`. -/
def Args.Missing (args : Args) : Prop := args.list = false ∧ args.session.getD [] = []

instance (args : Args) : Decidable args.Missing := inferInstanceAs (Decidable (_ ∧ _))

/-- The command line opens a session. -/
def Args.Opens (args : Args) : Prop := args.list = false ∧ args.session.getD [] ≠ []

instance (args : Args) : Decidable args.Opens := inferInstanceAs (Decidable (_ ∧ _))

/-- What a process writes. -/
inductive Output where
  /-- `print` of a text. -/
  | line (text : PyStr)
  /-- The first line of the agent, with its session and thread. -/
  | agentReady (session_name thread_id : PyStr)
  /-- A line of `--list`: the microseconds since the last access. -/
  | listed (session_name : PyStr) (elapsed : ℤ)
  /-- `traceback.print_exc()`. -/
  | traceback
  /-- `parser.error`. -/
  | parserError (message : PyStr)
  deriving DecidableEq

/-- Where a process stops. -/
inductive Ending where
  /-- It exits with this status. -/
  | exit (status : ℕ)
  /-- `main` returns. -/
  | returned
  /-- What was raised leaves `main`. -/
  | uncaught
  /-- `input` waits for a line that is not typed. -/
  | reading
  deriving DecidableEq

/-- `str(e)` of a failure. -/
def Failure.text (session_name : PyStr) : Failure → PyStr
  | .unicodeEncodeError => Server.unicodeEncodeMessage session_name
  | .noSuchTable => py "no such table: sessions"
  | .databaseFull => py "database or disk is full"
  | .integrityError => py "UNIQUE constraint failed: sessions.session_name"

/-! ## Steps -/

section Steps

variable (History Reply : Type)

/-- A step of a process. -/
inductive Step where
  | print (output : Output)
  /-- `_create_session_table`, of `--list`. -/
  | createTable
  /-- The `SELECT` of `_list_sessions`. -/
  | selectSessions
  /-- `datetime.now(timezone.utc)`. -/
  | clock
  /-- `_get_or_create_session`. -/
  | openSession
  | createGraph
  /-- The message is given to the agent. -/
  | invoke (user_input : PyStr)
  /-- The agent is done with it. -/
  | invoked (outcome : Except Raised InvokeResult)
  | getCheckpoint (thread_id : PyStr)
  | putCheckpoint (thread_id : PyStr) (history : History)
  | outside

/-- The answer to a step. -/
def Step.Answer : Step History → Type
  | .print _ => Unit
  | .createTable => Unit
  | .selectSessions => Except Failure (List SessionsRow)
  | .clock => ℤ
  | .openSession => Except Failure ℕ
  | .createGraph => Except Raised Unit
  | .invoke _ => Unit
  | .invoked _ => Unit
  | .getCheckpoint _ => Option History
  | .putCheckpoint _ _ => Unit
  | .outside => Reply

/-- A program of the command line. -/
abbrev CliProgram (α : Type) := Program (Step History) (Step.Answer History Reply) α

/-- The agent, on a message. -/
abbrev CliAgent :=
  PyStr → Program (AgentStep History) (AgentStep.Answer History Reply) (Except Raised InvokeResult)

end Steps

variable {History Reply : Type}

/-- Take one step. -/
def take (step : Step History) : CliProgram History Reply (step.Answer History Reply) :=
  .call step .ret

/-- `print`. -/
def print (output : Output) : CliProgram History Reply Unit := .call (.print output) .ret

/-- The checkpointer serves the thread of `config`. -/
def serveThread (thread_id : PyStr) :
    (step : AgentStep History) → CliProgram History Reply (step.Answer History Reply)
  | .load => take (.getCheckpoint thread_id)
  | .store history => take (.putCheckpoint thread_id history)
  | .ask => take .outside

/-! ## The loop -/

/-- `user_input in ("/quit", "/exit", "/q")`. -/
def isQuit (user_input : PyStr) : Bool :=
  [py "/quit", py "/exit", py "/q"].any fun word => decide (user_input = word)

/-- `.strip()`. -/
def stripped (text : PyStr) : PyStr := PyStr.stripBy PyStr.isSpace text

/-- The line that answers a result, if there is one. -/
def InvokeResult.answer : InvokeResult → Option PyStr
  | .dict (some contents) _ _ => contents.getLast?
  | .dict none items shown =>
      let found := [py "output", py "result", py "response"].findSome? fun key =>
        (items.find? fun item => decide (item.1 = key)).map Prod.snd
      some (found.getD shown)
  | .other shown => some shown

/-- Print a result. -/
def printResult (result : InvokeResult) : CliProgram History Reply Unit :=
  match result.answer with
  | none => return ()
  | some content => print (.line (py "Agent: " ++ content ++ py "\n"))

/-- The two clauses of the loop, on what was raised in its body. -/
def recover (raised : Raised) (onward : CliProgram History Reply Ending) :
    CliProgram History Reply Ending :=
  match raised with
  | .keyboardInterrupt => do
      print (.line (py "\nGoodbye!"))
      return .returned
  | .exception text => do
      print (.line (py "Error: " ++ text ++ py "\n"))
      print .traceback
      onward
  | .baseException => return .uncaught

section Main

variable (agent : CliAgent History Reply) (sqlite_path : PyStr)

/-- `agent.ainvoke`, and what is printed of it. -/
def ask (thread_id user_input : PyStr) (onward : CliProgram History Reply Ending) :
    CliProgram History Reply Ending := do
  print (.line (py "\nAgent: Thinking...\n"))
  take (.invoke user_input)
  let outcome ← (agent user_input).interpret (serveThread thread_id)
  take (.invoked outcome)
  match outcome with
  | .ok result => do
      printResult result
      onward
  | .error raised => recover raised onward

/-- `while True`. -/
def repl (thread_id : PyStr) : List Input → CliProgram History Reply Ending
  | [] => return .reading
  | .raised raised :: inputs => recover raised (repl thread_id inputs)
  | .line text :: inputs =>
      let user_input := stripped text
      if isQuit user_input then do
        print (.line (py "Goodbye!"))
        return .returned
      else if user_input = [] then repl thread_id inputs
      else ask agent thread_id user_input (repl thread_id inputs)

/-- The clause for what fails before the loop. -/
def initializationFailed (text : PyStr) : CliProgram History Reply Ending := do
  print (.line (py "❌ Failed to initialize agent: " ++ text))
  print .traceback
  return .exit 1

/-- The lines of `--list`. -/
def printSessions : List SessionsRow → CliProgram History Reply Unit
  | [] => return ()
  | row :: rows => do
      let now : ℤ ← take .clock
      print (.listed row.session_name (now - row.access_ts * 1000000))
      printSessions rows

/-- `--list`. -/
def listBranch : CliProgram History Reply Ending := do
  take .createTable
  match ← take .selectSessions with
  | .error _ => return .uncaught
  | .ok [] => do
      print (.line (py "No sessions yet."))
      return .exit 0
  | .ok rows => do
      print (.line (py "Sessions:"))
      printSessions rows
      return .exit 0

/-- The agent on a session. -/
def sessionBranch (session_name : PyStr) (inputs : List Input) :
    CliProgram History Reply Ending := do
  print (.line (py "Initializing agent..."))
  match ← take .openSession with
  | .error failure => initializationFailed (failure.text session_name)
  | .ok session_id => do
      match ← take .createGraph with
      | .error (.exception text) => initializationFailed text
      | .error _ => return .uncaught
      | .ok () => do
          print (.agentReady session_name (threadId session_id))
          print (.line (py "  Local store: " ++ sqlite_path))
          print (.line (List.replicate 50 (CodePoint.ofChar '=')))
          print (.line (py "Ask your automobile questions. Type '/quit' to exit.\n"))
          repl agent (threadId session_id) inputs

/-- `main`. -/
def main (args : Args) (inputs : List Input) : CliProgram History Reply Ending :=
  if args.Missing then do
    print (.parserError (py "--session is required unless --list is given"))
    return .exit 2
  else do
    print (.line (py "🚗 CarQnA - Automobile Help Assistant"))
    print (.line (List.replicate 50 (CodePoint.ofChar '=')))
    if args.list then listBranch
    else sessionBranch agent sqlite_path (args.session.getD []) inputs

end Main

/-! ## Rules for the programs -/

/-- The steps that teach a process nothing of its session and of its questions. -/
def Step.Silent : Step History → Prop
  | .openSession => False
  | .invoke _ => False
  | .invoked _ => False
  | .getCheckpoint _ => False
  | .putCheckpoint _ _ => False
  | _ => True

section Rules

variable {κ : Type} (learn : (step : Step History) → step.Answer History Reply → κ → κ)
  (allowed : κ → Step History → Prop)

/-- Silent steps are allowed, and teach nothing. -/
structure Quiet : Prop where
  allows : ∀ (known : κ) {step : Step History}, step.Silent → allowed known step
  teaches : ∀ (known : κ) {step : Step History} (answer : step.Answer History Reply),
    step.Silent → learn step answer known = known

variable {learn allowed} (quiet : Quiet learn allowed) {post : Ending → κ → Prop} {known : κ}
include quiet

theorem within_silent {step : Step History}
    {next : step.Answer History Reply → CliProgram History Reply Ending}
    (later : ∀ answer, (next answer).Within learn allowed post known)
    (silent : step.Silent := by trivial) :
    (Program.call step next).Within learn allowed post known := by
  refine ⟨quiet.allows known silent, fun answer => ?_⟩
  rw [quiet.teaches known answer silent]
  exact later answer

theorem within_print {output : Output} {rest : CliProgram History Reply Ending}
    (later : rest.Within learn allowed post known) :
    (do print output; rest : CliProgram History Reply Ending).Within learn allowed post known :=
  within_silent quiet fun _ => later

theorem within_recover {raised : Raised} {onward : CliProgram History Reply Ending}
    (goes : ∀ text, raised = .exception text → onward.Within learn allowed post known)
    (ends : ∀ ending, ending = .returned ∨ ending = .uncaught →
      (∀ text, raised ≠ .exception text) → post ending known) :
    (recover raised onward).Within learn allowed post known := by
  cases raised with
  | exception text => exact within_print quiet (within_print quiet (goes text rfl))
  | keyboardInterrupt => exact within_print quiet (ends _ (.inl rfl) (by simp))
  | baseException => exact ends _ (.inr rfl) (by simp)

theorem within_printResult {outcome : InvokeResult} {onward : CliProgram History Reply Ending}
    (later : onward.Within learn allowed post known) :
    (do printResult outcome; onward : CliProgram History Reply Ending).Within learn allowed post
      known := by
  unfold printResult
  cases outcome.answer with
  | none => exact later
  | some content => exact within_print quiet later

theorem within_initializationFailed {text : PyStr} (last : post (.exit 1) known) :
    (initializationFailed text : CliProgram History Reply Ending).Within learn allowed post
      known :=
  within_print quiet (within_print quiet last)

theorem within_printSessions (rows : List SessionsRow) (last : post (.exit 0) known) :
    (do printSessions rows; return .exit 0 : CliProgram History Reply Ending).Within learn
      allowed post known := by
  induction rows with
  | nil => exact last
  | cons row rows ih => exact within_silent quiet fun _ => within_print quiet ih

theorem within_listBranch (uncaught : post .uncaught known) (last : post (.exit 0) known) :
    (listBranch : CliProgram History Reply Ending).Within learn allowed post known := by
  refine within_silent quiet fun _ => within_silent quiet fun answer => ?_
  cases answer with
  | error failure => exact uncaught
  | ok rows =>
      cases rows with
      | nil => exact within_print quiet last
      | cons row rows => exact within_print quiet (within_printSessions quiet (row :: rows) last)

variable {agent : CliAgent History Reply} {sqlite_path : PyStr} {args : Args}
  {inputs : List Input}

/-- The agent on a message, when the accesses to its thread are allowed and teach nothing. -/
theorem within_ask {thread_id user_input : PyStr} {onward : CliProgram History Reply Ending}
    {asked : κ} (same : learn (.invoke user_input) () known = asked)
    (invokes : allowed known (.invoke user_input))
    (serves : ∀ step, (serveThread thread_id step : CliProgram History Reply _).Within learn
      allowed (fun _ later => later = asked) asked)
    (returns : ∀ outcome, allowed asked (.invoked outcome))
    (goes : ∀ outcome, onward.Within learn allowed post (learn (.invoked outcome) () asked))
    (ends : ∀ raised, (∀ text, raised ≠ .exception text) → ∀ ending,
      ending = .returned ∨ ending = .uncaught →
        post ending (learn (.invoked (.error raised)) () asked)) :
    (ask agent thread_id user_input onward).Within learn allowed post known := by
  subst same
  refine within_print quiet ⟨invokes, fun _ => ?_⟩
  change ((agent user_input).interpret (serveThread thread_id) >>= _).Within _ _ _ _
  have anything : (agent user_input).Yields fun _ => True :=
    Program.yields_of_forall (fun _ => trivial) _
  refine Program.within_bind (Program.within_interpret serves anything fun outcome _ => ?_)
  refine ⟨returns outcome, fun _ => ?_⟩
  cases outcome with
  | ok result => exact within_printResult quiet (goes _)
  | error raised =>
      exact within_recover quiet (fun _ _ => goes _) fun ending gone other =>
        ends raised other _ gone

theorem within_sessionBranch {session_name : PyStr} (opening : allowed known .openSession)
    (refused : ∀ failure, post (.exit 1) (learn .openSession (.error failure) known))
    (opened : ∀ session_id,
      post (.exit 1) (learn .openSession (.ok session_id) known) ∧
      post .uncaught (learn .openSession (.ok session_id) known) ∧
      (repl agent (threadId session_id) inputs).Within learn allowed post
        (learn .openSession (.ok session_id) known)) :
    (sessionBranch agent sqlite_path session_name inputs).Within learn allowed post known := by
  refine within_print quiet ⟨opening, fun answer => ?_⟩
  cases answer with
  | error failure => exact within_initializationFailed quiet (refused failure)
  | ok session_id =>
      obtain ⟨failed, uncaught, loops⟩ := opened session_id
      refine within_silent quiet fun created => ?_
      cases created with
      | error raised =>
          cases raised with
          | exception text => exact within_initializationFailed quiet failed
          | keyboardInterrupt => exact uncaught
          | baseException => exact uncaught
      | ok ready =>
          exact within_print quiet (within_print quiet (within_print quiet
            (within_print quiet loops)))

theorem within_main (missing : args.Missing → post (.exit 2) known)
    (lists : args.list = true → post .uncaught known ∧ post (.exit 0) known)
    (opens : args.Opens →
      (sessionBranch agent sqlite_path (args.session.getD []) inputs).Within learn allowed post
        known) :
    (main agent sqlite_path args inputs).Within learn allowed post known := by
  unfold main
  split_ifs with nothing listing
  · exact within_print quiet (missing nothing)
  · obtain ⟨uncaught, last⟩ := lists listing
    exact within_print quiet (within_print quiet (within_listBranch quiet uncaught last))
  · have session : args.list = false := by simpa using listing
    exact within_print quiet (within_print quiet
      (opens ⟨session, fun none => nothing ⟨session, none⟩⟩))

end Rules

/-! ## Processes on one file -/

/-- What a turn does not choose: the time in microseconds, how `create_graph` ends, what the
outside replies, and in which order a listing has the sessions of one time. -/
structure Moment (Reply : Type) where
  time : ℤ
  graph : Except Raised Unit
  reply : Reply
  order : OrderBy SessionsRow.AsRecent

/-- `CURRENT_TIMESTAMP`. -/
def Moment.now (moment : Moment Reply) : Timestamp := moment.time / 1000000

/-- What a process has asked its agent, and what that gave back. -/
structure Talk where
  asked : List PyStr
  outcomes : List (Except Raised InvokeResult)

/-- A step, as part of the talk. -/
def Talk.after (talk : Talk) : Step History → Talk
  | .invoke user_input => { talk with asked := talk.asked ++ [user_input] }
  | .invoked outcome => { talk with outcomes := talk.outcomes ++ [outcome] }
  | _ => talk

/-- The file, and of each process what it has written and its talk with the agent. -/
structure Machine (ι History : Type) where
  world : World ι
  checkpoints : PyStr → Option History
  written : ι → List Output
  talks : ι → Talk

section Machine

variable {ι : Type}

/-- A turn of the process at a step. -/
def machine [DecidableEq ι] (names : ι → PyStr) :
    Gradual ι (Step History) (Step.Answer History Reply) (Machine ι History) (Moment Reply) :=
  fun i moment state step =>
  match step with
  | .print output =>
      (some (), { state with
        written := Function.update state.written i (state.written i ++ [output]) })
  | .createTable =>
      let world := match state.world.phase i with
        | .called => state.world.create i
        | _ => state.world
      (match world.phase i with
        | .called => none
        | _ => some (),
        { state with world := world })
  | .selectSessions =>
      (some (match state.world.database with
        | none => .error .noSuchTable
        | some table => .ok (moment.order.sort table.rows)), state)
  | .clock => (some moment.time, state)
  | .openSession =>
      let world := state.world.step names (i, moment.now)
      (match world.phase i with
        | .returned session_id => some (.ok session_id)
        | .raised failure => some (.error failure)
        | _ => none,
        { state with world := world })
  | .createGraph => (some moment.graph, state)
  | .invoke _ =>
      (some (), { state with
        talks := Function.update state.talks i ((state.talks i).after step) })
  | .invoked _ =>
      (some (), { state with
        talks := Function.update state.talks i ((state.talks i).after step) })
  | .getCheckpoint thread_id => (some (state.checkpoints thread_id), state)
  | .putCheckpoint thread_id history =>
      match state.world.writer with
      | some _ => (none, state)
      | none =>
          (some (), { state with
            checkpoints := Function.update state.checkpoints thread_id (some history) })
  | .outside => (some moment.reply, state)

/-- The name a process opens its session by. -/
def sessionNames (commands : ι → Args × List Input) (i : ι) : PyStr :=
  (commands i).1.session.getD []

/-- The processes of some commands, on a file nobody is using yet. -/
def processes (agent : CliAgent History Reply) (sqlite_path : PyStr)
    (commands : ι → Args × List Input) (file : Option (Table sessions))
    (checkpoints : PyStr → Option History) :
    Pool ι (Step History) (Step.Answer History Reply) Ending (Machine ι History) where
  threads i := main agent sqlite_path (commands i).1 (commands i).2
  state := ⟨opened ι file, checkpoints, fun _ => [], fun _ => ⟨[], []⟩⟩

end Machine

end CarqnaAgent.Cli
