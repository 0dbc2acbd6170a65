import Mathlib
import CarqnaAgent.Cli.Processes

/-!
# What a process asks its agent

The lines that are not blank, up to the first that stops the process, are its questions.

**At every moment of a run, what a process has asked is the beginning of its questions. A
process that stops without an interruption of its agent has asked all of them, whatever failed,
and it stops for a line that says so** (`asked_questions`).
-/

set_option autoImplicit false

namespace CarqnaAgent.Cli

open Foundations
open CarqnaAgent.Server (AgentStep)

variable {History Reply : Type}

/-! ## Questions -/

/-- The input ends the loop. -/
def Input.stops : Input → Bool
  | .line text => isQuit (stripped text)
  | .raised (.exception _) => false
  | .raised _ => true

/-- The question of an input, if it is one. -/
def Input.question? : Input → Option PyStr
  | .line text => if stripped text = [] then none else some (stripped text)
  | .raised _ => none

/-- The questions of a process. -/
def questions (inputs : List Input) : List PyStr :=
  (inputs.takeWhile fun input => !input.stops).filterMap Input.question?

theorem questions_of_stops {input : Input} (stops : input.stops = true) (inputs : List Input) :
    questions (input :: inputs) = [] := by
  simp [questions, stops]

theorem questions_of_none {input : Input} (goes : input.stops = false)
    (blank : input.question? = none) (inputs : List Input) :
    questions (input :: inputs) = questions inputs := by
  simp [questions, goes, blank]

theorem questions_of_some {input : Input} (goes : input.stops = false) {user_input : PyStr}
    (asks : input.question? = some user_input) (inputs : List Input) :
    questions (input :: inputs) = user_input :: questions inputs := by
  simp [questions, goes, asks]

/-! ## The questions of a run -/

/-- The talk of a process, with a further step. -/
def learnTalk (step : Step History) (_answer : step.Answer History Reply) (talk : Talk) : Talk :=
  talk.after step

/-- Only the next of some questions is asked. -/
def AsksIn (all : List PyStr) (talk : Talk) (step : Step History) : Prop :=
  (talk.after step).asked = talk.asked ∨ (talk.after step).asked <+: all

/-- The agent has raised nothing but `Exception`s. -/
def Talk.Uninterrupted (talk : Talk) : Prop :=
  ∀ raised, .error raised ∈ talk.outcomes → ∃ text, raised = .exception text

/-- How the loop ends: `rest` are the inputs that were left when `before` had been asked. -/
structure Stopped (rest : List Input) (before : List PyStr) (ending : Ending) (talk : Talk) :
    Prop where
  stays : ∀ status, ending ≠ .exit status
  reads : ending = .reading →
    talk.asked = before ++ questions rest ∧ ∀ input ∈ rest, input.stops = false
  stops : talk.Uninterrupted → ending = .returned →
    talk.asked = before ++ questions rest ∧ ∃ input ∈ rest, input.stops = true

namespace Stopped

variable {input : Input} {rest : List Input} {before : List PyStr} {ending : Ending} {talk : Talk}

theorem nil : Stopped [] talk.asked .reading talk where
  stays _ := by simp
  reads _ := by simp [questions]
  stops _ same := by cases same

/-- An input that ends the loop. -/
theorem now (stops : input.stops = true) (gone : ending = .returned ∨ ending = .uncaught) :
    Stopped (input :: rest) talk.asked ending talk where
  stays status same := by
    subst same
    simp at gone
  reads same := by
    subst same
    simp at gone
  stops _ _ := ⟨by simp [questions_of_stops stops], input, List.mem_cons_self, stops⟩

/-- An interrupted agent ends the loop. -/
theorem interrupted {raised : Raised} (given : .error raised ∈ talk.outcomes)
    (other : ∀ text, raised ≠ .exception text)
    (gone : ending = .returned ∨ ending = .uncaught) : Stopped rest before ending talk where
  stays status same := by
    subst same
    simp at gone
  reads same := by
    subst same
    simp at gone
  stops uninterrupted _ := by
    obtain ⟨text, same⟩ := uninterrupted raised given
    exact absurd same (other text)

/-- An input that does not end the loop, and is asked or not. -/
theorem later (goes : input.stops = false)
    (stopped : Stopped rest (before ++ input.question?.toList) ending talk) :
    Stopped (input :: rest) before ending talk := by
  have all : before ++ questions (input :: rest) =
      before ++ input.question?.toList ++ questions rest := by
    cases asks : input.question? with
    | none => simp [questions_of_none goes asks]
    | some user_input => simp [questions_of_some goes asks]
  constructor
  · exact stopped.stays
  · intro same
    obtain ⟨whole, none⟩ := stopped.reads same
    exact ⟨whole.trans all.symm, List.forall_mem_cons.mpr ⟨goes, none⟩⟩
  · intro uninterrupted same
    obtain ⟨whole, stop, member, stops⟩ := stopped.stops uninterrupted same
    exact ⟨whole.trans all.symm, stop, List.mem_cons_of_mem _ member, stops⟩

end Stopped

/-! ## The program -/

theorem quiet_asks (all : List PyStr) :
    Quiet (learnTalk : (step : Step History) → step.Answer History Reply → _) (AsksIn all) where
  allows talk {step} silent := by
    cases step with
    | invoke user_input => exact silent.elim
    | _ => exact .inl rfl
  teaches talk {step} answer silent := by
    cases step with
    | invoke user_input => exact silent.elim
    | invoked outcome => exact silent.elim
    | _ => rfl

/-- The accesses to a thread ask nothing. -/
theorem asks_serveThread (all : List PyStr) (talk : Talk) (thread_id : PyStr)
    (step : AgentStep History) :
    (serveThread thread_id step : CliProgram History Reply _).Within learnTalk (AsksIn all)
      (fun _ later => later = talk) talk := by
  cases step with
  | load => exact ⟨.inl rfl, fun _ => rfl⟩
  | store history => exact ⟨.inl rfl, fun _ => rfl⟩
  | ask => exact ⟨.inl rfl, fun _ => rfl⟩

/-- **The loop asks its questions in order.** -/
theorem asks_repl {agent : CliAgent History Reply} (thread_id : PyStr) {inputs : List Input}
    {all : List PyStr} {talk : Talk} (whole : talk.asked ++ questions inputs = all) :
    (repl agent thread_id inputs).Within learnTalk (AsksIn all) (Stopped inputs talk.asked)
      talk := by
  induction inputs generalizing talk with
  | nil => exact Stopped.nil
  | cons input inputs ih =>
      cases input with
      | raised raised =>
          refine within_recover (quiet_asks all) (fun text same => ?_) fun ending gone other => ?_
          · subst same
            refine Program.within_mono (ih whole) fun _ _ stopped => ?_
            exact Stopped.later rfl (by simpa [Input.question?] using stopped)
          · refine Stopped.now ?_ gone
            cases raised with
            | exception text => exact absurd rfl (other text)
            | keyboardInterrupt => rfl
            | baseException => rfl
      | line text =>
          rw [repl]
          split_ifs with quits blank
          · exact within_print (quiet_asks all) (Stopped.now quits (.inl rfl))
          · have goes : (Input.line text).stops = false := by simpa [Input.stops] using quits
            have skipped : (Input.line text).question? = none := if_pos blank
            rw [questions_of_none goes skipped] at whole
            refine Program.within_mono (ih whole) fun _ _ stopped => ?_
            exact Stopped.later goes (by simpa [skipped] using stopped)
          · have goes : (Input.line text).stops = false := by simpa [Input.stops] using quits
            have asks : (Input.line text).question? = some (stripped text) := if_neg blank
            rw [questions_of_some goes asks] at whole
            have further : talk.asked ++ [stripped text] ++ questions inputs = all := by
              simpa using whole
            refine within_ask (quiet_asks all) rfl (.inr ⟨questions inputs, further⟩)
              (asks_serveThread all _ thread_id) (fun _ => .inl rfl) (fun outcome => ?_)
              fun raised other ending gone => ?_
            · refine Program.within_mono (ih further) fun _ _ stopped => ?_
              exact Stopped.later goes (by rwa [asks])
            · exact Stopped.interrupted (List.mem_append_right _ List.mem_cons_self) other gone

/-- The questions of a command line. -/
def Args.questions (args : Args) (inputs : List Input) : List PyStr :=
  if args.Opens then Cli.questions inputs else []

/-- What a process has asked when it stops. -/
structure Dialogue (args : Args) (inputs : List Input) (ending : Ending) (talk : Talk) : Prop where
  usage : ending = .exit 2 ↔ args.Missing
  lists : ending = .exit 0 → args.list = true
  exits : ∀ status, ending = .exit status → talk.asked = []
  reads : ending = .reading →
    talk.asked = args.questions inputs ∧ ∀ input ∈ inputs, input.stops = false
  stops : talk.Uninterrupted → ending = .returned →
    talk.asked = args.questions inputs ∧ ∃ input ∈ inputs, input.stops = true

section Main

variable {agent : CliAgent History Reply} {sqlite_path : PyStr} {args : Args}
  {inputs : List Input} {ending : Ending} {talk : Talk}

/-- A process that stops before the loop. -/
theorem Dialogue.of_exit {status : ℕ}
    (usage : status = 2 ↔ args.Missing)
    (lists : status = 0 → args.list = true) : Dialogue args inputs (.exit status) ⟨[], []⟩ where
  usage := by simpa using usage
  lists same := lists (by simpa using same)
  exits _ _ := rfl
  reads same := by simp at same
  stops _ same := by simp at same

theorem Dialogue.of_uncaught (given : ¬ args.Missing) :
    Dialogue args inputs .uncaught ⟨[], []⟩ where
  usage := iff_of_false (by simp) given
  lists same := by simp at same
  exits _ same := by simp at same
  reads same := by simp at same
  stops _ same := by simp at same

theorem Dialogue.of_stopped (opens : args.Opens)
    (stopped : Stopped inputs [] ending talk) : Dialogue args inputs ending talk where
  usage := iff_of_false (stopped.stays 2) fun missing => opens.2 missing.2
  lists same := absurd same (stopped.stays 0)
  exits status same := absurd same (stopped.stays status)
  reads same := by
    rw [Args.questions, if_pos opens]
    exact stopped.reads same
  stops uninterrupted same := by
    rw [Args.questions, if_pos opens]
    exact stopped.stops uninterrupted same

theorem asks_main : (main agent sqlite_path args inputs).Within learnTalk
    (AsksIn (args.questions inputs)) (Dialogue args inputs) ⟨[], []⟩ := by
  refine within_main (quiet_asks _) (fun missing => ?_) (fun listing => ?_) fun opens => ?_
  · exact .of_exit (iff_of_true rfl missing) (by simp)
  · have given : ¬ args.Missing := fun missing => by simp [missing.1] at listing
    exact ⟨.of_uncaught given, .of_exit (iff_of_false (by simp) given) fun _ => listing⟩
  · have given : ¬ args.Missing := fun missing => opens.2 missing.2
    have failed : Dialogue args inputs (.exit 1) ⟨[], []⟩ :=
      .of_exit (iff_of_false (by simp) given) (by simp)
    refine within_sessionBranch (quiet_asks _) (.inl rfl) (fun _ => failed) fun session_id =>
      ⟨failed, .of_uncaught given, ?_⟩
    have whole : [] ++ questions inputs = args.questions inputs := by
      rw [Args.questions, if_pos opens, List.nil_append]
    exact Program.within_mono (asks_repl (threadId session_id) whole)
      fun _ _ stopped => Dialogue.of_stopped opens stopped

end Main

/-! ## Runs -/

section Runs

variable {ι : Type} [DecidableEq ι] {names : ι → PyStr}

/-- **A step is part of the talk of its own process.** -/
theorem machine_talks (i : ι) (moment : Moment Reply) (state : Machine ι History)
    (step : Step History) :
    (machine names i moment state step).2.talks =
      Function.update state.talks i ((state.talks i).after step) := by
  cases step with
  | invoke user_input => rfl
  | invoked outcome => rfl
  | putCheckpoint thread_id history =>
      have quiet : state.talks = Function.update state.talks i (state.talks i) :=
        (Function.update_eq_self i state.talks).symm
      unfold machine
      dsimp only
      split
      · exact quiet
      · exact quiet
  | _ => exact (Function.update_eq_self i state.talks).symm

/-- A step of the talk is answered at once. -/
theorem after_of_pending {i : ι} {moment : Moment Reply} {state : Machine ι History}
    {step : Step History} (waits : (machine names i moment state step).1 = none) (talk : Talk) :
    talk.after step = talk := by
  cases step with
  | invoke user_input => cases waits
  | invoked outcome => cases waits
  | _ => rfl

/-- A process knows its talk, and has asked the beginning of its questions. -/
def askedSoFar (names : ι → PyStr) (all : ι → List PyStr) :
    Knowledge (machine names : Gradual ι _ (Step.Answer History Reply) _ _) Talk where
  learn _ := learnTalk
  allowed i := AsksIn (all i)
  Kind _ := True
  Holds i talk state := state.talks i = talk ∧ talk.asked <+: all i
  keeps {_} _ {_ _ _} _ _ _ := trivial
  answered {i} moment {state step talk} _ _ holds allowed _ := by
    rw [machine_talks i moment state step, Function.update_self, holds.1]
    refine ⟨rfl, ?_⟩
    rcases allowed with same | begins
    · exact same ▸ holds.2
    · exact begins
  pending {i} moment {state step talk} _ holds _ waits := by
    rw [machine_talks i moment state step, Function.update_self, after_of_pending waits]
    exact holds
  others {i j} moment {state step _ other} different _ _ _ holds := by
    rw [machine_talks i moment state step, Function.update_of_ne different]
    exact holds

/-- **A process asks its questions in order, and stops for a line that says so.** At every moment
of a run of any number of processes, what a process has asked is the beginning of its questions.
When it has stopped, it has asked none of them if it exits with a status, and all of them if it
waits for a line, or returns and its agent was not interrupted in the run. -/
theorem asked_questions (agent : CliAgent History Reply) (sqlite_path : PyStr)
    (commands : ι → Args × List Input) (file : Option (Table sessions))
    (checkpoints : PyStr → Option History) (turns : List (ι × Moment Reply)) :
    let pool := Turns.execute (Pool.advance (machine (sessionNames commands)))
      (processes agent sqlite_path commands file checkpoints) turns
    ∀ i, (pool.state.talks i).asked <+: (commands i).1.questions (commands i).2 ∧
      ∀ ending, pool.threads i = .ret ending →
        Dialogue (commands i).1 (commands i).2 ending (pool.state.talks i) := by
  intro pool i
  have start : (processes agent sqlite_path commands file checkpoints).Informed
      (askedSoFar (sessionNames commands) fun i => (commands i).1.questions (commands i).2)
      fun i => Dialogue (commands i).1 (commands i).2 :=
    ⟨trivial, fun i => ⟨⟨[], []⟩, ⟨rfl, List.nil_prefix⟩, asks_main⟩⟩
  obtain ⟨talk, ⟨same, begins⟩, goes⟩ := (Pool.informed_execute start turns).threads i
  refine ⟨same ▸ begins, fun ending stopped => ?_⟩
  have ended : (Program.ret ending : CliProgram History Reply Ending).Within learnTalk
      (AsksIn ((commands i).1.questions (commands i).2))
      (Dialogue (commands i).1 (commands i).2) talk := stopped ▸ goes
  exact same ▸ ended

end Runs

end CarqnaAgent.Cli
