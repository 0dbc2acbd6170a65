import Mathlib
import CarqnaAgent.Foundations.Integers
import CarqnaAgent.Foundations.Observations
import CarqnaAgent.Foundations.Refinement
import CarqnaAgent.Foundations.StableFacts
import CarqnaAgent.Corpus.Permissions
import CarqnaAgent.Graph.McpTools

/-!
# The creation of the graph

`create_graph` takes the tools of the MCP server, the backend of the documents and three
prompts, and assembles two sub-agents and the agent above them.

**In every order of steps of any number of calls a graph is assembled in one moment of its
call, with tools that the server gave in the run and that are not empty; and once there are
tools, no call that begins later asks the server**, unless it has answered another call with
none (`graphs_created`).

`get_graph` keeps the first graph that is created. **A sequence of calls creates one graph at
most and asks the server until it gives tools, and never after; in a running loop a call
creates nothing** (`graph_kept`).
-/

set_option autoImplicit false

namespace CarqnaAgent.Graph

open Foundations Corpus

/-! ## Prompts -/

/-- `os.path.join` of two paths. -/
def pathJoin (first second : PyStr) : PyStr :=
  if py "/" <+: second then second
  else if first = [] ∨ py "/" <:+ first then first ++ second
  else first ++ py "/" ++ second

section Prompts

variable {Value : Type}

/-- `_load_prompt_from_file`. -/
def loadPromptFromFile (surroundings : Surroundings Value) (filename : PyStr) :
    Except Raised PyStr :=
  let promptsDir := (surroundings.environ (py "PROMPTS_DIR")).getD (py ".")
  let promptPath := pathJoin promptsDir filename
  if surroundings.pathExists promptPath then
    (surroundings.readText promptPath).map (PyStr.stripBy PyStr.isSpace)
  else
    .error (.fileNotFoundError (py "Prompt file not found at " ++ promptPath ++
      py ". Set PROMPTS_DIR environment variable if prompts are in a different directory."))

end Prompts

/-! ## The graph -/

/-- `SubAgent`. What it does not have of its own it has from the agent above it. -/
structure SubAgent (Tool : Type) where
  name : PyStr
  description : PyStr
  system_prompt : PyStr
  tools : Option (List Tool)
  permissions : Option (List FilesystemPermission)

/-- What `create_deep_agent` is given. -/
structure DeepAgent (Tool Checkpointer : Type) where
  model : PyStr
  tools : List Tool
  backend : InsuranceBackend
  system_prompt : PyStr
  subagents : List (SubAgent Tool)
  name : PyStr
  checkpointer : Option Checkpointer

section Graphs

variable {Value Tool Checkpointer : Type}

def carPriceAgent (tools : List Tool) (system_prompt : PyStr) : SubAgent Tool where
  name := py "car_price_expert"
  description := py "Expert at finding and comparing car prices using Autogeek OpenSearch service."
  system_prompt := system_prompt
  tools := some tools
  permissions := none

def insuranceAgent (system_prompt : PyStr) : SubAgent Tool where
  name := py "insurance_expert"
  description := py "Expert at answering auto insurance questions using state driver's license " ++
    py "handbooks from the filesystem."
  system_prompt := system_prompt
  tools := none
  permissions := some insurancePermissions

/-- `create_graph` after its `await`. -/
def assemble (surroundings : Surroundings Value) (checkpointer : Option Checkpointer)
    (tools : List Tool) : Except Raised (DeepAgent Tool Checkpointer) := do
  let insuranceBackend ← (createInsuranceBackend surroundings.toSystem
    surroundings.environ).mapError Raised.backend
  let carPricePrompt ← loadPromptFromFile surroundings (py "car_price_agent.md")
  let insurancePrompt ← loadPromptFromFile surroundings (py "insurance_agent.md")
  let mainPrompt ← loadPromptFromFile surroundings (py "main_agent.md")
  match surroundings.agentRefused with
  | some error => .error error
  | none =>
      return {
        model := (surroundings.environ (py "LLM_MODEL")).getD (py "claude-sonnet-4-5-20250929")
        tools := tools
        backend := insuranceBackend
        system_prompt := mainPrompt
        subagents := [carPriceAgent tools carPricePrompt, insuranceAgent insurancePrompt]
        name := py "Automobile Help Assistant"
        checkpointer := checkpointer }

/-- What `create_graph` does with the outcome of `_initialize_mcp_tools`. Nothing it looks at
is a global of the module. -/
def graphOf (checkpointer : Option Checkpointer) :
    Except Raised (List Tool) →
      GraphProgram Value Tool (Except Raised (DeepAgent Tool Checkpointer))
  | .error error => return .error error
  | .ok tools => do
      let surroundings ← lookAround
      return assemble surroundings checkpointer tools

/-- `create_graph`. -/
def createGraph (checkpointer : Option Checkpointer) :
    GraphProgram Value Tool (Except Raised (DeepAgent Tool Checkpointer)) := do
  let tools ← initializeMcpTools
  graphOf checkpointer tools

theorem exists_of_bind_eq_ok {α β : Type} {first : Except Raised α} {rest : α → Except Raised β}
    {value : β} (bound : (first >>= rest) = .ok value) :
    ∃ middle, first = .ok middle ∧ rest middle = .ok value := by
  cases first with
  | error error => cases bound
  | ok middle => exact ⟨middle, rfl, bound⟩

/-- A graph has the tools and the checkpointer it is assembled with. -/
theorem given_of_assemble {surroundings : Surroundings Value}
    {checkpointer : Option Checkpointer} {tools : List Tool} {graph : DeepAgent Tool Checkpointer}
    (assembled : assemble surroundings checkpointer tools = .ok graph) :
    graph.tools = tools ∧ graph.checkpointer = checkpointer := by
  obtain ⟨backend, -, assembled⟩ := exists_of_bind_eq_ok assembled
  obtain ⟨carPrice, -, assembled⟩ := exists_of_bind_eq_ok assembled
  obtain ⟨insurance, -, assembled⟩ := exists_of_bind_eq_ok assembled
  obtain ⟨main, -, assembled⟩ := exists_of_bind_eq_ok assembled
  cases refused : surroundings.agentRefused with
  | some error =>
      rw [refused] at assembled
      cases assembled
  | none =>
      rw [refused] at assembled
      cases assembled
      exact ⟨rfl, rfl⟩

theorem tools_of_assemble {surroundings : Surroundings Value}
    {checkpointer : Option Checkpointer} {tools : List Tool} {graph : DeepAgent Tool Checkpointer}
    (assembled : assemble surroundings checkpointer tools = .ok graph) : graph.tools = tools :=
  (given_of_assemble assembled).1

/-! ## What a call comes to -/

variable {checkpointer : Option Checkpointer} {graph : DeepAgent Tool Checkpointer}

/-- A call that has created a client. -/
def askServer (checkpointer : Option Checkpointer) (config : McpConfig Value) :
    GraphProgram Value Tool (Except Raised (DeepAgent Tool Checkpointer)) :=
  .call (.getTools config) fun
    | .error error => graphOf checkpointer (.error error)
    | .ok [] => graphOf checkpointer (.error (.runtimeError (py "No MCP tools available")))
    | .ok (tool :: tools) => graphOf checkpointer (.ok (tool :: tools))

/-- A call that has come to its `await`. -/
def proceed (checkpointer : Option Checkpointer) : Entered Value Tool →
    GraphProgram Value Tool (Except Raised (DeepAgent Tool Checkpointer))
  | .cached tools => graphOf checkpointer (.ok tools)
  | .failed error => graphOf checkpointer (.error error)
  | .client config => askServer checkpointer config

theorem createGraph_eq : @createGraph Value Tool Checkpointer checkpointer =
    .call .enter (proceed checkpointer) := by
  refine congrArg (Program.call _) (funext fun entered => ?_)
  cases entered with
  | cached tools => rfl
  | failed error => rfl
  | client config =>
      refine congrArg (Program.call _) (funext fun answered => ?_)
      cases answered with
      | error error => rfl
      | ok tools =>
          cases tools with
          | nil => rfl
          | cons tool tools => rfl

/-- **A graph is assembled in a moment of its call.** -/
theorem exists_assembled {weather : ℕ → GraphMoment Value Tool × Globals Value Tool}
    (created : ((createGraph checkpointer).run graphModule.observed weather ()).1 = .ok graph) :
    ∃ n, assemble (weather n).1.surroundings checkpointer graph.tools = .ok graph := by
  have assembled : ∀ {tools : List Tool} {later : ℕ → GraphMoment Value Tool × Globals Value Tool},
      ((graphOf checkpointer (.ok tools)).run graphModule.observed later ()).1 = .ok graph →
        assemble (later 0).1.surroundings checkpointer graph.tools = .ok graph := by
    intro tools later made
    change assemble (later 0).1.surroundings checkpointer tools = .ok graph at made
    rw [tools_of_assemble made]
    exact made
  cases entered : (graphModule.observed (weather 0) () .enter).1 with
  | cached tools =>
      rw [createGraph_eq, Program.run_call, entered] at created
      exact ⟨1, assembled created⟩
  | failed error =>
      rw [createGraph_eq, Program.run_call, entered] at created
      cases created
  | client config =>
      rw [createGraph_eq, Program.run_call, entered] at created
      change ((askServer checkpointer config).run graphModule.observed
        (fun n => weather (n + 1)) ()).1 = .ok graph at created
      rw [askServer, Program.run_call] at created
      cases answered : (graphModule.observed (weather 1) () (.getTools config)).1 with
      | error error =>
          rw [answered] at created
          cases created
      | ok tools =>
          rw [answered] at created
          cases tools with
          | nil => cases created
          | cons tool tools => exact ⟨2, assembled created⟩

/-- What a returned graph says of the globals. -/
def Supplied (outcome : Except Raised (DeepAgent Tool Checkpointer))
    (globals : Globals Value Tool) : Prop :=
  ∀ graph, outcome = .ok graph → graph.tools ≠ [] ∧ graph.tools ∈ globals.answers

theorem stable_cached : (@graphModule Value Tool).Stable Globals.Cached :=
  graphModule_cached

/-- There are tools, and the server gave them. -/
def Answered (tools : List Tool) (globals : Globals Value Tool) : Prop :=
  tools ≠ [] ∧ tools ∈ globals.answers

theorem stable_answered (tools : List Tool) :
    (@graphModule Value Tool).Stable (Answered tools) :=
  (Service.Stable.const _).and fun moment globals request answered =>
    (graphModule_answers moment globals request).subset answered

theorem graphOf_assures (tools : List Tool) :
    (@graphOf Value Tool Checkpointer checkpointer (.ok tools)).Assures graphModule Supplied
      (Answered tools) := by
  refine ⟨fun _ => Answered tools, fun _ => stable_answered tools, fun _ _ answered => answered,
    fun surroundings globals answered graph assembled => ?_⟩
  rw [tools_of_assemble assembled]
  exact answered

theorem graphOf_error_assures (error : Raised) (before : Globals Value Tool → Prop) :
    (graphOf checkpointer (.error error)).Assures graphModule Supplied before := by
  intro globals _ graph same
  cases same

theorem askServer_assures (config : McpConfig Value) :
    (@askServer Value Tool Checkpointer checkpointer config).Assures graphModule Supplied
      fun _ => True := by
  refine ⟨fun answer globals => ∀ tools, answer = .ok tools → tools ∈ globals.answers,
    fun answer => .all fun tools => .of_imp ?_, fun moment globals _ tools answered => ?_,
    fun answer => ?_⟩
  · exact fun moment globals request answered =>
      (graphModule_answers moment globals request).subset answered
  · change (globals.arrive moment.answered).1 = _ at answered
    change _ ∈ (globals.arrive moment.answered).2.answers
    cases came : moment.answered with
    | error error =>
        rw [came] at answered
        cases answered
    | ok other =>
        rw [came] at answered
        cases answered
        exact List.mem_append_right _ List.mem_cons_self
  · cases answer with
    | error error => exact graphOf_error_assures error _
    | ok tools =>
        cases tools with
        | nil => exact graphOf_error_assures _ _
        | cons tool tools =>
            exact (graphOf_assures (tool :: tools)).mono fun globals answered =>
              ⟨List.cons_ne_nil _ _, answered _ rfl⟩

/-- **A graph has tools that the server gave.** -/
theorem createGraph_assures :
    (@createGraph Value Tool Checkpointer checkpointer).Assures graphModule Supplied
      Globals.Cached := by
  rw [createGraph_eq]
  refine ⟨fun entered globals => ∀ tools, entered = .cached tools → Answered tools globals,
    fun entered => .all fun tools => .of_imp (stable_answered tools),
    fun moment globals cached tools entered => ?_, fun entered => ?_⟩
  · change (globals.enter moment.surroundings).1 = _ at entered
    change Answered tools (globals.enter moment.surroundings).2
    rcases globals.enter_cases moment.surroundings with
      ⟨some_tools, same⟩ | ⟨-, error, same⟩ | ⟨-, config, -, made⟩
    · rw [same] at entered ⊢
      cases entered
      exact ⟨some_tools, List.mem_of_getLast? (cached.getLast?_answers some_tools)⟩
    · rw [same] at entered
      cases entered
    · rw [made] at entered
      cases entered
  · cases entered with
    | cached tools => exact (graphOf_assures tools).mono fun globals answered => answered tools rfl
    | failed error => exact @graphOf_error_assures Value Tool Checkpointer checkpointer error _
    | client config => exact (askServer_assures config).mono fun _ _ => trivial

/-! ## Tools are loaded once -/

/-- The step asks the server for nothing. -/
def NotAsking : GraphRequest Value → Prop
  | .getTools _ => False
  | _ => True

theorem graphOf_notAsking (outcome : Except Raised (List Tool)) :
    (@graphOf Value Tool Checkpointer checkpointer outcome).Uses NotAsking := by
  cases outcome with
  | error error => trivial
  | ok tools => exact ⟨trivial, fun surroundings => trivial⟩

section Later

variable {ι : Type} [DecidableEq ι]
  {pool : Pool ι (GraphRequest Value) (GraphRequest.Response Value Tool)
    (Except Raised (DeepAgent Tool Checkpointer)) (Globals Value Tool)}
  {schedule : List (ι × GraphMoment Value Tool)}

theorem answers_execute :
    pool.state.answers <+: (pool.execute graphModule schedule).state.answers :=
  Pool.execute_keeps (fun globals => pool.state.answers <+: globals.answers)
    (fun moment globals request before => before.trans (graphModule_answers moment globals request))
    List.prefix_rfl schedule

/-- No empty list comes back between two states of the globals. -/
def NoneEmpty (before after : Globals Value Tool) : Prop :=
  ∀ new, after.answers = before.answers ++ new → [] ∉ new

/-- A step that brings back nothing empty keeps tools in the cache. -/
theorem mcp_tools_step {moment : GraphMoment Value Tool} {globals : Globals Value Tool}
    {request : GraphRequest Value} (some_tools : globals.mcp_tools ≠ [])
    (none_empty : NoneEmpty globals (graphModule moment globals request).2) :
    (graphModule moment globals request).2.mcp_tools ≠ [] := by
  cases request with
  | enter =>
      change (globals.enter moment.surroundings).2.mcp_tools ≠ []
      rcases globals.enter_cases moment.surroundings with
        ⟨-, same⟩ | ⟨empty, -⟩ | ⟨empty, -⟩
      · rw [same]
        exact some_tools
      · exact absurd empty some_tools
      · exact absurd empty some_tools
  | getTools config =>
      change NoneEmpty globals (globals.arrive moment.answered).2 at none_empty
      change (globals.arrive moment.answered).2.mcp_tools ≠ []
      cases came : moment.answered with
      | error error => exact some_tools
      | ok tools =>
          rw [came] at none_empty
          rintro (rfl : tools = [])
          exact none_empty [[]] rfl List.mem_cons_self
  | surroundings => exact some_tools

theorem NoneEmpty.split {before between after : Globals Value Tool}
    (none_empty : NoneEmpty before after) (first : before.answers <+: between.answers)
    (second : between.answers <+: after.answers) :
    NoneEmpty before between ∧ NoneEmpty between after := by
  obtain ⟨earlier, first⟩ := first
  obtain ⟨later, second⟩ := second
  have whole : [] ∉ earlier ++ later :=
    none_empty _ (by rw [← second, ← first, List.append_assoc])
  constructor
  · intro new split empty
    rw [← first, List.append_cancel_left_eq] at split
    exact whole (List.mem_append_left _ (split ▸ empty))
  · intro new split empty
    rw [← second, List.append_cancel_left_eq] at split
    exact whole (List.mem_append_right _ (split ▸ empty))

/-- The call has not begun, or asks the server for nothing any more. -/
def Idle (call : GraphProgram Value Tool (Except Raised (DeepAgent Tool Checkpointer))) : Prop :=
  (∃ checkpointer, call = createGraph checkpointer) ∨ call.Uses NotAsking

/-- While there are tools, the next step of an idle call asks for none, and leaves it idle. -/
theorem Idle.step {turn : ι × GraphMoment Value Tool} {request : GraphRequest Value}
    {next : request.Response Value Tool →
      GraphProgram Value Tool (Except Raised (DeepAgent Tool Checkpointer))}
    (moved : pool.threads turn.1 = .call request next) (idle : Idle (pool.threads turn.1))
    (some_tools : pool.state.mcp_tools ≠ []) :
    NotAsking request ∧ Idle ((pool.step graphModule turn).threads turn.1) := by
  rw [Pool.step_threads_self moved]
  rw [moved] at idle
  rcases idle with ⟨checkpointer, begun⟩ | quiet
  · rw [createGraph_eq] at begun
    cases begun
    refine ⟨trivial, .inr ?_⟩
    have cached : (pool.state.enter turn.2.surroundings).1 = .cached pool.state.mcp_tools := by
      rw [Globals.enter, if_pos some_tools]
    change (proceed checkpointer (pool.state.enter turn.2.surroundings).1).Uses NotAsking
    rw [cached]
    exact graphOf_notAsking (.ok pool.state.mcp_tools)
  · exact ⟨quiet.1, .inr (quiet.2 _)⟩

/-- **Once there are tools they stay, and a call that has not begun asks for none.** -/
theorem not_asked (some_tools : pool.state.mcp_tools ≠ [])
    (none_empty : NoneEmpty pool.state (pool.execute graphModule schedule).state) :
    (pool.execute graphModule schedule).state.mcp_tools ≠ [] ∧
      ∀ i, Idle (pool.threads i) → ∀ config,
        (i, .getTools config) ∉ pool.trace graphModule schedule := by
  induction schedule generalizing pool with
  | nil => exact ⟨some_tools, fun i idle config => List.not_mem_nil⟩
  | cons turn rest ih =>
      rw [Pool.execute_cons] at none_empty ⊢
      cases moved : pool.threads turn.1 with
      | ret outcome =>
          rw [Pool.step_ret moved] at none_empty ⊢
          rw [Pool.trace_cons_of_ret moved]
          exact ih some_tools none_empty
      | call request next =>
          have here : pool.state.answers <+: (pool.step graphModule turn).state.answers := by
            rw [Pool.step_state moved]
            exact graphModule_answers _ _ _
          obtain ⟨now, later⟩ := none_empty.split here answers_execute
          have still : (pool.step graphModule turn).state.mcp_tools ≠ [] := by
            rw [Pool.step_state moved] at now ⊢
            exact mcp_tools_step some_tools now
          obtain ⟨final, never⟩ := ih still later
          refine ⟨final, fun i idle config asked => ?_⟩
          rw [Pool.trace_cons_of_call moved] at asked
          by_cases mine : turn.1 = i
          · subst mine
            obtain ⟨quiet, after⟩ := idle.step moved some_tools
            rcases List.mem_cons.mp asked with first | asked
            · cases first
              exact quiet
            · exact never turn.1 after config asked
          · rcases List.mem_cons.mp asked with first | asked
            · cases first
              exact mine rfl
            · have kept : (pool.step graphModule turn).threads i = pool.threads i :=
                Pool.step_threads_of_ne (Ne.symm mine)
              exact never i (kept.symm ▸ idle) config asked

end Later

/-! ## The law of the calls -/

/-- **Every order of steps of calls of `create_graph`**, from a module just imported: the client
and the tools of the module are the last ones; a graph has tools that the server gave and is
assembled in one moment of its call; and while nothing empty comes back, tools that are there
stay, and a call that begins then asks the server for nothing. -/
theorem graphs_created {ι : Type} [DecidableEq ι] (checkpointers : ι → Option Checkpointer)
    (earlier later : List (ι × GraphMoment Value Tool)) :
    let start : Pool ι (GraphRequest Value) (GraphRequest.Response Value Tool)
        (Except Raised (DeepAgent Tool Checkpointer)) (Globals Value Tool) :=
      { threads := fun i => createGraph (checkpointers i), state := .imported Value Tool }
    let middle := start.execute graphModule earlier
    let final := middle.execute graphModule later
    final.state.Cached ∧
    (∀ i graph, final.threads i = .ret (.ok graph) →
      graph.tools ≠ [] ∧ graph.tools ∈ final.state.answers ∧
      ∃ moment, start.Moment graphModule (earlier ++ later) i moment ∧
        assemble moment.1.surroundings (checkpointers i) graph.tools = .ok graph) ∧
    (middle.state.mcp_tools ≠ [] → NoneEmpty middle.state final.state →
      final.state.mcp_tools ≠ [] ∧
      ∀ i, middle.threads i = createGraph (checkpointers i) → ∀ config,
        (i, .getTools config) ∉ middle.trace graphModule later) := by
  intro start middle final
  have whole : final = start.execute graphModule (earlier ++ later) :=
    (Pool.execute_append earlier later).symm
  refine ⟨?_, fun i graph returned => ?_, fun some_tools none_empty => ?_⟩
  · rw [whole]
    exact Pool.execute_keeps Globals.Cached graphModule_cached Globals.cached_imported _
  · rw [whole] at returned ⊢
    have supplied := Pool.assures_execute
      (@createGraph_assures Value Tool Checkpointer (checkpointers i)) stable_cached
      Globals.cached_imported _ returned
    obtain ⟨some_tools, answered⟩ := supplied graph rfl
    refine ⟨some_tools, answered, ?_⟩
    rcases Pool.exists_run_of_returned returned with done | ⟨weather, moments, ran⟩
    · change createGraph (checkpointers i) = _ at done
      rw [createGraph_eq] at done
      exact absurd done Program.call_ne_ret
    · obtain ⟨n, assembled⟩ := exists_assembled ran
      exact ⟨weather n, moments n, assembled⟩
  · obtain ⟨stay, never⟩ := not_asked some_tools none_empty
    exact ⟨stay, fun i begun => never i (.inl ⟨checkpointers i, begun⟩)⟩

/-! ## A call alone -/

theorem run_askServer_cases (config : McpConfig Value) (weather : ℕ → GraphMoment Value Tool)
    (globals : Globals Value Tool) :
    let ran := (askServer checkpointer config).run graphModule weather globals
    (∀ graph, ran.1 = .ok graph → graph.tools = ran.2.mcp_tools ∧ graph.tools ≠ []) ∧
      (ran.2.answers = globals.answers ∨
        ∃ tools, ran.2.answers = globals.answers ++ [tools]) := by
  intro ran
  have begun : ran = (askServer checkpointer config).run graphModule weather globals := rfl
  rw [askServer, Program.run_call] at begun
  cases came : (weather 0).answered with
  | error error =>
      have moved : graphModule (weather 0) globals (.getTools config) =
          (.error error, globals) := by
        rw [graphModule, came]
        rfl
      rw [moved] at begun
      rw [begun]
      exact ⟨fun graph same => (nomatch same), .inl rfl⟩
  | ok tools =>
      have moved : graphModule (weather 0) globals (.getTools config) = (.ok tools, { globals with
          mcp_tools := tools, answers := globals.answers ++ [tools] }) := by
        rw [graphModule, came]
        rfl
      rw [moved] at begun
      rw [begun]
      cases tools with
      | nil => exact ⟨fun graph same => (nomatch same), .inr ⟨[], rfl⟩⟩
      | cons tool tools =>
          exact ⟨fun graph assembled => ⟨tools_of_assemble assembled,
            (tools_of_assemble assembled).symm ▸ List.cons_ne_nil _ _⟩, .inr ⟨_, rfl⟩⟩

/-- **What a call alone does.** With tools in the cache it changes nothing. Without any it asks the
server once at most, and keeps the answer. -/
theorem run_createGraph_cases (weather : ℕ → GraphMoment Value Tool)
    (globals : Globals Value Tool) :
    let ran := (createGraph checkpointer).run graphModule weather globals
    (∀ graph, ran.1 = .ok graph → graph.tools = ran.2.mcp_tools ∧ graph.tools ≠ []) ∧
      ((globals.mcp_tools ≠ [] ∧ ran.2 = globals) ∨
        (globals.mcp_tools = [] ∧ ran.2.answers = globals.answers) ∨
        (globals.mcp_tools = [] ∧ ∃ tools, ran.2.answers = globals.answers ++ [tools])) := by
  intro ran
  have begun : ran = (createGraph checkpointer).run graphModule weather globals := rfl
  rw [createGraph_eq, Program.run_call] at begun
  rcases globals.enter_cases (weather 0).surroundings with
    ⟨some_tools, entered⟩ | ⟨no_tools, error, entered⟩ | ⟨no_tools, config, -, entered⟩
  · have moved : graphModule (weather 0) globals .enter =
        (.cached globals.mcp_tools, globals) := entered
    rw [moved] at begun
    rw [begun]
    exact ⟨fun graph assembled => ⟨tools_of_assemble assembled,
      (tools_of_assemble assembled).symm ▸ some_tools⟩, .inl ⟨some_tools, rfl⟩⟩
  · have moved : graphModule (weather 0) globals .enter = (.failed error, globals) := entered
    rw [moved] at begun
    rw [begun]
    exact ⟨fun graph same => (nomatch same), .inr (.inl ⟨no_tools, rfl⟩)⟩
  · have moved : graphModule (weather 0) globals .enter = (.client config, { globals with
        mcp_client := some config, clients := globals.clients ++ [config] }) := entered
    rw [moved] at begun
    obtain ⟨asked, made⟩ := @run_askServer_cases Value Tool Checkpointer checkpointer config
      (fun n => weather (n + 1))
      { globals with mcp_client := some config, clients := globals.clients ++ [config] }
    rw [begun]
    exact ⟨asked, .inr (made.imp (⟨no_tools, ·⟩) (⟨no_tools, ·⟩))⟩

end Graphs

/-! ## `get_graph` -/

section GetGraph

variable {Value Tool Checkpointer : Type}

/-- The module with the graph it keeps. -/
structure GraphProcess (Value Tool Checkpointer : Type) where
  globals : Globals Value Tool
  graph_instance : Option (DeepAgent Tool Checkpointer)

/-- `asyncio.run`, which refuses to run in a running loop. -/
def asyncioRun {α : Type} (inLoop : Bool) (program : GraphProgram Value Tool (Except Raised α))
    (weather : ℕ → GraphMoment Value Tool) (globals : Globals Value Tool) :
    Except Raised α × Globals Value Tool :=
  if inLoop then
    (.error (.runtimeError (py "asyncio.run() cannot be called from a running event loop")),
      globals)
  else program.run graphModule weather globals

/-- The text of the `RuntimeError` of the `try` block: its own in a running loop, that of
`asyncio.get_running_loop` outside. -/
def tryErrorText (inLoop : Bool) : PyStr :=
  if inLoop then
    py "Graph not yet initialized. Call create_graph() in async context instead."
  else py "no running event loop"

/-- `get_graph`. -/
def getGraph (inLoop : Bool) (weather : ℕ → GraphMoment Value Tool)
    (process : GraphProcess Value Tool Checkpointer) :
    Except Raised (DeepAgent Tool Checkpointer) × GraphProcess Value Tool Checkpointer :=
  match process.graph_instance with
  | some graph => (.ok graph, process)
  | none =>
      if PyStr.count (py "asyncio.run()") (tryErrorText inLoop) ≠ 0 then
        (.error (.runtimeError (tryErrorText inLoop)), process)
      else
        match asyncioRun inLoop (createGraph none) weather process.globals with
        | (.error error, globals) => (.error error, { process with globals := globals })
        | (.ok graph, globals) => (.ok graph, { globals := globals, graph_instance := some graph })

/-- Neither text names `asyncio.run()`, so neither is raised again. -/
theorem count_tryErrorText (inLoop : Bool) :
    PyStr.count (py "asyncio.run()") (tryErrorText inLoop) = 0 := by
  cases inLoop with
  | true => decide
  | false => decide

section Sequences

variable {process : GraphProcess Value Tool Checkpointer}

theorem getGraph_of_kept {graph : DeepAgent Tool Checkpointer}
    (kept : process.graph_instance = some graph) (inLoop : Bool)
    (weather : ℕ → GraphMoment Value Tool) :
    getGraph inLoop weather process = (.ok graph, process) := by
  rw [getGraph, kept]

/-- Before there is a graph, a call in a running loop raises and changes nothing. -/
theorem getGraph_inLoop (none_kept : process.graph_instance = none)
    (weather : ℕ → GraphMoment Value Tool) :
    ∃ error, getGraph true weather process = (.error error, process) := by
  obtain ⟨globals, graph_instance⟩ := process
  cases none_kept
  rw [getGraph]
  dsimp only
  rw [if_neg (not_not.mpr (count_tryErrorText true)), asyncioRun, if_pos rfl]
  exact ⟨_, rfl⟩

/-- Before there is a graph, a call elsewhere is one of `create_graph`. -/
theorem getGraph_outside (none_kept : process.graph_instance = none)
    (weather : ℕ → GraphMoment Value Tool) :
    let ran := (@createGraph Value Tool Checkpointer none).run graphModule weather
      process.globals
    (∃ graph, ran.1 = .ok graph ∧
      getGraph false weather process = (.ok graph, ⟨ran.2, some graph⟩)) ∨
    ∃ error, ran.1 = .error error ∧
      getGraph false weather process = (.error error, ⟨ran.2, none⟩) := by
  intro ran
  rw [getGraph, none_kept]
  dsimp only
  rw [if_neg (not_not.mpr (count_tryErrorText false)), asyncioRun, if_neg Bool.false_ne_true]
  cases outcome : ran.1 with
  | ok graph =>
      have whole : (createGraph none).run graphModule weather process.globals =
          (.ok graph, ran.2) := Prod.ext outcome rfl
      rw [whole]
      exact .inl ⟨graph, rfl, rfl⟩
  | error error =>
      have whole : (@createGraph Value Tool Checkpointer none).run graphModule weather
          process.globals = (.error error, ran.2) := Prod.ext outcome rfl
      rw [whole]
      exact .inr ⟨error, rfl, rfl⟩

/-- What calls of `get_graph` one after the other leave: the server gave tools last, if it
did at all, and a graph has these. -/
structure GraphProcess.Settled (process : GraphProcess Value Tool Checkpointer) : Prop where
  cached : process.globals.Cached
  before : ∀ tools ∈ process.globals.answers.dropLast, tools = []
  kept : ∀ graph, process.graph_instance = some graph →
    graph.tools = process.globals.mcp_tools ∧ graph.tools ≠ []

theorem GraphProcess.settled_imported :
    (⟨.imported Value Tool, none⟩ : GraphProcess Value Tool Checkpointer).Settled where
  cached := Globals.cached_imported
  before tools member := by cases member
  kept graph same := by cases same

theorem GraphProcess.Settled.all_empty (settled : process.Settled)
    (no_tools : process.globals.mcp_tools = []) :
    ∀ tools ∈ process.globals.answers, tools = [] := by
  have last := settled.cached.tools
  have before := settled.before
  rcases List.eq_nil_or_concat' process.globals.answers with none | ⟨earlier, tools, split⟩
  · rw [none]
    exact List.forall_mem_nil _
  · rw [split, List.getLast?_concat, Option.getD_some, no_tools] at last
    rw [split, List.dropLast_concat] at before
    rw [split]
    intro answer member
    rcases List.mem_append.mp member with earlier | member
    · exact before answer earlier
    · rw [List.mem_singleton.mp member, last]

/-- What a call of `create_graph` alone leaves of the answers. -/
theorem GraphProcess.Settled.before_run (settled : process.Settled)
    (weather : ℕ → GraphMoment Value Tool) :
    let ran := (@createGraph Value Tool Checkpointer none).run graphModule weather
      process.globals
    ran.2.Cached ∧ ∀ tools ∈ ran.2.answers.dropLast, tools = [] := by
  intro ran
  refine ⟨Program.run_invariant Globals.Cached graphModule_cached _ weather settled.cached, ?_⟩
  rcases (@run_createGraph_cases Value Tool Checkpointer none weather
    process.globals).2 with ⟨-, same⟩ | ⟨-, same⟩ | ⟨no_tools, tools, asked⟩
  · rw [same]
    exact settled.before
  · rw [same]
    exact settled.before
  · rw [asked, List.dropLast_concat]
    exact settled.all_empty no_tools

/-- **Every call leaves the process settled.** -/
theorem GraphProcess.Settled.getGraph (settled : process.Settled) (inLoop : Bool)
    (weather : ℕ → GraphMoment Value Tool) :
    (getGraph inLoop weather process).2.Settled := by
  cases kept : process.graph_instance with
  | some graph =>
      rw [getGraph_of_kept kept]
      exact settled
  | none =>
      cases inLoop with
      | true =>
          obtain ⟨error, raised⟩ := getGraph_inLoop kept weather
          rw [raised]
          exact settled
      | false =>
          obtain ⟨cached, before⟩ := settled.before_run weather
          rcases getGraph_outside kept weather with
            ⟨graph, created, returned⟩ | ⟨error, failed, raised⟩
          · rw [returned]
            refine ⟨cached, before, fun other same => ?_⟩
            cases same
            exact (run_createGraph_cases weather process.globals).1 graph created
          · rw [raised]
            exact ⟨cached, before, fun other same => by cases same⟩

end Sequences

/-- Calls of `get_graph` one after the other, each in a running loop or not. -/
def getGraphs : List (Bool × (ℕ → GraphMoment Value Tool)) →
    GraphProcess Value Tool Checkpointer →
    List (Except Raised (DeepAgent Tool Checkpointer)) × GraphProcess Value Tool Checkpointer :=
  Refinement.run fun call process => getGraph call.1 call.2 process

section Runs

variable (calls : List (Bool × (ℕ → GraphMoment Value Tool)))
  {process : GraphProcess Value Tool Checkpointer}

theorem getGraphs_cons (call : Bool × (ℕ → GraphMoment Value Tool)) :
    getGraphs (call :: calls) process =
      ((getGraph call.1 call.2 process).1 :: (getGraphs calls (getGraph call.1 call.2 process).2).1,
        (getGraphs calls (getGraph call.1 call.2 process).2).2) := rfl

theorem getGraphs_settled (settled : process.Settled) : (getGraphs calls process).2.Settled := by
  induction calls generalizing process with
  | nil => exact settled
  | cons call calls ih => exact ih (settled.getGraph call.1 call.2)

/-- A graph that is there is returned ever after. -/
theorem getGraphs_of_kept {graph : DeepAgent Tool Checkpointer}
    (kept : process.graph_instance = some graph) :
    getGraphs calls process = (calls.map fun _ => .ok graph, process) := by
  induction calls with
  | nil => rfl
  | cons call calls ih =>
      rw [getGraphs_cons, getGraph_of_kept kept, ih]
      rfl

/-- A call returns the graph that is there after it, or fails and there is none. -/
theorem getGraph_cases (none_kept : process.graph_instance = none) (inLoop : Bool)
    (weather : ℕ → GraphMoment Value Tool) :
    (∃ graph, (getGraph inLoop weather process).1 = .ok graph ∧
      (getGraph inLoop weather process).2.graph_instance = some graph) ∨
    ∃ error, (getGraph inLoop weather process).1 = .error error ∧
      (getGraph inLoop weather process).2.graph_instance = none := by
  cases inLoop with
  | true =>
      obtain ⟨error, raised⟩ := getGraph_inLoop none_kept weather
      rw [raised]
      exact .inr ⟨error, rfl, none_kept⟩
  | false =>
      rcases getGraph_outside none_kept weather with ⟨graph, -, returned⟩ | ⟨error, -, raised⟩
      · rw [returned]
        exact .inl ⟨graph, rfl, rfl⟩
      · rw [raised]
        exact .inr ⟨error, rfl, rfl⟩

theorem getGraphs_split :
    ∃ (failed : List Raised) (kept : List (Except Raised (DeepAgent Tool Checkpointer))),
      (getGraphs calls process).1 = failed.map .error ++ kept ∧
      ∀ outcome ∈ kept, ∃ graph, outcome = .ok graph ∧
        (getGraphs calls process).2.graph_instance = some graph := by
  induction calls generalizing process with
  | nil => exact ⟨[], [], rfl, List.forall_mem_nil _⟩
  | cons call calls ih =>
      cases there : process.graph_instance with
      | some graph =>
          rw [getGraphs_of_kept _ there]
          refine ⟨[], (call :: calls).map fun _ => .ok graph, rfl, fun outcome member => ?_⟩
          obtain ⟨_, -, rfl⟩ := List.mem_map.mp member
          exact ⟨graph, rfl, there⟩
      | none =>
          rw [getGraphs_cons]
          rcases getGraph_cases there call.1 call.2 with
            ⟨graph, returned, now⟩ | ⟨error, raised, none⟩
          · rw [returned, getGraphs_of_kept _ now]
            refine ⟨[], _, rfl, fun outcome member => ⟨graph, ?_, now⟩⟩
            rcases List.mem_cons.mp member with first | later
            · exact first
            · obtain ⟨_, -, rfl⟩ := List.mem_map.mp later
              rfl
          · obtain ⟨failed, kept, split, all⟩ := @ih (getGraph call.1 call.2 process).2
            exact ⟨error :: failed, kept, by rw [raised, split]; rfl, all⟩

/-- **Calls in a running loop leave nothing behind.** -/
theorem getGraphs_filter :
    (getGraphs calls process).2 = (getGraphs (calls.filter fun call => !call.1) process).2 := by
  induction calls generalizing process with
  | nil => rfl
  | cons call calls ih =>
      obtain ⟨inLoop, weather⟩ := call
      cases inLoop with
      | false => exact ih
      | true =>
          change (getGraphs calls (getGraph true weather process).2).2 =
            (getGraphs (calls.filter fun call => !call.1) process).2
          have same : (getGraph true weather process).2 = process := by
            cases kept : process.graph_instance with
            | some graph => rw [getGraph_of_kept kept]
            | none =>
                obtain ⟨error, raised⟩ := getGraph_inLoop kept weather
                rw [raised]
          rw [same]
          exact ih

end Runs

/-- **Any calls of `get_graph` one after the other**, from a module just imported (the first of
them is the one the import makes). They fail, up to the first that creates a graph; it and all
later ones return that graph. It has the tools that the server gave last, and before those it gave
none. Calls in a running loop create nothing: without them the module ends up the same. -/
theorem graph_kept (calls : List (Bool × (ℕ → GraphMoment Value Tool))) :
    let start : GraphProcess Value Tool Checkpointer := ⟨.imported Value Tool, none⟩
    let ran := getGraphs calls start
    (∃ (failed : List Raised) (kept : List (Except Raised (DeepAgent Tool Checkpointer))),
      ran.1 = failed.map .error ++ kept ∧
      ∀ outcome ∈ kept, ∃ graph, outcome = .ok graph ∧ ran.2.graph_instance = some graph) ∧
    (∀ graph, ran.2.graph_instance = some graph →
      graph.tools ≠ [] ∧ ran.2.globals.answers.getLast? = some graph.tools) ∧
    (∀ tools ∈ ran.2.globals.answers.dropLast, tools = []) ∧
    ran.2 = (getGraphs (calls.filter fun call => !call.1) start).2 := by
  intro start ran
  have settled : ran.2.Settled := getGraphs_settled calls GraphProcess.settled_imported
  refine ⟨getGraphs_split calls, fun graph kept => ?_, settled.before, getGraphs_filter calls⟩
  obtain ⟨same, some_tools⟩ := settled.kept graph kept
  refine ⟨some_tools, ?_⟩
  rw [same] at some_tools ⊢
  exact settled.cached.getLast?_answers some_tools

end GetGraph

end CarqnaAgent.Graph
