import Mathlib
import CarqnaAgent.Foundations.Dicts
import CarqnaAgent.Foundations.Programs
import CarqnaAgent.Corpus.InsuranceBackend

/-!
# The tools of the MCP server

`_initialize_mcp_tools` of `src/agent/graph.py` reads a configuration, creates a client for
it and asks that for its tools. The client and the tools are globals of the module, and a
call that finds tools there returns them.

A call has one `await`. What it does before and what it does after are one step each, and
steps of other calls come between (`GraphRequest`). So the globals, with what the server was
asked and has answered, are a state that every order of steps keeps `Cached`: **the client is
the one created last, the tools are the ones answered last**.
-/

set_option autoImplicit false

namespace CarqnaAgent.Graph

open Foundations Corpus

/-! ## The configuration -/

/-- A value in the entry of a server: a string, the factory the code puts there, or anything
else. -/
inductive Setting (Value : Type) where
  | str (text : PyStr)
  | httpxClientFactory
  | other (value : Value)

/-- The entry of a server. -/
inductive Entry (Value : Type) where
  | dict (settings : Dict PyStr (Setting Value))
  | other (value : Value)

/-- What `json.load` gives: a dictionary, or a value of another type. -/
inductive Document (Value : Type) where
  | dict (entries : Dict PyStr (Entry Value))
  | other (typeName : PyStr) (truthy : Bool)

/-- A configuration of servers. -/
abbrev McpConfig (Value : Type) := Dict PyStr (Entry Value)

/-- What a call can raise. -/
inductive Raised where
  | fileNotFoundError (text : PyStr)
  | valueError (text : PyStr)
  | typeError (text : PyStr)
  | attributeError (text : PyStr)
  | runtimeError (text : PyStr)
  /-- Raised by `_create_insurance_backend`. -/
  | backend (error : CreationError)
  /-- Raised by a library. -/
  | other (text : PyStr)
  deriving DecidableEq

/-- What the module finds around it at one moment. -/
structure Surroundings (Value : Type) extends System where
  environ : Environ
  /-- `open` and `json.load`. -/
  loadJson : PyStr → Except Raised (Document Value)
  /-- `open` and `read`. -/
  readText : PyStr → Except Raised PyStr
  /-- What the constructor of the client raises, if it does. -/
  clientRefused : Option Raised
  /-- What `create_deep_agent` raises, if it does. -/
  agentRefused : Option Raised

section Configuration

variable {Value : Type}

/-- `bool(config)`. -/
def Document.truthy : Document Value → Bool
  | .dict entries => !entries.items.isEmpty
  | .other _ truthy => truthy

/-- `_load_mcp_config`. -/
def loadMcpConfig (surroundings : Surroundings Value) : Except Raised (Document Value) :=
  match surroundings.environ (py "MCP_CONFIG_PATH") with
  | none => .error (.typeError (py "expected str, bytes or os.PathLike object, not NoneType"))
  | some path =>
      let mcpConfigPath := surroundings.expanduser path
      if surroundings.pathExists mcpConfigPath then
        match surroundings.loadJson mcpConfigPath with
        | .error error => .error error
        | .ok config =>
            if config.truthy then .ok config
            else .error (.valueError (py "MCP config is empty"))
      else .error (.fileNotFoundError (py "MCP config not found at " ++ mcpConfigPath))

/-- `transport in ("streamable_http", "sse")`. -/
def Setting.isHttp : Setting Value → Bool
  | .str text => decide (text = py "streamable_http") || decide (text = py "sse")
  | _ => false

/-- The body of the loop over `config.values()`. -/
def Entry.withFactory : Entry Value → Entry Value
  | .dict settings =>
      if (settings.get? (py "transport")).any Setting.isHttp then
        .dict (settings.set (py "httpx_client_factory") .httpxClientFactory)
      else .dict settings
  | .other value => .other value

/-- The configuration a client is created for. -/
def clientConfig (surroundings : Surroundings Value) : Except Raised (McpConfig Value) :=
  match loadMcpConfig surroundings with
  | .error error => .error error
  | .ok (.other typeName _) =>
      .error (.attributeError (py "'" ++ typeName ++ py "' object has no attribute 'values'"))
  | .ok (.dict entries) => .ok (entries.mapValues Entry.withFactory)

end Configuration

/-! ## The steps of a call -/

/-- The globals of the module, and what was asked of the server and came back. -/
structure Globals (Value Tool : Type) where
  mcp_client : Option (McpConfig Value)
  mcp_tools : List Tool
  clients : List (McpConfig Value)
  answers : List (List Tool)

/-- The globals of a module just imported. -/
def Globals.imported (Value Tool : Type) : Globals Value Tool := ⟨none, [], [], []⟩

/-- A step: a call up to its `await`, a call from there on, a look at the surroundings. -/
inductive GraphRequest (Value : Type) where
  | enter
  | getTools (config : McpConfig Value)
  | surroundings

/-- How a call comes to its `await`. -/
inductive Entered (Value Tool : Type) where
  | cached (tools : List Tool)
  | failed (error : Raised)
  | client (config : McpConfig Value)

/-- What a step is answered. -/
abbrev GraphRequest.Response (Value Tool : Type) : GraphRequest Value → Type
  | .enter => Entered Value Tool
  | .getTools _ => Except Raised (List Tool)
  | .surroundings => Surroundings Value

/-- A moment: the surroundings, and what the server answers. -/
structure GraphMoment (Value Tool : Type) where
  surroundings : Surroundings Value
  answered : Except Raised (List Tool)

section Steps

variable {Value Tool : Type}

/-- A call up to its `await`. -/
def Globals.enter (surroundings : Surroundings Value) (globals : Globals Value Tool) :
    Entered Value Tool × Globals Value Tool :=
  if globals.mcp_tools ≠ [] then (.cached globals.mcp_tools, globals)
  else
    match clientConfig surroundings with
    | .error error => (.failed error, globals)
    | .ok config =>
        match surroundings.clientRefused with
        | some error => (.failed error, globals)
        | none =>
            (.client config,
              { globals with mcp_client := some config, clients := globals.clients ++ [config] })

/-- `_mcp_tools = await _mcp_client.get_tools()`. -/
def Globals.arrive (answered : Except Raised (List Tool)) (globals : Globals Value Tool) :
    Except Raised (List Tool) × Globals Value Tool :=
  match answered with
  | .error error => (.error error, globals)
  | .ok tools =>
      (.ok tools, { globals with mcp_tools := tools, answers := globals.answers ++ [tools] })

/-- The module: the steps on its globals. -/
def graphModule : Service (GraphRequest Value) (GraphRequest.Response Value Tool)
    (Globals Value Tool) (GraphMoment Value Tool) :=
  fun moment globals request =>
    match request with
    | .enter => globals.enter moment.surroundings
    | .getTools _ => globals.arrive moment.answered
    | .surroundings => (moment.surroundings, globals)

/-- A call of something in the module. -/
abbrev GraphProgram (Value Tool α : Type) :=
  Program (GraphRequest Value) (GraphRequest.Response Value Tool) α

def enter : GraphProgram Value Tool (Entered Value Tool) := .call .enter .ret

def getTools (config : McpConfig Value) : GraphProgram Value Tool (Except Raised (List Tool)) :=
  .call (.getTools config) .ret

def lookAround : GraphProgram Value Tool (Surroundings Value) := .call .surroundings .ret

/-- `_initialize_mcp_tools`. -/
def initializeMcpTools : GraphProgram Value Tool (Except Raised (List Tool)) := do
  match ← enter with
  | .cached tools => return .ok tools
  | .failed error => return .error error
  | .client config =>
      match ← getTools config with
      | .error error => return .error error
      | .ok [] => return .error (.runtimeError (py "No MCP tools available"))
      | .ok tools => return .ok tools

end Steps

/-! ## The invariant -/

section Invariant

variable {Value Tool : Type}

/-- The globals are the last of what was created and of what came back. -/
structure Globals.Cached (globals : Globals Value Tool) : Prop where
  client : globals.mcp_client = globals.clients.getLast?
  tools : globals.mcp_tools = globals.answers.getLast?.getD []

/-- Tools that are there are the last answer. -/
theorem Globals.Cached.getLast?_answers {globals : Globals Value Tool} (cached : globals.Cached)
    (some_tools : globals.mcp_tools ≠ []) :
    globals.answers.getLast? = some globals.mcp_tools := by
  rw [cached.tools] at some_tools ⊢
  cases last : globals.answers.getLast? with
  | none =>
      rw [last] at some_tools
      exact absurd rfl some_tools
  | some tools => rfl

theorem Globals.cached_imported : (Globals.imported Value Tool).Cached := ⟨rfl, rfl⟩

/-- What a call up to its `await` does: a cache with tools is returned as it is; without any, a
client is made for the configuration, or the call fails and nothing changes. -/
theorem Globals.enter_cases (surroundings : Surroundings Value) (globals : Globals Value Tool) :
    (globals.mcp_tools ≠ [] ∧
      globals.enter surroundings = (.cached globals.mcp_tools, globals)) ∨
    (globals.mcp_tools = [] ∧ ∃ error,
      globals.enter surroundings = (.failed error, globals)) ∨
    (globals.mcp_tools = [] ∧ ∃ config, clientConfig surroundings = .ok config ∧
      globals.enter surroundings =
        (.client config,
          { globals with mcp_client := some config, clients := globals.clients ++ [config] })) := by
  by_cases tools : globals.mcp_tools = []
  · rw [enter, if_neg (not_not.mpr tools)]
    cases configured : clientConfig surroundings with
    | error error => exact .inr (.inl ⟨tools, error, rfl⟩)
    | ok config =>
        cases surroundings.clientRefused with
        | some error => exact .inr (.inl ⟨tools, error, rfl⟩)
        | none => exact .inr (.inr ⟨tools, config, rfl, rfl⟩)
  · exact .inl ⟨tools, if_pos tools⟩

/-- **Every step keeps the cache.** -/
theorem graphModule_cached (moment : GraphMoment Value Tool) (globals : Globals Value Tool)
    (request : GraphRequest Value) (cached : globals.Cached) :
    (graphModule moment globals request).2.Cached := by
  cases request with
  | enter =>
      change (globals.enter moment.surroundings).2.Cached
      rcases globals.enter_cases moment.surroundings with
        ⟨-, same⟩ | ⟨-, error, same⟩ | ⟨-, config, -, made⟩
      · rw [same]
        exact cached
      · rw [same]
        exact cached
      · rw [made]
        exact ⟨List.getLast?_concat.symm, cached.tools⟩
  | getTools config =>
      change (globals.arrive moment.answered).2.Cached
      cases answered : moment.answered with
      | error error => exact cached
      | ok tools =>
          refine ⟨cached.client, ?_⟩
          change tools = (globals.answers ++ [tools]).getLast?.getD []
          rw [List.getLast?_concat, Option.getD_some]
  | surroundings => exact cached

/-- Nothing that came back is forgotten. -/
theorem graphModule_answers (moment : GraphMoment Value Tool) (globals : Globals Value Tool)
    (request : GraphRequest Value) :
    globals.answers <+: (graphModule moment globals request).2.answers := by
  cases request with
  | enter =>
      change _ <+: (globals.enter moment.surroundings).2.answers
      rcases globals.enter_cases moment.surroundings with
        ⟨-, same⟩ | ⟨-, error, same⟩ | ⟨-, config, -, made⟩
      · rw [same]
      · rw [same]
      · rw [made]
  | getTools config =>
      change _ <+: (globals.arrive moment.answered).2.answers
      cases moment.answered with
      | error error => exact List.prefix_rfl
      | ok tools => exact List.prefix_append _ _
  | surroundings => exact List.prefix_rfl

end Invariant

end CarqnaAgent.Graph
