import Mathlib
import CarqnaAgent.Foundations.LocalPrograms

/-!
# Threads with a state of their own over a shared one

A thread issues requests to itself and requests to a shared service, and both kinds are steps
of an interleaving. What a thread answers itself depends on its own state and on the weather
of its own turns, so **in a run its own steps can be resolved ahead: what is left is a
program that issues the shared requests, and waits where the thread was busy with itself**
(`execute_resolve`).

A resolved program may be behind a program without waits: it does what that one does, with
waits in between and an early end. **A run of programs that are behind others is a run of the
others** (`execute_behind`).
-/

set_option autoImplicit false

namespace Foundations

variable {L S : Type} {LR : L → Type} {SR : S → Type} {α β τ σ ω ι : Type}

/-! ## Two services -/

/-- Each thread answers its own requests from its own state, the shared service the others. -/
def Service.layered [DecidableEq ι] (own : Service L LR τ ω) (shared : Service S SR σ ω) :
    Service (ι × (L ⊕ S)) (fun request => Sum.elim LR SR request.2) ((ι → τ) × σ) ω :=
  fun weather state request =>
    match request with
    | (i, .inl step) =>
        ((own weather (state.1 i) step).1,
          (Function.update state.1 i (own weather (state.1 i) step).2, state.2))
    | (_, .inr step) =>
        ((shared weather state.2 step).1, (state.1, (shared weather state.2 step).2))

/-- The shared service, and a request that waits. -/
def Service.waiting (shared : Service S SR σ ω) :
    Service (Option S) (fun request => request.elim Unit SR) σ ω :=
  fun weather state request =>
    match request with
    | none => ((), state)
    | some step => shared weather state step

/-- Threads side by side, over their own states and the shared one. -/
def Pool.layered (programs : ι → Program (L ⊕ S) (Sum.elim LR SR) α) (states : ι → τ) (state : σ) :
    Pool ι (ι × (L ⊕ S)) (fun request => Sum.elim LR SR request.2) α ((ι → τ) × σ) where
  threads i := (programs i).located i
  state := (states, state)

namespace Program

/-- The program with its own steps resolved in the weather of its turns. Where these end in
the middle of an own step, so does the program. -/
def resolve (own : Service L LR τ ω) :
    Program (L ⊕ S) (Sum.elim LR SR) α → List ω → τ →
      Program (Option S) (fun request => request.elim Unit SR) (Option α)
  | .ret value, _, _ => .ret (some value)
  | .call (.inl _) _, [], _ => .ret none
  | .call (.inl step) next, weather :: turns, state =>
      .call none fun _ =>
        (next (own weather state step).1).resolve own turns (own weather state step).2
  | .call (.inr step) next, turns, state =>
      .call (some step) fun answer => (next answer).resolve own turns.tail state

end Program

/-- The weather of the turns of a thread. -/
def turnsOf [DecidableEq ι] (schedule : List (ι × ω)) (i : ι) : List ω :=
  (schedule.filter fun turn => decide (turn.1 = i)).map Prod.snd

/-- The resolved programs side by side, for a schedule to come. -/
def Pool.resolved [DecidableEq ι] (own : Service L LR τ ω)
    (programs : ι → Program (L ⊕ S) (Sum.elim LR SR) α) (states : ι → τ) (state : σ)
    (schedule : List (ι × ω)) :
    Pool ι (Option S) (fun request => request.elim Unit SR) (Option α) σ where
  threads i := (programs i).resolve own (turnsOf schedule i) (states i)
  state := state

/-- The shared requests among those of a layered pool. -/
def sharedOnly (trace : List (ι × (ι × (L ⊕ S)))) : List (ι × S) :=
  trace.filterMap fun entry => entry.2.2.getRight?.map (entry.1, ·)

/-- The requests among those of a pool that waits. -/
def busyOnly (trace : List (ι × Option S)) : List (ι × S) :=
  trace.filterMap fun entry => entry.2.map (entry.1, ·)

theorem mem_sharedOnly {trace : List (ι × (ι × (L ⊕ S)))} {i : ι} {step : S} :
    (i, step) ∈ sharedOnly trace ↔ ∃ j, (i, (j, .inr step)) ∈ trace := by
  simp only [sharedOnly, List.mem_filterMap, Option.map_eq_some_iff, Prod.mk.injEq,
    Sum.getRight?_eq_some_iff]
  constructor
  · rintro ⟨⟨first, second, asked⟩, member, found, rfl, rfl, rfl⟩
    exact ⟨second, member⟩
  · rintro ⟨j, member⟩
    exact ⟨_, member, step, rfl, rfl, rfl⟩

theorem mem_busyOnly {trace : List (ι × Option S)} {i : ι} {step : S} :
    (i, step) ∈ busyOnly trace ↔ (i, some step) ∈ trace := by
  simp only [busyOnly, List.mem_filterMap, Option.map_eq_some_iff, Prod.mk.injEq]
  constructor
  · rintro ⟨⟨first, asked⟩, member, found, rfl, rfl, rfl⟩
    exact member
  · intro member
    exact ⟨_, member, step, rfl, rfl, rfl⟩

/-! ## Turns -/

section Turns

variable [DecidableEq ι]

@[simp] theorem turnsOf_nil (i : ι) : turnsOf ([] : List (ι × ω)) i = [] := rfl

theorem turnsOf_cons_self (turn : ι × ω) (rest : List (ι × ω)) :
    turnsOf (turn :: rest) turn.1 = turn.2 :: turnsOf rest turn.1 := by
  simp [turnsOf]

theorem turnsOf_cons_of_ne {turn : ι × ω} {i : ι} (other : i ≠ turn.1) (rest : List (ι × ω)) :
    turnsOf (turn :: rest) i = turnsOf rest i := by
  simp [turnsOf, Ne.symm other]

/-- The turns of a thread that is kept are kept. -/
theorem turnsOf_filter {kept : ι → Prop} [DecidablePred kept] {i : ι} (inside : kept i)
    (schedule : List (ι × ω)) :
    turnsOf (schedule.filter fun turn => kept turn.1) i = turnsOf schedule i := by
  rw [turnsOf, turnsOf, List.filter_filter]
  refine congrArg _ (List.filter_congr fun turn _ => ?_)
  by_cases here : turn.1 = i
  · simp [here, inside]
  · simp [here]

end Turns

/-! ## Resolution -/

namespace Program

theorem located_eq_ret_iff {Req : Type} {Resp : Req → Type} {i : ι} {program : Program Req Resp α}
    {value : α} : program.located i = .ret value ↔ program = .ret value := by
  cases program with
  | ret other => simp [located]
  | call request next => simp [located]

/-- With no turns left a program has returned when it is resolved to a value. -/
theorem resolve_nil_eq_ret_iff {own : Service L LR τ ω}
    {program : Program (L ⊕ S) (Sum.elim LR SR) α} {state : τ} {value : α} :
    program.resolve own [] state = .ret (some value) ↔ program = .ret value := by
  cases program with
  | ret other => simp [resolve]
  | call request next =>
      cases request with
      | inl step => simp [resolve]
      | inr step => simp [resolve]

end Program

section Resolution

variable {own : Service L LR τ ω} {shared : Service S SR σ ω}
  {programs : ι → Program (L ⊕ S) (Sum.elim LR SR) α} {turn : ι × ω}

theorem Pool.layered_threads_ret {value : α} (returned : programs turn.1 = .ret value)
    (states : ι → τ) (state : σ) :
    (Pool.layered programs states state).threads turn.1 = .ret value := by
  simp only [Pool.layered, returned, Program.located]

variable [DecidableEq ι]

theorem Pool.resolved_threads_ret {value : α} (returned : programs turn.1 = .ret value)
    (own : Service L LR τ ω) (states : ι → τ) (state : σ) (schedule : List (ι × ω)) :
    (Pool.resolved own programs states state schedule).threads turn.1 = .ret (some value) := by
  simp only [Pool.resolved, returned, Program.resolve]

/-- A turn of a thread that has returned is none of a resolved pool. -/
theorem Pool.resolved_cons_of_ret {value : α} (returned : programs turn.1 = .ret value)
    (states : ι → τ) (state : σ) (rest : List (ι × ω)) :
    Pool.resolved own programs states state (turn :: rest) =
      Pool.resolved own programs states state rest := by
  simp only [Pool.resolved]
  congr 1
  funext i
  by_cases here : i = turn.1
  · subst here
    simp only [returned, Program.resolve]
  · rw [turnsOf_cons_of_ne here]

section OwnStep

variable {step : L} {next : LR step → Program (L ⊕ S) (Sum.elim LR SR) α}
  (moved : programs turn.1 = .call (.inl step) next) (states : ι → τ) (state : σ)
include moved

omit [DecidableEq ι] in
theorem Pool.layered_calls_own :
    (Pool.layered programs states state).threads turn.1 =
      .call (turn.1, .inl step) fun answer => (next answer).located turn.1 := by
  simp only [Pool.layered, moved, Program.located]

theorem Pool.resolved_waits (rest : List (ι × ω)) :
    (Pool.resolved own programs states state (turn :: rest)).threads turn.1 =
      .call none fun _ => (next (own turn.2 (states turn.1) step).1).resolve own
        (turnsOf rest turn.1) (own turn.2 (states turn.1) step).2 := by
  simp only [Pool.resolved, moved, turnsOf_cons_self, Program.resolve]

/-- An own step of a thread moves the thread and its state. -/
theorem Pool.layered_step_own :
    (Pool.layered programs states state).step (own.layered shared) turn =
      Pool.layered (Function.update programs turn.1 (next (own turn.2 (states turn.1) step).1))
        (Function.update states turn.1 (own turn.2 (states turn.1) step).2) state := by
  simp only [Pool.step, Pool.layered, moved, Program.located, Service.layered]
  congr 1
  funext i
  by_cases here : i = turn.1
  · subst here
    simp only [Function.update_self]
  · simp only [Function.update_of_ne here]

theorem Pool.resolved_step_own (rest : List (ι × ω)) :
    (Pool.resolved own programs states state (turn :: rest)).step shared.waiting turn =
      Pool.resolved own
        (Function.update programs turn.1 (next (own turn.2 (states turn.1) step).1))
        (Function.update states turn.1 (own turn.2 (states turn.1) step).2) state rest := by
  simp only [Pool.step, Pool.resolved, moved, turnsOf_cons_self, Program.resolve, Service.waiting]
  congr 1
  funext i
  by_cases here : i = turn.1
  · subst here
    simp only [Function.update_self]
  · simp only [Function.update_of_ne here, turnsOf_cons_of_ne here]

end OwnStep

section SharedStep

variable {step : S} {next : SR step → Program (L ⊕ S) (Sum.elim LR SR) α}
  (moved : programs turn.1 = .call (.inr step) next) (states : ι → τ) (state : σ)
include moved

omit [DecidableEq ι] in
theorem Pool.layered_calls_shared :
    (Pool.layered programs states state).threads turn.1 =
      .call (turn.1, .inr step) fun answer => (next answer).located turn.1 := by
  simp only [Pool.layered, moved, Program.located]

theorem Pool.resolved_calls (rest : List (ι × ω)) :
    (Pool.resolved own programs states state (turn :: rest)).threads turn.1 =
      .call (some step) fun answer =>
        (next answer).resolve own (turnsOf rest turn.1) (states turn.1) := by
  simp only [Pool.resolved, moved, turnsOf_cons_self, Program.resolve, List.tail_cons]

/-- A shared step of a thread moves the thread and the shared state. -/
theorem Pool.layered_step_shared :
    (Pool.layered programs states state).step (own.layered shared) turn =
      Pool.layered (Function.update programs turn.1 (next (shared turn.2 state step).1)) states
        (shared turn.2 state step).2 := by
  simp only [Pool.step, Pool.layered, moved, Program.located, Service.layered]
  congr 1
  funext i
  by_cases here : i = turn.1
  · subst here
    simp only [Function.update_self]
  · simp only [Function.update_of_ne here]

theorem Pool.resolved_step_shared (rest : List (ι × ω)) :
    (Pool.resolved own programs states state (turn :: rest)).step shared.waiting turn =
      Pool.resolved own (Function.update programs turn.1 (next (shared turn.2 state step).1))
        states (shared turn.2 state step).2 rest := by
  simp only [Pool.step, Pool.resolved, moved, turnsOf_cons_self, Program.resolve, Service.waiting,
    List.tail_cons]
  congr 1
  funext i
  by_cases here : i = turn.1
  · subst here
    simp only [Function.update_self]
  · simp only [Function.update_of_ne here, turnsOf_cons_of_ne here]

end SharedStep

/-- **Own steps can be resolved ahead.** A layered pool and its resolution do the same to the
shared state by the same requests, and after the schedule the one still resolves to the other. -/
theorem Pool.execute_resolve (own : Service L LR τ ω) (shared : Service S SR σ ω)
    (schedule : List (ι × ω)) (programs : ι → Program (L ⊕ S) (Sum.elim LR SR) α)
    (states : ι → τ) (state : σ) :
    ∃ (programs' : ι → Program (L ⊕ S) (Sum.elim LR SR) α) (states' : ι → τ) (state' : σ),
      (Pool.layered programs states state).execute (own.layered shared) schedule =
        Pool.layered programs' states' state' ∧
      (Pool.resolved own programs states state schedule).execute shared.waiting schedule =
        Pool.resolved own programs' states' state' [] ∧
      sharedOnly ((Pool.layered programs states state).trace (own.layered shared) schedule) =
        busyOnly ((Pool.resolved own programs states state schedule).trace shared.waiting
          schedule) := by
  induction schedule generalizing programs states state with
  | nil => exact ⟨programs, states, state, rfl, rfl, rfl⟩
  | cons turn rest ih =>
      rw [Pool.execute_cons, Pool.execute_cons]
      cases moved : programs turn.1 with
      | ret value =>
          have returned := Pool.layered_threads_ret moved states state
          have resolved := Pool.resolved_threads_ret moved own states state rest
          rw [Pool.resolved_cons_of_ret moved, Pool.step_ret returned, Pool.step_ret resolved,
            Pool.trace_cons_of_ret returned, Pool.trace_cons_of_ret resolved]
          exact ih programs states state
      | call request next =>
          cases request with
          | inl step =>
              obtain ⟨programs', states', state', layered, resolved, traces⟩ := ih _ _ _
              refine ⟨programs', states', state', ?_, ?_, ?_⟩
              · rw [Pool.layered_step_own moved]
                exact layered
              · rw [Pool.resolved_step_own moved]
                exact resolved
              · rw [Pool.trace_cons_of_call (Pool.layered_calls_own moved states state),
                  Pool.trace_cons_of_call (Pool.resolved_waits moved states state rest),
                  Pool.layered_step_own moved, Pool.resolved_step_own moved]
                exact traces
          | inr step =>
              obtain ⟨programs', states', state', layered, resolved, traces⟩ := ih _ _ _
              refine ⟨programs', states', state', ?_, ?_, ?_⟩
              · rw [Pool.layered_step_shared moved]
                exact layered
              · rw [Pool.resolved_step_shared moved]
                exact resolved
              · rw [Pool.trace_cons_of_call (Pool.layered_calls_shared moved states state),
                  Pool.trace_cons_of_call (Pool.resolved_calls moved states state rest),
                  Pool.layered_step_shared moved, Pool.resolved_step_shared moved]
                exact congrArg _ traces

end Resolution

/-- A thread issues its first request before any other. -/
theorem Pool.mem_of_trace_split {Req : Type} {Resp : Req → Type} [DecidableEq ι]
    {service : Service Req Resp σ ω} {pool : Pool ι Req Resp α σ} {i : ι} {first other : Req}
    {next : Resp first → Program Req Resp α} (calling : pool.threads i = .call first next)
    (different : other ≠ first) {schedule : List (ι × ω)} {before after : List (ι × Req)}
    (split : pool.trace service schedule = before ++ (i, other) :: after) :
    (i, first) ∈ before := by
  induction schedule generalizing pool before with
  | nil => exact absurd split.symm (List.append_ne_nil_of_right_ne_nil _ (List.cons_ne_nil _ _))
  | cons turn rest ih =>
      by_cases mine : turn.1 = i
      · subst mine
        rw [Pool.trace_cons_of_call calling] at split
        cases before with
        | nil => exact absurd (Prod.mk.inj (List.cons.inj split).1).2.symm different
        | cons head tail => exact (List.cons.inj split).1 ▸ List.mem_cons_self
      · have still : (pool.step service turn).threads i = .call first next := by
          rw [Pool.step_threads_of_ne (Ne.symm mine), calling]
        cases moved : pool.threads turn.1 with
        | ret value =>
            rw [Pool.trace_cons_of_ret moved] at split
            exact ih calling split
        | call request further =>
            rw [Pool.trace_cons_of_call moved] at split
            cases before with
            | nil => exact absurd (Prod.mk.inj (List.cons.inj split).1).1 mine
            | cons head tail => exact List.mem_cons_of_mem _ (ih still (List.cons.inj split).2)

/-! ## Programs behind others -/

namespace Program

/-- The first program waits, does what the second does, and ends as `ends` says. -/
def Behind (ends : α → Program S SR β → Prop) :
    Program (Option S) (fun request => request.elim Unit SR) α → Program S SR β → Prop
  | .ret value, other => ends value other
  | .call none next, other => (next ()).Behind ends other
  | .call (some step) next, other =>
      ∃ next', other = .call step next' ∧ ∀ answer, (next answer).Behind ends (next' answer)

/-- A program without own steps, among those that have some. -/
def lifted (L : Type) (LR : L → Type) : Program S SR α → Program (L ⊕ S) (Sum.elim LR SR) α
  | .ret value => .ret value
  | .call step next => .call (.inr step) fun answer => (next answer).lifted L LR

theorem behind_mono {weaker stronger : α → Program S SR β → Prop}
    {program : Program (Option S) (fun request => request.elim Unit SR) α}
    {other : Program S SR β} (behind : program.Behind stronger other)
    (implies : ∀ value other, stronger value other → weaker value other) :
    program.Behind weaker other := by
  induction program generalizing other with
  | ret value => exact implies value other behind
  | call request next ih =>
      cases request with
      | none => exact ih () behind
      | some step =>
          obtain ⟨next', rfl, matched⟩ := behind
          exact ⟨next', rfl, fun answer => ih answer (matched answer)⟩

/-- A program behind another issues the requests of that one. -/
theorem uses_of_behind {ends : α → Program S SR β → Prop} {allowed : S → Prop}
    {program : Program (Option S) (fun request => request.elim Unit SR) α}
    {other : Program S SR β} (behind : program.Behind ends other) (uses : other.Uses allowed) :
    program.Uses fun request => ∀ step ∈ request, allowed step := by
  induction program generalizing other with
  | ret value => trivial
  | call request next ih =>
      cases request with
      | none => exact ⟨fun step member => by simp at member, fun answer => ih answer behind uses⟩
      | some step =>
          obtain ⟨next', rfl, matched⟩ := behind
          refine ⟨fun other member => ?_, fun answer => ih answer (matched answer) (uses.2 answer)⟩
          exact Option.mem_some.mp member ▸ uses.1

variable {own : Service L LR τ ω} {ends : Option α → Program S SR β → Prop}

/-- An own step is a wait, or the turns have ended before it. -/
theorem behind_own {step : L} {next : LR step → Program (L ⊕ S) (Sum.elim LR SR) α}
    {turns : List ω} {state : τ} {other : Program S SR β} (gone : turns = [] → ends none other)
    (goes : ∀ weather rest, turns = weather :: rest →
      ((next (own weather state step).1).resolve own rest
        (own weather state step).2).Behind ends other) :
    ((Program.call (.inl step) next : Program (L ⊕ S) (Sum.elim LR SR) α).resolve own turns
      state).Behind ends other := by
  cases turns with
  | nil => exact gone rfl
  | cons weather rest => exact goes weather rest rfl

/-- A program that goes on from a lifted one is behind it, when what comes after is behind its
end. -/
theorem behind_lifted {after : β → Program (L ⊕ S) (Sum.elim LR SR) α} {state : τ}
    {program : Program S SR β} {turns : List ω}
    (ending : ∀ value rest, ((after value).resolve own rest state).Behind ends (.ret value)) :
    ((program.lifted L LR >>= after).resolve own turns state).Behind ends program := by
  induction program generalizing turns with
  | ret value => exact ending value turns
  | call step next ih => exact ⟨_, rfl, fun answer => ih answer⟩

end Program

section Behind

variable [DecidableEq ι] (shared : Service S SR σ ω) {ends : ι → α → Program S SR β → Prop}

/-- **A run of programs that are behind others is a run of the others**, in some of its turns. -/
theorem Pool.execute_behind (schedule : List (ι × ω))
    (waiting : Pool ι (Option S) (fun request => request.elim Unit SR) α σ)
    (pool : Pool ι S SR β σ) (same : waiting.state = pool.state)
    (behind : ∀ i, (waiting.threads i).Behind (ends i) (pool.threads i)) :
    ∃ schedule', schedule'.Sublist schedule ∧
      (waiting.execute shared.waiting schedule).state = (pool.execute shared schedule').state ∧
      busyOnly (waiting.trace shared.waiting schedule) = pool.trace shared schedule' ∧
      (∀ turn ∈ schedule', turn.1 ∈ (pool.trace shared schedule').map Prod.fst) ∧
      ∀ i, ((waiting.execute shared.waiting schedule).threads i).Behind (ends i)
        ((pool.execute shared schedule').threads i) := by
  induction schedule generalizing waiting pool with
  | nil => exact ⟨[], .slnil, same, rfl, List.forall_mem_nil _, behind⟩
  | cons turn rest ih =>
      have mine := behind turn.1
      cases moved : waiting.threads turn.1 with
      | ret value =>
          obtain ⟨schedule', sublist, states, traces, turns, after⟩ := ih waiting pool same behind
          rw [Pool.execute_cons, Pool.step_ret moved, Pool.trace_cons_of_ret moved]
          exact ⟨schedule', sublist.cons turn, states, traces, turns, after⟩
      | call request next =>
          rw [moved] at mine
          rw [Pool.execute_cons, Pool.trace_cons_of_call moved]
          cases request with
          | none =>
              have still : (waiting.step shared.waiting turn).state = pool.state := by
                rw [Pool.step_state moved]
                exact same
              have later : ∀ i, ((waiting.step shared.waiting turn).threads i).Behind (ends i)
                  (pool.threads i) := by
                intro i
                by_cases here : i = turn.1
                · subst here
                  rw [Pool.step_threads_self moved]
                  exact mine
                · rw [Pool.step_threads_of_ne here]
                  exact behind i
              obtain ⟨schedule', sublist, states, traces, turns, after⟩ := ih _ pool still later
              exact ⟨schedule', sublist.cons turn, states, traces, turns, after⟩
          | some step =>
              obtain ⟨next', calling, matched⟩ := mine
              have still : (waiting.step shared.waiting turn).state =
                  (pool.step shared turn).state := by
                rw [Pool.step_state moved, Pool.step_state calling, same]
                rfl
              have later : ∀ i, ((waiting.step shared.waiting turn).threads i).Behind (ends i)
                  ((pool.step shared turn).threads i) := by
                intro i
                by_cases here : i = turn.1
                · subst here
                  rw [Pool.step_threads_self moved, Pool.step_threads_self calling, ← same]
                  exact matched _
                · rw [Pool.step_threads_of_ne here, Pool.step_threads_of_ne here]
                  exact behind i
              obtain ⟨schedule', sublist, states, traces, turns, after⟩ := ih _ _ still later
              refine ⟨turn :: schedule', sublist.cons_cons turn, states, ?_, ?_, after⟩
              · rw [Pool.trace_cons_of_call calling]
                exact congrArg _ traces
              · rw [Pool.trace_cons_of_call calling]
                intro other member
                rcases List.mem_cons.mp member with rfl | elsewhere
                · exact List.mem_cons_self
                · exact List.mem_cons_of_mem _ (turns other elsewhere)

end Behind

/-! ## More weather -/

/-- A service that sees a part of the weather. -/
def Service.under {ω' : Type} (service : Service S SR σ ω) (seen : ω' → ω) :
    Service S SR σ ω' :=
  fun weather => service (seen weather)

section Under

variable [DecidableEq ι] {ω' : Type} (service : Service S SR σ ω) (seen : ω' → ω)

theorem Pool.execute_under (schedule : List (ι × ω')) (pool : Pool ι S SR α σ) :
    pool.execute (service.under seen) schedule =
      pool.execute service (schedule.map (Prod.map id seen)) := by
  rw [Pool.execute, Pool.execute, List.foldl_map]
  rfl

theorem Pool.trace_under (schedule : List (ι × ω')) (pool : Pool ι S SR α σ) :
    pool.trace (service.under seen) schedule =
      pool.trace service (schedule.map (Prod.map id seen)) := by
  induction schedule generalizing pool with
  | nil => rfl
  | cons turn rest ih =>
      rw [List.map_cons]
      cases moved : pool.threads turn.1 with
      | ret value =>
          have returned : pool.threads (Prod.map id seen turn).1 = .ret value := moved
          rw [Pool.trace_cons_of_ret moved, Pool.trace_cons_of_ret returned, ih]
      | call request next =>
          have calling : pool.threads (Prod.map id seen turn).1 = .call request next := moved
          rw [Pool.trace_cons_of_call moved, Pool.trace_cons_of_call calling, ih]
          rfl

end Under

/-! ## Regions -/

/-- What every thread spares is the same after the schedule. -/
theorem Region.execute_spared [DecidableEq ι] {service : Service S SR σ ω}
    (region : Region service) {pool : Pool ι S SR α σ}
    (spared : ∀ i, (pool.threads i).Uses region.Spares) (schedule : List (ι × ω)) :
    region.Agrees (pool.execute service schedule).state pool.state := by
  have nobody : (schedule.filter fun _ => decide False) = [] := by simp
  have filtered : (∀ i, False → (pool.execute service schedule).threads i =
      (pool.execute service (schedule.filter fun _ => decide False)).threads i) ∧
      region.Agrees (pool.execute service schedule).state
        (pool.execute service (schedule.filter fun _ => decide False)).state :=
    region.execute_filter (fun _ => False) (fun i inside => inside.elim) (fun i _ => spared i)
      (fun i inside => inside.elim) (region.equivalence.refl _)
  rw [nobody] at filtered
  exact filtered.2

/-- A region of a service, of the service that can wait. -/
def Region.waiting {service : Service S SR σ ω} (region : Region service) :
    Region service.waiting where
  Owns request := ∀ step ∈ request, region.Owns step
  Agrees := region.Agrees
  equivalence := region.equivalence
  alike weather {s t request} owned agree := by
    cases request with
    | none => exact ⟨rfl, agree⟩
    | some step => exact region.alike weather (owned step rfl) agree

theorem Region.spares_waiting {service : Service S SR σ ω} {region : Region service}
    {request : Option S} (spared : ∀ step ∈ request, region.Spares step) :
    region.waiting.Spares request := by
  intro weather state
  cases request with
  | none => exact region.equivalence.refl state
  | some step => exact spared step rfl weather state

/-- A region of a service, of the service that sees a part of the weather. -/
def Region.under {ω' : Type} {service : Service S SR σ ω} (region : Region service)
    (seen : ω' → ω) : Region (service.under seen) where
  Owns := region.Owns
  Agrees := region.Agrees
  equivalence := region.equivalence
  alike weather {_ _ _} owned agree := region.alike (seen weather) owned agree

section LayeredRegions

variable [DecidableEq ι] {own : Service L LR τ ω} {shared : Service S SR σ ω}
  (region : Region shared.waiting) (programs : ι → Program (L ⊕ S) (Sum.elim LR SR) α)
  (states : ι → τ) (state : σ) (schedule : List (ι × ω))

/-- What every resolved program spares is the same after the run of the layered pool. -/
theorem Region.layered_execute_spared
    (spared : ∀ i, ((Pool.resolved own programs states state schedule).threads i).Uses
      region.Spares) :
    region.Agrees
      ((Pool.layered programs states state).execute (own.layered shared) schedule).state.2 state := by
  obtain ⟨programs', states', state', layered, resolved, -⟩ :=
    Pool.execute_resolve own shared schedule programs states state
  have kept := region.execute_spared spared schedule
  rw [resolved] at kept
  rw [layered]
  exact kept

theorem Pool.layered_threads_eq_ret_iff {i : ι} {value : α} :
    (Pool.layered programs states state).threads i = .ret value ↔
      (Pool.resolved own programs states state ([] : List (ι × ω))).threads i =
        .ret (some value) :=
  Program.located_eq_ret_iff.trans Program.resolve_nil_eq_ret_iff.symm

/-- **The threads whose resolved programs live in a region do not notice the others.** -/
theorem Region.layered_execute_filter (mine : ι → Prop) [DecidablePred mine]
    (owned : ∀ i, mine i →
      ((Pool.resolved own programs states state schedule).threads i).Uses region.Owns)
    (spared : ∀ i, ¬ mine i →
      ((Pool.resolved own programs states state schedule).threads i).Uses region.Spares) :
    let pool := Pool.layered programs states state
    let together := pool.execute (own.layered shared) schedule
    let alone := pool.execute (own.layered shared) (schedule.filter fun turn => mine turn.1)
    (∀ i, mine i → ∀ value, together.threads i = .ret value ↔ alone.threads i = .ret value) ∧
      region.Agrees together.state.2 alone.state.2 := by
  intro pool together alone
  have same : ∀ i, mine i → (Pool.resolved own programs states state schedule).threads i =
      (Pool.resolved own programs states state
        (schedule.filter fun turn => mine turn.1)).threads i := by
    intro i inside
    simp only [Pool.resolved, turnsOf_filter inside]
  obtain ⟨threads, agree⟩ := region.execute_filter mine owned spared same
    (region.equivalence.refl state)
  obtain ⟨programs', states', state', layered, resolved, -⟩ :=
    Pool.execute_resolve own shared schedule programs states state
  obtain ⟨programs'', states'', state'', layered', resolved', -⟩ :=
    Pool.execute_resolve own shared (schedule.filter fun turn => mine turn.1) programs states state
  rw [resolved, resolved'] at threads agree
  have together_eq : together = Pool.layered programs' states' state' := layered
  have alone_eq : alone = Pool.layered programs'' states'' state'' := layered'
  rw [together_eq, alone_eq]
  refine ⟨fun i inside value => ?_, agree⟩
  have resolutions := threads i inside
  exact (Pool.layered_threads_eq_ret_iff programs' states' state').trans
    ((iff_of_eq (congrArg (· = _) resolutions)).trans
      (Pool.layered_threads_eq_ret_iff programs'' states'' state'').symm)

end LayeredRegions

end Foundations
