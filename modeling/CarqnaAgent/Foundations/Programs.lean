import Mathlib

/-!
# Programs over requests, and their interleavings

A program returns a value or issues a request and goes on with the answer. A
service answers the requests over a shared state. What neither decides (the time
of a step, whether it fails, how an answer is cut) is the weather of the step.

One program is run to its end by `run`. Any number of programs share the state in
a pool: a schedule names, step by step, the thread that moves and the weather, so
the schedules are the interleavings, each request being one atomic step.

The rules:

* `Uses allowed` says every request a program can issue is allowed; it goes
  through `bind` (`uses_bind`) and through `interpret` (`uses_interpret`), and
  whatever a pool issues is allowed to the thread that issues it
  (`Pool.uses_of_mem_trace`).
* What every request keeps holds throughout (`Pool.execute_keeps`), and what becomes
  true in a run, a request of the run makes true (`Pool.mem_trace_of_changed`).
* A `Region` is a part of the state that some requests live in: from states that
  agree on it they get the same answer and leave agreeing states. A request that
  changes nothing in it spares it. **The threads that live in a region do the same
  in every schedule as in that schedule without the other threads, when those
  spare it** (`Region.execute_filter`).
-/

set_option autoImplicit false

namespace Foundations

/-- A program over typed requests. -/
inductive Program (Req : Type) (Resp : Req → Type) (α : Type) : Type where
  | ret (value : α)
  | call (request : Req) (next : Resp request → Program Req Resp α)

variable {Req : Type} {Resp : Req → Type} {α β : Type}

namespace Program

/-- Sequencing. -/
protected def bind : Program Req Resp α → (α → Program Req Resp β) → Program Req Resp β
  | .ret value, rest => rest value
  | .call request next, rest => .call request fun answer => (next answer).bind rest

instance : Monad (Program Req Resp) where
  pure := .ret
  bind := .bind

/-- Issue one request and return its answer. -/
def perform (request : Req) : Program Req Resp (Resp request) := .call request .ret

@[simp] theorem pure_eq_ret (value : α) : (pure value : Program Req Resp α) = .ret value := rfl

@[simp] theorem ret_bind (value : α) (rest : α → Program Req Resp β) :
    (Program.ret value >>= rest) = rest value := rfl

@[simp] theorem call_bind (request : Req) (next : Resp request → Program Req Resp α)
    (rest : α → Program Req Resp β) :
    (Program.call request next >>= rest) = .call request fun answer => next answer >>= rest :=
  rfl

@[simp] theorem perform_bind (request : Req) (rest : Resp request → Program Req Resp β) :
    (perform request >>= rest) = .call request rest := rfl

instance : LawfulMonad (Program Req Resp) :=
  .mk' _
    (fun program => by
      induction program with
      | ret value => rfl
      | call request next ih => exact congrArg (Program.call request) (funext ih))
    (fun _ _ => rfl)
    (fun program first second => by
      induction program with
      | ret value => rfl
      | call request next ih => exact congrArg (Program.call request) (funext ih))

/-! ## The requests a program can issue -/

/-- Every request the program can issue is allowed. -/
def Uses (allowed : Req → Prop) : Program Req Resp α → Prop
  | .ret _ => True
  | .call request next => allowed request ∧ ∀ answer, (next answer).Uses allowed

theorem uses_bind {allowed : Req → Prop} {program : Program Req Resp α}
    {rest : α → Program Req Resp β} (first : program.Uses allowed)
    (second : ∀ value, (rest value).Uses allowed) : (program >>= rest).Uses allowed := by
  induction program with
  | ret value => exact second value
  | call request next ih => exact ⟨first.1, fun answer => ih answer (first.2 answer)⟩

theorem uses_mono {weaker stronger : Req → Prop} {program : Program Req Resp α}
    (uses : program.Uses stronger) (implies : ∀ request, stronger request → weaker request) :
    program.Uses weaker := by
  induction program with
  | ret value => trivial
  | call request next ih =>
      exact ⟨implies request uses.1, fun answer => ih answer (uses.2 answer)⟩

/-! ## Programs over larger steps -/

/-- Answer every request of a program by a program over other requests. -/
def interpret {Larger : Type} {Answer : Larger → Type}
    (answer : (request : Larger) → Program Req Resp (Answer request)) :
    Program Larger Answer α → Program Req Resp α
  | .ret value => .ret value
  | .call request next => answer request >>= fun value => (next value).interpret answer

theorem uses_interpret {Larger : Type} {Answer : Larger → Type}
    {answer : (request : Larger) → Program Req Resp (Answer request)} {allowed : Req → Prop}
    (uses : ∀ request, (answer request).Uses allowed) (program : Program Larger Answer α) :
    (program.interpret answer).Uses allowed := by
  induction program with
  | ret value => trivial
  | call request next ih => exact uses_bind (uses request) ih

end Program

/-- A service: in a weather and a state, the answer to a request and the state after. -/
abbrev Service (Req : Type) (Resp : Req → Type) (σ ω : Type) :=
  ω → σ → (request : Req) → Resp request × σ

variable {σ ω : Type}

namespace Program

/-- Run a program to its end, one weather for each request. -/
def run (service : Service Req Resp σ ω) : (ℕ → ω) → Program Req Resp α → σ → α × σ
  | _, .ret value, state => (value, state)
  | weather, .call request next, state =>
      run service (fun n => weather (n + 1)) (next (service (weather 0) state request).1)
        (service (weather 0) state request).2

@[simp] theorem run_ret (service : Service Req Resp σ ω) (weather : ℕ → ω) (value : α)
    (state : σ) : run service weather (.ret value) state = (value, state) := rfl

@[simp] theorem run_call (service : Service Req Resp σ ω) (weather : ℕ → ω) (request : Req)
    (next : Resp request → Program Req Resp α) (state : σ) :
    run service weather (.call request next) state =
      run service (fun n => weather (n + 1)) (next (service (weather 0) state request).1)
        (service (weather 0) state request).2 := rfl

/-- What a program does with its value at the end is done to the value of its run. -/
theorem run_bind_ret (service : Service Req Resp σ ω) (weather : ℕ → ω)
    (program : Program Req Resp α) (made : α → β) (state : σ) :
    run service weather (program >>= fun value => .ret (made value)) state =
      (made (run service weather program state).1, (run service weather program state).2) := by
  induction program generalizing weather state with
  | ret value => rfl
  | call request next ih => exact ih _ _ _

/-- **Frame rule.** A relation to the first state that every allowed request keeps holds at
the end of the run. -/
theorem run_keeps {service : Service Req Resp σ ω} {allowed : Req → Prop} (kept : σ → Prop)
    (step : ∀ weather state request, allowed request → kept state →
      kept (service weather state request).2)
    {program : Program Req Resp α} (uses : program.Uses allowed) (weather : ℕ → ω) {state : σ}
    (start : kept state) : kept (run service weather program state).2 := by
  induction program generalizing weather state with
  | ret value => exact start
  | call request next ih =>
      exact ih _ (uses.2 _) _ (step (weather 0) state request uses.1 start)

/-- What every request keeps holds at the end of the run. -/
theorem run_invariant {service : Service Req Resp σ ω} (kept : σ → Prop)
    (step : ∀ weather state request, kept state → kept (service weather state request).2)
    (program : Program Req Resp α) (weather : ℕ → ω) {state : σ} (start : kept state) :
    kept (run service weather program state).2 := by
  induction program generalizing weather state with
  | ret value => exact start
  | call request next ih => exact ih _ _ (step (weather 0) state request start)

end Program

/-! ## Pools of threads -/

/-- Threads over one shared state. -/
structure Pool (ι : Type) (Req : Type) (Resp : Req → Type) (α σ : Type) where
  threads : ι → Program Req Resp α
  state : σ

namespace Pool

variable {ι : Type} [DecidableEq ι]

/-- One step: the named thread issues its next request. A thread that has returned idles. -/
def step (service : Service Req Resp σ ω) (pool : Pool ι Req Resp α σ) (turn : ι × ω) :
    Pool ι Req Resp α σ :=
  match pool.threads turn.1 with
  | .ret _ => pool
  | .call request next =>
      { threads := Function.update pool.threads turn.1
          (next (service turn.2 pool.state request).1)
        state := (service turn.2 pool.state request).2 }

/-- Execute a schedule. -/
def execute (service : Service Req Resp σ ω) (schedule : List (ι × ω))
    (pool : Pool ι Req Resp α σ) : Pool ι Req Resp α σ :=
  schedule.foldl (step service) pool

/-- The requests a schedule issues, each with its thread. -/
def trace (service : Service Req Resp σ ω) :
    List (ι × ω) → Pool ι Req Resp α σ → List (ι × Req)
  | [], _ => []
  | turn :: rest, pool =>
      match pool.threads turn.1 with
      | .ret _ => trace service rest pool
      | .call request _ => (turn.1, request) :: trace service rest (pool.step service turn)

section Steps

variable {service : Service Req Resp σ ω} {pool : Pool ι Req Resp α σ}

theorem execute_nil : pool.execute service [] = pool := rfl

theorem execute_cons (turn : ι × ω) (rest : List (ι × ω)) :
    pool.execute service (turn :: rest) = (pool.step service turn).execute service rest := rfl

theorem execute_append (first second : List (ι × ω)) :
    pool.execute service (first ++ second) = (pool.execute service first).execute service second :=
  List.foldl_append

theorem step_ret {turn : ι × ω} {value : α} (returned : pool.threads turn.1 = .ret value) :
    pool.step service turn = pool := by
  simp [step, returned]

section Calling

variable {turn : ι × ω} {request : Req} {next : Resp request → Program Req Resp α}
  (calling : pool.threads turn.1 = .call request next)
include calling

theorem step_state : (pool.step service turn).state = (service turn.2 pool.state request).2 := by
  simp [step, calling]

theorem step_threads_self :
    (pool.step service turn).threads turn.1 = next (service turn.2 pool.state request).1 := by
  simp [step, calling]

theorem trace_cons_of_call (rest : List (ι × ω)) :
    pool.trace service (turn :: rest) =
      (turn.1, request) :: (pool.step service turn).trace service rest := by
  rw [trace, calling]

end Calling

theorem trace_cons_of_ret {turn : ι × ω} {value : α}
    (returned : pool.threads turn.1 = .ret value) (rest : List (ι × ω)) :
    pool.trace service (turn :: rest) = pool.trace service rest := by
  rw [trace, returned]

/-- A step moves no other thread. -/
theorem step_threads_of_ne {turn : ι × ω} {i : ι} (other : i ≠ turn.1) :
    (pool.step service turn).threads i = pool.threads i := by
  cases moved : pool.threads turn.1 with
  | ret value => rw [step_ret moved]
  | call request next => simp [step, moved, Function.update_of_ne other]

/-- A thread that uses allowed requests still does after a step. -/
theorem step_uses {allowed : ι → Req → Prop} (uses : ∀ i, (pool.threads i).Uses (allowed i))
    (turn : ι × ω) (i : ι) : ((pool.step service turn).threads i).Uses (allowed i) := by
  by_cases same : i = turn.1
  · subst same
    have mine := uses turn.1
    cases moved : pool.threads turn.1 with
    | ret value =>
        rw [step_ret moved]
        exact mine
    | call request next =>
        rw [step_threads_self moved]
        rw [moved] at mine
        exact mine.2 _
  · rw [step_threads_of_ne same]
    exact uses i

/-- **Whatever a schedule issues is allowed to the thread that issues it.** -/
theorem uses_of_mem_trace {allowed : ι → Req → Prop}
    (uses : ∀ i, (pool.threads i).Uses (allowed i)) {schedule : List (ι × ω)} {i : ι}
    {request : Req} (member : (i, request) ∈ pool.trace service schedule) : allowed i request := by
  induction schedule generalizing pool with
  | nil => cases member
  | cons turn rest ih =>
      cases moved : pool.threads turn.1 with
      | ret value =>
          rw [trace_cons_of_ret moved] at member
          exact ih uses member
      | call asked next =>
          rw [trace_cons_of_call moved] at member
          rcases List.mem_cons.mp member with first | later
          · cases first
            have mine := uses turn.1
            rw [moved] at mine
            exact mine.1
          · exact ih (step_uses uses turn) later

/-- **Invariant rule.** What every request keeps holds in every reachable state. -/
theorem execute_keeps (kept : σ → Prop)
    (step : ∀ weather state request, kept state → kept (service weather state request).2)
    (start : kept pool.state) (schedule : List (ι × ω)) :
    kept (pool.execute service schedule).state := by
  induction schedule generalizing pool with
  | nil => exact start
  | cons turn rest ih =>
      rw [execute_cons]
      apply ih
      cases moved : pool.threads turn.1 with
      | ret value =>
          rw [step_ret moved]
          exact start
      | call request next =>
          rw [step_state moved]
          exact step _ _ _ start

/-- What a request makes true, and every request keeps, is true at the end. -/
theorem of_mem_trace (fact : σ → Prop)
    (step : ∀ weather state request, fact state → fact (service weather state request).2)
    {i : ι} {request : Req} (made : ∀ weather state, fact (service weather state request).2)
    {schedule : List (ι × ω)} (taken : (i, request) ∈ pool.trace service schedule) :
    fact (pool.execute service schedule).state := by
  induction schedule generalizing pool with
  | nil => cases taken
  | cons turn rest ih =>
      rw [execute_cons]
      cases moved : pool.threads turn.1 with
      | ret value =>
          rw [trace_cons_of_ret moved] at taken
          rw [step_ret moved]
          exact ih taken
      | call asked next =>
          rw [trace_cons_of_call moved] at taken
          rcases List.mem_cons.mp taken with first | later
          · cases first
            refine execute_keeps fact step ?_ rest
            rw [step_state moved]
            exact made _ _
          · exact ih later

/-- **What has become true was made true by a request of the schedule.** -/
theorem mem_trace_of_changed (fact : σ → Prop) {schedule : List (ι × ω)}
    (start : ¬ fact pool.state) (finish : fact (pool.execute service schedule).state) :
    ∃ i request weather state, (i, request) ∈ pool.trace service schedule ∧
      ¬ fact state ∧ fact (service weather state request).2 := by
  induction schedule generalizing pool with
  | nil => exact absurd finish start
  | cons turn rest ih =>
      rw [execute_cons] at finish
      cases moved : pool.threads turn.1 with
      | ret value =>
          rw [step_ret moved] at finish
          rw [trace_cons_of_ret moved]
          exact ih start finish
      | call request next =>
          rw [trace_cons_of_call moved]
          by_cases already : fact (pool.step service turn).state
          · rw [step_state moved] at already
            exact ⟨turn.1, request, turn.2, pool.state, List.mem_cons_self, start, already⟩
          · obtain ⟨i, later, weather, state, member, before, after⟩ := ih already finish
            exact ⟨i, later, weather, state, List.mem_cons_of_mem _ member, before, after⟩

end Steps

end Pool

/-! ## Regions of the state -/

/-- A part of the state that some requests live in. -/
structure Region (service : Service Req Resp σ ω) where
  Owns : Req → Prop
  Agrees : σ → σ → Prop
  equivalence : Equivalence Agrees
  alike : ∀ (weather : ω) {s t : σ} {request : Req}, Owns request → Agrees s t →
    (service weather s request).1 = (service weather t request).1 ∧
      Agrees (service weather s request).2 (service weather t request).2

namespace Region

variable {service : Service Req Resp σ ω} (region : Region service)

/-- A request that changes nothing in the region. -/
def Spares (request : Req) : Prop :=
  ∀ weather state, region.Agrees (service weather state request).2 state

/-- A program that lives in the region answers alike from states that agree on it. -/
theorem run_alike {program : Program Req Resp α} (owned : program.Uses region.Owns)
    (weather : ℕ → ω) {s t : σ} (agree : region.Agrees s t) :
    (program.run service weather s).1 = (program.run service weather t).1 ∧
      region.Agrees (program.run service weather s).2 (program.run service weather t).2 := by
  induction program generalizing weather s t with
  | ret value => exact ⟨rfl, agree⟩
  | call request next ih =>
      obtain ⟨answer, after⟩ := region.alike (weather 0) owned.1 agree
      rw [Program.run_call, Program.run_call, answer]
      exact ih _ (owned.2 _) _ after

variable {ι : Type} [DecidableEq ι]

/-- **The threads of a region do not notice the others.** -/
theorem execute_filter (mine : ι → Prop) [DecidablePred mine]
    {schedule : List (ι × ω)} {pool alone : Pool ι Req Resp α σ}
    (owned : ∀ i, mine i → (pool.threads i).Uses region.Owns)
    (spared : ∀ i, ¬ mine i → (pool.threads i).Uses region.Spares)
    (same : ∀ i, mine i → pool.threads i = alone.threads i)
    (agree : region.Agrees pool.state alone.state) :
    (∀ i, mine i → (pool.execute service schedule).threads i =
        (alone.execute service (schedule.filter fun turn => mine turn.1)).threads i) ∧
      region.Agrees (pool.execute service schedule).state
        (alone.execute service (schedule.filter fun turn => mine turn.1)).state := by
  induction schedule generalizing pool alone with
  | nil => exact ⟨same, agree⟩
  | cons turn rest ih =>
      have uses : ∀ i, (pool.threads i).Uses
          (fun request => (mine i → region.Owns request) ∧ (¬ mine i → region.Spares request)) := by
        intro i
        by_cases own : mine i
        · exact Program.uses_mono (owned i own) fun _ inside =>
            ⟨fun _ => inside, fun other => absurd own other⟩
        · exact Program.uses_mono (spared i own) fun _ outside =>
            ⟨fun inside => absurd inside own, fun _ => outside⟩
      have owned' : ∀ i, mine i → ((pool.step service turn).threads i).Uses region.Owns :=
        fun i own => Program.uses_mono (Pool.step_uses uses turn i) fun _ both => both.1 own
      have spared' : ∀ i, ¬ mine i → ((pool.step service turn).threads i).Uses region.Spares :=
        fun i other => Program.uses_mono (Pool.step_uses uses turn i) fun _ both => both.2 other
      by_cases own : mine turn.1
      · rw [List.filter_cons_of_pos (by simpa using own), Pool.execute_cons, Pool.execute_cons]
        have together := same turn.1 own
        cases moved : pool.threads turn.1 with
        | ret value =>
            rw [Pool.step_ret moved, Pool.step_ret (together ▸ moved)]
            exact ih owned spared same agree
        | call request next =>
            have asks := owned turn.1 own
            rw [moved] at asks
            obtain ⟨answer, after⟩ := region.alike turn.2 asks.1 agree
            have calling : alone.threads turn.1 = .call request next := together ▸ moved
            refine ih owned' spared' ?_ ?_
            · intro i inside
              by_cases here : i = turn.1
              · subst here
                rw [Pool.step_threads_self moved, Pool.step_threads_self calling, answer]
              · rw [Pool.step_threads_of_ne here, Pool.step_threads_of_ne here]
                exact same i inside
            · rw [Pool.step_state moved, Pool.step_state calling]
              exact after
      · rw [List.filter_cons_of_neg (by simpa using own), Pool.execute_cons]
        refine ih owned' spared' ?_ ?_
        · intro i inside
          have elsewhere : i ≠ turn.1 := fun here => own (here ▸ inside)
          rw [Pool.step_threads_of_ne elsewhere]
          exact same i inside
        · cases moved : pool.threads turn.1 with
          | ret value =>
              rw [Pool.step_ret moved]
              exact agree
          | call request next =>
              have asks := spared turn.1 own
              rw [moved] at asks
              rw [Pool.step_state moved]
              exact region.equivalence.trans (asks.1 turn.2 pool.state) agree

end Region

end Foundations
