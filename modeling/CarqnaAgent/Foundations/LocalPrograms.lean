import Mathlib
import CarqnaAgent.Foundations.Programs

/-!
# Programs over states of their own

A program logic for one program: `Always holds post` says that `holds` in every state
the program passes through and `post` at its end, whatever the weather. It goes
through `bind` (`always_bind`).

When every thread of a pool has a state of its own and its requests touch no other,
**what always holds of each program alone holds in every interleaving**
(`Pool.always_execute`).
-/

set_option autoImplicit false

namespace Foundations

variable {Req : Type} {Resp : Req → Type} {α β τ ω : Type}

namespace Program

/-- `holds` in every state the program passes through, and `post` at its end. -/
def Always (service : Service Req Resp τ ω) (holds : τ → Prop) (post : α → τ → Prop) :
    Program Req Resp α → τ → Prop
  | .ret value, state => holds state ∧ post value state
  | .call request next, state => holds state ∧ ∀ weather,
      (next (service weather state request).1).Always service holds post
        (service weather state request).2

section Rules

variable {service : Service Req Resp τ ω} {holds : τ → Prop} {post : α → τ → Prop}

theorem always_ret {value : α} {state : τ} (here : holds state) (last : post value state) :
    (Program.ret value : Program Req Resp α).Always service holds post state := ⟨here, last⟩

theorem always_call {request : Req} {next : Resp request → Program Req Resp α} {state : τ}
    (here : holds state)
    (later : ∀ weather, (next (service weather state request).1).Always service holds post
      (service weather state request).2) :
    (Program.call request next).Always service holds post state := ⟨here, later⟩

theorem Always.here {program : Program Req Resp α} {state : τ}
    (always : program.Always service holds post state) : holds state := by
  cases program with
  | ret value => exact always.1
  | call request next => exact always.1

/-- **Sequencing rule.** -/
theorem always_bind {program : Program Req Resp β} {rest : β → Program Req Resp α} {state : τ}
    (first : program.Always service holds
      (fun value later => (rest value).Always service holds post later) state) :
    (program >>= rest).Always service holds post state := by
  induction program generalizing state with
  | ret value => exact first.2
  | call request next ih => exact ⟨first.1, fun weather => ih _ (first.2 weather)⟩

theorem always_mono {program : Program Req Resp α} {weaker : α → τ → Prop} {state : τ}
    (always : program.Always service holds post state)
    (implies : ∀ value later, holds later → post value later → weaker value later) :
    program.Always service holds weaker state := by
  induction program generalizing state with
  | ret value => exact ⟨always.1, implies value state always.1 always.2⟩
  | call request next ih => exact ⟨always.1, fun weather => ih _ (always.2 weather)⟩

end Rules

/-- The program with its requests addressed to the state of thread `i`. -/
def located {ι : Type} (i : ι) :
    Program Req Resp α → Program (ι × Req) (fun request => Resp request.2) α
  | .ret value => .ret value
  | .call request next => .call (i, request) fun answer => (next answer).located i

end Program

variable {ι : Type} [DecidableEq ι]

/-- One state for each thread: a request touches the state it is addressed to. -/
def Service.each (service : Service Req Resp τ ω) :
    Service (ι × Req) (fun request => Resp request.2) (ι → τ) ω :=
  fun weather states request =>
    ((service weather (states request.1) request.2).1,
      Function.update states request.1 (service weather (states request.1) request.2).2)

/-- Programs side by side, each with a state of its own. -/
def Pool.sideBySide (programs : ι → Program Req Resp α) (states : ι → τ) :
    Pool ι (ι × Req) (fun request => Resp request.2) α (ι → τ) where
  threads i := (programs i).located i
  state := states

section SideBySide

variable {service : Service Req Resp τ ω} {holds : ι → τ → Prop} {post : ι → α → τ → Prop}

/-- A turn moves one program and its state. -/
theorem Pool.sideBySide_step (programs : ι → Program Req Resp α) (states : ι → τ)
    (turn : ι × ω) (safe : ∀ i, (programs i).Always service (holds i) (post i) (states i)) :
    ∃ (programs' : ι → Program Req Resp α) (states' : ι → τ),
      (Pool.sideBySide programs states).step service.each turn =
        Pool.sideBySide programs' states' ∧
      ∀ i, (programs' i).Always service (holds i) (post i) (states' i) := by
  cases moved : programs turn.1 with
  | ret value =>
      have returned : (Pool.sideBySide programs states).threads turn.1 = .ret value := by
        simp only [Pool.sideBySide, moved, Program.located]
      exact ⟨programs, states, Pool.step_ret returned, safe⟩
  | call request next =>
      have mine := safe turn.1
      rw [moved] at mine
      refine ⟨Function.update programs turn.1 (next (service turn.2 (states turn.1) request).1),
        Function.update states turn.1 (service turn.2 (states turn.1) request).2, ?_, ?_⟩
      · simp only [Pool.step, Pool.sideBySide, moved, Program.located, Service.each]
        congr 1
        funext i
        by_cases here : i = turn.1
        · subst here
          simp only [Function.update_self]
        · simp only [Function.update_of_ne here]
      · intro i
        by_cases here : i = turn.1
        · subst here
          rw [Function.update_self, Function.update_self]
          exact mine.2 turn.2
        · rw [Function.update_of_ne here, Function.update_of_ne here]
          exact safe i

/-- **What always holds of each program alone holds in every interleaving.** -/
theorem Pool.always_execute {programs : ι → Program Req Resp α} {states : ι → τ}
    (safe : ∀ i, (programs i).Always service (holds i) (post i) (states i))
    (schedule : List (ι × ω)) :
    let pool := (Pool.sideBySide programs states).execute service.each schedule
    ∀ i, holds i (pool.state i) ∧ ∀ value, pool.threads i = .ret value →
      post i value (pool.state i) := by
  induction schedule generalizing programs states with
  | nil =>
      intro pool i
      refine ⟨(safe i).here, fun value returned => ?_⟩
      have always := safe i
      cases program : programs i with
      | ret other =>
          rw [program] at always
          simp only [pool, Pool.execute_nil, Pool.sideBySide, program, Program.located,
            Program.ret.injEq] at returned
          exact returned ▸ always.2
      | call request next =>
          simp [pool, Pool.execute_nil, Pool.sideBySide, program, Program.located] at returned
  | cons turn rest ih =>
      obtain ⟨programs', states', moved, safe'⟩ :=
        Pool.sideBySide_step programs states turn safe
      rw [Pool.execute_cons, moved]
      exact ih safe'

end SideBySide

end Foundations
