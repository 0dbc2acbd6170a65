import Mathlib
import CarqnaAgent.Foundations.Programs
import CarqnaAgent.Foundations.Turns

/-!
# Programs that act on what they have learnt

The requests of a thread may take several turns: a turn moves the shared state and answers
the request, or leaves it pending (`Pool.advance`).

What a thread may request, and what may be said at its end, can depend on the answers so far.
`Within` says so of a program: `learn` adds an answer to what is known, `allowed` and `post`
speak of what is known. It goes through `bind` (`within_bind`) and through `interpret`
(`within_interpret`).

When what a thread knows is true of the shared state and stays true in the turns of the others,
**every thread of every run acts on true knowledge** (`Pool.informed_execute`).
-/

set_option autoImplicit false

namespace Foundations

variable {Req : Type} {Resp : Req → Type} {α β κ σ ω ι : Type}

/-! ## Requests of several turns -/

/-- A turn of a thread at a request: the answer, if it comes now, and the state after. -/
abbrev Gradual (ι Req : Type) (Resp : Req → Type) (σ ω : Type) :=
  ι → ω → σ → (request : Req) → Option (Resp request) × σ

namespace Pool

variable [DecidableEq ι]

/-- One turn: the thread goes on if its request is answered. -/
def advance (service : Gradual ι Req Resp σ ω) (pool : Pool ι Req Resp α σ) (turn : ι × ω) :
    Pool ι Req Resp α σ :=
  match pool.threads turn.1 with
  | .ret _ => pool
  | .call request next =>
      { threads := (service turn.1 turn.2 pool.state request).1.elim pool.threads fun answer =>
          Function.update pool.threads turn.1 (next answer)
        state := (service turn.1 turn.2 pool.state request).2 }

section Turn

variable {service : Gradual ι Req Resp σ ω} {pool : Pool ι Req Resp α σ} {turn : ι × ω}

theorem advance_ret {value : α} (returned : pool.threads turn.1 = .ret value) :
    pool.advance service turn = pool := by
  simp [advance, returned]

variable {request : Req} {next : Resp request → Program Req Resp α}

theorem advance_state (calling : pool.threads turn.1 = .call request next) :
    (pool.advance service turn).state = (service turn.1 turn.2 pool.state request).2 := by
  simp [advance, calling]

theorem advance_pending (calling : pool.threads turn.1 = .call request next)
    (pending : (service turn.1 turn.2 pool.state request).1 = none) :
    (pool.advance service turn).threads = pool.threads := by
  simp [advance, calling, pending]

theorem advance_answered (calling : pool.threads turn.1 = .call request next)
    {answer : Resp request}
    (answered : (service turn.1 turn.2 pool.state request).1 = some answer) :
    (pool.advance service turn).threads =
      Function.update pool.threads turn.1 (next answer) := by
  simp [advance, calling, answered]

end Turn

end Pool

/-! ## What a program knows -/

namespace Program

variable (learn : (request : Req) → Resp request → κ → κ) (allowed : κ → Req → Prop)

/-- From what is known, every request is allowed by what is known then, and so is the end. -/
def Within (post : α → κ → Prop) : Program Req Resp α → κ → Prop
  | .ret value, known => post value known
  | .call request next, known =>
      allowed known request ∧ ∀ answer, (next answer).Within post (learn request answer known)

variable {learn allowed} {post : α → κ → Prop} {known : κ}

/-- **Sequencing rule.** -/
theorem within_bind {program : Program Req Resp β} {rest : β → Program Req Resp α}
    (first : program.Within learn allowed
      (fun value later => (rest value).Within learn allowed post later) known) :
    (program >>= rest).Within learn allowed post known := by
  induction program generalizing known with
  | ret value => exact first
  | call request next ih => exact ⟨first.1, fun answer => ih answer (first.2 answer)⟩

theorem within_mono {weaker : α → κ → Prop} {program : Program Req Resp α}
    (within : program.Within learn allowed post known)
    (implies : ∀ value later, post value later → weaker value later) :
    program.Within learn allowed weaker known := by
  induction program generalizing known with
  | ret value => exact implies value known within
  | call request next ih => exact ⟨within.1, fun answer => ih answer (within.2 answer)⟩

/-- The values the program can return. -/
def Yields (value : α → Prop) : Program Req Resp α → Prop
  | .ret result => value result
  | .call _ next => ∀ answer, (next answer).Yields value

theorem yields_of_forall {value : α → Prop} (all : ∀ result, value result)
    (program : Program Req Resp α) : program.Yields value := by
  induction program with
  | ret result => exact all result
  | call request next ih => exact ih

/-- **Rule for a program over larger steps**, none of which teaches anything. -/
theorem within_interpret {Larger : Type} {Answer : Larger → Type}
    {answer : (request : Larger) → Program Req Resp (Answer request)}
    (steps : ∀ request, (answer request).Within learn allowed (fun _ later => later = known) known)
    {result : α → Prop} {program : Program Larger Answer α} (yields : program.Yields result)
    (ends : ∀ value, result value → post value known) :
    (program.interpret answer).Within learn allowed post known := by
  induction program with
  | ret value => exact ends value yields
  | call request next ih =>
      refine within_bind (within_mono (steps request) ?_)
      rintro value _ rfl
      exact ih value (yields value)

end Program

/-! ## Knowledge in a run -/

/-- Knowledge of the threads over a service: when it is true of a state, and how answers add to
it. The states of a run are of a kind that allowed requests keep. -/
structure Knowledge (service : Gradual ι Req Resp σ ω) (κ : Type) where
  learn : ι → (request : Req) → Resp request → κ → κ
  allowed : ι → κ → Req → Prop
  Kind : σ → Prop
  Holds : ι → κ → σ → Prop
  keeps : ∀ {i : ι} (weather : ω) {state : σ} {request : Req} {known : κ}, Kind state →
    Holds i known state → allowed i known request → Kind (service i weather state request).2
  answered : ∀ {i : ι} (weather : ω) {state : σ} {request : Req} {known : κ}
    {answer : Resp request}, Kind state → Holds i known state → allowed i known request →
    (service i weather state request).1 = some answer →
      Holds i (learn i request answer known) (service i weather state request).2
  pending : ∀ {i : ι} (weather : ω) {state : σ} {request : Req} {known : κ}, Kind state →
    Holds i known state → allowed i known request →
    (service i weather state request).1 = none →
      Holds i known (service i weather state request).2
  others : ∀ {i j : ι} (weather : ω) {state : σ} {request : Req} {known other : κ}, j ≠ i →
    Kind state → Holds i known state → allowed i known request → Holds j other state →
      Holds j other (service i weather state request).2

section Runs

variable {service : Gradual ι Req Resp σ ω} (knowledge : Knowledge service κ)
  (post : ι → α → κ → Prop)

/-- Every thread acts on knowledge that is true. -/
structure Pool.Informed (pool : Pool ι Req Resp α σ) : Prop where
  kind : knowledge.Kind pool.state
  threads : ∀ i, ∃ known, knowledge.Holds i known pool.state ∧
    (pool.threads i).Within (knowledge.learn i) (knowledge.allowed i) (post i) known

variable {knowledge post} [DecidableEq ι]

/-- **A turn keeps every thread informed.** -/
theorem Pool.Informed.advance {pool : Pool ι Req Resp α σ}
    (informed : pool.Informed knowledge post) (turn : ι × ω) :
    (pool.advance service turn).Informed knowledge post := by
  cases moved : pool.threads turn.1 with
  | ret value =>
      rw [Pool.advance_ret moved]
      exact informed
  | call request next =>
      obtain ⟨known, holds, within⟩ := informed.threads turn.1
      rw [moved] at within
      have state : (pool.advance service turn).state =
          (service turn.1 turn.2 pool.state request).2 := Pool.advance_state moved
      constructor
      · rw [state]
        exact knowledge.keeps _ informed.kind holds within.1
      · intro j
        rw [state]
        cases said : (service turn.1 turn.2 pool.state request).1 with
        | none =>
            rw [Pool.advance_pending moved said]
            by_cases mine : j = turn.1
            · subst mine
              refine ⟨known, knowledge.pending _ informed.kind holds within.1 said, ?_⟩
              rw [moved]
              exact within
            · obtain ⟨other, holds', goes⟩ := informed.threads j
              exact ⟨other, knowledge.others _ mine informed.kind holds within.1 holds', goes⟩
        | some answer =>
            rw [Pool.advance_answered moved said]
            by_cases mine : j = turn.1
            · subst mine
              rw [Function.update_self]
              exact ⟨_, knowledge.answered _ informed.kind holds within.1 said, within.2 answer⟩
            · rw [Function.update_of_ne mine]
              obtain ⟨other, holds', goes⟩ := informed.threads j
              exact ⟨other, knowledge.others _ mine informed.kind holds within.1 holds', goes⟩

/-- **Every thread of every run acts on knowledge that is true.** -/
theorem Pool.informed_execute {pool : Pool ι Req Resp α σ}
    (informed : pool.Informed knowledge post) (turns : List (ι × ω)) :
    (Turns.execute (Pool.advance service) pool turns).Informed knowledge post :=
  Turns.execute_keeps (fun _ turn here => Pool.Informed.advance here turn) informed

end Runs

end Foundations
