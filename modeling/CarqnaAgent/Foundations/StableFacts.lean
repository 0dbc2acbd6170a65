import Mathlib
import CarqnaAgent.Foundations.Programs

/-!
# Stable facts

A fact about the shared state is stable when every request keeps it. A program that assumes a
stable fact at its start, and relies on stable facts only between its requests, can be reasoned
about as if it ran alone: **what it assures at its end holds when its thread has returned, in
every schedule** (`Pool.assures_execute`).
-/

set_option autoImplicit false

namespace Foundations

variable {Req : Type} {Resp : Req → Type} {α σ ω ι : Type}

/-- Every request keeps the fact. -/
def Service.Stable (service : Service Req Resp σ ω) (fact : σ → Prop) : Prop :=
  ∀ weather state request, fact state → fact (service weather state request).2

namespace Service.Stable

variable {service : Service Req Resp σ ω} {first second : σ → Prop}

theorem const (holds : Prop) : service.Stable fun _ => holds := fun _ _ _ here => here

theorem and (left : service.Stable first) (right : service.Stable second) :
    service.Stable fun state => first state ∧ second state :=
  fun weather state request both =>
    ⟨left weather state request both.1, right weather state request both.2⟩

theorem all {κ : Type} {facts : κ → σ → Prop} (each : ∀ k, service.Stable (facts k)) :
    service.Stable fun state => ∀ k, facts k state :=
  fun weather state request here k => each k weather state request (here k)

theorem of_imp {condition : Prop} (fact : service.Stable first) :
    service.Stable fun state => condition → first state :=
  fun weather state request here given => fact weather state request (here given)

end Service.Stable

/-- From `before` at its start the program gets to `post` at its end, with stable facts between
its requests. -/
def Program.Assures (service : Service Req Resp σ ω) (post : α → σ → Prop) :
    Program Req Resp α → (σ → Prop) → Prop
  | .ret value, before => ∀ state, before state → post value state
  | .call request next, before => ∃ after : Resp request → σ → Prop,
      (∀ answer, service.Stable (after answer)) ∧
      (∀ weather state, before state →
        after (service weather state request).1 (service weather state request).2) ∧
      ∀ answer, (next answer).Assures service post (after answer)

theorem Program.Assures.mono {service : Service Req Resp σ ω} {post : α → σ → Prop}
    {program : Program Req Resp α} {weaker stronger : σ → Prop}
    (assures : program.Assures service post weaker)
    (entails : ∀ state, stronger state → weaker state) :
    program.Assures service post stronger := by
  cases program with
  | ret value => exact fun state here => assures state (entails state here)
  | call request next =>
      obtain ⟨after, stays, makes, goes⟩ := assures
      exact ⟨after, stays, fun weather state here => makes weather state (entails state here), goes⟩

section Pools

variable [DecidableEq ι] {service : Service Req Resp σ ω} {post : α → σ → Prop} {i : ι}

/-- **What a program assures holds when its thread has returned.** -/
theorem Pool.assures_execute {pool : Pool ι Req Resp α σ} {before : σ → Prop}
    (assures : (pool.threads i).Assures service post before) (stable : service.Stable before)
    (start : before pool.state) (schedule : List (ι × ω)) {value : α}
    (returned : (pool.execute service schedule).threads i = .ret value) :
    post value (pool.execute service schedule).state := by
  induction schedule generalizing pool before with
  | nil =>
      rw [Pool.execute_nil] at returned
      rw [returned] at assures
      exact assures _ start
  | cons turn rest ih =>
      rw [Pool.execute_cons] at returned ⊢
      by_cases mine : turn.1 = i
      · subst mine
        cases moved : pool.threads turn.1 with
        | ret value' =>
            rw [Pool.step_ret moved] at returned ⊢
            exact ih assures stable start returned
        | call request next =>
            rw [moved] at assures
            obtain ⟨after, stays, makes, goes⟩ := assures
            have later : ((pool.step service turn).threads turn.1).Assures service post
                (after (service turn.2 pool.state request).1) := by
              rw [Pool.step_threads_self moved]
              exact goes _
            have here : after (service turn.2 pool.state request).1
                (pool.step service turn).state := by
              rw [Pool.step_state moved]
              exact makes _ _ start
            exact ih later (stays _) here returned
      · have still : ((pool.step service turn).threads i).Assures service post before := by
          rw [Pool.step_threads_of_ne (Ne.symm mine)]
          exact assures
        have here : before (pool.step service turn).state := by
          cases moved : pool.threads turn.1 with
          | ret value' =>
              rw [Pool.step_ret moved]
              exact start
          | call request next =>
              rw [Pool.step_state moved]
              exact stable _ _ _ start
        exact ih still stable here returned

end Pools

end Foundations
