import Mathlib
import CarqnaAgent.Foundations.Programs

/-!
# A thread among others

To one thread of a pool the others are part of the weather: at each of its turns the state is
one the pool is in at that moment (`Pool.Moment`). **A thread that has returned is a run of
its program alone, each request answered in the state of such a moment**
(`Pool.exists_run_of_returned`).

A program with one request sees one moment only (`run_observed_of_once`).
-/

set_option autoImplicit false

namespace Foundations

variable {Req : Type} {Resp : Req → Type} {α σ ω ι : Type}

/-- The service of one moment: the state is given with the weather, and what a request makes of
it is not seen. -/
def Service.observed (service : Service Req Resp σ ω) : Service Req Resp Unit (ω × σ) :=
  fun moment _ request => ((service moment.1 moment.2 request).1, ())

@[simp] theorem Service.observed_fst (service : Service Req Resp σ ω) (moment : ω × σ) (u : Unit)
    (request : Req) :
    (service.observed moment u request).1 = (service moment.1 moment.2 request).1 := rfl

namespace Program

/-- The program issues no request. -/
def Returns : Program Req Resp α → Prop
  | .ret _ => True
  | .call _ _ => False

/-- The program issues one request at most. -/
def Once : Program Req Resp α → Prop
  | .ret _ => True
  | .call _ next => ∀ answer, (next answer).Returns

theorem call_ne_ret {request : Req} {next : Resp request → Program Req Resp α} {value : α} :
    call request next ≠ .ret value := by
  intro same
  cases same

theorem run_of_returns {service : Service Req Resp σ ω} {τ ω' : Type}
    {other : Service Req Resp τ ω'} {program : Program Req Resp α} (returns : program.Returns)
    (weather : ℕ → ω) (state : σ) (weather' : ℕ → ω') (state' : τ) :
    (program.run service weather state).1 = (program.run other weather' state').1 := by
  cases program with
  | ret value => rfl
  | call request next => exact returns.elim

/-- **One request sees one moment.** -/
theorem run_observed_of_once {service : Service Req Resp σ ω} {program : Program Req Resp α}
    (once : program.Once) (weather : ℕ → ω × σ) :
    (program.run service.observed weather ()).1 =
      (program.run service (fun _ => (weather 0).1) (weather 0).2).1 := by
  cases program with
  | ret value => rfl
  | call request next =>
      rw [run_call, run_call, Service.observed_fst]
      exact run_of_returns (once _) _ _ _ _

theorem once_bind {β : Type} {program : Program Req Resp β} {rest : β → Program Req Resp α}
    (first : program.Once) (second : ∀ value, (rest value).Returns) :
    (program >>= rest).Once := by
  cases program with
  | ret value =>
      rw [ret_bind]
      cases last : rest value with
      | ret result => trivial
      | call request next =>
          have returns := second value
          rw [last] at returns
          exact returns.elim
  | call request next =>
      intro answer
      change (next answer >>= rest).Returns
      cases done : next answer with
      | ret value => exact second value
      | call request' next' =>
          have returns := first answer
          rw [done] at returns
          exact returns.elim

end Program

namespace Pool

variable [DecidableEq ι] (service : Service Req Resp σ ω)

/-- A turn of the thread in the run, and the state it finds. -/
def Moment (pool : Pool ι Req Resp α σ) (schedule : List (ι × ω)) (i : ι) (moment : ω × σ) :
    Prop :=
  ∃ earlier later, schedule = earlier ++ (i, moment.1) :: later ∧
    (pool.execute service earlier).state = moment.2

variable {service} {pool : Pool ι Req Resp α σ} {i : ι}

theorem Moment.cons {turn : ι × ω} {rest : List (ι × ω)} {moment : ω × σ}
    (later : (pool.step service turn).Moment service rest i moment) :
    pool.Moment service (turn :: rest) i moment := by
  obtain ⟨before, after, split, state⟩ := later
  exact ⟨turn :: before, after, by rw [split]; rfl, by rw [execute_cons]; exact state⟩

/-- **A thread that has returned is a run of its program alone.** -/
theorem exists_run_of_returned {schedule : List (ι × ω)} {value : α}
    (returned : (pool.execute service schedule).threads i = .ret value) :
    pool.threads i = .ret value ∨ ∃ weather : ℕ → ω × σ,
      (∀ n, pool.Moment service schedule i (weather n)) ∧
        ((pool.threads i).run service.observed weather ()).1 = value := by
  induction schedule generalizing pool with
  | nil => exact .inl returned
  | cons turn rest ih =>
      rw [execute_cons] at returned
      have later := ih returned
      by_cases mine : turn.1 = i
      · subst mine
        cases moved : pool.threads turn.1 with
        | ret other =>
            rw [step_ret moved, moved] at later
            refine later.imp id ?_
            rintro ⟨weather, moments, ran⟩
            refine ⟨weather, fun n => Moment.cons ?_, ran⟩
            rw [step_ret moved]
            exact moments n
        | call request next =>
            rw [step_threads_self moved] at later
            have here : pool.Moment service (turn :: rest) turn.1 (turn.2, pool.state) :=
              ⟨[], rest, rfl, rfl⟩
            refine .inr ?_
            rcases later with done | ⟨weather, moments, ran⟩
            · refine ⟨fun _ => (turn.2, pool.state), fun _ => here, ?_⟩
              rw [Program.run_call, Service.observed_fst, done, Program.run_ret]
            · refine ⟨fun n => n.casesOn (turn.2, pool.state) weather, fun n => ?_, ?_⟩
              · cases n with
                | zero => exact here
                | succ n => exact Moment.cons (moments n)
              · exact ran
      · rw [step_threads_of_ne (Ne.symm mine)] at later
        refine later.imp id ?_
        rintro ⟨weather, moments, ran⟩
        exact ⟨weather, fun n => Moment.cons (moments n), ran⟩

end Pool

end Foundations
