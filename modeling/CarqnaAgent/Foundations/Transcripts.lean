import Mathlib
import CarqnaAgent.Foundations.Observations

/-!
# What a program was answered

A transcript of a program is a list of requests with their answers after which it returns a
value. It is taken apart along `bind` (`transcript_bind`).

Every run has one (`transcript_run`). In a run of a thread among others each exchange is
answered at one of its moments (`answers_of_mem_exchanges`), and so it is in a run alone that
leaves the state as it is (`run_eq_observed`). So what is shown of every transcript with such
answers holds of both.
-/

set_option autoImplicit false

namespace Foundations

variable {Req : Type} {Resp : Req → Type} {α β σ ω : Type}

/-- A request and its answer. -/
abbrev Exchange (Req : Type) (Resp : Req → Type) := (request : Req) × Resp request

/-- The service answers the request so at the moment. -/
def Service.Answers (service : Service Req Resp σ ω) (moment : ω × σ)
    (exchange : Exchange Req Resp) : Prop :=
  exchange.2 = (service moment.1 moment.2 exchange.1).1

namespace Program

/-- The program returns the value after these exchanges. -/
def Transcript : Program Req Resp α → List (Exchange Req Resp) → α → Prop
  | .ret result, exchanges, value => exchanges = [] ∧ value = result
  | .call request next, exchanges, value =>
      ∃ answer later, exchanges = ⟨request, answer⟩ :: later ∧
        (next answer).Transcript later value

/-- **Sequencing rule.** -/
theorem transcript_bind {program : Program Req Resp β} {rest : β → Program Req Resp α}
    {exchanges : List (Exchange Req Resp)} {value : α} :
    (program >>= rest).Transcript exchanges value ↔
      ∃ first middle second, exchanges = first ++ second ∧ program.Transcript first middle ∧
        (rest middle).Transcript second value := by
  induction program generalizing exchanges with
  | ret result =>
      constructor
      · intro whole
        exact ⟨[], result, exchanges, rfl, ⟨rfl, rfl⟩, whole⟩
      · rintro ⟨_, _, second, rfl, ⟨rfl, rfl⟩, later⟩
        exact later
  | call request next ih =>
      constructor
      · rintro ⟨answer, later, rfl, whole⟩
        obtain ⟨first, middle, second, rfl, before, after⟩ := (ih answer).mp whole
        exact ⟨_ :: first, middle, second, rfl, ⟨answer, first, rfl, before⟩, after⟩
      · rintro ⟨_, middle, second, rfl, ⟨answer, first, rfl, before⟩, after⟩
        exact ⟨answer, first ++ second, rfl,
          (ih answer).mpr ⟨first, middle, second, rfl, before, after⟩⟩

/-! ## Runs -/

/-- The exchanges of a run. -/
def exchanges (service : Service Req Resp σ ω) :
    (ℕ → ω) → Program Req Resp α → σ → List (Exchange Req Resp)
  | _, .ret _, _ => []
  | weather, .call request next, state =>
      ⟨request, (service (weather 0) state request).1⟩ ::
        exchanges service (fun n => weather (n + 1)) (next (service (weather 0) state request).1)
          (service (weather 0) state request).2

section Runs

variable {service : Service Req Resp σ ω} {weather : ℕ → ω} {state : σ}

/-- **A run has a transcript.** -/
theorem transcript_run (program : Program Req Resp α) :
    program.Transcript (program.exchanges service weather state)
      (program.run service weather state).1 := by
  induction program generalizing weather state with
  | ret value => exact ⟨rfl, rfl⟩
  | call request next ih => exact ⟨_, _, rfl, ih _⟩

/-- What follows a program runs where it leaves off. -/
theorem run_bind (program : Program Req Resp β) (rest : β → Program Req Resp α) :
    (program >>= rest).run service weather state =
      (rest (program.run service weather state).1).run service
        (fun n => weather (n + (program.exchanges service weather state).length))
        (program.run service weather state).2 := by
  induction program generalizing weather state with
  | ret value => rfl
  | call request next ih => exact ih _

/-- To a program whose requests leave the state as it is, every moment is the same. -/
theorem run_eq_observed {keeps : Req → Prop}
    (kept : ∀ weather request, keeps request → (service weather state request).2 = state)
    {program : Program Req Resp α} (uses : program.Uses keeps) :
    program.run service weather state =
      ((program.run service.observed (fun n => (weather n, state)) ()).1, state) := by
  induction program generalizing weather with
  | ret value => rfl
  | call request next ih =>
      rw [run_call, run_call, Service.observed_fst, kept _ _ uses.1]
      exact ih _ (uses.2 _)

theorem exchanges_eq_observed {keeps : Req → Prop}
    (kept : ∀ weather request, keeps request → (service weather state request).2 = state)
    {program : Program Req Resp α} (uses : program.Uses keeps) :
    program.exchanges service weather state =
      program.exchanges service.observed (fun n => (weather n, state)) () := by
  induction program generalizing weather with
  | ret value => rfl
  | call request next ih =>
      rw [exchanges, exchanges, Service.observed_fst, kept _ _ uses.1]
      exact congrArg _ (ih _ (uses.2 _))

/-- **Among others, each exchange is answered at one of the moments.** -/
theorem answers_of_mem_exchanges {program : Program Req Resp α} {moments : ℕ → ω × σ}
    {exchange : Exchange Req Resp}
    (member : exchange ∈ program.exchanges service.observed moments ()) :
    ∃ n, service.Answers (moments n) exchange := by
  induction program generalizing moments with
  | ret value => cases member
  | call request next ih =>
      rcases List.mem_cons.mp member with rfl | later
      · exact ⟨0, rfl⟩
      · obtain ⟨n, answers⟩ := ih _ later
        exact ⟨n + 1, answers⟩

end Runs

end Program

end Foundations
