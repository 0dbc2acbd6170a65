import Mathlib

/-!
# Refinement of a specified machine

A machine answers inputs one after the other and keeps a state. What it is for is said by
a relation on abstract states: the state before, the input, the answer, the state after.

**When every step does what is specified, on the abstractions of its states, so does every
run** (`run_refines`).
-/

set_option autoImplicit false

namespace Foundations
namespace Refinement

variable {σ α ι ο : Type}

/-- Answer the inputs one after the other. -/
def run (step : ι → σ → ο × σ) : List ι → σ → List ο × σ
  | [], s => ([], s)
  | input :: inputs, s =>
      let later := run step inputs (step input s).2
      ((step input s).1 :: later.1, later.2)

section Append

variable {step : ι → σ → ο × σ}

theorem run_append (first second : List ι) (s : σ) :
    run step (first ++ second) s =
      ((run step first s).1 ++ (run step second (run step first s).2).1,
        (run step second (run step first s).2).2) := by
  induction first generalizing s with
  | nil => rfl
  | cons input first ih => simp only [List.cons_append, run, ih]

theorem run_length (inputs : List ι) (s : σ) : (run step inputs s).1.length = inputs.length := by
  induction inputs generalizing s with
  | nil => rfl
  | cons input inputs ih => simp only [run, List.length_cons, ih]

end Append

/-- The abstract runs: each step is a specified one. -/
inductive Runs (specified : α → ι → ο → α → Prop) : α → List ι → List ο → α → Prop where
  | nil (a : α) : Runs specified a [] [] a
  | cons {before between after : α} {input : ι} {answer : ο} {inputs : List ι} {answers : List ο}
      (first : specified before input answer between)
      (rest : Runs specified between inputs answers after) :
      Runs specified before (input :: inputs) (answer :: answers) after

/-- **Steps that do what is specified make runs that do.** -/
theorem run_refines {step : ι → σ → ο × σ} {specified : α → ι → ο → α → Prop}
    {abstraction : σ → α} {inputs : List ι}
    (refines : ∀ input ∈ inputs, ∀ s,
      specified (abstraction s) input (step input s).1 (abstraction (step input s).2)) (s : σ) :
    Runs specified (abstraction s) inputs (run step inputs s).1
      (abstraction (run step inputs s).2) := by
  induction inputs generalizing s with
  | nil => exact .nil _
  | cons input inputs ih =>
      obtain ⟨first, others⟩ := List.forall_mem_cons.mp refines
      exact .cons (first s) (ih others _)

end Refinement
end Foundations
