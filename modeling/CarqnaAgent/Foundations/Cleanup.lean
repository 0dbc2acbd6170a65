import Mathlib
import CarqnaAgent.Foundations.Knowledge

/-!
# Cleaning up

Programs that return or raise: `andThen` goes on with what was returned, and `ensuring` has a
cleanup that comes after its body whatever the body comes to, as `finally` and the end of
`async with` do. Both have a rule for `Within`.

A run of a program with any answers is a list of events that leads from it to what is left of it
(`Leads`). **What `Within` says of a program holds at every moment of every such run**
(`within_leads`).
-/

set_option autoImplicit false

namespace Foundations
namespace Program

variable {Req : Type} {Resp : Req → Type} {α β ε κ : Type}

/-! ## Returning and raising -/

/-- Go on with what is returned; what is raised is raised. -/
def andThen (first : Program Req Resp (Except ε α))
    (rest : α → Program Req Resp (Except ε β)) : Program Req Resp (Except ε β) := do
  match ← first with
  | .error error => return .error error
  | .ok value => rest value

/-- Clean up after the body. What the cleanup raises takes the place of what the body came to. -/
def ensuring (cleanup : Program Req Resp (Except ε Unit))
    (body : Program Req Resp (Except ε α)) : Program Req Resp (Except ε α) := do
  let outcome ← body
  let cleaned ← cleanup
  return cleaned.bind fun _ => outcome

section Rules

variable {learn : (request : Req) → Resp request → κ → κ} {allowed : κ → Req → Prop} {known : κ}

theorem within_andThen {first : Program Req Resp (Except ε α)}
    {rest : α → Program Req Resp (Except ε β)} {post : Except ε β → κ → Prop}
    (between : Except ε α → κ → Prop) (begins : first.Within learn allowed between known)
    (raises : ∀ error later, between (.error error) later → post (.error error) later)
    (goes : ∀ value later, between (.ok value) later →
      (rest value).Within learn allowed post later) :
    (first.andThen rest).Within learn allowed post known := by
  refine within_bind (within_mono begins ?_)
  intro outcome later here
  cases outcome with
  | error error => exact raises error later here
  | ok value => exact goes value later here

theorem within_ensuring {cleanup : Program Req Resp (Except ε Unit)}
    {body : Program Req Resp (Except ε α)} {post : Except ε α → κ → Prop}
    (between : Except ε α → κ → Prop) (first : body.Within learn allowed between known)
    (last : ∀ outcome later, between outcome later →
      cleanup.Within learn allowed (fun cleaned => post (cleaned.bind fun _ => outcome)) later) :
    (ensuring cleanup body).Within learn allowed post known := by
  refine within_bind (within_mono first ?_)
  intro outcome later here
  exact within_bind (within_mono (last outcome later here) fun cleaned final ended => ended)

end Rules

/-! ## Runs with any answers -/

/-- What a program asks and is answered leads to what is left of it. -/
inductive Leads : Program Req Resp α → List ((request : Req) × Resp request) →
    Program Req Resp α → Prop where
  | nil (program : Program Req Resp α) : Leads program [] program
  | cons {request : Req} {next : Resp request → Program Req Resp α} {answer : Resp request}
      {events : List ((request : Req) × Resp request)} {left : Program Req Resp α}
      (later : Leads (next answer) events left) :
      Leads (.call request next) (⟨request, answer⟩ :: events) left

variable (learn : (request : Req) → Resp request → κ → κ)

/-- What is known after some events. -/
def knownAfter (events : List ((request : Req) × Resp request)) (known : κ) : κ :=
  events.foldl (fun known event => learn event.1 event.2 known) known

variable {learn} {allowed : κ → Req → Prop} {post : α → κ → Prop}

/-- **At every moment of a run what is asked is allowed**, and so is what is left. -/
theorem within_leads {program left : Program Req Resp α}
    {events : List ((request : Req) × Resp request)} (leads : program.Leads events left)
    {known : κ} (within : program.Within learn allowed post known) :
    (∀ earlier event later, events = earlier ++ event :: later →
      allowed (knownAfter learn earlier known) event.1) ∧
    left.Within learn allowed post (knownAfter learn events known) := by
  induction leads generalizing known with
  | nil program =>
      refine ⟨fun earlier event later split => ?_, within⟩
      exact absurd split.symm (List.append_ne_nil_of_right_ne_nil _ (List.cons_ne_nil _ _))
  | cons later ih =>
      obtain ⟨asked, final⟩ := ih (within.2 _)
      refine ⟨fun earlier event after split => ?_, final⟩
      cases earlier with
      | nil =>
          cases split
          exact within.1
      | cons first earlier =>
          obtain ⟨rfl, same⟩ := List.cons.inj split
          exact asked earlier event after same

end Program
end Foundations
