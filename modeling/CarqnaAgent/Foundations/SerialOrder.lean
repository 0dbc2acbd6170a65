import Mathlib
import CarqnaAgent.Foundations.Layers
import CarqnaAgent.Foundations.Observations
import CarqnaAgent.Foundations.Refinement

/-!
# Programs in the order of their ends

A program that changes the state with its last request only takes effect there. A run of such
programs is steady when whatever a program was answered on its way it would be answered at its
last request.

**A steady run is the run of its programs one after the other, in the order in which they
return** (`Pool.serial_of_steady`): the same values, the same state. A program that returns in the
run stands in that order once (`Pool.nodup_ended`, `Pool.threads_ret_iff`).
-/

set_option autoImplicit false

namespace Foundations

variable {Req : Type} {Resp : Req → Type} {α σ ω ι : Type}

namespace Program

/-! ## One program -/

/-- The value of a program that has returned. -/
def value? : Program Req Resp α → Option α
  | .ret value => some value
  | .call _ _ => none

/-- No request but the last one can change the state. -/
def EndsInEffect (keeps : Req → Prop) : Program Req Resp α → Prop
  | .ret _ => True
  | .call request next =>
      (keeps request ∨ ∀ answer, (next answer).Returns) ∧
        ∀ answer, (next answer).EndsInEffect keeps

theorem endsInEffect_of_uses {keeps : Req → Prop} {program : Program Req Resp α}
    (uses : program.Uses keeps) : program.EndsInEffect keeps := by
  induction program with
  | ret value => trivial
  | call request next ih => exact ⟨.inl uses.1, fun answer => ih answer (uses.2 answer)⟩

theorem Once.endsInEffect {keeps : Req → Prop} {program : Program Req Resp α}
    (once : program.Once) : program.EndsInEffect keeps := by
  cases program with
  | ret value => trivial
  | call request next =>
      refine ⟨.inr once, fun answer => ?_⟩
      have returns := once answer
      cases left : next answer with
      | ret value => trivial
      | call asked then_ =>
          rw [left] at returns
          exact returns.elim

theorem Returns.bind_ret {β : Type} {program : Program Req Resp α} (returns : program.Returns)
    (made : α → β) : (program >>= fun value => .ret (made value)).Returns := by
  cases program with
  | ret value => trivial
  | call request next => exact returns.elim

/-- What a program does with its value at the end is no request. -/
theorem EndsInEffect.bind_ret {β : Type} {keeps : Req → Prop} {program : Program Req Resp α}
    (effects : program.EndsInEffect keeps) (made : α → β) :
    (program >>= fun value => .ret (made value)).EndsInEffect keeps := by
  induction program with
  | ret value => trivial
  | call request next ih =>
      refine ⟨effects.1.imp id fun last answer => (last answer).bind_ret made, fun answer => ?_⟩
      exact ih answer (effects.2 answer)

/-- In a state that stays, the program gets to what is left of it. -/
def Replays (service : Service Req Resp σ ω) (state : σ) :
    List ω → Program Req Resp α → Program Req Resp α → Prop
  | [], program, left => program = left
  | _ :: _, .ret _, _ => False
  | weather :: rest, .call request next, left =>
      (service weather state request).2 = state ∧
        (next (service weather state request).1).Replays service state rest left

section Replays

variable {service : Service Req Resp σ ω} {state : σ} {weathers : List ω}
  {program : Program Req Resp α} {request : Req} {next : Resp request → Program Req Resp α}
  {weather : ω}

theorem Replays.concat (replays : program.Replays service state weathers (.call request next))
    (stays : (service weather state request).2 = state) :
    program.Replays service state (weathers ++ [weather])
      (next (service weather state request).1) := by
  induction weathers generalizing program with
  | nil =>
      cases replays
      exact ⟨stays, rfl⟩
  | cons first rest ih =>
      cases program with
      | ret value => exact replays.elim
      | call asked then_ => exact ⟨replays.1, ih replays.2⟩

/-- **A program that gets to its last request ends as in a run alone.** -/
theorem run_of_replays (replays : program.Replays service state weathers (.call request next))
    {value : α} (ends : next (service weather state request).1 = .ret value) :
    program.run service (fun n => weathers.getD n weather) state =
      (value, (service weather state request).2) := by
  induction weathers generalizing program with
  | nil =>
      cases replays
      change (next (service weather state request).1).run service _ _ = _
      rw [ends]
      rfl
  | cons first rest ih =>
      cases program with
      | ret value => exact replays.elim
      | call asked then_ =>
          change (then_ (service first state asked).1).run service
            (fun n => rest.getD n weather) (service first state asked).2 = _
          rw [replays.1]
          exact ih replays.2

end Replays

end Program

namespace Pool

/-! ## The order of the ends -/

/-- A call that returns: its thread, the weather of its requests, its value. -/
structure Ended (ι ω α : Type) where
  thread : ι
  weather : ℕ → ω
  value : α

variable [DecidableEq ι] (service : Service Req Resp σ ω) (pool : Pool ι Req Resp α σ)

/-- What the thread of a turn returns in it. -/
def ending (turn : ι × ω) : Option α :=
  match pool.threads turn.1 with
  | .ret _ => none
  | .call request next => (next (service turn.2 pool.state request).1).value?

/-- The calls that return in a run, after some of its turns, in the order in which they do. -/
def endedAfter : List (ι × ω) → List (ι × ω) → List (Ended ι ω α)
  | _, [] => []
  | earlier, turn :: rest =>
      (((pool.execute service earlier).ending service turn).map fun value =>
        { thread := turn.1
          weather := fun n => (turnsOf earlier turn.1).getD n turn.2
          value := value }).toList ++ endedAfter (earlier ++ [turn]) rest

/-- What a thread was answered, it would be answered at its last request. -/
def Steady (schedule : List (ι × ω)) : Prop :=
  ∀ earlier turn later, schedule = earlier ++ turn :: later →
    ((pool.execute service earlier).ending service turn).isSome = true →
    ∀ before weather between, earlier = before ++ (turn.1, weather) :: between →
    ∀ request next, (pool.execute service before).threads turn.1 = .call request next →
      (service weather (pool.execute service earlier).state request).1 =
        (service weather (pool.execute service before).state request).1

variable {service pool} {turn : ι × ω}

theorem execute_concat (earlier : List (ι × ω)) :
    pool.execute service (earlier ++ [turn]) = (pool.execute service earlier).step service turn :=
  execute_append earlier [turn]

omit [DecidableEq ι] in
theorem ending_ret {value : α} (returned : pool.threads turn.1 = .ret value) :
    pool.ending service turn = none := by
  rw [ending, returned]

section Calling

variable {request : Req} {next : Resp request → Program Req Resp α}
  (calling : pool.threads turn.1 = .call request next)
include calling

theorem ending_call :
    pool.ending service turn = ((pool.step service turn).threads turn.1).value? := by
  rw [step_threads_self calling, ending, calling]

end Calling

/-- A turn that ends its thread, and no other, leaves it with a value. -/
theorem step_threads_of_ending {value : α} (ends : pool.ending service turn = some value) :
    (pool.step service turn).threads turn.1 = .ret value := by
  cases calling : pool.threads turn.1 with
  | ret other =>
      rw [ending_ret calling] at ends
      cases ends
  | call request next =>
      rw [ending_call calling] at ends
      cases left : (pool.step service turn).threads turn.1 with
      | ret other =>
          rw [left] at ends
          cases ends
          rfl
      | call asked then_ =>
          rw [left] at ends
          cases ends

omit [DecidableEq ι] in
/-- A turn that ends its thread finds it calling. -/
theorem exists_calling_of_ending (ends : (pool.ending service turn).isSome = true) :
    ∃ request next, pool.threads turn.1 = .call request next := by
  cases calling : pool.threads turn.1 with
  | ret value =>
      rw [ending_ret calling] at ends
      cases ends
  | call request next => exact ⟨request, next, rfl⟩

/-- What has returned stays. -/
theorem threads_ret_execute {i : ι} {value : α} (returned : pool.threads i = .ret value)
    (schedule : List (ι × ω)) : (pool.execute service schedule).threads i = .ret value := by
  induction schedule generalizing pool with
  | nil => exact returned
  | cons turn rest ih =>
      rw [execute_cons]
      refine ih ?_
      by_cases mine : i = turn.1
      · subst mine
        rw [step_ret returned, returned]
      · rw [step_threads_of_ne mine, returned]

theorem turnsOf_concat_self (earlier : List (ι × ω)) :
    turnsOf (earlier ++ [turn]) turn.1 = turnsOf earlier turn.1 ++ [turn.2] := by
  simp [turnsOf]

theorem turnsOf_concat_of_ne {i : ι} (other : i ≠ turn.1) (earlier : List (ι × ω)) :
    turnsOf (earlier ++ [turn]) i = turnsOf earlier i := by
  simp [turnsOf, Ne.symm other]

/-- A thread that uses allowed requests does at every moment of a run. -/
theorem uses_execute {allowed : ι → Req → Prop} (uses : ∀ i, (pool.threads i).Uses (allowed i))
    (schedule : List (ι × ω)) (i : ι) :
    ((pool.execute service schedule).threads i).Uses (allowed i) := by
  induction schedule generalizing pool with
  | nil => exact uses i
  | cons turn rest ih => exact ih (step_uses uses turn)

/-! ## Programs that end in their effect -/

section Effects

variable {keeps : Req → Prop}
  (kept : ∀ request, keeps request → ∀ weather state, (service weather state request).2 = state)
  (effects : ∀ i, (pool.threads i).EndsInEffect keeps)
include effects

theorem endsInEffect_execute (schedule : List (ι × ω)) (i : ι) :
    ((pool.execute service schedule).threads i).EndsInEffect keeps := by
  induction schedule generalizing pool with
  | nil => exact effects i
  | cons turn rest ih =>
      rw [execute_cons]
      refine ih fun j => ?_
      cases moved : pool.threads turn.1 with
      | ret value =>
          rw [step_ret moved]
          exact effects j
      | call request next =>
          by_cases mine : j = turn.1
          · subst mine
            rw [step_threads_self moved]
            have whole := effects turn.1
            rw [moved] at whole
            exact whole.2 _
          · rw [step_threads_of_ne mine]
            exact effects j

/-- A thread that calls again after a request has kept the state with it. -/
theorem keeps_of_calling {i : ι} {before between : List (ι × ω)} {weather : ω}
    {request asked : Req} {next : Resp request → Program Req Resp α}
    {then_ : Resp asked → Program Req Resp α}
    (calling : (pool.execute service before).threads i = .call request next)
    (again : (pool.execute service (before ++ (i, weather) :: between)).threads i =
      .call asked then_) : keeps request := by
  have whole : ((pool.execute service before).threads i).EndsInEffect keeps :=
    endsInEffect_execute effects before i
  rw [calling] at whole
  refine whole.1.resolve_right fun last => ?_
  have returns := last (service weather (pool.execute service before).state request).1
  have here : (pool.execute service before).threads (i, weather).1 = .call request next := calling
  have moved : ((pool.execute service before).step service (i, weather)).threads i =
      next (service weather (pool.execute service before).state request).1 :=
    step_threads_self here
  rw [execute_append, execute_cons] at again
  cases left : next (service weather (pool.execute service before).state request).1 with
  | ret value =>
      rw [threads_ret_execute (moved.trans left) between] at again
      cases again
  | call other after =>
      rw [left] at returns
      exact returns.elim

include kept

/-- A turn that does not end its thread changes no state. -/
theorem step_state_of_ending_none (goes : pool.ending service turn = none) :
    (pool.step service turn).state = pool.state := by
  cases moved : pool.threads turn.1 with
  | ret value => rw [step_ret moved]
  | call request next =>
      rw [step_state moved]
      have whole := effects turn.1
      rw [moved] at whole
      rcases whole.1 with keeping | last
      · exact kept request keeping _ _
      · rw [ending_call moved, step_threads_self moved] at goes
        have returns := last (service turn.2 pool.state request).1
        cases left : next (service turn.2 pool.state request).1 with
        | ret value =>
            rw [left] at goes
            cases goes
        | call asked then_ =>
            rw [left] at returns
            exact returns.elim

/-- **A thread that would be answered the same in one state gets to where it is in that state.** -/
theorem replays_turnsOf {i : ι} {state : σ} {earlier : List (ι × ω)}
    (same : ∀ before weather between, earlier = before ++ (i, weather) :: between →
      ∀ request next, (pool.execute service before).threads i = .call request next →
        (service weather state request).1 =
          (service weather (pool.execute service before).state request).1)
    {request : Req} {next : Resp request → Program Req Resp α}
    (now : (pool.execute service earlier).threads i = .call request next) :
    (pool.threads i).Replays service state (turnsOf earlier i) (.call request next) := by
  induction earlier using List.reverseRecOn generalizing request next with
  | nil => exact now
  | append_singleton earlier turn ih =>
      rw [execute_concat] at now
      have before : ∀ {asked : Req} {then_ : Resp asked → Program Req Resp α},
          (pool.execute service earlier).threads i = .call asked then_ →
            (pool.threads i).Replays service state (turnsOf earlier i) (.call asked then_) :=
        ih fun before weather between split => same before weather (between ++ [turn]) (by
          rw [split, List.append_assoc, List.cons_append])
      by_cases mine : i = turn.1
      · subst mine
        cases moved : (pool.execute service earlier).threads turn.1 with
        | ret value =>
            rw [step_ret moved, moved] at now
            cases now
        | call asked then_ =>
            have answer := same earlier turn.2 [] rfl asked then_ moved
            rw [step_threads_self moved, ← answer] at now
            have whole : ((pool.execute service earlier).threads turn.1).EndsInEffect keeps :=
              endsInEffect_execute effects earlier turn.1
            rw [moved] at whole
            have stays : (service turn.2 state asked).2 = state := by
              rcases whole.1 with keeping | last
              · exact kept asked keeping _ _
              · have returns := last (service turn.2 state asked).1
                rw [now] at returns
                exact returns.elim
            rw [turnsOf_concat_self, ← now]
            exact (before moved).concat stays
      · rw [step_threads_of_ne mine] at now
        rw [turnsOf_concat_of_ne mine]
        exact before now

/-- **A call that ends runs as it would alone, all of it in the state of its last request.** -/
theorem run_of_ending {earlier later : List (ι × ω)}
    (steady : pool.Steady service (earlier ++ turn :: later)) {value : α}
    (ends : (pool.execute service earlier).ending service turn = some value) :
    (pool.threads turn.1).run service (fun n => (turnsOf earlier turn.1).getD n turn.2)
        (pool.execute service earlier).state =
      (value, (pool.execute service (earlier ++ [turn])).state) := by
  rw [execute_concat]
  have left := step_threads_of_ending ends
  cases moved : (pool.execute service earlier).threads turn.1 with
  | ret other =>
      rw [ending_ret moved] at ends
      cases ends
  | call request next =>
      rw [step_threads_self moved] at left
      rw [step_state moved]
      refine Program.run_of_replays (replays_turnsOf kept effects ?_ moved) left
      exact steady earlier turn later rfl (Option.isSome_iff_exists.mpr ⟨value, ends⟩)

/-- From any moment of a steady run. -/
theorem serial_endedAfter {earlier schedule : List (ι × ω)}
    (steady : pool.Steady service (earlier ++ schedule)) :
    Refinement.run (fun (call : Ended ι ω α) state =>
        (pool.threads call.thread).run service call.weather state)
      (pool.endedAfter service earlier schedule) (pool.execute service earlier).state =
      ((pool.endedAfter service earlier schedule).map Ended.value,
        (pool.execute service (earlier ++ schedule)).state) := by
  induction schedule generalizing earlier with
  | nil =>
      rw [List.append_nil]
      rfl
  | cons turn rest ih =>
      have onward := @ih (earlier ++ [turn]) (by rwa [List.append_assoc])
      rw [List.append_assoc] at onward
      rw [endedAfter]
      cases ends : (pool.execute service earlier).ending service turn with
      | none =>
          rw [execute_concat, step_state_of_ending_none kept
            (endsInEffect_execute effects earlier) ends] at onward
          exact onward
      | some value =>
          have alone := run_of_ending kept effects steady ends
          change Refinement.run _ ({ thread := turn.1, weather := _, value := value } ::
            pool.endedAfter service (earlier ++ [turn]) rest) _ = _
          rw [Refinement.run]
          simp only [alone]
          rw [onward]
          rfl

end Effects

section Once

variable {i : ι}

/-- A turn of a program with one request leaves it returned. -/
theorem returns_step_of_once {weather : ω} (once : (pool.threads i).Once) :
    ((pool.step service (i, weather)).threads i).Returns := by
  cases moved : pool.threads i with
  | ret value =>
      have idle : pool.threads (i, weather).1 = .ret value := moved
      rw [step_ret idle, moved]
      trivial
  | call request next =>
      have calling : pool.threads (i, weather).1 = .call request next := moved
      rw [moved] at once
      rw [step_threads_self calling]
      exact once _

theorem once_execute (once : (pool.threads i).Once) (schedule : List (ι × ω)) :
    ((pool.execute service schedule).threads i).Once := by
  induction schedule generalizing pool with
  | nil => exact once
  | cons turn rest ih =>
      rw [execute_cons]
      refine ih ?_
      by_cases mine : i = turn.1
      · subst mine
        have returns : ((pool.step service turn).threads turn.1).Returns :=
          returns_step_of_once once
        cases left : (pool.step service turn).threads turn.1 with
        | ret value => trivial
        | call request next =>
            rw [left] at returns
            exact returns.elim
      · rw [step_threads_of_ne mine]
        exact once

/-- A program with one request does not call after a turn. -/
theorem not_calling_of_once (once : (pool.threads i).Once) {before between : List (ι × ω)}
    {weather : ω} {request : Req} {next : Resp request → Program Req Resp α} :
    (pool.execute service (before ++ (i, weather) :: between)).threads i ≠ .call request next := by
  intro calling
  rw [execute_append, execute_cons] at calling
  have returns : (((pool.execute service before).step service (i, weather)).threads i).Returns :=
    returns_step_of_once (once_execute once before)
  cases left : ((pool.execute service before).step service (i, weather)).threads i with
  | ret value =>
      rw [threads_ret_execute left between] at calling
      cases calling
  | call asked then_ =>
      rw [left] at returns
      exact returns.elim

end Once

/-! ## Who stands in the order -/

theorem endedAfter_cons_none {earlier rest : List (ι × ω)}
    (goes : (pool.execute service earlier).ending service turn = none) :
    pool.endedAfter service earlier (turn :: rest) =
      pool.endedAfter service (earlier ++ [turn]) rest := by
  rw [endedAfter, goes]
  rfl

theorem endedAfter_cons_some {earlier rest : List (ι × ω)} {value : α}
    (ends : (pool.execute service earlier).ending service turn = some value) :
    pool.endedAfter service earlier (turn :: rest) =
      { thread := turn.1
        weather := fun n => (turnsOf earlier turn.1).getD n turn.2
        value := value } :: pool.endedAfter service (earlier ++ [turn]) rest := by
  rw [endedAfter, ends]
  rfl

/-- A call that returns later has not returned yet. -/
theorem not_ret_of_mem_endedAfter {earlier schedule : List (ι × ω)} {call : Ended ι ω α}
    (member : call ∈ pool.endedAfter service earlier schedule) (value : α) :
    (pool.execute service earlier).threads call.thread ≠ .ret value := by
  intro returned
  induction schedule generalizing earlier with
  | nil => cases member
  | cons turn rest ih =>
      have still : (pool.execute service (earlier ++ [turn])).threads call.thread = .ret value := by
        rw [execute_append]
        exact threads_ret_execute returned [turn]
      cases ends : (pool.execute service earlier).ending service turn with
      | none =>
          rw [endedAfter_cons_none ends] at member
          exact ih member still
      | some other =>
          rw [endedAfter_cons_some ends] at member
          rcases List.mem_cons.mp member with rfl | later
          · rw [ending_ret returned] at ends
            cases ends
          · exact ih later still

theorem nodup_endedAfter {earlier schedule : List (ι × ω)} :
    ((pool.endedAfter service earlier schedule).map Ended.thread).Nodup := by
  induction schedule generalizing earlier with
  | nil => exact .nil
  | cons turn rest ih =>
      cases ends : (pool.execute service earlier).ending service turn with
      | none =>
          rw [endedAfter_cons_none ends]
          exact ih
      | some value =>
          rw [endedAfter_cons_some ends]
          refine List.nodup_cons.mpr ⟨fun member => ?_, ih⟩
          obtain ⟨call, later, same⟩ := List.mem_map.mp member
          refine not_ret_of_mem_endedAfter later value ?_
          rw [same, execute_concat]
          exact step_threads_of_ending ends

/-- A turn that is not the end of a thread returns nothing new. -/
theorem ret_before_of_ret_after {i : ι} {value : α}
    (returned : (pool.step service turn).threads i = .ret value)
    (fresh : i = turn.1 → pool.ending service turn = none) : pool.threads i = .ret value := by
  by_cases mine : i = turn.1
  · subst mine
    cases moved : pool.threads turn.1 with
    | ret other =>
        rw [step_ret moved, moved] at returned
        exact returned
    | call request next =>
        have goes := fresh rfl
        rw [ending_call moved, returned] at goes
        cases goes
  · rwa [step_threads_of_ne mine] at returned

/-- A turn that ends its thread returns what it returns, and nothing else new. -/
theorem step_ret_iff_of_ending {i : ι} {value other : α}
    (ends : pool.ending service turn = some other) :
    (pool.step service turn).threads i = .ret value ↔
      pool.threads i = .ret value ∨ turn.1 = i ∧ other = value := by
  constructor
  · intro after
    by_cases mine : turn.1 = i
    · subst mine
      rw [step_threads_of_ending ends] at after
      exact .inr ⟨rfl, Program.ret.inj after⟩
    · exact .inl (ret_before_of_ret_after after fun same => absurd same.symm mine)
  · rintro (before | ⟨rfl, rfl⟩)
    · exact threads_ret_execute before [turn]
    · exact step_threads_of_ending ends

/-- **What has returned at the end of a run is in the order, or had returned before.** -/
theorem threads_ret_iff (earlier schedule : List (ι × ω)) {i : ι} {value : α} :
    (pool.execute service (earlier ++ schedule)).threads i = .ret value ↔
      (pool.execute service earlier).threads i = .ret value ∨
        ∃ call ∈ pool.endedAfter service earlier schedule, call.thread = i ∧ call.value = value := by
  induction schedule generalizing earlier with
  | nil => simp [endedAfter]
  | cons turn rest ih =>
      rw [show earlier ++ turn :: rest = (earlier ++ [turn]) ++ rest by simp, ih, execute_concat]
      cases ends : (pool.execute service earlier).ending service turn with
      | none =>
          rw [endedAfter_cons_none ends]
          refine or_congr_left ⟨fun after => ret_before_of_ret_after after fun _ => ends,
            fun before => threads_ret_execute before [turn]⟩
      | some other =>
          rw [endedAfter_cons_some ends, List.exists_mem_cons_iff, ← or_assoc]
          exact or_congr_left (step_ret_iff_of_ending ends)

/-! ## The whole run -/

variable (service pool)

/-- The calls that return in a run, in the order in which they do. -/
def ended (schedule : List (ι × ω)) : List (Ended ι ω α) := pool.endedAfter service [] schedule

variable {service pool}

theorem threads_ret_iff_ended (schedule : List (ι × ω)) {i : ι} {value : α} :
    (pool.execute service schedule).threads i = .ret value ↔
      pool.threads i = .ret value ∨
        ∃ call ∈ pool.ended service schedule, call.thread = i ∧ call.value = value :=
  threads_ret_iff [] schedule

/-- **A steady run is serial.** -/
theorem serial_of_steady {keeps : Req → Prop}
    (kept : ∀ request, keeps request → ∀ weather state, (service weather state request).2 = state)
    (effects : ∀ i, (pool.threads i).EndsInEffect keeps) {schedule : List (ι × ω)}
    (steady : pool.Steady service schedule) :
    Refinement.run (fun (call : Ended ι ω α) state =>
        (pool.threads call.thread).run service call.weather state)
      (pool.ended service schedule) pool.state =
      ((pool.ended service schedule).map Ended.value, (pool.execute service schedule).state) :=
  serial_endedAfter kept effects steady

end Pool

end Foundations
