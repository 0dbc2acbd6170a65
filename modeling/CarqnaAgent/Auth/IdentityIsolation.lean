import Mathlib
import CarqnaAgent.Auth.Middleware

/-!
# Identities do not cross requests

The log of a task is sound when each entry is justified by the entries before it:
the application is entered only after the request's own token has been verified, an
accessor answers with the identity of its own request, a rejected request has neither
entered the application nor set the context, and a request ends in the context it
began in (`Justified`).

`During` is what holds while a task serves one request; every effect keeps it
(`During.record`), so the log of a task is sound at every step
(`serve_always`), and so it is in every interleaving of any number of tasks
(`identities_isolated`).
-/

set_option autoImplicit false

namespace CarqnaAgent.Auth

open Foundations

variable {Value : Type} [Truthy Value]

/-! ## Sound logs -/

/-- The context is the identity of the request: the verified claims of its own token. -/
def OwnIdentity (scope : Scope) (n : ℕ) (before : List (ℕ × Event Value))
    (ctx : AuthContext Value) : Prop :=
  getBearerToken scope.authorization = .ok ctx.access_token ∧
    (n, Event.decoded ctx.access_token (.ok ctx.claims)) ∈ before ∧
    subject ctx.claims = some ctx.user_id

/-- The context a request may run its handler in: none on a bypassed path, else its own
identity. -/
def Entitled (scope : Scope) (n : ℕ) (before : List (ℕ × Event Value)) :
    Option (AuthContext Value) → Prop
  | none => scope.bypasses = true
  | some ctx => scope.bypasses = false ∧ OwnIdentity scope n before ctx

/-- An entry of the log of a task is justified by the entries before it. -/
def Justified (scopes : List Scope) (before : List (ℕ × Event Value)) : ℕ × Event Value → Prop
  | (n, .began _) => ∀ event, (n, event) ∉ before
  | (n, .contextSet) => ∀ status_code detail, (n, .rejected status_code detail) ∉ before
  | (n, .entered) => (∀ status_code detail, (n, .rejected status_code detail) ∉ before) ∧
      ∃ scope context, scopes[n]? = some scope ∧ Entitled scope n before context
  | (n, .accessed accessor answer) => ∃ scope context, scopes[n]? = some scope ∧
      Entitled scope n before context ∧ answer = accessor.call context
  | (n, .rejected _ _) => (n, .contextSet) ∉ before ∧ (n, .entered) ∉ before
  | (n, .finished context) => (n, .began context) ∈ before
  | _ => True

/-- Every entry is justified. -/
def Sound (scopes : List Scope) (log : List (ℕ × Event Value)) : Prop :=
  ∀ before entry after, log = before ++ entry :: after → Justified scopes before entry

theorem Sound.append {scopes : List Scope} {log : List (ℕ × Event Value)}
    {entry : ℕ × Event Value} (sound : Sound scopes log) (justified : Justified scopes log entry) :
    Sound scopes (log ++ [entry]) := by
  intro before other after split
  induction after using List.reverseRecOn with
  | nil =>
      obtain ⟨rfl, last⟩ := List.append_inj' split rfl
      cases last
      exact justified
  | append_singleton after last =>
      rw [← List.cons_append, ← List.append_assoc] at split
      exact sound before other after (List.append_inj' split rfl).1

/-- Two entries that each exclude the other before them are not both in a sound log. -/
theorem Sound.not_both {scopes : List Scope} {log : List (ℕ × Event Value)}
    (sound : Sound scopes log) {first second : ℕ × Event Value} (member : first ∈ log)
    (different : first ≠ second)
    (firstExcludes : ∀ before, Justified scopes before first → second ∉ before)
    (secondExcludes : ∀ before, Justified scopes before second → first ∉ before) :
    second ∉ log := by
  intro other
  obtain ⟨before, after, split⟩ := List.append_of_mem member
  rw [split] at other
  rcases List.mem_append.mp other with earlier | later
  · exact firstExcludes before (sound before first after split) earlier
  · rcases List.mem_cons.mp later with same | later
    · exact different same.symm
    · obtain ⟨between, rest, tail⟩ := List.append_of_mem later
      have justified := sound (before ++ first :: between) second rest (by simp [split, tail])
      exact secondExcludes _ justified (by simp)

theorem Entitled.append {scope : Scope} {n : ℕ} {before : List (ℕ × Event Value)}
    {context : Option (AuthContext Value)} (entitled : Entitled scope n before context)
    (entry : ℕ × Event Value) : Entitled scope n (before ++ [entry]) context := by
  cases context with
  | none => exact entitled
  | some ctx =>
      obtain ⟨guarded, token, decoded, sub⟩ := entitled
      exact ⟨guarded, token, List.mem_append_left _ decoded, sub⟩

/-! ## During a request -/

/-- The request has not been rejected. -/
def Admitted (n : ℕ) (log : List (ℕ × Event Value)) : Prop :=
  ∀ status_code detail, (n, Event.rejected status_code detail) ∉ log

/-- The request has neither set the context nor entered the application. -/
def Untouched (n : ℕ) (log : List (ℕ × Event Value)) : Prop :=
  (n, Event.contextSet) ∉ log ∧ (n, Event.entered) ∉ log

omit [Truthy Value] in
theorem not_mem_log_append {log : List (ℕ × Event Value)} {entry last : ℕ × Event Value}
    (missing : entry ∉ log) (different : entry ≠ last) : entry ∉ log ++ [last] := by
  intro member
  rcases List.mem_append.mp member with earlier | now
  · exact missing earlier
  · exact different (List.mem_singleton.mp now)

/-- What holds while a task serves request `n`: the log is sound and of the requests so far,
the earlier ones have ended, and the context is `context`. -/
structure During (scopes : List Scope) (n : ℕ) (context : Option (AuthContext Value))
    (state : TaskState Value) : Prop where
  sound : Sound scopes state.log
  context : state.context = context
  started : ∀ entry ∈ state.log, entry.1 ≤ n
  began : (n, .began none) ∈ state.log
  ended : ∀ m < n, (m, .finished none) ∈ state.log

section Record

variable {scopes : List Scope} {n : ℕ} {context : Option (AuthContext Value)}
  {state : TaskState Value} (during : During scopes n context state) (event : Event Value)
  (justified : Justified scopes state.log (n, event))
include during justified

/-- **Every justified effect keeps it.** -/
theorem During.record (next : Option (AuthContext Value)) :
    During scopes n next (state.record n event next) where
  sound := during.sound.append justified
  context := rfl
  started entry member := by
    rcases List.mem_append.mp member with earlier | now
    · exact during.started entry earlier
    · rw [List.mem_singleton.mp now]
  began := List.mem_append_left _ during.began
  ended m before := List.mem_append_left _ (during.ended m before)

/-- An effect that leaves the context alone. -/
theorem During.note : During scopes n context (state.record n event state.context) := by
  have kept := during.record event justified state.context
  rwa [during.context] at kept ⊢

end Record

/-- The log is sound in every state a program of a task passes through. -/
abbrev Safe {α : Type} (scopes : List Scope) (program : TaskProgram Value α)
    (post : α → TaskState Value → Prop) (state : TaskState Value) : Prop :=
  program.Always task (fun later => Sound scopes later.log) post state

section Request

variable {scopes : List Scope} {n : ℕ} {scope : Scope} (served : scopes[n]? = some scope)
  {state : TaskState Value}

include served in
/-- A handler in an entitled context: its accessors answer with that context. -/
theorem handler_safe (handler : Program HandlerStep (HandlerStep.Answer Value) Outcome)
    {context : Option (AuthContext Value)} (during : During scopes n context state)
    (entitled : Entitled scope n state.log context) :
    Safe scopes (handler.interpret (HandlerStep.perform n))
      (fun _ later => During scopes n context later) state := by
  induction handler generalizing state with
  | ret outcome => exact Program.always_ret during.sound during
  | call step next ih =>
      cases step with
      | access accessor =>
          refine Program.always_call during.sound fun circumstance =>
            ih _ (during.note _ ⟨scope, context, served, entitled, ?_⟩) (entitled.append _)
          rw [during.context]
      | await =>
          exact Program.always_call during.sound fun circumstance =>
            ih _ (during.note _ trivial) (entitled.append _)

include served in
theorem runApp_safe (app : App Value) {context : Option (AuthContext Value)}
    (during : During scopes n context state) (entitled : Entitled scope n state.log context)
    (admitted : Admitted n state.log) :
    Safe scopes (runApp app n scope) (fun _ later => During scopes n context later) state :=
  Program.always_call during.sound fun _ =>
    handler_safe served (app scope) (during.note _ ⟨admitted, scope, context, served, entitled⟩)
      (entitled.append _)

include served in
theorem runAs_safe (app : App Value) {ctx : AuthContext Value}
    (during : During scopes n none state) (guarded : scope.bypasses = false)
    (own : OwnIdentity scope n state.log ctx) (admitted : Admitted n state.log) :
    Safe scopes (runAs app n scope ctx) (fun _ later => During scopes n none later) state := by
  have set := during.record .contextSet admitted (some ctx)
  have entitled : Entitled scope n state.log (some ctx) := ⟨guarded, own⟩
  have runs : Safe scopes (do
      let outcome ← runApp app n scope
      issue n (.resetContext state.context)
      return outcome) (fun _ later => During scopes n none later)
      (state.record n .contextSet (some ctx)) := by
    refine Program.always_bind (Program.always_mono
      (runApp_safe served app set (entitled.append _)
        fun status_code detail => not_mem_log_append (admitted status_code detail) nofun) ?_)
    · intro outcome later _ inside
      have reset := inside.record .contextReset trivial state.context
      refine Program.always_call inside.sound fun circumstance =>
        Program.always_ret reset.sound ?_
      rw [during.context] at reset ⊢
      exact reset
  exact Program.always_call during.sound fun circumstance => runs

theorem refuse_safe (exception : PyException) (during : During scopes n none state)
    (untouched : Untouched n state.log) :
    Safe scopes (refuse n exception) (fun _ later => During scopes n none later) state := by
  cases exception with
  | httpException status_code detail =>
      refine Program.always_call during.sound fun circumstance => ?_
      have noted := during.note (.rejected status_code detail) untouched
      exact Program.always_ret noted.sound noted
  | runtimeError message => exact Program.always_ret during.sound during
  | keyError key => exact Program.always_ret during.sound during
  | other text => exact Program.always_ret during.sound during

include served in
/-- After the verification: a request with no verified claims is refused, the others run as
themselves. -/
theorem dispatch_safe (app : App Value) {token : PyStr}
    (bearer : getBearerToken scope.authorization = .ok token) (guarded : scope.bypasses = false)
    {decoded : Except DecodeError (Claims Value)}
    (verified : (n, .decoded token decoded) ∈ state.log) (during : During scopes n none state)
    (untouched : Untouched n state.log) (admitted : Admitted n state.log) :
    Safe scopes (dispatch app n scope token (checkClaims decoded))
      (fun _ later => During scopes n none later) state := by
  cases checked : checkClaims decoded with
  | error exception => exact refuse_safe exception during untouched
  | ok claims =>
      obtain ⟨rfl, sub, found⟩ := checkClaims_eq_ok checked
      obtain ⟨looked, -⟩ := Option.filter_eq_some_iff.mp found
      simp only [dispatch, looked]
      exact runAs_safe served app during guarded ⟨bearer, verified, found⟩ admitted

include served in
/-- **The middleware on one request: whatever path it takes, the context is reset.** -/
theorem call_safe (settings : AuthSettings) (app : App Value)
    (during : During scopes n none state) (untouched : Untouched n state.log)
    (admitted : Admitted n state.log) :
    Safe scopes (AuthMiddleware.call settings app n scope)
      (fun _ later => During scopes n none later) state := by
  unfold AuthMiddleware.call
  cases bypasses : scope.bypasses with
  | true =>
      rw [if_pos rfl]
      exact runApp_safe served app during bypasses admitted
  | false =>
      rw [if_neg (by simp)]
      cases bearer : getBearerToken scope.authorization with
      | error exception => exact refuse_safe exception during untouched
      | ok token =>
          dsimp only
          unfold authenticateRequest
          split
          · exact refuse_safe
              (.runtimeError (py "AUTH0_DOMAIN and AUTH0_AUDIENCE must both be set"))
              during untouched
          · refine Program.always_call during.sound fun circumstance => ?_
            have noted := during.note (.decoded token circumstance.decoded) trivial
            exact dispatch_safe served app bearer bypasses
              (List.mem_append_right _ (List.mem_singleton_self _)) noted
              ⟨not_mem_log_append untouched.1 nofun, not_mem_log_append untouched.2 nofun⟩
              fun status_code detail => not_mem_log_append (admitted status_code detail) nofun

end Request

/-! ## The requests of a task -/

/-- Between two requests: the context is the default, and the requests before `n` have ended. -/
structure Idle (scopes : List Scope) (n : ℕ) (state : TaskState Value) : Prop where
  sound : Sound scopes state.log
  context : state.context = none
  started : ∀ entry ∈ state.log, entry.1 < n
  ended : ∀ m < n, (m, .finished none) ∈ state.log

section Serve

variable {scopes : List Scope} (settings : AuthSettings) (app : App Value)

theorem serveRequest_safe {n : ℕ} {scope : Scope} (served : scopes[n]? = some scope)
    {state : TaskState Value} (idle : Idle scopes n state) :
    Safe scopes (serveRequest settings app n scope)
      (fun _ later => Idle scopes (n + 1) later) state := by
  have unseen : ∀ event, (n, event) ∉ state.log :=
    fun event member => absurd (idle.started _ member) (lt_irrefl n)
  have during : During scopes n none (state.record n (.began state.context) state.context) :=
    { sound := idle.sound.append unseen
      context := idle.context
      started := by
        intro entry member
        rcases List.mem_append.mp member with earlier | now
        · exact (idle.started entry earlier).le
        · rw [List.mem_singleton.mp now]
      began := by
        rw [idle.context]
        exact List.mem_append_right _ (List.mem_singleton_self _)
      ended := fun m before => List.mem_append_left _ (idle.ended m before) }
  have calls := call_safe served settings app during
    ⟨not_mem_log_append (unseen _) nofun, not_mem_log_append (unseen _) nofun⟩
    fun status_code detail => not_mem_log_append (unseen _) nofun
  have finishes : Safe scopes (do
      let _ ← AuthMiddleware.call settings app n scope
      issue n .finish) (fun _ later => Idle scopes (n + 1) later)
      (state.record n (.began state.context) state.context) := by
    refine Program.always_bind (Program.always_mono calls fun outcome later _ inside => ?_)
    have noted := inside.note (.finished later.context) (by
      rw [inside.context]
      exact inside.began)
    refine Program.always_call inside.sound fun circumstance => Program.always_ret noted.sound ?_
    refine ⟨noted.sound, noted.context, fun entry member => ?_, fun m before => ?_⟩
    · exact Nat.lt_succ_of_le (noted.started entry member)
    · rcases Nat.lt_succ_iff_lt_or_eq.mp before with earlier | rfl
      · exact noted.ended m earlier
      · refine List.mem_append_right _ (List.mem_singleton.mpr ?_)
        rw [inside.context]
  exact Program.always_call idle.sound fun circumstance => finishes

/-- **A task that serves its requests keeps a sound log, and ends each of them.** -/
theorem serve_safe (rest : List Scope) {n : ℕ} {state : TaskState Value}
    (remaining : scopes.drop n = rest) (idle : Idle scopes n state) :
    Safe scopes (serve settings app n rest)
      (fun _ later => ∀ m < scopes.length, (m, .finished none) ∈ later.log) state := by
  induction rest generalizing n state with
  | nil =>
      refine Program.always_ret idle.sound fun m inside => idle.ended m ?_
      exact inside.trans_le (List.drop_eq_nil_iff.mp remaining)
  | cons scope rest ih =>
      have served : scopes[n]? = some scope := by
        rw [← List.head?_drop, remaining, List.head?_cons]
      have dropped : scopes.drop (n + 1) = rest := by
        rw [← List.tail_drop, remaining, List.tail_cons]
      refine Program.always_bind (Program.always_mono
        (serveRequest_safe settings app served idle) fun _ later _ next => ?_)
      exact ih dropped next

end Serve

/-! ## Any number of tasks -/

/-- In every interleaving, the log of each task is sound, and a task that has returned has ended
each of its requests. -/
theorem server_safe (settings : AuthSettings) (app : App Value) {ι : Type} [DecidableEq ι]
    (requests : ι → List Scope) (schedule : List (ι × Circumstance Value)) (i : ι) :
    Sound (requests i) (((server settings app requests).execute task.each schedule).state i).log ∧
      ∀ value, ((server settings app requests).execute task.each schedule).threads i = .ret value →
        ∀ m < (requests i).length, (m, .finished none) ∈
          (((server settings app requests).execute task.each schedule).state i).log := by
  have idle : ∀ j, Idle (requests j) 0 (TaskState.initial : TaskState Value) := fun j =>
    { sound := fun before entry after split => by
        cases before with
        | nil => cases split
        | cons first rest => cases split
      context := rfl
      started := fun entry member => by cases member
      ended := fun m before => by cases before }
  have safe : ∀ j, Safe (requests j) (serve settings app 0 (requests j))
      (fun _ later => ∀ m < (requests j).length, (m, .finished none) ∈ later.log)
      TaskState.initial :=
    fun j => serve_safe settings app (requests j) rfl (idle j)
  exact Pool.always_execute safe schedule i

theorem Scope.bypasses_eq_false_iff {scope : Scope} :
    scope.bypasses = false ↔ scope.type = py "http" ∧ scope.path ∉ unauthenticatedPaths := by
  simp [Scope.bypasses]

end CarqnaAgent.Auth
