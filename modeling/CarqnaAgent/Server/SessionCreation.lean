import Mathlib
import CarqnaAgent.Server.Endpoints
import CarqnaAgent.Sessions.Isolation

/-!
# When `POST /sessions` answers

The route tracks the caller, then creates the session. It depends on the first step for
the caller's row of `user_registry`, and that step may fail without a word.

* `trackUser_registered_iff`: exactly who is registered after `track_user`.
* `createSession_answer`: the outcome of `create_session` on parameters the driver sends.
* `run_admissible`: in every reachable state the stored names and user ids are such
  parameters, and the names valid.
* **The route gives 400, 409 or a new session as it promises exactly when the name is
  invalid, or everything the two steps need is there** (`creation_iff_servable`).
* A caller never seen before whose `/userinfo` call fails gets a 500
  (`creation_unpromised`).
-/

set_option autoImplicit false

namespace CarqnaAgent.Server

open Foundations
open Foundations.Transaction
open CarqnaAgent.Sessions

/-! ## Who is registered -/

/-- What `track_user` needs for the row of a new user. -/
structure Introduced (tables : Tables) (userinfo : Userinfo) (user_id : PyStr) : Prop where
  user : Storable user_id
  identity : tables.user_registry.drawn < bigintMax
  profile : ∃ email name, userinfo = some (email, name) ∧
    checkOptionalText email = .ok () ∧ checkOptionalText name = .ok ()

theorem introduced_iff {tables : Tables} {userinfo : Userinfo} {user_id : PyStr} :
    Introduced tables userinfo user_id ↔ Storable user_id ∧
      ∃ email name, userinfo = some (email, name) ∧ CanInsert tables email name := by
  constructor
  · rintro ⟨user, identity, email, name, fetched, email_ok, name_ok⟩
    exact ⟨user, email, name, fetched, email_ok, name_ok, identity⟩
  · rintro ⟨user, email, name, fetched, email_ok, name_ok, identity⟩
    exact ⟨user, identity, email, name, fetched, email_ok, name_ok⟩

/-- **Who is registered after `track_user`.** -/
theorem trackUser_registered_iff (now : Timestamptz) (userinfo : Userinfo) (tables : Tables)
    (user_id : PyStr) :
    Registered (trackUser now userinfo user_id tables) user_id ↔
      Registered tables user_id ∨ Introduced tables userinfo user_id := by
  by_cases known : Registered tables user_id
  · have registers := trackUser_registers now userinfo user_id tables
    obtain ⟨row, member, named⟩ := List.mem_map.mp known
    obtain ⟨kept, present, -, user_eq⟩ := registers.users row member
    exact iff_of_true (List.mem_map.mpr ⟨kept, present, user_eq.trans named⟩) (.inl known)
  · rw [trackUser_eq, introduced_iff, or_iff_right known,
      if_neg (registered_iff_lookup.not.mp known)]
    by_cases storable : Storable user_id
    · rw [if_pos storable, and_iff_right storable]
      cases userinfo with
      | none => exact iff_of_false known nofun
      | some profile =>
          obtain ⟨email, name⟩ := profile
          by_cases able : CanInsert tables email name
          · rw [firstSeen_of_canInsert now able known]
            refine iff_of_true ?_ ⟨email, name, rfl, able⟩
            exact (registered_register_iff _ user_id).mpr (.inr rfl)
          · rw [firstSeen, if_neg able]
            refine iff_of_false known ?_
            rintro ⟨_, _, fetched, other⟩
            cases fetched
            exact able other
    · rw [if_neg storable]
      exact iff_of_false known fun introduced => storable introduced.1

/-! ## What the tables hold -/

/-- The stored user ids and names are parameters the driver sends, and the names valid. -/
structure Admissible (tables : Tables) : Prop where
  users : ∀ user_id, Registered tables user_id → Storable user_id
  sessions : ∀ row ∈ tables.user_sessions.rows,
    Storable row.session_name ∧ ¬ InvalidName row.session_name

/-- The statement keeps the tables admissible. -/
def KeepsAdmissible (before after : Tables) : Prop := Admissible before → Admissible after

instance : Std.Refl KeepsAdmissible := ⟨fun _ => id⟩

instance : IsTrans Tables KeepsAdmissible := ⟨fun _ _ _ first second => second ∘ first⟩

section Admissible

variable {tables : Tables}

theorem Admissible.seen (admissible : Admissible tables) (now : Timestamptz) (user_id : PyStr) :
    Admissible (tables.seen now user_id) where
  users other registered :=
    admissible.users other ((seen_registered_iff tables now user_id other).mp registered)
  sessions := admissible.sessions

theorem upsertUser_admissible (now : Timestamptz) (user_id : PyStr) (email name : Option PyStr) :
    Respects KeepsAdmissible (upsertUser now user_id email name) := by
  refine respects_outcome_bind fun _ storable => respects_outcome_bind fun _ _ =>
    respects_outcome_bind fun _ _ tables admissible => ?_
  have drawn : Admissible tables.drawRegistry := ⟨admissible.users, admissible.sessions⟩
  rw [statement_apply]
  split
  · split
    · refine ⟨?_, admissible.sessions⟩
      intro other registered
      obtain ⟨row, member, rfl⟩ := List.mem_map.mp registered
      rcases List.mem_append.mp member with old | new
      · exact admissible.users _ (List.mem_map_of_mem old)
      · rw [List.mem_singleton.mp new]
        exact storable
    · exact drawn.seen now user_id
  · exact admissible

theorem trackUser_admissible (now : Timestamptz) (userinfo : Userinfo) (user_id : PyStr) :
    KeepsAdmissible tables (trackUser now userinfo user_id tables) := by
  refine respects_orUndo Tables.rollback ?_ ?_ tables
  · refine respects_bind ?_ fun rowcount => ?_
    · exact respects_outcome_bind fun _ _ tables admissible => admissible.seen now user_id
    · split
      · refine respects_bind ?_ fun profile => upsertUser_admissible now user_id _ _
        unfold fetchUserinfo
        split
        · exact respects_of_unchanged fun _ => rfl
        · exact respects_of_unchanged fun _ => rfl
      · exact respects_of_unchanged fun _ => rfl
  · exact fun before after _ admissible => ⟨admissible.users, admissible.sessions⟩

theorem SameRows.admissible {before after : Tables} (same : SameRows before after) :
    KeepsAdmissible before after := by
  intro admissible
  refine ⟨fun user_id registered => admissible.users user_id ?_, fun row member => ?_⟩
  · rwa [Registered, same.registry] at registered
  · exact admissible.sessions row (same.sessions ▸ member)

/-- **Step.** -/
theorem perform_admissible (now : Timestamptz) (call : Call) :
    KeepsAdmissible tables (call.perform now tables).2 := by
  cases call with
  | track userinfo user_id => exact trackUser_admissible now userinfo user_id
  | list order user_id => exact SameRows.admissible (listSessions_sameRows order user_id tables)
  | create user_id session_name =>
      rcases createSession_cases now user_id session_name tables with
        ⟨valid, storable, owner, -, -, registry, sessions⟩ | ⟨-, same⟩
      · intro admissible
        refine ⟨fun other registered => admissible.users other ?_, fun row member => ?_⟩
        · rwa [Registered, Call.perform, registry] at registered
        · rw [Call.perform, sessions] at member
          rcases List.mem_append.mp member with old | new
          · exact admissible.sessions row old
          · rw [List.mem_singleton.mp new]
            exact ⟨storable, valid⟩
      · exact SameRows.admissible same
  | touch user_id session_id =>
      obtain ⟨registry, sessions⟩ := touchSession_rows now user_id session_id tables
      intro admissible
      refine ⟨fun other registered => admissible.users other ?_, fun row member => ?_⟩
      · rwa [Registered, Call.perform, registry] at registered
      · rw [Call.perform, sessions] at member
        obtain ⟨old, present, rfl⟩ := List.mem_map.mp member
        rw [(touched_keeps now user_id session_id tables old).2.2]
        exact admissible.sessions old present

/-- **Every reachable state is admissible.** -/
theorem run_admissible (turns : List (Timestamptz × Call)) :
    Admissible (Run.after turns).tables := by
  induction turns using List.reverseRecOn with
  | nil => exact ⟨nofun, nofun⟩
  | append_singleton turns turn ih =>
      rw [after_concat]
      exact perform_admissible turn.1 turn.2 ih

end Admissible

/-! ## What `create_session` answers -/

/-- The user has a session of that name. -/
def HasSession (tables : Tables) (user_id session_name : PyStr) : Prop :=
  ∃ row ∈ tables.user_sessions.rows,
    tables.owns user_id row = true ∧ row.session_name = session_name

section CreateSession

variable {tables : Tables} {user_id session_name : PyStr}

theorem hasSession_iff (session_name : PyStr) {owner : UserRegistryRow}
    (found : tables.user_registry.lookup user_id = some owner) :
    HasSession tables user_id session_name ↔
      (owner.id, session_name) ∈ tables.user_sessions.rows.map userSessions.key := by
  obtain ⟨registered, named⟩ := Table.lookup_eq_some_iff.mp found
  constructor
  · rintro ⟨row, member, owned, rfl⟩
    obtain ⟨owner', registered', refers, named'⟩ := owns_iff.mp owned
    have same : owner' = owner :=
      Table.eq_of_key_eq registered' registered (named'.trans named.symm)
    exact List.mem_map.mpr ⟨row, member, Prod.ext (same ▸ refers) rfl⟩
  · intro present
    obtain ⟨row, member, same⟩ := List.mem_map.mp present
    have refers : row.user_registry_id = owner.id := congrArg Prod.fst same
    exact ⟨row, member, owns_iff.mpr ⟨owner, registered, refers, named⟩, congrArg Prod.snd same⟩

/-- The outcome on a valid name and parameters the driver sends. -/
theorem createSession_answer (now : Timestamptz) (tables : Tables)
    (valid : ¬ InvalidName session_name)
    (name : Storable session_name) (user : Storable user_id) :
    (createSession now user_id session_name tables).1 =
      match tables.user_registry.lookup user_id with
      | none => .ok none
      | some owner =>
          if tables.user_sessions.drawn < bigintMax then
            if (owner.id, session_name) ∈ tables.user_sessions.rows.map userSessions.key then
              .error .uniqueViolation
            else .ok (some (tables.newSession now owner session_name).returned)
          else .error .sequenceGeneratorLimitExceeded := by
  have name_ok : checkText session_name = .ok () := name
  have user_ok : checkText user_id = .ok () := user
  rw [createSession, if_neg valid]
  rcases ran : insertSession now session_name user_id tables with ⟨result, after⟩
  have answer : (connection (insertSession now session_name user_id) tables).1 = result := by
    cases result with
    | error exception => rw [connection_of_error ran]
    | ok value => rw [connection_of_ok ran]
  rw [answer]
  simp only [insertSession, name_ok, user_ok, outcome_ok_bind, statement_apply] at ran
  split at ran
  · rename_i absent
    cases ran
    rw [absent]
  · rename_i owner found
    rw [found]
    have free : tables.drawSessions.user_sessions.Accepts
        (tables.newSession now owner session_name) ↔
          (owner.id, session_name) ∉ tables.user_sessions.rows.map userSessions.key :=
      Table.accepts_drawn_iff rfl
    split at ran
    · rename_i identity
      simp only [if_pos identity]
      split at ran
      · rename_i accepts
        cases ran
        exact (if_neg (free.mp accepts)).symm
      · rename_i refused
        cases ran
        exact (if_pos (not_not.mp (free.not.mp refused))).symm
    · rename_i exhausted
      cases ran
      exact (if_neg exhausted).symm

/-- The driver refuses a parameter with an exception of its own. -/
theorem createSession_unsent (now : Timestamptz) (valid : ¬ InvalidName session_name)
    (unsent : ¬ (Storable session_name ∧ Storable user_id)) (tables : Tables) :
    ∃ text exception, checkText text = .error exception ∧
      (createSession now user_id session_name tables).1 = .error exception := by
  rw [createSession, if_neg valid]
  cases name : checkText session_name with
  | error exception =>
      have raised : insertSession now session_name user_id tables = (.error exception, tables) := by
        simp [insertSession, name]
      exact ⟨session_name, exception, name, by rw [connection_of_error raised]⟩
  | ok _ =>
      cases user : checkText user_id with
      | error exception =>
          have raised : insertSession now session_name user_id tables =
              (.error exception, tables) := by
            simp [insertSession, name, user]
          exact ⟨user_id, exception, user, by rw [connection_of_error raised]⟩
      | ok _ => exact absurd ⟨name, user⟩ unsent

/-- A session that is returned has been added for the user. -/
theorem createSession_returned {now : Timestamptz} {returned : SessionRow}
    (answer : (createSession now user_id session_name tables).1 = .ok (some returned)) :
    ∃ row : UserSessionsRow, returned = row.returned ∧ row.session_name = session_name ∧
      (createSession now user_id session_name tables).2.owns user_id row = true ∧
      (createSession now user_id session_name tables).2.user_sessions.rows =
        tables.user_sessions.rows ++ [row] := by
  rcases createSession_cases now user_id session_name tables with
    ⟨-, -, owner, found, created, registry, sessions⟩ | ⟨refused, -⟩
  · rw [created] at answer
    cases answer
    obtain ⟨registered, named⟩ := Table.lookup_eq_some_iff.mp found
    refine ⟨tables.newSession now owner session_name, rfl, rfl, ?_, sessions⟩
    exact owns_iff.mpr ⟨owner, registry ▸ registered, rfl, named⟩
  · exact absurd answer (refused returned)

end CreateSession

/-! ## The route -/

/-- What `POST /sessions` promises: 400 exactly on an invalid name, 409 exactly when the caller
has a session of that name, else one new session of the caller with that name; and no 500. -/
structure Promised (before : Tables) (user_id session_name : PyStr) (response : Response)
    (after : Tables) : Prop where
  bad_request : response.statusCode = 400 ↔ InvalidName session_name
  conflict : response.statusCode = 409 ↔ HasSession before user_id session_name
  created : ¬ InvalidName session_name → ¬ HasSession before user_id session_name →
    ∃ row : UserSessionsRow, response = .session row.returned ∧ row.session_name = session_name ∧
      after.owns user_id row = true ∧ after.user_sessions.rows = before.user_sessions.rows ++ [row]
  no_failure : response.statusCode ≠ 500

/-- The name is invalid, or everything the two steps need is there. -/
def Servable (before : Tables) (userinfo : Userinfo) (user_id session_name : PyStr) : Prop :=
  InvalidName session_name ∨
    (Storable session_name ∧ Storable user_id) ∧ before.user_sessions.drawn < bigintMax ∧
      (Registered before user_id ∨ Introduced before userinfo user_id)

/-- An exception of the driver is answered by 400 or 500. -/
theorem statusCode_of_unsent {text : PyStr} {exception : PyException}
    (refused : checkText text = .error exception) :
    (answerCreate (.error exception)).statusCode = 400 ∨
      (answerCreate (.error exception)).statusCode = 500 := by
  unfold checkText at refused
  split at refused
  · cases refused
    exact .inl rfl
  · split at refused
    · cases refused
      exact .inr rfl
    · cases refused

section Creation

variable {before tracked : Tables} {user_id session_name : PyStr}

/-- Tracking the user adds no session and takes none away. -/
theorem hasSession_of_registers (registers : Registers before tracked)
    (user_id session_name : PyStr) :
    HasSession tracked user_id session_name ↔ HasSession before user_id session_name := by
  unfold HasSession
  rw [registers.sessions]
  constructor
  · rintro ⟨row, member, owned, named⟩
    obtain ⟨owner, registered, refers⟩ := List.mem_map.mp (before.references row member)
    have owns : before.owns owner.user_id row = true :=
      owns_iff.mpr ⟨owner, registered, refers.symm, rfl⟩
    exact ⟨row, member, owner_unique (owns_of_users registers.users owns) owned ▸ owns, named⟩
  · rintro ⟨row, member, owned, named⟩
    exact ⟨row, member, owns_of_users registers.users owned, named⟩

theorem promised_of_invalid (now : Timestamptz) (admissible : Admissible before)
    (invalid : InvalidName session_name) :
    Promised before user_id session_name
      (answerCreate (createSession now user_id session_name tracked).1)
      (createSession now user_id session_name tracked).2 := by
  have answer : (createSession now user_id session_name tracked).1 = .error (.valueError
      (py "session_name must be non-empty and at most 256 characters")) := by
    rw [createSession, if_pos invalid, raise_apply]
  rw [answer]
  refine ⟨iff_of_true rfl invalid, iff_of_false (by decide) ?_, absurd invalid, by decide⟩
  rintro ⟨row, member, -, rfl⟩
  exact (admissible.sessions row member).2 invalid

theorem not_promised_of_unsent (now : Timestamptz) (valid : ¬ InvalidName session_name)
    (unsent : ¬ (Storable session_name ∧ Storable user_id)) :
    ¬ Promised before user_id session_name
      (answerCreate (createSession now user_id session_name tracked).1)
      (createSession now user_id session_name tracked).2 := by
  obtain ⟨text, exception, refused, answer⟩ := createSession_unsent now valid unsent tracked
  rw [answer]
  intro promised
  rcases statusCode_of_unsent refused with bad | failure
  · exact valid (promised.bad_request.mp bad)
  · exact promised.no_failure failure

/-- On parameters the driver sends, the promise is kept exactly when the caller is registered by
now and an identity is left. -/
theorem promised_iff_of_sent (now : Timestamptz) (registers : Registers before tracked)
    (valid : ¬ InvalidName session_name) (sent : Storable session_name ∧ Storable user_id) :
    Promised before user_id session_name
      (answerCreate (createSession now user_id session_name tracked).1)
      (createSession now user_id session_name tracked).2 ↔
    before.user_sessions.drawn < bigintMax ∧ Registered tracked user_id := by
  have has_iff := hasSession_of_registers registers user_id session_name
  have answer := createSession_answer now tracked valid sent.1 sent.2
  rw [registers.sessions] at answer
  cases found : tracked.user_registry.lookup user_id with
  | none =>
      have absent : ¬ Registered tracked user_id := Table.lookup_eq_none_iff.mp found
      rw [answer, found]
      exact iff_of_false (fun promised => promised.no_failure rfl) fun both => absent both.2
  | some owner =>
      obtain ⟨member, named⟩ := Table.lookup_eq_some_iff.mp found
      have registered : Registered tracked user_id := List.mem_map.mpr ⟨owner, member, named⟩
      have taken := hasSession_iff session_name found
      rw [has_iff, registers.sessions] at taken
      simp only [found] at answer
      by_cases identity : before.user_sessions.drawn < bigintMax
      · rw [if_pos identity] at answer
        refine iff_of_true ?_ ⟨identity, registered⟩
        by_cases has : HasSession before user_id session_name
        · rw [if_pos (taken.mp has)] at answer
          rw [answer]
          exact ⟨iff_of_false (by decide) valid, iff_of_true rfl has, fun _ free => absurd has free,
            by decide⟩
        · rw [if_neg (taken.not.mp has)] at answer
          obtain ⟨row, returned, name_eq, owned, rows⟩ := createSession_returned answer
          rw [answer]
          have status : (answerCreate (.ok (some
              (tracked.newSession now owner session_name).returned))).statusCode = 200 := rfl
          refine ⟨iff_of_false (by omega) valid, iff_of_false (by omega) has, fun _ _ => ?_,
            by omega⟩
          exact ⟨row, congrArg Response.session returned, name_eq, owned,
            rows.trans (by rw [registers.sessions])⟩
      · rw [if_neg identity] at answer
        rw [answer]
        exact iff_of_false (fun promised => promised.no_failure rfl) fun both => identity both.1

end Creation

/-- The two transactions of the route. -/
theorem run_createSessionEndpoint {History Reply : Type} (weather : ℕ → Moment Reply)
    (state : Backend History) (user_id session_name : PyStr) :
    (createSessionEndpoint user_id session_name).run backend weather state =
      (answerCreate (createSession (weather 1).now user_id session_name
          (trackUser (weather 0).now (weather 0).userinfo user_id state.tables)).1,
        { state with tables := (createSession (weather 1).now user_id session_name
          (trackUser (weather 0).now (weather 0).userinfo user_id state.tables)).2 }) := rfl

/-- **`POST /sessions` does what it promises exactly when it is servable**: in every reachable
state, for every caller, name, outcome of `/userinfo` and times. -/
theorem creation_iff_servable {History Reply : Type} (turns : List (Timestamptz × Call))
    (checkpoints : PyStr → Option History) (weather : ℕ → Moment Reply)
    (user_id session_name : PyStr) :
    let before := (Run.after turns).tables
    let result := (createSessionEndpoint user_id session_name).run backend weather
      ⟨before, checkpoints⟩
    Promised before user_id session_name result.1 result.2.tables ↔
      Servable before (weather 0).userinfo user_id session_name := by
  intro before result
  have admissible : Admissible before := run_admissible turns
  simp only [result, run_createSessionEndpoint]
  by_cases invalid : InvalidName session_name
  · exact iff_of_true (promised_of_invalid _ admissible invalid) (.inl invalid)
  · by_cases sent : Storable session_name ∧ Storable user_id
    · rw [promised_iff_of_sent _ (trackUser_registers _ _ user_id before) invalid sent,
        trackUser_registered_iff]
      constructor
      · exact fun both => .inr ⟨sent, both⟩
      · rintro (now_invalid | servable)
        · exact absurd now_invalid invalid
        · exact servable.2
    · refine iff_of_false (not_promised_of_unsent _ invalid sent) ?_
      rintro (now_invalid | servable)
      · exact invalid now_invalid
      · exact sent servable.1

/-- A caller never seen before, whose `/userinfo` call times out, gets a 500 for a valid name. -/
theorem creation_unpromised :
    ¬ ∀ (turns : List (Timestamptz × Call)) (checkpoints : PyStr → Option Unit)
      (weather : ℕ → Moment Unit) (user_id session_name : PyStr),
      Promised (Run.after turns).tables user_id session_name
        ((createSessionEndpoint user_id session_name).run backend weather
          ⟨(Run.after turns).tables, checkpoints⟩).1
        ((createSessionEndpoint user_id session_name).run backend weather
          ⟨(Run.after turns).tables, checkpoints⟩).2.tables := by
  intro promised
  have answered := (promised [] (fun _ => none) (fun _ => ⟨0, none, (), .stable _⟩) (py "auth0|new")
    (py "a")).no_failure
  revert answered
  decide

end CarqnaAgent.Server
