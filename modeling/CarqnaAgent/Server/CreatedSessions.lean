import Mathlib
import CarqnaAgent.Foundations.StableFacts
import CarqnaAgent.Server.Ownership
import CarqnaAgent.Sessions.Histories

/-!
# Created sessions are listed

`POST /sessions` and `GET /sessions` among any other requests, in any interleaving. That a user
has a session of an id and a name is a stable fact: the creation makes it true, and a listing
reports it.

**A session that has been created is in every later listing of its user, once, and in no listing
of another user** (`created_sessions_listed`).
-/

set_option autoImplicit false

namespace CarqnaAgent.Server

open Foundations
open CarqnaAgent.Sessions

variable {History Reply Message : Type}

/-! ## The fact -/

/-- The user has the session of that id and name. -/
def HasEntry (user_id : PyStr) (id : ℕ) (session_name : PyStr) (state : Backend History) : Prop :=
  ∃ entry ∈ state.tables.ledger.entries, entry.user_id = user_id ∧ entry.session.id = id ∧
    entry.session.session_name = session_name

/-- A step on the stores does nothing to the ledger, or it is a call. -/
theorem backend_ledger (moment : Moment Reply) (state : Backend History) (step : Request History) :
    (backend moment state step).2.tables.ledger = state.tables.ledger ∨
      ∃ call, (backend moment state step).2.tables.ledger =
        (state.tables.ledger.perform moment.now call).2 := by
  cases step with
  | trackUser user_id =>
      exact .inr ⟨.track moment.userinfo user_id,
        track_refines moment.now moment.userinfo user_id state.tables⟩
  | touchSession user_id session_id =>
      exact .inr ⟨.touch user_id session_id,
        touch_refines moment.now user_id session_id state.tables⟩
  | listSessions user_id => exact .inl (list_refines moment.order user_id state.tables).2
  | createSession user_id session_name =>
      exact .inr ⟨.create user_id session_name,
        congrArg Prod.snd (create_refines moment.now user_id session_name state.tables)⟩
  | getCheckpoint key => exact .inl rfl
  | putCheckpoint key history => exact .inl rfl
  | outside => exact .inl rfl

/-- **Having a session is stable.** -/
theorem hasEntry_stable (user_id : PyStr) (id : ℕ) (session_name : PyStr) :
    (backend : Service (Request History) (Request.Answer History Reply) (Backend History)
      (Moment Reply)).Stable (HasEntry user_id id session_name) := by
  rintro moment state step ⟨entry, member, rfl, rfl, rfl⟩
  rcases backend_ledger moment state step with same | ⟨call, called⟩
  · exact ⟨entry, same ▸ member, rfl, rfl, rfl⟩
  · obtain ⟨kept, there, user, id, name⟩ :=
      perform_keeps_entries moment.now state.tables.ledger call member
    exact ⟨kept, called ▸ there, user, id, name⟩

/-- An id is of one session. -/
theorem entries_ids_nodup (tables : Tables) :
    (tables.ledger.entries.map fun entry => entry.session.id).Nodup := by
  simp only [Tables.ledger, List.map_map]
  exact tables.user_sessions.ids_nodup

theorem HasEntry.user_unique {state : Backend History} {user_id other : PyStr} {id : ℕ}
    {session_name session_name' : PyStr} (first : HasEntry user_id id session_name state)
    (second : HasEntry other id session_name' state) : user_id = other := by
  obtain ⟨entry, member, rfl, same, -⟩ := first
  obtain ⟨entry', member', rfl, same', -⟩ := second
  rw [List.inj_on_of_nodup_map (entries_ids_nodup state.tables) member member'
    (same.trans same'.symm)]

/-- The sessions of a user are those the user has. -/
theorem mem_sessionsOf {state : Backend History} {user_id : PyStr} {session : SessionRow}
    (member : session ∈ state.tables.ledger.sessionsOf user_id) :
    HasEntry user_id session.id session.session_name state := by
  obtain ⟨entry, inside, rfl⟩ := List.mem_map.mp member
  obtain ⟨known, mine⟩ := List.mem_filter.mp inside
  exact ⟨entry, known, of_decide_eq_true mine, rfl, rfl⟩

theorem sessionsOf_ids_nodup (tables : Tables) (user_id : PyStr) :
    ((tables.ledger.sessionsOf user_id).map SessionRow.id).Nodup := by
  rw [Ledger.sessionsOf, List.map_map]
  exact (entries_ids_nodup tables).sublist ((List.filter_sublist).map _)

/-! ## The listing -/

/-- The listing has the session once. -/
structure ListedOnce (id : ℕ) (session_name : PyStr) (rows : List SessionRow) : Prop where
  once : (rows.map SessionRow.id).count id = 1
  named : ∃ listed ∈ rows, listed.id = id ∧ listed.session_name = session_name

theorem perm_of_listed {ledger : Ledger} {order : OrderBy SessionRow.AsRecent} {user_id : PyStr}
    {rows : List SessionRow} (listed : ledger.list order user_id = .ok rows) : rows.Perm (ledger.sessionsOf user_id) := by
  unfold Ledger.list at listed
  cases checked : checkText user_id with
  | error exception => simp [checked, Except.map] at listed
  | ok _ =>
      simp only [checked, Except.map, Except.ok.injEq] at listed
      exact listed ▸ order.perm _

theorem HasEntry.listedOnce {state : Backend History} {user_id : PyStr} {id : ℕ}
    {session_name : PyStr} (has : HasEntry user_id id session_name state)
    {order : OrderBy SessionRow.AsRecent} {rows : List SessionRow}
    (listed : state.tables.ledger.list order user_id = .ok rows) :
    ListedOnce id session_name rows := by
  obtain ⟨entry, member, rfl, rfl, rfl⟩ := has
  have sorted := perm_of_listed listed
  have inside : entry.session ∈ state.tables.ledger.sessionsOf entry.user_id :=
    List.mem_map_of_mem (List.mem_filter.mpr ⟨member, decide_eq_true rfl⟩)
  have there := sorted.mem_iff.mpr inside
  have apart : (rows.map SessionRow.id).Nodup :=
    (sorted.map _).nodup_iff.mpr (sessionsOf_ids_nodup state.tables entry.user_id)
  exact ⟨List.count_eq_one_of_mem apart (List.mem_map_of_mem there), entry.session, there, rfl, rfl⟩

/-! ## The endpoints -/

section Endpoints

theorem answerCreate_eq_session {answer : Except PyException (Option SessionRow)}
    {session : SessionRow} (answered : answerCreate answer = .session session) :
    answer = .ok (some session) := by
  cases answer with
  | error exception => cases exception <;> simp [answerCreate, refuseSession] at answered
  | ok created =>
      cases created with
      | none => simp [answerCreate] at answered
      | some row => rw [Response.session.inj answered]

theorem answerList_eq_sessions {answer : Except PyException (List SessionRow)}
    {rows : List SessionRow} (answered : answerList answer = .sessions rows) :
    answer = .ok rows := by
  cases answer with
  | error exception => simp [answerList] at answered
  | ok listed => rw [Response.sessions.inj answered]

/-- A creation that is answered with a session has made it. -/
def Made (user_id session_name : PyStr) (response : Response) (state : Backend History) : Prop :=
  ∀ session, response = .session session →
    session.session_name = session_name ∧ HasEntry user_id session.id session_name state

theorem createSessionEndpoint_assures (user_id session_name : PyStr) :
    (createSessionEndpoint user_id session_name : ServerProgram History Reply Response).Assures
      backend (Made user_id session_name) fun _ => True := by
  refine ⟨fun _ _ => True, fun _ => .const True, fun _ _ _ => trivial, fun _ => ?_⟩
  refine ⟨fun answer state => ∀ session, answer = .ok (some session) →
    session.session_name = session_name ∧ HasEntry user_id session.id session_name state,
    fun answer => ?_, fun moment state _ session created => ?_, fun answer state made session => ?_⟩
  · exact .all fun session => .of_imp ((Service.Stable.const _).and
      (hasEntry_stable user_id session.id session_name))
  · have refines := create_refines moment.now user_id session_name state.tables
    have answer : (createSession moment.now user_id session_name state.tables).1 =
        (state.tables.ledger.create moment.now user_id session_name).1 := congrArg Prod.fst refines
    have after : (createSession moment.now user_id session_name state.tables).2.ledger =
        (state.tables.ledger.create moment.now user_id session_name).2 := congrArg Prod.snd refines
    rcases create_cases moment.now user_id session_name state.tables.ledger with
      ⟨refused, -, -⟩ | ⟨-, added, entries, -⟩
    · exact absurd (answer.symm.trans created) (refused session)
    · obtain rfl := Option.some.inj (Except.ok.inj (added.symm.trans (answer.symm.trans created)))
      have member : (⟨user_id, ⟨state.tables.ledger.sessionsDrawn + 1, session_name,
          moment.now⟩⟩ : Entry) ∈
          (createSession moment.now user_id session_name state.tables).2.ledger.entries := by
        rw [after, entries]
        exact List.mem_append_right _ List.mem_cons_self
      exact ⟨rfl, _, member, rfl, rfl, rfl⟩
  · exact fun answered => made session (answerCreate_eq_session answered)

/-- A listing from when the user has the session has it once. -/
theorem listSessionsEndpoint_assures_once (user_id : PyStr) (id : ℕ) (session_name : PyStr) :
    (listSessionsEndpoint user_id : ServerProgram History Reply Response).Assures backend
      (fun response _ => ∀ rows, response = .sessions rows → ListedOnce id session_name rows)
      (HasEntry user_id id session_name) := by
  have stable : (backend : Service (Request History) (Request.Answer History Reply)
      (Backend History) (Moment Reply)).Stable (HasEntry user_id id session_name) :=
    hasEntry_stable user_id id session_name
  refine ⟨fun _ => HasEntry user_id id session_name, fun _ => stable,
    fun moment state has => stable moment state _ has, fun _ => ?_⟩
  refine ⟨fun answer _ => ∀ rows, answer = .ok rows → ListedOnce id session_name rows,
    fun answer => .const _, fun moment state has rows listed => ?_, fun answer _ once rows => ?_⟩
  · exact has.listedOnce ((list_refines moment.order user_id state.tables).1.symm.trans listed)
  · exact fun answered => once rows (answerList_eq_sessions answered)

/-- What a listing reports the user has. -/
theorem listSessionsEndpoint_assures_owned (user_id : PyStr) :
    (listSessionsEndpoint user_id : ServerProgram History Reply Response).Assures backend
      (fun response state => ∀ rows, response = .sessions rows → ∀ listed ∈ rows,
        HasEntry user_id listed.id listed.session_name state) fun _ => True := by
  refine ⟨fun _ _ => True, fun _ => .const True, fun _ _ _ => trivial, fun _ => ?_⟩
  refine ⟨fun answer state => ∀ rows, answer = .ok rows → ∀ listed ∈ rows,
    HasEntry user_id listed.id listed.session_name state, fun answer => ?_,
    fun moment state _ rows reported listed member => ?_, fun answer state owned rows => ?_⟩
  · exact .all fun rows => .of_imp (.all fun listed => .of_imp
      (hasEntry_stable user_id listed.id listed.session_name))
  · have answer := (list_refines moment.order user_id state.tables).1.symm.trans reported
    have after := (list_refines moment.order user_id state.tables).2
    obtain ⟨entry, inside, rest⟩ := mem_sessionsOf ((perm_of_listed answer).mem_iff.mp member)
    exact ⟨entry, after ▸ inside, rest⟩
  · exact fun answered => owned rows (answerList_eq_sessions answered)

end Endpoints

/-- **Read your writes.** In every run of any requests: once a creation has been answered with a
session, a listing of its user that starts later has the session once, under the name asked for;
and no listing of another user has it, whenever it starts. -/
theorem created_sessions_listed {ι : Type} [DecidableEq ι] (maxStrDigits : ℕ)
    (agent : Agent History Reply Message) (requests : ι → HttpRequest Message)
    (state : Backend History) (earlier later : List (ι × Moment Reply)) :
    let answered := (serving maxStrDigits agent requests state).execute backend earlier
    let final := answered.execute backend later
    (∀ i j user_id session_name session rows,
      requests i = .createSession user_id session_name →
      answered.threads i = .ret (.session session) →
      requests j = .listSessions user_id →
      answered.threads j = handle maxStrDigits agent (requests j) →
      final.threads j = .ret (.sessions rows) →
      session.session_name = session_name ∧ ListedOnce session.id session_name rows) ∧
    ∀ i j user_id session_name session other rows,
      requests i = .createSession user_id session_name →
      final.threads i = .ret (.session session) →
      requests j = .listSessions other → other ≠ user_id →
      final.threads j = .ret (.sessions rows) →
      ∀ listed ∈ rows, listed.id ≠ session.id := by
  intro answered final
  have started : ∀ k, (serving maxStrDigits agent requests state).threads k =
      handle maxStrDigits agent (requests k) := fun _ => rfl
  constructor
  · intro i j user_id session_name session rows creates created lists waits listed
    have makes : ((serving maxStrDigits agent requests state).threads i).Assures backend
        (Made user_id session_name) fun _ => True := by
      rw [started, creates]
      exact createSessionEndpoint_assures user_id session_name
    obtain ⟨named, has⟩ := Pool.assures_execute makes (.const True) trivial earlier created
      session rfl
    have reports : (answered.threads j).Assures backend
        (fun response _ => ∀ rows, response = .sessions rows →
          ListedOnce session.id session_name rows)
        (HasEntry user_id session.id session_name) := by
      rw [waits, lists]
      exact listSessionsEndpoint_assures_once user_id session.id session_name
    exact ⟨named, Pool.assures_execute reports (hasEntry_stable _ _ _) has later listed rows rfl⟩
  · intro i j user_id session_name session other rows creates created lists apart listed entry member
      same
    have run : final = (serving maxStrDigits agent requests state).execute backend
        (earlier ++ later) := (Pool.execute_append earlier later).symm
    rw [run] at created listed
    have makes : ((serving maxStrDigits agent requests state).threads i).Assures backend
        (Made user_id session_name) fun _ => True := by
      rw [started, creates]
      exact createSessionEndpoint_assures user_id session_name
    obtain ⟨-, has⟩ := Pool.assures_execute makes (.const True) trivial _ created session rfl
    have reports : ((serving maxStrDigits agent requests state).threads j).Assures backend
        (fun response state => ∀ rows, response = .sessions rows → ∀ listed ∈ rows,
          HasEntry other listed.id listed.session_name state) fun _ => True := by
      rw [started, lists]
      exact listSessionsEndpoint_assures_owned other
    have owned := Pool.assures_execute reports (.const True) trivial _ listed rows rfl entry member
    rw [same] at owned
    exact apart (owned.user_unique has)

end CarqnaAgent.Server
