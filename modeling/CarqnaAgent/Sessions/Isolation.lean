import Mathlib
import CarqnaAgent.Sessions.Outcomes

/-!
# What a user sees of the session store

Any number of users call the functions of the store, each call one transaction, in any
serial order, at any times, with any arguments. The calls and their answers are the
history of the run.

The invariant is `Recorded`: the sessions a user owns are those the history says were
created for the user. It is carried by three facts: a call leaves the owner of a session
alone (`owns_of_users`), a call that adds a session adds it for the caller under a
fresh id (`createSession_cases`), and nothing else adds or removes one.

* **A user lists exactly the sessions created for the user, only the user's own touch
  changes the time of one, and a refused creation changes no row** (`store_isolated`).
-/

set_option autoImplicit false

namespace CarqnaAgent.Sessions

open Foundations
open Foundations.Transaction

/-! ## Owners -/

section Owners

variable {tables : Tables} {user_id : PyStr} {session : UserSessionsRow}

theorem owns_iff : tables.owns user_id session = true ↔
    ∃ owner ∈ tables.user_registry.rows,
      session.user_registry_id = owner.id ∧ owner.user_id = user_id := by
  simp only [Tables.owns, List.any_eq_true, decide_eq_true_eq]

/-- A session has one owner. -/
theorem owner_unique {other : PyStr} (first : tables.owns user_id session = true)
    (second : tables.owns other session = true) : user_id = other := by
  obtain ⟨row, member, refers, rfl⟩ := owns_iff.mp first
  obtain ⟨row', member', refers', rfl⟩ := owns_iff.mp second
  rw [Table.eq_of_id_eq member member' (refers.symm.trans refers')]

end Owners

/-- The sessions are the same, and whoever is registered stays so under the same id. -/
structure Registers (before after : Tables) : Prop where
  sessions : after.user_sessions = before.user_sessions
  users : ∀ row ∈ before.user_registry.rows, ∃ kept ∈ after.user_registry.rows,
    kept.id = row.id ∧ kept.user_id = row.user_id

instance : Std.Refl Registers where
  refl _ := ⟨rfl, fun row member => ⟨row, member, rfl, rfl⟩⟩

instance : IsTrans Tables Registers where
  trans _ _ _ first second := by
    refine ⟨second.sessions.trans first.sessions, ?_⟩
    intro row member
    obtain ⟨kept, present, id_eq, user_eq⟩ := first.users row member
    obtain ⟨last, there, id_eq', user_eq'⟩ := second.users kept present
    exact ⟨last, there, id_eq'.trans id_eq, user_eq'.trans user_eq⟩

theorem owns_of_users {before after : Tables}
    (users : ∀ row ∈ before.user_registry.rows, ∃ kept ∈ after.user_registry.rows,
      kept.id = row.id ∧ kept.user_id = row.user_id)
    {session : UserSessionsRow} {user_id : PyStr} (owns : before.owns user_id session = true) :
    after.owns user_id session = true := by
  obtain ⟨owner, member, refers, named⟩ := owns_iff.mp owns
  obtain ⟨kept, present, id_eq, user_eq⟩ := users owner member
  exact owns_iff.mpr ⟨kept, present, refers.trans id_eq.symm, user_eq.trans named⟩

/-! ## `track_user` -/

theorem seen_registers (tables : Tables) (now : Timestamptz) (user_id : PyStr) :
    Registers tables (tables.seen now user_id) := by
  refine ⟨rfl, ?_⟩
  intro row member
  refine ⟨_, List.mem_map_of_mem member, ?_, ?_⟩
  · exact (Tables.setLastSeen now).id_onRow _ row
  · exact (Tables.setLastSeen now).key_onRow _ row

theorem outcome_registers {α : Type} (result : Except PyException α) :
    Respects Registers (outcome result : Sql α) :=
  respects_of_unchanged fun _ => rfl

theorem updateLastSeen_registers (now : Timestamptz) (user_id : PyStr) :
    Respects Registers (updateLastSeen now user_id) :=
  respects_bind (outcome_registers _) fun _ tables => seen_registers tables now user_id

theorem upsertUser_registers (now : Timestamptz) (user_id : PyStr) (email name : Option PyStr) :
    Respects Registers (upsertUser now user_id email name) := by
  refine respects_bind (outcome_registers _) fun _ => respects_bind (outcome_registers _)
    fun _ => respects_bind (outcome_registers _) fun _ tables => ?_
  rw [statement_apply]
  split
  · split
    · refine ⟨rfl, fun row member => ⟨row, ?_, rfl, rfl⟩⟩
      exact List.mem_append_left _ member
    · exact ⟨rfl, (seen_registers tables.drawRegistry now user_id).users⟩
  · exact Std.Refl.refl tables

theorem trackUserBlock_registers (now : Timestamptz) (userinfo : Userinfo) (user_id : PyStr) :
    Respects Registers (trackUserBlock now userinfo user_id) := by
  refine respects_bind (updateLastSeen_registers now user_id) fun rowcount => ?_
  split
  · refine respects_bind ?_ fun profile => upsertUser_registers now user_id _ _
    unfold fetchUserinfo
    split
    · exact respects_of_unchanged fun _ => rfl
    · exact respects_of_unchanged fun _ => rfl
  · exact respects_of_unchanged fun _ => rfl

/-- **Tracking a user changes no session, and moves nobody to another id.** -/
theorem trackUser_registers (now : Timestamptz) (userinfo : Userinfo) (user_id : PyStr)
    (tables : Tables) : Registers tables (trackUser now userinfo user_id tables) :=
  respects_orUndo Tables.rollback (trackUserBlock_registers now userinfo user_id)
    (fun before _ inside =>
      ⟨(congrArg before.user_sessions.undo inside.sessions).trans (Table.undo_self _),
        fun row member => ⟨row, member, rfl, rfl⟩⟩) tables

/-! ## `create_session` -/

/-- The rows of both tables are the same. -/
structure SameRows (before after : Tables) : Prop where
  registry : after.user_registry.rows = before.user_registry.rows
  sessions : after.user_sessions.rows = before.user_sessions.rows

/-- What the statement of `create_session` returns and leaves. -/
theorem insertSession_returns {now : Timestamptz} {session_name user_id : PyStr}
    {tables after : Tables} {value : Option SessionRow}
    (ran : insertSession now session_name user_id tables = (.ok value, after)) :
    (value = none ∧ after = tables) ∨
    Storable session_name ∧ ∃ owner, tables.user_registry.lookup user_id = some owner ∧
      value = some (tables.newSession now owner session_name).returned ∧
      after.user_registry = tables.user_registry ∧
      after.user_sessions.rows =
        tables.user_sessions.rows ++ [tables.newSession now owner session_name] := by
  cases name : checkText session_name with
  | error exception => simp [insertSession, name] at ran
  | ok _ =>
      cases user : checkText user_id with
      | error exception => simp [insertSession, name, user] at ran
      | ok _ =>
          simp only [insertSession, name, user, outcome_ok_bind, statement_apply] at ran
          split at ran
          · cases ran
            exact .inl ⟨rfl, rfl⟩
          · rename_i owner found
            split at ran
            · split at ran
              · cases ran
                exact .inr ⟨name, owner, found, rfl, rfl, rfl⟩
              · cases ran
            · cases ran

/-- What `create_session` can do: add one session of the caller, or leave the rows alone. -/
theorem createSession_cases (now : Timestamptz) (user_id session_name : PyStr) (tables : Tables) :
    (¬ InvalidName session_name ∧ Storable session_name ∧
      ∃ owner, tables.user_registry.lookup user_id = some owner ∧
      (createSession now user_id session_name tables).1 =
        .ok (some (tables.newSession now owner session_name).returned) ∧
      (createSession now user_id session_name tables).2.user_registry = tables.user_registry ∧
      (createSession now user_id session_name tables).2.user_sessions.rows =
        tables.user_sessions.rows ++ [tables.newSession now owner session_name]) ∨
    ((∀ row, (createSession now user_id session_name tables).1 ≠ .ok (some row)) ∧
      SameRows tables (createSession now user_id session_name tables).2) := by
  unfold createSession
  split
  · exact .inr ⟨nofun, rfl, rfl⟩
  · rename_i valid
    rcases ran : insertSession now session_name user_id tables with ⟨result, after⟩
    cases result with
    | error exception =>
        rw [connection_of_error ran]
        exact .inr ⟨nofun, rfl, rfl⟩
    | ok value =>
        rw [connection_of_ok ran]
        rcases insertSession_returns ran with
          ⟨rfl, rfl⟩ | ⟨storable, owner, found, rfl, registry, sessions⟩
        · exact .inr ⟨nofun, rfl, rfl⟩
        · exact .inl ⟨valid, storable, owner, found, rfl, registry, sessions⟩

/-! ## `list_sessions` -/

/-- The sessions of a user, in the order of the table. -/
def Tables.sessionsOf (tables : Tables) (user_id : PyStr) : List SessionRow :=
  (tables.user_sessions.rows.filter (tables.owns user_id)).map UserSessionsRow.returned

theorem listSessions_eq (order : OrderBy SessionRow.AsRecent) (user_id : PyStr)
    (tables : Tables) :
    listSessions order user_id tables =
      match checkText user_id with
      | .ok _ => (.ok (order.sort (tables.sessionsOf user_id)), tables)
      | .error exception => (.error exception, tables.rollback tables) := by
  cases user : checkText user_id with
  | error exception =>
      exact connection_of_error (by simp [selectSessions, user])
  | ok _ => exact connection_of_ok (by simp [selectSessions, user, Tables.sessionsOf])

theorem listSessions_sameRows (order : OrderBy SessionRow.AsRecent) (user_id : PyStr)
    (tables : Tables) : SameRows tables (listSessions order user_id tables).2 := by
  rw [listSessions_eq]
  split
  · exact ⟨rfl, rfl⟩
  · exact ⟨rfl, rfl⟩

/-! ## `touch_session` -/

/-- What a touch makes of a session. -/
def touched (now : Timestamptz) (user_id : PyStr) (session_id : ℤ) (tables : Tables)
    (session : UserSessionsRow) : UserSessionsRow :=
  if Storable user_id ∧ (session.id : ℤ) = session_id ∧ tables.owns user_id session = true then
    { session with access_ts := now }
  else session

/-- **A touch changes the time of the named session, if it is the user's, and nothing else.** -/
theorem touchSession_rows (now : Timestamptz) (user_id : PyStr) (session_id : ℤ)
    (tables : Tables) :
    (touchSession now user_id session_id tables).user_registry.rows = tables.user_registry.rows ∧
      (touchSession now user_id session_id tables).user_sessions.rows =
        tables.user_sessions.rows.map (touched now user_id session_id tables) := by
  rw [touchSession_eq]
  split
  · rename_i storable
    refine ⟨rfl, List.map_congr_left fun session _ => ?_⟩
    simp [touched, storable, Table.Setting.onRow, Tables.setAccessTs]
  · rename_i refused
    refine ⟨rfl, (List.map_id'' (fun session => ?_) _).symm⟩
    simp [touched, refused]

theorem touched_keeps (now : Timestamptz) (user_id : PyStr) (session_id : ℤ) (tables : Tables)
    (session : UserSessionsRow) :
    (touched now user_id session_id tables session).id = session.id ∧
      (touched now user_id session_id tables session).user_registry_id =
        session.user_registry_id ∧
      (touched now user_id session_id tables session).session_name = session.session_name := by
  unfold touched
  split
  · exact ⟨rfl, rfl, rfl⟩
  · exact ⟨rfl, rfl, rfl⟩

/-! ## Runs -/

/-- A call of the store, with its arguments. -/
inductive Call where
  | track (userinfo : Userinfo) (user_id : PyStr)
  | list (order : OrderBy SessionRow.AsRecent) (user_id : PyStr)
  | create (user_id session_name : PyStr)
  | touch (user_id : PyStr) (session_id : ℤ)

/-- How a call ends. -/
inductive Answer where
  | none
  | listed (sessions : Except PyException (List SessionRow))
  | created (session : Except PyException (Option SessionRow))

/-- One call, one transaction. -/
def Call.perform (now : Timestamptz) (tables : Tables) : Call → Answer × Tables
  | .track userinfo user_id => (.none, trackUser now userinfo user_id tables)
  | .list order user_id =>
      (.listed (listSessions order user_id tables).1, (listSessions order user_id tables).2)
  | .create user_id session_name =>
      (.created (createSession now user_id session_name tables).1,
        (createSession now user_id session_name tables).2)
  | .touch user_id session_id => (.none, touchSession now user_id session_id tables)

/-- The calls so far with their answers, and the tables after them. -/
structure Run where
  history : List (Call × Answer)
  tables : Tables

/-- A further call. -/
def Run.step (run : Run) (turn : Timestamptz × Call) : Run where
  history := run.history ++ [(turn.2, (turn.2.perform turn.1 run.tables).1)]
  tables := (turn.2.perform turn.1 run.tables).2

/-- The run of some calls, from the tables as they are created. -/
def Run.after (turns : List (Timestamptz × Call)) : Run := turns.foldl Run.step ⟨[], .empty⟩

/-- The session a call has created, and for whom. -/
def creation : Call × Answer → Option (PyStr × SessionRow)
  | (.create user_id _, .created (.ok (some row))) => some (user_id, row)
  | _ => none

/-- The sessions created in a run, each with its user. -/
def Run.created (run : Run) : List (PyStr × SessionRow) := run.history.filterMap creation

/-- The ids and names of the sessions created for a user. -/
def Run.createdFor (run : Run) (user_id : PyStr) : List (ℕ × PyStr) :=
  (run.created.filter fun made => decide (made.1 = user_id)).map fun made =>
    (made.2.id, made.2.session_name)

theorem after_concat (turns : List (Timestamptz × Call)) (turn : Timestamptz × Call) :
    Run.after (turns ++ [turn]) = (Run.after turns).step turn := by
  simp [Run.after]

/-! ## The invariant -/

/-- The row is the session the history speaks of. -/
def Records (tables : Tables) (made : PyStr × SessionRow) (row : UserSessionsRow) : Prop :=
  tables.owns made.1 row = true ∧ made.2.id = row.id ∧ made.2.session_name = row.session_name

/-- The rows of `user_sessions` are the sessions of the history, in order. -/
def Recorded (history : List (Call × Answer)) (tables : Tables) : Prop :=
  List.Forall₂ (Records tables) (history.filterMap creation) tables.user_sessions.rows

section Steps

variable {history : List (Call × Answer)} {before after : Tables}

theorem Recorded.of_users (recorded : Recorded history before)
    (sessions : after.user_sessions.rows = before.user_sessions.rows)
    (users : ∀ row ∈ before.user_registry.rows, ∃ kept ∈ after.user_registry.rows,
      kept.id = row.id ∧ kept.user_id = row.user_id) : Recorded history after := by
  unfold Recorded
  rw [sessions]
  exact recorded.imp fun _ _ records => ⟨owns_of_users users records.1, records.2⟩

theorem Recorded.of_sameRows (recorded : Recorded history before)
    (same : SameRows before after) : Recorded history after :=
  recorded.of_users same.sessions fun row member => ⟨row, same.registry ▸ member, rfl, rfl⟩

/-- A call that creates nothing does not count. -/
theorem recorded_of_silent {call : Call} {answer : Answer}
    (silent : creation (call, answer) = none) (recorded : Recorded history after) :
    Recorded (history ++ [(call, answer)]) after := by
  unfold Recorded
  rw [List.filterMap_append, List.filterMap_cons_none silent, List.filterMap_nil, List.append_nil]
  exact recorded

theorem Recorded.touch (recorded : Recorded history before) (now : Timestamptz)
    (user_id : PyStr) (session_id : ℤ) :
    Recorded history (touchSession now user_id session_id before) := by
  obtain ⟨registry, sessions⟩ := touchSession_rows now user_id session_id before
  unfold Recorded
  rw [sessions, List.forall₂_map_right_iff]
  refine recorded.imp fun made row records => ?_
  obtain ⟨id_eq, owner_eq, name_eq⟩ := touched_keeps now user_id session_id before row
  refine ⟨?_, id_eq ▸ records.2.1, name_eq ▸ records.2.2⟩
  obtain ⟨owner, member, refers, named⟩ := owns_iff.mp records.1
  exact owns_iff.mpr ⟨owner, registry ▸ member, owner_eq ▸ refers, named⟩

theorem Recorded.create (recorded : Recorded history before) (now : Timestamptz)
    (user_id session_name : PyStr) :
    Recorded
      (history ++ [(.create user_id session_name,
        .created (createSession now user_id session_name before).1)])
      (createSession now user_id session_name before).2 := by
  rcases createSession_cases now user_id session_name before with
    ⟨-, -, owner, found, answer, registry, sessions⟩ | ⟨refused, same⟩
  · obtain ⟨registered, named⟩ := Table.lookup_eq_some_iff.mp found
    have owns_eq : (createSession now user_id session_name before).2.owns = before.owns := by
      funext user session
      simp only [Tables.owns, registry]
    unfold Recorded Records
    rw [answer, sessions, owns_eq, List.filterMap_append]
    refine List.rel_append recorded (.cons ⟨?_, rfl, rfl⟩ .nil)
    exact owns_iff.mpr ⟨owner, registered, rfl, named⟩
  · refine recorded_of_silent ?_ (recorded.of_sameRows same)
    cases answer : (createSession now user_id session_name before).1 with
    | error exception => rfl
    | ok session =>
        cases session with
        | none => rfl
        | some row => exact absurd answer (refused row)

/-- **Step.** -/
theorem Recorded.step (recorded : Recorded history before) (now : Timestamptz) (call : Call) :
    Recorded (history ++ [(call, (call.perform now before).1)]) (call.perform now before).2 := by
  cases call with
  | track userinfo user_id =>
      have registers := trackUser_registers now userinfo user_id before
      exact recorded_of_silent rfl
        (recorded.of_users (congrArg Table.rows registers.sessions) registers.users)
  | list order user_id =>
      exact recorded_of_silent rfl
        (recorded.of_sameRows (listSessions_sameRows order user_id before))
  | create user_id session_name => exact recorded.create now user_id session_name
  | touch user_id session_id =>
      exact recorded_of_silent rfl (recorded.touch now user_id session_id)

end Steps

/-- **Every run is recorded.** -/
theorem run_recorded (turns : List (Timestamptz × Call)) :
    Recorded (Run.after turns).history (Run.after turns).tables := by
  induction turns using List.reverseRecOn with
  | nil => exact .nil
  | append_singleton turns turn ih =>
      rw [after_concat]
      exact ih.step turn.1 turn.2

/-! ## What a user lists -/

section Listed

variable {history : List (Call × Answer)} {tables : Tables}

/-- **The sessions a user owns are those created for the user.** -/
theorem Recorded.sessionsOf (recorded : Recorded history tables) (user_id : PyStr) :
    (tables.sessionsOf user_id).map (fun row => (row.id, row.session_name)) =
      ((history.filterMap creation).filter fun made => decide (made.1 = user_id)).map
        fun made => (made.2.id, made.2.session_name) := by
  have owned : ∀ made row, Records tables made row →
      (decide (made.1 = user_id) = true ↔ tables.owns user_id row = true) := by
    intro made row records
    rw [decide_eq_true_eq]
    constructor
    · rintro rfl
      exact records.1
    · exact owner_unique records.1
  have filtered := List.rel_filter (fun {made row} => owned made row) recorded
  rw [Tables.sessionsOf, List.map_map, ← List.forall₂_eq_eq_eq, List.forall₂_map_left_iff,
    List.forall₂_map_right_iff]
  refine filtered.flip.imp fun row made records => ?_
  exact Prod.ext records.2.1.symm records.2.2.symm

/-- The sessions of a run have ids of their own, whoever they were created for. -/
theorem Recorded.ids_nodup (recorded : Recorded history tables) :
    ((history.filterMap creation).map fun made => made.2.id).Nodup := by
  have same : ((history.filterMap creation).map fun made => made.2.id) =
      tables.user_sessions.rows.map UserSessionsRow.id := by
    rw [← List.forall₂_eq_eq_eq, List.forall₂_map_left_iff, List.forall₂_map_right_iff]
    exact recorded.imp fun _ _ records => records.2.1
  rw [same]
  exact tables.user_sessions.ids_nodup

/-- Two sessions of one user have different names. -/
theorem names_nodup (tables : Tables) (user_id : PyStr) :
    ((tables.sessionsOf user_id).map SessionRow.session_name).Nodup := by
  rw [Tables.sessionsOf, List.map_map]
  refine (tables.user_sessions.ids_nodup.of_map.filter _).map_on ?_
  intro row member other member' same
  obtain ⟨present, owned⟩ := List.mem_filter.mp member
  obtain ⟨present', owned'⟩ := List.mem_filter.mp member'
  obtain ⟨owner, registered, refers, named⟩ := owns_iff.mp owned
  obtain ⟨owner', registered', refers', named'⟩ := owns_iff.mp owned'
  have one_owner : owner = owner' :=
    Table.eq_of_key_eq registered registered' (named.trans named'.symm)
  refine Table.eq_of_key_eq present present' (Prod.ext ?_ same)
  exact refers.trans ((congrArg UserRegistryRow.id one_owner).trans refers'.symm)

end Listed

/-- After a call every session is still there, with its owner and name, and its time is another
only if the call was the touch of it by its owner. -/
def TimesKept (before : Tables) (call : Call) (after : Tables) : Prop :=
  ∀ row ∈ before.user_sessions.rows, ∃ kept ∈ after.user_sessions.rows,
    kept.id = row.id ∧ kept.user_registry_id = row.user_registry_id ∧
      kept.session_name = row.session_name ∧
      (kept.access_ts ≠ row.access_ts →
        ∃ user_id, before.owns user_id row = true ∧ call = .touch user_id row.id)

theorem timesKept_of_mem {before after : Tables} {call : Call}
    (kept : ∀ row ∈ before.user_sessions.rows, row ∈ after.user_sessions.rows) :
    TimesKept before call after :=
  fun row member => ⟨row, kept row member, rfl, rfl, rfl, fun changed => absurd rfl changed⟩

/-- **Only its owner's touch changes the time of a session.** -/
theorem perform_timesKept (now : Timestamptz) (tables : Tables) (call : Call) :
    TimesKept tables call (call.perform now tables).2 := by
  cases call with
  | track userinfo user_id =>
      apply timesKept_of_mem
      intro row member
      exact (trackUser_registers now userinfo user_id tables).sessions ▸ member
  | list order user_id =>
      apply timesKept_of_mem
      intro row member
      exact (listSessions_sameRows order user_id tables).sessions ▸ member
  | create user_id session_name =>
      apply timesKept_of_mem
      intro row member
      rcases createSession_cases now user_id session_name tables with
        ⟨-, -, owner, -, -, -, sessions⟩ | ⟨-, same⟩
      · exact sessions ▸ List.mem_append_left _ member
      · exact same.sessions ▸ member
  | touch user_id session_id =>
      intro row member
      obtain ⟨-, sessions⟩ := touchSession_rows now user_id session_id tables
      obtain ⟨id_eq, owner_eq, name_eq⟩ := touched_keeps now user_id session_id tables row
      refine ⟨touched now user_id session_id tables row, ?_, id_eq, owner_eq, name_eq, ?_⟩
      · exact sessions ▸ List.mem_map_of_mem member
      · intro changed
        by_cases mine : Storable user_id ∧ (row.id : ℤ) = session_id ∧
            tables.owns user_id row = true
        · exact ⟨user_id, mine.2.2, mine.2.1 ▸ rfl⟩
        · exact absurd (by rw [touched, if_neg mine]) changed

/-- **The session store keeps its users apart and loses nothing.** -/
theorem store_isolated (turns : List (Timestamptz × Call)) :
    let run := Run.after turns
    (∀ order user_id, Storable user_id →
      ∃ rows, (listSessions order user_id run.tables).1 = .ok rows) ∧
    (∀ order user_id rows, (listSessions order user_id run.tables).1 = .ok rows →
      (rows.map fun row => (row.id, row.session_name)).Perm (run.createdFor user_id) ∧
      (rows.map SessionRow.session_name).Nodup ∧ rows.Pairwise SessionRow.AsRecent) ∧
    (run.created.map fun made => made.2.id).Nodup ∧
    (∀ now call, TimesKept run.tables call (call.perform now run.tables).2) ∧
    (∀ now user_id session_id,
      (touchSession now user_id session_id run.tables).user_registry.rows =
        run.tables.user_registry.rows ∧
      (touchSession now user_id session_id run.tables).user_sessions.rows =
        run.tables.user_sessions.rows.map (touched now user_id session_id run.tables)) ∧
    ∀ now user_id session_name,
      (∀ row, (createSession now user_id session_name run.tables).1 ≠ .ok (some row)) →
      SameRows run.tables (createSession now user_id session_name run.tables).2 := by
  intro run
  have recorded := run_recorded turns
  refine ⟨?_, ?_, recorded.ids_nodup, ?_, ?_, ?_⟩
  · intro order user_id storable
    rw [listSessions_eq, storable]
    exact ⟨_, rfl⟩
  · intro order user_id rows listed
    rw [listSessions_eq] at listed
    split at listed
    · cases listed
      have sorted := order.perm (run.tables.sessionsOf user_id)
      refine ⟨?_, ?_, order.ordered _⟩
      · exact (sorted.map _).trans (.of_eq (recorded.sessionsOf user_id))
      · exact (sorted.map SessionRow.session_name).nodup_iff.mpr (names_nodup run.tables user_id)
    · cases listed
  · exact fun now call => perform_timesKept now run.tables call
  · exact fun now user_id session_id => touchSession_rows now user_id session_id run.tables
  · intro now user_id session_name refused
    rcases createSession_cases now user_id session_name run.tables with
      ⟨-, -, owner, -, created, -, -⟩ | ⟨-, same⟩
    · exact absurd created (refused _)
    · exact same

end CarqnaAgent.Sessions
