import Mathlib
import CarqnaAgent.Foundations.Integers
import CarqnaAgent.Cli.FindOrCreate

/-!
# Sessions, one call after the other

`_get_or_create_session` and `_list_sessions` of `src/agent/carqna_cli.py` as functions of
the file. A call of the first that nothing comes between does the same turn by turn
(`execute_alone`).

A name that is in the file stays there with its identity, and the identities that are drawn
are new. So **in every sequence of calls the names and the conversations they resume are one
to one; a call touches the row of its name and no other; and a listing has every row once,
the latest first** (`sessions_one_to_one`).
-/

set_option autoImplicit false

namespace CarqnaAgent.Cli

open Foundations

/-! ## The functions -/

/-- The rows of a file. -/
def rowsOf (file : Option (Table sessions)) : List SessionsRow := file.elim [] Table.rows

/-- `_create_session_table`. -/
def createSessionTable (file : Option (Table sessions)) : Table sessions :=
  file.getD (.empty sessions)

/-- The order of `ORDER BY access_ts DESC`. -/
def SessionsRow.AsRecent (first second : SessionsRow) : Prop :=
  second.access_ts ≤ first.access_ts

instance : DecidableRel SessionsRow.AsRecent := fun first second =>
  inferInstanceAs (Decidable (second.access_ts ≤ first.access_ts))

instance : Std.Total SessionsRow.AsRecent where
  total _ _ := le_total _ _

instance : IsTrans SessionsRow SessionsRow.AsRecent where
  trans _ _ _ later latest := le_trans latest later

/-- `_list_sessions`. -/
def listSessions (order : OrderBy SessionsRow.AsRecent) (file : Option (Table sessions)) :
    List SessionsRow × Table sessions :=
  let table := createSessionTable file
  (order.sort table.rows, table)

/-- `_get_or_create_session`, when `CURRENT_TIMESTAMP` is `now`. -/
def getOrCreateSession (session_name : PyStr) (now : Timestamp)
    (file : Option (Table sessions)) : Except Failure ℕ × Table sessions :=
  let table := createSessionTable file
  match PyStr.encode session_name with
  | none => (.error .unicodeEncodeError, table)
  | some _ =>
      match table.lookup session_name with
      | some row =>
          (.ok row.session_id,
            table.update (fun other => decide (other.session_id = row.session_id))
              (setAccessTs now))
      | none =>
          let row : SessionsRow := ⟨table.drawn + 1, session_name, now⟩
          if maxRowid ≤ table.drawn then (.error .databaseFull, table)
          else if accepts : table.draw.Accepts row then
            (.ok row.session_id, table.draw.insert row accepts)
          else (.error .integrityError, table)

/-- `thread_id = str(session_id)`. -/
def threadId (session_id : ℕ) : PyStr := PyStr.decimalForm session_id

/-- Threads are one to one with sessions. -/
theorem threadId_eq_iff {session_id other : ℕ} :
    threadId session_id = threadId other ↔ session_id = other := by
  constructor
  · intro same
    have read := congrArg (PyStr.parseInt 0) same
    rw [threadId, threadId, PyStr.parseInt_decimalForm (.inl rfl),
      PyStr.parseInt_decimalForm (.inl rfl)] at read
    exact Int.ofNat.inj (Option.some.inj read)
  · exact congrArg threadId

/-! ## What a call does -/

theorem rows_createSessionTable (file : Option (Table sessions)) :
    (createSessionTable file).rows = rowsOf file := by
  cases file with
  | none => rfl
  | some table => rfl

theorem entries_createSessionTable (file : Option (Table sessions)) :
    entries (some (createSessionTable file)) = entries file := by
  cases file with
  | none => rw [entries_none, createSessionTable, Option.getD_none, entries_empty]
  | some table => rfl

/-- What a call makes of the table. -/
inductive Resumes (name : PyStr) (now : Timestamp) (table : Table sessions) :
    Except Failure ℕ → Table sessions → Prop where
  | found {row : SessionsRow} (member : row ∈ table.rows) (named : row.session_name = name) :
      Resumes name now table (.ok row.session_id)
        (table.update (fun other => decide (other.session_id = row.session_id)) (setAccessTs now))
  | created (absent : name ∉ table.rows.map SessionsRow.session_name)
      (accepts : table.draw.Accepts (⟨table.drawn + 1, name, now⟩ : SessionsRow)) :
      Resumes name now table (.ok (table.drawn + 1)) (table.draw.insert _ accepts)
  | raised (failure : Failure) : Resumes name now table (.error failure) table

theorem getOrCreateSession_resumes (name : PyStr) (now : Timestamp)
    (file : Option (Table sessions)) :
    Resumes name now (createSessionTable file) (getOrCreateSession name now file).1
      (getOrCreateSession name now file).2 := by
  unfold getOrCreateSession
  dsimp only
  split
  · exact .raised _
  · split
    · rename_i row there
      obtain ⟨member, named⟩ := Table.lookup_eq_some_iff.mp there
      exact .found member named
    · rename_i absent
      split_ifs with used accepts
      · exact .raised _
      · exact .created (Table.lookup_eq_none_iff.mp absent) accepts
      · exact .raised _

/-- What a call that returns an identity makes of the rows. -/
structure Touches (name : PyStr) (now : Timestamp) (id : ℕ)
    (before after : List SessionsRow) : Prop where
  others : ∀ row, row.session_name ≠ name → (row ∈ after ↔ row ∈ before)
  named : ∀ row, row.session_name = name → (row ∈ after ↔ row = ⟨id, name, now⟩)
  keeps : ∀ row ∈ before, row.session_name = name → row.session_id = id
  adds : after.length =
    before.length + if name ∈ before.map SessionsRow.session_name then 0 else 1

/-- The `UPDATE` of a row sets the time of that row. -/
theorem onRow_self (row : SessionsRow) (now : Timestamp) :
    (setAccessTs now).onRow (fun other => decide (other.session_id = row.session_id)) row =
      ⟨row.session_id, row.session_name, now⟩ :=
  if_pos (decide_eq_true rfl)

theorem session_name_onRow (now : Timestamp) (selected : SessionsRow → Bool) (row : SessionsRow) :
    ((setAccessTs now).onRow selected row).session_name = row.session_name :=
  (setAccessTs now).key_onRow selected row

section Found

variable {table : Table sessions} {row : SessionsRow} (member : row ∈ table.rows)
include member

/-- It leaves a row of another name alone. -/
theorem onRow_of_ne (now : Timestamp) {other : SessionsRow} (present : other ∈ table.rows)
    (different : other.session_name ≠ row.session_name) :
    (setAccessTs now).onRow (fun other => decide (other.session_id = row.session_id)) other =
      other := by
  refine if_neg fun same => different ?_
  rw [Table.eq_of_id_eq present member (of_decide_eq_true same)]

theorem touches_update (now : Timestamp) :
    Touches row.session_name now row.session_id table.rows
      (table.update (fun other => decide (other.session_id = row.session_id))
        (setAccessTs now)).rows where
  others other different := by
    rw [Table.update_rows, List.mem_map]
    constructor
    · rintro ⟨old, present, rfl⟩
      rw [session_name_onRow] at different
      rwa [onRow_of_ne member now present different]
    · exact fun present => ⟨other, present, onRow_of_ne member now present different⟩
  named other same := by
    rw [Table.update_rows, List.mem_map]
    constructor
    · rintro ⟨old, present, rfl⟩
      rw [session_name_onRow] at same
      rw [Table.eq_of_key_eq present member same, onRow_self]
    · rintro rfl
      exact ⟨row, member, onRow_self row now⟩
  keeps other present same := by rw [Table.eq_of_key_eq present member same]
  adds := by
    rw [Table.update_rows, List.length_map, if_pos (List.mem_map_of_mem member), add_zero]

end Found

theorem touches_insert {table : Table sessions} {row : SessionsRow}
    (absent : row.session_name ∉ table.rows.map SessionsRow.session_name)
    (accepts : table.draw.Accepts row) :
    Touches row.session_name row.access_ts row.session_id table.rows
      (table.draw.insert row accepts).rows := by
  have missing : ∀ other ∈ table.rows, other.session_name ≠ row.session_name :=
    fun other present same => absent (List.mem_map.mpr ⟨other, present, same⟩)
  constructor
  · intro other different
    rw [Table.insert_rows, Table.draw_rows, List.mem_append, List.mem_singleton]
    refine or_iff_left ?_
    rintro rfl
    exact different rfl
  · intro other same
    rw [Table.insert_rows, Table.draw_rows, List.mem_append, List.mem_singleton]
    exact or_iff_right fun present => missing other present same
  · exact fun other present same => absurd same (missing other present)
  · rw [Table.insert_rows, Table.draw_rows, List.length_append, List.length_singleton,
      if_neg absent]

section Resumes

variable {name : PyStr} {now : Timestamp} {table after : Table sessions}
  {outcome : Except Failure ℕ} (resumes : Resumes name now table outcome after)
include resumes

/-- **A call that returns touches the row of its name, and no other.** -/
theorem Resumes.touches {id : ℕ} (returned : outcome = .ok id) :
    Touches name now id table.rows after.rows := by
  cases resumes with
  | found member named =>
      cases returned
      subst named
      exact touches_update member now
  | created absent accepts =>
      cases returned
      exact touches_insert absent accepts
  | raised failure => cases returned

/-- No call takes a name from the file. -/
theorem Resumes.grows : entries (some table) ⊆ entries (some after) := by
  cases resumes with
  | found member named => rw [entries_update]
  | created absent accepts =>
      rw [entries_insert]
      exact Set.subset_insert _ _
  | raised failure => exact subset_rfl

/-- What a call returns is the identity of its name. -/
theorem Resumes.present {id : ℕ} (returned : outcome = .ok id) :
    (id, name) ∈ entries (some after) := by
  have touched := resumes.touches returned
  exact mem_entries_some.mpr ⟨⟨id, name, now⟩, (touched.named _ rfl).mpr rfl, rfl⟩

end Resumes

/-! ## A call alone -/

/-- How a call ends. -/
def Phase.ofOutcome : Except Failure ℕ → Phase
  | .ok session_id => .returned session_id
  | .error failure => .raised failure

section Alone

variable {ι : Type} [DecidableEq ι] {names : ι → PyStr} {world : World ι} {i : ι}

/-- The world with another file, in which the call has come to a phase. -/
def World.leave (world : World ι) (i : ι) (table : Table sessions) (phase : Phase) : World ι :=
  { world.enter i phase with database := some table }

@[simp] theorem World.leave_phase (table : Table sessions) (phase : Phase) :
    (world.leave i table phase).phase i = phase := Function.update_self _ _ _

@[simp] theorem World.leave_database (table : Table sessions) (phase : Phase) :
    (world.leave i table phase).database = some table := rfl

@[simp] theorem World.leave_writer (table : Table sessions) (phase : Phase) :
    (world.leave i table phase).writer = world.writer := rfl

@[simp] theorem World.enter_leave (table : Table sessions) (first second : Phase) :
    (world.leave i table first).enter i second = world.leave i table second := by
  simp [World.leave, World.enter]

theorem step_called (free : world.writer = none) (called : world.phase i = .called)
    (now : Timestamp) :
    world.step names (i, now) =
      world.leave i (createSessionTable world.database) .selecting := by
  cases there : world.database with
  | none => simp [World.step, called, World.create, there, free, World.leave, createSessionTable]
  | some table =>
      simp [World.step, called, World.create, there, World.leave, createSessionTable, World.enter]

theorem step_raised (table : Table sessions) (failure : Failure) (now : Timestamp) :
    (world.leave i table (.raised failure)).step names (i, now) =
      world.leave i table (.raised failure) := by
  simp [World.step]

/-- What a transaction of the call writes is there when it has committed. -/
theorem step_commits (free : world.writer = none) (table version : Table sessions)
    (phase : Phase) (session_id : ℕ) (now : Timestamp) :
    ((world.leave i table phase).lock i (.committing version session_id)).step names (i, now) =
      world.leave i version (.returned session_id) := by
  simp [World.step, World.lock, World.leave, World.enter, free]

/-- **A call nothing comes between does what its function does.** -/
theorem execute_alone (free : world.writer = none) (called : world.phase i = .called)
    (first second now last : Timestamp) :
    Turns.execute (World.step names) world [(i, first), (i, second), (i, now), (i, last)] =
      world.leave i (getOrCreateSession (names i) now world.database).2
        (.ofOutcome (getOrCreateSession (names i) now world.database).1) := by
  simp only [Turns.execute_cons, Turns.execute_nil, step_called free called]
  unfold getOrCreateSession
  dsimp only
  generalize createSessionTable world.database = table
  cases encoded : PyStr.encode (names i) with
  | none =>
      have selected : (world.leave i table .selecting).step names (i, second) =
          world.leave i table (.raised .unicodeEncodeError) := by
        simp [World.step, World.select, encoded]
      rw [selected, step_raised, step_raised]
      rfl
  | some body =>
      cases there : table.lookup (names i) with
      | some row =>
          have selected : (world.leave i table .selecting).step names (i, second) =
              world.leave i table (.updating row.session_id) := by
            simp [World.step, World.select, encoded, there]
          have updated : (world.leave i table (.updating row.session_id)).step names (i, now) =
              (world.leave i table (.updating row.session_id)).lock i (.committing
                (table.update (fun other => decide (other.session_id = row.session_id))
                  (setAccessTs now)) row.session_id) := by
            simp [World.step, World.update, free]
          rw [selected, updated, step_commits free]
          rfl
      | none =>
          have selected : (world.leave i table .selecting).step names (i, second) =
              world.leave i table .inserting := by
            simp [World.step, World.select, encoded, there]
          have absent := Table.lookup_eq_none_iff.mp there
          have accepts : table.draw.Accepts (⟨table.drawn + 1, names i, now⟩ : SessionsRow) :=
            (Table.accepts_drawn_iff rfl).mpr absent
          rw [selected]
          by_cases used : maxRowid ≤ table.drawn
          · have full : (world.leave i table .inserting).step names (i, now) =
                world.leave i table (.raised .databaseFull) := by
              simp [World.step, World.insert, free, used]
            rw [full, step_raised]
            simp only [if_pos used]
            rfl
          · have inserted : (world.leave i table .inserting).step names (i, now) =
                (world.leave i table .inserting).lock i (.committing
                  (table.draw.insert _ accepts) (table.drawn + 1)) := by
              simp [World.step, World.insert, free, used, accepts]
            rw [inserted, step_commits free]
            simp only [if_neg used, dif_pos accepts]
            rfl

end Alone

/-! ## Runs -/

/-- A use of the command line. -/
inductive Call where
  | session (session_name : PyStr) (now : Timestamp)
  | list (order : OrderBy SessionsRow.AsRecent)

/-- The file after a call. -/
def Call.leaves (file : Option (Table sessions)) : Call → Option (Table sessions)
  | .session session_name now => some (getOrCreateSession session_name now file).2
  | .list order => some (listSessions order file).2

/-- The call is one of that name, and returns that identity. -/
def Call.Returns (name : PyStr) (id : ℕ) (file : Option (Table sessions)) (call : Call) : Prop :=
  ∃ now, call = .session name now ∧ (getOrCreateSession name now file).1 = .ok id

theorem Call.grows (file : Option (Table sessions)) (call : Call) :
    entries file ⊆ entries (call.leaves file) := by
  rw [← entries_createSessionTable file]
  cases call with
  | session name now => exact (getOrCreateSession_resumes name now file).grows
  | list order => exact subset_rfl

/-- **What calls have returned is in the file.** -/
theorem mem_entries_of_happens {name : PyStr} {id : ℕ} {file : Option (Table sessions)}
    {calls : List Call} (returned : Turns.Happens Call.leaves (Call.Returns name id) file calls) :
    (id, name) ∈ entries (Turns.execute Call.leaves file calls) := by
  induction calls using List.reverseRecOn with
  | nil => exact absurd returned Turns.not_happens_nil
  | append_singleton earlier call ih =>
      rw [Turns.execute_concat]
      rcases Turns.happens_concat.mp returned with before | ⟨now, rfl, now_returned⟩
      · exact Call.grows _ call (ih before)
      · exact (getOrCreateSession_resumes name now _).present now_returned

/-- An identity has one name. -/
theorem name_eq_of_mem_entries {file : Option (Table sessions)} {id : ℕ} {name name' : PyStr}
    (first : (id, name) ∈ entries file) (second : (id, name') ∈ entries file) : name = name' := by
  cases file with
  | none =>
      rw [entries_none] at first
      exact first.elim
  | some table =>
      obtain ⟨row, member, same⟩ := mem_entries_some.mp first
      obtain ⟨other, member', same'⟩ := mem_entries_some.mp second
      obtain ⟨rfl, rfl⟩ := Prod.mk.inj same
      obtain ⟨identified, rfl⟩ := Prod.mk.inj same'
      rw [Table.eq_of_id_eq member member' identified.symm]

/-- **Names and conversations are one to one in every sequence of calls.** A call touches the
row of its name and no other, and a listing changes no row and has each once, the latest
first. -/
theorem sessions_one_to_one (file : Option (Table sessions)) (calls : List Call) :
    (∀ name name' id id',
      Turns.Happens Call.leaves (Call.Returns name id) file calls →
      Turns.Happens Call.leaves (Call.Returns name' id') file calls →
        (id = id' ↔ name = name') ∧ (threadId id = threadId id' ↔ name = name')) ∧
    (∀ name now id,
      (getOrCreateSession name now (Turns.execute Call.leaves file calls)).1 = .ok id →
        Touches name now id (rowsOf (Turns.execute Call.leaves file calls))
          (getOrCreateSession name now (Turns.execute Call.leaves file calls)).2.rows) ∧
    ∀ order, (listSessions order (Turns.execute Call.leaves file calls)).2.rows =
        rowsOf (Turns.execute Call.leaves file calls) ∧
      (listSessions order (Turns.execute Call.leaves file calls)).1.Perm
        (rowsOf (Turns.execute Call.leaves file calls)) ∧
      (listSessions order (Turns.execute Call.leaves file calls)).1.Pairwise
        SessionsRow.AsRecent := by
  refine ⟨fun name name' id id' first second => ?_, fun name now id returned => ?_,
    fun order => ⟨?_, ?_, order.ordered _⟩⟩
  · have present := mem_entries_of_happens first
    have present' := mem_entries_of_happens second
    have same : id = id' ↔ name = name' := by
      constructor
      · rintro rfl
        exact name_eq_of_mem_entries present present'
      · rintro rfl
        exact id_eq_of_mem_entries present present'
    exact ⟨same, threadId_eq_iff.trans same⟩
  · rw [← rows_createSessionTable]
    exact (getOrCreateSession_resumes name now _).touches returned
  · exact rows_createSessionTable _
  · rw [← rows_createSessionTable]
    exact order.perm _

/-- A session is resumed after another one was created and listed. -/
theorem sessions_one_to_one_resumed :
    let calls : List Call :=
      [.session (py "a") 1, .session (py "b") 2, .list (.stable _), .session (py "a") 3]
    Turns.Happens Call.leaves (Call.Returns (py "a") 1) none calls ∧
      Turns.Happens Call.leaves (Call.Returns (py "b") 2) none calls ∧
      threadId 1 ≠ threadId 2 := by
  intro calls
  have first : Turns.Happens Call.leaves (Call.Returns (py "a") 1) none calls :=
    ⟨calls.take 3, _, [], rfl, 3, rfl, by rfl⟩
  have second : Turns.Happens Call.leaves (Call.Returns (py "b") 2) none calls :=
    ⟨calls.take 1, _, calls.drop 2, rfl, 2, rfl, by rfl⟩
  refine ⟨first, second, fun same => ?_⟩
  have named := ((sessions_one_to_one none calls).1 _ _ _ _ first second).2.mp same
  exact absurd named (by decide)

end CarqnaAgent.Cli
