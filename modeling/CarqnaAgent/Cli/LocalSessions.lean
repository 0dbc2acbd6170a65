import Mathlib
import CarqnaAgent.Foundations.Tables
import CarqnaAgent.Foundations.Text
import CarqnaAgent.Foundations.Turns

/-!
# The local sessions of the command line

`_get_or_create_session` of `src/agent/carqna_cli.py` statement by statement, any number of
calls at once on one SQLite file, each from a process of its own.

`CREATE TABLE IF NOT EXISTS` and `SELECT` are not in a transaction. `UPDATE` and `INSERT`
open one and take the write lock of the file, which they have until it ends; what they
write is seen when it commits. A statement that needs the lock while another call has it
waits: the turn leaves the world as it is.
-/

set_option autoImplicit false

namespace CarqnaAgent.Cli

open Foundations

/-- A `TIMESTAMP`: `CURRENT_TIMESTAMP` counts seconds. -/
abbrev Timestamp := ℤ

/-- A row of `sessions`. -/
structure SessionsRow where
  session_id : ℕ
  session_name : PyStr
  access_ts : Timestamp
  deriving DecidableEq

/-- `sessions`: `session_id` is `AUTOINCREMENT`, and `UNIQUE (session_name)`. -/
def sessions : Schema SessionsRow PyStr := ⟨SessionsRow.session_id, SessionsRow.session_name⟩

/-- The last rowid of SQLite. -/
def maxRowid : ℕ := 2 ^ 63 - 1

/-- `access_ts = CURRENT_TIMESTAMP`. -/
def setAccessTs (now : Timestamp) : Table.Setting sessions where
  set row := { row with access_ts := now }
  id_set _ := rfl
  key_set _ := rfl

/-- How a call fails. -/
inductive Failure where
  /-- A parameter has no UTF-8. -/
  | unicodeEncodeError
  /-- `no such table: sessions`. -/
  | noSuchTable
  /-- `database or disk is full`: the rowids are used up. -/
  | databaseFull
  /-- `UNIQUE constraint failed: sessions.session_name`. -/
  | integrityError
  deriving DecidableEq

/-- Where a call of `_get_or_create_session` is. -/
inductive Phase where
  /-- `CREATE TABLE IF NOT EXISTS` comes next. -/
  | called
  /-- The `SELECT` comes next. -/
  | selecting
  /-- The `SELECT` has found a row, and its `UPDATE` comes next. -/
  | updating (session_id : ℕ)
  /-- The `SELECT` has found no row, and the `INSERT` comes next. -/
  | inserting
  /-- The transaction has written this version of the table, and its commit comes next. -/
  | committing (version : Table sessions) (session_id : ℕ)
  /-- The `INSERT` is refused. Its transaction is open until the connection is closed. -/
  | failing
  | returned (session_id : ℕ)
  | raised (failure : Failure)

/-- The call has the write lock. -/
def Phase.Writing : Phase → Prop
  | .committing _ _ => True
  | .failing => True
  | _ => False

/-- The call is over. -/
def Phase.Ended : Phase → Prop
  | .returned _ => True
  | .raised _ => True
  | _ => False

/-- The committed table of the file if it has been created, the call that has the write lock,
and the calls. -/
structure World (ι : Type) where
  database : Option (Table sessions)
  writer : Option ι
  phase : ι → Phase

/-- A file nobody is using yet. -/
def opened (ι : Type) (file : Option (Table sessions)) : World ι where
  database := file
  writer := none
  phase _ := .called

/-- The committed rows. -/
def World.rows {ι : Type} (world : World ι) : List SessionsRow := world.database.elim [] Table.rows

namespace World

variable {ι : Type} [DecidableEq ι] (world : World ι) (i : ι)

/-- The call goes on to a phase, with nothing written. -/
def enter (phase : Phase) : World ι :=
  { world with phase := Function.update world.phase i phase }

/-- The call takes the write lock. -/
def lock (phase : Phase) : World ι :=
  { world with writer := some i, phase := Function.update world.phase i phase }

/-- `CREATE TABLE IF NOT EXISTS sessions`. -/
def create : World ι :=
  match world.database, world.writer with
  | some _, _ => world.enter i .selecting
  | none, none => { world.enter i .selecting with database := some (.empty sessions) }
  | none, some _ => world

/-- `SELECT session_id FROM sessions WHERE session_name = ?`. -/
def select (session_name : PyStr) : World ι :=
  match world.database, PyStr.encode session_name with
  | none, _ => world.enter i (.raised .noSuchTable)
  | some _, none => world.enter i (.raised .unicodeEncodeError)
  | some table, some _ =>
      match table.lookup session_name with
      | some row => world.enter i (.updating row.session_id)
      | none => world.enter i .inserting

/-- `UPDATE sessions SET access_ts = CURRENT_TIMESTAMP WHERE session_id = ?`. -/
def update (now : Timestamp) (session_id : ℕ) : World ι :=
  match world.database, world.writer with
  | none, _ => world.enter i (.raised .noSuchTable)
  | some _, some _ => world
  | some table, none =>
      world.lock i (.committing
        (table.update (fun row => decide (row.session_id = session_id)) (setAccessTs now))
        session_id)

/-- `INSERT INTO sessions (session_name) VALUES (?)`. Without a rowid left the transaction is
rolled back; a refusal by `UNIQUE` leaves it open. -/
def insert (now : Timestamp) (session_name : PyStr) : World ι :=
  match world.database, world.writer with
  | none, _ => world.enter i (.raised .noSuchTable)
  | some _, some _ => world
  | some table, none =>
      let row : SessionsRow := ⟨table.drawn + 1, session_name, now⟩
      if maxRowid ≤ table.drawn then world.enter i (.raised .databaseFull)
      else if accepts : table.draw.Accepts row then
        world.lock i (.committing (table.draw.insert row accepts) row.session_id)
      else world.lock i .failing

/-- A turn of the call: its next statement, its commit, or the close of its connection. -/
def step (names : ι → PyStr) (world : World ι) (turn : ι × Timestamp) : World ι :=
  match world.phase turn.1 with
  | .called => world.create turn.1
  | .selecting => world.select turn.1 (names turn.1)
  | .updating session_id => world.update turn.1 turn.2 session_id
  | .inserting => world.insert turn.1 turn.2 (names turn.1)
  | .committing version session_id =>
      { world.enter turn.1 (.returned session_id) with database := some version, writer := none }
  | .failing => { world.enter turn.1 (.raised .integrityError) with writer := none }
  | .returned _ => world
  | .raised _ => world

end World

end CarqnaAgent.Cli
