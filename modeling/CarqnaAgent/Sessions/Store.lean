import Mathlib
import CarqnaAgent.Foundations.Integers
import CarqnaAgent.Foundations.Tables

/-!
# The session store

`src/agent/user_tracking.py` and `src/agent/sessions.py` over the tables of
`initdb.d/users_registry.sh` and `initdb.d/users_sessions.sh`. Each connection block is
one transaction; `now` is `now()`, the time at which the transaction starts.

A text parameter reaches the database only as UTF-8 and without `U+0000`; the driver
raises otherwise. An identity that a failing transaction has drawn stays drawn.
-/

set_option autoImplicit false

namespace CarqnaAgent.Sessions

open Foundations
open Foundations.Transaction (statement outcome raise orUndo)

/-- A `TIMESTAMPTZ`, in microseconds. -/
abbrev Timestamptz := ℤ

/-! ## Tables -/

/-- A row of `user_registry`. -/
structure UserRegistryRow where
  id : ℕ
  user_id : PyStr
  email : Option PyStr
  name : Option PyStr
  first_seen_at : Timestamptz
  last_seen_at : Timestamptz
  deriving DecidableEq

/-- A row of `user_sessions`. -/
structure UserSessionsRow where
  id : ℕ
  user_registry_id : ℕ
  session_name : PyStr
  access_ts : Timestamptz
  deriving DecidableEq

/-- `user_registry`: `UNIQUE (user_id)`. -/
def userRegistry : Schema UserRegistryRow PyStr := ⟨UserRegistryRow.id, UserRegistryRow.user_id⟩

/-- `user_sessions`: `UNIQUE (user_registry_id, session_name)`. -/
def userSessions : Schema UserSessionsRow (ℕ × PyStr) :=
  ⟨UserSessionsRow.id, fun row => (row.user_registry_id, row.session_name)⟩

/-- The two tables, with the foreign key of the second. -/
structure Tables where
  user_registry : Table userRegistry
  user_sessions : Table userSessions
  references : ∀ row ∈ user_sessions.rows,
    row.user_registry_id ∈ user_registry.rows.map UserRegistryRow.id

/-- The last value of a `BIGINT` identity. -/
def bigintMax : ℕ := 2 ^ 63 - 1

namespace Tables

/-- The tables as the scripts create them. -/
def empty : Tables where
  user_registry := .empty userRegistry
  user_sessions := .empty userSessions
  references := nofun

/-- `ROLLBACK`. -/
def rollback (before after : Tables) : Tables where
  user_registry := before.user_registry.undo after.user_registry
  user_sessions := before.user_sessions.undo after.user_sessions
  references := before.references

/-- `s.user_registry_id = r.id AND r.user_id = %s` for some `r` of `user_registry`. -/
def owns (tables : Tables) (user_id : PyStr) (session : UserSessionsRow) : Bool :=
  tables.user_registry.rows.any fun row =>
    decide (session.user_registry_id = row.id ∧ row.user_id = user_id)

/-- `last_seen_at = now()`. -/
def setLastSeen (now : Timestamptz) : Table.Setting userRegistry where
  set row := { row with last_seen_at := now }
  id_set _ := rfl
  key_set _ := rfl

/-- `access_ts = now()`. -/
def setAccessTs (now : Timestamptz) : Table.Setting userSessions where
  set row := { row with access_ts := now }
  id_set _ := rfl
  key_set _ := rfl

/-- The row of the user, seen now. -/
def seen (tables : Tables) (now : Timestamptz) (user_id : PyStr) : Tables where
  user_registry :=
    tables.user_registry.update (fun row => decide (row.user_id = user_id)) (setLastSeen now)
  user_sessions := tables.user_sessions
  references := by
    intro row member
    have kept := Table.map_id_onRow (setLastSeen now)
      (fun row => decide (row.user_id = user_id)) tables.user_registry.rows
    exact (congrArg (row.user_registry_id ∈ ·) kept).mpr (tables.references row member)

/-- A further row of `user_registry`. -/
def register (tables : Tables) (row : UserRegistryRow)
    (accepts : tables.user_registry.Accepts row) : Tables where
  user_registry := tables.user_registry.insert row accepts
  user_sessions := tables.user_sessions
  references := by
    intro session member
    rw [Table.insert_rows, List.map_append]
    exact List.mem_append_left _ (tables.references session member)

/-- The session of that id, if it is the user's, accessed now. -/
def accessed (tables : Tables) (now : Timestamptz) (session_id : ℤ) (user_id : PyStr) :
    Tables where
  user_registry := tables.user_registry
  user_sessions :=
    tables.user_sessions.update
      (fun session => decide ((session.id : ℤ) = session_id) && tables.owns user_id session)
      (setAccessTs now)
  references := by
    intro session member
    obtain ⟨old, present, rfl⟩ := List.mem_map.mp member
    have owner := congrArg Prod.fst ((setAccessTs now).key_onRow
      (fun session => decide ((session.id : ℤ) = session_id) && tables.owns user_id session) old)
    exact (congrArg (· ∈ _) owner).mpr (tables.references old present)

/-- A further row of `user_sessions`, of a registered owner. -/
def addSession (tables : Tables) (row : UserSessionsRow)
    (accepts : tables.user_sessions.Accepts row)
    (owner : row.user_registry_id ∈ tables.user_registry.rows.map UserRegistryRow.id) :
    Tables where
  user_registry := tables.user_registry
  user_sessions := tables.user_sessions.insert row accepts
  references := by
    intro session member
    rcases List.mem_append.mp member with old | new
    · exact tables.references session old
    · rw [List.mem_singleton.mp new]
      exact owner

/-- The row of a user seen for the first time, under the next identity. -/
def newUser (tables : Tables) (now : Timestamptz) (user_id : PyStr) (email name : Option PyStr) :
    UserRegistryRow :=
  ⟨tables.user_registry.drawn + 1, user_id, email, name, now, now⟩

/-- The row of a new session, under the next identity. -/
def newSession (tables : Tables) (now : Timestamptz) (owner : UserRegistryRow)
    (session_name : PyStr) : UserSessionsRow :=
  ⟨tables.user_sessions.drawn + 1, owner.id, session_name, now⟩

/-- Draw an identity of `user_registry`. -/
def drawRegistry (tables : Tables) : Tables :=
  { tables with user_registry := tables.user_registry.draw }

/-- Draw an identity of `user_sessions`. -/
def drawSessions (tables : Tables) : Tables :=
  { tables with user_sessions := tables.user_sessions.draw }

end Tables

/-! ## Statements -/

/-- The exceptions of the store. `UnicodeEncodeError` is a `ValueError`. -/
inductive PyException where
  | valueError (message : PyStr)
  | unicodeEncodeError (object : PyStr)
  | dataError
  | uniqueViolation
  | sequenceGeneratorLimitExceeded
  /-- Whatever `_fetch_userinfo` raises. -/
  | userinfoFailed
  deriving DecidableEq

/-- A block of SQL statements. -/
abbrev Sql := Transaction PyException Tables

/-- A text parameter is encoded, and refused when it has a `U+0000`. -/
def checkText (text : PyStr) : Except PyException Unit :=
  if (PyStr.encode text).isNone then .error (.unicodeEncodeError text)
  else if CodePoint.ofNat 0 ∈ text then .error .dataError
  else .ok ()

/-- A text the driver sends. -/
def Storable (text : PyStr) : Prop := checkText text = .ok ()

instance (text : PyStr) : Decidable (Storable text) :=
  inferInstanceAs (Decidable (checkText text = .ok ()))

/-- A parameter that may be `None`, for `NULL`. -/
def checkOptionalText (text : Option PyStr) : Except PyException Unit :=
  match text with
  | none => .ok ()
  | some text => checkText text

/-- `UPDATE user_registry SET last_seen_at = now() WHERE user_id = %s`, and its row count. -/
def updateLastSeen (now : Timestamptz) (user_id : PyStr) : Sql ℕ := do
  outcome (checkText user_id)
  statement fun tables =>
    (.ok (tables.user_registry.rows.countP fun row => decide (row.user_id = user_id)),
      tables.seen now user_id)

/-- `INSERT INTO user_registry (user_id, email, name) VALUES (%s, %s, %s)
ON CONFLICT (user_id) DO UPDATE SET last_seen_at = now()`. The identity is drawn before the
conflict is looked for. -/
def upsertUser (now : Timestamptz) (user_id : PyStr) (email name : Option PyStr) : Sql Unit := do
  outcome (checkText user_id)
  outcome (checkOptionalText email)
  outcome (checkOptionalText name)
  statement fun tables =>
    if tables.user_registry.drawn < bigintMax then
      if accepts : tables.drawRegistry.user_registry.Accepts
          (tables.newUser now user_id email name) then
        (.ok (), tables.drawRegistry.register (tables.newUser now user_id email name) accepts)
      else (.ok (), tables.drawRegistry.seen now user_id)
    else (.error .sequenceGeneratorLimitExceeded, tables)

/-- A row as `list_sessions` and `create_session` return it. -/
structure SessionRow where
  id : ℕ
  session_name : PyStr
  access_ts : Timestamptz
  deriving DecidableEq

/-- The order of `ORDER BY access_ts DESC`. -/
def SessionRow.AsRecent (first second : SessionRow) : Prop := second.access_ts ≤ first.access_ts

instance : DecidableRel SessionRow.AsRecent := fun first second =>
  inferInstanceAs (Decidable (second.access_ts ≤ first.access_ts))

instance : Std.Total SessionRow.AsRecent where
  total first second := le_total second.access_ts first.access_ts

instance : IsTrans SessionRow SessionRow.AsRecent where
  trans _ _ _ first second := le_trans second first

/-- The returned columns. -/
def UserSessionsRow.returned (row : UserSessionsRow) : SessionRow :=
  ⟨row.id, row.session_name, row.access_ts⟩

/-- `SELECT … FROM user_sessions s JOIN user_registry r … WHERE r.user_id = %s
ORDER BY s.access_ts DESC`. -/
def selectSessions (order : OrderBy SessionRow.AsRecent) (user_id : PyStr) :
    Sql (List SessionRow) := do
  outcome (checkText user_id)
  statement fun tables =>
    (.ok (order.sort ((tables.user_sessions.rows.filter (tables.owns user_id)).map
      UserSessionsRow.returned)), tables)

/-- `INSERT INTO user_sessions (user_registry_id, session_name) SELECT id, %s FROM user_registry
WHERE user_id = %s RETURNING …`. `user_id` is unique, so at most one row is selected. -/
def insertSession (now : Timestamptz) (session_name user_id : PyStr) :
    Sql (Option SessionRow) := do
  outcome (checkText session_name)
  outcome (checkText user_id)
  statement fun tables =>
    match found : tables.user_registry.lookup user_id with
    | none => (.ok none, tables)
    | some owner =>
        if tables.user_sessions.drawn < bigintMax then
          if accepts : tables.drawSessions.user_sessions.Accepts
              (tables.newSession now owner session_name) then
            (.ok (some (tables.newSession now owner session_name).returned),
              tables.drawSessions.addSession (tables.newSession now owner session_name) accepts
                (List.mem_map_of_mem (Table.lookup_eq_some_iff.mp found).1))
          else (.error .uniqueViolation, tables.drawSessions)
        else (.error .sequenceGeneratorLimitExceeded, tables)

/-- `UPDATE user_sessions s SET access_ts = now() FROM user_registry r WHERE s.id = %s AND
s.user_registry_id = r.id AND r.user_id = %s`. -/
def updateAccessTs (now : Timestamptz) (session_id : ℤ) (user_id : PyStr) : Sql Unit := do
  outcome (checkText user_id)
  statement fun tables => (.ok (), tables.accessed now session_id user_id)

/-! ## The functions -/

/-- `async with pool.connection()`: commit, or roll back and raise. -/
def connection {α : Type} (block : Sql α) : Sql α := orUndo Tables.rollback block

/-- The outcome of `_fetch_userinfo`: `(email, name)`, or an exception. -/
abbrev Userinfo := Option (Option PyStr × Option PyStr)

/-- `await _fetch_userinfo(access_token)`. -/
def fetchUserinfo (userinfo : Userinfo) : Sql (Option PyStr × Option PyStr) :=
  match userinfo with
  | none => raise .userinfoFailed
  | some profile => pure profile

/-- The connection block of `track_user`. -/
def trackUserBlock (now : Timestamptz) (userinfo : Userinfo) (user_id : PyStr) : Sql Unit := do
  let rowcount ← updateLastSeen now user_id
  if rowcount = 0 then
    let (email, name) ← fetchUserinfo userinfo
    upsertUser now user_id email name

/-- `track_user`, which logs what it catches. -/
def trackUser (now : Timestamptz) (userinfo : Userinfo) (user_id : PyStr) (tables : Tables) :
    Tables :=
  (connection (trackUserBlock now userinfo user_id) tables).2

/-- `list_sessions`. -/
def listSessions (order : OrderBy SessionRow.AsRecent) (user_id : PyStr) :
    Sql (List SessionRow) :=
  connection (selectSessions order user_id)

/-- `not session_name or len(session_name) > 256`. -/
def InvalidName (session_name : PyStr) : Prop := session_name = [] ∨ 256 < session_name.length

instance (session_name : PyStr) : Decidable (InvalidName session_name) :=
  inferInstanceAs (Decidable (_ ∨ _))

/-- `create_session`. -/
def createSession (now : Timestamptz) (user_id session_name : PyStr) : Sql (Option SessionRow) :=
  if InvalidName session_name then
    raise (.valueError (py "session_name must be non-empty and at most 256 characters"))
  else connection (insertSession now session_name user_id)

/-- `touch_session`, which logs what it catches. -/
def touchSession (now : Timestamptz) (user_id : PyStr) (session_id : ℤ) (tables : Tables) :
    Tables :=
  (connection (updateAccessTs now session_id user_id) tables).2

end CarqnaAgent.Sessions
