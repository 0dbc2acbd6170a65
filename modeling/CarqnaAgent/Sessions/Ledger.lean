import Mathlib
import CarqnaAgent.Foundations.Refinement
import CarqnaAgent.Sessions.Isolation

/-!
# The session store as a ledger

What the two tables are for: a profile for each user, and a list of sessions, each under its
user's own id. No surrogate key and no join is left.

* `Tables.ledger`: the ledger of the tables.
* **Every call of the store does to the ledger what it says, and is answered from the ledger
  alone** (`perform_refines`), so every run of the store is a run of the ledger
  (`store_refines_ledger`).
-/

set_option autoImplicit false

namespace CarqnaAgent.Sessions

open Foundations
open Foundations.Transaction

/-! ## The ledger -/

/-- What is known of a user. -/
structure Profile where
  email : Option PyStr
  name : Option PyStr
  first_seen_at : Timestamptz
  last_seen_at : Timestamptz
  deriving DecidableEq

/-- A session and its user. -/
structure Entry where
  user_id : PyStr
  session : SessionRow
  deriving DecidableEq

/-- Profiles and sessions, with the identities drawn for them. -/
@[ext] structure Ledger where
  profiles : PyStr → Option Profile
  entries : List Entry
  usersDrawn : ℕ
  sessionsDrawn : ℕ

namespace Ledger

/-- The sessions of a user, in the order of their creation. -/
def sessionsOf (ledger : Ledger) (user_id : PyStr) : List SessionRow :=
  (ledger.entries.filter fun entry => decide (entry.user_id = user_id)).map Entry.session

/-- A first profile, if there is room for it. -/
def introduce (ledger : Ledger) (now : Timestamptz) (user_id : PyStr) (email name : Option PyStr) :
    Ledger :=
  if checkOptionalText email = .ok () ∧ checkOptionalText name = .ok () ∧
      ledger.usersDrawn < bigintMax then
    { ledger with
      profiles := Function.update ledger.profiles user_id (some ⟨email, name, now, now⟩)
      usersDrawn := ledger.usersDrawn + 1 }
  else ledger

/-- A known user is seen; a new one gets a profile, if `/userinfo` gives one. -/
def track (now : Timestamptz) (userinfo : Userinfo) (user_id : PyStr) (ledger : Ledger) : Ledger :=
  if Storable user_id then
    match ledger.profiles user_id with
    | some profile =>
        { ledger with
          profiles := Function.update ledger.profiles user_id
            (some { profile with last_seen_at := now }) }
    | none => userinfo.elim ledger fun given => ledger.introduce now user_id given.1 given.2
  else ledger

/-- The sessions of a user, the most recently accessed first. -/
def list (order : OrderBy SessionRow.AsRecent) (user_id : PyStr) (ledger : Ledger) :
    Except PyException (List SessionRow) :=
  (checkText user_id).map fun _ => order.sort (ledger.sessionsOf user_id)

/-- The user has a session of that name. -/
def hasName (ledger : Ledger) (user_id session_name : PyStr) : Bool :=
  (ledger.sessionsOf user_id).any fun session => decide (session.session_name = session_name)

/-- A further session of the user. -/
def add (ledger : Ledger) (now : Timestamptz) (user_id session_name : PyStr) :
    Except PyException (Option SessionRow) × Ledger :=
  if (ledger.profiles user_id).isNone then (.ok none, ledger)
  else if ledger.sessionsDrawn < bigintMax then
    if ledger.hasName user_id session_name then
      (.error .uniqueViolation, { ledger with sessionsDrawn := ledger.sessionsDrawn + 1 })
    else
      (.ok (some ⟨ledger.sessionsDrawn + 1, session_name, now⟩),
        { ledger with
          entries := ledger.entries ++
            [⟨user_id, ⟨ledger.sessionsDrawn + 1, session_name, now⟩⟩]
          sessionsDrawn := ledger.sessionsDrawn + 1 })
  else (.error .sequenceGeneratorLimitExceeded, ledger)

/-- A session is created for a known user under a name the user has not used. -/
def create (now : Timestamptz) (user_id session_name : PyStr) (ledger : Ledger) :
    Except PyException (Option SessionRow) × Ledger :=
  if InvalidName session_name then
    (.error (.valueError (py "session_name must be non-empty and at most 256 characters")), ledger)
  else
    match checkText session_name with
    | .error exception => (.error exception, ledger)
    | .ok _ =>
        match checkText user_id with
        | .error exception => (.error exception, ledger)
        | .ok _ => ledger.add now user_id session_name

/-- The session of that id, if it is the user's, is accessed. -/
def touch (now : Timestamptz) (user_id : PyStr) (session_id : ℤ) (ledger : Ledger) : Ledger :=
  if Storable user_id then
    { ledger with
      entries := ledger.entries.map fun entry =>
        if entry.user_id = user_id ∧ (entry.session.id : ℤ) = session_id then
          { entry with session := { entry.session with access_ts := now } }
        else entry }
  else ledger

/-- One call. -/
def perform (now : Timestamptz) (ledger : Ledger) : Call → Answer × Ledger
  | .track userinfo user_id => (.none, ledger.track now userinfo user_id)
  | .list order user_id => (.listed (ledger.list order user_id), ledger)
  | .create user_id session_name =>
      (.created (ledger.create now user_id session_name).1,
        (ledger.create now user_id session_name).2)
  | .touch user_id session_id => (.none, ledger.touch now user_id session_id)

end Ledger

/-! ## The ledger of the tables -/

/-- What a row of `user_registry` says. -/
def UserRegistryRow.profile (row : UserRegistryRow) : Profile :=
  ⟨row.email, row.name, row.first_seen_at, row.last_seen_at⟩

/-- The user that a session refers to. -/
def Tables.ownerOf (tables : Tables) (session : UserSessionsRow) : PyStr :=
  ((tables.user_registry.byId session.user_registry_id).map UserRegistryRow.user_id).getD []

/-- The profiles and the sessions of the tables. -/
def Tables.ledger (tables : Tables) : Ledger where
  profiles user_id := (tables.user_registry.lookup user_id).map UserRegistryRow.profile
  entries := tables.user_sessions.rows.map fun row => ⟨tables.ownerOf row, row.returned⟩
  usersDrawn := tables.user_registry.drawn
  sessionsDrawn := tables.user_sessions.drawn

section Owners

variable {tables : Tables} {user_id : PyStr} {session : UserSessionsRow}

/-- Every session has a user. -/
theorem owns_ownerOf (member : session ∈ tables.user_sessions.rows) :
    tables.owns (tables.ownerOf session) session = true := by
  obtain ⟨owner, registered, refers⟩ := List.mem_map.mp (tables.references session member)
  have found : tables.user_registry.byId session.user_registry_id = some owner :=
    Table.byId_eq_some_iff.mpr ⟨registered, refers⟩
  refine owns_iff.mpr ⟨owner, registered, refers.symm, ?_⟩
  rw [Tables.ownerOf, found]
  rfl

theorem ownerOf_eq_iff (member : session ∈ tables.user_sessions.rows) :
    tables.ownerOf session = user_id ↔ tables.owns user_id session = true := by
  constructor
  · rintro rfl
    exact owns_ownerOf member
  · exact owner_unique (owns_ownerOf member)

theorem ledger_sessionsOf (tables : Tables) (user_id : PyStr) :
    tables.ledger.sessionsOf user_id = tables.sessionsOf user_id := by
  rw [Ledger.sessionsOf, Tables.ledger, Tables.sessionsOf, List.filter_map, List.map_map]
  refine congrArg (List.map UserSessionsRow.returned) (List.filter_congr fun row member => ?_)
  rw [Bool.eq_iff_iff]
  simpa using ownerOf_eq_iff member

end Owners

/-! ## Calls -/

section Calls

variable {tables : Tables} {user_id : PyStr}

/-- Seeing a user leaves the owners of the sessions. -/
theorem ownerOf_seen (tables : Tables) (now : Timestamptz) (user_id : PyStr)
    (session : UserSessionsRow) : (tables.seen now user_id).ownerOf session =
      tables.ownerOf session := by
  have looked := Table.byId_update tables.user_registry
    (fun row => decide (row.user_id = user_id)) (Tables.setLastSeen now) session.user_registry_id
  simp only [Tables.ownerOf, Tables.seen, looked, Option.map_map]
  congr 2
  funext row
  exact (Tables.setLastSeen now).key_onRow _ row

/-- A further user leaves the owners of the sessions. -/
theorem ownerOf_register {row : UserRegistryRow} (accepts : tables.user_registry.Accepts row)
    {session : UserSessionsRow} (member : session ∈ tables.user_sessions.rows) :
    (tables.register row accepts).ownerOf session = tables.ownerOf session := by
  obtain ⟨owner, registered, refers⟩ := List.mem_map.mp (tables.references session member)
  have before : tables.user_registry.byId session.user_registry_id = some owner :=
    Table.byId_eq_some_iff.mpr ⟨registered, refers⟩
  have after : (tables.register row accepts).user_registry.byId session.user_registry_id =
      some owner :=
    Table.byId_eq_some_iff.mpr ⟨List.mem_append_left _ registered, refers⟩
  rw [Tables.ownerOf, Tables.ownerOf, before, after]

theorem ledger_seen {row : UserRegistryRow} (now : Timestamptz)
    (found : tables.user_registry.lookup user_id = some row) :
    (tables.seen now user_id).ledger =
      { tables.ledger with
        profiles := Function.update tables.ledger.profiles user_id
          (some { row.profile with last_seen_at := now }) } := by
  refine Ledger.ext (funext fun other => ?_) ?_ rfl rfl
  · have looked := Table.lookup_update tables.user_registry
      (fun row => decide (row.user_id = user_id)) (Tables.setLastSeen now) other
    simp only [Tables.ledger, Tables.seen, looked, Option.map_map]
    by_cases here : other = user_id
    · subst here
      have named : row.user_id = other := (Table.lookup_eq_some_iff.mp found).2
      simp [found, Table.Setting.onRow, named, Tables.setLastSeen, UserRegistryRow.profile]
    · rw [Function.update_of_ne here]
      cases there : tables.user_registry.lookup other with
      | none => rfl
      | some row' =>
          have named : row'.user_id = other := (Table.lookup_eq_some_iff.mp there).2
          simp [Table.Setting.onRow, named, here]
  · exact List.map_congr_left fun session _ =>
      congrArg (Entry.mk · session.returned) (ownerOf_seen tables now user_id session)

theorem ledger_register {row : UserRegistryRow} (accepts : tables.user_registry.Accepts row) :
    (tables.register row accepts).ledger =
      { tables.ledger with
        profiles := Function.update tables.ledger.profiles row.user_id (some row.profile) } := by
  refine Ledger.ext (funext fun other => ?_) ?_ rfl rfl
  · have looked := Table.lookup_insert tables.user_registry accepts other
    simp only [Tables.ledger, Tables.register, looked]
    by_cases here : other = row.user_id
    · subst here
      simp [userRegistry]
    · rw [Function.update_of_ne here]
      exact congrArg _ (if_neg (Ne.symm here))
  · exact List.map_congr_left fun session member =>
      congrArg (Entry.mk · session.returned) (ownerOf_register accepts member)

/-- **`track_user` on the ledger.** -/
theorem track_refines (now : Timestamptz) (userinfo : Userinfo) (user_id : PyStr)
    (tables : Tables) : (trackUser now userinfo user_id tables).ledger =
      tables.ledger.track now userinfo user_id := by
  rw [trackUser_eq, Ledger.track]
  by_cases storable : Storable user_id
  · rw [if_pos storable, if_pos storable]
    cases found : tables.user_registry.lookup user_id with
    | some row =>
        have known : tables.ledger.profiles user_id = some row.profile := by
          simp [Tables.ledger, found]
        simp only [Option.isSome_some, if_true, known]
        exact ledger_seen now found
    | none =>
        have unknown : tables.ledger.profiles user_id = none := by simp [Tables.ledger, found]
        simp only [Option.isSome_none, Bool.false_eq_true, if_false, unknown]
        cases userinfo with
        | none => rfl
        | some given =>
            obtain ⟨email, name⟩ := given
            by_cases able : CanInsert tables email name
            · have absent : ¬ Registered tables user_id := by
                rw [registered_iff_lookup, found]
                simp
              rw [firstSeen_of_canInsert now able absent, ledger_register]
              exact (if_pos able).symm
            · rw [firstSeen, if_neg able]
              exact (if_neg able).symm
  · rw [if_neg storable, if_neg storable]

/-- **`list_sessions` on the ledger.** -/
theorem list_refines (order : OrderBy SessionRow.AsRecent) (user_id : PyStr) (tables : Tables) :
    (listSessions order user_id tables).1 = tables.ledger.list order user_id ∧
      (listSessions order user_id tables).2.ledger = tables.ledger := by
  rw [listSessions_eq, Ledger.list, ledger_sessionsOf]
  cases checkText user_id with
  | error exception => exact ⟨rfl, congrArg Tables.ledger (Tables.rollback_self tables)⟩
  | ok _ => exact ⟨rfl, rfl⟩

/-- **`touch_session` on the ledger.** -/
theorem touch_refines (now : Timestamptz) (user_id : PyStr) (session_id : ℤ) (tables : Tables) :
    (touchSession now user_id session_id tables).ledger =
      tables.ledger.touch now user_id session_id := by
  rw [touchSession_eq, Ledger.touch]
  by_cases storable : Storable user_id
  · rw [if_pos storable, if_pos storable]
    refine Ledger.ext rfl ?_ rfl rfl
    simp only [Tables.ledger, Tables.accessed, Table.update_rows, List.map_map]
    refine List.map_congr_left fun session member => ?_
    have owner : tables.ownerOf session = user_id ↔ tables.owns user_id session = true :=
      ownerOf_eq_iff member
    by_cases mine : (session.id : ℤ) = session_id ∧ tables.owns user_id session = true
    · have selected : (decide ((session.id : ℤ) = session_id) && tables.owns user_id session) =
          true := by simpa using mine
      have entry : tables.ownerOf session = user_id ∧ (session.returned.id : ℤ) = session_id :=
        ⟨owner.mpr mine.2, mine.1⟩
      simp only [Function.comp_apply, Table.Setting.onRow, selected, if_true, if_pos entry]
      rfl
    · have unselected : (decide ((session.id : ℤ) = session_id) && tables.owns user_id session) =
          false := by simpa using mine
      have entry : ¬ (tables.ownerOf session = user_id ∧ (session.returned.id : ℤ) = session_id) :=
        fun both => mine ⟨both.2, owner.mp both.1⟩
      simp only [Function.comp_apply, Table.Setting.onRow, unselected, Bool.false_eq_true,
        if_false, if_neg entry]
      rfl
  · rw [if_neg storable, if_neg storable]

/-- A user has a session of a name when the key is in the table. -/
theorem hasName_iff {owner : UserRegistryRow} (session_name : PyStr)
    (found : tables.user_registry.lookup user_id = some owner) :
    tables.ledger.hasName user_id session_name = true ↔
      (owner.id, session_name) ∈ tables.user_sessions.rows.map userSessions.key := by
  obtain ⟨registered, named⟩ := Table.lookup_eq_some_iff.mp found
  rw [Ledger.hasName, ledger_sessionsOf]
  simp only [Tables.sessionsOf, List.any_eq_true, List.mem_map, List.mem_filter, decide_eq_true_eq]
  constructor
  · rintro ⟨_, ⟨row, ⟨member, owned⟩, rfl⟩, rfl⟩
    obtain ⟨owner', registered', refers, named'⟩ := owns_iff.mp owned
    have same : owner' = owner :=
      Table.eq_of_key_eq registered' registered (named'.trans named.symm)
    exact ⟨row, member, Prod.ext (same ▸ refers) rfl⟩
  · rintro ⟨row, member, same⟩
    have refers : row.user_registry_id = owner.id := congrArg Prod.fst same
    exact ⟨row.returned, ⟨row, ⟨member, owns_iff.mpr ⟨owner, registered, refers, named⟩⟩, rfl⟩,
      congrArg Prod.snd same⟩

theorem ledger_addSession {now : Timestamptz} {owner : UserRegistryRow} {session_name : PyStr}
    (found : tables.user_registry.lookup user_id = some owner)
    (accepts : tables.drawSessions.user_sessions.Accepts
      (tables.newSession now owner session_name)) :
    (tables.drawSessions.addSession (tables.newSession now owner session_name) accepts
      (List.mem_map_of_mem (Table.lookup_eq_some_iff.mp found).1)).ledger =
      { tables.ledger with
        entries := tables.ledger.entries ++
          [⟨user_id, (tables.newSession now owner session_name).returned⟩]
        sessionsDrawn := tables.ledger.sessionsDrawn + 1 } := by
  obtain ⟨registered, named⟩ := Table.lookup_eq_some_iff.mp found
  have owned : tables.user_registry.byId owner.id = some owner :=
    Table.byId_eq_some_iff.mpr ⟨registered, rfl⟩
  refine Ledger.ext rfl ?_ rfl rfl
  simp only [Tables.ledger, Tables.addSession, Table.insert_rows, List.map_append, List.map_cons,
    List.map_nil]
  refine congrArg (_ ++ [Entry.mk · _]) ?_
  simp only [Tables.ownerOf, Tables.newSession, Tables.drawSessions, owned, Option.map_some,
    Option.getD_some]
  exact named

/-- A session that is rolled back leaves its identity drawn. -/
theorem ledger_rollback_drawSessions (tables : Tables) :
    (tables.rollback tables.drawSessions).ledger =
      { tables.ledger with sessionsDrawn := tables.ledger.sessionsDrawn + 1 } := by
  refine Ledger.ext rfl rfl ?_ ?_
  · simp [Tables.ledger, Tables.rollback, Tables.drawSessions]
  · simp [Tables.ledger, Tables.rollback, Tables.drawSessions, Table.undo, Table.draw]

/-- The block of `create_session` on the ledger, with parameters that the driver sends. -/
theorem insert_refines (now : Timestamptz) {session_name : PyStr}
    (name : Storable session_name) (user : Storable user_id) (tables : Tables) :
    ((connection (insertSession now session_name user_id) tables).1,
      (connection (insertSession now session_name user_id) tables).2.ledger) =
      tables.ledger.add now user_id session_name := by
  have name_ok : checkText session_name = .ok () := name
  have user_ok : checkText user_id = .ok () := user
  rcases ran : insertSession now session_name user_id tables with ⟨result, after⟩
  have block := ran
  simp only [insertSession, name_ok, user_ok, outcome_ok_bind, statement_apply] at block
  split at block
  · rename_i absent
    cases block
    have unknown : (tables.ledger.profiles user_id).isNone = true := by
      simp [Tables.ledger, absent]
    rw [connection_of_ok ran, Ledger.add, if_pos unknown]
  · rename_i owner found
    have known : ¬ (tables.ledger.profiles user_id).isNone = true := by
      simp [Tables.ledger, found]
    rw [Ledger.add, if_neg known]
    have free : tables.drawSessions.user_sessions.Accepts
        (tables.newSession now owner session_name) ↔
          ¬ tables.ledger.hasName user_id session_name = true :=
      (Table.accepts_drawn_iff rfl).trans (hasName_iff session_name found).not.symm
    split at block
    · rename_i identity
      have room : tables.ledger.sessionsDrawn < bigintMax := identity
      rw [if_pos room]
      split at block
      · rename_i accepts
        cases block
        rw [connection_of_ok ran, if_neg (free.mp accepts), ledger_addSession found accepts]
        rfl
      · rename_i refused
        cases block
        rw [connection_of_error ran, if_pos (not_not.mp (free.not.mp refused)),
          ledger_rollback_drawSessions]
    · rename_i exhausted
      cases block
      have full : ¬ tables.ledger.sessionsDrawn < bigintMax := exhausted
      rw [connection_of_error ran, if_neg full, Tables.rollback_self]

/-- **`create_session` on the ledger.** -/
theorem create_refines (now : Timestamptz) (user_id session_name : PyStr) (tables : Tables) :
    ((createSession now user_id session_name tables).1,
      (createSession now user_id session_name tables).2.ledger) =
      tables.ledger.create now user_id session_name := by
  rw [createSession, Ledger.create]
  split
  · rfl
  · cases name : checkText session_name with
    | error exception =>
        have raised : insertSession now session_name user_id tables = (.error exception, tables) := by
          simp [insertSession, name]
        rw [connection_of_error raised, Tables.rollback_self]
    | ok _ =>
        cases user : checkText user_id with
        | error exception =>
            have raised : insertSession now session_name user_id tables =
                (.error exception, tables) := by
              simp [insertSession, name, user]
            rw [connection_of_error raised, Tables.rollback_self]
        | ok _ => exact insert_refines now name user tables

end Calls

/-! ## Runs -/

/-- **Every call of the store is a call of the ledger**, with the same answer. -/
theorem perform_refines (now : Timestamptz) (tables : Tables) (call : Call) :
    ((call.perform now tables).1, (call.perform now tables).2.ledger) =
      tables.ledger.perform now call := by
  cases call with
  | track userinfo user_id =>
      exact congrArg (Prod.mk _) (track_refines now userinfo user_id tables)
  | list order user_id =>
      obtain ⟨answer, after⟩ := list_refines order user_id tables
      exact Prod.ext (congrArg Answer.listed answer) after
  | create user_id session_name =>
      have refines := create_refines now user_id session_name tables
      have answer := congrArg Prod.fst refines
      have after := congrArg Prod.snd refines
      exact Prod.ext (congrArg Answer.created answer) after
  | touch user_id session_id =>
      exact congrArg (Prod.mk _) (touch_refines now user_id session_id tables)

/-- Make the calls one after the other. -/
def runCalls (turns : List (Timestamptz × Call)) (tables : Tables) : List Answer × Tables :=
  Refinement.run (fun turn tables => turn.2.perform turn.1 tables) turns tables

/-- The same calls of the ledger. -/
def Ledger.runCalls (turns : List (Timestamptz × Call)) (ledger : Ledger) : List Answer × Ledger :=
  Refinement.run (fun turn ledger => ledger.perform turn.1 turn.2) turns ledger

/-- **The store is the ledger**: every run of calls, from any tables, is answered as from their
ledger, and leaves tables of the ledger that this leaves. -/
theorem store_refines_ledger (turns : List (Timestamptz × Call)) (tables : Tables) :
    (runCalls turns tables).1 = (tables.ledger.runCalls turns).1 ∧
      (runCalls turns tables).2.ledger = (tables.ledger.runCalls turns).2 := by
  induction turns generalizing tables with
  | nil => exact ⟨rfl, rfl⟩
  | cons turn later ih =>
      have refines := perform_refines turn.1 tables turn.2
      have answer := congrArg Prod.fst refines
      have after : (turn.2.perform turn.1 tables).2.ledger =
          (tables.ledger.perform turn.1 turn.2).2 := congrArg Prod.snd refines
      obtain ⟨answers, final⟩ := ih (turn.2.perform turn.1 tables).2
      rw [after] at answers final
      exact ⟨congrArg₂ List.cons answer answers, final⟩

end CarqnaAgent.Sessions
