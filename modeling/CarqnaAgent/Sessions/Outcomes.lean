import Mathlib
import CarqnaAgent.Sessions.Store

/-!
# What the functions of the store leave

`trackUser_eq` and `touchSession_eq` give the tables after a call by cases, so that a
reader of a call need not run its statements.
-/

set_option autoImplicit false

namespace CarqnaAgent.Sessions

open Foundations
open Foundations.Transaction

/-! ## Registered users -/

/-- The user has a row of `user_registry`. -/
def Registered (tables : Tables) (user_id : PyStr) : Prop :=
  user_id ∈ tables.user_registry.rows.map UserRegistryRow.user_id

theorem registered_iff_lookup {tables : Tables} {user_id : PyStr} :
    Registered tables user_id ↔ (tables.user_registry.lookup user_id).isSome = true := by
  rw [Table.lookup_isSome_iff]
  rfl

theorem seen_registered_iff (tables : Tables) (now : Timestamptz) (user_id other : PyStr) :
    Registered (tables.seen now user_id) other ↔ Registered tables other :=
  iff_of_eq (congrArg (other ∈ ·)
    (Table.map_key_onRow (Tables.setLastSeen now) _ tables.user_registry.rows))

theorem registered_register_iff {tables : Tables} {row : UserRegistryRow}
    (accepts : tables.user_registry.Accepts row) (user_id : PyStr) :
    Registered (tables.register row accepts) user_id ↔
      Registered tables user_id ∨ user_id = row.user_id := by
  simp [Registered, Tables.register]

/-! ## Connections -/

theorem connection_of_error {α : Type} {block : Sql α} {tables after : Tables}
    {exception : PyException} (raised : block tables = (.error exception, after)) :
    connection block tables = (.error exception, tables.rollback after) :=
  orUndo_of_error raised

theorem connection_of_ok {α : Type} {block : Sql α} {tables after : Tables} {value : α}
    (returned : block tables = (.ok value, after)) :
    connection block tables = (.ok value, after) :=
  orUndo_of_ok returned

@[simp] theorem Tables.rollback_self (tables : Tables) : tables.rollback tables = tables := by
  simp [Tables.rollback]

/-! ## `track_user` -/

/-- `/userinfo` has given what the database takes, and there is an identity left. -/
def CanInsert (tables : Tables) (email name : Option PyStr) : Prop :=
  checkOptionalText email = .ok () ∧ checkOptionalText name = .ok () ∧
    tables.user_registry.drawn < bigintMax

instance (tables : Tables) (email name : Option PyStr) : Decidable (CanInsert tables email name) :=
  inferInstanceAs (Decidable (_ ∧ _ ∧ _))

/-- The tables once `/userinfo` has answered for a new user, whose key is free. -/
def firstSeen (now : Timestamptz) (user_id : PyStr) (tables : Tables) : Userinfo → Tables
  | none => tables
  | some (email, name) =>
      if CanInsert tables email name then
        if accepts : tables.drawRegistry.user_registry.Accepts
            (tables.newUser now user_id email name) then
          tables.drawRegistry.register (tables.newUser now user_id email name) accepts
        else tables.drawRegistry
      else tables

section TrackUser

variable (now : Timestamptz) {tables : Tables} {user_id : PyStr} {email name : Option PyStr}

theorem seen_of_not_registered (unknown : ¬ Registered tables user_id) :
    tables.seen now user_id = tables := by
  have unmatched : ∀ row ∈ tables.user_registry.rows, decide (row.user_id = user_id) = false := by
    intro row member
    exact decide_eq_false fun same => unknown (List.mem_map.mpr ⟨row, member, same⟩)
  simp only [Tables.seen, Table.update_of_unselected (Tables.setLastSeen now) unmatched]

theorem rowcount_eq_zero_iff :
    (tables.user_registry.rows.countP fun row => decide (row.user_id = user_id)) = 0 ↔
      ¬ Registered tables user_id := by
  simp [Registered, List.countP_eq_zero]

theorem updateLastSeen_of_storable (storable : Storable user_id) (tables : Tables) :
    updateLastSeen now user_id tables =
      (.ok (tables.user_registry.rows.countP fun row => decide (row.user_id = user_id)),
        tables.seen now user_id) := by
  have checked : checkText user_id = .ok () := storable
  simp [updateLastSeen, checked]

theorem drawRegistry_accepts (unknown : ¬ Registered tables user_id) :
    tables.drawRegistry.user_registry.Accepts (tables.newUser now user_id email name) :=
  (Table.accepts_drawn_iff rfl).mpr unknown

theorem firstSeen_of_canInsert (able : CanInsert tables email name)
    (unknown : ¬ Registered tables user_id) :
    firstSeen now user_id tables (some (email, name)) =
      tables.drawRegistry.register (tables.newUser now user_id email name)
        (drawRegistry_accepts now unknown) := by
  rw [firstSeen, if_pos able, dif_pos]

theorem upsertUser_of_canInsert (storable : Storable user_id)
    (able : CanInsert tables email name) (unknown : ¬ Registered tables user_id) :
    upsertUser now user_id email name tables =
      (.ok (), firstSeen now user_id tables (some (email, name))) := by
  have checked : checkText user_id = .ok () := storable
  have accepts : tables.drawRegistry.user_registry.Accepts
      (tables.newUser now user_id email name) := drawRegistry_accepts now unknown
  rw [firstSeen_of_canInsert now able unknown]
  obtain ⟨emailed, named, room⟩ := able
  simp only [upsertUser, checked, emailed, named, outcome_ok_bind, statement_apply, if_pos room,
    dif_pos accepts]

theorem upsertUser_of_not_canInsert (storable : Storable user_id)
    (unable : ¬ CanInsert tables email name) :
    ∃ exception, upsertUser now user_id email name tables = (.error exception, tables) := by
  have checked : checkText user_id = .ok () := storable
  rw [upsertUser, checked]
  cases emailed : checkOptionalText email with
  | error exception => exact ⟨exception, rfl⟩
  | ok _ =>
      cases named : checkOptionalText name with
      | error exception => exact ⟨exception, rfl⟩
      | ok _ =>
          have full : ¬ tables.user_registry.drawn < bigintMax :=
            fun room => unable ⟨emailed, named, room⟩
          exact ⟨_, if_neg full⟩

/-- The block for a user who is there. -/
theorem trackUserBlock_of_registered (userinfo : Userinfo) (storable : Storable user_id)
    (known : Registered tables user_id) :
    trackUserBlock now userinfo user_id tables = (.ok (), tables.seen now user_id) := by
  have matched := rowcount_eq_zero_iff.not.mpr (not_not.mpr known)
  rw [trackUserBlock, bind_of_ok (updateLastSeen_of_storable now storable tables), if_neg matched]
  rfl

/-- The block for a user who is not there. -/
theorem trackUserBlock_of_new (userinfo : Userinfo) (storable : Storable user_id)
    (unknown : ¬ Registered tables user_id) :
    trackUserBlock now userinfo user_id tables =
      (fetchUserinfo userinfo >>= fun profile => upsertUser now user_id profile.1 profile.2)
        tables := by
  rw [trackUserBlock, bind_of_ok (updateLastSeen_of_storable now storable tables),
    if_pos (rowcount_eq_zero_iff.mpr unknown), seen_of_not_registered now unknown]

/-- **What `track_user` leaves.** -/
theorem trackUser_eq (userinfo : Userinfo) (user_id : PyStr) (tables : Tables) :
    trackUser now userinfo user_id tables =
      if Storable user_id then
        if (tables.user_registry.lookup user_id).isSome then tables.seen now user_id
        else firstSeen now user_id tables userinfo
      else tables := by
  by_cases storable : Storable user_id
  · rw [if_pos storable, trackUser]
    by_cases known : Registered tables user_id
    · rw [if_pos (registered_iff_lookup.mp known),
        connection_of_ok (trackUserBlock_of_registered now userinfo storable known)]
    · rw [if_neg (registered_iff_lookup.not.mp known)]
      have block := trackUserBlock_of_new now userinfo storable known
      cases userinfo with
      | none =>
          rw [connection_of_error block, Tables.rollback_self]
          rfl
      | some profile =>
          by_cases able : CanInsert tables profile.1 profile.2
          · exact congrArg Prod.snd (connection_of_ok
              (block.trans (upsertUser_of_canInsert now storable able known)))
          · obtain ⟨exception, raised⟩ := upsertUser_of_not_canInsert now storable able
            rw [connection_of_error (block.trans raised), Tables.rollback_self]
            exact (if_neg able).symm
  · cases user : checkText user_id with
    | ok _ => exact absurd user storable
    | error exception =>
        have raised : trackUserBlock now userinfo user_id tables = (.error exception, tables) := by
          rw [trackUserBlock, updateLastSeen, user]
          rfl
        rw [if_neg storable, trackUser, connection_of_error raised, Tables.rollback_self]

end TrackUser

/-! ## `touch_session` -/

section TouchSession

variable (now : Timestamptz) (user_id : PyStr) (session_id : ℤ)

theorem accessed_of_not_found {tables : Tables}
    (missing : (tables.user_sessions.rows.find? fun session =>
      decide ((session.id : ℤ) = session_id) && tables.owns user_id session) = none) :
    tables.accessed now session_id user_id = tables := by
  have unmatched : ∀ session ∈ tables.user_sessions.rows,
      (decide ((session.id : ℤ) = session_id) && tables.owns user_id session) = false := by
    intro session member
    exact eq_false_of_ne_true (List.find?_eq_none.mp missing session member)
  simp only [Tables.accessed, Table.update_of_unselected (Tables.setAccessTs now) unmatched]

/-- **What `touch_session` leaves.** -/
theorem touchSession_eq (tables : Tables) :
    touchSession now user_id session_id tables =
      if Storable user_id then tables.accessed now session_id user_id else tables := by
  cases user : checkText user_id with
  | error exception =>
      have raised : updateAccessTs now session_id user_id tables = (.error exception, tables) := by
        simp [updateAccessTs, user]
      have refused : ¬ Storable user_id := by simp [Storable, user]
      rw [touchSession, connection_of_error raised, Tables.rollback_self, if_neg refused]
  | ok _ =>
      have returned : updateAccessTs now session_id user_id tables =
          (.ok (), tables.accessed now session_id user_id) := by
        simp [updateAccessTs, user]
      rw [touchSession, connection_of_ok returned]
      exact (if_pos user).symm

end TouchSession

end CarqnaAgent.Sessions
