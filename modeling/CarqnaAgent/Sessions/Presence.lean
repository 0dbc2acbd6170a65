import Mathlib
import CarqnaAgent.Sessions.Commits

/-!
# When presence runs backwards

A row carries the start of the transaction that wrote it last, and transactions commit in
any order.

* **The timestamps never run backwards exactly when the transactions that write the same
  row commit in the order in which they started** (`presence_iff_inOrder`).
* Two first requests of one user that commit in the other order leave the user last seen
  before first seen (`presence_backwards`).
-/

set_option autoImplicit false

namespace CarqnaAgent.Sessions

open Foundations

/-! ## What is asked of the timestamps -/

/-- A user is first seen no later than last seen. -/
def Ordered (tables : Tables) : Prop :=
  ∀ row ∈ tables.user_registry.rows, row.first_seen_at ≤ row.last_seen_at

/-- No user is last seen, and no session last accessed, earlier than before. -/
structure Forward (before after : Tables) : Prop where
  seen : ∀ row ∈ before.user_registry.rows, ∀ row' ∈ after.user_registry.rows,
    row'.user_id = row.user_id → row.last_seen_at ≤ row'.last_seen_at
  accessed : ∀ row ∈ before.user_sessions.rows, ∀ row' ∈ after.user_sessions.rows,
    row'.id = row.id → row.access_ts ≤ row'.access_ts

/-- The committed states of a run have at most one row for each user, first seen no later than
last seen, and from each to the next no timestamp runs backwards. -/
structure Presence {ι : Type} [DecidableEq ι] (work : ι → Work) (world : World ι)
    (actions : List (Action ι)) : Prop where
  one_row : ∀ reached, reached <+: actions → ∀ user_id,
    ((world.execute work reached).tables.user_registry.rows.filter fun row =>
      decide (row.user_id = user_id)).length ≤ 1
  ordered : ∀ reached, reached <+: actions → Ordered (world.execute work reached).tables
  forward : ∀ reached action, reached ++ [action] <+: actions →
    Forward (world.execute work reached).tables
      (world.execute work (reached ++ [action])).tables

section Forward

variable {before after : Tables}

theorem forward_iff_stamp :
    Forward before after ↔ ∀ target time time', before.stamp target = some time →
      after.stamp target = some time' → time ≤ time' := by
  constructor
  · intro forward target time time' held held'
    cases target with
    | user user_id =>
        obtain ⟨row, member, rfl, rfl⟩ := stamp_user_eq_some_iff.mp held
        obtain ⟨row', member', same, rfl⟩ := stamp_user_eq_some_iff.mp held'
        exact forward.seen row member row' member' same
    | session id =>
        obtain ⟨row, member, rfl, rfl⟩ := stamp_session_eq_some_iff.mp held
        obtain ⟨row', member', same, rfl⟩ := stamp_session_eq_some_iff.mp held'
        exact forward.accessed row member row' member' same
  · intro later
    refine ⟨fun row member row' member' same => ?_, fun row member row' member' same => ?_⟩
    · exact later (.user row.user_id) _ _ (stamp_user_eq_some_iff.mpr ⟨row, member, rfl, rfl⟩)
        (stamp_user_eq_some_iff.mpr ⟨row', member', same, rfl⟩)
    · exact later (.session row.id) _ _ (stamp_session_eq_some_iff.mpr ⟨row, member, rfl, rfl⟩)
        (stamp_session_eq_some_iff.mpr ⟨row', member', same, rfl⟩)

/-- Rows come with the same time of first sight, or are new and as old as themselves. -/
theorem Ordered.forward (ordered : Ordered before) (forward : Forward before after)
    (kept : ∀ row' ∈ after.user_registry.rows, row'.first_seen_at = row'.last_seen_at ∨
      ∃ row ∈ before.user_registry.rows, row'.user_id = row.user_id ∧
        row'.first_seen_at = row.first_seen_at) : Ordered after := by
  intro row' member'
  rcases kept row' member' with new | ⟨row, member, same, first⟩
  · exact new.le
  · exact first ▸ (ordered row member).trans (forward.seen row member row' member' same)

end Forward

/-! ## One step -/

section Steps

variable {ι : Type} {epoch : Timestamptz} {world : World ι}

/-- A commit keeps when users were first seen. -/
theorem first_seen_apply {tables : Tables} {start : Timestamptz} {write : Write}
    (fresh : ∀ row, write.newRow? = some row → row.first_seen_at = row.last_seen_at)
    {row' : UserRegistryRow} (member : row' ∈ (write.apply start tables).user_registry.rows) :
    row'.first_seen_at = row'.last_seen_at ∨ ∃ row ∈ tables.user_registry.rows,
      row'.user_id = row.user_id ∧ row'.first_seen_at = row.first_seen_at := by
  cases write with
  | nothing => exact .inr ⟨row', member, rfl, rfl⟩
  | seen user_id =>
      obtain ⟨row, present, rfl⟩ := List.mem_map.mp member
      refine .inr ⟨row, present, (Tables.setLastSeen start).key_onRow _ row, ?_⟩
      unfold Table.Setting.onRow
      split
      · rfl
      · rfl
  | registered row =>
      rw [Write.apply] at member
      split at member
      · rcases List.mem_append.mp member with old | new
        · exact .inr ⟨row', old, rfl, rfl⟩
        · rw [List.mem_singleton.mp new]
          exact .inl (fresh row rfl)
      · exact .inr ⟨row', member, rfl, rfl⟩
  | accessed user_id id => exact .inr ⟨row', member, rfl, rfl⟩

variable [DecidableEq ι]

/-- **A step that runs forward keeps the rows in order.** -/
theorem Sound.ordered_step (sound : Sound epoch world) {work : ι → Work} {action : Action ι}
    (ordered : Ordered world.tables)
    (forward : Forward world.tables (world.step work action).tables) :
    Ordered (world.step work action).tables := by
  refine ordered.forward forward fun row' member => ?_
  rcases step_cases work world action with ⟨same, -⟩ | ⟨i, start, write, done, after, -⟩
  · rw [same.registry] at member
    exact .inr ⟨row', member, rfl, rfl⟩
  · rw [after] at member
    refine first_seen_apply (fun row new => ?_) member
    obtain ⟨-, first, last⟩ := sound.commit_takes_effect done row new
    exact first.trans last.symm

/-- **A step runs forward exactly when what it commits advances its row.** -/
theorem Sound.forward_step_iff (sound : Sound epoch world) (work : ι → Work)
    (action : Action ι) :
    Forward world.tables (world.step work action).tables ↔
      ∀ entry, world.committing action = some entry →
        Stamps.Advances world.tables.stamp entry := by
  rw [forward_iff_stamp, sound.stamp_step]
  cases world.committing action with
  | none =>
      refine ⟨fun _ _ => nofun, fun _ target time time' held held' => ?_⟩
      rw [Option.elim_none, held] at held'
      exact (Option.some.inj held').le
  | some entry =>
      rw [Option.elim_some, ← Stamps.advances_iff_write_ge]
      exact ⟨fun advances _ same => Option.some.inj same ▸ advances,
        fun advances => advances entry rfl⟩

end Steps

/-! ## Every run -/

section Runs

variable {ι : Type} [DecidableEq ι]

theorem one_row (tables : Tables) (user_id : PyStr) :
    (tables.user_registry.rows.filter fun row => decide (row.user_id = user_id)).length ≤ 1 := by
  rw [← List.countP_eq_length_filter]
  have counted := List.nodup_iff_count_le_one.mp tables.user_registry.keys_nodup user_id
  rw [List.count, List.countP_map] at counted
  refine (List.countP_mono_left fun row _ named => ?_).trans counted
  exact beq_iff_eq.mpr (of_decide_eq_true named)

theorem presence_nil {work : ι → Work} {world : World ι} (ordered : Ordered world.tables) :
    Presence work world [] where
  one_row _ _ := one_row _
  ordered reached start := by
    rw [List.prefix_nil.mp start]
    exact ordered
  forward reached action start := by
    have empty := List.prefix_nil.mp start
    simp at empty

theorem presence_concat_iff {work : ι → Work} {world : World ι} {actions : List (Action ι)}
    {action : Action ι} :
    Presence work world (actions ++ [action]) ↔ Presence work world actions ∧
      Ordered (world.execute work (actions ++ [action])).tables ∧
      Forward (world.execute work actions).tables
        (world.execute work (actions ++ [action])).tables := by
  constructor
  · intro presence
    have longer : ∀ {reached}, reached <+: actions → reached <+: actions ++ [action] :=
      fun start => start.trans (List.prefix_append _ _)
    refine ⟨⟨fun _ _ => one_row _, fun reached start => presence.ordered reached (longer start),
      fun reached next start => presence.forward reached next (longer start)⟩, ?_, ?_⟩
    · exact presence.ordered _ (List.prefix_refl _)
    · exact presence.forward actions action (List.prefix_refl _)
  · rintro ⟨presence, ordered, forward⟩
    refine ⟨fun _ _ => one_row _, fun reached start => ?_, fun reached next start => ?_⟩
    · rcases List.prefix_concat_iff.mp start with rfl | earlier
      · exact ordered
      · exact presence.ordered reached earlier
    · rcases List.prefix_concat_iff.mp start with same | earlier
      · obtain ⟨front, last⟩ := List.append_inj' same rfl
        rw [front, List.singleton_inj.mp last]
        exact forward
      · exact presence.forward reached next earlier

theorem AtRest.stamp_le (rest : AtRest) {target : Target} {time : Timestamptz}
    (held : rest.tables.stamp target = some time) : time ≤ rest.clock := by
  cases target with
  | user user_id =>
      obtain ⟨row, member, -, rfl⟩ := stamp_user_eq_some_iff.mp held
      exact rest.seen_le row member
  | session id =>
      obtain ⟨row, member, -, rfl⟩ := stamp_session_eq_some_iff.mp held
      exact rest.accessed_le row member

/-- **The timestamps never run backwards exactly when the transactions that write the same row
commit in the order in which they started**, whatever else is interleaved. -/
theorem presence_iff_inOrder (work : ι → Work) (rest : AtRest) (actions : List (Action ι)) :
    Presence work (rest.world ι) actions ↔
      Stamps.InOrder ((rest.world ι).commits work actions) := by
  induction actions using List.reverseRecOn with
  | nil => exact ⟨fun _ => Stamps.inOrder_nil, fun _ => presence_nil rest.ordered⟩
  | append_singleton actions action ih =>
      have rested : Sound rest.clock (rest.world ι) := rest.sound
      have sound := rested.execute work actions
      have early : ∀ target time, (rest.world ι).tables.stamp target = some time →
          time ≤ rest.clock := fun _ _ => rest.stamp_le
      have forward_iff := sound.forward_step_iff work action
      rw [rested.stamp_execute] at forward_iff
      rw [presence_concat_iff, World.commits_concat, World.execute_concat,
        Stamps.inOrder_append_toList_iff early (fun _ => sound.committing_late work), ← ih, ← forward_iff]
      refine and_congr_right fun presence => ⟨And.right, fun forward => ⟨?_, forward⟩⟩
      exact sound.ordered_step (presence.ordered actions (List.prefix_refl _)) forward

end Runs

/-! ## Two first requests -/

/-- The tables as the scripts create them, at the start of time. -/
def newDatabase : AtRest := ⟨.empty, 0, nofun, nofun, nofun⟩

/-- Two requests of a new user: the first waits for `/userinfo` until the second has
committed its row. -/
def twoFirstRequests : List (Action Bool) :=
  [.begin true, .execute true, .wait 1, .begin false, .execute false,
    .userinfo false (some (none, none)), .execute false, .commit false,
    .userinfo true (some (none, none)), .execute true, .commit true]

/-- The user has been seen first at `1`, and last at `0`. -/
theorem presence_backwards :
    ¬ ∀ (work : Bool → Work) (rest : AtRest) (actions : List (Action Bool)),
      Presence work (rest.world Bool) actions := by
  intro always
  have presence := always (fun _ => .trackUser (py "u")) newDatabase twoFirstRequests
  have rows : ((newDatabase.world Bool).execute (fun _ => .trackUser (py "u"))
      twoFirstRequests).tables.user_registry.rows = [⟨1, py "u", none, none, 1, 0⟩] := by
    decide
  have ordered := presence.ordered twoFirstRequests (List.prefix_refl _)
  rw [Ordered, rows] at ordered
  simp at ordered

end CarqnaAgent.Sessions
