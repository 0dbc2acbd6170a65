import Mathlib
import CarqnaAgent.Sessions.Commits

/-!
# Transactions one at a time

A transaction nothing comes between leaves the tables that its function leaves
(`execute_alone`), and so do any number of them, one after the other
(`execute_serial`).
-/

set_option autoImplicit false

namespace CarqnaAgent.Sessions

open Foundations
open Foundations.Transaction

/-- The function of a call. -/
def Work.perform (now : Timestamptz) (answer : Userinfo) (tables : Tables) : Work → Tables
  | .trackUser user_id => Sessions.trackUser now answer user_id tables
  | .touchSession user_id session_id => Sessions.touchSession now user_id session_id tables

/-! ## One transaction alone -/

section Alone

variable {ι : Type}

/-- The steps of a transaction, with nothing in between. Of a call of `touch_session`, the third
and the fourth do nothing. -/
def alone (turn : ι × Userinfo) : List (Action ι) :=
  [.begin turn.1, .execute turn.1, .userinfo turn.1 turn.2, .execute turn.1, .commit turn.1]

/-- Nobody holds a row. -/
def World.Free (world : World ι) : Prop := ∀ target, world.holder target = none

/-- The world with other tables. -/
def World.leave (world : World ι) (tables : Tables) : World ι := { world with tables := tables }

variable [DecidableEq ι] {world : World ι} {i : ι} {start : Timestamptz}

/-- Only the last phase counts. -/
theorem World.enter_leave_enter (world : World ι) (i : ι) (tables : Tables)
    (first second : Phase) :
    ((world.enter i first).leave tables).enter i second = (world.leave tables).enter i second := by
  simp [World.enter, World.leave]

section Write

variable (free : world.Free) (write : Write)
include free

theorem World.Free.write_eq : world.write i start write =
    (world.hand write.target (some i)).enter i (.written start write) := by
  refine if_neg ?_
  cases write.target with
  | none => exact nofun
  | some target => simp [free target]

theorem World.Free.write_phase : (world.write i start write).phase i = .written start write := by
  rw [free.write_eq, World.enter_phase_self]

/-- A transaction writes, and commits. The row it has held is nobody's again. -/
theorem World.Free.commit_write : (world.write i start write).commit i start write =
    (world.leave (write.apply start world.tables)).enter i .committed := by
  rw [World.commit, world.write_tables, free.write_eq]
  cases write.target with
  | none => simp [World.hand, World.enter, World.leave]
  | some target =>
      have back : Function.update world.holder target none = world.holder := by
        rw [← free target, Function.update_eq_self]
      simp [World.hand, World.enter, World.leave, back]

end Write

variable (work : ι → Work) (answer : Userinfo)

/-- What follows a write whose transaction has no further statement. -/
theorem World.Free.write_commits (free : world.Free) (write : Write) :
    (world.write i start write).execute work [.userinfo i answer, .execute i, .commit i] =
      (world.leave (write.apply start world.tables)).enter i .committed := by
  rw [← free.commit_write]
  simp only [World.execute, List.foldl_cons, List.foldl_nil, World.step, free.write_phase]

/-- What follows a failure. -/
theorem World.rolledBack_stays :
    (world.enter i .rolledBack).execute work [.userinfo i answer, .execute i, .commit i] =
      world.enter i .rolledBack := by
  simp only [World.execute, List.foldl_cons, List.foldl_nil, World.step, World.enter_phase_self]

/-- What follows an `UPDATE` that has matched no row. -/
theorem World.Free.fetching_commits (free : world.Free) {user_id : PyStr}
    (called : work i = .trackUser user_id)
    (unknown : ¬ (world.tables.user_registry.lookup user_id).isSome = true)
    (start : Timestamptz) :
    ∃ final, (world.enter i (.fetching start)).execute work
        [.userinfo i answer, .execute i, .commit i] =
      (world.leave (firstSeen start user_id world.tables answer)).enter i final := by
  have received : (world.enter i (.fetching start)).step work (.userinfo i answer) =
      (world.enter i (.fetching start)).receive i start user_id answer := by
    simp only [World.step, World.enter_phase_self, called]
  simp only [World.execute, List.foldl_cons, List.foldl_nil, received]
  cases answer with
  | none =>
      refine ⟨.rolledBack, ?_⟩
      simp only [World.receive, World.step, World.enter_phase_self]
      exact world.enter_leave_enter i world.tables _ _
  | some profile =>
      obtain ⟨email, name⟩ := profile
      by_cases able : CanInsert world.tables email name
      · refine ⟨.committed, ?_⟩
        let row := world.tables.newUser start user_id email name
        let inserting := (world.leave world.tables.drawRegistry).enter i (.inserting start row)
        have drawn : (world.enter i (.fetching start)).receive i start user_id
            (some (email, name)) = inserting :=
          (if_pos able).trans (world.enter_leave_enter i world.tables.drawRegistry _ _)
        have inserted : inserting.step work (.execute i) =
            inserting.write i start (.registered row) := by
          simp only [World.step, inserting, World.enter_phase_self]
          exact if_neg unknown
        have free' : inserting.Free := free
        have committed : (inserting.write i start (.registered row)).step work (.commit i) =
            (inserting.write i start (.registered row)).commit i start (.registered row) := by
          simp only [World.step, free'.write_phase]
        rw [drawn, inserted, committed, free'.commit_write, firstSeen, if_pos able]
        exact World.enter_leave_enter (world.leave world.tables.drawRegistry) i _ _ _
      · refine ⟨.rolledBack, ?_⟩
        have refused : (world.enter i (.fetching start)).receive i start user_id
            (some (email, name)) = world.enter i .rolledBack :=
          (if_neg able).trans (world.enter_leave_enter i world.tables _ _)
        rw [refused, firstSeen, if_neg able]
        simp only [World.step, World.enter_phase_self]
        rfl

/-- **A transaction nothing comes between does what its function does.** -/
theorem execute_alone (free : world.Free) (idle : world.phase i = .idle) :
    ∃ final, world.execute work (alone (i, answer)) =
      (world.leave ((work i).perform world.clock answer world.tables)).enter i final := by
  have begun : world.execute work (alone (i, answer)) =
      ((world.enter i (.started world.clock)).first i world.clock (work i)).execute work
        [.userinfo i answer, .execute i, .commit i] := by
    simp only [alone, World.execute, List.foldl_cons, List.foldl_nil, World.step, idle,
      World.enter_phase_self]
  have free' : (world.enter i (.started world.clock)).Free := free
  rw [begun]
  cases called : work i with
  | trackUser user_id =>
      rw [World.first, Work.perform, trackUser_eq]
      by_cases storable : Storable user_id
      · rw [if_pos storable, if_pos storable]
        by_cases known : (world.tables.user_registry.lookup user_id).isSome = true
        · refine ⟨.committed, ?_⟩
          rw [if_pos known]
          refine (congrArg (World.execute work · _) (if_pos known)).trans ?_
          rw [free'.write_commits]
          exact world.enter_leave_enter i _ _ _
        · rw [if_neg known]
          obtain ⟨final, ran⟩ := free.fetching_commits work answer called known world.clock
          refine ⟨final, ((congrArg (World.execute work · _) (if_neg known)).trans ?_).trans ran⟩
          exact congrArg (World.execute work · _)
            (world.enter_leave_enter i world.tables (.started world.clock) _)
      · refine ⟨.rolledBack, ?_⟩
        rw [if_neg storable, if_neg storable, World.rolledBack_stays]
        exact world.enter_leave_enter i world.tables _ _
  | touchSession user_id session_id =>
      rw [World.first, Work.perform, touchSession_eq]
      by_cases storable : Storable user_id
      · rw [if_pos storable, if_pos storable]
        refine ⟨.committed, ?_⟩
        split
        · rename_i session found
          rw [free'.write_commits]
          have named := List.find?_some found
          simp only [Bool.and_eq_true, decide_eq_true_eq] at named
          rw [← named.1]
          exact world.enter_leave_enter i _ _ _
        · rename_i missing
          have unchanged : world.tables.accessed world.clock session_id user_id = world.tables :=
            accessed_of_not_found world.clock user_id session_id missing
          rw [free'.write_commits, unchanged]
          exact world.enter_leave_enter i world.tables _ _
      · refine ⟨.rolledBack, ?_⟩
        rw [if_neg storable, if_neg storable, World.rolledBack_stays]
        exact world.enter_leave_enter i world.tables _ _

/-! ## One after the other -/

/-- A turn: some time passes, then the transaction runs, with that answer of `/userinfo`. -/
def serial (turns : List (ℕ × ι × Userinfo)) : List (Action ι) :=
  turns.flatMap fun turn => .wait turn.1 :: alone turn.2

/-- The functions, called in turn. -/
def performAll (work : ι → Work) :
    List (ℕ × ι × Userinfo) → Timestamptz → Tables → Tables
  | [], _, tables => tables
  | (duration, i, answer) :: rest, clock, tables =>
      performAll work rest (clock + duration)
        ((work i).perform (clock + duration) answer tables)

/-- **Transactions that run one after the other do what their functions do in turn.** -/
theorem execute_serial (turns : List (ℕ × ι × Userinfo)) (free : world.Free)
    (idle : ∀ turn ∈ turns, world.phase turn.2.1 = .idle)
    (distinct : (turns.map fun turn => turn.2.1).Nodup) :
    (world.execute work (serial turns)).tables =
      performAll work turns world.clock world.tables := by
  induction turns generalizing world with
  | nil => rfl
  | cons turn rest ih =>
      obtain ⟨duration, i, answer⟩ := turn
      let later : World ι := { world with clock := world.clock + duration }
      have ready : world.phase i = .idle := idle _ List.mem_cons_self
      have free' : later.Free := free
      obtain ⟨final, ran⟩ := execute_alone work answer free' ready
      obtain ⟨fresh, distinct⟩ := List.nodup_cons.mp distinct
      have started : world.execute work (serial ((duration, i, answer) :: rest)) =
          (later.execute work (alone (i, answer))).execute work (serial rest) := by
        simp only [serial, World.execute, List.flatMap_cons, List.cons_append, List.foldl_cons,
          List.foldl_append]
        rfl
      have freed : ((later.leave ((work i).perform later.clock answer later.tables)).enter i
          final).Free := free
      rw [started, ran, ih freed ?_ distinct]
      · rfl
      · intro turn member
        have other : turn.2.1 ≠ i := fun same => fresh (List.mem_map.mpr ⟨turn, member, same⟩)
        rw [World.enter_phase_of_ne _ other]
        exact idle turn (List.mem_cons_of_mem _ member)

end Alone

end CarqnaAgent.Sessions
