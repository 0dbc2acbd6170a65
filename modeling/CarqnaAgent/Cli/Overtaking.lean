import Mathlib
import CarqnaAgent.Cli.FindOrCreate

/-!
# Overtaken calls

A call of `_get_or_create_session` that finds its session absent, and then inserts it, is
overtaken when another call of the name commits in between. The `INSERT` is then refused.

**A call fails on `UNIQUE` exactly when it is overtaken. Calls of one name that return
agree, one row has their name, and no call waits for ever**
(`get_or_create_session_concurrent`).
-/

set_option autoImplicit false

namespace CarqnaAgent.Cli

open Foundations

variable {ι : Type}

/-! ## What a turn changes -/

/-- The turns a call still has to be served. -/
def Phase.remaining : Phase → ℕ
  | .called => 4
  | .selecting => 3
  | .updating _ => 2
  | .inserting => 2
  | .committing _ _ => 1
  | .failing => 1
  | .returned _ => 0
  | .raised _ => 0

theorem Phase.remaining_eq_zero_iff {phase : Phase} : phase.remaining = 0 ↔ phase.Ended := by
  cases phase <;> simp [remaining, Ended]

theorem Phase.remaining_le (phase : Phase) : phase.remaining ≤ 4 := by
  cases phase <;> simp [remaining]

theorem Phase.Ended.not_writing {phase : Phase} (ended : phase.Ended) : ¬ phase.Writing := by
  cases phase <;> simp_all [Ended, Writing]

section Served

variable [DecidableEq ι] {world next : World ι} {i : ι} {name : PyStr} {phase : Phase}

/-- A turn moves its call on, and no other. -/
theorem Served.goes (served : Served world i name phase next) :
    ∃ later, next.phase = Function.update world.phase i later ∧
      later.remaining < phase.remaining := by
  cases served with
  | creates missing free => exact ⟨_, rfl, by simp [Phase.remaining]⟩
  | isThere there => exact ⟨_, rfl, by simp [Phase.remaining]⟩
  | unencoded noText => exact ⟨_, rfl, by simp [Phase.remaining]⟩
  | finds isText present => exact ⟨_, rfl, by simp [Phase.remaining]⟩
  | misses isText there absent => exact ⟨_, rfl, by simp [Phase.remaining]⟩
  | updates free kept => exact ⟨_, rfl, by simp [Phase.remaining]⟩
  | full there free used => exact ⟨_, rfl, by simp [Phase.remaining]⟩
  | inserts there free room absent added => exact ⟨_, rfl, by simp [Phase.remaining]⟩
  | refused there free room present => exact ⟨_, rfl, by simp [Phase.remaining]⟩
  | commits => exact ⟨_, rfl, by simp [Phase.remaining]⟩
  | closes => exact ⟨_, rfl, by simp [Phase.remaining]⟩

/-- **Only a commit changes what the file holds.** -/
theorem Served.entries_cases (served : Served world i name phase next) :
    (∃ version id, phase = .committing version id ∧ next.database = some version) ∨
      (∀ version id, phase ≠ .committing version id) ∧
        entries next.database = entries world.database := by
  cases served with
  | creates missing free =>
      refine .inr ⟨by simp, ?_⟩
      rw [missing, entries_none]
      exact entries_empty
  | isThere there => exact .inr ⟨by simp, rfl⟩
  | unencoded noText => exact .inr ⟨by simp, rfl⟩
  | finds isText present => exact .inr ⟨by simp, rfl⟩
  | misses isText there absent => exact .inr ⟨by simp, rfl⟩
  | updates free kept => exact .inr ⟨by simp, rfl⟩
  | full there free used => exact .inr ⟨by simp, rfl⟩
  | inserts there free room absent added => exact .inr ⟨by simp, rfl⟩
  | refused there free room present => exact .inr ⟨by simp, rfl⟩
  | commits => exact .inl ⟨_, _, rfl, rfl⟩
  | closes => exact .inr ⟨by simp, rfl⟩

end Served

/-! ## Events of a run -/

/-- Another call of the name commits while the call is between its `SELECT` and its `INSERT`. -/
def Overtakes (names : ι → PyStr) (i : ι) (world : World ι) (turn : ι × Timestamp) : Prop :=
  world.phase i = .inserting ∧ turn.1 ≠ i ∧ names turn.1 = names i ∧
    ∃ version id, world.phase turn.1 = .committing version id

/-- The `INSERT` of the call has the write lock to itself and no rowid left. -/
def Exhausts (i : ι) (world : World ι) (turn : ι × Timestamp) : Prop :=
  turn.1 = i ∧ world.phase i = .inserting ∧ world.writer = none ∧
    ∃ table, world.database = some table ∧ maxRowid ≤ table.drawn

/-- What the phase of a call says of the run so far: whether it has been overtaken, and whether
it has been left without a rowid. -/
def Phase.Recorded (database : Option (Table sessions)) (name : PyStr)
    (overtaken exhausted : Prop) : Phase → Prop
  | .inserting => (overtaken ↔ ∃ id, (id, name) ∈ entries database) ∧ ¬ exhausted
  | .failing => overtaken ∧ ¬ exhausted
  | .raised .integrityError => overtaken ∧ ¬ exhausted
  | .raised .databaseFull => exhausted
  | _ => ¬ overtaken ∧ ¬ exhausted

/-- The record of a call that is not about to insert does not depend on the file. -/
theorem Phase.Recorded.of_ne {database later : Option (Table sessions)} {name : PyStr}
    {overtaken exhausted : Prop} {phase : Phase} (other : phase ≠ .inserting)
    (recorded : phase.Recorded database name overtaken exhausted) :
    phase.Recorded later name overtaken exhausted := by
  cases phase with
  | inserting => exact absurd rfl other
  | raised failure => cases failure <;> exact recorded
  | called => exact recorded
  | selecting => exact recorded
  | updating id => exact recorded
  | committing version id => exact recorded
  | failing => exact recorded
  | returned id => exact recorded

section Turn

variable {names : ι → PyStr} {world : World ι} {i : ι}

theorem not_overtakes_self (now : Timestamp) : ¬ Overtakes names i world (i, now) :=
  fun overtakes => overtakes.2.1 rfl

theorem not_exhausts_of_ne {turn : ι × Timestamp} (other : turn.1 ≠ i) : ¬ Exhausts i world turn :=
  fun exhausts => other exhausts.1

/-- An idle turn is no event. -/
theorem not_event_of_idle (names : ι → PyStr) (i : ι) {turn : ι × Timestamp}
    (idle : Idle world turn.1) :
    ¬ Overtakes names i world turn ∧ ¬ Exhausts i world turn := by
  constructor
  · rintro ⟨-, -, -, version, id, commits⟩
    rw [Idle, commits] at idle
    rcases idle with ended | ⟨unwritten, -⟩
    · exact ended
    · exact unwritten trivial
  · rintro ⟨rfl, inserting, free, -⟩
    rw [Idle, inserting, free] at idle
    rcases idle with ended | ⟨-, j, locked⟩
    · exact ended
    · exact Option.some_ne_none j locked.symm

variable [DecidableEq ι]

/-- A turn of the call itself. -/
theorem recorded_self {phase : Phase} {next : World ι} {overtaken exhausted : Prop}
    (now : Timestamp) (before : world.phase i = phase)
    (served : Served world i (names i) phase next)
    (recorded : phase.Recorded world.database (names i) overtaken exhausted) :
    (next.phase i).Recorded next.database (names i) overtaken
      (exhausted ∨ Exhausts i world (i, now)) := by
  have elsewhere (other : phase ≠ .inserting) : ¬ Exhausts i world (i, now) :=
    fun exhausts => other (before.symm.trans exhausts.2.1)
  have roomy {table : Table sessions} (there : world.database = some table)
      (room : table.drawn < maxRowid) : ¬ Exhausts i world (i, now) := by
    rintro ⟨-, -, -, other, there', used⟩
    rw [there, Option.some.injEq] at there'
    subst there'
    omega
  cases served with
  | creates missing free =>
      rw [or_iff_left (elsewhere (by simp))]
      simp only [World.enter, Function.update_self]
      exact recorded
  | isThere there =>
      rw [or_iff_left (elsewhere (by simp))]
      simp only [World.enter, Function.update_self]
      exact recorded
  | unencoded noText =>
      rw [or_iff_left (elsewhere (by simp))]
      simp only [World.enter, Function.update_self]
      exact recorded
  | finds isText present =>
      rw [or_iff_left (elsewhere (by simp))]
      simp only [World.enter, Function.update_self]
      exact recorded
  | misses isText there absent =>
      rw [or_iff_left (elsewhere (by simp))]
      simp only [World.enter, Function.update_self]
      exact ⟨iff_of_false recorded.1 absent, recorded.2⟩
  | updates free kept =>
      rw [or_iff_left (elsewhere (by simp))]
      simp only [World.lock, Function.update_self]
      exact recorded
  | full there free used =>
      simp only [World.enter, Function.update_self]
      exact .inr ⟨rfl, before, free, _, there, used⟩
  | inserts there free room absent added =>
      rw [or_iff_left (roomy there room)]
      simp only [World.lock, Function.update_self]
      exact ⟨fun overtaken => absent (recorded.1.mp overtaken), recorded.2⟩
  | refused there free room present =>
      rw [or_iff_left (roomy there room)]
      simp only [World.lock, Function.update_self]
      exact ⟨recorded.1.mpr present, recorded.2⟩
  | commits =>
      rw [or_iff_left (elsewhere (by simp))]
      simp only [World.enter, Function.update_self]
      exact recorded
  | closes =>
      rw [or_iff_left (elsewhere (by simp))]
      simp only [World.enter, Function.update_self]
      exact recorded

/-- A turn of another call. -/
theorem recorded_other {turn : ι × Timestamp} {next : World ι} {overtaken exhausted : Prop}
    (sound : Sound names world) (other : turn.1 ≠ i)
    (served : Served world turn.1 (names turn.1) (world.phase turn.1) next)
    (recorded : (world.phase i).Recorded world.database (names i) overtaken exhausted) :
    (next.phase i).Recorded next.database (names i) (overtaken ∨ Overtakes names i world turn)
      exhausted := by
  obtain ⟨later, phases, -⟩ := served.goes
  rw [phases, Function.update_of_ne other.symm]
  by_cases waits : world.phase i = .inserting
  · rw [waits] at recorded ⊢
    refine ⟨?_, recorded.2⟩
    rcases served.entries_cases with ⟨version, id, commits, written⟩ | ⟨elsewhere, kept⟩
    · have backed := sound.backed turn.1
      rw [commits] at backed
      rw [written, backed.2]
      constructor
      · rintro (before | ⟨-, -, named, -⟩)
        · obtain ⟨id', present⟩ := recorded.1.mp before
          exact ⟨id', .inr present⟩
        · exact ⟨id, .inl (by rw [named])⟩
      · rintro ⟨id', same | present⟩
        · exact .inr ⟨waits, other, (Prod.mk.inj same).2.symm, version, id, commits⟩
        · exact .inl (recorded.1.mpr ⟨id', present⟩)
    · rw [kept, or_iff_left ?_]
      · exact recorded.1
      · rintro ⟨-, -, -, version, id, commits⟩
        exact elsewhere version id commits
  · rw [or_iff_left fun overtakes => waits overtakes.1]
    exact recorded.of_ne waits

/-- **A turn keeps the record of every call.** -/
theorem recorded_step {turn : ι × Timestamp} {overtaken exhausted : Prop}
    (sound : Sound names world)
    (recorded : (world.phase i).Recorded world.database (names i) overtaken exhausted) :
    ((world.step names turn).phase i).Recorded (world.step names turn).database (names i)
      (overtaken ∨ Overtakes names i world turn) (exhausted ∨ Exhausts i world turn) := by
  rcases step_cases (sound.backed turn.1) with ⟨same, idle⟩ | served
  · obtain ⟨noOvertaking, noExhaustion⟩ := not_event_of_idle names i idle
    rw [same, or_iff_left noOvertaking, or_iff_left noExhaustion]
    exact recorded
  · by_cases mine : turn.1 = i
    · obtain ⟨_, now⟩ := turn
      subst mine
      rw [or_iff_left (not_overtakes_self now)]
      exact recorded_self now rfl served recorded
    · rw [or_iff_left (not_exhausts_of_ne mine)]
      exact recorded_other sound mine served recorded

/-- The call is overtaken in the run. -/
def Overtaken (names : ι → PyStr) (file : Option (Table sessions)) (turns : List (ι × Timestamp))
    (i : ι) : Prop :=
  Turns.Happens (World.step names) (Overtakes names i) (opened ι file) turns

/-- The call is left without a rowid in the run. -/
def Exhausted (names : ι → PyStr) (file : Option (Table sessions)) (turns : List (ι × Timestamp))
    (i : ι) : Prop :=
  Turns.Happens (World.step names) (Exhausts i) (opened ι file) turns

/-- **The record of a run.** -/
theorem recorded_execute (names : ι → PyStr) (file : Option (Table sessions))
    (turns : List (ι × Timestamp)) (i : ι) :
    ((Turns.execute (World.step names) (opened ι file) turns).phase i).Recorded
      (Turns.execute (World.step names) (opened ι file) turns).database (names i)
      (Overtaken names file turns i) (Exhausted names file turns i) := by
  induction turns using List.reverseRecOn with
  | nil => exact ⟨Turns.not_happens_nil, Turns.not_happens_nil⟩
  | append_singleton turns turn ih =>
      rw [Overtaken, Exhausted, Turns.happens_concat, Turns.happens_concat, Turns.execute_concat]
      exact recorded_step (sound_execute names file turns) ih

end Turn

/-! ## No call waits for ever -/

section Progress

variable [Fintype ι]

/-- The turns all calls still have to be served. -/
def World.remaining (world : World ι) : ℕ := ∑ i, (world.phase i).remaining

variable {names : ι → PyStr} {world next : World ι}

theorem remaining_eq_zero_iff : world.remaining = 0 ↔ ∀ i, (world.phase i).Ended := by
  rw [World.remaining, Finset.sum_eq_zero_iff]
  constructor
  · exact fun none i => Phase.remaining_eq_zero_iff.mp (none i (Finset.mem_univ i))
  · exact fun ended i _ => Phase.remaining_eq_zero_iff.mpr (ended i)

theorem remaining_le_card : world.remaining ≤ 4 * Fintype.card ι := by
  have each : world.remaining ≤ ∑ _i : ι, 4 :=
    Finset.sum_le_sum fun i _ => Phase.remaining_le (world.phase i)
  rw [Finset.sum_const, Finset.card_univ, smul_eq_mul] at each
  omega

/-- While a call is not over, one can be served: the one that has the write lock, or any. -/
theorem exists_not_idle (sound : Sound names world) (unfinished : world.remaining ≠ 0) :
    ∃ i, ¬ Idle world i := by
  cases locked : world.writer with
  | some j =>
      have writing := (sound.locked j).mp locked
      refine ⟨j, ?_⟩
      rintro (ended | ⟨unwritten, -⟩)
      · exact ended.not_writing writing
      · exact unwritten writing
  | none =>
      rw [ne_eq, remaining_eq_zero_iff, not_forall] at unfinished
      obtain ⟨i, busy⟩ := unfinished
      refine ⟨i, ?_⟩
      rintro (ended | ⟨-, j, taken⟩)
      · exact busy ended
      · exact absurd (locked.symm.trans taken) (Option.some_ne_none j).symm

variable [DecidableEq ι]

theorem Served.remaining_lt {i : ι} {name : PyStr}
    (served : Served world i name (world.phase i) next) : next.remaining < world.remaining := by
  obtain ⟨later, phases, lower⟩ := served.goes
  unfold World.remaining
  rw [phases]
  refine Finset.sum_lt_sum (fun j _ => ?_) ⟨i, Finset.mem_univ i, ?_⟩
  · by_cases here : j = i
    · rw [here, Function.update_self]
      exact lower.le
    · rw [Function.update_of_ne here]
  · rw [Function.update_self]
    exact lower

theorem progress (names : ι → PyStr) :
    Turns.Progress (World.step names) Prod.fst (Sound names) World.remaining where
  keeps _ turn sound := sound.step turn
  lowers world turn sound := by
    rcases step_cases (sound.backed turn.1) with ⟨same, -⟩ | served
    · exact .inl same
    · exact .inr served.remaining_lt
  serves world sound unfinished := by
    obtain ⟨i, busy⟩ := exists_not_idle sound unfinished
    refine ⟨i, ?_⟩
    rintro turn rfl
    rcases step_cases (sound.backed turn.1) with ⟨-, idle⟩ | served
    · exact absurd idle busy
    · exact served.remaining_lt

end Progress

/-! ## Calls side by side -/

theorem mem_entries_of_returned {names : ι → PyStr} {world : World ι} {i : ι} {id : ℕ}
    (sound : Sound names world) (returned : world.phase i = .returned id) :
    (id, names i) ∈ entries world.database := by
  have backed := sound.backed i
  rw [returned] at backed
  exact backed.2

/-- How a call ends, by the record of the run. -/
theorem ended_cases {names : ι → PyStr} {world : World ι} {i : ι} {overtaken exhausted : Prop}
    (sound : Sound names world) (ended : (world.phase i).Ended)
    (recorded : (world.phase i).Recorded world.database (names i) overtaken exhausted) :
    ((∃ id, world.phase i = .returned id) ↔
        (PyStr.encode (names i)).isSome ∧ ¬ exhausted ∧ ¬ overtaken) ∧
      (world.phase i = .raised .integrityError ↔ overtaken ∧ ¬ exhausted) := by
  have backed := sound.backed i
  cases before : world.phase i with
  | returned id =>
      rw [before] at backed recorded
      simp [backed.1, recorded.1, recorded.2]
  | raised failure =>
      rw [before] at backed recorded
      cases failure with
      | unicodeEncodeError =>
          have noText : PyStr.encode (names i) = none := backed
          simp [noText, recorded.1]
      | noSuchTable => exact backed.elim
      | databaseFull =>
          have used : exhausted := recorded
          simp [used]
      | integrityError => simp [recorded.1, recorded.2]
  | _ =>
      rw [before] at ended
      exact ended.elim

/-- **Find or create, side by side.** A call that is over has returned, unless its name is no
text, the rowids were used up, or it was overtaken; when it was overtaken it has failed on
`UNIQUE`. Calls of one name return one identity, and the name has one row. After `4 n` rounds
of turns all `n` calls are over. -/
theorem get_or_create_session_concurrent [DecidableEq ι] [Fintype ι] (names : ι → PyStr)
    (file : Option (Table sessions)) (turns : List (ι × Timestamp)) :
    let world := Turns.execute (World.step names) (opened ι file) turns
    (∀ i, (world.phase i).Ended →
      ((∃ id, world.phase i = .returned id) ↔
          (PyStr.encode (names i)).isSome ∧ ¬ Exhausted names file turns i ∧
            ¬ Overtaken names file turns i) ∧
        (world.phase i = .raised .integrityError ↔
          Overtaken names file turns i ∧ ¬ Exhausted names file turns i)) ∧
      (∀ i j id id', world.phase i = .returned id → world.phase j = .returned id' →
        names i = names j → id = id') ∧
      (∀ i, (∃ id, world.phase i = .returned id) ∨ world.phase i = .raised .integrityError →
        ∃! row, row ∈ world.rows ∧ row.session_name = names i) ∧
      ∀ rounds : List (List (ι × Timestamp)),
        (∀ round ∈ rounds, ∀ i, ∃ turn ∈ round, turn.1 = i) →
        4 * Fintype.card ι ≤ rounds.length →
        ∀ i, ((Turns.execute (World.step names) world rounds.flatten).phase i).Ended := by
  intro world
  have sound : Sound names world := sound_execute names file turns
  refine ⟨?_, ?_, ?_, ?_⟩
  · intro i ended
    exact ended_cases sound ended (recorded_execute names file turns i)
  · intro i j id id' first second same
    have later := mem_entries_of_returned sound second
    rw [← same] at later
    exact id_eq_of_mem_entries (mem_entries_of_returned sound first) later
  · rintro i (⟨id, returned⟩ | refused)
    · exact existsUnique_row (mem_entries_of_returned sound returned)
    · have backed := sound.backed i
      rw [refused] at backed
      obtain ⟨-, id, present⟩ := backed
      exact existsUnique_row present
  · intro rounds fair enough
    refine remaining_eq_zero_iff.mp ?_
    exact (progress names).rank_fair_rounds sound fair (remaining_le_card.trans enough)

/-- Two processes of one session, new to the file: both find it absent, and the second to insert
it fails. -/
theorem get_or_create_session_race :
    let names : Bool → PyStr := fun _ => py "a"
    let turns : List (Bool × Timestamp) :=
      [(true, 0), (false, 0), (true, 0), (false, 0), (true, 0), (true, 0), (false, 0), (false, 0)]
    let world := Turns.execute (World.step names) (opened Bool none) turns
    world.phase true = .returned 1 ∧ world.phase false = .raised .integrityError := by
  exact ⟨rfl, rfl⟩

end CarqnaAgent.Cli
