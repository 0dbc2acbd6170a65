import Mathlib
import CarqnaAgent.Cli.LocalSessions

/-!
# Find or create, side by side

Any number of calls of `_get_or_create_session` on one file, in any order of their turns.

A call that finds its session absent and then inserts it is overtaken by another call of
the name that commits in between: the `INSERT` is refused and the call fails.
**A call fails so exactly when it is overtaken; what returns agrees, and one row there is**
(`get_or_create_session_concurrent`). No call waits for ever.
-/

set_option autoImplicit false

namespace CarqnaAgent.Cli

open Foundations

variable {ι : Type}

/-! ## What the file holds -/

/-- The identities of the file with their names. -/
def entries (file : Option (Table sessions)) : Set (ℕ × PyStr) :=
  {entry | ∃ row ∈ file.elim [] Table.rows, (row.session_id, row.session_name) = entry}

theorem mem_entries_some {table : Table sessions} {entry : ℕ × PyStr} :
    entry ∈ entries (some table) ↔
      ∃ row ∈ table.rows, (row.session_id, row.session_name) = entry := Iff.rfl

@[simp] theorem entries_none : entries none = ∅ := by
  ext entry
  simp [entries]

@[simp] theorem entries_empty : entries (some (.empty sessions)) = ∅ := by
  ext entry
  simp [mem_entries_some, Table.empty]

theorem entries_update (table : Table sessions) (selected : SessionsRow → Bool) (now : Timestamp) :
    entries (some (table.update selected (setAccessTs now))) = entries (some table) := by
  ext entry
  have kept (row : SessionsRow) :
      (((setAccessTs now).onRow selected row).session_id,
        ((setAccessTs now).onRow selected row).session_name) =
        (row.session_id, row.session_name) :=
    Prod.ext ((setAccessTs now).id_onRow selected row) ((setAccessTs now).key_onRow selected row)
  rw [mem_entries_some, mem_entries_some, Table.update_rows]
  constructor
  · rintro ⟨_, member, rfl⟩
    obtain ⟨row, old, rfl⟩ := List.mem_map.mp member
    exact ⟨row, old, (kept row).symm⟩
  · rintro ⟨row, old, rfl⟩
    exact ⟨_, List.mem_map_of_mem old, kept row⟩

theorem entries_insert (table : Table sessions) (row : SessionsRow)
    (accepts : table.draw.Accepts row) :
    entries (some (table.draw.insert row accepts)) =
      insert (row.session_id, row.session_name) (entries (some table)) := by
  ext entry
  simp only [mem_entries_some, Table.insert_rows, Table.draw_rows, List.mem_append,
    List.mem_singleton, Set.mem_insert_iff]
  constructor
  · rintro ⟨other, old | rfl, rfl⟩
    · exact .inr ⟨other, old, rfl⟩
    · exact .inl rfl
  · rintro (rfl | ⟨other, old, rfl⟩)
    · exact ⟨row, .inr rfl, rfl⟩
    · exact ⟨other, .inl old, rfl⟩

theorem ne_none_of_mem_entries {file : Option (Table sessions)} {entry : ℕ × PyStr}
    (present : entry ∈ entries file) : file ≠ none := by
  rintro rfl
  rw [entries_none] at present
  exact present

/-- A name of the file has one row. -/
theorem existsUnique_row {world : World ι} {id : ℕ} {name : PyStr}
    (present : (id, name) ∈ entries world.database) :
    ∃! row, row ∈ world.rows ∧ row.session_name = name := by
  obtain ⟨row, member, same⟩ := present
  obtain ⟨rfl, rfl⟩ := Prod.mk.inj same
  refine ⟨row, ⟨member, rfl⟩, ?_⟩
  rintro other ⟨member', named⟩
  rw [World.rows] at member'
  cases there : world.database with
  | none =>
      rw [there] at member
      cases member
  | some table =>
      rw [there] at member member'
      exact Table.eq_of_key_eq member' member named

/-- A name has one identity. -/
theorem id_eq_of_mem_entries {file : Option (Table sessions)} {id id' : ℕ} {name : PyStr}
    (first : (id, name) ∈ entries file) (second : (id', name) ∈ entries file) : id = id' := by
  cases file with
  | none =>
      rw [entries_none] at first
      exact first.elim
  | some table =>
      obtain ⟨row, member, same⟩ := first
      obtain ⟨other, member', same'⟩ := second
      obtain ⟨rfl, rfl⟩ := Prod.mk.inj same
      obtain ⟨rfl, named⟩ := Prod.mk.inj same'
      rw [Table.eq_of_key_eq member member' named.symm]

theorem mem_entries_of_lookup {table : Table sessions} {name : PyStr} {row : SessionsRow}
    (found : table.lookup name = some row) : (row.session_id, name) ∈ entries (some table) := by
  obtain ⟨member, named⟩ := Table.lookup_eq_some_iff.mp found
  exact mem_entries_some.mpr ⟨row, member, Prod.ext rfl named⟩

theorem exists_mem_entries_iff {table : Table sessions} {name : PyStr} :
    (∃ id, (id, name) ∈ entries (some table)) ↔ name ∈ table.rows.map SessionsRow.session_name := by
  simp [mem_entries_some]

/-! ## The invariant -/

/-- What a call in that phase knows of its name and of the file. -/
def Phase.Backed (database : Option (Table sessions)) (name : PyStr) : Phase → Prop
  | .called => True
  | .selecting => database ≠ none
  | .updating id => (PyStr.encode name).isSome ∧ (id, name) ∈ entries database
  | .inserting => (PyStr.encode name).isSome ∧ database ≠ none
  | .committing version id =>
      (PyStr.encode name).isSome ∧ entries (some version) = insert (id, name) (entries database)
  | .failing => (PyStr.encode name).isSome ∧ ∃ id, (id, name) ∈ entries database
  | .returned id => (PyStr.encode name).isSome ∧ (id, name) ∈ entries database
  | .raised .unicodeEncodeError => PyStr.encode name = none
  | .raised .noSuchTable => False
  | .raised .databaseFull => (PyStr.encode name).isSome
  | .raised .integrityError => (PyStr.encode name).isSome ∧ ∃ id, (id, name) ∈ entries database

/-- A file with more entries backs a call that is not writing. -/
theorem Phase.Backed.mono {database later : Option (Table sessions)} {name : PyStr} {phase : Phase}
    (backed : phase.Backed database name) (grows : entries database ⊆ entries later)
    (there : later ≠ none) (unwritten : ¬ phase.Writing) : phase.Backed later name := by
  cases phase with
  | called => trivial
  | selecting => exact there
  | updating id => exact ⟨backed.1, grows backed.2⟩
  | inserting => exact ⟨backed.1, there⟩
  | committing version id => exact absurd trivial unwritten
  | failing => exact absurd trivial unwritten
  | returned id => exact ⟨backed.1, grows backed.2⟩
  | raised failure =>
      cases failure with
      | unicodeEncodeError => exact backed
      | noSuchTable => exact backed
      | databaseFull => exact backed
      | integrityError =>
          obtain ⟨encoded, id, present⟩ := backed
          exact ⟨encoded, id, grows present⟩

/-- The write lock is with the call that writes, and every call is backed. -/
structure Sound (names : ι → PyStr) (world : World ι) : Prop where
  locked : ∀ i, world.writer = some i ↔ (world.phase i).Writing
  backed : ∀ i, (world.phase i).Backed world.database (names i)

theorem sound_opened (names : ι → PyStr) (file : Option (Table sessions)) :
    Sound names (opened ι file) where
  locked _ := by simp [opened, Phase.Writing]
  backed _ := trivial

/-! ## A turn -/

/-- What the turn of a call in a phase makes of the world, unless the call waits or is over. -/
inductive Served [DecidableEq ι] (world : World ι) (i : ι) (name : PyStr) :
    Phase → World ι → Prop where
  | creates (missing : world.database = none) (free : world.writer = none) :
      Served world i name .called
        { world.enter i .selecting with database := some (.empty sessions) }
  | isThere (there : world.database ≠ none) :
      Served world i name .called (world.enter i .selecting)
  | unencoded (noText : PyStr.encode name = none) :
      Served world i name .selecting (world.enter i (.raised .unicodeEncodeError))
  | finds {id : ℕ} (isText : (PyStr.encode name).isSome)
      (present : (id, name) ∈ entries world.database) :
      Served world i name .selecting (world.enter i (.updating id))
  | misses (isText : (PyStr.encode name).isSome) (there : world.database ≠ none)
      (absent : ¬ ∃ id, (id, name) ∈ entries world.database) :
      Served world i name .selecting (world.enter i .inserting)
  | updates {version : Table sessions} {id : ℕ} (free : world.writer = none)
      (kept : entries (some version) = entries world.database) :
      Served world i name (.updating id) (world.lock i (.committing version id))
  | full {table : Table sessions} (there : world.database = some table)
      (free : world.writer = none) (used : maxRowid ≤ table.drawn) :
      Served world i name .inserting (world.enter i (.raised .databaseFull))
  | inserts {table version : Table sessions} {id : ℕ} (there : world.database = some table)
      (free : world.writer = none) (room : table.drawn < maxRowid)
      (absent : ¬ ∃ id, (id, name) ∈ entries world.database)
      (added : entries (some version) = insert (id, name) (entries world.database)) :
      Served world i name .inserting (world.lock i (.committing version id))
  | refused {table : Table sessions} (there : world.database = some table)
      (free : world.writer = none) (room : table.drawn < maxRowid)
      (present : ∃ id, (id, name) ∈ entries world.database) :
      Served world i name .inserting (world.lock i .failing)
  | commits {version : Table sessions} {id : ℕ} :
      Served world i name (.committing version id)
        { world.enter i (.returned id) with database := some version, writer := none }
  | closes :
      Served world i name .failing
        { world.enter i (.raised .integrityError) with writer := none }

/-- The turn is not possible: the call is over, or needs the write lock another has. -/
def Idle (world : World ι) (i : ι) : Prop :=
  (world.phase i).Ended ∨ ¬ (world.phase i).Writing ∧ ∃ j, world.writer = some j

section Turn

variable [DecidableEq ι] {world : World ι} {i : ι} {name : PyStr}

theorem select_served (there : world.database ≠ none) :
    Served world i name .selecting (world.select i name) := by
  unfold World.select
  split
  · rename_i missing
    exact absurd missing there
  · rename_i noText
    exact .unencoded noText
  · rename_i table body here encoded
    have isText : (PyStr.encode name).isSome := Option.isSome_of_eq_some encoded
    split
    · rename_i row found
      refine .finds isText ?_
      rw [here]
      exact mem_entries_of_lookup found
    · rename_i absent
      refine .misses isText there ?_
      rw [here, exists_mem_entries_iff]
      exact Table.lookup_eq_none_iff.mp absent

theorem update_served {now : Timestamp} {id : ℕ} (there : world.database ≠ none)
    (free : world.writer = none) :
    Served world i name (.updating id) (world.update i now id) := by
  unfold World.update
  split
  · rename_i missing
    exact absurd missing there
  · rename_i here locked
    exact absurd (free.symm.trans locked) (Option.some_ne_none _).symm
  · rename_i table here _
    refine .updates free ?_
    rw [entries_update, here]

theorem insert_served {now : Timestamp} (there : world.database ≠ none)
    (free : world.writer = none) :
    Served world i name .inserting (world.insert i now name) := by
  unfold World.insert
  split
  · rename_i missing
    exact absurd missing there
  · rename_i here locked
    exact absurd (free.symm.trans locked) (Option.some_ne_none _).symm
  · rename_i table here _
    dsimp only
    split_ifs with used accepts
    · exact .full here free used
    · have absent := (Table.accepts_drawn_iff rfl).mp accepts
      refine .inserts here free (not_le.mp used) ?_ ?_
      · rw [here, exists_mem_entries_iff]
        exact absent
      · rw [entries_insert, here]
    · rw [Table.accepts_drawn_iff rfl, not_not] at accepts
      refine .refused here free (not_le.mp used) ?_
      rw [here, exists_mem_entries_iff]
      exact accepts

/-- **A turn is idle, or serves the call.** A call that is backed finds the table. -/
theorem step_cases {names : ι → PyStr} {turn : ι × Timestamp}
    (backed : (world.phase turn.1).Backed world.database (names turn.1)) :
    world.step names turn = world ∧ Idle world turn.1 ∨
      Served world turn.1 (names turn.1) (world.phase turn.1) (world.step names turn) := by
  cases before : world.phase turn.1 with
  | called =>
      simp only [World.step, before]
      unfold World.create
      split
      · rename_i table here
        exact .inr (.isThere (by rw [here]; exact Option.some_ne_none table))
      · rename_i missing free
        exact .inr (.creates missing free)
      · rename_i j missing locked
        exact .inl ⟨rfl, .inr ⟨by rw [before]; exact not_false, j, locked⟩⟩
  | selecting =>
      rw [before] at backed
      simp only [World.step, before]
      exact .inr (select_served backed)
  | updating id =>
      rw [before] at backed
      simp only [World.step, before]
      cases locked : world.writer with
      | none => exact .inr (update_served (ne_none_of_mem_entries backed.2) locked)
      | some j =>
          obtain ⟨table, here⟩ := Option.ne_none_iff_exists'.mp (ne_none_of_mem_entries backed.2)
          refine .inl ⟨?_, .inr ⟨by rw [before]; exact not_false, j, locked⟩⟩
          simp only [World.update, here, locked]
  | inserting =>
      rw [before] at backed
      simp only [World.step, before]
      cases locked : world.writer with
      | none => exact .inr (insert_served backed.2 locked)
      | some j =>
          obtain ⟨table, here⟩ := Option.ne_none_iff_exists'.mp backed.2
          refine .inl ⟨?_, .inr ⟨by rw [before]; exact not_false, j, locked⟩⟩
          simp only [World.insert, here, locked]
  | committing version id =>
      simp only [World.step, before]
      exact .inr .commits
  | failing =>
      simp only [World.step, before]
      exact .inr .closes
  | returned id =>
      simp only [World.step, before]
      exact .inl ⟨trivial, .inl (by rw [before]; trivial)⟩
  | raised failure =>
      simp only [World.step, before]
      exact .inl ⟨trivial, .inl (by rw [before]; trivial)⟩

end Turn

/-! ## The invariant is kept -/

section Steps

variable [DecidableEq ι] {names : ι → PyStr} {world : World ι}

/-- One call goes on to a phase. The file is as it was, or it grows and nobody else writes. -/
theorem Sound.move (sound : Sound names world) {i : ι} {next : World ι} {phase : Phase}
    (phases : next.phase = Function.update world.phase i phase)
    (mine : next.writer = some i ↔ phase.Writing)
    (others : ∀ j, j ≠ i → (next.writer = some j ↔ world.writer = some j))
    (file : next.database = world.database ∨
      (∀ j, j ≠ i → world.writer ≠ some j) ∧ entries world.database ⊆ entries next.database ∧
        next.database ≠ none)
    (backed : phase.Backed next.database (names i)) : Sound names next := by
  constructor
  · intro j
    rw [phases]
    by_cases here : j = i
    · rw [here, Function.update_self]
      exact mine
    · rw [Function.update_of_ne here, others j here]
      exact sound.locked j
  · intro j
    rw [phases]
    by_cases here : j = i
    · rw [here, Function.update_self]
      exact backed
    · rw [Function.update_of_ne here]
      rcases file with same | ⟨alone, grows, there⟩
      · rw [same]
        exact sound.backed j
      · refine (sound.backed j).mono grows there fun writing => ?_
        exact alone j here ((sound.locked j).mpr writing)

/-- A call that is not writing goes on to a phase in which it is not writing. -/
theorem Sound.enter (sound : Sound names world) {i : ι} {phase : Phase}
    (before : ¬ (world.phase i).Writing) (after : ¬ phase.Writing)
    (backed : phase.Backed world.database (names i)) : Sound names (world.enter i phase) := by
  refine sound.move rfl ?_ (fun _ _ => Iff.rfl) (.inl rfl) backed
  rw [iff_false_right after]
  exact fun locked => before ((sound.locked i).mp locked)

/-- A call takes the lock nobody has. -/
theorem Sound.lock (sound : Sound names world) {i : ι} {phase : Phase}
    (free : world.writer = none) (after : phase.Writing)
    (backed : phase.Backed world.database (names i)) : Sound names (world.lock i phase) := by
  refine sound.move rfl ?_ ?_ (.inl rfl) backed
  · exact iff_of_true rfl after
  · intro j other
    rw [free]
    exact iff_of_false (fun same => other (Option.some.inj same).symm) (Option.some_ne_none j).symm

/-- The call that has the lock gives it back. -/
theorem Sound.unlock (sound : Sound names world) {i : ι} {next : World ι} {phase : Phase}
    (mine : world.writer = some i) (phases : next.phase = Function.update world.phase i phase)
    (free : next.writer = none) (after : ¬ phase.Writing)
    (grows : entries world.database ⊆ entries next.database)
    (backed : phase.Backed next.database (names i)) (there : next.database ≠ none) :
    Sound names next := by
  refine sound.move phases ?_ ?_ (.inr ⟨?_, grows, there⟩) backed
  · rw [free]
    exact iff_of_false (Option.some_ne_none i).symm after
  · intro j other
    rw [free, mine]
    exact iff_of_false (Option.some_ne_none j).symm fun same => other (Option.some.inj same).symm
  · intro j other same
    exact other (Option.some.inj (same.symm.trans mine))

theorem Sound.served (sound : Sound names world) {i : ι} {phase : Phase} {next : World ι}
    (before : world.phase i = phase) (served : Served world i (names i) phase next) :
    Sound names next := by
  have backed := sound.backed i
  have locked := sound.locked i
  rw [before] at backed locked
  have unwritten (quiet : ¬ phase.Writing) : ¬ (world.phase i).Writing := by
    rw [before]
    exact quiet
  cases served with
  | creates missing free =>
      refine sound.move rfl ?_ (fun _ _ => Iff.rfl) (.inr ⟨?_, ?_, ?_⟩) ?_
      · exact locked
      · intro j _
        rw [free]
        exact (Option.some_ne_none j).symm
      · rw [missing, entries_none]
        exact Set.empty_subset _
      · exact Option.some_ne_none _
      · exact Option.some_ne_none _
  | isThere there => exact sound.enter (unwritten not_false) not_false there
  | unencoded noText => exact sound.enter (unwritten not_false) not_false noText
  | finds isText present => exact sound.enter (unwritten not_false) not_false ⟨isText, present⟩
  | misses isText there absent => exact sound.enter (unwritten not_false) not_false ⟨isText, there⟩
  | updates free kept =>
      refine sound.lock free trivial ⟨backed.1, ?_⟩
      rw [kept, Set.insert_eq_of_mem backed.2]
  | full there free used => exact sound.enter (unwritten not_false) not_false backed.1
  | inserts there free room absent added => exact sound.lock free trivial ⟨backed.1, added⟩
  | refused there free room present => exact sound.lock free trivial ⟨backed.1, present⟩
  | commits =>
      refine sound.unlock (locked.mpr trivial) rfl rfl not_false ?_ ⟨backed.1, ?_⟩
        (Option.some_ne_none _)
      · rw [backed.2]
        exact Set.subset_insert _ _
      · rw [backed.2]
        exact Set.mem_insert _ _
  | closes =>
      obtain ⟨id, present⟩ := backed.2
      exact sound.unlock (locked.mpr trivial) rfl rfl not_false subset_rfl backed
        (ne_none_of_mem_entries present)

/-- **Every turn keeps the invariant.** -/
theorem Sound.step (sound : Sound names world) (turn : ι × Timestamp) :
    Sound names (world.step names turn) := by
  rcases step_cases (sound.backed turn.1) with ⟨idle, -⟩ | served
  · rw [idle]
    exact sound
  · exact sound.served rfl served

/-- The invariant of a run. -/
theorem sound_execute (names : ι → PyStr) (file : Option (Table sessions))
    (turns : List (ι × Timestamp)) :
    Sound names (Turns.execute (World.step names) (opened ι file) turns) :=
  Turns.execute_keeps (fun _ turn sound => sound.step turn) (sound_opened names file)

end Steps

end CarqnaAgent.Cli
