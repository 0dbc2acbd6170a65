import Mathlib
import CarqnaAgent.Foundations.Stamps
import CarqnaAgent.Sessions.Interleavings
import CarqnaAgent.Sessions.Isolation

/-!
# What transactions commit

The invariant of the interleavings is `Sound`: a transaction that has written holds its
row, and the row is still there to be written, or still free to be inserted, when it
commits.

* **No commit fails** (`Sound.commit_takes_effect`).
* A row is a cell stamped with the start of the transaction that wrote it last: **a run
  writes its commits into the cells** (`stamp_execute`).
-/

set_option autoImplicit false

namespace CarqnaAgent.Sessions

open Foundations

/-! ## Stamps -/

/-- The timestamp of a row: when a user was last seen, when a session was last accessed. -/
def Tables.stamp (tables : Tables) : Target → Option Timestamptz
  | .user user_id => (tables.user_registry.lookup user_id).map UserRegistryRow.last_seen_at
  | .session id => (tables.user_sessions.byId id).map UserSessionsRow.access_ts

theorem SameRows.stamp {before after : Tables} (same : SameRows before after) :
    after.stamp = before.stamp := by
  funext target
  cases target with
  | user user_id => simp only [Tables.stamp, Table.lookup, same.registry]
  | session id => simp only [Tables.stamp, Table.byId, same.sessions]

section Stamps

variable {tables : Tables}

theorem stamp_user_eq_some_iff {user_id : PyStr} {time : Timestamptz} :
    tables.stamp (.user user_id) = some time ↔
      ∃ row ∈ tables.user_registry.rows, row.user_id = user_id ∧ row.last_seen_at = time := by
  simp only [Tables.stamp, Option.map_eq_some_iff, Table.lookup_eq_some_iff, and_assoc]
  rfl

theorem stamp_session_eq_some_iff {id : ℕ} {time : Timestamptz} :
    tables.stamp (.session id) = some time ↔
      ∃ row ∈ tables.user_sessions.rows, row.id = id ∧ row.access_ts = time := by
  simp only [Tables.stamp, Option.map_eq_some_iff, Table.byId_eq_some_iff, and_assoc]
  rfl

theorem stamp_seen {user_id : PyStr} (start : Timestamptz)
    (known : Registered tables user_id) :
    (tables.seen start user_id).stamp = Stamps.write tables.stamp (.user user_id, start) := by
  funext target
  cases target with
  | user other =>
      have looked := Table.lookup_update tables.user_registry
        (fun row => decide (row.user_id = user_id)) (Tables.setLastSeen start) other
      simp only [Tables.stamp, Tables.seen, looked, Option.map_map, Stamps.write]
      by_cases here : other = user_id
      · subst here
        obtain ⟨row, found⟩ := Option.isSome_iff_exists.mp (registered_iff_lookup.mp known)
        have named : row.user_id = other := (Table.lookup_eq_some_iff.mp found).2
        simp [found, Table.Setting.onRow, named, Tables.setLastSeen]
      · have elsewhere : Target.user other ≠ .user user_id := fun same => here (Target.user.inj same)
        rw [Function.update_of_ne elsewhere]
        cases found : tables.user_registry.lookup other with
        | none => simp [Tables.stamp, found]
        | some row =>
            have named : row.user_id = other := (Table.lookup_eq_some_iff.mp found).2
            simp [Tables.stamp, found, Table.Setting.onRow, named, here]
  | session id =>
      have elsewhere : Target.session id ≠ .user user_id := Target.noConfusion
      rw [Stamps.write, Function.update_of_ne elsewhere]
      rfl

theorem stamp_register {row : UserRegistryRow} {start : Timestamptz}
    (accepts : tables.user_registry.Accepts row)
    (fresh : row.last_seen_at = start) :
    (tables.register row accepts).stamp =
      Stamps.write tables.stamp (.user row.user_id, start) := by
  funext target
  cases target with
  | user other =>
      have looked := Table.lookup_insert tables.user_registry accepts other
      simp only [Tables.stamp, Tables.register, looked, Stamps.write]
      by_cases here : row.user_id = other
      · subst here
        simp [userRegistry, fresh]
      · have elsewhere : Target.user other ≠ .user row.user_id :=
          fun same => here (Target.user.inj same).symm
        rw [Function.update_of_ne elsewhere, Tables.stamp]
        exact congrArg _ (if_neg here)
  | session id =>
      have elsewhere : Target.session id ≠ .user row.user_id := Target.noConfusion
      rw [Stamps.write, Function.update_of_ne elsewhere]
      rfl

theorem stamp_accessed {user_id : PyStr} {id : ℕ} (start : Timestamptz)
    (known : ∃ row ∈ tables.user_sessions.rows, row.id = id ∧ tables.owns user_id row = true) :
    (tables.accessed start id user_id).stamp = Stamps.write tables.stamp (.session id, start) := by
  obtain ⟨session, member, rfl, owned⟩ := known
  have found : tables.user_sessions.byId session.id = some session :=
    Table.byId_eq_some_iff.mpr ⟨member, rfl⟩
  funext target
  cases target with
  | user other =>
      have elsewhere : Target.user other ≠ .session session.id := Target.noConfusion
      rw [Stamps.write, Function.update_of_ne elsewhere]
      rfl
  | session other =>
      have looked := Table.byId_update tables.user_sessions
        (fun row => decide ((row.id : ℤ) = session.id) && tables.owns user_id row)
        (Tables.setAccessTs start) other
      simp only [Tables.stamp, Tables.accessed, looked, Option.map_map, Stamps.write]
      by_cases here : other = session.id
      · subst here
        simp [found, Table.Setting.onRow, owned, Tables.setAccessTs]
      · have elsewhere : Target.session other ≠ .session session.id :=
          fun same => here (Target.session.inj same)
        rw [Function.update_of_ne elsewhere]
        cases reached : tables.user_sessions.byId other with
        | none => simp [Tables.stamp, reached]
        | some row =>
            have named : row.id = other := (Table.byId_eq_some_iff.mp reached).2
            simp [Tables.stamp, reached, Table.Setting.onRow, named, here]

end Stamps

/-! ## What a commit writes -/

/-- The write can take effect when its transaction commits. -/
def Write.Ready (tables : Tables) : Write → Prop
  | .nothing => True
  | .seen user_id => Registered tables user_id
  | .registered row => ¬ Registered tables row.user_id
  | .accessed user_id id =>
      ∃ row ∈ tables.user_sessions.rows, row.id = id ∧ tables.owns user_id row = true

/-- The row a transaction is about to insert. -/
def Write.newRow? : Write → Option UserRegistryRow
  | .registered row => some row
  | _ => none

section Apply

variable {tables : Tables} {start : Timestamptz} {write : Write}

theorem registered_apply {user_id : PyStr} (known : Registered tables user_id) :
    Registered (write.apply start tables) user_id := by
  cases write with
  | nothing => exact known
  | seen other => exact (seen_registered_iff tables start other user_id).mpr known
  | registered row =>
      rw [Write.apply]
      split
      · rename_i accepts
        exact (registered_register_iff accepts user_id).mpr (.inl known)
      · exact known
  | accessed other id => exact known

theorem registered_of_apply {user_id : PyStr}
    (known : Registered (write.apply start tables) user_id) :
    Registered tables user_id ∨ write.target = some (.user user_id) := by
  cases write with
  | nothing => exact .inl known
  | seen other => exact .inl ((seen_registered_iff tables start other user_id).mp known)
  | registered row =>
      rw [Write.apply] at known
      split at known
      · rename_i accepts
        rcases (registered_register_iff accepts user_id).mp known with old | rfl
        · exact .inl old
        · exact .inr rfl
      · exact .inl known
  | accessed other id => exact .inl known

/-- Committing a write keeps the sessions and their owners. -/
theorem sessions_apply {user_id : PyStr} {id : ℕ}
    (known : ∃ row ∈ tables.user_sessions.rows, row.id = id ∧ tables.owns user_id row = true) :
    ∃ row ∈ (write.apply start tables).user_sessions.rows,
      row.id = id ∧ (write.apply start tables).owns user_id row = true := by
  obtain ⟨row, member, same, owned⟩ := known
  cases write with
  | nothing => exact ⟨row, member, same, owned⟩
  | seen other =>
      exact ⟨row, member, same, owns_of_users (seen_registers tables start other).users owned⟩
  | registered new =>
      rw [Write.apply]
      split
      · refine ⟨row, member, same, owns_of_users (fun old present => ⟨old, ?_, rfl, rfl⟩) owned⟩
        exact List.mem_append_left _ present
      · exact ⟨row, member, same, owned⟩
  | accessed other accessed_id =>
      refine ⟨_, List.mem_map_of_mem member, ?_, ?_⟩
      · exact ((Tables.setAccessTs start).id_onRow _ row).trans same
      · have key := (Tables.setAccessTs start).key_onRow
          (fun session => decide ((session.id : ℤ) = accessed_id) && tables.owns other session) row
        obtain ⟨owner, present, refers, named⟩ := owns_iff.mp owned
        exact owns_iff.mpr ⟨owner, present, (congrArg Prod.fst key).trans refers, named⟩

/-- What a committed write does to the identities of `user_registry`. -/
theorem ids_apply {id : ℕ}
    (present : id ∈ (write.apply start tables).user_registry.rows.map UserRegistryRow.id) :
    id ∈ tables.user_registry.rows.map UserRegistryRow.id ∨
      ∃ row, write.newRow? = some row ∧ id = row.id := by
  cases write with
  | nothing => exact .inl present
  | seen user_id =>
      have same := Table.map_id_onRow (Tables.setLastSeen start)
        (fun row => decide (row.user_id = user_id)) tables.user_registry.rows
      exact .inl ((congrArg (id ∈ ·) same).mp present)
  | registered row =>
      rw [Write.apply] at present
      split at present
      · rw [Tables.register, Table.insert_rows, List.map_append] at present
        rcases List.mem_append.mp present with old | new
        · exact .inl old
        · exact .inr ⟨row, rfl, List.mem_singleton.mp new⟩
      · exact .inl present
  | accessed user_id accessed_id => exact .inl present

theorem drawn_apply (tables : Tables) (start : Timestamptz) (write : Write) :
    (write.apply start tables).user_registry.drawn = tables.user_registry.drawn := by
  cases write with
  | registered row =>
      rw [Write.apply]
      split
      · rfl
      · rfl
  | _ => rfl

/-- A commit leaves ready what does not contend with it. -/
theorem Write.Ready.apply {other : Write} (ready : other.Ready tables)
    (apart : ∀ target, other.target = some target → write.target ≠ some target) :
    other.Ready (write.apply start tables) := by
  cases other with
  | nothing => trivial
  | seen user_id => exact registered_apply ready
  | registered row =>
      intro known
      rcases registered_of_apply known with old | same
      · exact ready old
      · exact apart _ rfl same
  | accessed user_id id => exact sessions_apply ready

/-- **A commit stamps its row with the start of its transaction.** -/
theorem stamp_apply (ready : write.Ready tables)
    (fresh : ∀ row, write.newRow? = some row →
      tables.user_registry.Accepts row ∧ row.last_seen_at = start) :
    (write.apply start tables).stamp =
      (write.target.map fun target => (target, start)).elim tables.stamp
        (Stamps.write tables.stamp) := by
  cases write with
  | nothing => rfl
  | seen user_id => exact stamp_seen start ready
  | registered row =>
      obtain ⟨accepts, dated⟩ := fresh row rfl
      rw [Write.apply, dif_pos accepts]
      exact stamp_register accepts dated
  | accessed user_id id => exact stamp_accessed start ready

end Apply

/-! ## The invariant -/

/-- The start of a transaction under way. -/
def Phase.start? : Phase → Option Timestamptz
  | .started start => some start
  | .fetching start => some start
  | .inserting start _ => some start
  | .written start _ => some start
  | _ => none

/-- The row a transaction under way has drawn an identity for. -/
def Phase.newRow? : Phase → Option UserRegistryRow
  | .inserting _ row => some row
  | .written _ write => write.newRow?
  | _ => none

/-- A row whose identity has been drawn by a transaction that starts at that time. -/
structure Drawn (tables : Tables) (start : Timestamptz) (row : UserRegistryRow) : Prop where
  id_le : row.id ≤ tables.user_registry.drawn
  id_fresh : row.id ∉ tables.user_registry.rows.map UserRegistryRow.id
  first_seen : row.first_seen_at = start
  last_seen : row.last_seen_at = start

/-- Transactions start after the epoch; those that have written hold their rows and can commit;
and those with a new row have an identity of their own for it. -/
structure Sound {ι : Type} (epoch : Timestamptz) (world : World ι) : Prop where
  clock : epoch ≤ world.clock
  starts : ∀ i start, (world.phase i).start? = some start → epoch ≤ start
  holds : ∀ i start write target, world.phase i = .written start write →
    write.target = some target → world.holder target = some i
  ready : ∀ i start write, world.phase i = .written start write → write.Ready world.tables
  drawn : ∀ i start row, (world.phase i).start? = some start →
    (world.phase i).newRow? = some row → Drawn world.tables start row
  distinct : ∀ i j row row', (world.phase i).newRow? = some row →
    (world.phase j).newRow? = some row' → row.id = row'.id → i = j

section Hands

variable {ι : Type}

theorem AtRest.sound (rest : AtRest) : Sound rest.clock (rest.world ι) where
  clock := le_rfl
  starts := nofun
  holds := nofun
  ready := nofun
  drawn := nofun
  distinct := nofun

end Hands

section Invariant

variable {ι : Type} {epoch : Timestamptz} {world : World ι}

/-- A row nobody has written changes hands. -/
theorem Sound.hand (sound : Sound epoch world) {target : Option Target}
    (apart : ∀ j start write held, world.phase j = .written start write →
      write.target = some held → target ≠ some held) (holder : Option ι) :
    Sound epoch (world.hand target holder) where
  clock := by simpa using sound.clock
  starts := by simpa using sound.starts
  holds j start write held done targets := by
    rw [World.hand_phase] at done
    rw [World.hand_holder_of_ne world target holder (apart j start write held done targets)]
    exact sound.holds j start write held done targets
  ready := by simpa using sound.ready
  drawn := by simpa using sound.drawn
  distinct := by simpa using sound.distinct

/-- The row of one who has written is nobody else's. -/
theorem Sound.apart (sound : Sound epoch world) {i j : ι} {start start' : Timestamptz}
    {write write' : Write} {target : Target} (mine : world.phase i = .written start write)
    (other : world.phase j = .written start' write') (targets : write.target = some target)
    (targets' : write'.target = some target) : i = j :=
  Option.some.inj ((sound.holds i start write target mine targets).symm.trans
    (sound.holds j start' write' target other targets'))

/-- The next identity of `user_registry` is drawn. -/
theorem Sound.draw (sound : Sound epoch world) :
    Sound epoch { world with tables := world.tables.drawRegistry } where
  clock := sound.clock
  starts := sound.starts
  holds := sound.holds
  ready i start write done := by
    have ready := sound.ready i start write done
    cases write with
    | nothing => trivial
    | _ => exact ready
  drawn i start row under new := by
    have drawn := sound.drawn i start row under new
    exact ⟨drawn.id_le.trans (Nat.le_succ _), drawn.id_fresh, drawn.first_seen, drawn.last_seen⟩
  distinct := sound.distinct

/-- A write no transaction contends with is committed. -/
theorem Sound.apply (sound : Sound epoch world) (start : Timestamptz) {write : Write}
    (apart : ∀ j start' other target, world.phase j = .written start' other →
      other.target = some target → write.target ≠ some target)
    (own : ∀ row, write.newRow? = some row → ∀ j row', (world.phase j).newRow? = some row' →
      row'.id ≠ row.id) :
    Sound epoch { world with tables := write.apply start world.tables } where
  clock := sound.clock
  starts := sound.starts
  holds := sound.holds
  ready j start' other done :=
    (sound.ready j start' other done).apply fun target targets =>
      apart j start' other target done targets
  drawn j start' row' under new := by
    have drawn := sound.drawn j start' row' under new
    refine ⟨(drawn_apply world.tables start write).symm ▸ drawn.id_le, fun present => ?_,
      drawn.first_seen, drawn.last_seen⟩
    rcases ids_apply present with old | ⟨row, newRow, same⟩
    · exact drawn.id_fresh old
    · exact own row newRow j row' new same
  distinct := sound.distinct

variable [DecidableEq ι]

/-- A transaction enters a phase it is ready for. -/
theorem Sound.enter (sound : Sound epoch world) (i : ι) {phase : Phase}
    (started : ∀ start, phase.start? = some start → epoch ≤ start)
    (writes : ∀ start write, phase = .written start write → write.Ready world.tables ∧
      ∀ target, write.target = some target → world.holder target = some i)
    (draws : ∀ row, phase.newRow? = some row →
      (∀ start, phase.start? = some start → Drawn world.tables start row) ∧
      ∀ j row', j ≠ i → (world.phase j).newRow? = some row' → row.id ≠ row'.id) :
    Sound epoch (world.enter i phase) := by
  have at_self := world.enter_phase_self i phase
  have at_other : ∀ j, j ≠ i → (world.enter i phase).phase j = world.phase j :=
    fun j other => world.enter_phase_of_ne other phase
  refine ⟨sound.clock, ?_, ?_, ?_, ?_, ?_⟩
  · intro j start under
    rcases eq_or_ne j i with rfl | other
    · exact started start (at_self ▸ under)
    · exact sound.starts j start (at_other j other ▸ under)
  · intro j start write target done targets
    rcases eq_or_ne j i with rfl | other
    · exact (writes start write (at_self ▸ done)).2 target targets
    · exact sound.holds j start write target (at_other j other ▸ done) targets
  · intro j start write done
    rcases eq_or_ne j i with rfl | other
    · exact (writes start write (at_self ▸ done)).1
    · exact sound.ready j start write (at_other j other ▸ done)
  · intro j start row under new
    rcases eq_or_ne j i with rfl | other
    · rw [at_self] at under new
      exact (draws row new).1 start under
    · rw [at_other j other] at under new
      exact sound.drawn j start row under new
  · intro j k row row' first second same
    rcases eq_or_ne j i with rfl | other
    · rcases eq_or_ne k j with rfl | apart
      · rfl
      · rw [at_self] at first
        rw [at_other k apart] at second
        exact absurd same ((draws row first).2 k row' apart second)
    · rw [at_other j other] at first
      rcases eq_or_ne k i with rfl | apart
      · rw [at_self] at second
        exact absurd same.symm ((draws row' second).2 j row other first)
      · rw [at_other k apart] at second
        exact sound.distinct j k row row' first second same

/-- A transaction enters a phase with nothing written and no new row. -/
theorem Sound.enter_plain (sound : Sound epoch world) (i : ι) {phase : Phase}
    (started : ∀ start, phase.start? = some start → epoch ≤ start)
    (unwritten : ∀ start write, phase ≠ .written start write) (plain : phase.newRow? = none) :
    Sound epoch (world.enter i phase) :=
  sound.enter i started (fun start write done => absurd done (unwritten start write))
    fun _ new => absurd (plain.symm.trans new) nofun

theorem Sound.rollBack (sound : Sound epoch world) (i : ι) :
    Sound epoch (world.enter i .rolledBack) :=
  sound.enter_plain i nofun nofun rfl

/-- A transaction that has nothing new drawn, or has drawn what it writes, writes. -/
theorem Sound.write (sound : Sound epoch world) (i : ι) {start : Timestamptz} {write : Write}
    (late : epoch ≤ start) (ready : write.Ready world.tables)
    (draws : ∀ row, write.newRow? = some row → world.phase i = .inserting start row) :
    Sound epoch (world.write i start write) := by
  unfold World.write
  split
  · exact sound
  · rename_i free
    have unheld : ∀ target, write.target = some target → world.holder target = none := by
      intro target targets
      rw [targets, Option.bind_some] at free
      simpa using free
    have handed : Sound epoch (world.hand write.target (some i)) := by
      refine sound.hand ?_ _
      intro j start' write' held done targets same
      have holder := sound.holds j start' write' held done targets
      rw [unheld held same] at holder
      cases holder
    refine handed.enter i ?_ ?_ ?_
    · intro other same
      exact Option.some.inj same ▸ late
    · intro start' write' same
      cases same
      refine ⟨by simpa using ready, fun target targets => ?_⟩
      rw [targets]
      exact world.hand_holder_self _
    · intro row new
      have inserting := draws row new
      have mine : (world.phase i).newRow? = some row := by rw [inserting]; rfl
      refine ⟨fun start' same => ?_, fun j row' other second same => ?_⟩
      · cases same
        rw [World.hand_tables]
        exact sound.drawn i start row (by rw [inserting]; rfl) mine
      · rw [World.hand_phase] at second
        exact other (sound.distinct i j row row' mine second same).symm

/-- A transaction writes what is no new row. -/
theorem Sound.write_plain (sound : Sound epoch world) (i : ι) {start : Timestamptz}
    {write : Write} (late : epoch ≤ start) (ready : write.Ready world.tables)
    (plain : write.newRow? = none) : Sound epoch (world.write i start write) :=
  sound.write i late ready fun _ new => absurd (plain.symm.trans new) nofun

/-- The first statement of a call. -/
theorem Sound.first (sound : Sound epoch world) (i : ι) {start : Timestamptz}
    (late : epoch ≤ start) (work : Work) : Sound epoch (world.first i start work) := by
  cases work with
  | trackUser user_id =>
      rw [World.first]
      split
      · split
        · rename_i known
          exact sound.write_plain i late (registered_iff_lookup.mpr known) rfl
        · exact sound.enter_plain i (fun _ same => Option.some.inj same ▸ late)
            (fun _ _ => Phase.noConfusion) rfl
      · exact sound.rollBack i
  | touchSession user_id session_id =>
      rw [World.first]
      split
      · split
        · rename_i session found
          have selected := List.find?_some found
          simp only [Bool.and_eq_true] at selected
          refine sound.write_plain i late ?_ rfl
          exact ⟨session, List.mem_of_find?_eq_some found, rfl, selected.2⟩
        · exact sound.write_plain i late trivial rfl
      · exact sound.rollBack i

/-- The answer of `/userinfo`. -/
theorem Sound.receive (sound : Sound epoch world) (i : ι) {start : Timestamptz}
    (late : epoch ≤ start) (user_id : PyStr) (answer : Userinfo) :
    Sound epoch (world.receive i start user_id answer) := by
  cases answer with
  | none => exact sound.rollBack i
  | some profile =>
      obtain ⟨email, name⟩ := profile
      rw [World.receive]
      split
      · refine sound.draw.enter i (fun _ same => Option.some.inj same ▸ late) nofun ?_
        intro row new
        cases new
        refine ⟨fun start' same => ?_, fun j row' _ second same => ?_⟩
        · cases same
          refine ⟨le_rfl, fun present => ?_, rfl, rfl⟩
          obtain ⟨old, member, same⟩ := List.mem_map.mp present
          have low : old.id ≤ world.tables.user_registry.drawn :=
            world.tables.user_registry.ids_le old member
          exact absurd same (Nat.lt_succ_of_le low).ne
        · obtain ⟨start', under⟩ : ∃ start', (world.phase j).start? = some start' := by
            change (world.phase j).newRow? = some row' at second
            cases phase : world.phase j with
            | inserting start' other => exact ⟨start', rfl⟩
            | written start' write => exact ⟨start', rfl⟩
            | _ => rw [phase] at second; cases second
          have low := (sound.drawn j start' row' under second).id_le
          exact absurd same (Nat.lt_succ_of_le low).ne'
      · exact sound.rollBack i

/-- The `INSERT` takes effect. -/
theorem Sound.insert (sound : Sound epoch world) {i : ι} {start : Timestamptz}
    {row : UserRegistryRow} (late : epoch ≤ start)
    (inserting : world.phase i = .inserting start row) :
    Sound epoch (world.insert i start row) := by
  unfold World.insert
  split
  · rename_i known
    exact sound.write_plain i late (registered_iff_lookup.mpr known) rfl
  · rename_i unknown
    refine sound.write i late (fun known => unknown (registered_iff_lookup.mp known)) ?_
    intro other same
    cases same
    exact inserting

/-- Once a transaction that has written is over, nobody has written its row. -/
theorem Sound.unheld (sound : Sound epoch world) {i : ι} {start : Timestamptz} {write : Write}
    (done : world.phase i = .written start write) {final : Phase}
    (unwritten : ∀ start write, final ≠ .written start write) (j : ι) (start' : Timestamptz)
    (other : Write) (target : Target)
    (written : (world.enter i final).phase j = .written start' other)
    (targets : other.target = some target) : write.target ≠ some target := by
  intro mine
  rcases eq_or_ne j i with rfl | elsewhere
  · rw [world.enter_phase_self] at written
    exact unwritten start' other written
  · rw [world.enter_phase_of_ne elsewhere] at written
    exact elsewhere (sound.apart written done targets mine)

/-- A transaction that has written is rolled back. -/
theorem Sound.release (sound : Sound epoch world) {i : ι} {start : Timestamptz} {write : Write}
    (done : world.phase i = .written start write) :
    Sound epoch ((world.hand write.target none).enter i .rolledBack) := by
  rw [world.hand_enter]
  exact (sound.rollBack i).hand (sound.unheld done nofun) none

/-- A transaction commits what it has written. -/
theorem Sound.commit (sound : Sound epoch world) {i : ι} {start : Timestamptz} {write : Write}
    (done : world.phase i = .written start write) : Sound epoch (world.commit i start write) := by
  have left : Sound epoch (world.enter i .committed) := sound.enter_plain i nofun nofun rfl
  have applied := left.apply start (sound.unheld done nofun) ?_
  · rw [World.commit, World.hand_enter]
    exact applied.hand (sound.unheld done nofun) none
  · intro row new j row' second same
    rcases eq_or_ne j i with rfl | elsewhere
    · rw [world.enter_phase_self] at second
      cases second
    · rw [world.enter_phase_of_ne elsewhere] at second
      refine elsewhere (sound.distinct j i row' row second ?_ same)
      rw [done]
      exact new

/-- **Every step keeps the invariant.** -/
theorem Sound.step (sound : Sound epoch world) (work : ι → Work) (action : Action ι) :
    Sound epoch (world.step work action) := by
  cases action with
  | wait duration =>
      exact ⟨sound.clock.trans (Int.le_add_of_nonneg_right (Int.natCast_nonneg duration)),
        sound.starts, sound.holds, sound.ready, sound.drawn, sound.distinct⟩
  | begin i =>
      rw [World.step]
      split
      · exact sound.enter_plain i (fun _ same => Option.some.inj same ▸ sound.clock) nofun rfl
      · exact sound
  | execute i =>
      rw [World.step]
      split
      · rename_i start phase
        exact sound.first i (sound.starts i start (congrArg Phase.start? phase)) (work i)
      · rename_i start row phase
        exact sound.insert (sound.starts i start (congrArg Phase.start? phase)) phase
      · exact sound
  | userinfo i answer =>
      rw [World.step]
      split
      · rename_i start user_id phase _
        exact sound.receive i (sound.starts i start (congrArg Phase.start? phase)) user_id answer
      · exact sound
  | commit i =>
      rw [World.step]
      split
      · rename_i start write done
        exact sound.commit done
      · exact sound
  | abort i =>
      rw [World.step]
      split
      · exact sound
      · exact sound
      · exact sound
      · rename_i start write done
        exact sound.release done
      · exact sound.rollBack i

/-- The invariant of a run. -/
theorem Sound.execute (sound : Sound epoch world) (work : ι → Work) (actions : List (Action ι)) :
    Sound epoch (world.execute work actions) := by
  induction actions using List.reverseRecOn with
  | nil => exact sound
  | append_singleton actions action ih =>
      rw [World.execute_concat]
      exact ih.step work action

end Invariant

/-! ## The committed states of a run -/

section Commits

variable {ι : Type} {epoch : Timestamptz} {world : World ι}

/-- **A commit takes effect**: a row that is committed as new is free, and as old as its
transaction. -/
theorem Sound.commit_takes_effect (sound : Sound epoch world) {i : ι} {start : Timestamptz}
    {write : Write} (done : world.phase i = .written start write) (row : UserRegistryRow)
    (new : write.newRow? = some row) :
    world.tables.user_registry.Accepts row ∧ row.first_seen_at = start ∧
      row.last_seen_at = start := by
  have drawn := sound.drawn i start row (by rw [done]; rfl) (by rw [done]; exact new)
  have ready := sound.ready i start write done
  cases write with
  | registered other =>
      cases new
      exact ⟨⟨drawn.id_le, drawn.id_fresh, ready⟩, drawn.first_seen, drawn.last_seen⟩
  | _ => cases new

variable [DecidableEq ι]

@[simp] theorem World.write_tables (world : World ι) (i : ι) (start : Timestamptz)
    (write : Write) : (world.write i start write).tables = world.tables := by
  unfold World.write
  split
  · rfl
  · exact world.hand_tables _ _

@[simp] theorem World.first_tables (world : World ι) (i : ι) (start : Timestamptz)
    (work : Work) : (world.first i start work).tables = world.tables := by
  cases work with
  | trackUser user_id =>
      rw [World.first]
      split
      · split
        · exact world.write_tables i start _
        · rfl
      · rfl
  | touchSession user_id session_id =>
      rw [World.first]
      split
      · split
        · exact world.write_tables i start _
        · exact world.write_tables i start _
      · rfl

@[simp] theorem World.insert_tables (world : World ι) (i : ι) (start : Timestamptz)
    (row : UserRegistryRow) : (world.insert i start row).tables = world.tables := by
  unfold World.insert
  split
  · exact world.write_tables i start _
  · exact world.write_tables i start _

theorem World.receive_rows (world : World ι) (i : ι) (start : Timestamptz) (user_id : PyStr)
    (answer : Userinfo) : SameRows world.tables (world.receive i start user_id answer).tables := by
  cases answer with
  | none => exact ⟨rfl, rfl⟩
  | some profile =>
      obtain ⟨email, name⟩ := profile
      rw [World.receive]
      split
      · exact ⟨rfl, rfl⟩
      · exact ⟨rfl, rfl⟩

/-- **Only a commit changes the rows**, and it applies what its transaction has written. -/
theorem step_cases (work : ι → Work) (world : World ι) (action : Action ι) :
    (SameRows world.tables (world.step work action).tables ∧ world.committing action = none) ∨
      ∃ i start write, world.phase i = .written start write ∧
        (world.step work action).tables = write.apply start world.tables ∧
        world.committing action = write.target.map fun target => (target, start) := by
  have same : ∀ {after : World ι}, after.tables = world.tables →
      SameRows world.tables after.tables :=
    fun equal => ⟨congrArg (·.user_registry.rows) equal, congrArg (·.user_sessions.rows) equal⟩
  cases action with
  | wait duration => exact .inl ⟨⟨rfl, rfl⟩, rfl⟩
  | begin i =>
      refine .inl ⟨?_, rfl⟩
      rw [World.step]
      split
      · exact same rfl
      · exact same rfl
  | execute i =>
      refine .inl ⟨?_, rfl⟩
      rw [World.step]
      split
      · exact same (world.first_tables i _ _)
      · exact same (world.insert_tables i _ _)
      · exact same rfl
  | userinfo i answer =>
      refine .inl ⟨?_, rfl⟩
      rw [World.step]
      split
      · exact world.receive_rows i _ _ answer
      · exact same rfl
  | commit i =>
      rw [World.step, World.committing]
      split
      · rename_i start write done
        exact .inr ⟨i, start, write, done, World.hand_tables _ _ _, rfl⟩
      · exact .inl ⟨same rfl, rfl⟩
  | abort i =>
      refine .inl ⟨?_, rfl⟩
      rw [World.step]
      split
      · exact same rfl
      · exact same rfl
      · exact same rfl
      · exact same (world.hand_tables _ _)
      · exact same rfl

/-- A step stamps the row it commits a write to. -/
theorem Sound.stamp_step (sound : Sound epoch world) (work : ι → Work) (action : Action ι) :
    (world.step work action).tables.stamp =
      (world.committing action).elim world.tables.stamp (Stamps.write world.tables.stamp) := by
  rcases step_cases work world action with ⟨same, idle⟩ | ⟨i, start, write, done, after, commits⟩
  · rw [idle, Option.elim_none]
    exact same.stamp
  · rw [after, commits]
    refine stamp_apply (sound.ready i start write done) fun row new => ?_
    obtain ⟨accepts, -, dated⟩ := sound.commit_takes_effect done row new
    exact ⟨accepts, dated⟩

theorem Sound.committing_late (sound : Sound epoch world) (work : ι → Work) {action : Action ι}
    {entry : Target × Timestamptz} (commits : world.committing action = some entry) :
    epoch ≤ entry.2 := by
  rcases step_cases work world action with
    ⟨-, idle⟩ | ⟨i, start, write, done, -, committing⟩
  · rw [idle] at commits
    cases commits
  · rw [committing] at commits
    obtain ⟨target, -, rfl⟩ := Option.map_eq_some_iff.mp commits
    exact sound.starts i start (congrArg Phase.start? done)

theorem World.commits_concat (work : ι → Work) (world : World ι) (actions : List (Action ι))
    (action : Action ι) :
    world.commits work (actions ++ [action]) =
      world.commits work actions ++ ((world.execute work actions).committing action).toList := by
  induction actions generalizing world with
  | nil => simp [World.commits, World.execute]
  | cons first rest ih =>
      rw [List.cons_append, World.commits, ih, World.commits, List.append_assoc]
      rfl

/-- **A run writes its commits into the rows.** -/
theorem Sound.stamp_execute (sound : Sound epoch world) (work : ι → Work)
    (actions : List (Action ι)) :
    (world.execute work actions).tables.stamp =
      Stamps.writeAll world.tables.stamp (world.commits work actions) := by
  induction actions using List.reverseRecOn with
  | nil => rfl
  | append_singleton actions action ih =>
      rw [World.execute_concat, (sound.execute work actions).stamp_step, ih,
        World.commits_concat, Stamps.writeAll_append_toList]

end Commits

end CarqnaAgent.Sessions
