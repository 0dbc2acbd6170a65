import Mathlib
import CarqnaAgent.Sessions.Store

/-!
# Transactions side by side

`track_user` and `touch_session` statement by statement, any number of them at once, as
the database runs them at `READ COMMITTED`. A transaction starts at its first statement,
and `now()` is that time in all of its statements. `track_user` keeps its transaction open
over the `/userinfo` call.

A statement sees what is committed when it takes effect. What it writes is seen when its
transaction commits; until then other writers of the row wait, and so does an insertion
for a user another transaction is inserting. A step that is not possible leaves the world
as it is: a statement that has to wait is issued again.
-/

set_option autoImplicit false

namespace CarqnaAgent.Sessions

open Foundations

/-- A call that is a transaction of the world. -/
inductive Work where
  | trackUser (user_id : PyStr)
  | touchSession (user_id : PyStr) (session_id : ℤ)

/-- What transactions contend for: the row of a user, there or being inserted, or the session of
an id. -/
inductive Target where
  | user (user_id : PyStr)
  | session (id : ℕ)
  deriving DecidableEq

/-- What a transaction has written. -/
inductive Write where
  /-- The statement has matched no row. -/
  | nothing
  | seen (user_id : PyStr)
  | registered (row : UserRegistryRow)
  | accessed (user_id : PyStr) (id : ℕ)

namespace Write

/-- The row the write holds until the end of its transaction. -/
def target : Write → Option Target
  | .nothing => none
  | .seen user_id => some (.user user_id)
  | .registered row => some (.user row.user_id)
  | .accessed _ id => some (.session id)

/-- The tables once the write is committed. The key of an inserted row is free until then. -/
def apply (start : Timestamptz) (tables : Tables) : Write → Tables
  | .nothing => tables
  | .seen user_id => tables.seen start user_id
  | .registered row =>
      if accepts : tables.user_registry.Accepts row then tables.register row accepts else tables
  | .accessed user_id id => tables.accessed start id user_id

end Write

/-- Where a transaction is. `start` is its `now()`. -/
inductive Phase where
  | idle
  /-- The first statement is issued. -/
  | started (start : Timestamptz)
  /-- The `UPDATE` of `track_user` has matched no row, and `/userinfo` is called. -/
  | fetching (start : Timestamptz)
  /-- The `INSERT` is issued for the row. -/
  | inserting (start : Timestamptz) (row : UserRegistryRow)
  /-- The last statement has taken effect. -/
  | written (start : Timestamptz) (write : Write)
  | committed
  | rolledBack

/-- The committed tables, the clock, the holder of each row, and the transactions. -/
structure World (ι : Type) where
  tables : Tables
  clock : Timestamptz
  holder : Target → Option ι
  phase : ι → Phase

/-- What happens next. -/
inductive Action (ι : Type) where
  | wait (duration : ℕ)
  | begin (i : ι)
  | execute (i : ι)
  | userinfo (i : ι) (answer : Userinfo)
  | commit (i : ι)
  /-- The connection fails, or the task is cancelled. -/
  | abort (i : ι)

section Steps

variable {ι : Type}

namespace World

/-- The row changes hands. -/
def hand (world : World ι) (target : Option Target) (holder : Option ι) : World ι :=
  match target with
  | none => world
  | some target => { world with holder := Function.update world.holder target holder }

section Hands

variable (world : World ι) (target : Option Target) (holder : Option ι)

@[simp] theorem hand_phase : (world.hand target holder).phase = world.phase := by
  cases target <;> rfl

@[simp] theorem hand_tables : (world.hand target holder).tables = world.tables := by
  cases target <;> rfl

@[simp] theorem hand_clock : (world.hand target holder).clock = world.clock := by
  cases target <;> rfl

theorem hand_holder_self {target : Target} :
    (world.hand (some target) holder).holder target = holder := by
  simp [hand]

theorem hand_holder_of_ne {other : Target} (apart : target ≠ some other) :
    (world.hand target holder).holder other = world.holder other := by
  cases target with
  | none => rfl
  | some target =>
      have different : other ≠ target := fun same => apart (same ▸ rfl)
      simp [hand, Function.update_of_ne different]

end Hands

variable [DecidableEq ι]

/-- The transaction enters a phase. -/
def enter (world : World ι) (i : ι) (phase : Phase) : World ι :=
  { world with phase := Function.update world.phase i phase }

theorem enter_phase_self (world : World ι) (i : ι) (phase : Phase) :
    (world.enter i phase).phase i = phase := by
  simp [enter]

theorem enter_phase_of_ne (world : World ι) {i j : ι} (other : j ≠ i) (phase : Phase) :
    (world.enter i phase).phase j = world.phase j := by
  simp [enter, Function.update_of_ne other]

theorem hand_enter (world : World ι) (target : Option Target) (holder : Option ι) (i : ι)
    (phase : Phase) :
    (world.hand target holder).enter i phase = (world.enter i phase).hand target holder := by
  cases target with
  | none => rfl
  | some target => rfl

/-- A write takes effect, unless its row is held. -/
def write (world : World ι) (i : ι) (start : Timestamptz) (write : Write) : World ι :=
  if (write.target.bind world.holder).isSome then world
  else (world.hand write.target (some i)).enter i (.written start write)

/-- The first statement of the call. -/
def first (world : World ι) (i : ι) (start : Timestamptz) : Work → World ι
  | .trackUser user_id =>
      if Storable user_id then
        if (world.tables.user_registry.lookup user_id).isSome then
          world.write i start (.seen user_id)
        else world.enter i (.fetching start)
      else world.enter i .rolledBack
  | .touchSession user_id session_id =>
      if Storable user_id then
        match world.tables.user_sessions.rows.find? fun session =>
            decide ((session.id : ℤ) = session_id) && world.tables.owns user_id session with
        | some session => world.write i start (.accessed user_id session.id)
        | none => world.write i start .nothing
      else world.enter i .rolledBack

/-- `/userinfo` has answered: the `INSERT` is issued, and draws its identity. -/
def receive (world : World ι) (i : ι) (start : Timestamptz) (user_id : PyStr) :
    Userinfo → World ι
  | none => world.enter i .rolledBack
  | some (email, name) =>
      if checkOptionalText email = .ok () ∧ checkOptionalText name = .ok () ∧
          world.tables.user_registry.drawn < bigintMax then
        { world with tables := world.tables.drawRegistry }.enter i
          (.inserting start (world.tables.newUser start user_id email name))
      else world.enter i .rolledBack

/-- The `INSERT` takes effect: a row, or on conflict with a committed one its update. -/
def insert (world : World ι) (i : ι) (start : Timestamptz) (row : UserRegistryRow) : World ι :=
  if (world.tables.user_registry.lookup row.user_id).isSome then
    world.write i start (.seen row.user_id)
  else world.write i start (.registered row)

/-- `COMMIT`. -/
def commit (world : World ι) (i : ι) (start : Timestamptz) (write : Write) : World ι :=
  ({ world with tables := write.apply start world.tables }.hand write.target none).enter i
    .committed

end World

variable [DecidableEq ι]

/-- One step of the world. -/
def World.step (work : ι → Work) (world : World ι) : Action ι → World ι
  | .wait duration => { world with clock := world.clock + duration }
  | .begin i =>
      match world.phase i with
      | .idle => world.enter i (.started world.clock)
      | _ => world
  | .execute i =>
      match world.phase i with
      | .started start => world.first i start (work i)
      | .inserting start row => world.insert i start row
      | _ => world
  | .userinfo i answer =>
      match world.phase i, work i with
      | .fetching start, .trackUser user_id => world.receive i start user_id answer
      | _, _ => world
  | .commit i =>
      match world.phase i with
      | .written start write => world.commit i start write
      | _ => world
  | .abort i =>
      match world.phase i with
      | .idle => world
      | .committed => world
      | .rolledBack => world
      | .written _ write => (world.hand write.target none).enter i .rolledBack
      | _ => world.enter i .rolledBack

/-- The world after some steps. -/
def World.execute (work : ι → Work) (world : World ι) (actions : List (Action ι)) : World ι :=
  actions.foldl (step work) world

theorem World.execute_concat (work : ι → Work) (world : World ι) (actions : List (Action ι))
    (action : Action ι) :
    world.execute work (actions ++ [action]) = (world.execute work actions).step work action := by
  simp [World.execute]

/-- The row a step commits a write to, and the start of the transaction that commits. -/
def World.committing (world : World ι) : Action ι → Option (Target × Timestamptz)
  | .commit i =>
      match world.phase i with
      | .written start write => write.target.map fun target => (target, start)
      | _ => none
  | _ => none

/-- The commits of a run, in order. -/
def World.commits (work : ι → Work) (world : World ι) :
    List (Action ι) → List (Target × Timestamptz)
  | [] => []
  | action :: rest =>
      (world.committing action).toList ++ (world.step work action).commits work rest

end Steps

/-- A database nobody is using: its rows are no older than the clock. -/
structure AtRest where
  tables : Tables
  clock : Timestamptz
  ordered : ∀ row ∈ tables.user_registry.rows, row.first_seen_at ≤ row.last_seen_at
  seen_le : ∀ row ∈ tables.user_registry.rows, row.last_seen_at ≤ clock
  accessed_le : ∀ row ∈ tables.user_sessions.rows, row.access_ts ≤ clock

/-- The world before any call. -/
def AtRest.world (rest : AtRest) (ι : Type) : World ι where
  tables := rest.tables
  clock := rest.clock
  holder _ := none
  phase _ := .idle

end CarqnaAgent.Sessions
