import Mathlib
import CarqnaAgent.Cli.Processes

/-!
# Conversations of the command line

The checkpoints of the file are kept under thread ids, the sessions under names. A file in use
has no checkpoint under an identity it has not given out (`LocalStore`), so every name has one
conversation there, and a name that is new has none.

**In every run of any number of processes, what an agent loads is what was last stored for the
session of its name, by whichever process; what a process stores changes the conversation of
its own name, and the run leaves such a store again** (`conversations_by_name`).
-/

set_option autoImplicit false

namespace CarqnaAgent.Cli

open Foundations
open CarqnaAgent.Server (AgentStep)

variable {History Reply : Type}

/-! ## The store -/

/-- The file between runs: no checkpoint is there for an identity that is not given out. -/
structure LocalStore (History : Type) where
  file : Option (Table sessions)
  checkpoints : PyStr → Option History
  unused : ∀ id, (∀ name, (id, name) ∉ entries file) → checkpoints (threadId id) = none

/-- A file that is not there yet. -/
def LocalStore.new (History : Type) : LocalStore History := ⟨none, fun _ => none, fun _ _ => rfl⟩

/-- The conversation of a session. -/
def LocalStore.conversation (store : LocalStore History) (name : PyStr) : Option History :=
  (store.file.bind fun table => table.lookup name).bind fun row =>
    store.checkpoints (threadId row.session_id)

theorem LocalStore.conversation_of_mem (store : LocalStore History) {id : ℕ} {name : PyStr}
    (present : (id, name) ∈ entries store.file) :
    store.conversation name = store.checkpoints (threadId id) := by
  cases there : store.file with
  | none =>
      rw [there, entries_none] at present
      exact present.elim
  | some table =>
      rw [there] at present
      obtain ⟨row, member, same⟩ := mem_entries_some.mp present
      obtain ⟨rfl, rfl⟩ := Prod.mk.inj same
      have found : table.lookup row.session_name = some row :=
        Table.lookup_eq_some_iff.mpr ⟨member, rfl⟩
      simp [LocalStore.conversation, there, found]

theorem LocalStore.conversation_of_not_mem (store : LocalStore History) {name : PyStr}
    (absent : ∀ id, (id, name) ∉ entries store.file) : store.conversation name = none := by
  cases there : store.file with
  | none => simp [LocalStore.conversation, there]
  | some table =>
      rw [there] at absent
      cases found : table.lookup name with
      | none => simp [LocalStore.conversation, there, found]
      | some row => exact absurd (mem_entries_of_lookup found) (absent row.session_id)

/-! ## What a turn does to the file -/

section Entries

variable {ι : Type} [DecidableEq ι] {names : ι → PyStr} {world : World ι}

/-- A turn gives out one identity at most. -/
theorem entries_step (sound : Sound names world) (turn : ι × Timestamp) :
    entries (world.step names turn).database = entries world.database ∨
      ∃ entry, entries (world.step names turn).database = insert entry (entries world.database) := by
  rcases step_cases (sound.backed turn.1) with ⟨same, -⟩ | served
  · exact .inl (by rw [same])
  · rcases served.entries_cases with ⟨version, id, commits, written⟩ | ⟨-, kept⟩
    · have backed := sound.backed turn.1
      rw [commits] at backed
      refine .inr ⟨(id, names turn.1), ?_⟩
      rw [written]
      exact backed.2
    · exact .inl kept

theorem entries_subset_step (sound : Sound names world) (turn : ι × Timestamp) :
    entries world.database ⊆ entries (world.step names turn).database := by
  rcases entries_step sound turn with same | ⟨entry, added⟩
  · rw [same]
  · rw [added]
    exact Set.subset_insert _ _

/-- A step of a process moves its session on, or leaves the file as it is. -/
theorem machine_world (i : ι) (moment : Moment Reply) (state : Machine ι History)
    (step : Step History) :
    (machine names i moment state step).2.world = state.world ∨
      ∃ now, (machine names i moment state step).2.world = state.world.step names (i, now) := by
  cases step with
  | createTable =>
      cases before : state.world.phase i with
      | called =>
          refine .inr ⟨0, ?_⟩
          simp [machine, World.step, before]
      | _ => exact .inl (by simp [machine, before])
  | openSession => exact .inr ⟨moment.now, rfl⟩
  | putCheckpoint thread_id history =>
      refine .inl ?_
      unfold machine
      dsimp only
      split <;> rfl
  | _ => exact .inl rfl

/-- A step other than a store leaves the checkpoints as they are. -/
theorem machine_checkpoints (i : ι) (moment : Moment Reply) (state : Machine ι History)
    {step : Step History} (other : ∀ thread_id history, step ≠ .putCheckpoint thread_id history) :
    (machine names i moment state step).2.checkpoints = state.checkpoints := by
  cases step with
  | putCheckpoint thread_id history => exact absurd rfl (other thread_id history)
  | _ => rfl

theorem Sound.machine {i : ι} {moment : Moment Reply} {state : Machine ι History}
    {step : Step History} (sound : Sound names state.world) :
    Sound names (Cli.machine names i moment state step).2.world := by
  rcases machine_world i moment state step with same | ⟨now, same⟩
  · rw [same]
    exact sound
  · rw [same]
    exact sound.step _

theorem entries_subset_machine {i : ι} {moment : Moment Reply} {state : Machine ι History}
    {step : Step History} (sound : Sound names state.world) :
    entries state.world.database ⊆
      entries (machine names i moment state step).2.world.database := by
  rcases machine_world i moment state step with same | ⟨now, same⟩
  · rw [same]
  · rw [same]
    exact entries_subset_step sound _

end Entries

/-! ## A process keeps to the thread of its session -/

/-- The identities a process has been given. -/
def learnId (step : Step History) (answer : step.Answer History Reply) (known : Set ℕ) : Set ℕ :=
  match step, answer with
  | .openSession, .ok session_id => insert session_id known
  | _, _ => known

/-- Checkpoints are loaded and stored under known identities. -/
def OnKnownThread (known : Set ℕ) : Step History → Prop
  | .getCheckpoint thread_id => ∃ id ∈ known, thread_id = threadId id
  | .putCheckpoint thread_id _ => ∃ id ∈ known, thread_id = threadId id
  | _ => True

theorem quiet_onKnownThread :
    Quiet (learnId : (step : Step History) → step.Answer History Reply → _) OnKnownThread where
  allows known {step} silent := by
    cases step with
    | getCheckpoint thread_id => exact silent.elim
    | putCheckpoint thread_id history => exact silent.elim
    | _ => trivial
  teaches known {step} answer silent := by
    cases step with
    | openSession => exact silent.elim
    | _ => rfl

section Threads

variable {agent : CliAgent History Reply} {sqlite_path : PyStr} {known : Set ℕ}

theorem onKnownThread_serveThread {session_id : ℕ} (given : session_id ∈ known)
    (step : AgentStep History) :
    (serveThread (threadId session_id) step : CliProgram History Reply _).Within learnId
      OnKnownThread (fun _ later => later = known) known := by
  cases step with
  | load => exact ⟨⟨session_id, given, rfl⟩, fun _ => rfl⟩
  | store history => exact ⟨⟨session_id, given, rfl⟩, fun _ => rfl⟩
  | ask => exact ⟨trivial, fun _ => rfl⟩

theorem onKnownThread_repl {session_id : ℕ} (given : session_id ∈ known) (inputs : List Input) :
    (repl agent (threadId session_id) inputs).Within learnId OnKnownThread (fun _ _ => True)
      known := by
  induction inputs with
  | nil => trivial
  | cons input inputs ih =>
      cases input with
      | raised raised =>
          exact within_recover quiet_onKnownThread (fun _ _ => ih) fun _ _ _ => trivial
      | line text =>
          rw [repl]
          split_ifs with quits blank
          · exact within_print quiet_onKnownThread trivial
          · exact ih
          · exact within_ask quiet_onKnownThread rfl trivial
              (onKnownThread_serveThread given) (fun _ => trivial) (fun _ => ih)
              fun _ _ _ _ => trivial

theorem onKnownThread_main {args : Args} {inputs : List Input} :
    (main agent sqlite_path args inputs).Within learnId OnKnownThread (fun _ _ => True) known :=
  within_main quiet_onKnownThread (fun _ => trivial) (fun _ => ⟨trivial, trivial⟩) fun _ =>
    within_sessionBranch quiet_onKnownThread trivial (fun _ => trivial) fun _ =>
      ⟨trivial, trivial, onKnownThread_repl (Set.mem_insert _ _) inputs⟩

end Threads

section Runs

variable {ι : Type} [DecidableEq ι] {names : ι → PyStr}

/-- `_get_or_create_session` is answered when it is over. -/
theorem openSession_answered {i : ι} {moment : Moment Reply} {state : Machine ι History}
    {answer : Except Failure ℕ}
    (said : (machine names i moment state .openSession).1 = some answer) :
    (∃ failure, answer = .error failure) ∨ ∃ session_id, answer = .ok session_id ∧
      (machine names i moment state .openSession).2.world.phase i = .returned session_id := by
  simp only [machine] at said ⊢
  cases phase : (state.world.step names (i, moment.now)).phase i with
  | returned session_id =>
      rw [phase] at said
      exact .inr ⟨session_id, (Option.some.inj said).symm, rfl⟩
  | raised failure =>
      rw [phase] at said
      exact .inl ⟨failure, (Option.some.inj said).symm⟩
  | _ =>
      rw [phase] at said
      cases said

/-- A process knows identities of its name. -/
def givenIds (names : ι → PyStr) :
    Knowledge (machine names : Gradual ι _ (Step.Answer History Reply) _ _) (Set ℕ) where
  learn _ := learnId
  allowed _ := OnKnownThread
  Kind state := Sound names state.world
  Holds i known state := ∀ id ∈ known, (id, names i) ∈ entries state.world.database
  keeps {_} _ {_ _ _} sound _ _ := sound.machine
  answered {i} moment {state step known} answer sound holds _ said := by
    have kept : ∀ id ∈ known,
        (id, names i) ∈ entries (machine names i moment state step).2.world.database :=
      fun id member => entries_subset_machine sound (holds id member)
    cases step with
    | openSession =>
        rcases openSession_answered said with ⟨failure, rfl⟩ | ⟨session_id, rfl, returned⟩
        · exact kept
        · rintro id (rfl | member)
          · exact mem_entries_of_returned sound.machine returned
          · exact kept id member
    | _ => exact kept
  pending {_} _ {_ _ _} sound holds _ _ id member := entries_subset_machine sound (holds id member)
  others {_ _} _ {_ _ _ _} _ sound _ _ holds id member :=
    entries_subset_machine sound (holds id member)

/-! ## What has been told -/

/-- The checkpoints of the file are the conversations, and an unused identity has none. -/
structure Told (names : ι → PyStr) (conversations : PyStr → Option History)
    (state : Machine ι History) : Prop where
  sound : Sound names state.world
  kept : ∀ id name, (id, name) ∈ entries state.world.database →
    state.checkpoints (threadId id) = conversations name
  unused : ∀ id, (∀ name, (id, name) ∉ entries state.world.database) →
    state.checkpoints (threadId id) = none
  unnamed : ∀ name, (∀ id, (id, name) ∉ entries state.world.database) →
    conversations name = none

namespace Told

variable {conversations : PyStr → Option History} {state : Machine ι History}

/-- The store the processes leave. -/
def store (told : Told names conversations state) : LocalStore History :=
  ⟨state.world.database, state.checkpoints, told.unused⟩

omit [DecidableEq ι] in
theorem store_conversation (told : Told names conversations state) :
    told.store.conversation = conversations := by
  funext name
  by_cases named : ∃ id, (id, name) ∈ entries state.world.database
  · obtain ⟨id, present⟩ := named
    rw [told.store.conversation_of_mem present]
    exact told.kept id name present
  · rw [not_exists] at named
    rw [told.store.conversation_of_not_mem named]
    exact (told.unnamed name named).symm

omit [DecidableEq ι] in
theorem congr (told : Told names conversations state) {next : Machine ι History}
    (same : next.world = state.world) (kept : next.checkpoints = state.checkpoints) :
    Told names conversations next := by
  refine ⟨same ▸ told.sound, ?_, ?_, ?_⟩
  · rw [same, kept]
    exact told.kept
  · rw [same, kept]
    exact told.unused
  · rw [same]
    exact told.unnamed

/-- **An identity that is given out starts without a conversation.** -/
theorem step (told : Told names conversations state) {next : Machine ι History}
    {turn : ι × Timestamp} (moved : next.world = state.world.step names turn)
    (same : next.checkpoints = state.checkpoints) : Told names conversations next := by
  have sound : Sound names next.world := moved ▸ told.sound.step turn
  rcases entries_step told.sound turn with kept | ⟨⟨id, name⟩, added⟩
  · rw [← moved] at kept
    exact ⟨sound, by rw [kept, same]; exact told.kept, by rw [kept, same]; exact told.unused,
      by rw [kept]; exact told.unnamed⟩
  · rw [← moved] at added
    have present : (id, name) ∈ entries next.world.database := added ▸ Set.mem_insert _ _
    have older {entry : ℕ × PyStr} (member : entry ∈ entries state.world.database) :
        entry ∈ entries next.world.database := added ▸ Set.mem_insert_of_mem _ member
    refine ⟨sound, fun id' name' member => ?_, fun id' absent => ?_, fun name' absent => ?_⟩
    · rw [same]
      by_cases before : (id', name') ∈ entries state.world.database
      · exact told.kept id' name' before
      · rw [added] at member
        obtain ⟨rfl, rfl⟩ := Prod.mk.inj (member.resolve_right before)
        -- neither the identity nor the name was there
        have noOther : ∀ other, (id', other) ∉ entries state.world.database := fun other there =>
          before (name_eq_of_mem_entries (older there) present ▸ there)
        have noElse : ∀ other, (other, name') ∉ entries state.world.database := fun other there =>
          before (id_eq_of_mem_entries (older there) present ▸ there)
        rw [told.unused id' noOther, told.unnamed name' noElse]
    · rw [same]
      exact told.unused id' fun name' there => absent name' (older there)
    · exact told.unnamed name' fun id' there => absent id' (older there)

omit [DecidableEq ι] in
/-- A process stores the conversation of its name. -/
theorem put (told : Told names conversations state) {next : Machine ι History} {id : ℕ}
    {name : PyStr} (present : (id, name) ∈ entries state.world.database) {history : History}
    (same : next.world = state.world)
    (stored : next.checkpoints =
      Function.update state.checkpoints (threadId id) (some history)) :
    Told names (Function.update conversations name (some history)) next := by
  refine ⟨same ▸ told.sound, fun id' name' member => ?_, fun id' absent => ?_,
    fun name' absent => ?_⟩
  · rw [same] at member
    rw [stored]
    by_cases mine : id' = id
    · subst mine
      obtain rfl : name' = name := name_eq_of_mem_entries member present
      rw [Function.update_self, Function.update_self]
    · have other : name' ≠ name := fun here => mine (id_eq_of_mem_entries (here ▸ member) present)
      have elsewhere : threadId id' ≠ threadId id := fun here => mine (threadId_eq_iff.mp here)
      rw [Function.update_of_ne elsewhere, Function.update_of_ne other]
      exact told.kept id' name' member
  · rw [same] at absent
    have elsewhere : threadId id' ≠ threadId id := by
      intro here
      obtain rfl := threadId_eq_iff.mp here
      exact absent name present
    rw [stored, Function.update_of_ne elsewhere]
    exact told.unused id' absent
  · rw [same] at absent
    have other : name' ≠ name := by
      rintro rfl
      exact absent id present
    rw [Function.update_of_ne other]
    exact told.unnamed name' absent

end Told

/-- What a turn stores. A store waits while the file is being written. -/
def storedIn (pool : Pool ι (Step History) (Step.Answer History Reply) Ending (Machine ι History))
    (i : ι) : Option History :=
  match pool.threads i, pool.state.world.writer with
  | .call (.putCheckpoint _ history) _, none => some history
  | _, _ => none

/-- What a process stores is the conversation of its name. -/
def tell (names : ι → PyStr) (conversations : PyStr → Option History)
    (pool : Pool ι (Step History) (Step.Answer History Reply) Ending (Machine ι History))
    (i : ι) : PyStr → Option History :=
  match storedIn pool i with
  | none => conversations
  | some history => Function.update conversations (names i) (some history)

/-- The conversations after some turns. -/
def toldAfter (names : ι → PyStr) (conversations : PyStr → Option History) :
    List (ι × Moment Reply) →
    Pool ι (Step History) (Step.Answer History Reply) Ending (Machine ι History) →
    PyStr → Option History
  | [], _ => conversations
  | turn :: turns, pool =>
      toldAfter names (tell names conversations pool turn.1) turns
        (pool.advance (machine names) turn)

section Turn

variable {pool : Pool ι (Step History) (Step.Answer History Reply) Ending (Machine ι History)}
  {conversations : PyStr → Option History}

omit [DecidableEq ι] in
theorem tell_of_none {i : ι} (silent : storedIn pool i = none) :
    tell names conversations pool i = conversations := by
  simp only [tell, silent]

omit [DecidableEq ι] in
theorem tell_of_some {i : ι} {history : History} (stored : storedIn pool i = some history) :
    tell names conversations pool i =
      Function.update conversations (names i) (some history) := by
  simp only [tell, stored]

/-- A name of no process keeps its conversation. -/
theorem toldAfter_of_ne {name : PyStr} (absent : ∀ i, names i ≠ name)
    (turns : List (ι × Moment Reply))
    (pool : Pool ι (Step History) (Step.Answer History Reply) Ending (Machine ι History)) :
    toldAfter names conversations turns pool name = conversations name := by
  induction turns generalizing pool conversations with
  | nil => rfl
  | cons turn turns ih =>
      rw [toldAfter, ih]
      cases stored : storedIn pool turn.1 with
      | none => rw [tell_of_none stored]
      | some history =>
          rw [tell_of_some stored]
          exact Function.update_of_ne (absent turn.1).symm _ _

/-- **A turn keeps the conversations.** -/
theorem told_advance {post : ι → Ending → Set ℕ → Prop}
    (informed : pool.Informed (givenIds names) post)
    (told : Told names conversations pool.state) (turn : ι × Moment Reply) :
    Told names (tell names conversations pool turn.1)
      (pool.advance (machine names) turn).state := by
  cases moved : pool.threads turn.1 with
  | ret ending =>
      have silent : storedIn pool turn.1 = none := by simp only [storedIn, moved]
      rw [tell_of_none silent, Pool.advance_ret moved]
      exact told
  | call step next =>
      rw [Pool.advance_state moved]
      by_cases puts : ∃ thread_id history, step = .putCheckpoint thread_id history
      · obtain ⟨thread_id, history, rfl⟩ := puts
        cases locked : pool.state.world.writer with
        | some j =>
            have silent : storedIn pool turn.1 = none := by simp only [storedIn, moved, locked]
            have waits : (machine names turn.1 turn.2 pool.state
                (.putCheckpoint thread_id history)).2 = pool.state := by
              simp only [machine, locked]
            rw [tell_of_none silent, waits]
            exact told
        | none =>
            have stored : storedIn pool turn.1 = some history := by
              simp only [storedIn, moved, locked]
            obtain ⟨known, holds, within⟩ := informed.threads turn.1
            rw [moved] at within
            obtain ⟨id, given, rfl⟩ := within.1
            rw [tell_of_some stored]
            refine told.put (holds id given) ?_ ?_
            · simp only [machine, locked]
            · simp only [machine, locked]
      · have other : ∀ thread_id history, step ≠ .putCheckpoint thread_id history :=
          fun thread_id history same => puts ⟨thread_id, history, same⟩
        have silent : storedIn pool turn.1 = none := by
          simp only [storedIn, moved]
          cases step with
          | putCheckpoint thread_id history => exact absurd rfl (other thread_id history)
          | _ => rfl
        rw [tell_of_none silent]
        have kept : (machine names turn.1 turn.2 pool.state step).2.checkpoints =
            pool.state.checkpoints := machine_checkpoints turn.1 turn.2 pool.state other
        have moves : (machine names turn.1 turn.2 pool.state step).2.world = pool.state.world ∨
            ∃ now, (machine names turn.1 turn.2 pool.state step).2.world =
              pool.state.world.step names (turn.1, now) :=
          machine_world turn.1 turn.2 pool.state step
        rcases moves with same | ⟨now, same⟩
        · exact told.congr same kept
        · exact told.step same kept

/-- **A run keeps the conversations.** -/
theorem told_execute {post : ι → Ending → Set ℕ → Prop}
    (informed : pool.Informed (givenIds names) post)
    (told : Told names conversations pool.state) (turns : List (ι × Moment Reply)) :
    Told names (toldAfter names conversations turns pool)
      (Turns.execute (Pool.advance (machine names)) pool turns).state := by
  induction turns generalizing pool conversations with
  | nil => exact told
  | cons turn turns ih =>
      rw [Turns.execute_cons]
      exact ih (informed.advance turn) (told_advance informed told turn)

end Turn

omit [DecidableEq ι] in
theorem told_processes (agent : CliAgent History Reply) (sqlite_path : PyStr)
    (commands : ι → Args × List Input) (store : LocalStore History) :
    Told (sessionNames commands) store.conversation
      (processes agent sqlite_path commands store.file store.checkpoints).state where
  sound := sound_opened _ _
  kept _ _ present := (store.conversation_of_mem present).symm
  unused := store.unused
  unnamed _ absent := store.conversation_of_not_mem absent

theorem informed_processes (agent : CliAgent History Reply) (sqlite_path : PyStr)
    (commands : ι → Args × List Input) (store : LocalStore History) :
    (processes agent sqlite_path commands store.file store.checkpoints).Informed
      (givenIds (sessionNames commands)) fun _ _ _ => True :=
  ⟨sound_opened _ _, fun _ => ⟨∅, fun _ none => none.elim, onKnownThread_main⟩⟩

/-- **A name has one conversation.** In every run of any number of processes an agent that loads
its checkpoint is given what was last stored for the session of its name, by whichever process,
or what the store had for that name, if nothing was. The run leaves a store, and that has these
conversations; those of names no process was given are as they were. -/
theorem conversations_by_name (agent : CliAgent History Reply) (sqlite_path : PyStr)
    (commands : ι → Args × List Input) (store : LocalStore History)
    (turns : List (ι × Moment Reply)) :
    let names := sessionNames commands
    let start := processes agent sqlite_path commands store.file store.checkpoints
    let pool := Turns.execute (Pool.advance (machine names)) start turns
    let conversations := toldAfter names store.conversation turns start
    (∀ (turn : ι × Moment Reply) thread_id next,
      pool.threads turn.1 = .call (.getCheckpoint thread_id) next →
        (pool.advance (machine names) turn).threads turn.1 =
          next (conversations (names turn.1))) ∧
    (∃ left : LocalStore History, left.file = pool.state.world.database ∧
      left.checkpoints = pool.state.checkpoints ∧ left.conversation = conversations) ∧
    ∀ name, (∀ i, names i ≠ name) → conversations name = store.conversation name := by
  intro names start pool conversations
  have begins := informed_processes agent sqlite_path commands store
  have told : Told names conversations pool.state :=
    told_execute begins (told_processes agent sqlite_path commands store) turns
  refine ⟨fun turn thread_id next loading => ?_, ?_, fun name absent => ?_⟩
  · obtain ⟨known, holds, within⟩ := (Pool.informed_execute begins turns).threads turn.1
    rw [loading] at within
    obtain ⟨id, given, rfl⟩ := within.1
    have answered : (machine names turn.1 turn.2 pool.state (.getCheckpoint (threadId id))).1 =
        some (conversations (names turn.1)) :=
      congrArg some (told.kept id (names turn.1) (holds id given))
    rw [Pool.advance_answered loading answered, Function.update_self]
  · exact ⟨told.store, rfl, rfl, told.store_conversation⟩
  · exact toldAfter_of_ne absent turns start

end Runs

end CarqnaAgent.Cli
