import Mathlib
import CarqnaAgent.Sessions.Ledger

/-!
# What the tables say of the past

Every row is settled by the calls of the run. A session was last accessed when its user last
created or touched it. A profile is the one of the call that introduced the user, which no later
call changes; the user was last seen at the last call that tracked the user.

**The times and the profiles of the tables are those of the history** (`tables_of_history`).
-/

set_option autoImplicit false

namespace CarqnaAgent.Sessions

open Foundations

/-! ## Histories -/

/-- A call that accesses a session of the user: its creation, or a touch. -/
def access (user_id : PyStr) (id : ℕ) : (Timestamptz × Call) × Answer → Option Timestamptz
  | ((now, .touch other session_id), _) =>
      if other = user_id ∧ session_id = id then some now else none
  | ((now, .create other _), .created (.ok (some session))) =>
      if other = user_id ∧ session.id = id then some now else none
  | _ => none

/-- A call that tracks the user. -/
def tracking (user_id : PyStr) : Timestamptz × Call → Option Timestamptz
  | (now, .track _ other) => if other = user_id then some now else none
  | _ => none

/-- The ledger of a new database. -/
def Ledger.empty : Ledger := ⟨fun _ => none, [], 0, 0⟩

/-- The calls of a run, each with its answer. -/
def Ledger.history (turns : List (Timestamptz × Call)) : List ((Timestamptz × Call) × Answer) :=
  turns.zip (Ledger.empty.runCalls turns).1

/-- The ledger after a run. -/
def Ledger.after (turns : List (Timestamptz × Call)) : Ledger := (Ledger.empty.runCalls turns).2

section Concat

variable (turns : List (Timestamptz × Call)) (turn : Timestamptz × Call)

theorem Ledger.after_concat :
    Ledger.after (turns ++ [turn]) = ((Ledger.after turns).perform turn.1 turn.2).2 := by
  rw [Ledger.after, Ledger.runCalls, Refinement.run_append]
  rfl

theorem Ledger.history_concat :
    Ledger.history (turns ++ [turn]) =
      Ledger.history turns ++ [(turn, ((Ledger.after turns).perform turn.1 turn.2).1)] := by
  rw [Ledger.history, Ledger.runCalls, Refinement.run_append, List.zip_append]
  · rfl
  · exact (Refinement.run_length _ _).symm

end Concat

/-- The last of the selected values. -/
theorem getLast?_filterMap_concat {α β : Type} (select : α → Option β) (earlier : List α)
    (last : α) : ((earlier ++ [last]).filterMap select).getLast? =
      (select last).or (earlier.filterMap select).getLast? := by
  rw [List.filterMap_append]
  cases selected : select last with
  | none => simp [selected]
  | some value => simp [selected]

/-! ## Sessions -/

/-- The sessions of the ledger, as the history has them. -/
structure Accessed (history : List ((Timestamptz × Call) × Answer)) (ledger : Ledger) : Prop where
  ids_le : ∀ entry ∈ ledger.entries, entry.session.id ≤ ledger.sessionsDrawn
  storable : ∀ entry ∈ ledger.entries, Storable entry.user_id
  stamped : ∀ entry ∈ ledger.entries,
    (history.filterMap (access entry.user_id entry.session.id)).getLast? =
      some entry.session.access_ts

section Sessions

variable {history : List ((Timestamptz × Call) × Answer)} {ledger : Ledger}

/-- What accesses no session leaves the times. -/
theorem Accessed.quiet (accessed : Accessed history ledger) {last : (Timestamptz × Call) × Answer}
    {after : Ledger} (quiet : ∀ user_id, ∀ id ≤ ledger.sessionsDrawn, access user_id id last = none)
    (entries : after.entries = ledger.entries)
    (drawn : ledger.sessionsDrawn ≤ after.sessionsDrawn) :
    Accessed (history ++ [last]) after where
  ids_le entry member := (accessed.ids_le entry (entries ▸ member)).trans drawn
  storable entry member := accessed.storable entry (entries ▸ member)
  stamped entry member := by
    have known := entries ▸ member
    rw [getLast?_filterMap_concat, quiet entry.user_id _ (accessed.ids_le entry known),
      Option.none_or]
    exact accessed.stamped entry known

/-- A profile changes no session. -/
theorem track_entries (now : Timestamptz) (userinfo : Userinfo) (user_id : PyStr)
    (ledger : Ledger) : (ledger.track now userinfo user_id).entries = ledger.entries ∧
      (ledger.track now userinfo user_id).sessionsDrawn = ledger.sessionsDrawn := by
  unfold Ledger.track
  split
  · split
    · exact ⟨rfl, rfl⟩
    · cases userinfo with
      | none => exact ⟨rfl, rfl⟩
      | some given =>
          simp only [Option.elim_some, Ledger.introduce]
          split
          · exact ⟨rfl, rfl⟩
          · exact ⟨rfl, rfl⟩
  · exact ⟨rfl, rfl⟩

/-- What a creation does: nothing to the sessions, or a further one of a storable user. -/
theorem create_cases (now : Timestamptz) (user_id session_name : PyStr) (ledger : Ledger) :
    ((∀ session, (ledger.create now user_id session_name).1 ≠ .ok (some session)) ∧
      (ledger.create now user_id session_name).2.entries = ledger.entries ∧
      ledger.sessionsDrawn ≤ (ledger.create now user_id session_name).2.sessionsDrawn) ∨
    Storable user_id ∧
      let session : SessionRow := ⟨ledger.sessionsDrawn + 1, session_name, now⟩
      (ledger.create now user_id session_name).1 = .ok (some session) ∧
      (ledger.create now user_id session_name).2.entries =
        ledger.entries ++ [⟨user_id, session⟩] ∧
      (ledger.create now user_id session_name).2.sessionsDrawn = ledger.sessionsDrawn + 1 := by
  unfold Ledger.create Ledger.add
  split
  · exact .inl ⟨nofun, rfl, le_rfl⟩
  · split
    · exact .inl ⟨nofun, rfl, le_rfl⟩
    · split
      · exact .inl ⟨nofun, rfl, le_rfl⟩
      · rename_i storable
        split_ifs
        · exact .inl ⟨nofun, rfl, le_rfl⟩
        · exact .inl ⟨nofun, rfl, Nat.le_succ _⟩
        · exact .inr ⟨storable, rfl, rfl, rfl⟩
        · exact .inl ⟨nofun, rfl, le_rfl⟩

/-- A touch of the session is its last access, and a touch of another is none of it. -/
theorem Accessed.touch (accessed : Accessed history ledger) (now : Timestamptz)
    (user_id : PyStr) (session_id : ℤ) (answer : Answer) :
    Accessed (history ++ [((now, .touch user_id session_id), answer)])
      (ledger.touch now user_id session_id) := by
  by_cases storable : Storable user_id
  · rw [Ledger.touch, if_pos storable]
    have old : ∀ entry ∈ (ledger.touch now user_id session_id).entries, ∃ before ∈ ledger.entries,
        entry = if before.user_id = user_id ∧ (before.session.id : ℤ) = session_id then
          { before with session := { before.session with access_ts := now } } else before := by
      intro entry member
      rw [Ledger.touch, if_pos storable] at member
      obtain ⟨before, known, rfl⟩ := List.mem_map.mp member
      exact ⟨before, known, rfl⟩
    rw [Ledger.touch, if_pos storable] at old
    constructor
    · intro entry member
      obtain ⟨before, known, rfl⟩ := old entry member
      split
      · exact accessed.ids_le before known
      · exact accessed.ids_le before known
    · intro entry member
      obtain ⟨before, known, rfl⟩ := old entry member
      split
      · exact accessed.storable before known
      · exact accessed.storable before known
    · intro entry member
      obtain ⟨before, known, rfl⟩ := old entry member
      rw [getLast?_filterMap_concat]
      split
      · rename_i mine
        simp [access, mine.1, mine.2]
      · rename_i other
        have silent : access before.user_id before.session.id
            ((now, .touch user_id session_id), answer) = none :=
          if_neg fun both => other ⟨both.1.symm, both.2.symm⟩
        rw [silent, Option.none_or]
        exact accessed.stamped before known
  · rw [Ledger.touch, if_neg storable]
    refine ⟨accessed.ids_le, accessed.storable, fun entry member => ?_⟩
    have apart : ¬ (user_id = entry.user_id ∧ session_id = entry.session.id) :=
      fun both => storable (both.1 ▸ accessed.storable entry member)
    have silent : access entry.user_id entry.session.id
        ((now, .touch user_id session_id), answer) = none := if_neg apart
    rw [getLast?_filterMap_concat, silent, Option.none_or]
    exact accessed.stamped entry member

/-- A creation that is refused accesses no session. -/
theorem access_of_refused {result : Except PyException (Option SessionRow)}
    (refused : ∀ session, result ≠ .ok (some session)) {now : Timestamptz}
    {user_id session_name other : PyStr} {id : ℕ} :
    access other id ((now, .create user_id session_name), .created result) = none := by
  cases result with
  | error exception => rfl
  | ok created =>
      cases created with
      | none => rfl
      | some session => exact absurd rfl (refused session)

/-- A new session is last accessed by its creation. -/
theorem Accessed.create (accessed : Accessed history ledger) (now : Timestamptz)
    (user_id session_name : PyStr) :
    Accessed (history ++ [((now, .create user_id session_name),
      .created (ledger.create now user_id session_name).1)])
      (ledger.create now user_id session_name).2 := by
  rcases create_cases now user_id session_name ledger with
    ⟨refused, entries, drawn⟩ | ⟨storable, answer, entries, drawn⟩
  · exact accessed.quiet (fun other id _ => access_of_refused refused) entries drawn
  · rw [answer]
    constructor
    · intro entry member
      rw [entries] at member
      rw [drawn]
      rcases List.mem_append.mp member with known | new
      · exact (accessed.ids_le entry known).trans (Nat.le_succ _)
      · rw [List.mem_singleton.mp new]
    · intro entry member
      rw [entries] at member
      rcases List.mem_append.mp member with known | new
      · exact accessed.storable entry known
      · rw [List.mem_singleton.mp new]
        exact storable
    · intro entry member
      rw [entries] at member
      rw [getLast?_filterMap_concat]
      rcases List.mem_append.mp member with known | new
      · have older := accessed.ids_le entry known
        have silent : access entry.user_id entry.session.id ((now, .create user_id session_name),
            .created (.ok (some ⟨ledger.sessionsDrawn + 1, session_name, now⟩))) = none :=
          if_neg fun both => by have same : ledger.sessionsDrawn + 1 = _ := both.2; omega
        rw [silent, Option.none_or]
        exact accessed.stamped entry known
      · rw [List.mem_singleton.mp new]
        simp [access]

/-- **Step.** -/
theorem Accessed.step (accessed : Accessed history ledger) (now : Timestamptz) (call : Call) :
    Accessed (history ++ [((now, call), (ledger.perform now call).1)])
      (ledger.perform now call).2 := by
  cases call with
  | track userinfo user_id =>
      obtain ⟨entries, drawn⟩ := track_entries now userinfo user_id ledger
      exact accessed.quiet (fun _ _ _ => rfl) entries drawn.ge
  | list order user_id => exact accessed.quiet (fun _ _ _ => rfl) rfl le_rfl
  | create user_id session_name => exact accessed.create now user_id session_name
  | touch user_id session_id => exact accessed.touch now user_id session_id _

/-- **Every run.** -/
theorem accessed_after (turns : List (Timestamptz × Call)) :
    Accessed (Ledger.history turns) (Ledger.after turns) := by
  induction turns using List.reverseRecOn with
  | nil =>
      refine ⟨fun entry member => ?_, fun entry member => ?_, fun entry member => ?_⟩
      · cases member
      · cases member
      · cases member
  | append_singleton turns turn ih =>
      rw [Ledger.history_concat, Ledger.after_concat]
      exact ih.step turn.1 turn.2

end Sessions

/-! ## Profiles -/

/-- A call of the run has introduced the user with the profile. -/
def Introduced (turns : List (Timestamptz × Call)) (user_id : PyStr) (profile : Profile) : Prop :=
  ∃ earlier later, turns = earlier ++
      (profile.first_seen_at, .track (some (profile.email, profile.name)) user_id) :: later ∧
    (Ledger.after earlier).profiles user_id = none

/-- The profile of the user, as the history has it. -/
structure Remembered (turns : List (Timestamptz × Call)) (user_id : PyStr) (profile : Profile) :
    Prop where
  storable : Storable user_id
  introduced : Introduced turns user_id profile
  seen : (turns.filterMap (tracking user_id)).getLast? = some profile.last_seen_at

section Profiles

variable {turns : List (Timestamptz × Call)} {user_id : PyStr} {profile : Profile}
  {turn : Timestamptz × Call}

theorem Introduced.concat (introduced : Introduced turns user_id profile) :
    Introduced (turns ++ [turn]) user_id profile := by
  obtain ⟨earlier, later, rfl, unknown⟩ := introduced
  exact ⟨earlier, later ++ [turn], by simp, unknown⟩

/-- A call that does not track the user leaves what is remembered of the user. -/
theorem Remembered.quiet (remembered : Remembered turns user_id profile)
    (quiet : tracking user_id turn = none) : Remembered (turns ++ [turn]) user_id profile where
  storable := remembered.storable
  introduced := remembered.introduced.concat
  seen := by rw [getLast?_filterMap_concat, quiet, Option.none_or, remembered.seen]

theorem tracking_self (now : Timestamptz) (userinfo : Userinfo) (user_id : PyStr) :
    tracking user_id (now, .track userinfo user_id) = some now := if_pos rfl

theorem tracking_of_ne {other : PyStr} (apart : other ≠ user_id) (now : Timestamptz)
    (userinfo : Userinfo) : tracking user_id (now, .track userinfo other) = none := if_neg apart

/-- What tracking a user does to the profiles. -/
theorem track_cases (now : Timestamptz) (userinfo : Userinfo) (user_id : PyStr) (ledger : Ledger) :
    ((ledger.track now userinfo user_id).profiles = ledger.profiles ∧
      (Storable user_id → ledger.profiles user_id = none)) ∨
    (∃ profile, Storable user_id ∧ ledger.profiles user_id = some profile ∧
      (ledger.track now userinfo user_id).profiles =
        Function.update ledger.profiles user_id (some { profile with last_seen_at := now })) ∨
    ∃ email name, Storable user_id ∧ ledger.profiles user_id = none ∧
      userinfo = some (email, name) ∧
      (ledger.track now userinfo user_id).profiles =
        Function.update ledger.profiles user_id (some ⟨email, name, now, now⟩) := by
  unfold Ledger.track
  split
  · rename_i storable
    split
    · rename_i profile known
      exact .inr (.inl ⟨profile, storable, known, rfl⟩)
    · rename_i unknown
      cases userinfo with
      | none => exact .inl ⟨rfl, fun _ => unknown⟩
      | some given =>
          simp only [Option.elim_some, Ledger.introduce]
          split
          · exact .inr (.inr ⟨given.1, given.2, storable, unknown, rfl, rfl⟩)
          · exact .inl ⟨rfl, fun _ => unknown⟩
  · rename_i refused
    exact .inl ⟨rfl, fun storable => absurd storable refused⟩

/-- A creation changes no profile. -/
theorem create_profiles (now : Timestamptz) (user_id session_name : PyStr) (ledger : Ledger) :
    (ledger.create now user_id session_name).2.profiles = ledger.profiles := by
  unfold Ledger.create Ledger.add
  split_ifs
  · rfl
  all_goals
    cases checkText session_name with
    | error exception => rfl
    | ok _ =>
        cases checkText user_id with
        | error exception => rfl
        | ok _ => rfl

/-- **The profiles of every run are those of its history.** -/
theorem remembered_after (turns : List (Timestamptz × Call)) :
    ∀ user_id profile, (Ledger.after turns).profiles user_id = some profile →
      Remembered turns user_id profile := by
  induction turns using List.reverseRecOn with
  | nil =>
      intro user_id profile known
      cases known
  | append_singleton turns turn ih =>
      obtain ⟨now, call⟩ := turn
      intro user_id profile known
      rw [Ledger.after_concat] at known
      cases call with
      | list order other => exact (ih user_id profile known).quiet rfl
      | touch other session_id =>
          refine (ih user_id profile ?_).quiet rfl
          simp only [Ledger.perform, Ledger.touch] at known
          split at known
          · exact known
          · exact known
      | create other session_name =>
          refine (ih user_id profile ?_).quiet rfl
          simp only [Ledger.perform] at known
          rwa [create_profiles] at known
      | track userinfo other =>
          simp only [Ledger.perform] at known
          rcases track_cases now userinfo other (Ledger.after turns) with
            ⟨same, unknown⟩ | ⟨before, storable, there, updated⟩ |
            ⟨email, name, storable, absent, rfl, updated⟩
          · rw [same] at known
            have remembered := ih user_id profile known
            have apart : other ≠ user_id := by
              rintro rfl
              exact Option.some_ne_none profile (known.symm.trans (unknown remembered.storable))
            exact remembered.quiet (tracking_of_ne apart now userinfo)
          · rw [updated] at known
            by_cases here : other = user_id
            · subst here
              rw [Function.update_self, Option.some.injEq] at known
              subst known
              have remembered := ih other before there
              refine ⟨storable, remembered.introduced.concat, ?_⟩
              rw [getLast?_filterMap_concat, tracking_self, Option.some_or]
            · rw [Function.update_of_ne (Ne.symm here)] at known
              exact (ih user_id profile known).quiet (tracking_of_ne here now userinfo)
          · rw [updated] at known
            by_cases here : other = user_id
            · subst here
              rw [Function.update_self, Option.some.injEq] at known
              subst known
              refine ⟨storable, ⟨turns, [], rfl, absent⟩, ?_⟩
              rw [getLast?_filterMap_concat, tracking_self, Option.some_or]
            · rw [Function.update_of_ne (Ne.symm here)] at known
              exact (ih user_id profile known).quiet (tracking_of_ne here now _)

end Profiles

/-! ## Other users -/

/-- The user of a call. -/
def Call.user_id : Call → PyStr
  | .track _ user_id => user_id
  | .list _ user_id => user_id
  | .create user_id _ => user_id
  | .touch user_id _ => user_id

/-- **A call changes nothing of another user.** -/
theorem perform_other (now : Timestamptz) (ledger : Ledger) {call : Call} {user_id : PyStr}
    (other : call.user_id ≠ user_id) :
    (ledger.perform now call).2.profiles user_id = ledger.profiles user_id ∧
      (ledger.perform now call).2.sessionsOf user_id = ledger.sessionsOf user_id := by
  cases call with
  | track userinfo caller =>
      refine ⟨?_, ?_⟩
      · rcases track_cases now userinfo caller ledger with
          ⟨same, -⟩ | ⟨_, -, -, updated⟩ | ⟨_, _, -, -, -, updated⟩
        · exact congrFun same user_id
        · exact (congrFun updated user_id).trans (Function.update_of_ne (Ne.symm other) _ _)
        · exact (congrFun updated user_id).trans (Function.update_of_ne (Ne.symm other) _ _)
      · simp only [Ledger.perform, Ledger.sessionsOf, (track_entries now userinfo caller ledger).1]
  | list order caller => exact ⟨rfl, rfl⟩
  | create caller session_name =>
      refine ⟨congrFun (create_profiles now caller session_name ledger) user_id, ?_⟩
      have foreign : ¬ caller = user_id := other
      rcases create_cases now caller session_name ledger with
        ⟨-, entries, -⟩ | ⟨-, -, entries, -⟩
      · simp only [Ledger.perform, Ledger.sessionsOf, entries]
      · simp [Ledger.perform, Ledger.sessionsOf, entries, foreign]
  | touch caller session_id =>
      have foreign : ¬ caller = user_id := other
      simp only [Ledger.perform, Ledger.touch]
      split
      · refine ⟨rfl, ?_⟩
        simp only [Ledger.sessionsOf, List.filter_map, List.map_map]
        have kept : ∀ entry : Entry,
            (if entry.user_id = caller ∧ (entry.session.id : ℤ) = session_id then
              { entry with session := { entry.session with access_ts := now } } else entry).user_id =
              entry.user_id := by
          intro entry
          split
          · rfl
          · rfl
        simp only [Function.comp_def, kept]
        refine List.map_congr_left fun entry member => ?_
        have mine : entry.user_id = user_id := of_decide_eq_true (List.mem_filter.mp member).2
        rw [if_neg fun both => foreign (both.1.symm.trans mine)]
      · exact ⟨rfl, rfl⟩

/-! ## Sessions stay -/

/-- **No call takes a session away**, or gives it to another user, id or name. -/
theorem perform_keeps_entries (now : Timestamptz) (ledger : Ledger) (call : Call) {entry : Entry}
    (member : entry ∈ ledger.entries) :
    ∃ kept ∈ (ledger.perform now call).2.entries, kept.user_id = entry.user_id ∧
      kept.session.id = entry.session.id ∧
      kept.session.session_name = entry.session.session_name := by
  cases call with
  | track userinfo caller =>
      exact ⟨entry, (track_entries now userinfo caller ledger).1 ▸ member, rfl, rfl, rfl⟩
  | list order caller => exact ⟨entry, member, rfl, rfl, rfl⟩
  | create caller session_name =>
      refine ⟨entry, ?_, rfl, rfl, rfl⟩
      rcases create_cases now caller session_name ledger with
        ⟨-, entries, -⟩ | ⟨-, -, entries, -⟩
      · exact entries ▸ member
      · exact entries ▸ List.mem_append_left _ member
  | touch caller session_id =>
      simp only [Ledger.perform, Ledger.touch]
      split
      · refine ⟨_, List.mem_map_of_mem member, ?_⟩
        split
        · exact ⟨rfl, rfl, rfl⟩
        · exact ⟨rfl, rfl, rfl⟩
      · exact ⟨entry, member, rfl, rfl, rfl⟩

/-! ## The tables -/

/-- The ledger of the tables of a run is that of the run. -/
theorem ledger_runCalls (turns : List (Timestamptz × Call)) :
    (runCalls turns .empty).2.ledger = Ledger.after turns ∧
      turns.zip (runCalls turns .empty).1 = Ledger.history turns := by
  obtain ⟨answers, final⟩ := store_refines_ledger turns .empty
  have new : Tables.ledger .empty = Ledger.empty := rfl
  rw [new] at answers final
  exact ⟨final, congrArg turns.zip answers⟩

/-- **The tables are settled by the history.** In every run from a new database, a session was last
accessed by the last call that created or touched it as its user. A user was introduced by a call
that gave the profile the row has, when the user had no row before; that call settles
`first_seen_at`, and the last call that tracked the user settles `last_seen_at`. -/
theorem tables_of_history (turns : List (Timestamptz × Call)) :
    let history := turns.zip (runCalls turns .empty).1
    let tables := (runCalls turns .empty).2
    (∀ user_id, ∀ session ∈ tables.sessionsOf user_id,
      (history.filterMap (access user_id session.id)).getLast? = some session.access_ts) ∧
    ∀ row ∈ tables.user_registry.rows,
      (∃ earlier later, turns = earlier ++
          (row.first_seen_at, .track (some (row.email, row.name)) row.user_id) :: later ∧
        ¬ Registered (runCalls earlier .empty).2 row.user_id) ∧
      (turns.filterMap (tracking row.user_id)).getLast? = some row.last_seen_at := by
  intro history tables
  obtain ⟨final, answers⟩ := ledger_runCalls turns
  constructor
  · intro user_id session member
    rw [← ledger_sessionsOf, final] at member
    obtain ⟨entry, known, rfl⟩ := List.mem_map.mp member
    obtain ⟨inside, mine⟩ := List.mem_filter.mp known
    obtain rfl := of_decide_eq_true mine
    have stamped := (accessed_after turns).stamped entry inside
    rwa [← answers] at stamped
  · intro row member
    have found : tables.user_registry.lookup row.user_id = some row :=
      Table.lookup_eq_some_iff.mpr ⟨member, rfl⟩
    have known : (Ledger.after turns).profiles row.user_id = some row.profile := by
      rw [← final]
      exact congrArg (Option.map UserRegistryRow.profile) found
    obtain ⟨-, ⟨earlier, later, split, unknown⟩, seen⟩ := remembered_after turns _ _ known
    refine ⟨⟨earlier, later, split, ?_⟩, seen⟩
    rw [← (ledger_runCalls earlier).1] at unknown
    rw [registered_iff_lookup]
    simpa [Tables.ledger] using unknown

end CarqnaAgent.Sessions
