import Mathlib
import CarqnaAgent.Foundations.SerialOrder
import CarqnaAgent.Storage.ConcurrentEdits
import CarqnaAgent.Storage.ConcurrentReads
import CarqnaAgent.Storage.Confinement

/-!
# Calls in the order of their ends

Any number of calls of the six operations at once, on any backends over one bucket. A call
changes the bucket with its last request, if at all; so it is the last request at which it
takes effect.

`read` and `write` have no other. **When no edit has its file changed between its download and its
upload, no ls its directory between its first page and its last, and no glob or grep the root
between its first request and its last, the calls are in effect one after the other, in the order
in which they return** (`calls_serializable`). So are any calls of which none uploads to a file
that another one edits, or to one in what another one lists (`apart_serializable`).
-/

set_option autoImplicit false

namespace CarqnaAgent.Storage

open Foundations

/-! ## Effects at the end -/

namespace S3Backend

variable (backend : S3Backend) (helpers : Helpers)

theorem write_once (filePath content : PyStr) : (backend.write filePath content).Once := by
  unfold write
  split
  · trivial
  · refine Program.once_bind (once_request _) fun answer => ?_
    split
    · trivial
    · trivial

theorem editBody_once (filePath oldString newString : PyStr) (replaceAll : Bool) (raw : Bytes) :
    (backend.editBody helpers filePath oldString newString replaceAll raw).Once := by
  unfold editBody
  split
  · trivial
  · refine Program.once_bind (once_request _) fun answer => ?_
    split
    · trivial
    · trivial

/-- An edit reads, and then sends one request more at most. -/
theorem edit_endsInEffect (filePath oldString newString : PyStr) (replaceAll : Bool) :
    (backend.edit helpers filePath oldString newString replaceAll).EndsInEffect (Reads []) := by
  refine ⟨.inl List.nil_prefix, fun answer => ?_⟩
  cases answer with
  | error error =>
      cases error with
      | clientError code text =>
          change Program.EndsInEffect _ (ite _ _ _)
          split
          · trivial
          · trivial
      | botoCoreError text => trivial
  | ok raw => exact (backend.editBody_once helpers filePath oldString newString replaceAll
      raw).endsInEffect

theorem reads_nil {root : PyStr} {request : StoreRequest} (reads : Reads root request) :
    Reads [] request := by
  cases request with
  | listObjectsV2 Prefix Delimiter token => exact List.nil_prefix
  | getObject Key => exact List.nil_prefix
  | putObject Key Body => exact reads.elim

/-- **An operation changes the bucket with its last request only.** -/
theorem perform_endsInEffect (operation : Operation) :
    (backend.perform helpers operation).EndsInEffect (Reads []) := by
  cases operation with
  | write filePath content =>
      exact (backend.write_once filePath content).endsInEffect.bind_ret _
  | edit filePath oldString newString replaceAll =>
      exact (backend.edit_endsInEffect helpers filePath oldString newString replaceAll).bind_ret _
  | _ =>
      refine Program.endsInEffect_of_uses (Program.uses_mono
        (backend.perform_reads helpers ?_ ?_) fun request => reads_nil)
      · simp
      · simp

end S3Backend

/-! ## What a call has read -/

/-- The part of the bucket that a call may read with several requests: a directory, or the root. -/
def Operation.scope (backend : S3Backend) : Operation → Option PyStr
  | .ls path => some (backend.dirKeyPrefix path)
  | .glob _ _ => some backend.root
  | .grep _ _ _ _ => some backend.root
  | _ => none

/-- What a call with several requests reads is the same in two buckets: the file of an `edit`, the
directory of an `ls`, the root for `glob` and `grep`. -/
def Operation.SameFor (backend : S3Backend) (first second : Bucket) (operation : Operation) :
    Prop :=
  match operation with
  | .edit filePath _ _ _ =>
      contentAt (backend.keyFor filePath) first = contentAt (backend.keyFor filePath) second
  | _ => ∀ scope ∈ operation.scope backend, SameUnder scope first second

theorem Operation.SameFor.under {backend : S3Backend} {first second : Bucket}
    {operation : Operation} (same : operation.SameFor backend first second) {root : PyStr}
    (scope : operation.scope backend = some root) : SameUnder root first second := by
  cases operation with
  | edit filePath oldString newString replaceAll => cases scope
  | _ => exact same root scope

/-- An operation with a scope reads in it. -/
theorem S3Backend.perform_scoped (backend : S3Backend) (helpers : Helpers) {operation : Operation}
    {root : PyStr} (scope : operation.scope backend = some root) :
    (backend.perform helpers operation).Uses (Reads root) := by
  cases operation with
  | ls path =>
      cases scope
      exact Program.uses_bind (backend.ls_reads path) fun _ => trivial
  | glob pattern path =>
      cases scope
      exact Program.uses_bind (backend.glob_reads helpers pattern path) fun _ => trivial
  | grep pattern path glob maxCount =>
      cases scope
      exact Program.uses_bind (backend.grep_reads helpers pattern path glob maxCount) fun _ => trivial
  | read filePath offset limit => cases scope
  | write filePath content => cases scope
  | edit filePath oldString newString replaceAll => cases scope

/-- An operation sends one request, or is an `edit`, or has a scope. -/
theorem S3Backend.perform_cases (backend : S3Backend) (helpers : Helpers) (operation : Operation) :
    (backend.perform helpers operation).Once ∨
      (∃ filePath oldString newString replaceAll,
        operation = .edit filePath oldString newString replaceAll) ∨
      ∃ root, operation.scope backend = some root := by
  cases operation with
  | read filePath offset limit =>
      exact .inl (backend.perform_read_once helpers filePath offset limit)
  | write filePath content =>
      exact .inl (Program.once_bind (backend.write_once filePath content) fun _ => trivial)
  | edit filePath oldString newString replaceAll => exact .inr (.inl ⟨_, _, _, _, rfl⟩)
  | _ => exact .inr (.inr ⟨_, rfl⟩)

/-- The key a call uploads to. -/
def Operation.target (backend : S3Backend) : Operation → Option PyStr
  | .write filePath _ => some (backend.keyFor filePath)
  | .edit filePath _ _ _ => some (backend.keyFor filePath)
  | _ => none

/-- A call with several requests reads what is under the key. -/
def Operation.Watches (backend : S3Backend) (operation : Operation) (Key : PyStr) : Prop :=
  match operation with
  | .edit filePath _ _ _ => Key = backend.keyFor filePath
  | _ => ∃ scope ∈ operation.scope backend, scope <+: Key

/-- A download gives the content. -/
theorem store_getObject_congr {Key : PyStr} {first second : Bucket}
    (same : contentAt Key first = contentAt Key second) (weather : Weather) :
    (store weather first (.getObject Key)).1 = (store weather second (.getObject Key)).1 := by
  simp only [store]
  cases weather.outage with
  | some error => rfl
  | none =>
      dsimp only
      by_cases nonempty : Key ≠ []
      · rw [contentAt, contentAt, dif_pos nonempty, dif_pos nonempty] at same
        rw [dif_pos nonempty, dif_pos nonempty]
        cases here : first.get? ⟨Key, nonempty⟩ with
        | none =>
            rw [here, Option.map_none, eq_comm, Option.map_eq_none_iff] at same
            rw [same]
        | some object =>
            rw [here, Option.map_some, eq_comm, Option.map_eq_some_iff] at same
            obtain ⟨other, there, body⟩ := same
            rw [there]
            exact congrArg Except.ok body.symm
      · rw [dif_neg nonempty, dif_neg nonempty]

/-- The request is about one key. -/
def OnKey (Key : PyStr) : StoreRequest → Prop
  | .listObjectsV2 _ _ _ => False
  | .getObject key => key = Key
  | .putObject key _ => key = Key

theorem S3Backend.edit_onKey (backend : S3Backend) (helpers : Helpers)
    (filePath oldString newString : PyStr) (replaceAll : Bool) :
    (backend.perform helpers (.edit filePath oldString newString replaceAll)).Uses
      (OnKey (backend.keyFor filePath)) := by
  refine Program.uses_bind ?_ fun _ => trivial
  rw [edit, uses_getObject]
  refine ⟨rfl, fun answer => ?_⟩
  split
  · split
    · trivial
    · trivial
  · trivial
  · unfold editBody
    split
    · trivial
    · rw [uses_putObject]
      refine ⟨rfl, fun answer => ?_⟩
      split
      · trivial
      · trivial

/-- A call uploads to its target at most. -/
theorem S3Backend.perform_targets (backend : S3Backend) (helpers : Helpers)
    (operation : Operation) :
    (backend.perform helpers operation).Uses fun request =>
      ∀ Key Body, request = .putObject Key Body → operation.target backend = some Key := by
  cases operation with
  | write filePath content =>
      refine Program.uses_bind ?_ fun _ => trivial
      unfold write
      split
      · trivial
      · rw [uses_putObject]
        refine ⟨fun Key Body same => ?_, fun answer => ?_⟩
        · cases same
          rfl
        · split
          · trivial
          · trivial
  | edit filePath oldString newString replaceAll =>
      refine Program.uses_mono
        (backend.edit_onKey helpers filePath oldString newString replaceAll) ?_
      rintro request onKey Key Body rfl
      exact congrArg some onKey.symm
  | _ =>
      refine Program.uses_mono (backend.perform_reads helpers ?_ ?_) ?_
      · simp
      · simp
      · rintro request reads Key Body rfl
        exact reads.elim

/-! ## Calls at once -/

section Calls

variable {ι : Type} (helpers : Helpers) (backends : ι → S3Backend) (operations : ι → Operation)
  (bucket : Bucket)

/-- Calls over one bucket, each on its own backend. -/
def together : Pool ι StoreRequest StoreRequest.Response (Except PyException OperationResult)
    Bucket where
  threads i := (backends i).perform helpers (operations i)
  state := bucket

theorem together_endsInEffect (i : ι) :
    ((together helpers backends operations bucket).threads i).EndsInEffect (Reads []) :=
  (backends i).perform_endsInEffect helpers (operations i)

theorem together_owned (i : ι) :
    ((together helpers backends operations bucket).threads i).Uses (OwnedBy (backends i).root) :=
  (backends i).perform_uses helpers (operations i)

/-- An edit is about the key of its file. -/
def EditsKey (i : ι) (request : StoreRequest) : Prop :=
  ∀ filePath oldString newString replaceAll,
    operations i = .edit filePath oldString newString replaceAll →
      OnKey ((backends i).keyFor filePath) request

theorem together_editsKey (i : ι) :
    ((together helpers backends operations bucket).threads i).Uses
      (EditsKey backends operations i) := by
  by_cases edits : ∃ filePath oldString newString replaceAll,
      operations i = .edit filePath oldString newString replaceAll
  · obtain ⟨filePath, oldString, newString, replaceAll, called⟩ := edits
    have uses := (backends i).edit_onKey helpers filePath oldString newString replaceAll
    rw [← called] at uses
    refine Program.uses_mono uses fun request onKey _ _ _ _ same => ?_
    rw [called] at same
    cases same
    exact onKey
  · refine Program.uses_mono (together_owned helpers backends operations bucket i) ?_
    exact fun request _ _ _ _ _ same => absurd ⟨_, _, _, _, same⟩ edits

/-- A request in the scope of its operation. -/
def InScope (i : ι) (request : StoreRequest) : Prop :=
  ∀ root, (operations i).scope (backends i) = some root → OwnedBy root request

theorem together_inScope (i : ι) :
    ((together helpers backends operations bucket).threads i).Uses
      (InScope backends operations i) := by
  cases scope : (operations i).scope (backends i) with
  | none =>
      refine Program.uses_mono (together_owned helpers backends operations bucket i) ?_
      intro request _ root same
      rw [scope] at same
      cases same
  | some root =>
      refine Program.uses_mono ((backends i).perform_scoped helpers scope) ?_
      intro request reads other same
      rw [scope] at same
      cases same
      exact ownedBy_of_reads reads

variable [DecidableEq ι]

/-- Whatever a call with several requests has read is as it was when the call returns. -/
def UndisturbedCalls (schedule : List (ι × Weather)) : Prop :=
  let pool := together helpers backends operations bucket
  ∀ earlier turn later, schedule = earlier ++ turn :: later →
    ((pool.execute store earlier).ending store turn).isSome = true →
    ∀ before weather between, earlier = before ++ (turn.1, weather) :: between →
      (operations turn.1).SameFor (backends turn.1) (pool.execute store earlier).state
        (pool.execute store before).state

/-- The condition on what is read is one on what is answered. -/
theorem steady_of_undisturbed {schedule : List (ι × Weather)}
    (undisturbed : UndisturbedCalls helpers backends operations bucket schedule) :
    (together helpers backends operations bucket).Steady store schedule := by
  intro earlier turn later split ends before weather between early request next calling
  let pool := together helpers backends operations bucket
  have same := undisturbed earlier turn later split ends before weather between early
  obtain ⟨asked, then_, again⟩ := Pool.exists_calling_of_ending ends
  rw [early] at again
  rcases (backends turn.1).perform_cases helpers (operations turn.1) with
    once | ⟨filePath, oldString, newString, replaceAll, called⟩ | ⟨root, scope⟩
  · exact (Pool.not_calling_of_once once again).elim
  · have uses : ((pool.execute store before).threads turn.1).Uses
        (EditsKey backends operations turn.1) :=
      Pool.uses_execute (together_editsKey helpers backends operations bucket) before turn.1
    rw [calling] at uses
    have onKey := uses.1 _ _ _ _ called
    rw [called] at same
    cases request with
    | listObjectsV2 Prefix Delimiter token => exact onKey.elim
    | getObject Key =>
        cases onKey
        exact store_getObject_congr same weather
    | putObject Key Body =>
        exact (Pool.keeps_of_calling (together_endsInEffect helpers backends operations bucket)
          calling again).elim
  · have uses : ((pool.execute store before).threads turn.1).Uses
        (InScope backends operations turn.1) :=
      Pool.uses_execute (together_inScope helpers backends operations bucket) before turn.1
    rw [calling] at uses
    exact ((under root).alike weather (uses.1 root scope) (same.under scope)).1

/-! ## Calls on different files -/

omit [DecidableEq ι] in
theorem together_targets (i : ι) :
    ((together helpers backends operations bucket).threads i).Uses fun request =>
      ∀ Key Body, request = .putObject Key Body →
        (operations i).target (backends i) = some Key :=
  (backends i).perform_targets helpers (operations i)

/-- No call uploads to what another one with several requests reads. -/
def ApartCalls : Prop :=
  ∀ i j, i ≠ j → ∀ Key, (operations j).target (backends j) = some Key →
    ¬ (operations i).Watches (backends i) Key

/-- What a call watches stays while it goes on. -/
theorem watched_kept (apart : ApartCalls backends operations) {i : ι}
    {before rest : List (ι × Weather)} (middle : List (ι × Weather)) {asked : StoreRequest}
    {then_ : asked.Response → StoreProgram (Except PyException OperationResult)}
    (again : ((together helpers backends operations bucket).execute store
      (before ++ middle ++ rest)).threads i = .call asked then_)
    {key : ObjectKey} (watched : (operations i).Watches (backends i) key.1) :
    ((together helpers backends operations bucket).execute store
        (before ++ middle)).state.get? key =
      ((together helpers backends operations bucket).execute store before).state.get? key := by
  induction middle using List.reverseRecOn generalizing rest with
  | nil => rw [List.append_nil]
  | append_singleton middle turn ih =>
      let pool := together helpers backends operations bucket
      have whole : before ++ (middle ++ [turn]) ++ rest = before ++ middle ++ turn :: rest := by
        simp
      rw [whole] at again
      rw [← ih again, ← List.append_assoc, Pool.execute_concat]
      cases moved : (pool.execute store (before ++ middle)).threads turn.1 with
      | ret outcome => rw [Pool.step_ret moved]
      | call request next =>
          rw [Pool.step_state moved]
          by_cases mine : turn.1 = i
          · subst mine
            have reads : Reads [] request := Pool.keeps_of_calling
              (together_endsInEffect helpers backends operations bucket) moved again
            rw [store_reads reads]
          · have uses : ((pool.execute store (before ++ middle)).threads turn.1).Uses fun request =>
                ∀ Key Body, request = .putObject Key Body →
                  (operations turn.1).target (backends turn.1) = some Key :=
              Pool.uses_execute (together_targets helpers backends operations bucket)
                (before ++ middle) turn.1
            rw [moved] at uses
            refine store_get?_of_ne fun Body same => ?_
            exact apart i turn.1 (Ne.symm mine) key.1 (uses.1 _ _ same) watched

/-- **Calls on different files do not disturb each other.** -/
theorem undisturbed_of_apart (apart : ApartCalls backends operations)
    (schedule : List (ι × Weather)) :
    UndisturbedCalls helpers backends operations bucket schedule := by
  intro earlier turn later split ends before weather between early
  let pool := together helpers backends operations bucket
  obtain ⟨asked, then_, again⟩ := Pool.exists_calling_of_ending ends
  have kept : ∀ key : ObjectKey, (operations turn.1).Watches (backends turn.1) key.1 →
      (pool.execute store earlier).state.get? key = (pool.execute store before).state.get? key := by
    intro key watched
    rw [early] at again ⊢
    rw [← List.append_nil (before ++ _)] at again
    exact watched_kept helpers backends operations bucket apart _ again watched
  cases called : operations turn.1 with
  | edit filePath oldString newString replaceAll =>
      rw [called] at kept
      change contentAt _ _ = contentAt _ _
      rw [contentAt, contentAt]
      by_cases nonempty : (backends turn.1).keyFor filePath ≠ []
      · rw [dif_pos nonempty, dif_pos nonempty, kept ⟨_, nonempty⟩ rfl]
      · rw [dif_neg nonempty, dif_neg nonempty]
  | _ =>
      rw [called] at kept
      exact fun scope member key inside => kept key ⟨scope, member, inside⟩

end Calls

/-! ## The law -/

section Law

variable {ι : Type} [DecidableEq ι] (helpers : Helpers) (backends : ι → S3Backend)
  (operations : ι → Operation)

/-- Calls one after the other, each in the weather of its requests. -/
def oneByOne : List (Pool.Ended ι Weather (Except PyException OperationResult)) → Bucket →
    List (Except PyException OperationResult) × Bucket :=
  Refinement.run fun call bucket =>
    ((backends call.thread).perform helpers (operations call.thread)).run store call.weather bucket

variable (bucket : Bucket) (schedule : List (ι × Weather))

theorem oneByOne_of_undisturbed
    (undisturbed : UndisturbedCalls helpers backends operations bucket schedule) :
    let pool := together helpers backends operations bucket
    oneByOne helpers backends operations (pool.ended store schedule) bucket =
      ((pool.ended store schedule).map Pool.Ended.value, (pool.execute store schedule).state) :=
  Pool.serial_of_steady (fun _ reads => store_reads reads)
    (together_endsInEffect helpers backends operations bucket)
    (steady_of_undisturbed helpers backends operations bucket undisturbed)

/-- **Undisturbed calls are serial.** Of any calls of the six operations over one bucket, on any
backends and in any weather, let no call with several requests have what it has read changed before
it returns. Then the calls that return, one after the other in the order in which they do, each in
the weather of its requests, return the same and leave the same bucket. Each of them stands in that
order once, and no call that has not returned has changed anything. -/
theorem calls_serializable
    (undisturbed : UndisturbedCalls helpers backends operations bucket schedule) :
    let final := (together helpers backends operations bucket).execute store schedule
    let order := (together helpers backends operations bucket).ended store schedule
    oneByOne helpers backends operations order bucket =
      (order.map Pool.Ended.value, final.state) ∧
    (order.map Pool.Ended.thread).Nodup ∧
    ∀ i outcome, (backends i).perform helpers (operations i) ≠ .ret outcome →
      (final.threads i = .ret outcome ↔
        ∃ call ∈ order, call.thread = i ∧ call.value = outcome) := by
  intro final order
  refine ⟨oneByOne_of_undisturbed helpers backends operations bucket schedule undisturbed,
    Pool.nodup_endedAfter, fun i outcome begun => ?_⟩
  exact (Pool.threads_ret_iff_ended schedule).trans (or_iff_right begun)

/-- **Calls on different files are serial, in every order of their steps**: calls of which none
uploads to a file that another one edits, to one in a directory that another one lists, or to one
under the root that another one searches. -/
theorem apart_serializable (apart : ApartCalls backends operations) :
    let pool := together helpers backends operations bucket
    oneByOne helpers backends operations (pool.ended store schedule) bucket =
      ((pool.ended store schedule).map Pool.Ended.value, (pool.execute store schedule).state) :=
  oneByOne_of_undisturbed helpers backends operations bucket schedule
    (undisturbed_of_apart helpers backends operations bucket apart schedule)

end Law

/-! ## Two calls -/

/-- An edit of one file and an upload of another. -/
def editAndWrite : Bool → Operation
  | true => .edit (py "/f") (py "a") (py "x") false
  | false => .write (py "/g") (py "hi")

/-- The backend of both. -/
def docsOfBoth : Bool → S3Backend := fun _ => S3Backend.init (py "corpus") (py "docs")

theorem editAndWrite_apart : ApartCalls docsOfBoth editAndWrite := by
  intro i j different Key target watched
  cases i with
  | false =>
      obtain ⟨scope, member, -⟩ := watched
      cases member
  | true =>
      cases j with
      | true => exact different rfl
      | false =>
          have key : Key = (docsOfBoth true).keyFor (py "/f") := watched
          rw [key] at target
          exact absurd target (by decide)

/-- The upload comes between the two requests of the edit. -/
def interleaved : List (Bool × Weather) := [(true, fair), (false, fair), (true, fair)]

/-- In that run the upload returns first, and the calls in that order leave both texts. -/
theorem calls_serializable_editAndWrite :
    let pool := together plainHelpers docsOfBoth editAndWrite oneText
    let after := (oneByOne plainHelpers docsOfBoth editAndWrite (pool.ended store interleaved)
      oneText).2
    (pool.ended store interleaved).map Pool.Ended.thread = [false, true] ∧
      contentAt (py "docs/f") after = some [120, 98] ∧
      contentAt (py "docs/g") after = some [104, 105] := by
  intro pool after
  have serial := (calls_serializable plainHelpers docsOfBoth editAndWrite oneText interleaved
    (undisturbed_of_apart plainHelpers docsOfBoth editAndWrite oneText editAndWrite_apart
      interleaved)).1
  have left : after = (pool.execute store interleaved).state := congrArg Prod.snd serial
  rw [left]
  exact ⟨by decide, by decide, by decide⟩

theorem apart_serializable_editAndWrite :
    let pool := together plainHelpers docsOfBoth editAndWrite oneText
    (oneByOne plainHelpers docsOfBoth editAndWrite (pool.ended store interleaved) oneText).2 =
      (pool.execute store interleaved).state :=
  congrArg Prod.snd (apart_serializable plainHelpers docsOfBoth editAndWrite oneText interleaved
    editAndWrite_apart)

end CarqnaAgent.Storage
