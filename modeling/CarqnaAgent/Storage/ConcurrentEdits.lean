import Mathlib
import CarqnaAgent.Storage.Addressing

/-!
# Concurrent calls on one file

`edit` downloads the object, replaces in its text and uploads the result: two
requests, and nothing holds the object in between. Any number of `edit` and `write`
calls on one path share the bucket in a pool.

A call takes effect at its upload. When every call reports success and every edit
uploads over the content it has read, **the calls are in effect one after the other,
in the order of their uploads** (`serializable_of_undisturbed`): a schedule is followed
with the list of the calls that have uploaded (`Progress`), and each step keeps the
pool at the end of that list (`Progress.step`).

Without the condition an update is lost: two edits that both read before either
uploads (`edits_lost`).
-/

set_option autoImplicit false

namespace CarqnaAgent.Storage

open Foundations

/-! ## Calls on one file -/

/-- A call that changes the file. -/
inductive Call where
  | write (content : PyStr)
  | edit (oldString newString : PyStr) (replaceAll : Bool)

/-- The operation of a call. -/
def Call.operation (filePath : PyStr) : Call → Operation
  | .write content => .write filePath content
  | .edit oldString newString replaceAll => .edit filePath oldString newString replaceAll

/-- The call downloads before it uploads. -/
def Call.IsEdit : Call → Prop
  | .write _ => False
  | .edit _ _ _ => True

/-- The result of a call reports success. -/
def Succeeded : Except PyException OperationResult → Prop
  | .ok (.write result) => result.error = none
  | .ok (.edit result) => result.error = none
  | _ => False

/-- The bytes stored under a key. -/
def contentAt (Key : PyStr) (bucket : Bucket) : Option Bytes :=
  if nonempty : Key ≠ [] then (bucket.get? ⟨Key, nonempty⟩).map StoredObject.body else none

/-- What a call uploads and reports on the content it finds, if it gets that far. -/
def Call.upload (helpers : Helpers) (filePath : PyStr) :
    Call → Option Bytes → Option (Bytes × OperationResult)
  | .write content, _ =>
      (PyStr.encode content).map fun body => (body, .write { path := some filePath })
  | .edit oldString newString replaceAll, raw =>
      raw.bind fun raw =>
        match S3Backend.edited helpers filePath oldString newString replaceAll raw with
        | .error _ => none
        | .ok (body, occurrences) =>
            some (body, .edit { path := some filePath, occurrences := some occurrences })

/-! ## The shape of a call -/

/-- The program has returned a failure. -/
def Failed (program : StoreProgram (Except PyException OperationResult)) : Prop :=
  ∃ result, program = .ret result ∧ ¬ Succeeded result

/-- The program is about to upload `body`, and reports `result` if that succeeds. -/
def Uploading (Key : PyStr) (body : Bytes) (result : OperationResult)
    (program : StoreProgram (Except PyException OperationResult)) : Prop :=
  ∃ next, program = .call (.putObject Key body) next ∧ next (.ok ()) = .ret (.ok result) ∧
    ∀ error, Failed (next (.error error))

section Shape

variable (backend : S3Backend) (helpers : Helpers) (filePath : PyStr)

/-- A `write` fails at once or uploads. -/
theorem write_shape (content : PyStr) (raw : Option Bytes) :
    match (Call.write content).upload helpers filePath raw with
    | none => Failed (backend.perform helpers (.write filePath content))
    | some (body, result) =>
        Uploading (backend.keyFor filePath) body result
          (backend.perform helpers (.write filePath content)) := by
  simp only [Call.upload, S3Backend.perform, S3Backend.write]
  cases PyStr.encode content with
  | none => exact ⟨_, rfl, id⟩
  | some body => exact ⟨_, rfl, rfl, fun error => ⟨_, rfl, by simp [Succeeded, Except.map]⟩⟩

/-- What `edit` returns without an upload is no success. -/
theorem not_succeeded_of_edited {oldString newString : PyStr} {replaceAll : Bool} {raw : Bytes}
    {outcome : Except PyException EditResult}
    (stopped : S3Backend.edited helpers filePath oldString newString replaceAll raw =
      .error outcome) : ¬ Succeeded (outcome.map .edit) := by
  unfold S3Backend.edited at stopped
  split at stopped
  · cases stopped
    simp [Succeeded, Except.map]
  · split at stopped
    · cases stopped
      simp [Succeeded, Except.map]
    · split at stopped
      · cases stopped
        simp [Succeeded, Except.map]
      · cases stopped

/-- An `edit` that has downloaded the object fails or uploads. -/
theorem editBody_shape (oldString newString : PyStr) (replaceAll : Bool) (raw : Bytes) :
    match (Call.edit oldString newString replaceAll).upload helpers filePath (some raw) with
    | none => Failed (do
        return (← backend.editBody helpers filePath oldString newString replaceAll raw).map .edit)
    | some (body, result) => Uploading (backend.keyFor filePath) body result (do
        return (← backend.editBody helpers filePath oldString newString replaceAll raw).map
          .edit) := by
  simp only [Call.upload, S3Backend.editBody, Option.bind_some]
  cases made : S3Backend.edited helpers filePath oldString newString replaceAll raw with
  | error outcome => exact ⟨_, rfl, not_succeeded_of_edited helpers filePath made⟩
  | ok replaced => exact ⟨_, rfl, rfl, fun error => ⟨_, rfl, by simp [Succeeded, Except.map]⟩⟩

/-- The program of an `edit`: a download, and then a failure or an upload. -/
theorem edit_shape (oldString newString : PyStr) (replaceAll : Bool) :
    ∃ next, backend.perform helpers (.edit filePath oldString newString replaceAll) =
        .call (.getObject (backend.keyFor filePath)) next ∧
      (∀ error, Failed (next (.error error))) ∧
      ∀ raw, match (Call.edit oldString newString replaceAll).upload helpers filePath (some raw) with
        | none => Failed (next (.ok raw))
        | some (body, result) => Uploading (backend.keyFor filePath) body result (next (.ok raw)) := by
  refine ⟨_, rfl, fun error => ?_,
    editBody_shape backend helpers filePath oldString newString replaceAll⟩
  cases error with
  | clientError code text =>
      simp only [Program.bind]
      split
      · exact ⟨_, rfl, by simp [Succeeded, Except.map]⟩
      · exact ⟨_, rfl, by simp [Succeeded, Except.map]⟩
  | botoCoreError text => exact ⟨_, rfl, by simp [Succeeded, Except.map]⟩

end Shape

/-! ## Requests on the content -/

theorem contentAt_insert {Key : PyStr} (nonempty : Key ≠ []) (bucket : Bucket)
    (object : StoredObject) :
    contentAt Key (bucket.insert ⟨Key, nonempty⟩ object) = some object.body := by
  rw [contentAt, dif_pos nonempty, SortedMap.get?_insert_self, Option.map_some]

/-- A download fails or gives the content. -/
theorem download_cases (weather : Weather) (bucket : Bucket) (Key : PyStr) :
    (∃ error, (store weather bucket (.getObject Key)).1 = .error error) ∨
      ∃ raw, (store weather bucket (.getObject Key)).1 = .ok raw ∧
        contentAt Key bucket = some raw := by
  cases outage : weather.outage with
  | some error => exact .inl ⟨error, by
        simp only [store, outage]
        rfl⟩
  | none =>
      by_cases nonempty : Key = []
      · exact .inl ⟨emptyKey, by
          simp only [store, outage, dif_neg (not_not.mpr nonempty)]
          rfl⟩
      · have answer := store_getObject outage bucket ⟨Key, nonempty⟩
        cases found : bucket.get? ⟨Key, nonempty⟩ with
        | none =>
            rw [found] at answer
            exact .inl ⟨noSuchKey, congrArg Prod.fst answer⟩
        | some object =>
            rw [found] at answer
            refine .inr ⟨object.body, congrArg Prod.fst answer, ?_⟩
            rw [contentAt, dif_pos nonempty, found, Option.map_some]

theorem download_of_content {weather : Weather} (calm : weather.outage = none) {bucket : Bucket}
    {Key : PyStr} {raw : Bytes} (content : contentAt Key bucket = some raw) :
    (store weather bucket (.getObject Key)).1 = .ok raw := by
  unfold contentAt at content
  split at content
  · rename_i nonempty
    obtain ⟨object, found, rfl⟩ := Option.map_eq_some_iff.mp content
    have answer := store_getObject calm bucket ⟨Key, nonempty⟩
    rw [found] at answer
    exact congrArg Prod.fst answer
  · cases content

/-- An upload fails and changes nothing, or stores the content. -/
theorem upload_cases (weather : Weather) (bucket : Bucket) (Key : PyStr) (body : Bytes) :
    (∃ error, store weather bucket (.putObject Key body) =
        ((.error error : Except StoreError Unit), bucket)) ∨
      ((store weather bucket (.putObject Key body)).1 = (.ok () : Except StoreError Unit) ∧
        contentAt Key (store weather bucket (.putObject Key body)).2 = some body) := by
  cases outage : weather.outage with
  | some error => exact .inl ⟨error, by
        simp only [store, outage]
        rfl⟩
  | none =>
      by_cases nonempty : Key = []
      · exact .inl ⟨emptyKey, by
          simp only [store, outage, dif_neg (not_not.mpr nonempty)]
          rfl⟩
      · have answer := store_putObject outage bucket ⟨Key, nonempty⟩ body
        refine .inr ⟨congrArg Prod.fst answer, ?_⟩
        rw [congrArg Prod.snd answer]
        exact contentAt_insert nonempty bucket _

/-! ## One after the other -/

section Calls

variable (backend : S3Backend) (helpers : Helpers) (filePath : PyStr)

/-- A call alone in a fair store uploads what it makes of the content it finds. -/
theorem run_call_of_upload {call : Call} {bucket : Bucket} {body : Bytes}
    {result : OperationResult} (nonempty : backend.keyFor filePath ≠ [])
    (upload : call.upload helpers filePath (contentAt (backend.keyFor filePath) bucket) =
      some (body, result)) :
    ((backend.perform helpers (call.operation filePath)).run store (fun _ => fair) bucket).1 =
        .ok result ∧
      contentAt (backend.keyFor filePath)
        ((backend.perform helpers (call.operation filePath)).run store (fun _ => fair) bucket).2 =
          some body := by
  have last : ∀ program, Uploading (backend.keyFor filePath) body result program →
      (program.run store (fun _ => fair) bucket).1 = .ok result ∧
        contentAt (backend.keyFor filePath) (program.run store (fun _ => fair) bucket).2 =
          some body := by
    rintro _ ⟨next, rfl, success, -⟩
    have calm : fair.outage = none := rfl
    rw [Program.run_call, store_putObject calm bucket ⟨backend.keyFor filePath, nonempty⟩ body]
    simp only
    rw [success]
    exact ⟨rfl, contentAt_insert nonempty bucket _⟩
  cases call with
  | write content =>
      have shape := write_shape backend helpers filePath content
        (contentAt (backend.keyFor filePath) bucket)
      rw [upload] at shape
      exact last _ shape
  | edit oldString newString replaceAll =>
      obtain ⟨next, program, -, shape⟩ :=
        edit_shape backend helpers filePath oldString newString replaceAll
      cases content : contentAt (backend.keyFor filePath) bucket with
      | none => simp [content, Call.upload] at upload
      | some raw =>
          have downloaded := shape raw
          rw [content] at upload
          rw [upload] at downloaded
          have calm : fair.outage = none := rfl
          rw [Call.operation, program, Program.run_call, download_of_content calm content,
            store_getObject_state]
          exact last _ downloaded

variable {ι : Type} (calls : ι → Call) (bucket : Bucket)

/-- The calls over one bucket. -/
def callPool : Pool ι StoreRequest StoreRequest.Response (Except PyException OperationResult)
    Bucket where
  threads i := backend.perform helpers ((calls i).operation filePath)
  state := bucket

/-- The calls one after the other in a fair store: their results, and the bucket. -/
def inOrder (order : List ι) : List (ι × Except PyException OperationResult) × Bucket :=
  order.foldl
    (fun done i =>
      let ran := (backend.perform helpers ((calls i).operation filePath)).run store
        (fun _ => fair) done.2
      (done.1 ++ [(i, ran.1)], ran.2))
    ([], bucket)

theorem inOrder_concat (order : List ι) (i : ι) :
    inOrder backend helpers filePath calls bucket (order ++ [i]) =
      let done := inOrder backend helpers filePath calls bucket order
      let ran := (backend.perform helpers ((calls i).operation filePath)).run store
        (fun _ => fair) done.2
      (done.1 ++ [(i, ran.1)], ran.2) := by
  rw [inOrder, List.foldl_append]
  rfl

theorem mem_order_of_mem_inOrder {order : List ι}
    {pair : ι × Except PyException OperationResult}
    (member : pair ∈ (inOrder backend helpers filePath calls bucket order).1) :
    pair.1 ∈ order := by
  induction order using List.reverseRecOn with
  | nil => cases member
  | append_singleton order i ih =>
      rw [inOrder_concat] at member
      rcases List.mem_append.mp member with earlier | now
      · exact List.mem_append_left _ (ih earlier)
      · rw [List.mem_singleton.mp now]
        exact List.mem_append_right _ (List.mem_singleton_self i)

variable [DecidableEq ι]

/-- The results and the content of a schedule are those of a sequential order of the calls. -/
def Serializable (schedule : List (ι × Weather)) : Prop :=
  let finished := (callPool backend helpers filePath calls bucket).execute store schedule
  ∃ order : List ι, order.Nodup ∧ (∀ i, i ∈ order) ∧
    (∀ pair ∈ (inOrder backend helpers filePath calls bucket order).1,
      finished.threads pair.1 = .ret pair.2) ∧
    contentAt (backend.keyFor filePath) finished.state =
      contentAt (backend.keyFor filePath) (inOrder backend helpers filePath calls bucket order).2

/-- Every call has returned and reports success. -/
def AllSucceed (schedule : List (ι × Weather)) : Prop :=
  ∀ i, ∃ result,
    ((callPool backend helpers filePath calls bucket).execute store schedule).threads i =
      .ret result ∧ Succeeded result

/-- Between the first turn of an edit, its download, and the second, its upload, the content
does not change. -/
def Undisturbed (schedule : List (ι × Weather)) : Prop :=
  ∀ (first between after : List (ι × Weather)) (i : ι) (download upload : Weather),
    schedule = first ++ (i, download) :: between ++ (i, upload) :: after →
    i ∉ first.map Prod.fst → i ∉ between.map Prod.fst → (calls i).IsEdit →
      let pool := callPool backend helpers filePath calls bucket
      contentAt (backend.keyFor filePath)
          (pool.execute store (first ++ (i, download) :: between)).state =
        contentAt (backend.keyFor filePath) (pool.execute store first).state

/-! ## Following a schedule -/

/-- A call that has not uploaded: it has not started, it has downloaded, or it has failed. -/
inductive Waiting (before : List (ι × Weather)) (i : ι)
    (program : StoreProgram (Except PyException OperationResult)) : Prop
  | fresh (unseen : i ∉ before.map Prod.fst)
      (same : program = backend.perform helpers ((calls i).operation filePath))
  | downloaded (first between : List (ι × Weather)) (download : Weather) (raw body : Bytes)
      (result : OperationResult) (edit : (calls i).IsEdit)
      (split : before = first ++ (i, download) :: between)
      (unseen : i ∉ first.map Prod.fst) (idle : i ∉ between.map Prod.fst)
      (read : contentAt (backend.keyFor filePath)
        ((callPool backend helpers filePath calls bucket).execute store first).state = some raw)
      (upload : (calls i).upload helpers filePath (some raw) = some (body, result))
      (uploading : Uploading (backend.keyFor filePath) body result program)
  | failed (failed : Failed program)

/-- The pool after `before` is at the end of the calls of `order`, one after the other. -/
structure Progress (before : List (ι × Weather)) (order : List ι)
    (pool : Pool ι StoreRequest StoreRequest.Response (Except PyException OperationResult)
      Bucket) : Prop where
  nodup : order.Nodup
  content : contentAt (backend.keyFor filePath) pool.state =
    contentAt (backend.keyFor filePath) (inOrder backend helpers filePath calls bucket order).2
  uploaded : ∀ i ∈ order, ∃ result, pool.threads i = .ret result
  results : ∀ pair ∈ (inOrder backend helpers filePath calls bucket order).1,
    pool.threads pair.1 = .ret pair.2
  waiting : ∀ i, i ∉ order →
    Waiting backend helpers filePath calls bucket before i (pool.threads i)

theorem Progress.start :
    Progress backend helpers filePath calls bucket [] []
      (callPool backend helpers filePath calls bucket) where
  nodup := .nil
  content := rfl
  uploaded _ member := by cases member
  results _ member := by cases member
  waiting _ _ := .fresh (by simp) rfl

variable {backend helpers filePath calls bucket}

/-- A turn of another thread leaves a waiting call waiting. -/
theorem Waiting.other {before : List (ι × Weather)} {i : ι}
    {program : StoreProgram (Except PyException OperationResult)}
    (waiting : Waiting backend helpers filePath calls bucket before i program)
    {turn : ι × Weather} (different : i ≠ turn.1) :
    Waiting backend helpers filePath calls bucket (before ++ [turn]) i program := by
  cases waiting with
  | fresh unseen same =>
      refine .fresh ?_ same
      simpa [different] using unseen
  | downloaded first between download raw body result edit split unseen idle read upload uploading =>
      refine .downloaded first (between ++ [turn]) download raw body result edit ?_ unseen ?_ read
        upload uploading
      · rw [split, List.append_assoc, List.cons_append]
      · simpa [different] using idle
  | failed failed => exact .failed failed

section Step

variable {pool : Pool ι StoreRequest StoreRequest.Response (Except PyException OperationResult)
  Bucket} {turn : ι × Weather}

/-- The upload of a call fails and changes nothing, or stores the content. -/
theorem Uploading.step {Key : PyStr} {body : Bytes} {result : OperationResult}
    (uploading : Uploading Key body result (pool.threads turn.1)) :
    ((pool.step store turn).state = pool.state ∧ Failed ((pool.step store turn).threads turn.1)) ∨
      ((pool.step store turn).threads turn.1 = .ret (.ok result) ∧
        contentAt Key (pool.step store turn).state = some body) := by
  obtain ⟨next, calling, success, failure⟩ := uploading
  rw [Pool.step_state calling, Pool.step_threads_self calling]
  rcases upload_cases turn.2 pool.state Key body with ⟨error, answer⟩ | ⟨answer, stored⟩
  · rw [answer]
    exact .inl ⟨rfl, failure error⟩
  · rw [answer]
    exact .inr ⟨success, stored⟩

variable (backend helpers filePath calls bucket pool turn) in
/-- What a turn of a waiting call does: the bucket is left alone and the call waits on or
fails, or the call uploads what it makes of the content the bucket has now. -/
inductive Turned (before : List (ι × Weather)) : Prop
  | waits (same : (pool.step store turn).state = pool.state)
      (waiting : Waiting backend helpers filePath calls bucket (before ++ [turn]) turn.1
        ((pool.step store turn).threads turn.1))
  | uploads (body : Bytes) (result : OperationResult)
      (upload : (calls turn.1).upload helpers filePath
        (contentAt (backend.keyFor filePath) pool.state) = some (body, result))
      (returned : (pool.step store turn).threads turn.1 = .ret (.ok result))
      (stored : contentAt (backend.keyFor filePath) (pool.step store turn).state = some body)

theorem Turned.of_failed {before : List (ι × Weather)} (failed : Failed (pool.threads turn.1)) :
    Turned backend helpers filePath calls bucket pool turn before := by
  obtain ⟨result, same, failure⟩ := failed
  refine .waits ?_ ?_
  · rw [Pool.step_ret same]
  · rw [Pool.step_ret same]
    exact .failed ⟨result, same, failure⟩

theorem Turned.of_uploading {before : List (ι × Weather)} {body : Bytes}
    {result : OperationResult}
    (upload : (calls turn.1).upload helpers filePath
      (contentAt (backend.keyFor filePath) pool.state) = some (body, result))
    (uploading : Uploading (backend.keyFor filePath) body result (pool.threads turn.1)) :
    Turned backend helpers filePath calls bucket pool turn before := by
  rcases uploading.step with ⟨same, failed⟩ | ⟨returned, stored⟩
  · exact .waits same (.failed failed)
  · exact .uploads body result upload returned stored

/-- The download of an edit. -/
theorem Turned.of_download {before : List (ι × Weather)}
    (reached : pool = (callPool backend helpers filePath calls bucket).execute store before)
    (unseen : turn.1 ∉ before.map Prod.fst) {oldString newString : PyStr} {replaceAll : Bool}
    (edit : calls turn.1 = .edit oldString newString replaceAll)
    (same : pool.threads turn.1 =
      backend.perform helpers (.edit filePath oldString newString replaceAll)) :
    Turned backend helpers filePath calls bucket pool turn before := by
  obtain ⟨next, program, refused, shape⟩ :=
    edit_shape backend helpers filePath oldString newString replaceAll
  have calling := same.trans program
  refine .waits ?_ ?_
  · rw [Pool.step_state calling, store_getObject_state]
  · rw [Pool.step_threads_self calling]
    rcases download_cases turn.2 pool.state (backend.keyFor filePath) with
      ⟨error, answer⟩ | ⟨raw, answer, content⟩
    · rw [answer]
      exact .failed (refused error)
    · rw [answer]
      have rest := shape raw
      rw [← edit] at rest
      cases upload : (calls turn.1).upload helpers filePath (some raw) with
      | none =>
          rw [upload] at rest
          exact .failed rest
      | some made =>
          rw [upload] at rest
          exact .downloaded before [] turn.2 raw made.1 made.2 (by rw [edit]; trivial) rfl unseen
            (by simp) (by rw [← reached, content]) upload rest

/-- **A turn of a waiting call.** -/
theorem Waiting.step {before : List (ι × Weather)}
    (reached : pool = (callPool backend helpers filePath calls bucket).execute store before)
    (undisturbed : Undisturbed backend helpers filePath calls bucket (before ++ [turn]))
    (waiting : Waiting backend helpers filePath calls bucket before turn.1 (pool.threads turn.1)) :
    Turned backend helpers filePath calls bucket pool turn before := by
  cases waiting with
  | failed failed => exact .of_failed failed
  | fresh unseen same =>
      cases call : calls turn.1 with
      | write content =>
          have shape := write_shape backend helpers filePath content
            (contentAt (backend.keyFor filePath) pool.state)
          rw [call, Call.operation] at same
          rw [← same, ← call] at shape
          cases upload : (calls turn.1).upload helpers filePath
              (contentAt (backend.keyFor filePath) pool.state) with
          | none =>
              rw [upload] at shape
              exact .of_failed shape
          | some made =>
              rw [upload] at shape
              exact .of_uploading upload shape
      | edit oldString newString replaceAll =>
          exact .of_download reached unseen call (same.trans (by rw [call]; rfl))
  | downloaded first between download raw body result edit split unseen idle read upload uploading =>
      have kept := undisturbed first between [] turn.1 download turn.2 (by simp [split]) unseen
        idle edit
      have content : contentAt (backend.keyFor filePath) pool.state = some raw := by
        rw [reached, split]
        exact kept.trans read
      exact .of_uploading (by rw [content, upload]) uploading

end Step

/-- **A turn keeps the pool at the end of the calls that have uploaded.** -/
theorem Progress.step {before : List (ι × Weather)} {order : List ι}
    {pool : Pool ι StoreRequest StoreRequest.Response (Except PyException OperationResult) Bucket}
    (progress : Progress backend helpers filePath calls bucket before order pool)
    (reached : pool = (callPool backend helpers filePath calls bucket).execute store before)
    {turn : ι × Weather}
    (undisturbed : Undisturbed backend helpers filePath calls bucket (before ++ [turn])) :
    ∃ order', Progress backend helpers filePath calls bucket (before ++ [turn]) order'
      (pool.step store turn) := by
  by_cases done : turn.1 ∈ order
  · -- The call has returned: nothing moves.
    obtain ⟨result, returned⟩ := progress.uploaded turn.1 done
    rw [Pool.step_ret returned]
    refine ⟨order, progress.nodup, progress.content, progress.uploaded, progress.results,
      fun i missing => (progress.waiting i missing).other ?_⟩
    rintro rfl
    exact missing done
  · have others : ∀ i, i ≠ turn.1 → (pool.step store turn).threads i = pool.threads i :=
      fun i different => Pool.step_threads_of_ne different
    have waitOn : ∀ i, i ∉ order → i ≠ turn.1 →
        Waiting backend helpers filePath calls bucket (before ++ [turn]) i
          ((pool.step store turn).threads i) := by
      intro i missing different
      rw [others i different]
      exact (progress.waiting i missing).other different
    have named : ∀ pair ∈ (inOrder backend helpers filePath calls bucket order).1,
        pair.1 ∈ order :=
      fun pair member => mem_order_of_mem_inOrder backend helpers filePath calls bucket member
    cases (progress.waiting turn.1 done).step reached undisturbed with
    | waits same waiting =>
        refine ⟨order, progress.nodup, by rw [same, progress.content], ?_, ?_, ?_⟩
        · intro i member
          rw [others i fun equal => done (equal ▸ member)]
          exact progress.uploaded i member
        · intro pair member
          rw [others pair.1 fun equal => done (equal ▸ named pair member)]
          exact progress.results pair member
        · intro i missing
          by_cases here : i = turn.1
          · subst here
            exact waiting
          · exact waitOn i missing here
    | uploads body result upload returned stored =>
        have nonempty : backend.keyFor filePath ≠ [] := by
          intro empty
          simp [contentAt, empty] at stored
        rw [progress.content] at upload
        have alone := run_call_of_upload backend helpers filePath nonempty upload
        refine ⟨order ++ [turn.1], ?_, ?_, ?_, ?_, ?_⟩
        · exact List.nodup_append_comm.mp (List.nodup_cons.mpr ⟨done, progress.nodup⟩)
        · rw [inOrder_concat, stored]
          exact alone.2.symm
        · intro i member
          rcases List.mem_append.mp member with earlier | now
          · rw [others i fun equal => done (equal ▸ earlier)]
            exact progress.uploaded i earlier
          · rw [List.mem_singleton.mp now]
            exact ⟨_, returned⟩
        · intro pair member
          rw [inOrder_concat] at member
          rcases List.mem_append.mp member with earlier | now
          · rw [others pair.1 fun equal => done (equal ▸ named pair earlier)]
            exact progress.results pair earlier
          · rw [List.mem_singleton.mp now, returned, alone.1]
        · intro i missing
          have apart : i ∉ order ∧ i ≠ turn.1 := by simpa using missing
          exact waitOn i apart.1 apart.2

/-- The schedule is followed to its end. -/
theorem progress_execute {schedule : List (ι × Weather)}
    (undisturbed : Undisturbed backend helpers filePath calls bucket schedule) :
    ∃ order, Progress backend helpers filePath calls bucket schedule order
      ((callPool backend helpers filePath calls bucket).execute store schedule) := by
  induction schedule using List.reverseRecOn with
  | nil => exact ⟨[], .start backend helpers filePath calls bucket⟩
  | append_singleton before turn ih =>
      have earlier : Undisturbed backend helpers filePath calls bucket before := by
        intro first between after i download upload split
        exact undisturbed first between (after ++ [turn]) i download upload (by simp [split])
      obtain ⟨order, progress⟩ := ih earlier
      rw [Pool.execute_append]
      exact progress.step rfl undisturbed

theorem not_succeeded_of_waiting {before : List (ι × Weather)} {i : ι}
    {result : Except PyException OperationResult}
    (waiting : Waiting backend helpers filePath calls bucket before i (.ret result)) :
    ¬ Succeeded result := by
  have failure : ∀ program : StoreProgram (Except PyException OperationResult),
      program = .ret result → Failed program → ¬ Succeeded result := by
    rintro _ rfl ⟨other, same, failed⟩
    cases same
    exact failed
  cases waiting with
  | failed failed => exact failure _ rfl failed
  | downloaded first between download raw body made edit split unseen idle read upload uploading =>
      obtain ⟨next, calling, -⟩ := uploading
      cases calling
  | fresh unseen same =>
      cases call : calls i with
      | write content =>
          have shape := write_shape backend helpers filePath content none
          rw [call, Call.operation] at same
          rw [← same] at shape
          cases upload : (Call.write content).upload helpers filePath none with
          | none =>
              rw [upload] at shape
              exact failure _ rfl shape
          | some made =>
              rw [upload] at shape
              obtain ⟨next, calling, -⟩ := shape
              cases calling
      | edit oldString newString replaceAll =>
          rw [call] at same
          cases same

variable (backend helpers filePath calls bucket) in
/-- **Calls that succeed undisturbed are in effect one after the other.** -/
theorem serializable_of_undisturbed (schedule : List (ι × Weather))
    (undisturbed : Undisturbed backend helpers filePath calls bucket schedule)
    (succeed : AllSucceed backend helpers filePath calls bucket schedule) :
    Serializable backend helpers filePath calls bucket schedule := by
  obtain ⟨order, progress⟩ := progress_execute undisturbed
  refine ⟨order, progress.nodup, fun i => ?_, progress.results, progress.content⟩
  by_contra missing
  obtain ⟨result, returned, success⟩ := succeed i
  have waiting := progress.waiting i missing
  rw [returned] at waiting
  exact not_succeeded_of_waiting waiting success

end Calls

/-! ## A lost update -/

/-- Two edits of different letters of the text `ab`. -/
def twoEdits : Bool → Call
  | true => .edit (py "a") (py "x") false
  | false => .edit (py "b") (py "y") false

/-- The bucket with the text `ab`. -/
def oneText : Bucket := SortedMap.empty.insert ⟨py "docs/f", by decide⟩ ⟨[97, 98], fair.now⟩

/-- Two edits that succeed without disturbing each other: both replacements are there. -/
theorem serializable_of_undisturbed_twoEdits :
    Serializable (S3Backend.init (py "corpus") (py "docs")) plainHelpers (py "/f") twoEdits oneText
      [(true, fair), (true, fair), (false, fair), (false, fair)] := by
  refine serializable_of_undisturbed _ _ _ _ _ _ ?_ ?_
  · intro first between after i download upload split unseen idle edit
    simp only [List.append_assoc, List.cons_append] at split
    match first, between with
    | [], [] =>
        cases split
        rfl
    | [_, _], [] =>
        cases split
        rfl
    | [], _ :: _ => grind
    | [_], _ => grind
    | [_, _], _ :: _ => grind
    | _ :: _ :: _ :: rest, _ => grind
  · intro i
    cases i with
    | true => exact ⟨_, rfl, rfl⟩
    | false => exact ⟨_, rfl, rfl⟩

/-- **Both edits read before either uploads: both report one replacement, and the second
upload undoes the first.** No order of the two calls gives that. -/
theorem edits_lost :
    let docs := S3Backend.init (py "corpus") (py "docs")
    let schedule := [(true, fair), (false, fair), (true, fair), (false, fair)]
    AllSucceed docs plainHelpers (py "/f") twoEdits oneText schedule ∧
      ¬ Serializable docs plainHelpers (py "/f") twoEdits oneText schedule := by
  intro docs schedule
  refine ⟨fun i => ?_, ?_⟩
  · cases i with
    | true => exact ⟨_, rfl, rfl⟩
    | false => exact ⟨_, rfl, rfl⟩
  · rintro ⟨order, nodup, all, -, content⟩
    have permuted : order.Perm [true, false] :=
      (List.perm_ext_iff_of_nodup nodup (by decide)).mpr fun i => by simp [all i]
    obtain ⟨first, second, rfl⟩ := List.length_eq_two.mp permuted.length_eq
    have apart : first ≠ second := by simpa using nodup
    revert content
    cases first with
    | true =>
        cases second with
        | true => exact absurd rfl apart
        | false => decide
    | false =>
        cases second with
        | true => decide
        | false => exact absurd rfl apart

end CarqnaAgent.Storage
