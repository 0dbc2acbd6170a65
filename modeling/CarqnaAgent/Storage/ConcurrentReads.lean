import Mathlib
import CarqnaAgent.Storage.Downloads

/-!
# Reading while others write

Any number of calls of the six operations at once, on any backends over one bucket.

`read` sends one request, so it returns what it returns alone in the bucket of one moment. `ls`
and `glob` send one for each page, and others may write between two of them. **They return what
they return alone in a bucket in which every key is as it was at one of these moments**, or the
error of a page. `grep` downloads between the pages, too. **What it searches was in the bucket,
file by file, when the file was downloaded; and a file that keeps its text throughout is
searched, when no request fails** (`reads_observe`).
-/

set_option autoImplicit false

namespace CarqnaAgent.Storage

open Foundations

/-! ## The operations that read -/

/-- The operation lists and downloads nothing. -/
def Operation.Lists : Operation → Prop
  | .ls _ => True
  | .glob _ _ => True
  | _ => False

namespace S3Backend

variable (backend : S3Backend) (helpers : Helpers)

theorem once_request (request : StoreRequest) :
    (Program.call request .ret : StoreProgram request.Response).Once := fun _ => trivial

theorem read_once (filePath : PyStr) (offset limit : ℤ) :
    (backend.read helpers filePath offset limit).Once := by
  refine Program.once_bind (once_request _) fun answer => ?_
  split
  · split
    · trivial
    · trivial
  · trivial
  · trivial

theorem perform_read_once (filePath : PyStr) (offset limit : ℤ) :
    (backend.perform helpers (.read filePath offset limit)).Once :=
  Program.once_bind (backend.read_once helpers filePath offset limit) fun _ => trivial

section Perform

variable {σ ω : Type} (service : Service StoreRequest StoreRequest.Response σ ω)
  (weather : ℕ → ω) (state : σ)

theorem run_perform_ls (path : PyStr) :
    ((backend.perform helpers (.ls path)).run service weather state).1 =
      (((backend.ls path).run service weather state).1).map .ls :=
  congrArg Prod.fst (Program.run_bind_ret service weather (backend.ls path)
    (Except.map OperationResult.ls) state)

theorem run_perform_glob (pattern : PyStr) (path : Option PyStr) :
    ((backend.perform helpers (.glob pattern path)).run service weather state).1 =
      (globAnswer helpers pattern path
        (backend.readAllFileMetadata.run service weather state).1).map .glob := by
  refine (congrArg Prod.fst (Program.run_bind_ret service weather
    (backend.glob helpers pattern path) (Except.map OperationResult.glob) state)).trans ?_
  rw [backend.run_glob_eq helpers service]

theorem run_perform_grep (pattern : PyStr) (path glob : Option PyStr) (maxCount : Option ℤ) :
    ((backend.perform helpers (.grep pattern path glob maxCount)).run service weather state).1 =
      (grepAnswer helpers pattern path glob maxCount
        ((backend.readAllFileContents helpers).run service weather state).1).map .grep := by
  refine (congrArg Prod.fst (Program.run_bind_ret service weather
    (backend.grep helpers pattern path glob maxCount) (Except.map OperationResult.grep)
    state)).trans ?_
  rw [backend.run_grep_eq helpers service]

end Perform

/-- **What a listing returns, among others**: what it returns alone in the outage of one of its
moments, or in a bucket pieced together from them. -/
theorem perform_lists_observed {operation : Operation} (lists : operation.Lists)
    (moments : ℕ → Weather × Bucket) :
    (∃ n, (moments n).1.outage ≠ none ∧
      ((backend.perform helpers operation).run store.observed moments ()).1 =
        ((backend.perform helpers operation).run store (fun _ => (moments n).1)
          (moments n).2).1) ∨
      ∃ seen, PiecedFrom moments seen ∧
        ((backend.perform helpers operation).run store.observed moments ()).1 =
          ((backend.perform helpers operation).run store (fun _ => fair) seen).1 := by
  cases operation with
  | ls path =>
      simp only [run_perform_ls]
      rcases backend.ls_observed moments path with ⟨n, error, outage, failed⟩ | ⟨seen, pieced, made⟩
      · refine .inl ⟨n, by simp [outage], ?_⟩
        rw [failed, ls, Program.run_bind, run_paginate_outage outage]
        rfl
      · refine .inr ⟨seen, pieced, ?_⟩
        rw [made, backend.run_ls_calm (fun _ => fair) seen path fun _ => rfl]
        rfl
  | glob pattern path =>
      simp only [run_perform_glob]
      rcases backend.readAllFileMetadata_observed moments with
        ⟨n, error, outage, failed⟩ | ⟨seen, pieced, made⟩
      · refine .inl ⟨n, by simp [outage], ?_⟩
        rw [failed, readAllFileMetadata, iterAllObjects, run_paginate_outage outage]
      · refine .inr ⟨seen, pieced, ?_⟩
        rw [made, backend.run_readAllFileMetadata_calm (fun _ => fair) seen fun _ => rfl]
  | read filePath offset limit => exact lists.elim
  | write filePath content => exact lists.elim
  | edit filePath oldString newString replaceAll => exact lists.elim
  | grep pattern path glob maxCount => exact lists.elim

end S3Backend

/-! ## The law -/

/-- **What a call that reads returns among any others.** Of any number of calls at once, one of
`read` that has returned gives what it gives alone in the bucket of one of its moments. One of `ls`
or `glob` gives what it gives alone in the outage of one of its moments, or in a bucket in which
every key is as it was at one of them. One of `grep` has the error of a page, or searches files
each of which was in the bucket with its text at one of its moments; a file with one text at all of
them is among these when no request of the call fails. -/
theorem reads_observe {ι : Type} [DecidableEq ι] (helpers : Helpers) (backends : ι → S3Backend)
    (operations : ι → Operation) (bucket : Bucket) (schedule : List (ι × Weather)) (i : ι)
    (outcome : Except PyException OperationResult) :
    let pool : Pool ι StoreRequest StoreRequest.Response (Except PyException OperationResult)
        Bucket := { threads := fun i => (backends i).perform helpers (operations i)
                    state := bucket }
    (pool.execute store schedule).threads i = .ret outcome →
    (∀ filePath offset limit, operations i = .read filePath offset limit →
      ∃ moment, pool.Moment store schedule i moment ∧
        outcome = (((backends i).perform helpers (operations i)).run store (fun _ => moment.1)
          moment.2).1) ∧
    ((operations i).Lists →
      (∃ moment, pool.Moment store schedule i moment ∧ moment.1.outage ≠ none ∧
        outcome = (((backends i).perform helpers (operations i)).run store (fun _ => moment.1)
          moment.2).1) ∨
      ∃ seen : Bucket,
        (∀ key, ∃ moment, pool.Moment store schedule i moment ∧
          seen.get? key = moment.2.get? key) ∧
        outcome = (((backends i).perform helpers (operations i)).run store (fun _ => fair)
          seen).1) ∧
    ∀ pattern path glob maxCount, operations i = .grep pattern path glob maxCount →
      (∃ moment error, pool.Moment store schedule i moment ∧ moment.1.outage = some error ∧
        outcome = .ok (.grep
          { error := some (py "Error searching for '" ++ pattern ++ py "': " ++ error.text) })) ∨
      ∃ files,
        outcome = .ok (.grep
          (helpers.grepMatchesFromFiles files pattern (path.getD slash) glob maxCount)) ∧
        (∀ filePath data, files.get? filePath = some data →
          ∃ (key : ObjectKey) (content : PyStr), (backends i).root <+: key.1 ∧
            ¬ slash <:+ key.1 ∧ (backends i).pathFor key.1 = filePath ∧
            helpers.createFileData content = data ∧
            ∃ moment, pool.Moment store schedule i moment ∧ moment.1.outage = none ∧
              S3Backend.fileText moment.2 key = some content) ∧
        ∀ (key : ObjectKey) (content : PyStr), (backends i).root <+: key.1 →
          ¬ slash <:+ key.1 →
          (∀ moment, pool.Moment store schedule i moment → moment.1.outage = none ∧
            S3Backend.fileText moment.2 key = some content) →
          files.get? ((backends i).pathFor key.1) = some (helpers.createFileData content) := by
  intro pool returned
  have ran := Pool.exists_run_of_returned returned
  refine ⟨fun filePath offset limit called => ?_, fun lists => ?_,
    fun pattern path glob maxCount called => ?_⟩
  · rcases ran with done | ⟨moments, held, ran⟩
    · change (backends i).perform helpers (operations i) = .ret outcome at done
      rw [called] at done
      exact absurd done Program.call_ne_ret
    · refine ⟨moments 0, held 0, ?_⟩
      change (((backends i).perform helpers (operations i)).run store.observed moments ()).1 =
        outcome at ran
      rw [← ran, called]
      exact Program.run_observed_of_once
        ((backends i).perform_read_once helpers filePath offset limit) moments
  · rcases ran with done | ⟨moments, held, ran⟩
    · change (backends i).perform helpers (operations i) = .ret outcome at done
      cases called : operations i with
      | ls path =>
          rw [called] at done
          exact absurd done Program.call_ne_ret
      | glob pattern path =>
          rw [called] at done
          exact absurd done Program.call_ne_ret
      | _ =>
          rw [called] at lists
          exact lists.elim
    · rcases (backends i).perform_lists_observed helpers lists moments with
        ⟨n, outage, alone⟩ | ⟨seen, pieced, alone⟩
      · exact .inl ⟨moments n, held n, outage, ran.symm.trans alone⟩
      · refine .inr ⟨seen, fun key => ?_, ran.symm.trans alone⟩
        obtain ⟨n, same⟩ := pieced key
        exact ⟨moments n, held n, same⟩
  · rcases ran with done | ⟨moments, held, ran⟩
    · change (backends i).perform helpers (operations i) = .ret outcome at done
      rw [called] at done
      exact absurd done Program.call_ne_ret
    · change (((backends i).perform helpers (operations i)).run store.observed moments ()).1 =
        outcome at ran
      rw [called, (backends i).run_perform_grep] at ran
      rcases (backends i).readAllFileContents_observed helpers moments with
        ⟨n, error, outage, failed⟩ | ⟨files, made, there, found⟩
      · rw [failed] at ran
        exact .inl ⟨moments n, error, held n, outage, ran.symm⟩
      · rw [made] at ran
        refine .inr ⟨files, ran.symm, fun filePath data looked => ?_,
          fun key content under file always => found key content under file fun n =>
            always _ (held n)⟩
        obtain ⟨key, content, under, file, located, created, n, calm, text⟩ :=
          there filePath data looked
        exact ⟨key, content, under, file, located, created, moments n, held n, calm, text⟩

/-- A listing and two uploads. -/
def listingAndUploads : Option Bool → Operation
  | none => .ls (py "/")
  | some false => .write (py "/a") (py "hi")
  | some true => .write (py "/z") (py "hi")

/-- Between the two pages of the listing, `/a` is uploaded to the first and then `/z` to the second:
`/z` is listed without `/a`, as it is at no moment. -/
example :
    let pool : Pool (Option Bool) StoreRequest StoreRequest.Response
        (Except PyException OperationResult) Bucket :=
      { threads := fun i =>
          (S3Backend.init (py "corpus") (py "docs")).perform plainHelpers (listingAndUploads i)
        state := SortedMap.empty }
    (pool.execute store [(none, { fair with cut := some ⟨py "docs/m", py "docs/m", 0⟩ }),
        (some false, fair), (some true, fair), (none, fair)]).threads none =
      .ret (.ok (.ls { entries := some [⟨py "/z", false, 2, fair.now.isoformat⟩] })) := rfl

/-- An upload and a read of one file. -/
def uploadAndRead : Bool → Operation
  | true => .read (py "/c") 0 10
  | false => .write (py "/c") (py "hi")

/-- The two calls as a pool. -/
def uploadAndReadPool : Pool Bool StoreRequest StoreRequest.Response
    (Except PyException OperationResult) Bucket where
  threads i := (S3Backend.init (py "corpus") (py "docs")).perform plainHelpers (uploadAndRead i)
  state := SortedMap.empty

/-- The read comes after the upload, and gives its text. -/
theorem reads_observe_uploadAndRead :
    ∃ moment, uploadAndReadPool.Moment store [(false, fair), (true, fair)] true moment ∧
      Except.ok (.read { file_data := some { content := py "hi", encoding := py "utf-8" } }) =
        (((S3Backend.init (py "corpus") (py "docs")).perform plainHelpers
          (.read (py "/c") 0 10)).run store (fun _ => moment.1) moment.2).1 := by
  have returned : (uploadAndReadPool.execute store [(false, fair), (true, fair)]).threads true =
      .ret (.ok (.read { file_data := some { content := py "hi", encoding := py "utf-8" } })) := rfl
  exact (reads_observe plainHelpers (fun _ => S3Backend.init (py "corpus") (py "docs"))
    uploadAndRead SortedMap.empty [(false, fair), (true, fair)] true _ returned).1 _ _ _ rfl

end CarqnaAgent.Storage
