import Mathlib
import CarqnaAgent.Corpus.InsuranceBackend
import CarqnaAgent.Storage.FileMap

/-!
# Where documents are uploaded and where they are looked for

`tools/sync-docs.sh` hands its destination to `s3cmd sync`, with exactly one slash more at
its end if there was none. `s3cmd` takes all behind the first slash after the bucket as
the start of the keys, as it stands. The backend cuts the same URI with `urlsplit` and
strips slashes.

**The two agree on a file exactly when the URI has no code point that `urlsplit` takes for
something else, and its path neither starts nor ends with two slashes**, and then what is
uploaded is read at its path (`sync_agrees_iff`).
-/

set_option autoImplicit false

namespace CarqnaAgent.Corpus

open Foundations Storage

/-! ## The uploader -/

/-- `${s%/}`. -/
def dropSlash (s : PyStr) : PyStr := if slash <:+ s then s.dropLast else s

/-- `s3cmd sync` with its two arguments. -/
structure SyncCommand where
  dryRun : Bool
  source : PyStr
  dest : PyStr
  deriving DecidableEq

/-- `tools/sync-docs.sh`: the command it runs, or its message. -/
def syncDocs (hasS3cmd isDirectory dryRun : Bool) (sourceDir s3Dest : PyStr) :
    Except PyStr SyncCommand :=
  if hasS3cmd = false then
    .error (py "Error: s3cmd not found on PATH. See README.md's 'Setup s3cmd' section.")
  else if isDirectory = false then
    .error (py "Error: source directory not found: " ++ sourceDir)
  else if (py "s3://").isPrefixOf s3Dest = false then
    .error (py "Error: S3_DEST must start with s3:// (got: " ++ s3Dest ++ py ")")
  else
    .ok ⟨dryRun, dropSlash sourceDir ++ slash, dropSlash s3Dest ++ slash⟩

/-- The bucket and the key prefix `s3cmd` takes from an `s3://` URI. -/
def s3cmdUri (uri : PyStr) : PyStr × PyStr := Url.cutAt (CodePoint.ofChar '/') (uri.drop 5)

/-- The bucket and the key of a file under the source directory. -/
def SyncCommand.target (command : SyncCommand) (file : PyStr) : PyStr × PyStr :=
  ((s3cmdUri command.dest).1, (s3cmdUri command.dest).2 ++ file)

/-- The part of an `s3://` URI up to the first slash: the bucket. -/
def bucketOf (uri : PyStr) : PyStr := (uri.drop 5).takeWhile (· ≠ CodePoint.ofChar '/')

/-- The part of an `s3://` URI from the first slash on. -/
def pathOf (uri : PyStr) : PyStr := (uri.drop 5).dropWhile (· ≠ CodePoint.ofChar '/')

/-! ## The destination -/

theorem dropSlash_append_slash (s : PyStr) :
    dropSlash s ++ slash = if slash <:+ s then s else s ++ slash := by
  rw [dropSlash]
  split
  · rename_i ends
    obtain ⟨front, rfl⟩ := ends
    exact congrArg (· ++ slash) (List.dropLast_concat)
  · rfl

/-- The path with a slash at its end. -/
def closed (path : PyStr) : PyStr := if slash <:+ path then path else path ++ slash

theorem subset_closed (path : PyStr) : path ⊆ closed path := by
  rw [closed]
  split
  · exact List.Subset.refl path
  · exact List.subset_append_left path slash

theorem not_special_of_slash {c : CodePoint} (same : c = CodePoint.ofChar '/') :
    c ∉ Url.specialChars := by
  rw [same]
  decide

theorem closed_cons {path : PyStr} (rooted : path = [] ∨ slash <+: path) :
    ∃ keyPrefix, closed path = slash ++ keyPrefix := by
  rw [closed]
  rcases rooted with rfl | ⟨rest, rfl⟩
  · exact ⟨[], rfl⟩
  · split
    · exact ⟨rest, rfl⟩
    · exact ⟨rest ++ slash, List.append_assoc _ _ _⟩

section Uri

variable {bucket path : PyStr} (bare : CodePoint.ofChar '/' ∉ bucket) (named : bucket ≠ [])
  (rooted : path = [] ∨ slash <+: path)
include bare named rooted

/-- The destination of the command names the bucket, and the path with a slash at its end. -/
theorem dest_of_uri :
    dropSlash (py "s3://" ++ (bucket ++ path)) ++ slash = py "s3://" ++ (bucket ++ closed path) := by
  have ends : slash <:+ py "s3://" ++ (bucket ++ path) ↔ slash <:+ path := by
    rcases rooted with rfl | ⟨rest, rfl⟩
    · have unslashed : ¬ slash <:+ py "s3://" ++ (bucket ++ []) := by
        rw [List.append_nil]
        exact not_slash_isSuffix_append ⟨named, bare⟩
      exact iff_of_false unslashed (by decide)
    · have filled : slash ++ rest ≠ [] := List.cons_ne_nil _ _
      rw [slash_isSuffix_iff, slash_isSuffix_iff, ← List.append_assoc,
        List.getLast?_append_of_ne_nil _ filled]
  rw [dropSlash_append_slash, closed]
  by_cases closed : slash <:+ path
  · rw [if_pos (ends.mpr closed), if_pos closed]
  · rw [if_neg fun last => closed (ends.mp last), if_neg closed, List.append_assoc,
      List.append_assoc]

/-- What `s3cmd` takes from the destination. -/
theorem s3cmdUri_dest {keyPrefix : PyStr} (split : closed path = slash ++ keyPrefix) :
    s3cmdUri (dropSlash (py "s3://" ++ (bucket ++ path)) ++ slash) = (bucket, keyPrefix) := by
  rw [dest_of_uri bare named rooted, split]
  exact Url.cutAt_append bare keyPrefix

end Uri

/-- Two slashes at an end of a path stay there when it is closed, and its base has none. -/
theorem not_doubled_of_closed {path : PyStr} (same : closed path = slash ++ dirBase path) :
    ¬ slash ++ slash <+: path ∧ ¬ slash ++ slash <:+ path := by
  constructor
  · intro starts
    have kept : slash ++ slash <+: closed path := by
      rw [closed]
      split
      · exact starts
      · exact starts.trans (List.prefix_append _ _)
    rw [same, List.prefix_append_right_inj] at kept
    have unslashed : ¬ slash <+: dirBase path ++ [] :=
      not_slash_isPrefix_dirBase_append (List.not_mem_nil)
    rw [List.append_nil] at unslashed
    exact unslashed kept
  · intro ends
    have closes : slash <:+ path := (List.suffix_append slash slash).trans ends
    rw [closed, if_pos closes] at same
    by_cases empty : PyStr.strip slash path = []
    · rw [dirBase, if_pos empty, List.append_nil] at same
      rw [same] at ends
      exact absurd ends (by decide)
    · rw [dirBase, if_neg empty, ← List.append_assoc] at same
      obtain ⟨front, split⟩ := ends
      rw [same, ← List.append_assoc, List.append_cancel_right_eq] at split
      have last : slash <:+ slash ++ PyStr.strip slash path := ⟨front, split⟩
      rw [slash_isSuffix_iff, List.getLast?_append_of_ne_nil _ empty] at last
      have dropped := PyStr.stripBy_getLast? last
      simp [slash, py] at dropped

/-- **The path is closed by the base of the directory it names, exactly when it neither starts
nor ends with two slashes.** -/
theorem closed_eq_iff {path : PyStr} (rooted : path = [] ∨ slash <+: path) :
    closed path = slash ++ dirBase path ↔
      ¬ slash ++ slash <+: path ∧ ¬ slash ++ slash <:+ path := by
  refine ⟨not_doubled_of_closed, ?_⟩
  rintro ⟨starts, ends⟩
  have slashes : ∀ c ∈ slash, c = CodePoint.ofChar '/' := by simp [slash, py]
  rcases rooted with rfl | ⟨rest, rfl⟩
  · rfl
  · rw [List.prefix_append_right_inj] at starts
    by_cases empty : rest = []
    · subst empty
      rfl
    · by_cases last : slash <:+ rest
      · obtain ⟨rel, rfl⟩ := last
        have filled : rel ≠ [] := by
          rintro rfl
          exact starts (List.prefix_append _ _)
        have starts' : ¬ slash <+: rel := fun first => starts (first.trans (List.prefix_append _ _))
        have ends' : ¬ slash <:+ rel := by
          rintro ⟨front, rfl⟩
          exact ends ⟨slash ++ front, by simp only [List.append_assoc]⟩
        have stripped : PyStr.strip slash (slash ++ (rel ++ slash)) = rel := by
          rw [← List.append_assoc]
          exact strip_slashes slashes slashes starts' ends'
        have closes : slash <:+ slash ++ (rel ++ slash) :=
          (List.suffix_append rel slash).trans (List.suffix_append _ _)
        rw [closed, if_pos closes, dirBase, stripped, if_neg filled]
      · have stripped : PyStr.strip slash (slash ++ rest) = rest := by
          have whole := strip_slashes slashes (List.forall_mem_nil _) starts last
          rwa [List.append_nil] at whole
        have opens : ¬ slash <:+ slash ++ rest := by
          rw [slash_isSuffix_iff, List.getLast?_append_of_ne_nil _ empty, ← slash_isSuffix_iff]
          exact last
        rw [closed, if_neg opens, dirBase, stripped, if_neg empty, List.append_assoc]

/-! ## The two places -/

/-- The parts of an `s3://` URI. -/
theorem uri_parts {uri : PyStr} (accepted : py "s3://" <+: uri) :
    py "s3://" ++ (bucketOf uri ++ pathOf uri) = uri ∧ CodePoint.ofChar '/' ∉ bucketOf uri ∧
      (pathOf uri = [] ∨ slash <+: pathOf uri) := by
  obtain ⟨rest, rfl⟩ := accepted
  have dropped : (py "s3://" ++ rest).drop 5 = rest := rfl
  rw [bucketOf, pathOf, dropped, List.takeWhile_append_dropWhile]
  refine ⟨rfl, Url.not_mem_fst_cutAt (CodePoint.ofChar '/') rest, ?_⟩
  cases cut : rest.dropWhile (· ≠ CodePoint.ofChar '/') with
  | nil => exact .inl rfl
  | cons c tail =>
      have first := List.head?_dropWhile_not (· ≠ CodePoint.ofChar '/') rest
      rw [cut] at first
      have same : c = CodePoint.ofChar '/' := by simpa using first
      exact .inr ⟨tail, by rw [same]; rfl⟩

section Target

variable {uri : PyStr} {command : SyncCommand} {sourceDir : PyStr} {dryRun : Bool}
  (accepted : syncDocs true true dryRun sourceDir uri = .ok command)
include accepted

theorem starts_of_accepted :
    py "s3://" <+: uri ∧ command.dest = dropSlash uri ++ slash := by
  rw [syncDocs, if_neg (by decide), if_neg (by decide)] at accepted
  split at accepted
  · cases accepted
  · rename_i starts
    cases accepted
    rw [Bool.not_eq_false, List.isPrefixOf_iff_prefix] at starts
    exact ⟨starts, rfl⟩

/-- A backend looks for a file where it is uploaded when it has the bucket, and the closed path
for its root. -/
theorem target_eq_iff (named : bucketOf uri ≠ []) {file : PyStr} (relative : ¬ slash <+: file)
    (backend : S3Backend) :
    command.target file = (backend.bucket, backend.keyFor (slash ++ file)) ↔
      bucketOf uri = backend.bucket ∧ closed (pathOf uri) = slash ++ backend.root := by
  obtain ⟨starts, dest⟩ := starts_of_accepted accepted
  obtain ⟨whole, bare, rooted⟩ := uri_parts starts
  obtain ⟨keyPrefix, split⟩ := closed_cons rooted
  have taken := s3cmdUri_dest bare named rooted split
  rw [whole, ← dest] at taken
  rw [SyncCommand.target, taken, split, S3Backend.keyFor_eq, lstrip_slash_append,
    lstrip_eq_self_iff.mpr relative, Prod.mk.injEq, List.append_cancel_left_eq,
    List.append_cancel_right_eq]

end Target

/-! ## The law -/

/-- What is uploaded for a file is read at its path. -/
def ReadBack (backend : S3Backend) (command : SyncCommand) (file : PyStr) : Prop :=
  ∀ (helpers : Helpers) (offset limit : ℤ) (weather : ℕ → Weather) (bucket : Bucket)
    (key : ObjectKey) (object : StoredObject), (∀ n, (weather n).outage = none) →
    key.1 = (command.target file).2 → bucket.get? key = some object →
    (backend.read helpers (slash ++ file) offset limit).run store weather bucket =
      (.ok (S3Backend.readBody helpers (slash ++ file) offset limit object.body), bucket)

theorem readBack_of_target {backend : S3Backend} {command : SyncCommand} {file : PyStr}
    (same : command.target file = (backend.bucket, backend.keyFor (slash ++ file))) :
    ReadBack backend command file := by
  intro helpers offset limit weather bucket key object calm synced present
  have address : key.1 = backend.keyFor (slash ++ file) := by rw [synced, same]
  rw [backend.run_read_calm helpers calm address, present]

/-- **The uploader and the backend agree on a file, and what is uploaded is read at its path,
exactly when** the URI has no code point that `urlsplit` takes for something else, `urlsplit`
accepts the bucket, and the path neither starts nor ends with two slashes. -/
theorem sync_agrees_iff (system : System) (environ : Environ) (uri file : PyStr)
    (located : environ (py "INSURANCE_DOCS_ROOT") = some uri) (settings : S3Settings)
    (configured : s3Settings environ = .ok settings) (sourceDir : PyStr) (dryRun : Bool)
    (command : SyncCommand) (accepted : syncDocs true true dryRun sourceDir uri = .ok command)
    (named : bucketOf uri ≠ []) (relative : ¬ slash <+: file) :
    (∃ backend settings, createInsuranceBackend system environ = .ok (.s3 backend settings) ∧
      command.target file = (backend.bucket, backend.keyFor (slash ++ file)) ∧
      ReadBack backend command file) ↔
    (∀ c ∈ uri, c ∉ Url.specialChars) ∧ system.refusedNetloc (bucketOf uri) = false ∧
      ¬ slash ++ slash <+: pathOf uri ∧ ¬ slash ++ slash <:+ pathOf uri := by
  obtain ⟨starts, -⟩ := starts_of_accepted accepted
  obtain ⟨whole, bare, rooted⟩ := uri_parts starts
  have cut : (∀ c ∈ uri, c ∉ Url.specialChars) → urlsplit system.refusedNetloc uri =
      if system.refusedNetloc (bucketOf uri) then none
      else some ⟨py "s3", bucketOf uri, pathOf uri, [], []⟩ := by
    intro plain
    have valid : Url.IsScheme (py "s3") := ⟨by decide, by simp [py, Url.schemeChars], by decide⟩
    have inside : ∀ c ∈ bucketOf uri ++ pathOf uri, c ∉ Url.specialChars := fun c member =>
      plain c (whole ▸ List.mem_append_right _ member)
    have split : urlsplit system.refusedNetloc
        (py "s3" ++ py "://" ++ (bucketOf uri ++ pathOf uri)) = _ :=
      urlsplit_location valid inside bare rooted
    have signs : py "s3" ++ py "://" = py "s3://" := rfl
    rw [signs, whole] at split
    exact split
  constructor
  · rintro ⟨backend, settings', created, same, -⟩
    obtain ⟨bucket, base⟩ := (target_eq_iff accepted named relative backend).mp same
    obtain ⟨parts, split, netloc, root⟩ := exists_parts_of_created located created
    rw [root] at base
    have plain : ∀ c ∈ uri, c ∉ Url.specialChars := by
      intro c member
      rw [← whole] at member
      rcases List.mem_append.mp member with sign | inside
      · have signs : (py "s3://").all (fun c => decide (c ∉ Url.specialChars)) = true := by decide
        exact of_decide_eq_true (List.all_eq_true.mp signs c sign)
      · rcases List.mem_append.mp inside with inside | inside
        · rw [bucket, netloc] at inside
          exact plain_of_urlsplit split (.inl inside)
        · have kept : c ∈ slash ++ dirBase parts.path := base ▸ subset_closed _ inside
          rcases List.mem_append.mp kept with first | later
          · exact not_special_of_slash (List.mem_singleton.mp first)
          · rcases mem_dirBase later with below | last
            · exact plain_of_urlsplit split (.inr below)
            · exact not_special_of_slash last
    rw [cut plain] at split
    split at split
    · cases split
    · rename_i accepts
      cases split
      exact ⟨plain, Bool.eq_false_of_not_eq_true accepts, not_doubled_of_closed base⟩
  · rintro ⟨plain, accepts, undoubled⟩
    have split := cut plain
    rw [if_neg (by rw [accepts]; exact Bool.false_ne_true)] at split
    have placed := (target_eq_iff accepted named relative
      (S3Backend.init (bucketOf uri) (PyStr.lstrip slash (pathOf uri)))).mpr ⟨rfl, by
        rw [root_init_lstrip]
        exact (closed_eq_iff rooted).mpr undoubled⟩
    exact ⟨_, settings, createInsuranceBackend_of_plain located split rfl configured, placed,
      readBack_of_target placed⟩

/-- An environment with the variables of an S3 store. -/
def s3Environ (uri : PyStr) : Environ := fun name =>
  if name = py "INSURANCE_DOCS_ROOT" then some uri
  else if name = py "S3_ENDPOINT_URL" ∨ name = py "S3_ACCESS_KEY_ID" ∨
      name = py "S3_SECRET_ACCESS_KEY" then some (py "carqna")
  else none

/-- A system without files that takes every location. -/
def plainSystem : System := ⟨id, fun _ => false, fun _ => false⟩

/-- Where the backend of an S3 URI looks for a file. -/
def lookedUp (uri file : PyStr) : Option (PyStr × PyStr) :=
  match createInsuranceBackend plainSystem (s3Environ uri) with
  | .ok (.s3 backend _) => some (backend.bucket, backend.keyFor (slash ++ file))
  | _ => none

/-- The handbooks of a state are found where they are uploaded. -/
theorem sync_agrees_iff_handbooks :
    let command : SyncCommand := ⟨false, py "docs/", py "s3://carqna/insurance-docs/"⟩
    let handbook := py "texas/handbook.md"
    ∃ backend settings, createInsuranceBackend plainSystem
        (s3Environ (py "s3://carqna/insurance-docs")) = .ok (.s3 backend settings) ∧
      command.target handbook = (backend.bucket, backend.keyFor (slash ++ handbook)) ∧
      ReadBack backend command handbook := by
  have plain : (py "s3://carqna/insurance-docs").all
      (fun c => decide (c ∉ Url.specialChars)) = true := by decide
  have settings : s3Settings (s3Environ (py "s3://carqna/insurance-docs")) =
      .ok ⟨py "carqna", py "carqna", py "carqna", py "us-east-1"⟩ := by decide
  exact (sync_agrees_iff plainSystem (s3Environ (py "s3://carqna/insurance-docs"))
    (py "s3://carqna/insurance-docs") (py "texas/handbook.md") rfl _ settings (py "docs") false _
    rfl (by decide) (by decide)).mpr
      ⟨fun c member => of_decide_eq_true (List.all_eq_true.mp plain c member), rfl, by decide,
        by decide⟩

/-- A `#` in the URI cuts the key prefix of the backend short, and a second slash after the
bucket is in the keys that are uploaded and not in those that are looked for. -/
theorem sync_disagrees :
    let uploaded := fun uri => (syncDocs true true false (py "docs") uri).toOption.map fun command =>
      command.target (py "a.md")
    uploaded (py "s3://carqna/docs#2024") = some (py "carqna", py "docs#2024/a.md") ∧
      lookedUp (py "s3://carqna/docs#2024") (py "a.md") = some (py "carqna", py "docs/a.md") ∧
      uploaded (py "s3://carqna//docs") = some (py "carqna", py "/docs/a.md") ∧
      lookedUp (py "s3://carqna//docs") (py "a.md") = some (py "carqna", py "docs/a.md") := by
  refine ⟨?_, ?_, ?_, ?_⟩
  · decide
  · decide
  · decide
  · decide

end CarqnaAgent.Corpus
