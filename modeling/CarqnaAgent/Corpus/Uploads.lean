import Mathlib
import CarqnaAgent.Corpus.SyncDocs

/-!
# A run of the uploader

`tools/sync-docs.sh` from its arguments on: the options as `getopts` reads them, the checks,
and the call of `s3cmd sync`. `s3cmd` and the local files are parameters; what is used of
`s3cmd` is what it documents (`SyncsFiles`).

**A run changes a bucket only for two operands and no option. The backend that is created
for the same URI then has the files of the folder laid over those it had, nothing outside its
root is touched, and a second run changes nothing** (`documents_synced`).
-/

set_option autoImplicit false

namespace CarqnaAgent.Corpus

open Foundations Storage

/-! ## The arguments -/

/-- The options in one argument: `-n` is a dry run, and `-h` and what is no option end the
script with a status. -/
def readCluster : PyStr → Bool → Except ℕ Bool
  | [], dryRun => .ok dryRun
  | c :: options, _ =>
      if c = CodePoint.ofChar 'n' then readCluster options true
      else if c = CodePoint.ofChar 'h' then .error 0
      else .error 1

/-- The options of an argument that has some. -/
def optionsOf : PyStr → Option PyStr
  | dash :: option :: options =>
      if dash = CodePoint.ofChar '-' then some (option :: options) else none
  | _ => none

/-- `while getopts "nh" opt`: whether it is a dry run, and the operands. -/
def getopts : List PyStr → Bool → Except ℕ (Bool × List PyStr)
  | [], dryRun => .ok (dryRun, [])
  | argument :: arguments, dryRun =>
      if argument = py "--" then .ok (dryRun, arguments)
      else
        match optionsOf argument with
        | none => .ok (dryRun, argument :: arguments)
        | some options =>
            match readCluster options dryRun with
            | .error status => .error status
            | .ok dryRun => getopts arguments dryRun

/-- The files below a directory, by their relative paths. -/
structure Folder where
  files : List (PyStr × Bytes)
  distinct : (files.map Prod.fst).Nodup
  relative : ∀ file ∈ files, file.1 ≠ [] ∧ ¬ slash <+: file.1 ∧ ¬ slash <:+ file.1

/-- The local directories. A slash more at its end names the same one. -/
structure LocalFiles where
  directory : PyStr → Option Folder
  slashed : ∀ path folder, directory path = some folder →
    directory (dropSlash path ++ slash) = some folder

/-- How the script ends before it calls `s3cmd`: with its usage, or with a message. -/
inductive Refusal where
  | usage (status : ℕ)
  | failed (message : PyStr)
  deriving DecidableEq

section Script

variable (hasS3cmd : Bool) (localFiles : LocalFiles)

/-- The script up to the call. -/
def script (arguments : List PyStr) : Except Refusal SyncCommand :=
  match getopts arguments false with
  | .error status => .error (.usage status)
  | .ok (dryRun, [sourceDir, s3Dest]) =>
      match syncDocs hasS3cmd (localFiles.directory sourceDir).isSome dryRun sourceDir s3Dest with
      | .error message => .error (.failed message)
      | .ok command => .ok command
  | .ok _ => .error (.usage 1)

/-- The buckets of a store. -/
abbrev Buckets := PyStr → Bucket

variable (s3cmd : SyncCommand → Folder → Buckets → Buckets)

/-- The buckets after the script. -/
def syncRun (arguments : List PyStr) (buckets : Buckets) : Buckets :=
  match script hasS3cmd localFiles arguments with
  | .error _ => buckets
  | .ok command =>
      match localFiles.directory command.source with
      | none => buckets
      | some folder => s3cmd command folder buckets

/-- The object at the target of each file has the bytes of the file. -/
def UpToDate (command : SyncCommand) (folder : Folder) (buckets : Buckets) : Prop :=
  ∀ file ∈ folder.files, ∀ (name : PyStr) (key : ObjectKey), command.target file.1 = (name, key.1) →
    ((buckets name).get? key).map StoredObject.body = some file.2

/-- The destination names a bucket. -/
def NamesBucket (command : SyncCommand) : Prop := (s3cmdUri command.dest).1 ≠ []

/-- What `s3cmd sync` documents: a dry run uploads nothing, and a run to a bucket uploads the
files that are not at their targets, and touches no other object. -/
structure SyncsFiles : Prop where
  rehearses : ∀ command folder buckets, command.dryRun = true →
    s3cmd command folder buckets = buckets
  uploads : ∀ command folder buckets, NamesBucket command → command.dryRun = false →
    UpToDate command folder (s3cmd command folder buckets)
  spares : ∀ command folder buckets, NamesBucket command → ∀ (name : PyStr) (key : ObjectKey),
    (∀ file ∈ folder.files, command.target file.1 ≠ (name, key.1)) →
      (s3cmd command folder buckets name).get? key = (buckets name).get? key
  settles : ∀ command folder buckets, NamesBucket command → UpToDate command folder buckets →
    s3cmd command folder buckets = buckets

end Script

/-! ## What the arguments say -/

theorem readCluster_true {options : PyStr} {dryRun : Bool}
    (read : readCluster options true = .ok dryRun) : dryRun = true := by
  induction options with
  | nil =>
      cases read
      rfl
  | cons c options ih =>
      rw [readCluster] at read
      split_ifs at read with option
      exact ih read

theorem readCluster_cons {c : CodePoint} {options : PyStr} {dryRun given : Bool}
    (read : readCluster (c :: options) given = .ok dryRun) : dryRun = true := by
  rw [readCluster] at read
  split_ifs at read with option
  exact readCluster_true read

theorem optionsOf_ne_nil {argument options : PyStr} (found : optionsOf argument = some options) :
    ∃ c rest, options = c :: rest := by
  unfold optionsOf at found
  split at found
  · split_ifs at found
    cases found
    exact ⟨_, _, rfl⟩
  · cases found

/-- A dry run stays one. -/
theorem getopts_true {arguments operands : List PyStr} {dryRun : Bool}
    (read : getopts arguments true = .ok (dryRun, operands)) : dryRun = true := by
  induction arguments with
  | nil =>
      cases read
      rfl
  | cons argument arguments ih =>
      rw [getopts] at read
      split_ifs at read with ends
      · cases read
        rfl
      · cases found : optionsOf argument with
        | none =>
            rw [found] at read
            cases read
            rfl
        | some options =>
            rw [found] at read
            cases cluster : readCluster options true with
            | error status => simp [cluster] at read
            | ok later =>
                obtain rfl := readCluster_true cluster
                simp only [cluster] at read
                exact ih read

/-- **It is no dry run only without options.** -/
theorem getopts_eq_false {arguments operands : List PyStr}
    (read : getopts arguments false = .ok (false, operands)) :
    arguments = operands ∨ arguments = py "--" :: operands := by
  cases arguments with
  | nil =>
      cases read
      exact .inl rfl
  | cons argument arguments =>
      rw [getopts] at read
      split_ifs at read with ends
      · cases read
        exact .inr (by rw [ends])
      · cases found : optionsOf argument with
        | none =>
            rw [found] at read
            cases read
            exact .inl rfl
        | some options =>
            obtain ⟨c, rest, rfl⟩ := optionsOf_ne_nil found
            rw [found] at read
            cases cluster : readCluster (c :: rest) false with
            | error status => simp [cluster] at read
            | ok later =>
                obtain rfl := readCluster_cons cluster
                simp only [cluster] at read
                exact absurd (getopts_true read) Bool.false_ne_true

theorem syncDocs_eq_ok_iff {hasS3cmd isDirectory dryRun : Bool} {sourceDir s3Dest : PyStr}
    {command : SyncCommand} :
    syncDocs hasS3cmd isDirectory dryRun sourceDir s3Dest = .ok command ↔
      hasS3cmd = true ∧ isDirectory = true ∧ py "s3://" <+: s3Dest ∧
        command = ⟨dryRun, dropSlash sourceDir ++ slash, dropSlash s3Dest ++ slash⟩ := by
  rw [syncDocs]
  split_ifs with missing absent scheme
  · simp [missing]
  · simp [absent]
  · have starts : ¬ py "s3://" <+: s3Dest := by
      rw [← List.isPrefixOf_iff_prefix, scheme]
      exact Bool.false_ne_true
    simp [starts]
  · have starts : py "s3://" <+: s3Dest := by
      rw [← List.isPrefixOf_iff_prefix]
      simpa using scheme
    simp only [Bool.not_eq_false] at missing absent
    simp [missing, absent, starts, eq_comm]

section Run

variable {hasS3cmd : Bool} {localFiles : LocalFiles}
  {s3cmd : SyncCommand → Folder → Buckets → Buckets} {arguments : List PyStr}
  {buckets : Buckets} {dryRun : Bool} {sourceDir s3Dest : PyStr} {folder : Folder}

/-- **The script comes to its call exactly for two operands that pass the checks.** -/
theorem script_eq_ok_iff {command : SyncCommand} :
    script hasS3cmd localFiles arguments = .ok command ↔
      ∃ dryRun sourceDir s3Dest, getopts arguments false = .ok (dryRun, [sourceDir, s3Dest]) ∧
        hasS3cmd = true ∧ (localFiles.directory sourceDir).isSome = true ∧
        py "s3://" <+: s3Dest ∧
        command = ⟨dryRun, dropSlash sourceDir ++ slash, dropSlash s3Dest ++ slash⟩ := by
  rw [script]
  split
  · rename_i status read
    simp [read]
  · rename_i dryRun sourceDir s3Dest read
    cases run : syncDocs hasS3cmd (localFiles.directory sourceDir).isSome dryRun sourceDir
        s3Dest with
    | error message =>
        refine iff_of_false (by simp) ?_
        rintro ⟨_, _, _, same, checks⟩
        rw [read] at same
        cases same
        rw [syncDocs_eq_ok_iff.mpr checks] at run
        cases run
    | ok made =>
        have checks := syncDocs_eq_ok_iff.mp run
        constructor
        · rintro same
          cases same
          exact ⟨_, _, _, read, checks⟩
        · rintro ⟨_, _, _, same, checks'⟩
          rw [read] at same
          cases same
          rw [syncDocs_eq_ok_iff.mpr checks'] at run
          cases run
          rfl
  · rename_i other two read
    refine iff_of_false (by simp) ?_
    rintro ⟨dryRun, sourceDir, s3Dest, same, -⟩
    rw [read] at same
    exact two dryRun sourceDir s3Dest (Except.ok.inj same)

/-- A run of the script is a run of `s3cmd` on the folder, or nothing. -/
theorem syncRun_cases (hasS3cmd : Bool) (localFiles : LocalFiles) (arguments : List PyStr)
    (buckets : Buckets) :
    syncRun hasS3cmd localFiles s3cmd arguments buckets = buckets ∨
      ∃ dryRun sourceDir s3Dest folder, hasS3cmd = true ∧
        getopts arguments false = .ok (dryRun, [sourceDir, s3Dest]) ∧
        localFiles.directory sourceDir = some folder ∧ py "s3://" <+: s3Dest ∧
        syncRun hasS3cmd localFiles s3cmd arguments buckets =
          s3cmd ⟨dryRun, dropSlash sourceDir ++ slash, dropSlash s3Dest ++ slash⟩ folder
            buckets := by
  cases run : script hasS3cmd localFiles arguments with
  | error refusal => exact .inl (by simp only [syncRun, run])
  | ok command =>
      obtain ⟨dryRun, sourceDir, s3Dest, read, has, isDirectory, starts, rfl⟩ :=
        script_eq_ok_iff.mp run
      obtain ⟨folder, there⟩ := Option.isSome_iff_exists.mp isDirectory
      refine .inr ⟨dryRun, sourceDir, s3Dest, folder, has, read, there, starts, ?_⟩
      simp only [syncRun, run, localFiles.slashed sourceDir folder there]

theorem syncRun_of_read (localFiles : LocalFiles)
    (read : getopts arguments false = .ok (dryRun, [sourceDir, s3Dest]))
    (there : localFiles.directory sourceDir = some folder) (starts : py "s3://" <+: s3Dest)
    (buckets : Buckets) :
    syncRun true localFiles s3cmd arguments buckets =
      s3cmd ⟨dryRun, dropSlash sourceDir ++ slash, dropSlash s3Dest ++ slash⟩ folder buckets := by
  have run : script true localFiles arguments = .ok _ :=
    script_eq_ok_iff.mpr ⟨dryRun, sourceDir, s3Dest, read, rfl,
      Option.isSome_of_eq_some there, starts, rfl⟩
  simp only [syncRun, run, localFiles.slashed sourceDir folder there]

/-- **A run changes a bucket only for two operands and no option.** -/
theorem operands_of_changed (documented : SyncsFiles s3cmd)
    (changed : syncRun hasS3cmd localFiles s3cmd arguments buckets ≠ buckets) :
    hasS3cmd = true ∧ ∃ sourceDir s3Dest,
      (arguments = [sourceDir, s3Dest] ∨ arguments = [py "--", sourceDir, s3Dest]) ∧
      (localFiles.directory sourceDir).isSome = true ∧ py "s3://" <+: s3Dest := by
  rcases syncRun_cases hasS3cmd localFiles arguments buckets with
    same | ⟨dryRun, sourceDir, s3Dest, folder, has, read, there, starts, ran⟩
  · exact absurd same changed
  · cases dryRun with
    | true =>
        rw [documented.rehearses _ _ _ rfl] at ran
        exact absurd ran changed
    | false =>
        exact ⟨has, sourceDir, s3Dest, getopts_eq_false read, Option.isSome_of_eq_some there,
          starts⟩

end Run

/-! ## What the backend sees -/

/-- The files of a folder laid over some files. -/
def overlay (folder : Folder) (files : FileMap) : FileMap := fun path =>
  match folder.files.find? fun file => slash ++ file.1 = path with
  | some file => some file.2
  | none => files path

section Overlay

variable {folder : Folder} {files : FileMap}

theorem overlay_of_mem {file : PyStr × Bytes} (member : file ∈ folder.files) :
    overlay folder files (slash ++ file.1) = some file.2 := by
  cases found : folder.files.find? fun other => slash ++ other.1 = slash ++ file.1 with
  | none =>
      have skipped := List.find?_eq_none.mp found file member
      simp at skipped
  | some other =>
      have named : other.1 = file.1 := by simpa using List.find?_some found
      have same : other = file :=
        List.inj_on_of_nodup_map folder.distinct (List.mem_of_find?_eq_some found) member named
      simp only [overlay, found, same]

theorem overlay_of_not_mem {path : PyStr}
    (absent : ∀ file ∈ folder.files, slash ++ file.1 ≠ path) :
    overlay folder files path = files path := by
  have missing : folder.files.find? (fun file => slash ++ file.1 = path) = none :=
    List.find?_eq_none.mpr fun file member => by simpa using absent file member
  simp only [overlay, missing]

end Overlay

section View

variable {backend : S3Backend} {s3cmd : SyncCommand → Folder → Buckets → Buckets}
  {command : SyncCommand} {folder : Folder}

/-- The command puts each file where the backend looks for it. -/
def Aligned (backend : S3Backend) (command : SyncCommand) (folder : Folder) : Prop :=
  ∀ file ∈ folder.files, command.target file.1 = (backend.bucket, backend.root ++ file.1)

/-- **A run of `s3cmd` lays the folder over the files of the backend.** -/
theorem fileMap_synced (documented : SyncsFiles s3cmd) (named : NamesBucket command)
    (real : command.dryRun = false)
    (aligned : Aligned backend command folder) (buckets : Buckets) :
    backend.fileMap (s3cmd command folder buckets backend.bucket) =
      overlay folder (backend.fileMap (buckets backend.bucket)) := by
  funext path
  by_cases inside : ∃ file ∈ folder.files, slash ++ file.1 = path
  · obtain ⟨file, member, rfl⟩ := inside
    obtain ⟨filled, -, ends⟩ := folder.relative file member
    have present : backend.root ++ file.1 ≠ [] := List.append_ne_nil_of_right_ne_nil _ filled
    have unmarked : ¬ slash <:+ backend.root ++ file.1 := by
      rw [slash_isSuffix_iff, List.getLast?_append_of_ne_nil _ filled, ← slash_isSuffix_iff]
      exact ends
    let key : ObjectKey := ⟨backend.root ++ file.1, present⟩
    have under : backend.root <+: key.1 := List.prefix_append _ _
    rw [overlay_of_mem member, ← backend.pathFor_root_append]
    exact (backend.fileMap_pathFor under unmarked _).trans
      (documented.uploads command folder buckets named real file member backend.bucket key
        (aligned file member))
  · have absent : ∀ file ∈ folder.files, slash ++ file.1 ≠ path :=
      fun file member same => inside ⟨file, member, same⟩
    rw [overlay_of_not_mem absent]
    have spared (stored : ObjectKey × StoredObject) (same : backend.pathFor stored.1.1 = path) :
        (s3cmd command folder buckets backend.bucket).get? stored.1 =
          (buckets backend.bucket).get? stored.1 := by
      refine documented.spares _ _ _ named _ _ fun file member here => absent file member ?_
      rw [aligned file member, Prod.mk.injEq] at here
      rw [← same, ← here.2, backend.pathFor_root_append]
    refine Option.ext fun body => ?_
    rw [backend.fileMap_eq_some, backend.fileMap_eq_some]
    refine exists_congr fun stored => ⟨?_, ?_⟩
    · rintro ⟨present, rest⟩
      exact ⟨spared stored rest.2.2.1 ▸ present, rest⟩
    · rintro ⟨present, rest⟩
      exact ⟨(spared stored rest.2.2.1).trans present, rest⟩

/-- It touches nothing outside the root of the backend. -/
theorem get?_synced_of_outside (documented : SyncsFiles s3cmd) (named : NamesBucket command)
    (aligned : Aligned backend command folder) (buckets : Buckets) {name : PyStr}
    {key : ObjectKey} (outside : ¬ (name = backend.bucket ∧ backend.root <+: key.1)) :
    (s3cmd command folder buckets name).get? key = (buckets name).get? key := by
  refine documented.spares _ _ _ named _ _ fun file member here => outside ?_
  rw [aligned file member, Prod.mk.injEq] at here
  exact ⟨here.1.symm, file.1, here.2⟩

theorem synced_twice (documented : SyncsFiles s3cmd) (named : NamesBucket command)
    (buckets : Buckets) :
    s3cmd command folder (s3cmd command folder buckets) = s3cmd command folder buckets := by
  cases dry : command.dryRun with
  | true => rw [documented.rehearses _ _ (s3cmd command folder buckets) dry]
  | false => exact documented.settles _ _ _ named (documented.uploads _ _ _ named dry)

end View

/-! ## The law -/

/-- `INSURANCE_DOCS_ROOT` is a plain URI of a bucket, and the store is configured. -/
structure Configured (system : System) (environ : Environ) (uri : PyStr) (settings : S3Settings) :
    Prop where
  located : environ (py "INSURANCE_DOCS_ROOT") = some uri
  settings : s3Settings environ = .ok settings
  starts : py "s3://" <+: uri
  named : bucketOf uri ≠ []
  plain : ∀ c ∈ uri, c ∉ Url.specialChars
  accepts : system.refusedNetloc (bucketOf uri) = false
  undoubled : ¬ slash ++ slash <+: pathOf uri ∧ ¬ slash ++ slash <:+ pathOf uri

/-- The backend of a URI. -/
def backendOf (uri : PyStr) : S3Backend :=
  S3Backend.init (bucketOf uri) (PyStr.lstrip slash (pathOf uri))

namespace Configured

variable {system : System} {environ : Environ} {uri : PyStr} {settings : S3Settings}
  (configured : Configured system environ uri settings)
include configured

theorem created : createInsuranceBackend system environ = .ok (.s3 (backendOf uri) settings) := by
  obtain ⟨whole, bare, rooted⟩ := uri_parts configured.starts
  have valid : Url.IsScheme (py "s3") := ⟨by decide, by simp [py, Url.schemeChars], by decide⟩
  have inside : ∀ c ∈ bucketOf uri ++ pathOf uri, c ∉ Url.specialChars := fun c member =>
    configured.plain c (whole ▸ List.mem_append_right _ member)
  have split : urlsplit system.refusedNetloc
      (py "s3" ++ py "://" ++ (bucketOf uri ++ pathOf uri)) = _ :=
    urlsplit_location valid inside bare rooted
  have signs : py "s3" ++ py "://" = py "s3://" := rfl
  rw [signs, whole, configured.accepts, if_neg Bool.false_ne_true] at split
  exact createInsuranceBackend_of_plain configured.located split rfl configured.settings

/-- The script uploads to a bucket. -/
theorem namesBucket (dryRun : Bool) (sourceDir : PyStr) :
    NamesBucket ⟨dryRun, dropSlash sourceDir ++ slash, dropSlash uri ++ slash⟩ := by
  obtain ⟨whole, bare, rooted⟩ := uri_parts configured.starts
  obtain ⟨keyPrefix, split⟩ := closed_cons rooted
  have taken := s3cmdUri_dest bare configured.named rooted split
  rw [whole] at taken
  rw [NamesBucket, taken]
  exact configured.named

/-- The script uploads to where this backend looks. -/
theorem aligned (dryRun : Bool) (sourceDir : PyStr) (folder : Folder) :
    Aligned (backendOf uri) ⟨dryRun, dropSlash sourceDir ++ slash, dropSlash uri ++ slash⟩
      folder := by
  intro file member
  obtain ⟨-, starts, -⟩ := folder.relative file member
  obtain ⟨-, -, rooted⟩ := uri_parts configured.starts
  have accepted : syncDocs true true dryRun sourceDir uri = .ok _ :=
    syncDocs_eq_ok_iff.mpr ⟨rfl, rfl, configured.starts, rfl⟩
  have placed := (target_eq_iff accepted configured.named starts (backendOf uri)).mpr
    ⟨rfl, by
      rw [backendOf, root_init_lstrip]
      exact (closed_eq_iff rooted).mpr configured.undoubled⟩
  rw [placed, S3Backend.keyFor_eq, lstrip_slash_append, lstrip_eq_self_iff.mpr starts]

end Configured

/-- **From a folder to the documents of the agent.** A run of the script changes a bucket only
for two operands, a directory and an `s3://` destination, and no option. For a destination that
is the plain `INSURANCE_DOCS_ROOT`, a run without options lays the folder over the files of the
backend that is created, touches nothing outside its root, and changes nothing the second time. -/
theorem documents_synced {s3cmd : SyncCommand → Folder → Buckets → Buckets}
    (documented : SyncsFiles s3cmd) (localFiles : LocalFiles) :
    (∀ hasS3cmd arguments buckets,
      syncRun hasS3cmd localFiles s3cmd arguments buckets ≠ buckets →
      hasS3cmd = true ∧ ∃ sourceDir s3Dest,
        (arguments = [sourceDir, s3Dest] ∨ arguments = [py "--", sourceDir, s3Dest]) ∧
        (localFiles.directory sourceDir).isSome = true ∧ py "s3://" <+: s3Dest) ∧
    ∀ (system : System) (environ : Environ) (uri : PyStr) (settings : S3Settings),
      Configured system environ uri settings →
      ∃ backend, createInsuranceBackend system environ = .ok (.s3 backend settings) ∧
        ∀ arguments sourceDir folder buckets,
          getopts arguments false = .ok (false, [sourceDir, uri]) →
          localFiles.directory sourceDir = some folder →
          let synced := syncRun true localFiles s3cmd arguments
          backend.fileMap (synced buckets backend.bucket) =
            overlay folder (backend.fileMap (buckets backend.bucket)) ∧
          (∀ (name : PyStr) (key : ObjectKey), ¬ (name = backend.bucket ∧ backend.root <+: key.1) →
            (synced buckets name).get? key = (buckets name).get? key) ∧
          synced (synced buckets) = synced buckets := by
  refine ⟨fun hasS3cmd arguments buckets => operands_of_changed documented, ?_⟩
  intro system environ uri settings configured
  refine ⟨backendOf uri, configured.created, ?_⟩
  intro arguments sourceDir folder buckets read there synced
  have named := configured.namesBucket false sourceDir
  have aligned := configured.aligned false sourceDir folder
  have run (buckets : Buckets) : syncRun true localFiles s3cmd arguments buckets =
      s3cmd ⟨false, dropSlash sourceDir ++ slash, dropSlash uri ++ slash⟩ folder buckets :=
    syncRun_of_read localFiles read there configured.starts buckets
  refine ⟨?_, fun name key outside => ?_, ?_⟩
  · simp only [synced, run]
    exact fileMap_synced documented named rfl aligned buckets
  · simp only [synced, run]
    exact get?_synced_of_outside documented named aligned buckets outside
  · simp only [synced, run]
    exact synced_twice documented named buckets

/-! ## An uploader -/

/-- Upload a file, unless its bytes are there. -/
def uploadFile (command : SyncCommand) (buckets : Buckets) (file : PyStr × Bytes) : Buckets :=
  if filled : (command.target file.1).2 ≠ [] then
    if ((buckets (command.target file.1).1).get? ⟨(command.target file.1).2, filled⟩).map
        StoredObject.body = some file.2 then buckets
    else Function.update buckets (command.target file.1).1
      ((buckets (command.target file.1).1).insert ⟨(command.target file.1).2, filled⟩
        ⟨file.2, fair.now⟩)
  else buckets

/-- An `s3cmd sync` that uploads the files one after the other. -/
def uploadAll (command : SyncCommand) (folder : Folder) (buckets : Buckets) : Buckets :=
  if command.dryRun then buckets else folder.files.foldl (uploadFile command) buckets

section Uploader

variable {command : SyncCommand} {buckets : Buckets} {name : PyStr} {key : ObjectKey}

theorem uploadFile_of_ne {file : PyStr × Bytes} (elsewhere : command.target file.1 ≠ (name, key.1)) :
    (uploadFile command buckets file name).get? key = (buckets name).get? key := by
  unfold uploadFile
  split_ifs with filled there
  · rfl
  · by_cases same : name = (command.target file.1).1
    · subst same
      rw [Function.update_self]
      refine SortedMap.get?_insert_of_ne fun here => elsewhere ?_
      rw [here]
    · rw [Function.update_of_ne same]
  · rfl

theorem uploadFile_target {file : PyStr × Bytes} (here : command.target file.1 = (name, key.1)) :
    ((uploadFile command buckets file name).get? key).map StoredObject.body = some file.2 := by
  have filled : (command.target file.1).2 ≠ [] := by
    rw [here]
    exact key.2
  have place : (⟨(command.target file.1).2, filled⟩ : ObjectKey) = key :=
    Subtype.ext (congrArg Prod.snd here)
  have bucket : (command.target file.1).1 = name := by rw [here]
  rw [uploadFile, dif_pos filled, place, bucket]
  split_ifs with there
  · exact there
  · rw [Function.update_self, SortedMap.get?_insert_self, Option.map_some]

theorem uploads_of_ne {files : List (PyStr × Bytes)}
    (elsewhere : ∀ file ∈ files, command.target file.1 ≠ (name, key.1)) :
    (files.foldl (uploadFile command) buckets name).get? key = (buckets name).get? key := by
  induction files generalizing buckets with
  | nil => rfl
  | cons file files ih =>
      obtain ⟨first, others⟩ := List.forall_mem_cons.mp elsewhere
      rw [List.foldl_cons, ih others, uploadFile_of_ne first]

/-- Files with different names have different targets. -/
theorem uploads_target {files : List (PyStr × Bytes)} (distinct : (files.map Prod.fst).Nodup)
    {file : PyStr × Bytes} (member : file ∈ files)
    (here : command.target file.1 = (name, key.1)) :
    ((files.foldl (uploadFile command) buckets name).get? key).map StoredObject.body =
      some file.2 := by
  induction files generalizing buckets with
  | nil => cases member
  | cons first files ih =>
      rw [List.map_cons, List.nodup_cons] at distinct
      rcases List.mem_cons.mp member with rfl | later
      · rw [List.foldl_cons, uploads_of_ne, uploadFile_target here]
        intro other inside same
        rw [← here, SyncCommand.target, SyncCommand.target, Prod.mk.injEq,
          List.append_cancel_left_eq] at same
        exact distinct.1 (same.2 ▸ List.mem_map_of_mem inside)
      · exact ih distinct.2 later

theorem uploads_of_upToDate {files : List (PyStr × Bytes)}
    (there : ∀ file ∈ files, ∀ (name : PyStr) (key : ObjectKey),
      command.target file.1 = (name, key.1) →
        ((buckets name).get? key).map StoredObject.body = some file.2) :
    files.foldl (uploadFile command) buckets = buckets := by
  induction files with
  | nil => rfl
  | cons file files ih =>
      obtain ⟨first, others⟩ := List.forall_mem_cons.mp there
      have same : uploadFile command buckets file = buckets := by
        unfold uploadFile
        split_ifs with filled present
        · rfl
        · exact absurd (first _ ⟨_, filled⟩ rfl) present
        · rfl
      rw [List.foldl_cons, same]
      exact ih others

end Uploader

theorem uploadAll_syncsFiles : SyncsFiles uploadAll where
  rehearses _ _ _ dry := if_pos dry
  uploads command folder buckets _ real file member name key here := by
    rw [uploadAll, real]
    exact uploads_target folder.distinct member here
  spares command folder buckets _ name key elsewhere := by
    rw [uploadAll]
    split_ifs
    · rfl
    · exact uploads_of_ne elsewhere
  settles command folder buckets _ there := by
    rw [uploadAll]
    split_ifs
    · rfl
    · exact uploads_of_upToDate there

/-- A folder with one document. -/
def handbook : Folder where
  files := [(py "texas.md", [104, 105])]
  distinct := by decide
  relative := by
    intro file member
    obtain rfl := List.mem_singleton.mp member
    decide

/-- One directory, with or without its slash. -/
def docsDirectory : LocalFiles where
  directory path := if path = py "docs" ∨ path = py "docs/" then some handbook else none
  slashed path folder there := by
    split_ifs at there with named
    rw [← there]
    rcases named with rfl | rfl
    · exact if_pos (.inr (by decide))
    · exact if_pos (.inr (by decide))

/-- A handbook is uploaded, and is among the files of the backend. -/
theorem documents_synced_handbook :
    ∃ backend settings, createInsuranceBackend plainSystem
        (s3Environ (py "s3://carqna/insurance-docs")) = .ok (.s3 backend settings) ∧
      backend.fileMap (syncRun true docsDirectory uploadAll
          [py "docs", py "s3://carqna/insurance-docs"] (fun _ => .empty) backend.bucket) =
        overlay handbook (backend.fileMap SortedMap.empty) := by
  have plain : (py "s3://carqna/insurance-docs").all
      (fun c => decide (c ∉ Url.specialChars)) = true := by decide
  have configured : Configured plainSystem (s3Environ (py "s3://carqna/insurance-docs"))
      (py "s3://carqna/insurance-docs") ⟨py "carqna", py "carqna", py "carqna", py "us-east-1"⟩ :=
    ⟨rfl, by decide, by decide, by decide,
      fun c member => of_decide_eq_true (List.all_eq_true.mp plain c member), rfl, by decide⟩
  obtain ⟨backend, created, view⟩ :=
    (documents_synced uploadAll_syncsFiles docsDirectory).2 _ _ _ _ configured
  have there : docsDirectory.directory (py "docs") = some handbook := by
    simp [docsDirectory]
  exact ⟨backend, _, created, (view _ _ handbook _ (by decide) there).1⟩

end CarqnaAgent.Corpus
