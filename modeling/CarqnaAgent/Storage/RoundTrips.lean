import Mathlib
import CarqnaAgent.Storage.Downloads

/-!
# Listing and addressing

What a listing reports is addressed by the path it reports under: always for `ls`,
and for `glob` and `grep` exactly when no slash follows the root in the key. What
`write` stores is found again by `glob` and `grep` exactly when the path names a file
(`NamesFile`: it is not empty and does not end with a slash), and by `ls` of the
parent directory exactly when that directory, moreover, does not end with two slashes
(`listing_and_addressing`).

They part at a key with an empty first segment, whose path leads to another key, and at a
path that ends with a slash, whose object every listing takes for a marker
(`listing_and_addressing_part`): `_key_for` and `_dir_key_prefix` strip all the slashes at an
end, `_path_for` puts one back.
-/

set_option autoImplicit false

namespace CarqnaAgent.Storage

open Foundations

/-! ## The parent directory -/

/-- A path up to its last slash. -/
def parentDirectory (path : PyStr) : PyStr := path.rdropWhile (· ≠ CodePoint.ofChar '/')

/-- The path is not empty and does not end with a slash. -/
def NamesFile (path : PyStr) : Prop := path ≠ [] ∧ ¬ slash <:+ path

theorem parentDirectory_append {directory name : PyStr} (ends : directory = [] ∨ slash <:+ directory)
    (slashFree : CodePoint.ofChar '/' ∉ name) : parentDirectory (directory ++ name) = directory := by
  induction name using List.reverseRecOn with
  | nil =>
      rw [List.append_nil, parentDirectory, List.rdropWhile_eq_self_iff]
      intro nonempty
      rcases ends with rfl | ends
      · exact absurd rfl nonempty
      · have last := slash_isSuffix_iff.mp ends
        rw [List.getLast?_eq_some_getLast nonempty] at last
        simpa using last
  | append_singleton name c ih =>
      have parts : CodePoint.ofChar '/' ∉ name ∧ CodePoint.ofChar '/' ≠ c := by
        simpa using slashFree
      rw [← List.append_assoc, parentDirectory, List.rdropWhile_concat_pos _ _ _
        (by simpa using Ne.symm parts.2)]
      exact ih parts.1

/-- Every path is its parent directory and a name. -/
theorem parentDirectory_split (path : PyStr) :
    ∃ name, path = parentDirectory path ++ name ∧ CodePoint.ofChar '/' ∉ name ∧
      (parentDirectory path = [] ∨ slash <:+ parentDirectory path) := by
  refine ⟨path.rtakeWhile (· ≠ CodePoint.ofChar '/'), ?_, ?_, ?_⟩
  · exact List.rdropWhile_append_rtakeWhile.symm
  · intro member
    simpa using List.mem_rtakeWhile_imp member
  · by_cases empty : parentDirectory path = []
    · exact .inl empty
    · right
      have last := List.rdropWhile_last_not (· ≠ CodePoint.ofChar '/') path empty
      rw [slash_isSuffix_iff, List.getLast?_eq_some_getLast empty]
      simpa [parentDirectory] using last

theorem parentDirectory_slash_append (rel : PyStr) :
    parentDirectory (slash ++ rel) = slash ++ parentDirectory rel := by
  obtain ⟨name, split, slashFree, ends⟩ := parentDirectory_split rel
  have deeper : slash <:+ slash ++ parentDirectory rel := by
    rcases ends with empty | ends
    · rw [empty, List.append_nil]
    · exact ends.trans (List.suffix_append _ _)
  conv_lhs => rw [split, ← List.append_assoc]
  exact parentDirectory_append (.inr deeper) slashFree

namespace S3Backend

variable (backend : S3Backend)

/-- The directory prefix of a directory is its key when the directory does not end with two
slashes. -/
theorem dirKeyPrefix_eq_iff {directory : PyStr} (ends : directory = [] ∨ slash <:+ directory)
    (starts : ¬ slash <+: directory) :
    backend.dirKeyPrefix (slash ++ directory) = backend.root ++ directory ↔
      ¬ slash ++ slash <:+ slash ++ directory := by
  have stripped : PyStr.strip slash (slash ++ directory) =
      PyStr.rstripBy (fun c => decide (c ∈ slash)) directory := by
    rw [PyStr.strip, PyStr.stripBy, ← PyStr.lstrip, lstrip_slash_append,
      lstrip_eq_self_iff.mpr starts]
  rw [dirKeyPrefix_eq, dirBase, stripped, List.append_cancel_left_eq]
  rcases ends with rfl | ⟨upper, rfl⟩
  · decide
  · have dropped : PyStr.rstripBy (fun c => decide (c ∈ slash)) (upper ++ slash) =
        PyStr.rstripBy (fun c => decide (c ∈ slash)) upper :=
      List.rdropWhile_concat_pos _ _ _ (by decide)
    cases upper with
    | nil => exact absurd List.prefix_rfl starts
    | cons c rest =>
        have nonempty : PyStr.rstripBy (fun c => decide (c ∈ slash)) (c :: rest) ≠ [] := by
          intro empty
          have first : c = CodePoint.ofChar '/' := by
            simpa [slash, py] using List.rdropWhile_eq_nil_iff.mp empty c List.mem_cons_self
          exact starts (slash_isPrefix_iff.mpr (by simp [first]))
        rw [dropped, if_neg nonempty, List.append_cancel_right_eq, rstrip_eq_self_iff,
          ← List.append_assoc, List.suffix_append_self_iff, slash_isSuffix_iff, slash_isSuffix_iff,
          List.getLast?_append_of_ne_nil _ (List.cons_ne_nil c rest)]

/-- A relative name is listed right under the directory of its path exactly when it names a
file and that directory does not end with two slashes. -/
theorem listed_under_parent_iff {rel : PyStr} (starts : ¬ slash <+: rel) :
    (∃ name, backend.root ++ rel =
        backend.dirKeyPrefix (parentDirectory (slash ++ rel)) ++ name ∧
      name ≠ [] ∧ CodePoint.ofChar '/' ∉ name) ↔
    NamesFile rel ∧ ¬ slash ++ slash <:+ parentDirectory (slash ++ rel) := by
  obtain ⟨base, split, slashFree, ends⟩ := parentDirectory_split rel
  have startsNot : ¬ slash <+: parentDirectory rel := fun above =>
    starts (above.trans (List.rdropWhile_prefix _ _))
  rw [parentDirectory_slash_append, ← backend.dirKeyPrefix_eq_iff ends startsNot]
  constructor
  · rintro ⟨name, same, nonempty, nameFree⟩
    rw [dirKeyPrefix_eq, List.append_assoc, List.append_cancel_left_eq] at same
    have parent := parentDirectory_append (dirBase_ends (slash ++ parentDirectory rel)) nameFree
    rw [← same] at parent
    refine ⟨⟨?_, ?_⟩, ?_⟩
    · rw [same]
      exact List.append_ne_nil_of_right_ne_nil _ nonempty
    · intro file
      rw [same, slash_isSuffix_iff, List.getLast?_append_of_ne_nil _ nonempty] at file
      exact nameFree (List.mem_of_getLast? file)
    · rw [dirKeyPrefix_eq, ← parent]
  · rintro ⟨⟨nonempty, file⟩, same⟩
    refine ⟨base, ?_, ?_, slashFree⟩
    · rw [same, List.append_assoc, ← split]
    · rintro rfl
      rw [List.append_nil] at split
      rcases ends with empty | ends
      · exact nonempty (split.trans empty)
      · exact file (split ▸ ends)

/-! ## What is written -/

theorem namesFile_lstrip_iff (path : PyStr) : NamesFile (PyStr.lstrip slash path) ↔ NamesFile path := by
  have split : path.takeWhile (fun c => decide (c ∈ slash)) ++ PyStr.lstrip slash path = path :=
    List.takeWhile_append_dropWhile
  cases rel : PyStr.lstrip slash path with
  | nil =>
      rw [rel, List.append_nil] at split
      refine ⟨fun file => absurd rfl file.1, fun file => absurd ?_ file.2⟩
      have slashes : ∀ c ∈ path, c = CodePoint.ofChar '/' := by
        intro c member
        rw [← split] at member
        simpa [slash, py] using List.mem_takeWhile_imp member
      have isSlash := slashes _ (List.getLast_mem file.1)
      rw [slash_isSuffix_iff, List.getLast?_eq_some_getLast file.1, isSlash]
  | cons c rest =>
      rw [rel] at split
      have same : path.getLast? = (c :: rest).getLast? := by
        rw [← split, List.getLast?_append_of_ne_nil _ (List.cons_ne_nil c rest)]
      rw [NamesFile, NamesFile, slash_isSuffix_iff, slash_isSuffix_iff, same]
      refine and_congr_left fun _ => ⟨fun _ => ?_, fun _ => List.cons_ne_nil c rest⟩
      rw [← split]
      exact List.append_ne_nil_of_right_ne_nil _ (List.cons_ne_nil c rest)

/-- The key of a path is a file of the root exactly when the path names a file. -/
theorem slash_isSuffix_keyFor_iff {path : PyStr} (nonempty : backend.keyFor path ≠ []) :
    ¬ slash <:+ backend.keyFor path ↔ NamesFile path := by
  rw [← namesFile_lstrip_iff]
  rw [keyFor_eq] at nonempty ⊢
  cases rel : PyStr.lstrip slash path with
  | nil =>
      rw [rel, List.append_nil] at nonempty
      have rooted : backend.rootPrefix ≠ [] := fun bare =>
        nonempty (backend.root_eq_nil_iff.mpr bare)
      refine ⟨fun file => absurd ?_ file, fun file => absurd rfl file.1⟩
      rw [List.append_nil, root, if_pos rooted]
      exact List.suffix_append _ _
  | cons c rest =>
      rw [slash_isSuffix_iff, List.getLast?_append_of_ne_nil _ (List.cons_ne_nil c rest),
        ← slash_isSuffix_iff]
      exact ⟨fun file => ⟨List.cons_ne_nil c rest, file⟩, fun file => file.2⟩

/-- A `write` that reports no error has stored the encoded content under the key of its path. -/
theorem write_success {path content : PyStr} {weather : ℕ → Weather} {bucket after : Bucket}
    {result : WriteResult}
    (ran : (backend.write path content).run store weather bucket = (.ok result, after))
    (success : result.error = none) :
    ∃ (key : ObjectKey) (body : Bytes), key.1 = backend.keyFor path ∧
      PyStr.encode content = some body ∧ after = bucket.insert key ⟨body, (weather 0).now⟩ := by
  unfold write at ran
  cases encoded : PyStr.encode content with
  | none =>
      rw [encoded] at ran
      cases ran
  | some body =>
      simp only [encoded, run_putObject] at ran
      cases outage : (weather 0).outage with
      | some error =>
          simp only [store, outage] at ran
          cases ran
          cases success
      | none =>
          by_cases nonempty : backend.keyFor path = []
          · simp only [store, outage, dif_neg (not_not.mpr nonempty)] at ran
            cases ran
            cases success
          · simp only [store, outage, dif_pos nonempty] at ran
            cases ran
            exact ⟨⟨backend.keyFor path, nonempty⟩, body, rfl, rfl, rfl⟩

theorem mem_wholeRoot_iff_namesFile {bucket : Bucket} {path : PyStr} {key : ObjectKey}
    {object : StoredObject} (address : key.1 = backend.keyFor path)
    (stored : bucket.get? key = some object) :
    summary (key, object) ∈ backend.wholeRoot bucket ↔ NamesFile path := by
  have nonempty : backend.keyFor path ≠ [] := address ▸ key.2
  rw [mem_wholeRoot, ← backend.slash_isSuffix_keyFor_iff nonempty, ← address]
  constructor
  · rintro ⟨⟨other, same⟩, -, -, file, equal⟩
    have keys : other.1 = key.1 := congrArg ObjectSummary.Key equal
    rwa [keys] at file
  · intro file
    exact ⟨(key, object), stored, address ▸ backend.root_isPrefix_keyFor path, file, rfl⟩

section Written

variable {bucket : Bucket} {path : PyStr} {key : ObjectKey} {object : StoredObject}
  (address : key.1 = backend.keyFor path) (stored : bucket.get? key = some object)
include address stored

/-- A file of the root has the path of a stored key only if it is that object. -/
theorem eq_summary_of_pathFor_eq {other : ObjectSummary}
    (member : other ∈ backend.wholeRoot bucket)
    (same : backend.pathFor other.Key = backend.pathFor key.1) : other = summary (key, object) := by
  obtain ⟨⟨otherKey, otherObject⟩, found, under, -, rfl⟩ := backend.mem_wholeRoot.mp member
  have keys : otherKey = key := Subtype.ext
    (backend.pathFor_injective under (address ▸ backend.root_isPrefix_keyFor path) same)
  subst keys
  rw [Option.some.inj (stored.symm.trans found)]

/-- A map built from the files of the root has a stored object exactly when its path names a
file. -/
theorem get?_fill_iff {ν : Type} (entryOf : ObjectSummary → ν) :
    (Dict.empty.fill ((backend.wholeRoot bucket).map fun other =>
        (backend.pathFor other.Key, entryOf other))).get? (backend.pathFor key.1) =
      some (entryOf (summary (key, object))) ↔ NamesFile path := by
  rw [← backend.mem_wholeRoot_iff_namesFile address stored]
  refine backend.get?_fill_wholeRoot.trans ⟨?_, fun member => ⟨_, member, rfl, rfl⟩⟩
  rintro ⟨other, member, same, -⟩
  rwa [← backend.eq_summary_of_pathFor_eq address stored member same]

/-- `grep` considers a stored text exactly when its path names a file. -/
theorem get?_contents_iff {helpers : Helpers} {files : Dict PyStr FileData}
    (searched : ∀ path data, files.get? path = some data ↔
      ∃ (other : ObjectKey) (content : PyStr), backend.root <+: other.1 ∧ ¬ slash <:+ other.1 ∧
        backend.pathFor other.1 = path ∧ helpers.createFileData content = data ∧
        fileText bucket other = some content)
    {content : PyStr} (decoded : PyStr.decode object.body = some content) :
    files.get? (backend.pathFor key.1) = some (helpers.createFileData content) ↔
      NamesFile path := by
  have inside : backend.root <+: key.1 := address ▸ backend.root_isPrefix_keyFor path
  have nonempty : backend.keyFor path ≠ [] := address ▸ key.2
  rw [searched, ← backend.slash_isSuffix_keyFor_iff nonempty, ← address]
  constructor
  · rintro ⟨other, content', under, file, same, -⟩
    rwa [backend.pathFor_injective under inside same] at file
  · intro file
    refine ⟨key, content, inside, file, rfl, rfl, ?_⟩
    rw [fileText, stored]
    exact decoded

/-- `ls` of the parent directory lists a stored object exactly when its path names a file and
that directory does not end with two slashes. -/
theorem mem_lsEntries_iff :
    backend.fileInfo (summary (key, object)) ∈
        backend.lsEntries bucket (parentDirectory (backend.pathFor key.1)) ↔
      NamesFile path ∧ ¬ slash ++ slash <:+ parentDirectory (backend.pathFor key.1) := by
  rw [← namesFile_lstrip_iff path, address, pathFor_keyFor,
    ← backend.listed_under_parent_iff (not_slash_isPrefix_lstrip path), ← keyFor_eq, ← address]
  constructor
  · intro listed
    obtain ⟨⟨otherKey, otherObject⟩, name, found, split, nonempty, slashFree, same⟩ :=
      backend.mem_lsEntries_file.mp ⟨listed, rfl⟩
    have inside : backend.root <+: key.1 := address ▸ backend.root_isPrefix_keyFor path
    have under : backend.root <+: otherKey.1 := by
      rw [split]
      exact (backend.root_isPrefix_dirKeyPrefix _).trans (List.prefix_append _ name)
    have keys : otherKey.1 = key.1 :=
      backend.pathFor_injective under inside (congrArg FileInfo.path same)
    exact ⟨name, keys.symm.trans split, nonempty, slashFree⟩
  · rintro ⟨name, split, nonempty, slashFree⟩
    exact (backend.mem_lsEntries_file.mpr
      ⟨(key, object), name, stored, split, nonempty, slashFree, rfl⟩).1

end Written

/-! ## What is listed -/

/-- A file entry of `ls` is addressed by its path. -/
theorem ls_addresses {path : PyStr} {weather : ℕ → Weather} {bucket : Bucket}
    {entries : List FileInfo}
    (ran : ((backend.ls path).run store weather bucket).1 = .ok { entries := some entries })
    {entry : FileInfo} (member : entry ∈ entries) (file : entry.is_dir = false) :
    ∃ stored : ObjectKey × StoredObject, bucket.get? stored.1 = some stored.2 ∧
      entry = backend.fileInfo (summary stored) ∧ backend.keyFor entry.path = stored.1.1 := by
  rcases backend.run_ls weather bucket path with ⟨n, error, -, failed⟩ | listed
  · rw [failed] at ran
    cases ran
  · rw [listed] at ran
    cases ran
    obtain ⟨stored, name, found, split, -, slashFree, rfl⟩ :=
      backend.mem_lsEntries_file.mp ⟨member, file⟩
    refine ⟨stored, found, rfl, ?_⟩
    change backend.keyFor (backend.pathFor stored.1.1) = stored.1.1
    rw [split]
    exact backend.keyFor_pathFor_dirKeyPrefix slashFree

/-- A file of the root is addressed by its path exactly when no slash follows the root. -/
theorem wholeRoot_addresses {bucket : Bucket} {object : ObjectSummary} {path : PyStr}
    (member : object ∈ backend.wholeRoot bucket) (same : backend.pathFor object.Key = path) :
    ∃ stored : ObjectKey × StoredObject, bucket.get? stored.1 = some stored.2 ∧
      path = backend.pathFor stored.1.1 ∧
      (backend.keyFor path = stored.1.1 ↔ ¬ backend.root ++ slash <+: stored.1.1) := by
  obtain ⟨stored, found, under, -, rfl⟩ := backend.mem_wholeRoot.mp member
  subst same
  exact ⟨stored, found, rfl, backend.keyFor_pathFor_iff under⟩

/-- The files `glob` reports. -/
theorem glob_addresses (helpers : Helpers) {pattern : PyStr} {path : Option PyStr}
    {weather : ℕ → Weather} {bucket : Bucket} {found : List FileInfo}
    (ran : ((backend.glob helpers pattern path).run store weather bucket).1 =
      .ok { found := some found }) {entry : FileInfo} (member : entry ∈ found) :
    ∃ stored : ObjectKey × StoredObject, bucket.get? stored.1 = some stored.2 ∧
      entry.path = backend.pathFor stored.1.1 ∧
      (backend.keyFor entry.path = stored.1.1 ↔ ¬ backend.root ++ slash <+: stored.1.1) := by
  rw [run_glob_eq] at ran
  rcases backend.run_readAllFileMetadata weather bucket with ⟨n, error, -, failed⟩ | listed
  · rw [failed] at ran
    cases ran
  · rw [listed] at ran
    obtain ⟨object, inside, same⟩ := backend.mem_globFound helpers ran member
    exact backend.wholeRoot_addresses inside same

/-- The files `grep` searches. -/
theorem grep_addresses (helpers : Helpers)
    (searched : ∀ files pattern path glob maxCount found,
      (helpers.grepMatchesFromFiles files pattern path glob maxCount).found = some found →
        ∀ hit ∈ found, hit.path ∈ files.items.map Prod.fst)
    {pattern : PyStr} {path glob : Option PyStr} {maxCount : Option ℤ} {weather : ℕ → Weather}
    {bucket : Bucket} {result : GrepResult} {found : List GrepMatch}
    (ran : ((backend.grep helpers pattern path glob maxCount).run store weather bucket).1 =
      .ok result) (reported : result.found = some found) {hit : GrepMatch} (member : hit ∈ found) :
    ∃ stored : ObjectKey × StoredObject, bucket.get? stored.1 = some stored.2 ∧
      hit.path = backend.pathFor stored.1.1 ∧
      (backend.keyFor hit.path = stored.1.1 ↔ ¬ backend.root ++ slash <+: stored.1.1) := by
  rw [run_grep_eq] at ran
  rcases backend.run_readAllFileContents helpers weather bucket with
    ⟨n, error, -, failed⟩ | ⟨files, done, there, -⟩
  · rw [failed] at ran
    cases ran
    cases reported
  · rw [done] at ran
    cases ran
    obtain ⟨⟨path, data⟩, item, same⟩ :=
      List.mem_map.mp (searched _ _ _ _ _ _ reported hit member)
    obtain ⟨key, content, under, -, located, -, n, -, text⟩ :=
      there path data (Dict.get?_eq_some.mpr item)
    obtain ⟨object, present, -⟩ := Option.bind_eq_some_iff.mp text
    refine ⟨(key, object), present, ?_, ?_⟩
    · rw [← same, ← located]
    · rw [← same, ← located]
      exact backend.keyFor_pathFor_iff under

end S3Backend

/-! ## Listing and addressing -/

/-- **Where listing and addressing agree.** A file entry of `ls` is addressed by its path; a
file that `glob` or `grep` reports is, exactly when no slash follows the root in its key. A
written object is found again by `glob` and `grep` exactly when its path names a file, and by
`ls` of the parent directory exactly when that does not end with two slashes either. -/
theorem listing_and_addressing (helpers : Helpers) (backend : S3Backend)
    (searched : ∀ files pattern path glob maxCount found,
      (helpers.grepMatchesFromFiles files pattern path glob maxCount).found = some found →
        ∀ hit ∈ found, hit.path ∈ files.items.map Prod.fst) :
    (∀ (path : PyStr) (weather : ℕ → Weather) (bucket : Bucket) (entries : List FileInfo),
      ((backend.ls path).run store weather bucket).1 = .ok { entries := some entries } →
        ∀ entry ∈ entries, entry.is_dir = false →
          ∃ stored : ObjectKey × StoredObject, bucket.get? stored.1 = some stored.2 ∧
            entry = backend.fileInfo (summary stored) ∧
            backend.keyFor entry.path = stored.1.1) ∧
    (∀ (pattern : PyStr) (path : Option PyStr) (weather : ℕ → Weather) (bucket : Bucket)
      (found : List FileInfo),
      ((backend.glob helpers pattern path).run store weather bucket).1 =
          .ok { found := some found } →
        ∀ entry ∈ found, ∃ stored : ObjectKey × StoredObject,
          bucket.get? stored.1 = some stored.2 ∧ entry.path = backend.pathFor stored.1.1 ∧
          (backend.keyFor entry.path = stored.1.1 ↔ ¬ backend.root ++ slash <+: stored.1.1)) ∧
    (∀ (pattern : PyStr) (path glob : Option PyStr) (maxCount : Option ℤ)
      (weather : ℕ → Weather) (bucket : Bucket) (result : GrepResult) (found : List GrepMatch),
      ((backend.grep helpers pattern path glob maxCount).run store weather bucket).1 =
          .ok result → result.found = some found →
        ∀ hit ∈ found, ∃ stored : ObjectKey × StoredObject,
          bucket.get? stored.1 = some stored.2 ∧ hit.path = backend.pathFor stored.1.1 ∧
          (backend.keyFor hit.path = stored.1.1 ↔ ¬ backend.root ++ slash <+: stored.1.1)) ∧
    (∀ (path content : PyStr) (weather : ℕ → Weather) (bucket after : Bucket)
      (result : WriteResult),
      (backend.write path content).run store weather bucket = (.ok result, after) →
      result.error = none →
        ∃ (key : ObjectKey) (object : StoredObject), key.1 = backend.keyFor path ∧
          after.get? key = some object ∧ PyStr.encode content = some object.body ∧
          ∀ later : ℕ → Weather, (∀ n, (later n).outage = none) →
            ∃ files sizes texts entries,
              (backend.readAllFileMetadata.run store later after).1 = .ok (files, sizes) ∧
              ((backend.readAllFileContents helpers).run store later after).1 = .ok texts ∧
              ((backend.ls (parentDirectory (backend.pathFor key.1))).run store later after).1 =
                .ok { entries := some entries } ∧
              (files.get? (backend.pathFor key.1) =
                some (S3Backend.metadataOf (summary (key, object))) ↔ NamesFile path) ∧
              (sizes.get? (backend.pathFor key.1) = some object.body.length ↔ NamesFile path) ∧
              (texts.get? (backend.pathFor key.1) = some (helpers.createFileData content) ↔
                NamesFile path) ∧
              (backend.fileInfo (summary (key, object)) ∈ entries ↔
                NamesFile path ∧
                  ¬ slash ++ slash <:+ parentDirectory (backend.pathFor key.1))) := by
  refine ⟨fun path weather bucket entries ran entry member file =>
      backend.ls_addresses ran member file,
    fun pattern path weather bucket found ran entry member =>
      backend.glob_addresses helpers ran member,
    fun pattern path glob maxCount weather bucket result found ran reported hit member =>
      backend.grep_addresses helpers searched ran reported member, ?_⟩
  intro path content weather bucket after result ran success
  obtain ⟨key, body, address, encoded, rfl⟩ := backend.write_success ran success
  have stored := SortedMap.get?_insert_self bucket key ⟨body, (weather 0).now⟩
  refine ⟨key, ⟨body, (weather 0).now⟩, address, stored, encoded, fun later calm => ?_⟩
  obtain ⟨texts, contents, searches⟩ :=
    backend.run_readAllFileContents_calm helpers later _ calm
  refine ⟨backend.metadata _, backend.sizes _, texts, _,
    congrArg Prod.fst (backend.run_readAllFileMetadata_calm later _ calm),
    congrArg Prod.fst contents, congrArg Prod.fst (backend.run_ls_calm later _ _ calm),
    backend.get?_fill_iff address stored S3Backend.metadataOf,
    backend.get?_fill_iff address stored ObjectSummary.Size,
    backend.get?_contents_iff address stored searches (PyStr.decode_of_encode encoded),
    backend.mem_lsEntries_iff address stored⟩

/-- Under the root `docs`, a key with an empty first segment is reported by `glob` under a path
that addresses another key, and what is written to a path that ends with a slash is reported
neither by `glob` nor by `ls`, which takes its two bytes for the marker of the directory. -/
theorem listing_and_addressing_part :
    let docs := S3Backend.init (py "corpus") (py "docs")
    let uploaded : Bucket := SortedMap.empty.insert ⟨py "docs//x", by decide⟩ ⟨[], fair.now⟩
    let written := (docs.write (py "/foo/") (py "hi")).run store (fun _ => fair) .empty
    (∃ entry, ((docs.glob plainHelpers (py "**") none).run store (fun _ => fair) uploaded).1 =
        .ok { found := some [entry] } ∧
      entry.path = docs.pathFor (py "docs//x") ∧ docs.keyFor entry.path ≠ py "docs//x") ∧
    written.1 = .ok { path := some (py "/foo/") } ∧
    ((docs.glob plainHelpers (py "**") none).run store (fun _ => fair) written.2).1 =
      .ok { found := some [] } ∧
    ((docs.ls (py "/foo/")).run store (fun _ => fair) written.2).1 =
      .ok { entries := some [] } := by
  refine ⟨⟨⟨py "//x", false, 0, fair.now.isoformat⟩, ?_, ?_, ?_⟩, ?_, ?_, ?_⟩
  · decide
  · decide
  · decide
  · decide
  · decide
  · decide

theorem plainHelpers_searched (files : Dict PyStr FileData) (pattern path : PyStr)
    (glob : Option PyStr) (maxCount : Option ℤ) (found : List GrepMatch)
    (reported : (plainHelpers.grepMatchesFromFiles files pattern path glob maxCount).found =
      some found) (hit : GrepMatch) (member : hit ∈ found) :
    hit.path ∈ files.items.map Prod.fst := by
  cases reported
  obtain ⟨item, inside, line⟩ := List.mem_flatMap.mp member
  obtain ⟨numbered, -, made⟩ := List.mem_filterMap.mp line
  split at made
  · cases made
  · cases made
    exact List.mem_map_of_mem inside

/-- The file written to `/a/b.md` is listed by `ls`, and its path leads back to it. -/
theorem listing_and_addressing_file :
    let docs := S3Backend.init (py "corpus") (py "docs")
    let written := (docs.write (py "/a/b.md") (py "hi")).run store (fun _ => fair) .empty
    ∃ entries, ((docs.ls (py "/a/")).run store (fun _ => fair) written.2).1 =
        .ok { entries := some entries } ∧
      ∃ entry ∈ entries, entry.path = py "/a/b.md" ∧
        ∃ stored : ObjectKey × StoredObject, written.2.get? stored.1 = some stored.2 ∧
          docs.keyFor entry.path = stored.1.1 := by
  intro docs written
  have agree := listing_and_addressing plainHelpers docs plainHelpers_searched
  obtain ⟨key, object, address, -, -, later⟩ := agree.2.2.2 (py "/a/b.md") (py "hi")
    (fun _ => fair) .empty written.2 { path := some (py "/a/b.md") } (by rfl) (by rfl)
  obtain ⟨-, -, -, entries, -, -, ran, -, -, -, listed⟩ := later (fun _ => fair) fun _ => rfl
  have path : docs.pathFor key.1 = py "/a/b.md" := by
    rw [address]
    decide
  have parent : parentDirectory (docs.pathFor key.1) = py "/a/" := by
    rw [path]
    decide
  rw [parent] at ran listed
  have member := listed.mpr ⟨by unfold NamesFile; decide, by decide⟩
  obtain ⟨stored, found, -, leads⟩ := agree.1 _ _ _ entries ran _ member rfl
  exact ⟨entries, ran, _, member, path, stored, found, leads⟩

end CarqnaAgent.Storage
