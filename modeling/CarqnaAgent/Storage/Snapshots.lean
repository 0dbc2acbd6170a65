import Mathlib
import CarqnaAgent.Storage.Confinement
import CarqnaAgent.Storage.Listings

/-!
# What the listings hold

`ls` lists one directory, `glob` works on a snapshot of the whole root. In terms of the bucket:

* a file entry of `ls` is an object whose key is the directory prefix followed by a
  name without slash (`mem_lsEntries_file`);
* the map `glob` searches has one entry for each key under the root that does not end
  with a slash (`get?_fill_wholeRoot`).

No two keys meet in one entry: the paths of the keys under the root are distinct. So the order
of the entries, by path, is one order, and **however a listing is cut into pages, `ls` and
`glob` return what they make of the bucket** (`run_ls`, `run_readAllFileMetadata`).

Among other calls the pages come from different moments. What is returned then is what is made of
one bucket that is pieced together from these (`ls_observed`, `readAllFileMetadata_observed`).
-/

set_option autoImplicit false

namespace CarqnaAgent.Storage

open Foundations

/-! ## Common prefixes -/

section CommonPrefixes

variable {Prefix name : PyStr} {d : CodePoint}

theorem takeWhile_name (fresh : d ∉ name) (rest : PyStr) :
    (name ++ d :: rest).takeWhile (· ≠ d) = name := by
  rw [List.takeWhile_append_of_pos fun c member => ?_, List.takeWhile_cons_of_neg (by simp),
    List.append_nil]
  simpa using fun same : c = d => fresh (same ▸ member)

/-- What a key is rolled up into: the listed prefix, a name, and the delimiter. -/
theorem commonPrefix?_eq_some_iff {key rolled : PyStr} (inside : Prefix <+: key) :
    commonPrefix? Prefix (some d) key = some rolled ↔
      ∃ name, d ∉ name ∧ rolled = Prefix ++ name ++ [d] ∧ rolled <+: key := by
  obtain ⟨rest, rfl⟩ := inside
  simp only [commonPrefix?, List.drop_left, Option.bind_some]
  constructor
  · intro found
    split at found
    · rename_i member
      obtain ⟨name, tail, rfl, fresh⟩ := List.eq_append_cons_of_mem member
      rw [takeWhile_name fresh] at found
      cases found
      exact ⟨name, fresh, rfl, tail, by simp⟩
    · cases found
  · rintro ⟨name, fresh, rfl, tail, split⟩
    have same : rest = name ++ d :: tail := by
      simpa using split.symm
    subst same
    rw [if_pos (by simp), takeWhile_name fresh]

/-- The common prefixes of a listing: the names with a key at or below them. -/
theorem mem_commonPrefixes {bucket : Bucket} {rolled : PyStr} :
    rolled ∈ commonPrefixes bucket Prefix (some d) ↔
      ∃ name, d ∉ name ∧ rolled = Prefix ++ name ++ [d] ∧
        ∃ stored : ObjectKey × StoredObject, bucket.get? stored.1 = some stored.2 ∧
          rolled <+: stored.1.1 := by
  rw [mem_commonPrefixes_iff]
  constructor
  · rintro ⟨stored, present, inside, found⟩
    obtain ⟨name, fresh, same, below⟩ := (commonPrefix?_eq_some_iff inside).mp found
    exact ⟨name, fresh, same, stored, present, below⟩
  · rintro ⟨name, fresh, same, stored, present, below⟩
    have inside : Prefix <+: stored.1.1 := by
      rw [same, List.append_assoc] at below
      exact (List.prefix_append _ _).trans below
    refine ⟨stored, present, inside, ?_⟩
    exact (commonPrefix?_eq_some_iff inside).mpr ⟨name, fresh, same, below⟩

end CommonPrefixes

/-! ## Objects -/

/-- A name after the prefix is not rolled up when it has no delimiter. -/
theorem commonPrefix?_append_eq_none {Prefix name : PyStr} {d : CodePoint} :
    commonPrefix? Prefix (some d) (Prefix ++ name) = none ↔ d ∉ name := by
  simp [commonPrefix?]

/-- The objects a delimited listing reports: a name without delimiter after the prefix. -/
theorem mem_contents_delimited {bucket : Bucket} {Prefix : PyStr} {d : CodePoint}
    {object : ObjectSummary} :
    object ∈ contents bucket Prefix (some d) ↔
      ∃ entry name, bucket.get? entry.1 = some entry.2 ∧ entry.1.1 = Prefix ++ name ∧ d ∉ name ∧
        summary entry = object := by
  rw [mem_contents]
  constructor
  · rintro ⟨entry, stored, ⟨name, split⟩, whole, rfl⟩
    rw [← split, commonPrefix?_append_eq_none] at whole
    exact ⟨entry, name, stored, split.symm, whole, rfl⟩
  · rintro ⟨entry, name, stored, split, whole, rfl⟩
    refine ⟨entry, stored, ⟨name, split.symm⟩, ?_, rfl⟩
    rw [split, commonPrefix?_append_eq_none]
    exact whole

theorem mem_contents_whole {bucket : Bucket} {Prefix : PyStr} {object : ObjectSummary} :
    object ∈ contents bucket Prefix none ↔
      ∃ entry, bucket.get? entry.1 = some entry.2 ∧ Prefix <+: entry.1.1 ∧
        summary entry = object := by
  simp [mem_contents, commonPrefix?]

theorem nodup_keys_contents (bucket : Bucket) (Prefix : PyStr) (Delimiter : Option CodePoint) :
    ((contents bucket Prefix Delimiter).map ObjectSummary.Key).Nodup :=
  List.pairwise_map.mpr ((contents_sorted bucket Prefix Delimiter).imp fun before => ne_of_lt before)

namespace S3Backend

variable (backend : S3Backend) (helpers : Helpers)

/-- Under the root, no two objects of a listing have one path. -/
theorem nodup_paths_contents {Prefix : PyStr} (under : backend.root <+: Prefix) (bucket : Bucket)
    (Delimiter : Option CodePoint) :
    ((contents bucket Prefix Delimiter).map fun object => backend.pathFor object.Key).Nodup := by
  have paths := backend.nodup_map_pathFor (nodup_keys_contents bucket Prefix Delimiter) ?_
  · rwa [List.map_map] at paths
  · intro key member
    obtain ⟨object, listed, rfl⟩ := List.mem_map.mp member
    obtain ⟨stored, -, starts, -, rfl⟩ := mem_contents.mp listed
    exact under.trans starts

/-! ## One directory -/

theorem mem_sortByPath {entries : List FileInfo} {entry : FileInfo} :
    entry ∈ sortByPath entries ↔ entry ∈ entries :=
  (List.perm_insertionSort _ entries).mem_iff

instance : Std.Total fun first second : FileInfo => first.path ≤ second.path where
  total first second := le_total first.path second.path

instance : IsTrans FileInfo fun first second => first.path ≤ second.path where
  trans _ _ _ := le_trans

theorem sortByPath_sorted (entries : List FileInfo) :
    (sortByPath entries).Pairwise fun first second => first.path ≤ second.path :=
  List.pairwise_insertionSort _ _

/-- Entries with distinct paths have one order by path. -/
theorem sortByPath_congr {entries others : List FileInfo} (same : entries.Perm others)
    (distinct : (others.map FileInfo.path).Nodup) : sortByPath entries = sortByPath others := by
  have reordered : (sortByPath entries).Perm others :=
    (List.perm_insertionSort _ entries).trans same
  refine List.Perm.eq_of_pairwise (fun first second member member' below above => ?_)
    (sortByPath_sorted entries) (sortByPath_sorted others)
    (reordered.trans (List.perm_insertionSort _ others).symm)
  exact List.inj_on_of_nodup_map distinct (reordered.mem_iff.mp member)
    (mem_sortByPath.mp member') (le_antisymm below above)

/-- What `ls` lists of a directory, before it is sorted. -/
def levelEntries (bucket : Bucket) (path : PyStr) : List FileInfo :=
  (commonPrefixes bucket (backend.dirKeyPrefix path) (some (CodePoint.ofChar '/'))).map
      backend.directoryInfo ++
    ((contents bucket (backend.dirKeyPrefix path) (some (CodePoint.ofChar '/'))).filter
      fun object => object.Key ≠ backend.dirKeyPrefix path).map backend.fileInfo

/-- The entries of `ls`. -/
def lsEntries (bucket : Bucket) (path : PyStr) : List FileInfo :=
  sortByPath (backend.levelEntries bucket path)

/-- **No two entries of a directory have one path.** A directory's ends with a slash, a file's
does not. -/
theorem levelEntries_nodup (bucket : Bucket) (path : PyStr) :
    ((backend.levelEntries bucket path).map FileInfo.path).Nodup := by
  have under := backend.root_isPrefix_dirKeyPrefix path
  rw [levelEntries, List.map_append, List.map_map, List.map_map]
  refine List.nodup_append.mpr ⟨?_, ?_, ?_⟩
  · refine backend.nodup_map_pathFor (List.nodup_dedup _) fun rolled member => ?_
    obtain ⟨name, -, rfl, -⟩ := mem_commonPrefixes.mp member
    rw [List.append_assoc]
    exact under.trans (List.prefix_append _ _)
  · exact (backend.nodup_paths_contents under bucket _).sublist (List.filter_sublist.map _)
  · intro directory member file member' same
    obtain ⟨rolled, listed, rfl⟩ := List.mem_map.mp member
    obtain ⟨object, kept, rfl⟩ := List.mem_map.mp member'
    obtain ⟨listed', different⟩ := List.mem_filter.mp kept
    obtain ⟨name, -, rfl, -⟩ := mem_commonPrefixes.mp listed
    obtain ⟨stored, name', -, split, fresh, rfl⟩ := mem_contents_delimited.mp listed'
    have keys : backend.dirKeyPrefix path ++ name ++ slash = backend.dirKeyPrefix path ++ name' := by
      refine backend.pathFor_injective ?_ (under.trans (List.prefix_append _ _)) ?_
      · rw [List.append_assoc]
        exact under.trans (List.prefix_append _ _)
      · exact same.trans (congrArg backend.pathFor split)
    rw [List.append_assoc, List.append_cancel_left_eq] at keys
    exact fresh (keys ▸ List.mem_append_right name List.mem_cons_self)

theorem lsEntries_nodup (bucket : Bucket) (path : PyStr) :
    ((backend.lsEntries bucket path).map FileInfo.path).Nodup :=
  ((List.perm_insertionSort _ _).map _).nodup_iff.mpr (backend.levelEntries_nodup bucket path)

/-- **A file entry of `ls` is an object right under the directory.** -/
theorem mem_lsEntries_file {bucket : Bucket} {path : PyStr} {entry : FileInfo} :
    entry ∈ backend.lsEntries bucket path ∧ entry.is_dir = false ↔
      ∃ (stored : ObjectKey × StoredObject) (name : PyStr),
        bucket.get? stored.1 = some stored.2 ∧ stored.1.1 = backend.dirKeyPrefix path ++ name ∧
        name ≠ [] ∧ CodePoint.ofChar '/' ∉ name ∧ backend.fileInfo (summary stored) = entry := by
  rw [lsEntries, mem_sortByPath, levelEntries, List.mem_append]
  constructor
  · rintro ⟨directory | file, kind⟩
    · obtain ⟨rolled, -, rfl⟩ := List.mem_map.mp directory
      cases kind
    · obtain ⟨object, kept, rfl⟩ := List.mem_map.mp file
      obtain ⟨member, different⟩ := List.mem_filter.mp kept
      obtain ⟨stored, name, found, split, slashFree, rfl⟩ := mem_contents_delimited.mp member
      refine ⟨stored, name, found, split, ?_, slashFree, rfl⟩
      rintro rfl
      simp [summary, split] at different
  · rintro ⟨stored, name, found, split, nonempty, slashFree, rfl⟩
    refine ⟨.inr (List.mem_map_of_mem (List.mem_filter.mpr ⟨mem_contents_delimited.mpr
      ⟨stored, name, found, split, slashFree, rfl⟩, ?_⟩)), rfl⟩
    simp [summary, split, nonempty]

/-- **A directory entry of `ls` is a name with a key at or below it.** -/
theorem mem_lsEntries_directory {bucket : Bucket} {path : PyStr} {entry : FileInfo} :
    entry ∈ backend.lsEntries bucket path ∧ entry.is_dir = true ↔
      ∃ name, CodePoint.ofChar '/' ∉ name ∧
        entry = backend.directoryInfo (backend.dirKeyPrefix path ++ name ++ slash) ∧
        ∃ stored : ObjectKey × StoredObject, bucket.get? stored.1 = some stored.2 ∧
          backend.dirKeyPrefix path ++ name ++ slash <+: stored.1.1 := by
  rw [lsEntries, mem_sortByPath, levelEntries, List.mem_append]
  constructor
  · rintro ⟨directory | file, kind⟩
    · obtain ⟨rolled, member, rfl⟩ := List.mem_map.mp directory
      obtain ⟨name, fresh, rfl, stored, present, below⟩ := mem_commonPrefixes.mp member
      exact ⟨name, fresh, rfl, stored, present, below⟩
    · obtain ⟨object, -, rfl⟩ := List.mem_map.mp file
      cases kind
  · rintro ⟨name, fresh, rfl, stored, present, below⟩
    exact ⟨.inl (List.mem_map_of_mem
      (mem_commonPrefixes.mpr ⟨name, fresh, rfl, stored, present, below⟩)), rfl⟩

/-- The entries of the pages of a listing. -/
theorem flatMap_lsPage_perm (dirPrefix : PyStr) (pages : List Page) :
    (pages.flatMap (backend.lsPage dirPrefix)).Perm
      ((pages.flatMap Page.CommonPrefixes).map backend.directoryInfo ++
        ((pages.flatMap Page.Contents).filter fun object => object.Key ≠ dirPrefix).map
          backend.fileInfo) := by
  rw [List.map_flatMap, List.filter_flatMap, List.map_flatMap]
  exact (List.flatMap_append_perm _ _ _).symm

/-- What `ls` makes of its listing. -/
def lsAnswer (path : PyStr) :
    Except StoreError (List FileInfo) → Except PyException LsResult
  | .error error =>
      .ok { error := some (py "Cannot list '" ++ path ++ py "': " ++ error.text) }
  | .ok entries => .ok { entries := some entries }

/-- **What `ls` returns, among others**: the error of a page, or what is made of a bucket pieced
together from its moments. -/
theorem ls_observed (moments : ℕ → Weather × Bucket) (path : PyStr) :
    (∃ n error, (moments n).1.outage = some error ∧
      ((backend.ls path).run store.observed moments ()).1 = lsAnswer path (.error error)) ∨
      ∃ seen, PiecedFrom moments seen ∧
        ((backend.ls path).run store.observed moments ()).1 =
          lsAnswer path (.ok (backend.lsEntries seen path)) := by
  obtain ⟨pages, paged, cases⟩ := paginate_listed (backend.dirKeyPrefix path)
    (some (CodePoint.ofChar '/'))
    (fun page entries => return entries ++ backend.lsPage (backend.dirKeyPrefix path) page) []
    moments
  rw [ls, Program.run_bind]
  rcases cases with ⟨n, error, outage, failed⟩ | ⟨⟨entries, done⟩, seen, pieced, objects, rolled⟩
  · refine .inl ⟨n, error, outage, ?_⟩
    rw [failed]
    rfl
  · refine .inr ⟨seen, pieced, ?_⟩
    rw [done] at paged ⊢
    have folded := paged.foldl_eq
    rw [← List.flatMap_eq_foldl] at folded
    have same : entries.Perm (backend.levelEntries seen path) := by
      rw [folded, levelEntries, ← objects]
      refine (backend.flatMap_lsPage_perm _ pages).trans (List.Perm.append_right _ ?_)
      exact rolled.map _
    rw [lsEntries, ← sortByPath_congr same (backend.levelEntries_nodup seen path)]
    rfl

section Ls

variable (weather : ℕ → Weather) (bucket : Bucket) (path : PyStr)

/-- **What `ls` returns in a bucket, however the listing is cut into pages.** -/
theorem run_ls :
    (∃ n error, (weather n).outage = some error ∧
      (backend.ls path).run store weather bucket = (lsAnswer path (.error error), bucket)) ∨
      (backend.ls path).run store weather bucket =
        (lsAnswer path (.ok (backend.lsEntries bucket path)), bucket) := by
  rw [Program.run_eq_observed (fun weather _ reads => store_reads reads weather bucket)
    (backend.ls_reads path)]
  rcases backend.ls_observed (fun n => (weather n, bucket)) path with
    ⟨n, error, outage, failed⟩ | ⟨seen, pieced, listed⟩
  · exact .inl ⟨n, error, outage, congrArg (·, bucket) failed⟩
  · rw [pieced.eq] at listed
    exact .inr (congrArg (·, bucket) listed)

theorem run_ls_calm (calm : ∀ n, (weather n).outage = none) :
    (backend.ls path).run store weather bucket =
      (.ok { entries := some (backend.lsEntries bucket path) }, bucket) := by
  rcases backend.run_ls weather bucket path with ⟨n, error, outage, -⟩ | listed
  · rw [calm n] at outage
    cases outage
  · exact listed

end Ls

/-! ## The whole root -/

/-- The files of the whole root: the objects under it but the directory markers. -/
def wholeRoot (bucket : Bucket) : List ObjectSummary := realFiles (contents bucket backend.root none)

theorem mem_wholeRoot {bucket : Bucket} {object : ObjectSummary} :
    object ∈ backend.wholeRoot bucket ↔
      ∃ stored : ObjectKey × StoredObject, bucket.get? stored.1 = some stored.2 ∧
        backend.root <+: stored.1.1 ∧ ¬ slash <:+ stored.1.1 ∧ summary stored = object := by
  rw [wholeRoot, realFiles, List.mem_filter, mem_contents_whole]
  constructor
  · rintro ⟨⟨stored, found, inside, rfl⟩, real⟩
    exact ⟨stored, found, inside, by simpa [summary, ← List.isSuffixOf_iff_suffix] using real, rfl⟩
  · rintro ⟨stored, found, inside, real, rfl⟩
    exact ⟨⟨stored, found, inside, rfl⟩, by simpa [summary, ← List.isSuffixOf_iff_suffix] using real⟩

/-- **No two files of the root have one path.** -/
theorem nodup_paths_wholeRoot (bucket : Bucket) :
    ((backend.wholeRoot bucket).map fun object => backend.pathFor object.Key).Nodup :=
  (backend.nodup_paths_contents List.prefix_rfl bucket none).sublist (List.filter_sublist.map _)

/-- The lookups in a map built from the files of the root. -/
theorem get?_fill_wholeRoot {ν : Type} {bucket : Bucket} {entryOf : ObjectSummary → ν}
    {path : PyStr} {value : ν} :
    (Dict.empty.fill ((backend.wholeRoot bucket).map fun object =>
        (backend.pathFor object.Key, entryOf object))).get? path = some value ↔
      ∃ object ∈ backend.wholeRoot bucket,
        backend.pathFor object.Key = path ∧ entryOf object = value := by
  rw [Dict.get?_eq_some, Dict.items_fill]
  · simp
  · rw [List.map_map]
    exact backend.nodup_paths_wholeRoot bucket

/-- The map `glob` searches. -/
def metadata (bucket : Bucket) : Dict PyStr FileData :=
  Dict.empty.fill ((backend.wholeRoot bucket).map fun object =>
    (backend.pathFor object.Key, metadataOf object))

/-- The sizes `glob` reports. -/
def sizes (bucket : Bucket) : Dict PyStr ℕ :=
  Dict.empty.fill ((backend.wholeRoot bucket).map fun object =>
    (backend.pathFor object.Key, object.Size))

theorem foldl_addMetadata (pages : List Page)
    (maps : Dict PyStr FileData × Dict PyStr ℕ) :
    pages.foldl (fun maps page => backend.addMetadata page.Contents maps) maps =
      backend.addMetadata (pages.flatMap Page.Contents) maps := by
  induction pages generalizing maps with
  | nil => rfl
  | cons page rest ih =>
      rw [List.foldl_cons, ih, List.flatMap_cons]
      simp only [addMetadata, realFiles, Dict.fill, List.filter_append, List.map_append,
        List.foldl_append]

/-- **The snapshot of `glob`, among others.** -/
theorem readAllFileMetadata_observed (moments : ℕ → Weather × Bucket) :
    (∃ n error, (moments n).1.outage = some error ∧
      (backend.readAllFileMetadata.run store.observed moments ()).1 = .error error) ∨
      ∃ seen, PiecedFrom moments seen ∧
        (backend.readAllFileMetadata.run store.observed moments ()).1 =
          .ok (backend.metadata seen, backend.sizes seen) := by
  obtain ⟨pages, paged, cases⟩ := paginate_listed backend.root none
    (fun page maps => return backend.addMetadata page.Contents maps) (.empty, .empty) moments
  rcases cases with failed | ⟨⟨maps, done⟩, seen, pieced, objects, -⟩
  · exact .inl failed
  · refine .inr ⟨seen, pieced, done.trans (congrArg Except.ok ?_)⟩
    rw [done] at paged
    rw [paged.foldl_eq, foldl_addMetadata, objects]
    rfl

/-- What `glob` makes of its snapshot. -/
def globAnswer (pattern : PyStr) (path : Option PyStr) :
    Except StoreError (Dict PyStr FileData × Dict PyStr ℕ) → Except PyException GlobResult
  | .error error =>
      .ok { error := some (py "Error searching for '" ++ pattern ++ py "': " ++ error.text) }
  | .ok (files, sizes) => globFound helpers files sizes pattern path

theorem run_glob_eq {σ ω : Type} (service : Service StoreRequest StoreRequest.Response σ ω)
    (weather : ℕ → ω) (state : σ) (pattern : PyStr) (path : Option PyStr) :
    (backend.glob helpers pattern path).run service weather state =
      (globAnswer helpers pattern path (backend.readAllFileMetadata.run service weather state).1,
        (backend.readAllFileMetadata.run service weather state).2) := by
  rw [glob, Program.run_bind]
  cases (backend.readAllFileMetadata.run service weather state).1 with
  | error error => rfl
  | ok maps => rfl

section Glob

variable (weather : ℕ → Weather) (bucket : Bucket)

/-- **The snapshot of `glob` in a bucket.** -/
theorem run_readAllFileMetadata :
    (∃ n error, (weather n).outage = some error ∧
      backend.readAllFileMetadata.run store weather bucket = (.error error, bucket)) ∨
      backend.readAllFileMetadata.run store weather bucket =
        (.ok (backend.metadata bucket, backend.sizes bucket), bucket) := by
  rw [Program.run_eq_observed (fun weather _ reads => store_reads reads weather bucket)
    backend.readAllFileMetadata_reads]
  rcases backend.readAllFileMetadata_observed (fun n => (weather n, bucket)) with
    ⟨n, error, outage, failed⟩ | ⟨seen, pieced, listed⟩
  · exact .inl ⟨n, error, outage, congrArg (·, bucket) failed⟩
  · rw [pieced.eq] at listed
    exact .inr (congrArg (·, bucket) listed)

theorem run_readAllFileMetadata_calm (calm : ∀ n, (weather n).outage = none) :
    backend.readAllFileMetadata.run store weather bucket =
      (.ok (backend.metadata bucket, backend.sizes bucket), bucket) := by
  rcases backend.run_readAllFileMetadata weather bucket with ⟨n, error, outage, -⟩ | listed
  · rw [calm n] at outage
    cases outage
  · exact listed

end Glob

/-! ## The matches of `glob` -/

/-- The matches of `glob` are made line by line. -/
theorem globMatch_of_mem {files : Dict PyStr FileData} {sizes : Dict PyStr ℕ} {lines : List PyStr}
    {found : List FileInfo} (success : lines.mapM (globMatch files sizes) = .ok found)
    {entry : FileInfo} (member : entry ∈ found) :
    ∃ line ∈ lines, globMatch files sizes line = .ok entry := by
  induction lines generalizing found with
  | nil =>
      cases success
      cases member
  | cons line rest ih =>
      rw [List.mapM_cons] at success
      cases first : globMatch files sizes line with
      | error exception =>
          rw [first] at success
          cases success
      | ok made =>
          cases later : rest.mapM (globMatch files sizes) with
          | error exception =>
              rw [first, later] at success
              cases success
          | ok others =>
              rw [first, later] at success
              cases success
              rcases List.mem_cons.mp member with rfl | member
              · exact ⟨line, List.mem_cons_self, first⟩
              · obtain ⟨other, inside, same⟩ := ih later member
                exact ⟨other, List.mem_cons_of_mem _ inside, same⟩

/-- What a match of `glob` reports is looked up in the two maps. -/
theorem globMatch_eq_ok {files : Dict PyStr FileData} {sizes : Dict PyStr ℕ} {line : PyStr}
    {entry : FileInfo} (success : globMatch files sizes line = .ok entry) :
    ∃ data modified_at, files.get? line = some data ∧ data.modified_at = some modified_at ∧
      entry = ⟨line, false, (sizes.get? line).getD 0, modified_at⟩ := by
  unfold globMatch at success
  cases found : files.get? line with
  | none =>
      rw [found] at success
      cases success
  | some data =>
      rw [found] at success
      cases stamp : data.modified_at with
      | none => simp [stamp] at success
      | some modified_at =>
          simp only [stamp] at success
          cases success
          exact ⟨data, modified_at, rfl, stamp, rfl⟩

/-- **Every match of `glob` is a file of the root.** -/
theorem mem_globFound {bucket : Bucket} {pattern : PyStr} {path : Option PyStr}
    {found : List FileInfo} {entry : FileInfo}
    (success : globFound helpers (backend.metadata bucket) (backend.sizes bucket) pattern path =
      .ok { found := some found })
    (member : entry ∈ found) :
    ∃ object ∈ backend.wholeRoot bucket, backend.pathFor object.Key = entry.path := by
  simp only [globFound] at success
  split at success
  · cases success
    cases member
  · split at success
    · cases success
    · rename_i made
      cases success
      obtain ⟨line, -, matched⟩ := globMatch_of_mem made member
      obtain ⟨data, modified_at, looked, -, rfl⟩ := globMatch_eq_ok matched
      obtain ⟨object, inside, same, -⟩ := backend.get?_fill_wholeRoot.mp looked
      exact ⟨object, inside, same⟩

end S3Backend

end CarqnaAgent.Storage
