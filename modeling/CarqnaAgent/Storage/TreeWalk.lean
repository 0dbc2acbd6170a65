import Mathlib
import CarqnaAgent.Foundations.Worklists
import CarqnaAgent.Storage.Directories

/-!
# Walking the tree with `ls`

A client lists the root with `ls`, and then every directory it is told about, in any
order. A directory entry of a name takes it one level down: the base of the directory
grows by the name (`dirBase_child`). The entry of the empty name does not: it lists the
same directory again.

So the walk ends and meets every file of the flat listing once, **exactly when no key has
an empty segment** (`walk_meets_every_file_iff`). A key with two slashes in a row keeps it
going round for ever (`walk_endless`).
-/

set_option autoImplicit false

namespace CarqnaAgent.Storage

open Foundations

/-! ## One level down -/

/-- The path of a directory entry. -/
def childPath (path name : PyStr) : PyStr := slash ++ dirBase path ++ name ++ slash

/-- The base of a directory grows by the name of the entry. -/
theorem dirBase_child {path name : PyStr} (segment : IsSegment name) :
    dirBase (childPath path name) = dirBase path ++ name ++ slash := by
  have filled : dirBase path ++ name ≠ [] := List.append_ne_nil_of_right_ne_nil _ segment.1
  have stripped : PyStr.strip slash (childPath path name) = dirBase path ++ name := by
    rw [childPath, List.append_assoc slash]
    exact strip_slashes (by simp [slash, py]) (by simp [slash, py])
      (not_slash_isPrefix_dirBase_append segment.2) (not_slash_isSuffix_append segment)
  rw [dirBase, stripped, if_neg filled]

/-- **The entry of the empty name leads back to its parent.** -/
theorem dirBase_child_nil (path : PyStr) : dirBase (childPath path []) = dirBase path := by
  have starts : ¬ slash <+: PyStr.strip slash path := by
    rw [slash_isPrefix_iff]
    intro head
    have dropped := PyStr.stripBy_head? head
    simp [slash, py] at dropped
  have ends : ¬ slash <:+ PyStr.strip slash path := by
    rw [slash_isSuffix_iff]
    intro last
    have dropped := PyStr.stripBy_getLast? last
    simp [slash, py] at dropped
  by_cases empty : PyStr.strip slash path = []
  · have base : dirBase path = [] := if_pos empty
    rw [childPath, base]
    rfl
  · have base : dirBase path = PyStr.strip slash path ++ slash := if_neg empty
    have stripped : PyStr.strip slash (childPath path []) = PyStr.strip slash path := by
      have split : childPath path [] = slash ++ PyStr.strip slash path ++ (slash ++ slash) := by
        rw [childPath, base]
        simp only [List.append_assoc, List.append_nil]
      rw [split]
      exact strip_slashes (by simp [slash, py]) (by simp [slash, py]) starts ends
    rw [dirBase, stripped, if_neg empty, base]

/-! ## Empty segments -/

/-- A path has a segment without a name. -/
def HasEmptySegment (path : PyStr) : Prop := slash ++ slash <:+: path

theorem hasEmptySegment_below {name rest : PyStr} (segment : IsSegment name)
    (empty : HasEmptySegment (slash ++ (name ++ slash ++ rest))) :
    HasEmptySegment (slash ++ rest) := by
  have skip : ∀ {front : PyStr}, CodePoint.ofChar '/' ∉ front →
      HasEmptySegment (front ++ (slash ++ rest)) → HasEmptySegment (slash ++ rest) := by
    intro front fresh inside
    induction front with
    | nil => exact inside
    | cons c front ih =>
        rcases List.infix_cons_iff.mp inside with starts | later
        · have same : CodePoint.ofChar '/' = c := (List.cons_prefix_cons.mp starts).1
          exact absurd (same ▸ List.mem_cons_self) fresh
        · exact ih (fun member => fresh (List.mem_cons_of_mem _ member)) later
  rw [List.append_assoc] at empty
  rcases List.infix_cons_iff.mp empty with starts | later
  · obtain ⟨c, front, rfl⟩ := List.exists_cons_of_ne_nil segment.1
    have same : CodePoint.ofChar '/' = c := (List.cons_prefix_cons.mp
      (List.cons_prefix_cons.mp starts).2).1
    exact absurd (same ▸ List.mem_cons_self) segment.2
  · exact skip segment.2 later

theorem hasEmptySegment_of_child {path rest : PyStr} {whole : PyStr}
    (below : childPath path [] ++ rest = whole) : HasEmptySegment whole := by
  rw [← below, childPath, List.append_nil]
  rcases dirBase_ends path with base | ⟨front, base⟩
  · rw [base]
    exact ⟨[], rest, rfl⟩
  · rw [← base]
    exact ⟨slash ++ front, rest, by simp only [List.append_assoc]⟩

namespace S3Backend

variable (backend : S3Backend)

/-! ## The walk -/

/-- The directories and the files `ls` reports. -/
def directoriesOf (entries : List FileInfo) : List PyStr :=
  (entries.filter FileInfo.is_dir).map FileInfo.path

def filesOf (entries : List FileInfo) : List PyStr :=
  (entries.filter fun entry => !entry.is_dir).map FileInfo.path

/-- The client that walks the tree, in at most so many calls of `ls`: it lists the first of
the pending directories, keeps the paths of its files, and arranges the paths of its
directories among the pending ones. -/
def walk (arrange : List PyStr → List PyStr → List PyStr) :
    ℕ → List PyStr → List PyStr → StoreProgram (Option (List PyStr))
  | _, [], met => return some met
  | 0, _ :: _, _ => return none
  | calls + 1, path :: pending, met => do
      match ← backend.ls path with
      | .error _ => return none
      | .ok result =>
          match result.entries with
          | none => return none
          | some entries =>
              walk arrange calls (arrange (directoriesOf entries) pending) (met ++ filesOf entries)

/-- The directories right below a directory of the bucket. -/
def subdirectories (bucket : Bucket) (path : PyStr) : List PyStr :=
  directoriesOf (backend.lsEntries bucket path)

/-- The files right below a directory of the bucket. -/
def ownFiles (bucket : Bucket) (path : PyStr) : List PyStr :=
  filesOf (backend.lsEntries bucket path)

/-- The walk over the store is a walk over the tree. -/
theorem run_walk (arrange : List PyStr → List PyStr → List PyStr) (bucket : Bucket) (calls : ℕ)
    (pending met : List PyStr) {weather : ℕ → Weather} (calm : ∀ n, (weather n).outage = none) :
    (backend.walk arrange calls pending met).run store weather bucket =
      (Worklist.walk arrange (backend.subdirectories bucket) (backend.ownFiles bucket) calls
        pending met, bucket) := by
  induction calls generalizing pending met weather with
  | zero =>
      cases pending with
      | nil => rfl
      | cons path pending => rfl
  | succ calls ih =>
      cases pending with
      | nil => rfl
      | cons path pending =>
          rw [walk, Program.run_bind, backend.run_ls_calm weather bucket path calm]
          exact ih _ _ fun n => calm _

/-! ## The levels of the tree -/

section Levels

variable {bucket : Bucket} {path : PyStr}

theorem mem_subdirectories {child : PyStr} :
    child ∈ backend.subdirectories bucket path ↔
      ∃ name, CodePoint.ofChar '/' ∉ name ∧ child = childPath path name ∧
        ∃ stored : ObjectKey × StoredObject, bucket.get? stored.1 = some stored.2 ∧
          backend.root <+: stored.1.1 ∧ child <+: backend.pathFor stored.1.1 := by
  have entries : child ∈ backend.subdirectories bucket path ↔
      ∃ entry, (entry ∈ backend.lsEntries bucket path ∧ entry.is_dir = true) ∧
        entry.path = child := by
    simp [subdirectories, directoriesOf, List.mem_filter]
  rw [entries]
  constructor
  · rintro ⟨entry, listed, rfl⟩
    obtain ⟨name, fresh, rfl, below⟩ := backend.mem_lsEntries_directory_iff.mp listed
    exact ⟨name, fresh, rfl, below⟩
  · rintro ⟨name, fresh, rfl, below⟩
    exact ⟨_, backend.mem_lsEntries_directory_iff.mpr ⟨name, fresh, rfl, below⟩, rfl⟩

theorem mem_ownFiles {file : PyStr} :
    file ∈ backend.ownFiles bucket path ↔
      ∃ object ∈ backend.wholeRoot bucket, backend.pathFor object.Key = file ∧
        ∃ name, CodePoint.ofChar '/' ∉ name ∧ file = slash ++ dirBase path ++ name := by
  have entries : file ∈ backend.ownFiles bucket path ↔
      ∃ entry, (entry ∈ backend.lsEntries bucket path ∧ entry.is_dir = false) ∧
        entry.path = file := by
    simp [ownFiles, filesOf, List.mem_filter]
  rw [entries]
  constructor
  · rintro ⟨entry, listed, rfl⟩
    obtain ⟨object, inside, rfl, own⟩ := backend.mem_lsEntries_file_iff.mp listed
    exact ⟨object, inside, rfl, own⟩
  · rintro ⟨object, inside, rfl, own⟩
    exact ⟨_, backend.mem_lsEntries_file_iff.mpr ⟨object, inside, rfl, own⟩, rfl⟩

theorem ownFiles_nodup : (backend.ownFiles bucket path).Nodup :=
  (backend.lsEntries_nodup bucket path).sublist (List.filter_sublist.map _)

theorem subdirectories_nodup : (backend.subdirectories bucket path).Nodup :=
  (backend.lsEntries_nodup bucket path).sublist (List.filter_sublist.map _)

end Levels

/-! ## What a directory has below it -/

/-- The files of the flat listing below a directory. -/
def filesBelow (bucket : Bucket) (path : PyStr) : List PyStr :=
  ((backend.wholeRoot bucket).map fun object => backend.pathFor object.Key).filter
    (slash ++ dirBase path).isPrefixOf

theorem mem_filesBelow {bucket : Bucket} {path file : PyStr} :
    file ∈ backend.filesBelow bucket path ↔
      (∃ object ∈ backend.wholeRoot bucket, backend.pathFor object.Key = file) ∧
        slash ++ dirBase path <+: file := by
  rw [filesBelow, List.mem_filter, List.mem_map, List.isPrefixOf_iff_prefix]

theorem filesBelow_nodup (bucket : Bucket) (path : PyStr) :
    (backend.filesBelow bucket path).Nodup :=
  (backend.nodup_paths_wholeRoot bucket).filter _

/-- The walk meets the files below the root. -/
theorem mem_filesBelow_root {bucket : Bucket} {file : PyStr} :
    file ∈ backend.filesBelow bucket slash ↔ ((backend.metadata bucket).get? file).isSome := by
  have base : dirBase slash = [] := rfl
  rw [mem_filesBelow, base, Option.isSome_iff_exists]
  constructor
  · rintro ⟨⟨object, inside, same⟩, -⟩
    exact ⟨_, backend.get?_fill_wholeRoot.mpr ⟨object, inside, same, rfl⟩⟩
  · rintro ⟨data, found⟩
    obtain ⟨object, inside, rfl, -⟩ := backend.get?_fill_wholeRoot.mp found
    obtain ⟨stored, -, ⟨rel, split⟩, -, rfl⟩ := backend.mem_wholeRoot.mp inside
    refine ⟨⟨_, inside, rfl⟩, ?_⟩
    change _ <+: backend.pathFor stored.1.1
    rw [← split, pathFor_root_append]
    exact ⟨rel, rfl⟩

/-- No key of the backend has an empty segment. -/
def NoEmptySegments (bucket : Bucket) : Prop :=
  ∀ stored : ObjectKey × StoredObject, bucket.get? stored.1 = some stored.2 →
    backend.root <+: stored.1.1 → ¬ HasEmptySegment (backend.pathFor stored.1.1)

section Complete

variable {bucket : Bucket} (named : backend.NoEmptySegments bucket)
include named

/-- The directories right below a directory have names. -/
theorem subdirectory_cases {path child : PyStr}
    (listed : child ∈ backend.subdirectories bucket path) :
    ∃ name, IsSegment name ∧ child = childPath path name ∧ slash ++ dirBase child = child ∧
      ∃ stored : ObjectKey × StoredObject, bucket.get? stored.1 = some stored.2 ∧
        backend.root <+: stored.1.1 ∧ child <+: backend.pathFor stored.1.1 := by
  obtain ⟨name, fresh, rfl, stored, present, under, rest, below⟩ :=
    backend.mem_subdirectories.mp listed
  have segment : IsSegment name := by
    refine ⟨?_, fresh⟩
    rintro rfl
    exact named stored present under (hasEmptySegment_of_child below)
  refine ⟨name, segment, rfl, ?_, stored, present, under, rest, below⟩
  rw [dirBase_child segment, childPath]
  simp only [List.append_assoc]

/-- Two directories right below one directory have no file in common. -/
theorem subdirectories_disjoint {path first second file : PyStr}
    (listed : first ∈ backend.subdirectories bucket path)
    (listed' : second ∈ backend.subdirectories bucket path)
    (below : file ∈ backend.filesBelow bucket first)
    (below' : file ∈ backend.filesBelow bucket second) : first = second := by
  obtain ⟨name, segment, rfl, base, -⟩ := backend.subdirectory_cases named listed
  obtain ⟨name', segment', rfl, base', -⟩ := backend.subdirectory_cases named listed'
  obtain ⟨-, rest, split⟩ := backend.mem_filesBelow.mp below
  obtain ⟨-, rest', split'⟩ := backend.mem_filesBelow.mp below'
  rw [base, childPath] at split
  rw [base', childPath] at split'
  have same := split.trans split'.symm
  simp only [List.append_assoc, List.append_cancel_left_eq] at same
  have taken := congrArg (List.takeWhile (· ≠ CodePoint.ofChar '/')) same
  have names : name = name' :=
    (takeWhile_name segment.2 rest).symm.trans (taken.trans (takeWhile_name segment'.2 rest'))
  rw [names]

/-- **A file below a directory is right below it or below one of its directories.** -/
theorem filesBelow_split (path : PyStr) :
    (backend.filesBelow bucket path).Perm (backend.ownFiles bucket path ++
      (backend.subdirectories bucket path).flatMap (backend.filesBelow bucket)) := by
  have disjoint : (backend.ownFiles bucket path ++
      (backend.subdirectories bucket path).flatMap (backend.filesBelow bucket)).Nodup := by
    refine List.nodup_append.mpr ⟨backend.ownFiles_nodup, ?_, ?_⟩
    · refine List.nodup_flatMap.mpr ⟨fun child _ => backend.filesBelow_nodup bucket child, ?_⟩
      refine List.Pairwise.imp_of_mem (fun {first second} listed listed' different => ?_)
        backend.subdirectories_nodup
      exact fun file below below' =>
        different (backend.subdirectories_disjoint named listed listed' below below')
    · rintro file own _ member rfl
      obtain ⟨-, -, -, name, fresh, located⟩ := backend.mem_ownFiles.mp own
      obtain ⟨child, listed, inside⟩ := List.mem_flatMap.mp member
      obtain ⟨name', -, rfl, base, -⟩ := backend.subdirectory_cases named listed
      obtain ⟨-, rest, split⟩ := backend.mem_filesBelow.mp inside
      rw [base, childPath, located] at split
      simp only [List.append_assoc, List.append_cancel_left_eq] at split
      exact fresh (split ▸ List.mem_append_right _ List.mem_cons_self)
  refine (List.perm_ext_iff_of_nodup (backend.filesBelow_nodup bucket path) disjoint).mpr
    fun file => ?_
  rw [List.mem_append, List.mem_flatMap, mem_ownFiles, mem_filesBelow]
  constructor
  · rintro ⟨⟨object, inside, rfl⟩, rest, split⟩
    by_cases own : CodePoint.ofChar '/' ∈ rest
    · obtain ⟨name, tail, rfl, fresh⟩ := List.eq_append_cons_of_mem own
      obtain ⟨stored, present, under, -, rfl⟩ := backend.mem_wholeRoot.mp inside
      have below : childPath path name <+: backend.pathFor stored.1.1 :=
        ⟨tail, split ▸ by simp [childPath, slash, py]⟩
      have listed : childPath path name ∈ backend.subdirectories bucket path :=
        backend.mem_subdirectories.mpr ⟨name, fresh, rfl, stored, present, under, below⟩
      obtain ⟨-, -, -, base, -⟩ := backend.subdirectory_cases named listed
      exact .inr ⟨_, listed, backend.mem_filesBelow.mpr ⟨⟨_, inside, rfl⟩, base.symm ▸ below⟩⟩
    · exact .inl ⟨object, inside, rfl, rest, own, split.symm⟩
  · rintro (⟨object, inside, rfl, name, -, located⟩ | ⟨child, listed, below⟩)
    · exact ⟨⟨object, inside, rfl⟩, name, located.symm⟩
    · obtain ⟨name, -, rfl, base, -⟩ := backend.subdirectory_cases named listed
      obtain ⟨real, starts⟩ := backend.mem_filesBelow.mp below
      refine ⟨real, ?_⟩
      rw [base, childPath, List.append_assoc] at starts
      exact (List.prefix_append _ _).trans starts

end Complete

/-- No key of the backend is longer than some bound. -/
theorem exists_longest (bucket : Bucket) :
    ∃ longest, ∀ stored : ObjectKey × StoredObject, bucket.get? stored.1 = some stored.2 →
      (backend.pathFor stored.1.1).length ≤ longest := by
  refine ⟨(bucket.entries.map fun entry => (backend.pathFor entry.1.1).length).sum,
    fun stored present => ?_⟩
  exact List.le_sum_of_mem (List.mem_map.mpr ⟨stored, SortedMap.get?_eq_some.mp present, rfl⟩)

/-- **With names in all segments the walk ends**, and has met every file once. -/
theorem walk_ends {bucket : Bucket} (named : backend.NoEmptySegments bucket)
    {arrange : List PyStr → List PyStr → List PyStr} (arranges : Worklist.Arranges arrange) :
    ∃ calls met, Worklist.walk arrange (backend.subdirectories bucket) (backend.ownFiles bucket)
        calls [slash] [] = some met ∧ met.Perm (backend.filesBelow bucket slash) := by
  obtain ⟨longest, bound⟩ := backend.exists_longest bucket
  have smaller : ∀ path, ∀ child ∈ backend.subdirectories bucket path,
      longest - (dirBase child).length < longest - (dirBase path).length := by
    intro path child listed
    obtain ⟨name, segment, rfl, base, stored, present, -, below⟩ :=
      backend.subdirectory_cases named listed
    have room := (below.length_le).trans (bound stored present)
    have whole : (childPath path name).length = 1 + (dirBase path).length + name.length + 1 := by
      rw [childPath, List.length_append, List.length_append, List.length_append]
      rfl
    have grown : 1 + (dirBase (childPath path name)).length = (childPath path name).length := by
      rw [← congrArg List.length base, List.length_append]
      rfl
    omega
  obtain ⟨calls, met, ended, same⟩ := Worklist.walk_complete arranges smaller
    (backend.filesBelow_split named) [slash] []
  refine ⟨calls, met, by rw [ended, List.nil_append], ?_⟩
  rwa [List.flatMap_cons, List.flatMap_nil, List.append_nil] at same

/-- A directory has a key below it with an empty segment, as seen from there. -/
def LeadsAround (bucket : Bucket) (path : PyStr) : Prop :=
  ∃ (stored : ObjectKey × StoredObject) (rest : PyStr), bucket.get? stored.1 = some stored.2 ∧
    backend.root <+: stored.1.1 ∧ backend.pathFor stored.1.1 = slash ++ dirBase path ++ rest ∧
    HasEmptySegment (slash ++ rest)

/-- Such a directory leads to another one. -/
theorem LeadsAround.next {bucket : Bucket} {path : PyStr}
    (around : backend.LeadsAround bucket path) :
    ∃ child ∈ backend.subdirectories bucket path, backend.LeadsAround bucket child := by
  obtain ⟨stored, rest, present, under, split, empty⟩ := around
  have inside : CodePoint.ofChar '/' ∈ rest := by
    obtain ⟨front, back, whole⟩ := empty
    cases front with
    | nil =>
        have same : slash ++ back = rest := List.append_cancel_left
          (by simpa only [List.nil_append, List.append_assoc] using whole)
        exact same ▸ List.mem_cons_self
    | cons c front =>
        have same : front ++ (slash ++ slash) ++ back = rest := (List.cons.inj whole).2
        rw [← same]
        simp [slash, py]
  obtain ⟨name, tail, rfl, fresh⟩ := List.eq_append_cons_of_mem inside
  have located : backend.pathFor stored.1.1 = childPath path name ++ tail := by
    rw [split]
    simp [childPath, slash, py]
  refine ⟨childPath path name, backend.mem_subdirectories.mpr
    ⟨name, fresh, rfl, stored, present, under, tail, located.symm⟩, ?_⟩
  by_cases unnamed : name = []
  · subst unnamed
    exact ⟨stored, CodePoint.ofChar '/' :: tail, present, under,
      by rw [split, dirBase_child_nil, List.nil_append], empty⟩
  · have segment : IsSegment name := ⟨unnamed, fresh⟩
    refine ⟨stored, tail, present, under, ?_, hasEmptySegment_below segment ?_⟩
    · rw [located, dirBase_child segment, childPath]
      simp only [List.append_assoc]
    · simpa [slash, py] using empty

/-- **A key with an empty segment keeps the walk going for ever.** -/
theorem walk_endless {bucket : Bucket} (stored : ObjectKey × StoredObject)
    (present : bucket.get? stored.1 = some stored.2) (under : backend.root <+: stored.1.1)
    (empty : HasEmptySegment (backend.pathFor stored.1.1))
    {arrange : List PyStr → List PyStr → List PyStr} (arranges : Worklist.Arranges arrange)
    (calls : ℕ) :
    Worklist.walk arrange (backend.subdirectories bucket) (backend.ownFiles bucket) calls
      [slash] [] = none := by
  obtain ⟨rel, split⟩ := under
  have path : backend.pathFor stored.1.1 = slash ++ rel := by rw [← split, pathFor_root_append]
  refine Worklist.walk_endless arranges (fun _ => LeadsAround.next backend) calls []
    ⟨slash, List.mem_singleton_self _, stored, rel, present, ⟨rel, split⟩, path, path ▸ empty⟩

end S3Backend

/-! ## The law -/

/-- **The walk meets every file of the flat listing once, exactly when no key of the backend
has an empty segment.** -/
theorem walk_meets_every_file_iff (backend : S3Backend) (bucket : Bucket)
    (arrange : List PyStr → List PyStr → List PyStr) (arranges : Worklist.Arranges arrange)
    (weather weather' : ℕ → Weather) (calm : ∀ n, (weather n).outage = none)
    (calm' : ∀ n, (weather' n).outage = none) :
    (∃ calls met files sizes,
      (backend.walk arrange calls [slash] []).run store weather bucket = (some met, bucket) ∧
      backend.readAllFileMetadata.run store weather' bucket = (.ok (files, sizes), bucket) ∧
      met.Nodup ∧ ∀ path, path ∈ met ↔ (files.get? path).isSome) ↔
    ∀ stored : ObjectKey × StoredObject, bucket.get? stored.1 = some stored.2 →
      backend.root <+: stored.1.1 → ¬ slash ++ slash <:+: backend.pathFor stored.1.1 := by
  constructor
  · rintro ⟨calls, met, files, sizes, walked, -⟩ stored present under empty
    rw [backend.run_walk arrange bucket calls _ _ calm,
      backend.walk_endless stored present under empty arranges] at walked
    cases walked
  · intro named
    obtain ⟨calls, met, ended, same⟩ := backend.walk_ends named arranges
    refine ⟨calls, met, backend.metadata bucket, backend.sizes bucket, ?_,
      backend.run_readAllFileMetadata_calm weather' bucket calm',
      same.nodup_iff.mpr (backend.filesBelow_nodup bucket slash), fun path => ?_⟩
    · rw [backend.run_walk arrange bucket calls _ _ calm, ended]
    · rw [same.mem_iff, backend.mem_filesBelow_root]

/-- A walk in depth over two files in two directories. -/
theorem walk_meets_every_file_iff_docs :
    let docs := S3Backend.init (py "corpus") (py "docs")
    let bucket : Bucket := (SortedMap.empty.insert ⟨py "docs/a/b.md", by decide⟩
      ⟨[], fair.now⟩).insert ⟨py "docs/c", by decide⟩ ⟨[], fair.now⟩
    ∃ calls met, ((docs.walk (· ++ ·) calls [slash] []).run store (fun _ => fair) bucket).1 =
      some met ∧ py "/a/b.md" ∈ met := by
  intro docs bucket
  have named : ∀ entry ∈ bucket.entries, ¬ slash ++ slash <:+: docs.pathFor entry.1.1 := by decide
  obtain ⟨calls, met, files, sizes, walked, flat, -, found⟩ :=
    (walk_meets_every_file_iff docs bucket (· ++ ·) (fun _ _ => .refl _) (fun _ => fair)
      (fun _ => fair) (fun _ => rfl) fun _ => rfl).mpr
      fun stored present _ => named stored (SortedMap.get?_eq_some.mp present)
  rw [docs.run_readAllFileMetadata_calm _ _ fun _ => rfl] at flat
  cases flat
  exact ⟨calls, met, congrArg Prod.fst walked, (found _).mpr (by decide)⟩

/-- A key with two slashes in a row, which `glob` finds: no number of calls is enough. -/
theorem walk_goes_around :
    let docs := S3Backend.init (py "corpus") (py "docs")
    let bucket : Bucket := SortedMap.empty.insert ⟨py "docs/a//b", by decide⟩ ⟨[], fair.now⟩
    (∀ calls, ((docs.walk (· ++ ·) calls [slash] []).run store (fun _ => fair) bucket).1 = none) ∧
      (docs.readAllFileMetadata.run store (fun _ => fair) bucket).1 =
        .ok (docs.metadata bucket, docs.sizes bucket) ∧
      ((docs.metadata bucket).get? (py "/a//b")).isSome := by
  intro docs bucket
  refine ⟨fun calls => ?_, ?_, by decide⟩
  · rw [docs.run_walk _ bucket calls _ _ fun _ => rfl]
    exact docs.walk_endless (⟨py "docs/a//b", by decide⟩, ⟨[], fair.now⟩) (by decide) (by decide)
      (by unfold HasEmptySegment; decide) (fun _ _ => .refl _) calls
  · rw [docs.run_readAllFileMetadata_calm _ _ fun _ => rfl]

end CarqnaAgent.Storage
