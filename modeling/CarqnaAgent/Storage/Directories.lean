import Mathlib
import CarqnaAgent.Storage.Snapshots

/-!
# One level of the tree

`ls` asks for a listing with a delimiter, `glob` and `grep` for one without. The two
agree: what `ls` reports of a directory are the files of the flat listing right under
it, and a directory entry for every name with a key at or below it
(`mem_lsEntries_file_iff`, `mem_lsEntries_directory_iff`).

A directory may be written with any slashes before it and one behind it: only its
base counts (`slash_append_dirBase_written`).
-/

set_option autoImplicit false

namespace CarqnaAgent.Storage

open Foundations

namespace S3Backend

variable (backend : S3Backend)

theorem dirKeyPrefix_ends (path : PyStr) :
    backend.dirKeyPrefix path = [] ∨ slash <:+ backend.dirKeyPrefix path := by
  rw [dirKeyPrefix_eq]
  rcases dirBase_ends path with empty | ends
  · rw [empty, List.append_nil, root]
    split
    · exact .inr (List.suffix_append _ _)
    · exact .inl rfl
  · exact .inr (ends.trans (List.suffix_append _ _))

/-! ## The entries of a directory -/

section Entries

variable {bucket : Bucket} {path : PyStr}

/-- The file entries, in terms of the flat listing. -/
theorem mem_lsEntries_file_iff {entry : FileInfo} :
    entry ∈ backend.lsEntries bucket path ∧ entry.is_dir = false ↔
      ∃ object ∈ backend.wholeRoot bucket, backend.fileInfo object = entry ∧
        ∃ name, CodePoint.ofChar '/' ∉ name ∧ entry.path = slash ++ dirBase path ++ name := by
  rw [backend.mem_lsEntries_file]
  constructor
  · rintro ⟨stored, name, present, split, nonempty, fresh, rfl⟩
    rw [dirKeyPrefix_eq, List.append_assoc] at split
    refine ⟨summary stored, backend.mem_wholeRoot.mpr ⟨stored, present, ?_, ?_, rfl⟩, rfl, name,
      fresh, ?_⟩
    · rw [split]
      exact List.prefix_append _ _
    · rw [split, slash_isSuffix_iff, ← List.append_assoc,
        List.getLast?_append_of_ne_nil _ nonempty]
      exact fun last => fresh (List.mem_of_getLast? last)
    · change backend.pathFor stored.1.1 = _
      rw [split, pathFor_root_append, List.append_assoc]
  · rintro ⟨object, member, rfl, name, fresh, located⟩
    obtain ⟨stored, present, ⟨rel, split⟩, file, rfl⟩ := backend.mem_wholeRoot.mp member
    change backend.pathFor stored.1.1 = _ at located
    rw [← split, pathFor_root_append, List.append_assoc, List.append_cancel_left_eq] at located
    have whole : stored.1.1 = backend.dirKeyPrefix path ++ name := by
      rw [← split, located, dirKeyPrefix_eq, List.append_assoc]
    refine ⟨stored, name, present, whole, ?_, fresh, rfl⟩
    rintro rfl
    rw [List.append_nil] at whole
    rcases backend.dirKeyPrefix_ends path with empty | ends
    · exact stored.1.2 (whole.trans empty)
    · exact file (whole ▸ ends)

/-- The directory entries, in terms of paths. -/
theorem mem_lsEntries_directory_iff {entry : FileInfo} :
    entry ∈ backend.lsEntries bucket path ∧ entry.is_dir = true ↔
      ∃ name, CodePoint.ofChar '/' ∉ name ∧
        entry = ⟨slash ++ dirBase path ++ name ++ slash, true, 0, []⟩ ∧
        ∃ stored : ObjectKey × StoredObject, bucket.get? stored.1 = some stored.2 ∧
          backend.root <+: stored.1.1 ∧
          slash ++ dirBase path ++ name ++ slash <+: backend.pathFor stored.1.1 := by
  rw [backend.mem_lsEntries_directory]
  refine exists_congr fun name => and_congr_right fun _ => and_congr ?_ (exists_congr fun stored =>
    and_congr_right fun _ => ?_)
  · rw [directoryInfo, dirKeyPrefix_eq, List.append_assoc, List.append_assoc,
      pathFor_root_append]
    simp only [List.append_assoc]
  · rw [dirKeyPrefix_eq, List.append_assoc, List.append_assoc]
    constructor
    · rintro ⟨rest, split⟩
      rw [List.append_assoc] at split
      refine ⟨⟨_, split⟩, ?_⟩
      rw [← split, pathFor_root_append]
      exact ⟨rest, by simp only [List.append_assoc]⟩
    · rintro ⟨⟨rel, split⟩, below⟩
      rw [← split, pathFor_root_append, List.append_assoc, List.append_assoc,
        List.prefix_append_right_inj] at below
      rw [← split, List.prefix_append_right_inj]
      exact below

/-- Every entry is below the directory. -/
theorem lsEntries_below {entry : FileInfo} (member : entry ∈ backend.lsEntries bucket path) :
    ∃ name, name ≠ [] ∧ entry.path = slash ++ dirBase path ++ name := by
  cases kind : entry.is_dir with
  | true =>
      obtain ⟨name, -, rfl, -⟩ := backend.mem_lsEntries_directory_iff.mp ⟨member, kind⟩
      exact ⟨name ++ slash, List.append_ne_nil_of_right_ne_nil _ (by decide),
        by simp only [List.append_assoc]⟩
  | false =>
      obtain ⟨stored, name, -, split, nonempty, -, rfl⟩ :=
        backend.mem_lsEntries_file.mp ⟨member, kind⟩
      refine ⟨name, nonempty, ?_⟩
      change backend.pathFor stored.1.1 = _
      rw [split, dirKeyPrefix_eq, List.append_assoc, pathFor_root_append, List.append_assoc]

end Entries

end S3Backend

/-! ## Directory paths -/

/-- A name in a path. -/
def IsSegment (name : PyStr) : Prop := name ≠ [] ∧ CodePoint.ofChar '/' ∉ name

/-- The path of a directory. The root is empty. -/
def directoryPath (names : List PyStr) : PyStr := names.flatMap fun name => slash ++ name

/-- A directory written with some slashes before it, and with one behind it or none. -/
def writtenDirectory (names : List PyStr) (leading : ℕ) (trailing : Bool) : PyStr :=
  List.replicate leading (CodePoint.ofChar '/') ++ directoryPath names ++
    if trailing then slash else []

/-- Stripping takes away slashes around a text that has none at its ends. -/
theorem strip_slashes {before rel after : PyStr} (slashes : ∀ c ∈ before, c = CodePoint.ofChar '/')
    (slashes' : ∀ c ∈ after, c = CodePoint.ofChar '/') (starts : ¬ slash <+: rel)
    (ends : ¬ slash <:+ rel) : PyStr.strip slash (before ++ rel ++ after) = rel := by
  have dropped : ∀ {s : PyStr}, (∀ c ∈ s, c = CodePoint.ofChar '/') →
      ∀ c ∈ s, decide (c ∈ slash) = true := by
    intro s all c member
    rw [all c member]
    decide
  rw [PyStr.strip, PyStr.stripBy, PyStr.lstripBy, PyStr.rstripBy, List.append_assoc,
    List.dropWhile_append_of_pos (dropped slashes)]
  cases rel with
  | nil =>
      rw [List.nil_append, List.dropWhile_eq_nil_iff.mpr (dropped slashes')]
      rfl
  | cons c rest =>
      have starts' : ¬ slash <+: c :: rest ++ after := by
        rw [slash_isPrefix_iff] at starts ⊢
        exact starts
      rw [← PyStr.lstripBy, ← PyStr.lstrip, lstrip_eq_self_iff.mpr starts', List.rdropWhile,
        List.reverse_append, List.dropWhile_append_of_pos fun d member =>
          dropped slashes' d (List.mem_reverse.mp member)]
      exact rstrip_eq_self_iff.mpr ends

theorem not_slash_isSuffix_append {front name : PyStr} (segment : IsSegment name) :
    ¬ slash <:+ front ++ name := by
  rw [slash_isSuffix_iff, List.getLast?_append_of_ne_nil _ segment.1]
  exact fun last => segment.2 (List.mem_of_getLast? last)

/-- A directory below the root is a slash and a text without slashes at its ends. -/
theorem directoryPath_cons {names : List PyStr} (segments : ∀ name ∈ names, IsSegment name)
    (nonempty : names ≠ []) :
    ∃ rel, directoryPath names = slash ++ rel ∧ rel ≠ [] ∧ ¬ slash <+: rel ∧ ¬ slash <:+ rel := by
  cases names with
  | nil => exact absurd rfl nonempty
  | cons first rest =>
      obtain ⟨⟨filled, fresh⟩, others⟩ := List.forall_mem_cons.mp segments
      have whole : first ++ directoryPath rest ≠ [] :=
        List.append_ne_nil_of_left_ne_nil filled _
      refine ⟨first ++ directoryPath rest, by simp [directoryPath], whole, ?_, ?_⟩
      · rw [slash_isPrefix_iff, List.head?_append_of_ne_nil _ filled]
        exact fun head => fresh (List.mem_of_mem_head? head)
      · rcases List.eq_nil_or_concat' rest with rfl | ⟨front, last, rfl⟩
        · have alone : ¬ slash <:+ [] ++ first := not_slash_isSuffix_append ⟨filled, fresh⟩
          simpa [directoryPath] using alone
        · have split : first ++ directoryPath (front ++ [last]) =
              (first ++ directoryPath front ++ slash) ++ last := by
            simp [directoryPath]
          rw [split]
          exact not_slash_isSuffix_append (others last (by simp))

/-- **Only the base of a directory counts**, not how it is written. -/
theorem slash_append_dirBase_written {names : List PyStr} (segments : ∀ name ∈ names, IsSegment name)
    (leading : ℕ) (trailing : Bool) :
    slash ++ dirBase (writtenDirectory names leading trailing) = directoryPath names ++ slash := by
  have before : ∀ c ∈ List.replicate leading (CodePoint.ofChar '/'), c = CodePoint.ofChar '/' :=
    fun c => List.eq_of_mem_replicate
  have after : ∀ c ∈ (if trailing then slash else []), c = CodePoint.ofChar '/' := by
    intro c member
    split at member
    · simpa [slash, py] using member
    · cases member
  by_cases empty : names = []
  · subst empty
    have stripped : PyStr.strip slash (writtenDirectory [] leading trailing) = [] :=
      strip_slashes before after (by decide) (by decide)
    rw [dirBase, if_pos stripped]
    rfl
  · obtain ⟨rel, split, filled, starts, ends⟩ := directoryPath_cons segments empty
    have before' : ∀ c ∈ List.replicate leading (CodePoint.ofChar '/') ++ slash,
        c = CodePoint.ofChar '/' := by
      intro c member
      rcases List.mem_append.mp member with front | last
      · exact before c front
      · simpa [slash, py] using last
    have stripped : PyStr.strip slash (writtenDirectory names leading trailing) = rel := by
      rw [writtenDirectory, split, ← List.append_assoc]
      exact strip_slashes before' after starts ends
    rw [dirBase, stripped, if_neg filled, split, List.append_assoc]

/-! ## The law -/

/-- **One level of `ls` agrees with the flat listing.** Of a directory, however it is written,
`ls` reports the files of the flat listing right under it with their sizes, and a directory
entry for every name with a key at or below it; not the marker of the directory itself, no two
entries of one path, nothing of a sibling, and all in the order of the paths. -/
theorem ls_agrees_with_metadata (backend : S3Backend) (bucket : Bucket) (names : List PyStr)
    (segments : ∀ name ∈ names, IsSegment name) (leading : ℕ) (trailing : Bool)
    (weather weather' : ℕ → Weather) (calm : ∀ n, (weather n).outage = none)
    (calm' : ∀ n, (weather' n).outage = none) :
    ∃ entries files sizes,
      (backend.ls (writtenDirectory names leading trailing)).run store weather bucket =
        (.ok { entries := some entries }, bucket) ∧
      backend.readAllFileMetadata.run store weather' bucket = (.ok (files, sizes), bucket) ∧
      (∀ path size, (∃ entry ∈ entries, entry.is_dir = false ∧ entry.path = path ∧
          entry.size = size) ↔
        (files.get? path).isSome ∧ sizes.get? path = some size ∧
          ∃ name, CodePoint.ofChar '/' ∉ name ∧ path = directoryPath names ++ slash ++ name) ∧
      (∀ path, (∃ entry ∈ entries, entry.is_dir = true ∧ entry.path = path) ↔
        ∃ name, CodePoint.ofChar '/' ∉ name ∧
          path = directoryPath names ++ slash ++ name ++ slash ∧
          ∃ stored : ObjectKey × StoredObject, bucket.get? stored.1 = some stored.2 ∧
            backend.root <+: stored.1.1 ∧ path <+: backend.pathFor stored.1.1) ∧
      (∀ entry ∈ entries, entry.path ≠ directoryPath names ++ slash) ∧
      (entries.map FileInfo.path).Nodup ∧
      (∀ entry ∈ entries, directoryPath names ++ slash <+: entry.path) ∧
      entries.Pairwise fun first second => first.path ≤ second.path := by
  have base := slash_append_dirBase_written segments leading trailing
  refine ⟨backend.lsEntries bucket (writtenDirectory names leading trailing),
    backend.metadata bucket, backend.sizes bucket, backend.run_ls_calm weather bucket _ calm,
    backend.run_readAllFileMetadata_calm weather' bucket calm', fun path size => ?_,
    fun path => ?_, fun entry member => ?_, backend.lsEntries_nodup bucket _,
    fun entry member => ?_, S3Backend.sortByPath_sorted _⟩
  · constructor
    · rintro ⟨entry, member, file, rfl, rfl⟩
      obtain ⟨object, inside, rfl, name, fresh, located⟩ :=
        backend.mem_lsEntries_file_iff.mp ⟨member, file⟩
      refine ⟨?_, backend.get?_fill_wholeRoot.mpr ⟨object, inside, rfl, rfl⟩, name, fresh, ?_⟩
      · exact Option.isSome_iff_exists.mpr
          ⟨_, backend.get?_fill_wholeRoot.mpr ⟨object, inside, rfl, rfl⟩⟩
      · rw [located, base]
    · rintro ⟨-, sized, name, fresh, located⟩
      obtain ⟨object, inside, rfl, rfl⟩ := backend.get?_fill_wholeRoot.mp sized
      obtain ⟨member, file⟩ := backend.mem_lsEntries_file_iff.mpr
        ⟨object, inside, rfl, name, fresh, by rw [base]; exact located⟩
      exact ⟨_, member, file, rfl, rfl⟩
  · rw [← base]
    constructor
    · rintro ⟨entry, member, directory, rfl⟩
      obtain ⟨name, fresh, rfl, stored, present, under, below⟩ :=
        backend.mem_lsEntries_directory_iff.mp ⟨member, directory⟩
      exact ⟨name, fresh, rfl, stored, present, under, below⟩
    · rintro ⟨name, fresh, rfl, stored, present, under, below⟩
      obtain ⟨member, directory⟩ := backend.mem_lsEntries_directory_iff.mpr
        ⟨name, fresh, rfl, stored, present, under, below⟩
      exact ⟨_, member, directory, rfl⟩
  · obtain ⟨name, nonempty, located⟩ := backend.lsEntries_below member
    rw [located, base]
    simpa using nonempty
  · obtain ⟨name, -, located⟩ := backend.lsEntries_below member
    rw [located, base]
    exact List.prefix_append _ _

/-- The directory `a` of a corpus, written `//a/`. -/
theorem ls_agrees_with_metadata_docs :
    let docs := S3Backend.init (py "corpus") (py "docs")
    let bucket : Bucket := SortedMap.empty.insert ⟨py "docs/a/b.md", by decide⟩ ⟨[], fair.now⟩
    ∃ entries, ((docs.ls (py "//a/")).run store (fun _ => fair) bucket).1 =
        .ok { entries := some entries } ∧
      ∃ entry ∈ entries, entry.is_dir = false ∧ entry.path = py "/a/b.md" := by
  intro docs bucket
  obtain ⟨entries, files, sizes, ran, flat, agree, -⟩ := ls_agrees_with_metadata docs bucket
    [py "a"] (by unfold IsSegment; decide) 1 true (fun _ => fair) (fun _ => fair) (fun _ => rfl)
    fun _ => rfl
  rw [docs.run_readAllFileMetadata_calm _ _ fun _ => rfl] at flat
  cases flat
  obtain ⟨entry, member, file, located, -⟩ := (agree (py "/a/b.md") 0).mpr
    ⟨by decide, by decide, py "b.md", by decide, by decide⟩
  exact ⟨entries, congrArg Prod.fst ran, entry, member, file, located⟩

end CarqnaAgent.Storage
