import Mathlib
import CarqnaAgent.Storage.Snapshots

/-!
# The lines `glob` reads

The search helper returns the paths it finds as one text, a line each, and `glob` splits
it again and looks every line up. A text of lines is split into these lines exactly when
none of them has a line feed in it, and a key may have one.

So **`glob` reports each matching object once, with its own path, size and time, exactly
when no matching path contains a line feed** (`glob_exact_iff`). With such a path it
raises, or takes the pieces for other files (`glob_splits_path`).
-/

set_option autoImplicit false

namespace CarqnaAgent.Storage

open Foundations

/-! ## Lines -/

/-- No piece of a split has the separator in it. -/
theorem not_mem_of_mem_splitOn {separator : CodePoint} {text piece : PyStr}
    (member : piece ∈ text.splitOn separator) : separator ∉ piece := by
  induction size : text.length using Nat.strong_induction_on generalizing text with
  | _ size ih =>
      subst size
      by_cases inside : separator ∈ text
      · obtain ⟨front, back, rfl, fresh⟩ := List.eq_append_cons_of_mem inside
        rw [List.splitOn_append_cons_self_of_not_mem fresh] at member
        rcases List.mem_cons.mp member with rfl | later
        · exact fresh
        · exact ih back.length (by simp; omega) later rfl
      · rw [List.splitOn_eq_singleton inside, List.mem_singleton] at member
        exact member ▸ inside

/-- A rearrangement of images is the images of a rearrangement. -/
theorem exists_map_of_perm {α β : Type} {f : α → β} {values : List α} {images : List β}
    (same : images.Perm (values.map f)) :
    ∃ order : List α, order.Perm values ∧ images = order.map f := by
  have paired : List.Forall₂ (fun image value => image = f value) (values.map f) values :=
    List.forall₂_map_left_iff.mpr (List.forall₂_same.mpr fun _ _ => rfl)
  obtain ⟨order, related, reordered⟩ := List.perm_comp_forall₂ same paired
  refine ⟨order, reordered, ?_⟩
  have equal := List.forall₂_map_right_iff.mpr related
  rwa [List.forall₂_eq_eq_eq] at equal

/-- A file is not older than another. -/
def NotOlder (first second : PyStr × FileData) : Prop :=
  second.2.modified_at.getD [] ≤ first.2.modified_at.getD []

/-- What the documentation says of the search helper: the paths of the files that match, in
lines, the latest first, or a text that says there is none. -/
def SearchesFiles (helpers : Helpers) (matching : PyStr → Option PyStr → PyStr → Bool) : Prop :=
  ∀ (files : Dict PyStr FileData) (pattern : PyStr) (path : Option PyStr),
    ∃ order : List (PyStr × FileData),
      order.Perm (files.items.filter fun item => matching pattern path item.1) ∧
      order.Pairwise NotOlder ∧
      helpers.globSearchFiles files pattern path =
        if order = [] then py "No files found"
        else List.intercalate (py "\n") (order.map Prod.fst)

namespace S3Backend

variable (backend : S3Backend)

/-! ## What is reported of an object -/

/-- The match `glob` should report of an object. -/
def matchOf (object : ObjectSummary) : FileInfo where
  path := backend.pathFor object.Key
  is_dir := false
  size := object.Size
  modified_at := object.LastModified.astimezoneUtc.isoformat

/-- The objects of the bucket that match. -/
def matchingObjects (bucket : Bucket) (matching : PyStr → Bool) : List ObjectSummary :=
  (backend.wholeRoot bucket).filter fun object => matching (backend.pathFor object.Key)

/-- The match made of a path that is found. -/
def matchAt (bucket : Bucket) (filePath : PyStr) : FileInfo where
  path := filePath
  is_dir := false
  size := ((backend.sizes bucket).get? filePath).getD 0
  modified_at := (((backend.metadata bucket).get? filePath).bind FileData.modified_at).getD []

section Object

variable {bucket : Bucket} {object : ObjectSummary} (listed : object ∈ backend.wholeRoot bucket)
include listed

theorem get?_metadata_of_mem :
    (backend.metadata bucket).get? (backend.pathFor object.Key) = some (metadataOf object) :=
  backend.get?_fill_wholeRoot.mpr ⟨object, listed, rfl, rfl⟩

theorem get?_sizes_of_mem :
    (backend.sizes bucket).get? (backend.pathFor object.Key) = some object.Size :=
  backend.get?_fill_wholeRoot.mpr ⟨object, listed, rfl, rfl⟩

/-- The match at the path of an object is that of the object. -/
theorem matchAt_pathFor : backend.matchAt bucket (backend.pathFor object.Key) =
    backend.matchOf object := by
  rw [matchAt, backend.get?_metadata_of_mem listed, backend.get?_sizes_of_mem listed]
  rfl

theorem globMatch_pathFor :
    globMatch (backend.metadata bucket) (backend.sizes bucket) (backend.pathFor object.Key) =
      .ok (backend.matchOf object) := by
  rw [globMatch, backend.get?_metadata_of_mem listed, backend.get?_sizes_of_mem listed]
  rfl

end Object

/-- Lines that are all paths of objects are all matched. -/
theorem mapM_globMatch {bucket : Bucket} {lines : List PyStr}
    (found : ∀ line ∈ lines, ∃ object ∈ backend.wholeRoot bucket,
      backend.pathFor object.Key = line) :
    lines.mapM (globMatch (backend.metadata bucket) (backend.sizes bucket)) =
      .ok (lines.map (backend.matchAt bucket)) := by
  induction lines with
  | nil => rfl
  | cons line rest ih =>
      obtain ⟨⟨object, listed, rfl⟩, others⟩ := List.forall_mem_cons.mp found
      rw [List.mapM_cons, backend.globMatch_pathFor listed, ih others, List.map_cons,
        backend.matchAt_pathFor listed]
      rfl

/-! ## What the helper finds -/

theorem metadata_items (bucket : Bucket) :
    (backend.metadata bucket).items =
      (backend.wholeRoot bucket).map fun object =>
        (backend.pathFor object.Key, metadataOf object) := by
  refine Dict.items_fill ?_
  rw [List.map_map]
  exact backend.nodup_paths_wholeRoot bucket

/-- The files found are those of the matching objects, in some order of these. -/
theorem exists_objects {bucket : Bucket} {matching : PyStr → Bool} {order : List (PyStr × FileData)}
    (same : order.Perm ((backend.metadata bucket).items.filter fun item => matching item.1)) :
    ∃ objects : List ObjectSummary, objects.Perm (backend.matchingObjects bucket matching) ∧
      order = objects.map fun object => (backend.pathFor object.Key, metadataOf object) := by
  refine exists_map_of_perm (same.trans (List.Perm.of_eq ?_))
  rw [backend.metadata_items, List.filter_map]
  rfl

/-- A text of lines starts with the first of them. -/
theorem intercalate_head? {separator line : PyStr} (filled : line ≠ []) (rest : List PyStr) :
    (List.intercalate separator (line :: rest)).head? = line.head? := by
  cases rest with
  | nil => simp [List.intercalate]
  | cons other rest => simp [List.intercalate, List.head?_append_of_ne_nil _ filled]

/-- The text of some paths does not say that there is none. -/
theorem intercalate_ne_none {lines : List PyStr} (nonempty : lines ≠ [])
    (starts : ∀ line ∈ lines, slash <+: line) :
    List.intercalate (py "\n") lines ≠ py "No files found" := by
  obtain ⟨line, rest, rfl⟩ := List.exists_cons_of_ne_nil nonempty
  obtain ⟨rel, rfl⟩ := starts line List.mem_cons_self
  intro same
  have heads := congrArg List.head? same
  have filled : slash ++ rel ≠ [] := List.cons_ne_nil _ _
  rw [intercalate_head? filled] at heads
  have first : some (CodePoint.ofChar '/') = some (CodePoint.ofChar 'N') := heads
  exact absurd first (by decide)

theorem slash_isPrefix_pathFor (key : PyStr) : slash <+: backend.pathFor key := by
  unfold pathFor
  split
  · dsimp only
    split
    · exact List.prefix_append _ _
    · split
      · exact List.prefix_rfl
      · exact List.prefix_append _ _
  · exact List.prefix_append _ _

section Search

variable {helpers : Helpers} {matching : PyStr → Option PyStr → PyStr → Bool}
  (searches : SearchesFiles helpers matching) {bucket : Bucket} {weather : ℕ → Weather}
  (calm : ∀ n, (weather n).outage = none) {pattern : PyStr} {path : Option PyStr}
include searches calm

/-- What `glob` makes of the lines it is given. -/
theorem run_glob_lines (pattern : PyStr) (path : Option PyStr) : ∃ objects : List ObjectSummary,
    objects.Perm (backend.matchingObjects bucket (matching pattern path)) ∧
    (objects.map fun object => (backend.pathFor object.Key, metadataOf object)).Pairwise NotOlder ∧
    (backend.glob helpers pattern path).run store weather bucket =
      (if objects = [] then .ok { found := some [] }
        else
          (((List.intercalate (py "\n") (objects.map fun object =>
            backend.pathFor object.Key)).splitOn (CodePoint.ofChar '\n')).mapM
              (globMatch (backend.metadata bucket) (backend.sizes bucket))).map fun found =>
                { found := some found }, bucket) := by
  obtain ⟨order, same, sorted, text⟩ := searches (backend.metadata bucket) pattern path
  obtain ⟨objects, reordered, rfl⟩ := backend.exists_objects same
  refine ⟨objects, reordered, sorted, ?_⟩
  rw [run_glob_eq, backend.run_readAllFileMetadata_calm weather bucket calm]
  simp only [globAnswer, globFound, text, List.map_eq_nil_iff, List.map_map, Function.comp_def]
  by_cases empty : objects = []
  · rw [if_pos empty, if_pos empty, if_pos rfl]
  · have starts : ∀ line ∈ objects.map fun object => backend.pathFor object.Key,
        slash <+: line := by
      intro line member
      obtain ⟨object, -, rfl⟩ := List.mem_map.mp member
      exact backend.slash_isPrefix_pathFor object.Key
    have lines : (objects.map fun object => backend.pathFor object.Key) ≠ [] :=
      fun none => empty (List.map_eq_nil_iff.mp none)
    rw [if_neg empty, if_neg empty, if_neg (intercalate_ne_none lines starts)]
    generalize ((List.intercalate (py "\n") (objects.map fun object =>
      backend.pathFor object.Key)).splitOn (CodePoint.ofChar '\n')).mapM
        (globMatch (backend.metadata bucket) (backend.sizes bucket)) = matched
    cases matched with
    | error exception => rfl
    | ok found => rfl

/-- A search that reports the matching objects has no line feed in their paths. -/
theorem fresh_of_found {found : List FileInfo}
    (ran : (backend.glob helpers pattern path).run store weather bucket =
      (.ok { found := some found }, bucket))
    (exactly : found.Perm ((backend.matchingObjects bucket (matching pattern path)).map
      backend.matchOf)) :
    ∀ object ∈ backend.matchingObjects bucket (matching pattern path),
      CodePoint.ofChar '\n' ∉ backend.pathFor object.Key := by
  intro object listed
  obtain ⟨objects, same, -, result⟩ :=
    backend.run_glob_lines searches calm pattern path
  have nonempty : objects ≠ [] := List.ne_nil_of_mem (same.mem_iff.mpr listed)
  rw [result, if_neg nonempty] at ran
  cases made : ((List.intercalate (py "\n") (objects.map fun object =>
      backend.pathFor object.Key)).splitOn (CodePoint.ofChar '\n')).mapM
        (globMatch (backend.metadata bucket) (backend.sizes bucket)) with
  | error exception =>
      rw [made] at ran
      cases ran
  | ok results =>
      rw [made] at ran
      cases ran
      have member := exactly.mem_iff.mpr (List.mem_map_of_mem listed)
      obtain ⟨line, piece, matched⟩ := globMatch_of_mem made member
      obtain ⟨data, modified_at, -, -, reported⟩ := globMatch_eq_ok matched
      have located : backend.pathFor object.Key = line := congrArg FileInfo.path reported
      exact located ▸ not_mem_of_mem_splitOn piece

/-- Without line feeds `glob` reports the matching objects, none before a later one. -/
theorem run_glob_of_fresh
    (fresh : ∀ object ∈ backend.matchingObjects bucket (matching pattern path),
      CodePoint.ofChar '\n' ∉ backend.pathFor object.Key) :
    ∃ objects : List ObjectSummary,
      objects.Perm (backend.matchingObjects bucket (matching pattern path)) ∧
      (objects.map fun object => (backend.pathFor object.Key, metadataOf object)).Pairwise
        NotOlder ∧
      (backend.glob helpers pattern path).run store weather bucket =
        (.ok { found := some (objects.map backend.matchOf) }, bucket) := by
  obtain ⟨objects, same, sorted, result⟩ :=
    backend.run_glob_lines searches calm pattern path
  refine ⟨objects, same, sorted, ?_⟩
  rw [result]
  by_cases empty : objects = []
  · rw [if_pos empty, empty, List.map_nil]
  · have listed : ∀ object ∈ objects, object ∈ backend.wholeRoot bucket :=
      fun object member => List.mem_of_mem_filter (same.mem_iff.mp member)
    have whole : ∀ line ∈ objects.map fun object => backend.pathFor object.Key,
        CodePoint.ofChar '\n' ∉ line := by
      intro line member
      obtain ⟨object, inside, rfl⟩ := List.mem_map.mp member
      exact fresh object (same.mem_iff.mp inside)
    have found : ∀ line ∈ objects.map fun object => backend.pathFor object.Key,
        ∃ object ∈ backend.wholeRoot bucket, backend.pathFor object.Key = line := by
      intro line member
      obtain ⟨object, inside, rfl⟩ := List.mem_map.mp member
      exact ⟨object, listed object inside, rfl⟩
    have split : (List.intercalate (py "\n") (objects.map fun object =>
        backend.pathFor object.Key)).splitOn (CodePoint.ofChar '\n') =
          objects.map fun object => backend.pathFor object.Key :=
      List.splitOn_intercalate _ whole fun none => empty (List.map_eq_nil_iff.mp none)
    have reported : (objects.map fun object => backend.pathFor object.Key).map
        (backend.matchAt bucket) = objects.map backend.matchOf := by
      rw [List.map_map]
      exact List.map_congr_left fun object inside => backend.matchAt_pathFor (listed object inside)
    rw [if_neg empty, split, backend.mapM_globMatch found, reported]
    rfl

end Search

end S3Backend

/-! ## The law -/

/-- **`glob` is exact, exactly when no matching path contains a line feed.** -/
theorem glob_exact_iff (helpers : Helpers) (matching : PyStr → Option PyStr → PyStr → Bool)
    (searches : SearchesFiles helpers matching) (backend : S3Backend) (bucket : Bucket)
    (weather : ℕ → Weather) (calm : ∀ n, (weather n).outage = none) (pattern : PyStr)
    (path : Option PyStr) :
    (∃ found, (backend.glob helpers pattern path).run store weather bucket =
        (.ok { found := some found }, bucket) ∧
      found.Perm ((backend.matchingObjects bucket (matching pattern path)).map
        backend.matchOf)) ↔
    ∀ object ∈ backend.matchingObjects bucket (matching pattern path),
      CodePoint.ofChar '\n' ∉ backend.pathFor object.Key := by
  constructor
  · rintro ⟨found, ran, exactly⟩
    exact backend.fresh_of_found searches calm ran exactly
  · intro fresh
    obtain ⟨objects, same, -, ran⟩ := backend.run_glob_of_fresh searches calm fresh
    exact ⟨objects.map backend.matchOf, ran, same.map backend.matchOf⟩

/-! ## A search -/

instance (first second : PyStr × FileData) : Decidable (NotOlder first second) :=
  inferInstanceAs (Decidable (second.2.modified_at.getD [] ≤ first.2.modified_at.getD []))

instance : Std.Total NotOlder where
  total _ _ := le_total _ _

instance : IsTrans (PyStr × FileData) NotOlder where
  trans _ _ _ later latest := le_trans latest later

/-- The plain helpers with a search that does what its documentation says. -/
def searchingHelpers (matching : PyStr → Option PyStr → PyStr → Bool) : Helpers :=
  { plainHelpers with
    globSearchFiles := fun files pattern path =>
      let order := (files.items.filter fun item => matching pattern path item.1).insertionSort
        NotOlder
      if order = [] then py "No files found"
      else List.intercalate (py "\n") (order.map Prod.fst) }

theorem searchingHelpers_searches (matching : PyStr → Option PyStr → PyStr → Bool) :
    SearchesFiles (searchingHelpers matching) matching :=
  fun _ _ _ => ⟨_, List.perm_insertionSort _ _, List.pairwise_insertionSort _ _, rfl⟩

/-- Two files that match are two matches. -/
theorem glob_exact_iff_docs :
    let docs := S3Backend.init (py "corpus") (py "docs")
    let bucket : Bucket := (SortedMap.empty.insert ⟨py "docs/a", by decide⟩
      ⟨[104], fair.now⟩).insert ⟨py "docs/b c", by decide⟩ ⟨[], fair.now⟩
    ∃ found, ((docs.glob (searchingHelpers fun _ _ _ => true) (py "**") none).run store
        (fun _ => fair) bucket).1 = .ok { found := some found } ∧ found.length = 2 := by
  intro docs bucket
  obtain ⟨found, ran, same⟩ := (glob_exact_iff (searchingHelpers fun _ _ _ => true)
    (fun _ _ _ => true) (searchingHelpers_searches _) docs bucket (fun _ => fair) (fun _ => rfl)
    (py "**") none).mpr (by decide)
  exact ⟨found, congrArg Prod.fst ran, same.length_eq.trans (by decide)⟩

/-- A path with a line feed is looked up in two pieces: the search raises, or reports the two
other files there are instead. -/
theorem glob_splits_path :
    let docs := S3Backend.init (py "corpus") (py "docs")
    let search := fun bucket => ((docs.glob (searchingHelpers fun _ _ path => path = py "/a\n/b")
      (py "**") none).run store (fun _ => fair) bucket).1
    let alone : Bucket := SortedMap.empty.insert ⟨py "docs/a\n/b", by decide⟩ ⟨[104], fair.now⟩
    let others : Bucket := (alone.insert ⟨py "docs/a", by decide⟩ ⟨[], fair.now⟩).insert
      ⟨py "docs/b", by decide⟩ ⟨[], fair.now⟩
    search alone = .error (.keyError (py "/a")) ∧
      search others = .ok { found := some [⟨py "/a", false, 0, fair.now.isoformat⟩,
        ⟨py "/b", false, 0, fair.now.isoformat⟩] } := by
  refine ⟨?_, ?_⟩
  · decide
  · decide

end CarqnaAgent.Storage
