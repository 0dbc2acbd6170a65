import Mathlib
import CarqnaAgent.Foundations.IsoOrder
import CarqnaAgent.Storage.GlobLines

/-!
# The order `glob` lists files in

The search helper sorts the files it finds by a text, the modification time that
`_read_all_file_metadata` prints in UTC. These texts compare as the times do
(`Foundations.Datetime.isoformat_astimezoneUtc_lt_iff`), so the helper finds the latest
file first, and `glob` keeps the order of the lines.

So **the texts are in time order, and `glob` lists the matching objects most recently
modified first, exactly when no matching path contains a line feed**
(`glob_newest_first_iff`). With such a path a file may be listed again, after an older one
(`glob_lists_out_of_order`).
-/

set_option autoImplicit false

namespace CarqnaAgent.Storage

open Foundations

/-- No object comes before one modified later. -/
def NewestFirst (objects : List ObjectSummary) : Prop :=
  objects.Pairwise fun first second => second.LastModified.instant ≤ first.LastModified.instant

instance (objects : List ObjectSummary) : Decidable (NewestFirst objects) :=
  inferInstanceAs (Decidable (objects.Pairwise _))

namespace S3Backend

variable (backend : S3Backend)

/-- The texts of two objects compare as their times. -/
theorem notOlder_iff {first second : ObjectSummary} :
    NotOlder (backend.pathFor first.Key, metadataOf first)
        (backend.pathFor second.Key, metadataOf second) ↔
      second.LastModified.instant ≤ first.LastModified.instant := by
  unfold NotOlder metadataOf
  dsimp only [Option.getD_some]
  rw [← not_lt, ← not_lt]
  exact not_congr Datetime.isoformat_astimezoneUtc_lt_iff

/-- Files sorted by their text are sorted by their time. -/
theorem newestFirst_of_sorted {objects : List ObjectSummary}
    (sorted : (objects.map fun object =>
      (backend.pathFor object.Key, metadataOf object)).Pairwise NotOlder) :
    NewestFirst objects :=
  (List.pairwise_map.mp sorted).imp backend.notOlder_iff.mp

end S3Backend

/-- **Times print in time order, and `glob` lists the latest first, exactly when no matching
path contains a line feed.** -/
theorem glob_newest_first_iff (helpers : Helpers)
    (matching : PyStr → Option PyStr → PyStr → Bool)
    (searches : SearchesFiles helpers matching) (backend : S3Backend) (bucket : Bucket)
    (weather : ℕ → Weather) (calm : ∀ n, (weather n).outage = none) (pattern : PyStr)
    (path : Option PyStr) :
    (∀ s t : Datetime,
      (s.astimezoneUtc.isoformat < t.astimezoneUtc.isoformat ↔ s.instant < t.instant) ∧
      (s.astimezoneUtc.isoformat = t.astimezoneUtc.isoformat ↔ s.instant = t.instant)) ∧
    ((∃ objects : List ObjectSummary,
        objects.Perm (backend.matchingObjects bucket (matching pattern path)) ∧
        NewestFirst objects ∧
        (backend.glob helpers pattern path).run store weather bucket =
          (.ok { found := some (objects.map backend.matchOf) }, bucket)) ↔
      ∀ object ∈ backend.matchingObjects bucket (matching pattern path),
        CodePoint.ofChar '\n' ∉ backend.pathFor object.Key) := by
  refine ⟨fun s t => ⟨Datetime.isoformat_astimezoneUtc_lt_iff,
    Datetime.isoformat_astimezoneUtc_eq_iff⟩, ?_⟩
  constructor
  · rintro ⟨objects, same, -, ran⟩
    exact backend.fresh_of_found searches calm ran (same.map backend.matchOf)
  · intro fresh
    obtain ⟨objects, same, sorted, ran⟩ := backend.run_glob_of_fresh searches calm fresh
    exact ⟨objects, same, backend.newestFirst_of_sorted sorted, ran⟩

/-! ## A search -/

/-- Of two files the later is listed first. -/
theorem glob_newest_first_docs :
    let docs := S3Backend.init (py "corpus") (py "docs")
    let bucket : Bucket := (SortedMap.empty.insert ⟨py "docs/a", by decide⟩
      ⟨[104], .utc 0 (by decide)⟩).insert ⟨py "docs/b c", by decide⟩ ⟨[], .utc 1 (by decide)⟩
    ∃ objects : List ObjectSummary, NewestFirst objects ∧ objects.length = 2 ∧
      ((docs.glob (searchingHelpers fun _ _ _ => true) (py "**") none).run store
        (fun _ => fair) bucket).1 = .ok { found := some (objects.map docs.matchOf) } := by
  intro docs bucket
  obtain ⟨objects, same, sorted, ran⟩ := (glob_newest_first_iff
    (searchingHelpers fun _ _ _ => true) (fun _ _ _ => true) (searchingHelpers_searches _) docs
    bucket (fun _ => fair) (fun _ => rfl) (py "**") none).2.mpr (by decide)
  exact ⟨objects, sorted, same.length_eq.trans (by decide), congrArg Prod.fst ran⟩

/-- The latest file is listed again, after the oldest. -/
theorem glob_lists_out_of_order :
    let docs := S3Backend.init (py "corpus") (py "docs")
    let early : Datetime := .utc 0 (by decide)
    let middle : Datetime := .utc 1 (by decide)
    let late : Datetime := .utc 2 (by decide)
    let bucket : Bucket := ((SortedMap.empty.insert ⟨py "docs/a", by decide⟩ ⟨[], early⟩).insert
      ⟨py "docs/a\n/b", by decide⟩ ⟨[], middle⟩).insert ⟨py "docs/b", by decide⟩ ⟨[], late⟩
    ((docs.glob (searchingHelpers fun _ _ _ => true) (py "**") none).run store
      (fun _ => fair) bucket).1 =
        .ok { found := some [⟨py "/b", false, 0, late.isoformat⟩,
          ⟨py "/a", false, 0, early.isoformat⟩, ⟨py "/b", false, 0, late.isoformat⟩,
          ⟨py "/a", false, 0, early.isoformat⟩] } ∧
      early.isoformat < late.isoformat ∧ early.instant < late.instant := by
  refine ⟨?_, ?_, ?_⟩
  · decide
  · decide
  · decide

end CarqnaAgent.Storage
