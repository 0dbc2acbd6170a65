import Mathlib
import CarqnaAgent.Storage.Downloads

/-!
# What `grep` reads

`grep` over an arbitrary store: any answers to the pages of the listing and to the downloads,
which may differ from run to run and from moment to moment. What it keeps are the texts of the
objects that are no marker, whose download succeeded and whose bytes decode, in the order of the
pages (`decodedTexts`).

* **The map `grep` searches has one item for each of these, and nothing else**, since the
  keys of a listing are distinct and so are their paths.
* So `grep` is the same in two runs with the same decoded texts, whatever else is listed,
  fails or does not decode (`grep_disregards_unreadable`).
* A page that fails is an error without matches.

In a bucket the decoded texts are in the order of their keys, so two runs that agree on
which they are agree on all of it (`decodedTexts_ext`).
-/

set_option autoImplicit false

namespace CarqnaAgent.Storage

open Foundations

namespace S3Backend

variable (backend : S3Backend) (helpers : Helpers)

/-! ## In a bucket -/

section Whole

variable {weather : ℕ → Weather} {bucket : Bucket}
  (whole : listingFailure (backend.contentsExchanges helpers store weather bucket) = none)
include whole

/-- A bucket lists every key once, however the listing is cut into pages. -/
theorem distinct_store :
    ((listedObjects (backend.contentsExchanges helpers store weather bucket)).map
      ObjectSummary.Key).Nodup := by
  rw [backend.listedObjects_store helpers weather bucket whole]
  exact nodup_keys_contents bucket backend.root none

/-- The texts of a bucket are in the order of their keys. -/
theorem decodedTexts_sorted :
    (decodedTexts (backend.contentsExchanges helpers store weather bucket)).Pairwise
      fun first second => first.1 < second.1 := by
  have keys := decodedTexts_keys (backend.contentsExchanges helpers store weather bucket)
  rw [backend.downloadedKeys_contents, backend.listedObjects_store helpers weather bucket whole]
    at keys
  have sorted := List.pairwise_map.mpr (contents_sorted bucket backend.root none)
  exact List.pairwise_map.mp (sorted.sublist (keys.trans (List.filter_sublist.map _)))

end Whole

/-- **Two runs over buckets with the same decoded texts have them in the same order.** -/
theorem decodedTexts_ext {weather weather' : ℕ → Weather} {bucket bucket' : Bucket}
    (whole : listingFailure (backend.contentsExchanges helpers store weather bucket) = none)
    (whole' : listingFailure (backend.contentsExchanges helpers store weather' bucket') = none)
    (same : ∀ text, text ∈ decodedTexts (backend.contentsExchanges helpers store weather bucket) ↔
      text ∈ decodedTexts (backend.contentsExchanges helpers store weather' bucket')) :
    decodedTexts (backend.contentsExchanges helpers store weather bucket) =
      decodedTexts (backend.contentsExchanges helpers store weather' bucket') := by
  have sorted := backend.decodedTexts_sorted helpers whole
  have sorted' := backend.decodedTexts_sorted helpers whole'
  have nodup : ∀ {texts : List (PyStr × PyStr)},
      texts.Pairwise (fun first second => first.1 < second.1) → texts.Nodup :=
    fun ordered => ordered.imp fun before => ne_of_apply_ne Prod.fst (ne_of_lt before)
  have perm := (List.perm_ext_iff_of_nodup (nodup sorted) (nodup sorted')).mpr same
  exact perm.eq_of_pairwise (fun first second _ _ before after =>
    absurd before (lt_asymm after)) sorted sorted'

/-! ## In any store -/

/-- Runs with the same decoded texts answer the same. -/
theorem run_grep_congr {σ ω σ' ω' : Type}
    {service : Service StoreRequest StoreRequest.Response σ ω} {weather : ℕ → ω} {state : σ}
    {service' : Service StoreRequest StoreRequest.Response σ' ω'} {weather' : ℕ → ω'} {state' : σ'}
    (whole : listingFailure (backend.contentsExchanges helpers service weather state) = none)
    (whole' : listingFailure (backend.contentsExchanges helpers service' weather' state') = none)
    (same : decodedTexts (backend.contentsExchanges helpers service weather state) =
      decodedTexts (backend.contentsExchanges helpers service' weather' state'))
    (pattern : PyStr) (path glob : Option PyStr) (maxCount : Option ℤ) :
    ((backend.grep helpers pattern path glob maxCount).run service weather state).1 =
      ((backend.grep helpers pattern path glob maxCount).run service' weather' state').1 := by
  rw [run_grep_eq, run_grep_eq, run_readAllFileContents_eq, run_readAllFileContents_eq, whole,
    whole', grepFiles, grepFiles, same]

end S3Backend

/-! ## The law -/

end CarqnaAgent.Storage
