import Mathlib
import CarqnaAgent.Foundations.Replacement
import CarqnaAgent.Storage.ConcurrentEdits

/-!
# `write` and `edit` change one object or nothing

Either operation has one request that changes the bucket, its last one. All that can fail
before it (the download, the decoding, the replacement, the encoding) returns or raises
without it, and what it reports is what the store answered.

So **a call that reports success has changed the object at the key of its path and no
other, and any other call has changed nothing** (`write_edit_all_or_nothing`), whatever
the weather of its steps is.
-/

set_option autoImplicit false

namespace CarqnaAgent.Storage

open Foundations

/-! ## The upload -/

/-- The bucket has become this one by an upload under the key. -/
structure Uploaded (bucket after : Bucket) (Key : PyStr) (body : Bytes) : Prop where
  content : contentAt Key after = some body
  elsewhere : ∀ key : ObjectKey, key.1 ≠ Key → after.get? key = bucket.get? key

/-- An upload happens as a whole, or fails and changes nothing. -/
theorem uploaded_cases (weather : Weather) (bucket : Bucket) (Key : PyStr) (body : Bytes) :
    (∃ after, store weather bucket (.putObject Key body) =
        ((.ok () : Except StoreError Unit), after) ∧ Uploaded bucket after Key body) ∨
      ∃ error, store weather bucket (.putObject Key body) =
        ((.error error : Except StoreError Unit), bucket) := by
  rcases upload_cases weather bucket Key body with failed | ⟨answer, content⟩
  · exact .inr failed
  · refine .inl ⟨_, Prod.ext answer rfl, content, fun key different => store_get?_of_ne ?_⟩
    intro Body same
    cases same
    exact different rfl

namespace S3Backend

variable (backend : S3Backend) (helpers : Helpers) (filePath : PyStr)

/-! ## The two operations -/

/-- What a run of `write` comes to. -/
theorem write_outcome (content : PyStr) (weather : ℕ → Weather) (bucket : Bucket) :
    (∃ body after, PyStr.encode content = some body ∧
      (backend.write filePath content).run store weather bucket =
        (.ok { path := some filePath }, after) ∧
      Uploaded bucket after (backend.keyFor filePath) body) ∨
    ∃ outcome, (backend.write filePath content).run store weather bucket = (outcome, bucket) ∧
      ∀ result, outcome = .ok result → result.error ≠ none := by
  rw [write]
  cases encoded : PyStr.encode content with
  | none => exact .inr ⟨_, rfl, fun result same => by cases same⟩
  | some body =>
      simp only [run_putObject]
      rcases uploaded_cases (weather 0) bucket (backend.keyFor filePath) body with
        ⟨after, answer, uploaded⟩ | ⟨error, answer⟩
      · exact .inl ⟨body, after, rfl, by rw [answer]; rfl, uploaded⟩
      · refine .inr ⟨_, by rw [answer]; rfl, fun result same => ?_⟩
        cases same
        exact Option.some_ne_none _

/-- An `edit` that stops before the upload reports no success. -/
theorem edited_stops {oldString newString : PyStr} {replaceAll : Bool} {raw : Bytes}
    {outcome : Except PyException EditResult}
    (stopped : edited helpers filePath oldString newString replaceAll raw = .error outcome) :
    ∀ result, outcome = .ok result → result.error ≠ none := by
  rintro result rfl success
  refine not_succeeded_of_edited helpers filePath stopped ?_
  exact success

/-- What an `edit` uploads is the encoding of what the helper makes of the text. -/
theorem edited_uploads {oldString newString : PyStr} {replaceAll : Bool} {raw body : Bytes}
    {occurrences : ℤ}
    (made : edited helpers filePath oldString newString replaceAll raw = .ok (body, occurrences)) :
    ∃ text replaced, PyStr.decode raw = some text ∧
      helpers.performStringReplacement text (normalizeNewlines oldString)
        (normalizeNewlines newString) replaceAll = .ok (replaced, occurrences) ∧
      PyStr.encode replaced = some body := by
  unfold edited at made
  split at made
  · cases made
  · rename_i text decoded
    split at made
    · cases made
    · rename_i replaced count performed
      split at made
      · cases made
      · rename_i encoded
        cases made
        exact ⟨text, replaced, decoded, performed, encoded⟩

/-- What a run of `edit` comes to. -/
theorem edit_outcome (oldString newString : PyStr) (replaceAll : Bool) (weather : ℕ → Weather)
    (bucket : Bucket) :
    (∃ raw body occurrences after, contentAt (backend.keyFor filePath) bucket = some raw ∧
      edited helpers filePath oldString newString replaceAll raw = .ok (body, occurrences) ∧
      (backend.edit helpers filePath oldString newString replaceAll).run store weather bucket =
        (.ok { path := some filePath, occurrences := some occurrences }, after) ∧
      Uploaded bucket after (backend.keyFor filePath) body) ∨
    ∃ outcome, (backend.edit helpers filePath oldString newString replaceAll).run store weather
        bucket = (outcome, bucket) ∧
      ∀ result, outcome = .ok result → result.error ≠ none := by
  rw [edit, run_getObject, store_getObject_state]
  rcases download_cases (weather 0) bucket (backend.keyFor filePath) with
    ⟨error, answer⟩ | ⟨raw, answer, content⟩
  · rw [answer]
    refine .inr ?_
    cases error with
    | clientError code text =>
        dsimp only
        split
        · exact ⟨_, rfl, by rintro result ⟨⟩; exact Option.some_ne_none _⟩
        · exact ⟨_, rfl, by rintro result ⟨⟩; exact Option.some_ne_none _⟩
    | botoCoreError text => exact ⟨_, rfl, by rintro result ⟨⟩; exact Option.some_ne_none _⟩
  · rw [answer]
    dsimp only
    rw [editBody]
    cases made : edited helpers filePath oldString newString replaceAll raw with
    | error outcome => exact .inr ⟨outcome, rfl, edited_stops helpers filePath made⟩
    | ok uploads =>
        obtain ⟨body, occurrences⟩ := uploads
        dsimp only
        rw [run_putObject]
        rcases uploaded_cases (weather 1) bucket (backend.keyFor filePath) body with
          ⟨after, answer', uploaded⟩ | ⟨error, answer'⟩
        · exact .inl ⟨raw, body, occurrences, after, content, made, by rw [answer']; rfl, uploaded⟩
        · exact .inr ⟨_, by rw [answer']; rfl, by rintro result ⟨⟩; exact Option.some_ne_none _⟩

end S3Backend

/-! ## The law -/

/-- **`write` and `edit` are all-or-nothing.** A call that reports success has changed exactly
the object at the key of its path: to the encoding of the content, or, for `edit`, of its text
with `old` replaced by `new`, and it reports how often `old` occurred: between the gaps that the
text leaves, each of which is kept. Every other call leaves the bucket as it was. -/
theorem write_edit_all_or_nothing (helpers : Helpers)
    (replaces : ∀ content old new replaceAll replaced occurrences,
      helpers.performStringReplacement content old new replaceAll = .ok (replaced, occurrences) →
        replaced = PyStr.replace old new content ∧ occurrences = PyStr.count old content)
    (backend : S3Backend) (filePath : PyStr) (weather : ℕ → Weather) (bucket : Bucket) :
    (∀ content outcome after,
      (backend.write filePath content).run store weather bucket = (outcome, after) →
        ((∃ result, outcome = .ok result ∧ result.error = none) →
          ∃ body, PyStr.encode content = some body ∧
            Uploaded bucket after (backend.keyFor filePath) body) ∧
        ((¬ ∃ result, outcome = .ok result ∧ result.error = none) → after = bucket)) ∧
    (∀ oldString newString replaceAll outcome after,
      (backend.edit helpers filePath oldString newString replaceAll).run store weather bucket =
          (outcome, after) →
        (∀ result, outcome = .ok result → result.error = none →
          ∃ raw text first gaps body,
            contentAt (backend.keyFor filePath) bucket = some raw ∧
            PyStr.decode raw = some text ∧
            text = PyStr.joined (S3Backend.normalizeNewlines oldString) first gaps ∧
            PyStr.replace (S3Backend.normalizeNewlines oldString)
                (S3Backend.normalizeNewlines newString) text =
              PyStr.joined (S3Backend.normalizeNewlines newString) first gaps ∧
            PyStr.encode (PyStr.replace (S3Backend.normalizeNewlines oldString)
              (S3Backend.normalizeNewlines newString) text) = some body ∧
            Uploaded bucket after (backend.keyFor filePath) body ∧
            PyStr.count (S3Backend.normalizeNewlines oldString) text = gaps.length ∧
            result.occurrences =
              some (PyStr.count (S3Backend.normalizeNewlines oldString) text : ℤ)) ∧
        ((¬ ∃ result, outcome = .ok result ∧ result.error = none) → after = bucket)) := by
  refine ⟨fun content outcome after ran => ?_,
    fun oldString newString replaceAll outcome after ran => ?_⟩
  · rcases backend.write_outcome filePath content weather bucket with
      ⟨body, after', encoded, ran', uploaded⟩ | ⟨outcome', ran', failed⟩
    · rw [ran'] at ran
      cases ran
      exact ⟨fun _ => ⟨body, encoded, uploaded⟩, fun failed => absurd ⟨_, rfl, rfl⟩ failed⟩
    · rw [ran'] at ran
      cases ran
      refine ⟨?_, fun _ => rfl⟩
      rintro ⟨result, same, success⟩
      exact absurd success (failed result same)
  · rcases backend.edit_outcome helpers filePath oldString newString replaceAll weather bucket with
      ⟨raw, body, occurrences, after', content, made, ran', uploaded⟩ | ⟨outcome', ran', failed⟩
    · rw [ran'] at ran
      cases ran
      obtain ⟨text, replaced, decoded, performed, encoded⟩ :=
        S3Backend.edited_uploads helpers filePath made
      obtain ⟨rfl, rfl⟩ := replaces _ _ _ _ _ _ performed
      obtain ⟨first, gaps, whole, same, counted⟩ :=
        PyStr.exists_gaps (S3Backend.normalizeNewlines oldString) text
      refine ⟨fun result equal success => ?_, fun failed => absurd ⟨_, rfl, rfl⟩ failed⟩
      cases equal
      exact ⟨raw, text, first, gaps, body, content, decoded, whole, same _, encoded, uploaded,
        counted, rfl⟩
    · rw [ran'] at ran
      cases ran
      exact ⟨fun result same success => absurd success (failed result same), fun _ => rfl⟩

/-- When the plain helper replaces, and by what. -/
theorem plainHelpers_performs (content old new : PyStr) (replaceAll : Bool) (replaced : PyStr)
    (occurrences : ℤ) :
    plainHelpers.performStringReplacement content old new replaceAll = .ok (replaced, occurrences) ↔
      0 < PyStr.count old content ∧ (PyStr.count old content = 1 ∨ replaceAll = true) ∧
        replaced = PyStr.replace old new content ∧ occurrences = PyStr.count old content := by
  simp only [plainHelpers, performStringReplacement]
  split
  · rename_i absent
    simp [absent]
  · rename_i occurs
    split
    · rename_i ambiguous
      simp only [false_iff, reduceCtorEq]
      rintro ⟨-, single | all, -⟩
      · exact absurd ambiguous.1 (by omega)
      · exact absurd (ambiguous.2.symm.trans all) Bool.false_ne_true
    · rename_i clear
      simp only [Except.ok.injEq, Prod.mk.injEq]
      constructor
      · rintro ⟨rfl, rfl⟩
        refine ⟨by omega, ?_, rfl, rfl⟩
        cases replaceAll with
        | true => exact .inr rfl
        | false =>
            simp only [and_true] at clear
            exact .inl (by omega)
      · rintro ⟨-, -, rfl, rfl⟩
        exact ⟨rfl, rfl⟩

theorem plainHelpers_replaces (content old new : PyStr) (replaceAll : Bool) (replaced : PyStr)
    (occurrences : ℤ)
    (performed : plainHelpers.performStringReplacement content old new replaceAll =
      .ok (replaced, occurrences)) :
    replaced = PyStr.replace old new content ∧ occurrences = PyStr.count old content :=
  ((plainHelpers_performs _ _ _ _ _ _).mp performed).2.2

/-- Both occurrences in a file are replaced, and an outage at the upload changes nothing. -/
theorem write_edit_all_or_nothing_docs :
    let docs := S3Backend.init (py "corpus") (py "docs")
    let bucket : Bucket := SortedMap.empty.insert ⟨py "docs/f", by decide⟩ ⟨[97, 98, 97], fair.now⟩
    let storm : ℕ → Weather := fun n =>
      if n = 0 then fair else { fair with outage := some (.botoCoreError (py "timeout")) }
    let run := fun weather =>
      (docs.edit plainHelpers (py "/f") (py "a") (py "c") true).run store weather bucket
    (run fun _ => fair).1 = .ok { path := some (py "/f"), occurrences := some 2 } ∧
      Uploaded bucket (run fun _ => fair).2 (py "docs/f") [99, 98, 99] ∧ (run storm).2 = bucket := by
  intro docs bucket storm run
  refine ⟨by decide, ?_, ?_⟩
  · obtain ⟨success, -⟩ := (write_edit_all_or_nothing plainHelpers plainHelpers_replaces docs
      (py "/f") (fun _ => fair) bucket).2 _ _ _ _ _ (rfl : run (fun _ => fair) = (_, _))
    obtain ⟨raw, text, -, -, body, content, decoded, -, -, encoded, uploaded, -, -⟩ :=
      success { path := some (py "/f"), occurrences := some 2 } (by decide) rfl
    have stored : raw = [97, 98, 97] := by
      have there : contentAt (py "docs/f") bucket = some [97, 98, 97] := by decide
      exact Option.some.inj (content.symm.trans there)
    have read : text = py "aba" := by
      subst stored
      exact Option.some.inj (decoded.symm.trans (by decide))
    have sent : body = [99, 98, 99] := by
      subst read
      exact Option.some.inj (encoded.symm.trans (by decide))
    exact sent ▸ uploaded
  · obtain ⟨-, failure⟩ := (write_edit_all_or_nothing plainHelpers plainHelpers_replaces docs
      (py "/f") storm bucket).2 _ _ _ _ _ (rfl : run storm = (_, _))
    refine failure ?_
    rintro ⟨result, same, success⟩
    have failed : (run storm).1 =
        .ok { error := some (py "Error editing file '/f': timeout") } := by decide
    cases failed.symm.trans same
    cases success

end CarqnaAgent.Storage
