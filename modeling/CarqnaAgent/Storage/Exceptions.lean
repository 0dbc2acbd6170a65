import Mathlib
import CarqnaAgent.Foundations.Surrogates
import CarqnaAgent.Storage.LineEndings

/-!
# The exceptions of `read`, `write` and `edit`

The store answers a request with a response, a `ClientError` or a `BotoCoreError`, each
operation turns the two errors into results, and an object that is not UTF-8 is a result
too. What no clause catches is the `UnicodeEncodeError` of an upload: UTF-8 has no encoding
of a surrogate, and a tool call may carry one.

So, whatever the store answers, **`read` returns a result, `write` returns one exactly when
its content has no surrogate, and `edit` exactly when its new string has none or nothing is
replaced** (`results_iff`).
-/

set_option autoImplicit false

namespace CarqnaAgent.Storage

open Foundations

/-- The call returns a result: no exception leaves it. -/
def Returns {ρ : Type} (outcome : Except PyException ρ) : Prop :=
  ∃ result, outcome = .ok result

/-- What the documentation says of the replacement helper: it accepts some replacements, of a
string that occurs, and then replaces it everywhere and counts it. The new string has no part
in that. -/
structure AcceptsReplacements (helpers : Helpers) (accepts : PyStr → PyStr → Bool → Prop) :
    Prop where
  performs : ∀ content old new replaceAll replaced occurrences,
    helpers.performStringReplacement content old new replaceAll = .ok (replaced, occurrences) ↔
      accepts content old replaceAll ∧ replaced = PyStr.replace old new content ∧
        occurrences = PyStr.count old content
  occurs : ∀ content old replaceAll, accepts content old replaceAll →
    0 < PyStr.count old content

theorem returns_ok {ρ : Type} (result : ρ) : Returns (.ok result) := ⟨result, rfl⟩

theorem not_returns_error {ρ : Type} (exception : PyException) :
    ¬ Returns (.error exception : Except PyException ρ) := by
  rintro ⟨result, same⟩
  cases same

namespace S3Backend

variable (backend : S3Backend) (helpers : Helpers) {σ ω : Type}
  (service : Service StoreRequest StoreRequest.Response σ ω) (weather : ℕ → ω) (state : σ)
  (filePath : PyStr)

/-- An upload after which every answer is a result returns. -/
theorem upload_returns {ρ : Type} (Key : PyStr) (Body : Bytes)
    {rest : Except StoreError Unit → StoreProgram (Except PyException ρ)}
    (results : ∀ answer, ∃ result, rest answer = .ret (.ok result)) :
    Returns ((putObject Key Body >>= rest).run service weather state).1 := by
  rw [run_putObject]
  obtain ⟨result, same⟩ := results (service (weather 0) state (.putObject Key Body)).1
  rw [same]
  exact returns_ok result

/-- Every answer to a download is a result of `read`. -/
theorem read_returns (offset limit : ℤ) :
    Returns ((backend.read helpers filePath offset limit).run service weather state).1 := by
  rw [read, run_getObject]
  generalize (service (weather 0) state (.getObject (backend.keyFor filePath))).1 = answer
  cases answer with
  | ok raw => exact returns_ok _
  | error error =>
      cases error with
      | botoCoreError text => exact returns_ok _
      | clientError code text =>
          dsimp only
          split
          · exact returns_ok _
          · exact returns_ok _

/-- What can be encoded is uploaded, and every answer to that is a result. -/
theorem write_returns_iff (content : PyStr) :
    Returns ((backend.write filePath content).run service weather state).1 ↔
      PyStr.SurrogateFree content := by
  rw [← PyStr.encode_isSome_iff_surrogateFree, write]
  cases encoded : PyStr.encode content with
  | none => exact iff_of_false (not_returns_error _) Bool.false_ne_true
  | some body =>
      refine iff_of_true (upload_returns service weather state _ _ fun answer => ?_) rfl
      cases answer with
      | ok answer => exact ⟨_, rfl⟩
      | error error => exact ⟨_, rfl⟩

section Edit

variable {helpers} {accepts : PyStr → PyStr → Bool → Prop}
  (accepting : AcceptsReplacements helpers accepts) (oldString newString : PyStr)
  (replaceAll : Bool)
include accepting

/-- What the helper makes of a text is free of surrogates exactly when the new string is. -/
theorem surrogateFree_replaced_iff {raw : Bytes} {text : PyStr}
    (decoded : PyStr.decode raw = some text)
    (accepted : accepts text (normalizeNewlines oldString) replaceAll) :
    PyStr.SurrogateFree (PyStr.replace (normalizeNewlines oldString) (normalizeNewlines newString)
      text) ↔ PyStr.SurrogateFree newString := by
  have free := PyStr.encode_isSome_iff_surrogateFree.mp (PyStr.encode_isSome_of_decode decoded)
  rw [PyStr.surrogateFree_replace_iff (accepting.occurs _ _ _ accepted) free,
    normalizeNewlines_eq newString, PyStr.surrogateFree_newlines_iff]

/-- An upload of `edit` raises exactly when the new string has a surrogate. -/
theorem editBody_returns_iff (raw : Bytes) :
    Returns ((backend.editBody helpers filePath oldString newString replaceAll raw).run service
        weather state).1 ↔
      ∀ text, PyStr.decode raw = some text →
        accepts text (normalizeNewlines oldString) replaceAll →
          PyStr.SurrogateFree newString := by
  rw [editBody, edited]
  cases decoded : PyStr.decode raw with
  | none =>
      refine iff_of_true (returns_ok _) fun text none => ?_
      cases none
  | some text =>
      simp only [Option.some.injEq, forall_eq']
      cases performed : helpers.performStringReplacement text (normalizeNewlines oldString)
          (normalizeNewlines newString) replaceAll with
      | error message =>
          refine iff_of_true (returns_ok _) fun accepted => ?_
          have made := (accepting.performs _ _ (normalizeNewlines newString) _ _ _).mpr
            ⟨accepted, rfl, rfl⟩
          cases performed.symm.trans made
      | ok replacement =>
          obtain ⟨replaced, occurrences⟩ := replacement
          obtain ⟨accepted, rfl, -⟩ := (accepting.performs _ _ _ _ _ _).mp performed
          rw [forall_prop_of_true accepted,
            ← surrogateFree_replaced_iff accepting oldString newString replaceAll decoded accepted,
            ← PyStr.encode_isSome_iff_surrogateFree]
          dsimp only
          cases encoded : PyStr.encode (PyStr.replace (normalizeNewlines oldString)
              (normalizeNewlines newString) text) with
          | none => exact iff_of_false (not_returns_error _) Bool.false_ne_true
          | some body =>
              refine iff_of_true (upload_returns service weather state _ _ fun answer => ?_) rfl
              cases answer with
              | ok answer => exact ⟨_, rfl⟩
              | error error => exact ⟨_, rfl⟩

theorem edit_returns_iff :
    Returns ((backend.edit helpers filePath oldString newString replaceAll).run service weather
        state).1 ↔
      ∀ raw text, (service (weather 0) state (.getObject (backend.keyFor filePath))).1 =
          (.ok raw : Except StoreError Bytes) →
        PyStr.decode raw = some text → accepts text (normalizeNewlines oldString) replaceAll →
          PyStr.SurrogateFree newString := by
  rw [edit, run_getObject]
  generalize (service (weather 0) state (.getObject (backend.keyFor filePath))).1 = answer
  cases answer with
  | ok raw =>
      dsimp only
      rw [backend.editBody_returns_iff service _ _ filePath accepting]
      constructor
      · rintro free raw' text ⟨⟩
        exact free text
      · exact fun free text => free raw text rfl
  | error error =>
      refine iff_of_true ?_ ?_
      · cases error with
        | botoCoreError text => exact returns_ok _
        | clientError code text =>
            dsimp only
            split
            · exact returns_ok _
            · exact returns_ok _
      · rintro raw text ⟨⟩

end Edit

end S3Backend

/-! ## The law -/

/-- **`read` returns; `write` returns exactly when its content has no surrogate; and `edit`
returns exactly when its new string has none, unless the download fails, is not UTF-8, or
nothing in it is replaced.** -/
theorem results_iff (helpers : Helpers) (accepts : PyStr → PyStr → Bool → Prop)
    (accepting : AcceptsReplacements helpers accepts) (backend : S3Backend) {σ ω : Type}
    (service : Service StoreRequest StoreRequest.Response σ ω) (weather : ℕ → ω) (state : σ)
    (filePath : PyStr) :
    (∀ offset limit,
      Returns ((backend.read helpers filePath offset limit).run service weather state).1) ∧
    (∀ content, Returns ((backend.write filePath content).run service weather state).1 ↔
      PyStr.SurrogateFree content) ∧
    ∀ oldString newString replaceAll,
      Returns ((backend.edit helpers filePath oldString newString replaceAll).run service weather
          state).1 ↔
        ∀ raw text, (service (weather 0) state (.getObject (backend.keyFor filePath))).1 =
            (.ok raw : Except StoreError Bytes) →
          PyStr.decode raw = some text →
          accepts text (S3Backend.normalizeNewlines oldString) replaceAll →
          PyStr.SurrogateFree newString :=
  ⟨backend.read_returns helpers service weather state filePath,
    backend.write_returns_iff service weather state filePath,
    backend.edit_returns_iff service weather state filePath accepting⟩

/-- The plain helper accepts a string that occurs once, or more often with `replace_all`. -/
theorem plainHelpers_accepts : AcceptsReplacements plainHelpers fun content old replaceAll =>
    0 < PyStr.count old content ∧ (PyStr.count old content = 1 ∨ replaceAll = true) where
  performs content old new replaceAll replaced occurrences := by
    rw [plainHelpers_performs, and_assoc]
  occurs _ _ _ accepted := accepted.1

/-- A file is edited, and an `edit` whose new string has a surrogate returns where the old
string does not occur. -/
theorem results_iff_docs :
    let docs := S3Backend.init (py "corpus") (py "docs")
    let bucket : Bucket := SortedMap.empty.insert ⟨py "docs/f", by decide⟩ ⟨[97, 98], fair.now⟩
    let edits := fun old new => Returns ((docs.edit plainHelpers (py "/f") old new false).run store
      (fun _ => fair) bucket).1
    edits (py "a") (py "c") ∧ edits (py "c") [.ofNat 0xD800] ∧ ¬ edits (py "a") [.ofNat 0xD800] := by
  intro docs bucket edits
  have law := (results_iff plainHelpers _ plainHelpers_accepts docs store (fun _ => fair) bucket
    (py "/f")).2.2
  refine ⟨(law _ _ _).mpr fun _ _ _ _ _ => by decide, (law _ _ _).mpr ?_, fun returns => ?_⟩
  · rintro raw text ⟨⟩ decoded ⟨occurs, -⟩
    have same : text = py "ab" := Option.some.inj (decoded.symm.trans (by decide))
    subst same
    exact absurd occurs (by decide)
  · have free := (law _ _ _).mp returns [97, 98] (py "ab") rfl (by decide) (by decide)
    exact absurd free (by decide)

/-- A content with a lone surrogate, and a new string with one, leave as an exception. -/
theorem surrogates_raise :
    let docs := S3Backend.init (py "corpus") (py "docs")
    let bucket : Bucket := SortedMap.empty.insert ⟨py "docs/f", by decide⟩ ⟨[97], fair.now⟩
    let lone : PyStr := [.ofNat 0xD800]
    ((docs.write (py "/f") lone).run store (fun _ => fair) bucket).1 =
        .error (.unicodeEncodeError lone) ∧
      ((docs.edit plainHelpers (py "/f") (py "a") lone false).run store (fun _ => fair) bucket).1 =
        .error (.unicodeEncodeError lone) := by
  refine ⟨?_, ?_⟩
  · decide
  · decide

end CarqnaAgent.Storage
