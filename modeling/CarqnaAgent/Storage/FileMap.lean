import Mathlib
import CarqnaAgent.Foundations.Refinement
import CarqnaAgent.Storage.Directories
import CarqnaAgent.Storage.Downloads
import CarqnaAgent.Storage.AllOrNothing

/-!
# `S3Backend` is a file map

What the backend is for: files by their paths. The map of a bucket has the files under
the root of the backend, at their paths (`fileMap`); markers and foreign keys are not in
it. On canonical paths, in a store without failures, `write`, `edit`, `read` and the
snapshots of `glob` and `grep` do on the bucket what `Specified` says of the map.

**Every run of them refines a run on the map** (`backend_refines_fileMap`). It rests on
two facts: the path of a canonical key leads back to it (`exists_canonical_key`), and an
upload under such a key is an update of the map at its path (`fileMap_insert`).
-/

set_option autoImplicit false

namespace CarqnaAgent.Storage

open Foundations

/-! ## The file map -/

/-- Files by their paths. -/
abbrev FileMap := PyStr → Option Bytes

/-- What can be done with files: the three operations on one file, and the snapshots `glob`
and `grep` search. -/
inductive FileAction where
  | write (filePath content : PyStr)
  | edit (filePath oldString newString : PyStr) (replaceAll : Bool)
  | read (filePath : PyStr) (offset limit : ℤ)
  | metadata
  | contents

/-- What they return. -/
inductive FileAnswer where
  | write (outcome : Except PyException WriteResult)
  | edit (outcome : Except PyException EditResult)
  | read (outcome : Except PyException ReadResult)
  | metadata (outcome : Except StoreError (Dict PyStr FileData × Dict PyStr ℕ))
  | contents (outcome : Except StoreError (Dict PyStr FileData))

/-- The error of `edit` for a file that is not there. -/
def editNotFound (filePath : PyStr) : PyStr := py "Error: File '" ++ filePath ++ py "' not found"

/-- The error of `read` for a file that is not there. -/
def readNotFound (filePath : PyStr) : PyStr := py "File '" ++ filePath ++ py "' not found"

/-- What an action does on a file map: the files before, the action, its answer, the files
after. Not-found is reported of a file that is not there, and of no other. -/
inductive Specified (helpers : Helpers) : FileMap → FileAction → FileAnswer → FileMap → Prop where
  | write {files : FileMap} {filePath content : PyStr} {body : Bytes}
      (encoded : PyStr.encode content = some body) :
      Specified helpers files (.write filePath content) (.write (.ok { path := some filePath }))
        (Function.update files filePath (some body))
  | editMissing {files : FileMap} {filePath oldString newString : PyStr} {replaceAll : Bool}
      (missing : files filePath = none) :
      Specified helpers files (.edit filePath oldString newString replaceAll)
        (.edit (.ok { error := some (editNotFound filePath) })) files
  | editUndecodable {files : FileMap} {filePath oldString newString message : PyStr}
      {replaceAll : Bool} {raw : Bytes} (present : files filePath = some raw)
      (undecodable : PyStr.decode raw = none) (other : message ≠ editNotFound filePath) :
      Specified helpers files (.edit filePath oldString newString replaceAll)
        (.edit (.ok { error := some message })) files
  | editRefused {files : FileMap} {filePath oldString newString text message : PyStr}
      {replaceAll : Bool} {raw : Bytes} (present : files filePath = some raw)
      (decoded : PyStr.decode raw = some text)
      (refused : helpers.performStringReplacement text (S3Backend.normalizeNewlines oldString)
        (S3Backend.normalizeNewlines newString) replaceAll = .error message)
      (other : message ≠ editNotFound filePath) :
      Specified helpers files (.edit filePath oldString newString replaceAll)
        (.edit (.ok { error := some message })) files
  | edit {files : FileMap} {filePath oldString newString text replaced : PyStr}
      {replaceAll : Bool} {raw body : Bytes} {occurrences : ℤ}
      (present : files filePath = some raw) (decoded : PyStr.decode raw = some text)
      (performed : helpers.performStringReplacement text (S3Backend.normalizeNewlines oldString)
        (S3Backend.normalizeNewlines newString) replaceAll = .ok (replaced, occurrences))
      (encoded : PyStr.encode replaced = some body) :
      Specified helpers files (.edit filePath oldString newString replaceAll)
        (.edit (.ok { path := some filePath, occurrences := some occurrences }))
        (Function.update files filePath (some body))
  | readMissing {files : FileMap} {filePath : PyStr} {offset limit : ℤ}
      (missing : files filePath = none) :
      Specified helpers files (.read filePath offset limit)
        (.read (.ok { error := some (readNotFound filePath) })) files
  | read {files : FileMap} {filePath : PyStr} {offset limit : ℤ} {raw : Bytes}
      (present : files filePath = some raw)
      (other : (S3Backend.readBody helpers filePath offset limit raw).error ≠
        some (readNotFound filePath)) :
      Specified helpers files (.read filePath offset limit)
        (.read (.ok (S3Backend.readBody helpers filePath offset limit raw))) files
  | metadata {files : FileMap} {listed : Dict PyStr FileData} {sizes : Dict PyStr ℕ}
      (domain : ∀ path, (listed.get? path).isSome = (files path).isSome)
      (lengths : ∀ path, sizes.get? path = (files path).map List.length) :
      Specified helpers files .metadata (.metadata (.ok (listed, sizes))) files
  | contents {files : FileMap} {texts : Dict PyStr FileData}
      (decodable : ∀ path, texts.get? path =
        ((files path).bind PyStr.decode).map helpers.createFileData) :
      Specified helpers files .contents (.contents (.ok texts)) files

/-- **`edit` reports not-found exactly when the file is not there.** -/
theorem Specified.edit_notFound_iff {helpers : Helpers} {files after : FileMap}
    {filePath oldString newString : PyStr} {replaceAll : Bool}
    {outcome : Except PyException EditResult}
    (specified : Specified helpers files (.edit filePath oldString newString replaceAll)
      (.edit outcome) after) :
    outcome = .ok { error := some (editNotFound filePath) } ↔ files filePath = none := by
  cases specified with
  | editMissing missing => exact ⟨fun _ => missing, fun _ => rfl⟩
  | editUndecodable present _ other => simp [present, other]
  | editRefused present _ _ other => simp [present, other]
  | edit present _ _ _ => simp [present]

/-- **`read` reports not-found exactly when the file is not there.** -/
theorem Specified.read_notFound_iff {helpers : Helpers} {files after : FileMap}
    {filePath : PyStr} {offset limit : ℤ} {outcome : Except PyException ReadResult}
    (specified : Specified helpers files (.read filePath offset limit) (.read outcome) after) :
    outcome = .ok { error := some (readNotFound filePath) } ↔ files filePath = none := by
  cases specified with
  | readMissing missing => exact ⟨fun _ => missing, fun _ => rfl⟩
  | read present other =>
      rw [present]
      refine ⟨fun same => absurd ?_ other, fun none => by cases none⟩
      rw [Except.ok.inj same]

/-! ## Canonical paths -/

/-- A slash before each of some names, of which there is at least one. -/
def IsCanonical (path : PyStr) : Prop :=
  ∃ names, names ≠ [] ∧ (∀ name ∈ names, IsSegment name) ∧ path = directoryPath names

namespace S3Backend

variable (backend : S3Backend)

/-- **A canonical path is the path of a key**: the one it is mapped to. -/
theorem exists_canonical_key {path : PyStr} (canonical : IsCanonical path) :
    ∃ key : ObjectKey, key.1 = backend.keyFor path ∧ backend.root <+: key.1 ∧ ¬ slash <:+ key.1 ∧
      backend.pathFor key.1 = path := by
  obtain ⟨names, nonempty, segments, rfl⟩ := canonical
  obtain ⟨rel, split, filled, starts, ends⟩ := directoryPath_cons segments nonempty
  have address : backend.keyFor (directoryPath names) = backend.root ++ rel := by
    rw [split, keyFor_eq, lstrip_slash_append, lstrip_eq_self_iff.mpr starts]
  refine ⟨⟨backend.root ++ rel, List.append_ne_nil_of_right_ne_nil _ filled⟩, address.symm,
    List.prefix_append _ _, ?_, ?_⟩
  · rw [slash_isSuffix_iff, List.getLast?_append_of_ne_nil _ filled, ← slash_isSuffix_iff]
    exact ends
  · rw [pathFor_root_append, split]

/-! ## The map of a bucket -/

/-- The files under the root of the backend, by their paths. -/
def fileMap (bucket : Bucket) : FileMap := fun path =>
  ((listed bucket backend.root).find? fun entry =>
    !slash.isSuffixOf entry.1.1 && backend.pathFor entry.1.1 = path).map fun entry => entry.2.body

theorem fileMap_eq_some {bucket : Bucket} {path : PyStr} {body : Bytes} :
    backend.fileMap bucket path = some body ↔
      ∃ stored : ObjectKey × StoredObject, bucket.get? stored.1 = some stored.2 ∧
        backend.root <+: stored.1.1 ∧ ¬ slash <:+ stored.1.1 ∧
        backend.pathFor stored.1.1 = path ∧ stored.2.body = body := by
  rw [fileMap, Option.map_eq_some_iff]
  constructor
  · rintro ⟨stored, found, rfl⟩
    obtain ⟨present, under⟩ := mem_listed.mp (List.mem_of_find?_eq_some found)
    have kept := List.find?_some found
    simp only [Bool.and_eq_true, Bool.not_eq_true', decide_eq_true_eq] at kept
    refine ⟨stored, present, under, ?_, kept.2, rfl⟩
    rw [← List.isSuffixOf_iff_suffix, kept.1]
    exact Bool.false_ne_true
  · rintro ⟨stored, present, under, file, rfl, rfl⟩
    have member : stored ∈ listed bucket backend.root := mem_listed.mpr ⟨present, under⟩
    have unmarked : slash.isSuffixOf stored.1.1 = false := by
      rw [← Bool.not_eq_true, List.isSuffixOf_iff_suffix]
      exact file
    cases found : (listed bucket backend.root).find? fun entry =>
        !slash.isSuffixOf entry.1.1 && backend.pathFor entry.1.1 = backend.pathFor stored.1.1 with
    | none =>
        have skipped := List.find?_eq_none.mp found stored member
        simp [unmarked] at skipped
    | some other =>
        obtain ⟨present', under'⟩ := mem_listed.mp (List.mem_of_find?_eq_some found)
        have kept := List.find?_some found
        simp only [Bool.and_eq_true, decide_eq_true_eq] at kept
        have keys : other.1 = stored.1 := Subtype.ext (backend.pathFor_injective under' under kept.2)
        refine ⟨other, rfl, ?_⟩
        rw [keys, present] at present'
        rw [Option.some.inj present']

section Key

variable {key : ObjectKey} (under : backend.root <+: key.1) (file : ¬ slash <:+ key.1)
include under file

/-- The file at the path of a key is the object at the key. -/
theorem fileMap_pathFor (bucket : Bucket) :
    backend.fileMap bucket (backend.pathFor key.1) = (bucket.get? key).map StoredObject.body := by
  refine Option.ext fun body => ?_
  rw [fileMap_eq_some, Option.map_eq_some_iff]
  constructor
  · rintro ⟨⟨other, object⟩, present, under', -, same, rfl⟩
    have keys : other = key := Subtype.ext (backend.pathFor_injective under' under same)
    exact ⟨object, keys ▸ present, rfl⟩
  · rintro ⟨object, present, rfl⟩
    exact ⟨(key, object), present, under, file, rfl, rfl⟩

/-- **An upload under the key is an update of the map at its path.** -/
theorem fileMap_insert (bucket : Bucket) (object : StoredObject) :
    backend.fileMap (bucket.insert key object) =
      Function.update (backend.fileMap bucket) (backend.pathFor key.1) (some object.body) := by
  funext path
  by_cases here : path = backend.pathFor key.1
  · subst here
    rw [Function.update_self, fileMap_pathFor backend under file, SortedMap.get?_insert_self,
      Option.map_some]
  · rw [Function.update_of_ne here]
    have elsewhere : ∀ {stored : ObjectKey × StoredObject}, backend.pathFor stored.1.1 = path →
        (bucket.insert key object).get? stored.1 = bucket.get? stored.1 := by
      rintro stored rfl
      refine SortedMap.get?_insert_of_ne fun same => here ?_
      rw [same]
    refine Option.ext fun body => ?_
    rw [fileMap_eq_some, fileMap_eq_some]
    refine exists_congr fun stored => ⟨?_, ?_⟩
    · rintro ⟨present, rest⟩
      exact ⟨elsewhere rest.2.2.1 ▸ present, rest⟩
    · rintro ⟨present, rest⟩
      exact ⟨(elsewhere rest.2.2.1).trans present, rest⟩

end Key

/-! ## The snapshots -/

/-- A map built from the files of the root, in terms of the file map. -/
theorem get?_fill_isSome (bucket : Bucket) (path : PyStr) :
    ((backend.metadata bucket).get? path).isSome = (backend.fileMap bucket path).isSome := by
  rw [Bool.eq_iff_iff, Option.isSome_iff_exists, Option.isSome_iff_exists]
  constructor
  · rintro ⟨data, found⟩
    obtain ⟨object, inside, same, -⟩ := backend.get?_fill_wholeRoot.mp found
    obtain ⟨stored, present, under, file, rfl⟩ := backend.mem_wholeRoot.mp inside
    exact ⟨_, backend.fileMap_eq_some.mpr ⟨stored, present, under, file, same, rfl⟩⟩
  · rintro ⟨body, found⟩
    obtain ⟨stored, present, under, file, same, -⟩ := backend.fileMap_eq_some.mp found
    have inside := backend.mem_wholeRoot.mpr ⟨stored, present, under, file, rfl⟩
    exact ⟨_, backend.get?_fill_wholeRoot.mpr ⟨_, inside, same, rfl⟩⟩

theorem get?_sizes (bucket : Bucket) (path : PyStr) :
    (backend.sizes bucket).get? path = (backend.fileMap bucket path).map List.length := by
  refine Option.ext fun size => ?_
  rw [sizes, get?_fill_wholeRoot, Option.map_eq_some_iff]
  constructor
  · rintro ⟨object, inside, same, rfl⟩
    obtain ⟨stored, present, under, file, rfl⟩ := backend.mem_wholeRoot.mp inside
    exact ⟨_, backend.fileMap_eq_some.mpr ⟨stored, present, under, file, same, rfl⟩, rfl⟩
  · rintro ⟨body, found, rfl⟩
    obtain ⟨stored, present, under, file, same, rfl⟩ := backend.fileMap_eq_some.mp found
    exact ⟨_, backend.mem_wholeRoot.mpr ⟨stored, present, under, file, rfl⟩, same, rfl⟩

/-- What is downloaded is the text of the file. -/
theorem run_contents_calm (helpers : Helpers) {weather : ℕ → Weather}
    (calm : ∀ n, (weather n).outage = none) (bucket : Bucket) :
    ∃ texts, (backend.readAllFileContents helpers).run store weather bucket = (.ok texts, bucket) ∧
      ∀ path, texts.get? path =
        ((backend.fileMap bucket path).bind PyStr.decode).map helpers.createFileData := by
  obtain ⟨texts, ran, searches⟩ :=
    backend.run_readAllFileContents_calm helpers weather bucket calm
  refine ⟨texts, ran, fun path => Option.ext fun data => ?_⟩
  rw [searches, Option.map_eq_some_iff]
  constructor
  · rintro ⟨key, content, under, file, rfl, rfl, text⟩
    obtain ⟨object, present, decoded⟩ := Option.bind_eq_some_iff.mp text
    refine ⟨content, ?_, rfl⟩
    rw [backend.fileMap_pathFor under file, present]
    exact decoded
  · rintro ⟨content, found, rfl⟩
    obtain ⟨body, located, decoded⟩ := Option.bind_eq_some_iff.mp found
    obtain ⟨stored, present, under, file, rfl, rfl⟩ := backend.fileMap_eq_some.mp located
    refine ⟨stored.1, content, under, file, rfl, rfl, ?_⟩
    rw [fileText, present]
    exact decoded

/-! ## One action -/

variable (helpers : Helpers)

/-- The program of an action. -/
def act : FileAction → StoreProgram FileAnswer
  | .write filePath content => do return .write (← backend.write filePath content)
  | .edit filePath oldString newString replaceAll => do
      return .edit (← backend.edit helpers filePath oldString newString replaceAll)
  | .read filePath offset limit => do return .read (← backend.read helpers filePath offset limit)
  | .metadata => do return .metadata (← backend.readAllFileMetadata)
  | .contents => do return .contents (← backend.readAllFileContents helpers)

section Calm

variable {weather : ℕ → Weather} (calm : ∀ n, (weather n).outage = none) {bucket : Bucket}
  {filePath : PyStr} {key : ObjectKey} (address : key.1 = backend.keyFor filePath)
include calm address

theorem run_write_calm {content : PyStr} {body : Bytes}
    (encoded : PyStr.encode content = some body) :
    (backend.write filePath content).run store weather bucket =
      (.ok { path := some filePath }, bucket.insert key ⟨body, (weather 0).now⟩) := by
  rw [write]
  simp only [encoded, ← address, run_putObject]
  rw [store_putObject (calm 0)]
  rfl

theorem run_edit_missing (oldString newString : PyStr) (replaceAll : Bool)
    (missing : bucket.get? key = none) :
    (backend.edit helpers filePath oldString newString replaceAll).run store weather bucket =
      (.ok { error := some (editNotFound filePath) }, bucket) := by
  rw [edit, ← address, run_getObject, store_getObject (calm 0), missing]
  rfl

theorem run_edit_present (oldString newString : PyStr) (replaceAll : Bool) {object : StoredObject}
    (present : bucket.get? key = some object) :
    (backend.edit helpers filePath oldString newString replaceAll).run store weather bucket =
      match edited helpers filePath oldString newString replaceAll object.body with
      | .error outcome => (outcome, bucket)
      | .ok (body, occurrences) =>
          (.ok { path := some filePath, occurrences := some occurrences },
            bucket.insert key ⟨body, (weather 1).now⟩) := by
  rw [edit, ← address, run_getObject, store_getObject (calm 0), present]
  dsimp only
  rw [editBody]
  cases edited helpers filePath oldString newString replaceAll object.body with
  | error outcome => rfl
  | ok uploads =>
      obtain ⟨body, occurrences⟩ := uploads
      dsimp only
      rw [← address, run_putObject, store_putObject (calm 1)]
      rfl

theorem run_read_calm (offset limit : ℤ) :
    (backend.read helpers filePath offset limit).run store weather bucket =
      (.ok (match bucket.get? key with
        | none => { error := some (readNotFound filePath) }
        | some object => readBody helpers filePath offset limit object.body), bucket) := by
  rw [read, ← address, run_getObject, store_getObject (calm 0)]
  cases bucket.get? key with
  | none => rfl
  | some object => rfl

end Calm

end S3Backend

/-! ## The refinement -/

/-- What the helpers do: a replacement is that of the text, and neither helper reports of a
file that it has read that it is not there. -/
structure Documented (helpers : Helpers) : Prop where
  replaces : ∀ content old new replaceAll replaced occurrences,
    helpers.performStringReplacement content old new replaceAll = .ok (replaced, occurrences) →
      replaced = PyStr.replace old new content ∧ occurrences = PyStr.count old content
  refuses : ∀ content old new replaceAll message filePath,
    helpers.performStringReplacement content old new replaceAll = .error message →
      message ≠ editNotFound filePath
  slices : ∀ data offset limit filePath,
    (helpers.sliceReadResponse data offset limit).error ≠ some (readNotFound filePath)

/-- The paths are canonical and the texts can be encoded. -/
def FileAction.Allowed : FileAction → Prop
  | .write filePath content => IsCanonical filePath ∧ (PyStr.encode content).isSome
  | .edit filePath _ newString _ => IsCanonical filePath ∧ (PyStr.encode newString).isSome
  | .read filePath _ _ => IsCanonical filePath
  | .metadata => True
  | .contents => True

theorem editing_ne_editNotFound (filePath rest : PyStr) :
    py "Error editing file '" ++ rest ≠ editNotFound filePath := by
  intro same
  have sixth : some (CodePoint.ofChar ' ') = some (CodePoint.ofChar ':') :=
    congrArg (fun s : PyStr => s[5]?) same
  exact absurd sixth (by decide)

theorem reading_ne_readNotFound (filePath rest : PyStr) :
    py "Error reading file '" ++ rest ≠ readNotFound filePath := by
  intro same
  have first : some (CodePoint.ofChar 'E') = some (CodePoint.ofChar 'F') :=
    congrArg List.head? same
  exact absurd first (by decide)

theorem encode_normalizeNewlines_isSome {s : PyStr} (encodes : (PyStr.encode s).isSome) :
    (PyStr.encode (S3Backend.normalizeNewlines s)).isSome :=
  PyStr.encode_replace_isSome _ (PyStr.encode_replace_isSome _ encodes (by decide)) (by decide)

section Step

variable {helpers : Helpers} (documented : Documented helpers)
include documented

/-- What `read` makes of bytes is never not-found. -/
theorem readBody_ne_readNotFound (filePath : PyStr) (offset limit : ℤ) (raw : Bytes) :
    (S3Backend.readBody helpers filePath offset limit raw).error ≠
      some (readNotFound filePath) := by
  rw [S3Backend.readBody]
  split
  · exact (Option.some_ne_none _).symm
  · split
    · intro same
      rw [List.append_assoc] at same
      exact reading_ne_readNotFound filePath _ (Option.some.inj same)
    · split
      · exact (Option.some_ne_none _).symm
      · exact documented.slices _ _ _ _

/-- What `edit` does with the file it finds is what is specified. -/
theorem edit_specified {files : FileMap} {filePath oldString newString : PyStr} {replaceAll : Bool}
    {raw : Bytes} (present : files filePath = some raw)
    (encodes : (PyStr.encode newString).isSome) :
    (∃ message, S3Backend.edited helpers filePath oldString newString replaceAll raw =
        .error (.ok { error := some message }) ∧
      Specified helpers files (.edit filePath oldString newString replaceAll)
        (.edit (.ok { error := some message })) files) ∨
    ∃ body occurrences,
      S3Backend.edited helpers filePath oldString newString replaceAll raw =
        .ok (body, occurrences) ∧
      Specified helpers files (.edit filePath oldString newString replaceAll)
        (.edit (.ok { path := some filePath, occurrences := some occurrences }))
        (Function.update files filePath (some body)) := by
  rw [S3Backend.edited]
  cases decoded : PyStr.decode raw with
  | none =>
      refine .inl ⟨_, rfl, .editUndecodable present decoded ?_⟩
      rw [List.append_assoc]
      exact editing_ne_editNotFound filePath _
  | some text =>
      dsimp only
      cases performed : helpers.performStringReplacement text
          (S3Backend.normalizeNewlines oldString) (S3Backend.normalizeNewlines newString)
          replaceAll with
      | error message =>
          exact .inl ⟨message, rfl, .editRefused present decoded performed
            (documented.refuses _ _ _ _ _ _ performed)⟩
      | ok made =>
          obtain ⟨replaced, occurrences⟩ := made
          have encodes' : (PyStr.encode replaced).isSome := by
            rw [(documented.replaces _ _ _ _ _ _ performed).1]
            exact PyStr.encode_replace_isSome _ (PyStr.encode_isSome_of_decode decoded)
              (encode_normalizeNewlines_isSome encodes)
          obtain ⟨body, encoded⟩ := Option.isSome_iff_exists.mp encodes'
          dsimp only
          rw [encoded]
          exact .inr ⟨body, occurrences, rfl, .edit present decoded performed encoded⟩

/-- **An action on the bucket is the specified one on the map.** -/
theorem act_specified (backend : S3Backend) {action : FileAction} (allowed : action.Allowed)
    {weather : ℕ → Weather} (calm : ∀ n, (weather n).outage = none) (bucket : Bucket) :
    Specified helpers (backend.fileMap bucket) action
      ((backend.act helpers action).run store weather bucket).1
      (backend.fileMap ((backend.act helpers action).run store weather bucket).2) := by
  cases action with
  | write filePath content =>
      obtain ⟨canonical, encodes⟩ := allowed
      obtain ⟨body, encoded⟩ := Option.isSome_iff_exists.mp encodes
      obtain ⟨key, address, under, file, same⟩ := backend.exists_canonical_key canonical
      simp only [S3Backend.act, Program.pure_eq_ret, Program.run_bind_ret,
        backend.run_write_calm calm address encoded, backend.fileMap_insert under file, same]
      exact .write encoded
  | edit filePath oldString newString replaceAll =>
      obtain ⟨canonical, encodes⟩ := allowed
      obtain ⟨key, address, under, file, same⟩ := backend.exists_canonical_key canonical
      have located := backend.fileMap_pathFor under file bucket
      rw [same] at located
      simp only [S3Backend.act, Program.pure_eq_ret, Program.run_bind_ret]
      cases found : bucket.get? key with
      | none =>
          rw [found] at located
          rw [backend.run_edit_missing helpers calm address _ _ _ found]
          exact .editMissing located
      | some object =>
          rw [found] at located
          rw [backend.run_edit_present helpers calm address _ _ _ found]
          rcases edit_specified documented located encodes with
            ⟨message, made, specified⟩ | ⟨body, occurrences, made, specified⟩
          · rw [made]
            exact specified
          · rw [made]
            dsimp only
            rw [backend.fileMap_insert under file, same]
            exact specified
  | read filePath offset limit =>
      obtain ⟨key, address, under, file, same⟩ := backend.exists_canonical_key allowed
      have located := backend.fileMap_pathFor under file bucket
      rw [same] at located
      simp only [S3Backend.act, Program.pure_eq_ret, Program.run_bind_ret,
        backend.run_read_calm helpers calm address]
      cases found : bucket.get? key with
      | none =>
          rw [found] at located
          exact .readMissing located
      | some object =>
          rw [found] at located
          exact .read located (readBody_ne_readNotFound documented _ _ _ _)
  | metadata =>
      simp only [S3Backend.act, Program.pure_eq_ret, Program.run_bind_ret,
        backend.run_readAllFileMetadata_calm weather bucket calm]
      exact .metadata (backend.get?_fill_isSome bucket) (backend.get?_sizes bucket)
  | contents =>
      obtain ⟨texts, ran, decodable⟩ := backend.run_contents_calm helpers calm bucket
      simp only [S3Backend.act, Program.pure_eq_ret, Program.run_bind_ret, ran]
      exact .contents decodable

end Step

/-- **Every run on the bucket refines a run on its file map.** -/
theorem backend_refines_fileMap (helpers : Helpers) (documented : Documented helpers)
    (backend : S3Backend) (bucket : Bucket) (actions : List (FileAction × (ℕ → Weather)))
    (allowed : ∀ action ∈ actions, action.1.Allowed ∧ ∀ n, (action.2 n).outage = none) :
    let step := fun (action : FileAction × (ℕ → Weather)) bucket =>
      (backend.act helpers action.1).run store action.2 bucket
    Refinement.Runs (fun files action answer after =>
        Specified helpers files action.1 answer after)
      (backend.fileMap bucket) actions (Refinement.run step actions bucket).1
      (backend.fileMap (Refinement.run step actions bucket).2) :=
  Refinement.run_refines (fun action member bucket =>
    act_specified documented backend (allowed action member).1 (allowed action member).2 bucket)
    bucket

theorem plainHelpers_documented : Documented plainHelpers where
  replaces := plainHelpers_replaces
  refuses := by
    intro content old new replaceAll message filePath refused same
    simp only [plainHelpers, performStringReplacement] at refused
    have eighth : some (CodePoint.ofChar 'S') = some (CodePoint.ofChar 'F') := by
      split at refused
      · cases refused
        exact congrArg (fun s : PyStr => s[7]?) same
      · split at refused
        · cases refused
          exact congrArg (fun s : PyStr => s[7]?) same
        · cases refused
    exact absurd eighth (by decide)
  slices _ _ _ _ := (Option.some_ne_none _).symm

/-- A file is written, edited, read and listed next to a marker and a foreign key. -/
theorem backend_refines_fileMap_docs :
    let docs := S3Backend.init (py "corpus") (py "docs")
    let bucket : Bucket := (SortedMap.empty.insert ⟨py "docs/a/", by decide⟩
      ⟨[], fair.now⟩).insert ⟨py "other", by decide⟩ ⟨[0], fair.now⟩
    let actions : List (FileAction × (ℕ → Weather)) :=
      [(.write (py "/a/b") (py "hi"), fun _ => fair),
        (.edit (py "/a/b") (py "i") (py "o") false, fun _ => fair),
        (.read (py "/a/b") 0 10, fun _ => fair), (.metadata, fun _ => fair),
        (.contents, fun _ => fair)]
    ∃ answers after,
      Refinement.Runs (fun files action answer after =>
        Specified plainHelpers files action.1 answer after) (docs.fileMap bucket) actions answers
        after ∧ after (py "/a/b") = some [104, 111] ∧ after (py "/a/") = none := by
  intro docs bucket actions
  have canonical : IsCanonical (py "/a/b") :=
    ⟨[py "a", py "b"], by decide, by unfold IsSegment; decide, by decide⟩
  have allowed : ∀ action ∈ actions, action.1.Allowed ∧ ∀ n, (action.2 n).outage = none :=
    List.forall_mem_cons.mpr ⟨⟨⟨canonical, by decide⟩, fun _ => rfl⟩, List.forall_mem_cons.mpr
      ⟨⟨⟨canonical, by decide⟩, fun _ => rfl⟩, List.forall_mem_cons.mpr
        ⟨⟨canonical, fun _ => rfl⟩, List.forall_mem_cons.mpr ⟨⟨trivial, fun _ => rfl⟩,
          List.forall_mem_cons.mpr ⟨⟨trivial, fun _ => rfl⟩, List.forall_mem_nil _⟩⟩⟩⟩⟩
  exact ⟨_, _, backend_refines_fileMap plainHelpers plainHelpers_documented docs bucket actions
    allowed, by decide, by decide⟩

end CarqnaAgent.Storage
