import Mathlib
import CarqnaAgent.Storage.Snapshots

/-!
# What `grep` downloads

`grep` lists the root page by page and downloads the objects of a page before it asks for the
next one. In terms of its exchanges with the store, whatever this answers:

* every object of the pages that is no marker is downloaded, in the order of the pages;
* a page that fails is the result;
* otherwise the map it searches has the texts of the downloads that succeeded and decode
  (`paged_readContents`).

Over a bucket, **what is searched was there when it was downloaded, and what keeps its text is
searched** (`readAllFileContents_observed`). So in a bucket that stays as it is the map is that
of its texts (`run_readAllFileContents`).
-/

set_option autoImplicit false

namespace CarqnaAgent.Storage

open Foundations

/-! ## Exchanges -/

/-- The objects of a page. -/
def pageObjects : StoreExchange → List ObjectSummary
  | ⟨.listObjectsV2 _ _ _, .ok output⟩ => output.Contents
  | _ => []

/-- The error of a page. -/
def pageFailure : StoreExchange → Option StoreError
  | ⟨.listObjectsV2 _ _ _, .error error⟩ => some error
  | _ => none

/-- The key of a download. -/
def downloadedKey : StoreExchange → Option PyStr
  | ⟨.getObject Key, _⟩ => some Key
  | _ => none

/-- The key and the text of a download that succeeded and decodes. -/
def decodedText : StoreExchange → Option (PyStr × PyStr)
  | ⟨.getObject Key, .ok body⟩ => (PyStr.decode body).map fun text => (Key, text)
  | _ => none

variable (exchanges : List StoreExchange)

/-- The objects of the pages that were answered. -/
def listedObjects : List ObjectSummary := exchanges.flatMap pageObjects

/-- The first error of a page. -/
def listingFailure : Option StoreError := exchanges.findSome? pageFailure

/-- The keys that were downloaded. -/
def downloadedKeys : List PyStr := exchanges.filterMap downloadedKey

/-- The keys and texts of the downloads that succeeded and decode. -/
def decodedTexts : List (PyStr × PyStr) := exchanges.filterMap decodedText

variable {exchanges}

theorem mem_decodedTexts {text : PyStr × PyStr} :
    text ∈ decodedTexts exchanges ↔ ∃ body : Bytes,
      (⟨.getObject text.1, .ok body⟩ : StoreExchange) ∈ exchanges ∧
        PyStr.decode body = some text.2 := by
  rw [decodedTexts, List.mem_filterMap]
  constructor
  · rintro ⟨⟨request, answer⟩, member, decodes⟩
    cases request with
    | getObject Key =>
        cases answer with
        | error error => cases decodes
        | ok body =>
            obtain ⟨content, decoded, rfl⟩ := Option.map_eq_some_iff.mp decodes
            exact ⟨body, member, decoded⟩
    | listObjectsV2 Prefix Delimiter token => cases decodes
    | putObject Key Body => cases decodes
  · rintro ⟨body, member, decoded⟩
    exact ⟨_, member, Option.map_eq_some_iff.mpr ⟨text.2, decoded, rfl⟩⟩

theorem mem_downloadedKeys {Key : PyStr} :
    Key ∈ downloadedKeys exchanges ↔ ∃ answer : Except StoreError Bytes,
      (⟨.getObject Key, answer⟩ : StoreExchange) ∈ exchanges := by
  rw [downloadedKeys, List.mem_filterMap]
  constructor
  · rintro ⟨⟨request, answer⟩, member, same⟩
    cases request with
    | getObject key =>
        cases same
        exact ⟨answer, member⟩
    | listObjectsV2 Prefix Delimiter token => cases same
    | putObject key Body => cases same
  · rintro ⟨answer, member⟩
    exact ⟨_, member, rfl⟩

section Cons

variable {Key : PyStr} {body : Bytes}

theorem decodedTexts_cons_none (undecodable : PyStr.decode body = none) :
    decodedTexts (⟨.getObject Key, .ok body⟩ :: exchanges) = decodedTexts exchanges :=
  List.filterMap_cons_none (congrArg (Option.map _) undecodable)

theorem decodedTexts_cons_some {text : PyStr} (decoded : PyStr.decode body = some text) :
    decodedTexts (⟨.getObject Key, .ok body⟩ :: exchanges) =
      (Key, text) :: decodedTexts exchanges :=
  List.filterMap_cons_some (congrArg (Option.map _) decoded)

end Cons

section Append

variable (first second : List StoreExchange)

theorem listedObjects_append :
    listedObjects (first ++ second) = listedObjects first ++ listedObjects second :=
  List.flatMap_append

theorem listingFailure_append :
    listingFailure (first ++ second) = (listingFailure first).or (listingFailure second) :=
  List.findSome?_append

theorem downloadedKeys_append :
    downloadedKeys (first ++ second) = downloadedKeys first ++ downloadedKeys second :=
  List.filterMap_append

theorem decodedTexts_append :
    decodedTexts (first ++ second) = decodedTexts first ++ decodedTexts second :=
  List.filterMap_append

end Append

/-- The texts are in the order of the downloads. -/
theorem decodedTexts_keys (exchanges : List StoreExchange) :
    ((decodedTexts exchanges).map Prod.fst).Sublist (downloadedKeys exchanges) := by
  induction exchanges with
  | nil => exact .slnil
  | cons exchange rest ih =>
      obtain ⟨request, answer⟩ := exchange
      cases request with
      | getObject Key =>
          cases answer with
          | error error => exact ih.cons _
          | ok body =>
              cases decoded : PyStr.decode body with
              | none =>
                  rw [decodedTexts_cons_none decoded]
                  exact ih.cons _
              | some text =>
                  rw [decodedTexts_cons_some decoded]
                  exact ih.cons_cons _
      | listObjectsV2 Prefix Delimiter token => exact ih
      | putObject Key Body => exact ih

namespace S3Backend

variable (backend : S3Backend) (helpers : Helpers)

/-! ## The loop of `grep` -/

/-- The item of the map for a text. -/
def textItem (text : PyStr × PyStr) : PyStr × FileData :=
  (backend.pathFor text.1, helpers.createFileData text.2)

/-- The loop downloads the objects that are no markers and keeps the texts. A skipped object
leaves nothing behind, whatever the reason is. -/
theorem transcript_readContents {objects : List ObjectSummary} {files later : Dict PyStr FileData}
    (ran : (backend.readContents helpers objects files).Transcript exchanges later) :
    later = files.fill ((decodedTexts exchanges).map (backend.textItem helpers)) ∧
      downloadedKeys exchanges = (realFiles objects).map ObjectSummary.Key ∧
      listedObjects exchanges = [] ∧ listingFailure exchanges = none := by
  induction objects generalizing files exchanges with
  | nil =>
      obtain ⟨rfl, rfl⟩ := ran
      exact ⟨rfl, rfl, rfl, rfl⟩
  | cons object rest ih =>
      rw [readContents] at ran
      cases marker : slash.isSuffixOf object.Key with
      | true =>
          have skipped : realFiles (object :: rest) = realFiles rest :=
            List.filter_cons_of_neg (by simp [marker])
          rw [if_pos marker] at ran
          rw [skipped]
          exact ih ran
      | false =>
          have kept : realFiles (object :: rest) = object :: realFiles rest :=
            List.filter_cons_of_pos (by simp [marker])
          rw [if_neg (by simp [marker]), transcript_getObject] at ran
          obtain ⟨answer, others, rfl, ran⟩ := ran
          rw [kept]
          cases answer with
          | error error =>
              obtain ⟨same, keys, objects, failure⟩ := ih ran
              exact ⟨same, congrArg (object.Key :: ·) keys, objects, failure⟩
          | ok body =>
              cases decoded : PyStr.decode body with
              | none =>
                  simp only [decoded] at ran
                  obtain ⟨same, keys, objects, failure⟩ := ih ran
                  refine ⟨?_, congrArg (object.Key :: ·) keys, objects, failure⟩
                  rw [decodedTexts_cons_none decoded]
                  exact same
              | some text =>
                  simp only [decoded] at ran
                  obtain ⟨same, keys, objects, failure⟩ := ih ran
                  refine ⟨?_, congrArg (object.Key :: ·) keys, objects, failure⟩
                  rw [decodedTexts_cons_some decoded]
                  exact same

/-- **What the loop over the pages makes of its exchanges.** -/
theorem paged_readContents {token : Option ContinuationToken} {files : Dict PyStr FileData}
    {pages : List Page} {result : Except StoreError (Dict PyStr FileData)}
    (paged : Paged backend.root none (fun page => backend.readContents helpers page.Contents) token
      files exchanges pages result) :
    listedObjects exchanges = pages.flatMap Page.Contents ∧
      downloadedKeys exchanges =
        (realFiles (listedObjects exchanges)).map ObjectSummary.Key ∧
      result = (listingFailure exchanges).elim
        (.ok (files.fill ((decodedTexts exchanges).map (backend.textItem helpers)))) .error := by
  induction paged with
  | failed error => exact ⟨rfl, rfl, rfl⟩
  | @last token files later inner output ends ran =>
      obtain ⟨same, keys, objects, failure⟩ := backend.transcript_readContents helpers ran
      have listed : listedObjects (⟨.listObjectsV2 backend.root none token, .ok output⟩ :: inner) =
          output.Contents := (congrArg (output.Contents ++ ·) objects).trans (List.append_nil _)
      have whole : listingFailure (⟨.listObjectsV2 backend.root none token, .ok output⟩ :: inner) =
          none := failure
      refine ⟨listed.trans (by simp), ?_, ?_⟩
      · rw [listed]
        exact keys
      · rw [whole, same]
        rfl
  | @more token files later inner outer pages result output next goes ran rest ih =>
      obtain ⟨same, keys, objects, failure⟩ := backend.transcript_readContents helpers ran
      obtain ⟨listed', keys', result'⟩ := ih
      have listed : listedObjects
          (⟨.listObjectsV2 backend.root none token, .ok output⟩ :: (inner ++ outer)) =
            output.Contents ++ listedObjects outer := by
        change output.Contents ++ listedObjects (inner ++ outer) = _
        rw [listedObjects_append, objects, List.nil_append]
      have onward : listingFailure
          (⟨.listObjectsV2 backend.root none token, .ok output⟩ :: (inner ++ outer)) =
            listingFailure outer := by
        change listingFailure (inner ++ outer) = _
        rw [listingFailure_append, failure, Option.none_or]
      have filled : (later.fill ((decodedTexts outer).map (backend.textItem helpers))) =
          files.fill ((decodedTexts (inner ++ outer)).map (backend.textItem helpers)) := by
        rw [same, decodedTexts_append, List.map_append]
        exact List.foldl_append.symm
      refine ⟨?_, ?_, ?_⟩
      · rw [listed, listed']
        rfl
      · rw [listed, realFiles, List.filter_append, List.map_append]
        exact (downloadedKeys_append inner outer).trans (congrArg₂ _ keys keys')
      · rw [onward, result', filled]
        rfl

/-! ## The map `grep` searches -/

/-- The map of some exchanges. -/
def grepFiles (exchanges : List StoreExchange) : Dict PyStr FileData :=
  Dict.empty.fill ((decodedTexts exchanges).map (backend.textItem helpers))

/-- The exchanges of `_read_all_file_contents`. -/
def contentsExchanges {σ ω : Type} (service : Service StoreRequest StoreRequest.Response σ ω)
    (weather : ℕ → ω) (state : σ) : List StoreExchange :=
  (backend.readAllFileContents helpers).exchanges service weather state

section AnyStore

variable {σ ω : Type} (service : Service StoreRequest StoreRequest.Response σ ω)
  (weather : ℕ → ω) (state : σ)

/-- The pages of a run of `_read_all_file_contents`. -/
theorem exists_paged_contents : ∃ pages, Paged backend.root none
    (fun page => backend.readContents helpers page.Contents) none .empty
    (backend.contentsExchanges helpers service weather state) pages
    ((backend.readAllFileContents helpers).run service weather state).1 :=
  paged_of_transcript (Program.transcript_run _)

/-- Every object of the pages that is no marker is downloaded, in order. -/
theorem downloadedKeys_contents :
    downloadedKeys (backend.contentsExchanges helpers service weather state) =
      (realFiles (listedObjects (backend.contentsExchanges helpers service weather state))).map
        ObjectSummary.Key := by
  obtain ⟨pages, paged⟩ := backend.exists_paged_contents helpers service weather state
  exact (backend.paged_readContents helpers paged).2.1

theorem run_readAllFileContents_eq :
    ((backend.readAllFileContents helpers).run service weather state).1 =
      (listingFailure (backend.contentsExchanges helpers service weather state)).elim
        (.ok (backend.grepFiles helpers
          (backend.contentsExchanges helpers service weather state))) .error := by
  obtain ⟨pages, paged⟩ := backend.exists_paged_contents helpers service weather state
  exact (backend.paged_readContents helpers paged).2.2

/-- The listed objects are under the root. -/
theorem root_isPrefix_of_mem_listedObjects {object : ObjectSummary}
    (member : object ∈ listedObjects (backend.contentsExchanges helpers service weather state)) :
    backend.root <+: object.Key := by
  obtain ⟨pages, paged⟩ := backend.exists_paged_contents helpers service weather state
  rw [(backend.paged_readContents helpers paged).1] at member
  exact paged.starts object member

/-- **The map has one item for each decoded text, in order, and nothing else**, if no key is
listed twice. -/
theorem grepFiles_items
    (distinct : ((listedObjects (backend.contentsExchanges helpers service weather state)).map
      ObjectSummary.Key).Nodup) :
    (backend.grepFiles helpers (backend.contentsExchanges helpers service weather state)).items =
      (decodedTexts (backend.contentsExchanges helpers service weather state)).map
        (backend.textItem helpers) := by
  have keys := decodedTexts_keys (backend.contentsExchanges helpers service weather state)
  rw [downloadedKeys_contents] at keys
  refine Dict.items_fill ?_
  have paths := backend.nodup_map_pathFor
    ((distinct.sublist (List.filter_sublist.map _)).sublist keys) fun key member => by
      obtain ⟨object, inside, rfl⟩ := List.mem_map.mp (keys.subset member)
      exact backend.root_isPrefix_of_mem_listedObjects helpers service weather state
        (List.mem_of_mem_filter inside)
  rw [List.map_map] at paths ⊢
  exact paths

/-- What `grep` makes of its map. -/
def grepAnswer (pattern : PyStr) (path glob : Option PyStr) (maxCount : Option ℤ) :
    Except StoreError (Dict PyStr FileData) → Except PyException GrepResult
  | .error error =>
      .ok { error := some (py "Error searching for '" ++ pattern ++ py "': " ++ error.text) }
  | .ok files =>
      .ok (helpers.grepMatchesFromFiles files pattern (path.getD slash) glob maxCount)

theorem run_grep_eq (pattern : PyStr) (path glob : Option PyStr) (maxCount : Option ℤ) :
    (backend.grep helpers pattern path glob maxCount).run service weather state =
      (grepAnswer helpers pattern path glob maxCount
          ((backend.readAllFileContents helpers).run service weather state).1,
        ((backend.readAllFileContents helpers).run service weather state).2) := by
  rw [grep, Program.run_bind]
  cases ((backend.readAllFileContents helpers).run service weather state).1 with
  | error error => rfl
  | ok files => rfl

end AnyStore

/-! ## Over a bucket -/

/-- The text of a file in a bucket. -/
def fileText (bucket : Bucket) (key : ObjectKey) : Option PyStr :=
  (bucket.get? key).bind fun object => PyStr.decode object.body

/-- A download that is answered is answered with the object of the moment. -/
theorem answers_getObject {moment : Weather × Bucket} {Key : PyStr} {body : Bytes}
    (answers : store.Answers moment ⟨.getObject Key, .ok body⟩) :
    moment.1.outage = none ∧ ∃ (key : ObjectKey) (object : StoredObject), key.1 = Key ∧
      moment.2.get? key = some object ∧ object.body = body := by
  simp only [Service.Answers, store] at answers
  cases outage : moment.1.outage with
  | some error =>
      rw [outage] at answers
      cases answers
  | none =>
      rw [outage] at answers
      refine ⟨rfl, ?_⟩
      by_cases nonempty : Key ≠ []
      · simp only [dif_pos nonempty] at answers
        cases found : moment.2.get? ⟨Key, nonempty⟩ with
        | none =>
            rw [found] at answers
            cases answers
        | some object =>
            rw [found] at answers
            cases answers
            exact ⟨⟨Key, nonempty⟩, object, rfl, found, rfl⟩
      · simp only [dif_neg nonempty] at answers
        cases answers

/-- A file with a text that no outage hides is downloaded with it. -/
theorem decoded_of_answers {moment : Weather × Bucket} {key : ObjectKey} {content : PyStr}
    (calm : moment.1.outage = none) (text : fileText moment.2 key = some content)
    {answer : Except StoreError Bytes}
    (answers : store.Answers moment ⟨.getObject key.1, answer⟩) :
    ∃ body, answer = .ok body ∧ PyStr.decode body = some content := by
  obtain ⟨object, present, decoded⟩ := Option.bind_eq_some_iff.mp text
  have same : answer = .ok object.body := by
    rw [Service.Answers] at answers
    change answer = (store moment.1 moment.2 (.getObject key.1)).1 at answers
    rw [store_getObject calm, present] at answers
    exact answers
  exact ⟨object.body, same, decoded⟩

/-- The objects of the pages, among others, are those of a bucket pieced together. -/
theorem listed_observed (moments : ℕ → Weather × Bucket) :
    (∃ n error, (moments n).1.outage = some error ∧
      ((backend.readAllFileContents helpers).run store.observed moments ()).1 = .error error) ∨
      listingFailure (backend.contentsExchanges helpers store.observed moments ()) = none ∧
        ∃ seen, PiecedFrom moments seen ∧
          listedObjects (backend.contentsExchanges helpers store.observed moments ()) =
            contents seen backend.root none := by
  obtain ⟨pages, paged, cases⟩ := paginate_listed backend.root none
    (fun page => backend.readContents helpers page.Contents) .empty moments
  obtain ⟨listed, -, result⟩ := backend.paged_readContents helpers paged
  rcases cases with failed | ⟨⟨files, done⟩, seen, pieced, objects, -⟩
  · exact .inl failed
  · refine .inr ⟨?_, seen, pieced, listed.trans objects⟩
    rw [done] at result
    cases failure : listingFailure (backend.contentsExchanges helpers store.observed moments ())
      with
    | none => rfl
    | some error =>
        have raised : (Except.ok files : Except StoreError (Dict PyStr FileData)) = .error error :=
          result.trans (congrArg (Option.elim · _ _) failure)
        cases raised

/-- In a bucket, they are its objects. -/
theorem listedObjects_store (weather : ℕ → Weather) (bucket : Bucket)
    (whole : listingFailure (backend.contentsExchanges helpers store weather bucket) = none) :
    listedObjects (backend.contentsExchanges helpers store weather bucket) =
      contents bucket backend.root none := by
  have result := backend.run_readAllFileContents_eq helpers store weather bucket
  rw [whole, Program.run_eq_observed
    (fun weather _ reads => store_reads reads weather bucket)
    (backend.readAllFileContents_reads helpers)] at result
  rw [contentsExchanges, Program.exchanges_eq_observed
    (fun weather _ reads => store_reads reads weather bucket)
    (backend.readAllFileContents_reads helpers)]
  rcases backend.listed_observed helpers fun n => (weather n, bucket) with
    ⟨n, error, -, failed⟩ | ⟨-, seen, pieced, listed⟩
  · rw [failed] at result
    cases result
  · rw [pieced.eq] at listed
    exact listed

/-- What a run searches: files that had their text at one of its moments, and each that had one
text at all of them. -/
def Searches (moments : ℕ → Weather × Bucket) (files : Dict PyStr FileData) : Prop :=
  (∀ path data, files.get? path = some data →
    ∃ (key : ObjectKey) (content : PyStr), backend.root <+: key.1 ∧ ¬ slash <:+ key.1 ∧
      backend.pathFor key.1 = path ∧ helpers.createFileData content = data ∧
      ∃ n, (moments n).1.outage = none ∧ fileText (moments n).2 key = some content) ∧
  ∀ (key : ObjectKey) (content : PyStr), backend.root <+: key.1 → ¬ slash <:+ key.1 →
    (∀ n, (moments n).1.outage = none ∧ fileText (moments n).2 key = some content) →
      files.get? (backend.pathFor key.1) = some (helpers.createFileData content)

theorem searches_grepFiles {moments : ℕ → Weather × Bucket} {seen : Bucket}
    (pieced : PiecedFrom moments seen)
    (listed : listedObjects (backend.contentsExchanges helpers store.observed moments ()) =
      contents seen backend.root none) :
    backend.Searches helpers moments (backend.grepFiles helpers
      (backend.contentsExchanges helpers store.observed moments ())) := by
  have keys := backend.downloadedKeys_contents helpers store.observed moments ()
  have items := backend.grepFiles_items helpers store.observed moments ()
    (listed ▸ nodup_keys_contents seen backend.root none)
  have answered : ∀ {exchange : StoreExchange},
      exchange ∈ backend.contentsExchanges helpers store.observed moments () →
        ∃ n, store.Answers (moments n) exchange := Program.answers_of_mem_exchanges
  rw [listed] at keys
  constructor
  · intro path data found
    rw [Dict.get?_eq_some, items, List.mem_map] at found
    obtain ⟨text, member, same⟩ := found
    obtain ⟨rfl, rfl⟩ := Prod.mk.inj same
    obtain ⟨body, exchanged, decoded⟩ := mem_decodedTexts.mp member
    obtain ⟨n, answers⟩ := answered exchanged
    obtain ⟨calm, key, object, named, present, rfl⟩ := answers_getObject answers
    have downloaded : text.1 ∈ downloadedKeys _ := mem_downloadedKeys.mpr ⟨_, exchanged⟩
    rw [keys] at downloaded
    obtain ⟨summarized, inside, same⟩ := List.mem_map.mp downloaded
    obtain ⟨stored, -, under, file, rfl⟩ := backend.mem_wholeRoot.mp inside
    rw [← same] at named
    refine ⟨key, text.2, named ▸ under, named ▸ file, ?_, rfl, n, calm, ?_⟩
    · rw [named, same]
    · rw [fileText, present]
      exact decoded
  · intro key content under file always
    obtain ⟨m, same⟩ := pieced key
    obtain ⟨object, present, -⟩ := Option.bind_eq_some_iff.mp (always m).2
    have inside : summary (key, object) ∈ realFiles (contents seen backend.root none) :=
      backend.mem_wholeRoot.mpr ⟨(key, object), same.trans present, under, file, rfl⟩
    have downloaded : key.1 ∈ downloadedKeys
        (backend.contentsExchanges helpers store.observed moments ()) := by
      rw [keys]
      exact List.mem_map_of_mem inside
    obtain ⟨answer, exchanged⟩ := mem_downloadedKeys.mp downloaded
    obtain ⟨n, answers⟩ := answered exchanged
    obtain ⟨body, rfl, decoded⟩ := decoded_of_answers (always n).1 (always n).2 answers
    rw [Dict.get?_eq_some, items, List.mem_map]
    exact ⟨(key.1, content), mem_decodedTexts.mpr ⟨body, exchanged, decoded⟩, rfl⟩

/-- **The snapshot of `grep`, among others.** -/
theorem readAllFileContents_observed (moments : ℕ → Weather × Bucket) :
    (∃ n error, (moments n).1.outage = some error ∧
      ((backend.readAllFileContents helpers).run store.observed moments ()).1 = .error error) ∨
      ∃ files, ((backend.readAllFileContents helpers).run store.observed moments ()).1 =
          .ok files ∧ backend.Searches helpers moments files := by
  have result := backend.run_readAllFileContents_eq helpers store.observed moments ()
  rcases backend.listed_observed helpers moments with failed | ⟨whole, seen, pieced, listed⟩
  · exact .inl failed
  · rw [whole] at result
    exact .inr ⟨_, result, backend.searches_grepFiles helpers pieced listed⟩

section Run

variable (weather : ℕ → Weather) (bucket : Bucket)

/-- **The snapshot of `grep` in a bucket.** -/
theorem run_readAllFileContents :
    (∃ n error, (weather n).outage = some error ∧
      (backend.readAllFileContents helpers).run store weather bucket = (.error error, bucket)) ∨
      ∃ files, (backend.readAllFileContents helpers).run store weather bucket =
          (.ok files, bucket) ∧ backend.Searches helpers (fun n => (weather n, bucket)) files := by
  rw [Program.run_eq_observed (fun weather _ reads => store_reads reads weather bucket)
    (backend.readAllFileContents_reads helpers)]
  rcases backend.readAllFileContents_observed helpers (fun n => (weather n, bucket)) with
    ⟨n, error, outage, failed⟩ | ⟨files, done, searches⟩
  · exact .inl ⟨n, error, outage, congrArg (·, bucket) failed⟩
  · exact .inr ⟨files, congrArg (·, bucket) done, searches⟩

theorem run_readAllFileContents_calm (calm : ∀ n, (weather n).outage = none) :
    ∃ files, (backend.readAllFileContents helpers).run store weather bucket = (.ok files, bucket) ∧
      ∀ path data, files.get? path = some data ↔
        ∃ (key : ObjectKey) (content : PyStr), backend.root <+: key.1 ∧ ¬ slash <:+ key.1 ∧
          backend.pathFor key.1 = path ∧ helpers.createFileData content = data ∧
          fileText bucket key = some content := by
  rcases backend.run_readAllFileContents helpers weather bucket with
    ⟨n, error, outage, -⟩ | ⟨files, ran, there, found⟩
  · rw [calm n] at outage
    cases outage
  · refine ⟨files, ran, fun path data => ⟨fun looked => ?_, ?_⟩⟩
    · obtain ⟨key, content, under, file, located, made, n, -, text⟩ := there path data looked
      exact ⟨key, content, under, file, located, made, text⟩
    · rintro ⟨key, content, under, file, rfl, rfl, text⟩
      exact found key content under file fun n => ⟨calm n, text⟩

end Run

end S3Backend

end CarqnaAgent.Storage
