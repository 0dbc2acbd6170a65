import Mathlib
import CarqnaAgent.Foundations.Transcripts
import CarqnaAgent.Storage.ObjectStore

/-!
# Listings page by page

A loop over a listing asks for a page, does its body, and asks for the next one (`Paged`). The
pages come from the bucket at different moments. Each key is in one of them only: the tokens go
up, and a page holds the keys between two.

So **the pages of a listing are those of one bucket, pieced together from the buckets of the
moments** (`Paged.listed`): each key is in it as it was at some moment, and the pages together
list it. In a bucket that stays as it is, that is the bucket.
-/

set_option autoImplicit false

namespace CarqnaAgent.Storage

open Foundations

/-- A request to the store and its answer. -/
abbrev StoreExchange := Exchange StoreRequest StoreRequest.Response

/-! ## Loops over pages -/

section Requests

variable {α : Type} {exchanges : List StoreExchange} {value : α}

theorem transcript_listObjectsV2 {Prefix : PyStr} {Delimiter : Option CodePoint}
    {token : Option ContinuationToken}
    {rest : Except StoreError (ListObjectsV2Output Prefix token) → StoreProgram α} :
    (listObjectsV2 Prefix Delimiter token >>= rest).Transcript exchanges value ↔
      ∃ answer later, exchanges = ⟨.listObjectsV2 Prefix Delimiter token, answer⟩ :: later ∧
        (rest answer).Transcript later value := Iff.rfl

theorem transcript_getObject {Key : PyStr}
    {rest : Except StoreError Bytes → StoreProgram α} :
    (getObject Key >>= rest).Transcript exchanges value ↔
      ∃ answer later, exchanges = ⟨.getObject Key, answer⟩ :: later ∧
        (rest answer).Transcript later value := Iff.rfl

end Requests

section Loop

variable {τ : Type} (Prefix : PyStr) (Delimiter : Option CodePoint)
  (body : Page → τ → StoreProgram τ)

/-- A loop over the pages from a token on: its exchanges, the pages, and what comes of it. -/
inductive Paged :
    Option ContinuationToken → τ → List StoreExchange → List Page → Except StoreError τ → Prop
  | failed {token : Option ContinuationToken} {loop : τ} (error : StoreError) :
      Paged token loop [⟨.listObjectsV2 Prefix Delimiter token, .error error⟩] [] (.error error)
  | last {token : Option ContinuationToken} {loop later : τ}
      {inner : List StoreExchange}
      (output : ListObjectsV2Output Prefix token) (ends : output.NextContinuationToken = none)
      (ran : (body output.toPage loop).Transcript inner later) :
      Paged token loop (⟨.listObjectsV2 Prefix Delimiter token, .ok output⟩ :: inner)
        [output.toPage] (.ok later)
  | more {token : Option ContinuationToken} {loop later : τ}
      {inner outer : List StoreExchange} {pages : List Page}
      {result : Except StoreError τ} (output : ListObjectsV2Output Prefix token)
      {next : ContinuationToken} (goes : output.NextContinuationToken = some next)
      (ran : (body output.toPage loop).Transcript inner later)
      (rest : Paged (some next) later outer pages result) :
      Paged token loop (⟨.listObjectsV2 Prefix Delimiter token, .ok output⟩ :: (inner ++ outer))
        (output.toPage :: pages) result

variable {Prefix Delimiter body}

theorem paged_of_pageThen {more : ContinuationToken → τ → StoreProgram (Except StoreError τ)}
    {token : Option ContinuationToken} {loop : τ}
    {exchanges : List StoreExchange} {result : Except StoreError τ}
    (further : ∀ next, (∀ given ∈ token, next.left < given.left) → ∀ {later outer result},
      (more next later).Transcript outer result →
        ∃ pages, Paged Prefix Delimiter body (some next) later outer pages result)
    (ran : (pageThen Prefix Delimiter body more token loop).Transcript exchanges result) :
    ∃ pages, Paged Prefix Delimiter body token loop exchanges pages result := by
  rw [pageThen, transcript_listObjectsV2] at ran
  obtain ⟨answer, after, rfl, ran⟩ := ran
  cases answer with
  | error error =>
      obtain ⟨rfl, rfl⟩ := ran
      exact ⟨[], .failed error⟩
  | ok output =>
      obtain ⟨inner, later, outer, rfl, done, onward⟩ := Program.transcript_bind.mp ran
      cases next : output.NextContinuationToken with
      | none =>
          rw [next] at onward
          obtain ⟨rfl, rfl⟩ := onward
          rw [List.append_nil]
          exact ⟨[output.toPage], .last output next done⟩
      | some token' =>
          rw [next] at onward
          obtain ⟨pages, rest⟩ :=
            further token' (fun given member => output.fewer given member token' next) onward
          exact ⟨_, .more output next done rest⟩

/-- **What the paginator does is a loop over pages.** -/
theorem paged_of_transcript {token : Option ContinuationToken} {loop : τ}
    {exchanges : List StoreExchange} {result : Except StoreError τ}
    (ran : (paginate Prefix Delimiter body token loop).Transcript exchanges result) :
    ∃ pages, Paged Prefix Delimiter body token loop exchanges pages result := by
  have given : ∀ left (start : ContinuationToken), start.left = left →
      ∀ {loop exchanges result},
        (paginate Prefix Delimiter body (some start) loop).Transcript exchanges result →
          ∃ pages, Paged Prefix Delimiter body (some start) loop exchanges pages result := by
    intro left
    induction left using Nat.strong_induction_on with
    | _ left ih =>
        rintro start rfl loop exchanges result ran
        rw [paginate_eq] at ran
        exact paged_of_pageThen (fun next smaller => ih next.left (smaller start rfl) next rfl) ran
  rw [paginate_eq] at ran
  exact paged_of_pageThen (fun next _ => given next.left next rfl) ran

/-- A body that sends no request is folded over the pages. -/
theorem Paged.foldl_eq {f : τ → Page → τ} {token : Option ContinuationToken} {loop later : τ}
    {exchanges : List StoreExchange} {pages : List Page}
    (paged : Paged Prefix Delimiter (fun page loop => .ret (f loop page)) token loop exchanges
      pages (.ok later)) : later = pages.foldl f loop := by
  generalize same : (Except.ok later : Except StoreError τ) = result at paged
  induction paged with
  | failed error => cases same
  | last output ends ran =>
      obtain ⟨-, rfl⟩ := ran
      cases same
      rfl
  | more output goes ran rest ih =>
      obtain ⟨-, rfl⟩ := ran
      exact ih same

/-- The objects of the pages start with the prefix asked for. -/
theorem Paged.starts {token : Option ContinuationToken} {loop : τ}
    {exchanges : List StoreExchange} {pages : List Page}
    {result : Except StoreError τ}
    (paged : Paged Prefix Delimiter body token loop exchanges pages result) :
    ∀ object ∈ pages.flatMap Page.Contents, Prefix <+: object.Key := by
  induction paged with
  | failed error => exact fun _ member => absurd member List.not_mem_nil
  | last output ends ran =>
      intro object member
      rw [List.flatMap_singleton] at member
      exact output.starts object member
  | more output goes ran rest ih =>
      intro object member
      rw [List.flatMap_cons] at member
      rcases List.mem_append.mp member with here | later
      · exact output.starts object here
      · exact ih object later

end Loop

/-! ## What the pages hold -/

theorem nodup_commonPrefixes (bucket : Bucket) (Prefix : PyStr) (Delimiter : Option CodePoint) :
    (commonPrefixes bucket Prefix Delimiter).Nodup := List.nodup_dedup _

/-- A common prefix is one of an object of the bucket. -/
theorem mem_commonPrefixes_iff {bucket : Bucket} {Prefix : PyStr} {Delimiter : Option CodePoint}
    {rolled : PyStr} :
    rolled ∈ commonPrefixes bucket Prefix Delimiter ↔
      ∃ entry : ObjectKey × StoredObject, bucket.get? entry.1 = some entry.2 ∧
        Prefix <+: entry.1.1 ∧ commonPrefix? Prefix Delimiter entry.1.1 = some rolled := by
  simp only [commonPrefixes, List.mem_dedup, List.mem_filterMap, mem_listed, and_assoc]

theorem contents_sorted (bucket : Bucket) (Prefix : PyStr) (Delimiter : Option CodePoint) :
    (contents bucket Prefix Delimiter).Pairwise fun first second => first.Key < second.Key := by
  refine List.Pairwise.map _ ?_ ((SortedMap.sorted _).filter _)
  exact fun _ _ before => before

/-- Objects in the order of their keys are in one order. -/
theorem eq_of_sorted_of_mem_iff {first second : List ObjectSummary}
    (sorted : first.Pairwise fun one other => one.Key < other.Key)
    (sorted' : second.Pairwise fun one other => one.Key < other.Key)
    (same : ∀ object, object ∈ first ↔ object ∈ second) : first = second := by
  have : Std.Antisymm fun one other : ObjectSummary => one.Key < other.Key :=
    ⟨fun _ _ below above => absurd above (lt_asymm below)⟩
  have : Std.Irrefl fun one other : ObjectSummary => one.Key < other.Key :=
    ⟨fun object => lt_irrefl object.Key⟩
  exact sorted.eq_of_mem_iff sorted' same

section Split

variable {Prefix : PyStr} {Delimiter : Option CodePoint} {token : Option ContinuationToken}
  {next : ContinuationToken}

/-- The part of a bucket that is listed from a token on. -/
def remaining (bucket : Bucket) (Prefix : PyStr) (Delimiter : Option CodePoint)
    (token : Option ContinuationToken) : Bucket :=
  bucket.filter fun key => covers Prefix Delimiter token none key.1

theorem covers_none {key : PyStr} : covers Prefix Delimiter token none key =
    token.all fun start => isAfter Prefix Delimiter start key := by
  simp [covers]

theorem isAfter_of_nextToken {cut : Option ContinuationToken}
    (goes : nextToken cut token = some next) {key : PyStr}
    (later : isAfter Prefix Delimiter next key = true) :
    covers Prefix Delimiter token none key = true := by
  rw [covers_none]
  cases token with
  | none => rfl
  | some start =>
      simp only [nextToken] at goes
      split at goes
      · cases goes
      · obtain ⟨cut, -, rfl⟩ := Option.map_eq_some_iff.mp goes
        simp only [Option.all_some, isAfter] at later ⊢
        split at later
        · simp only [decide_eq_true_eq] at later ⊢
          exact lt_of_le_of_lt (le_max_left _ _) later
        · simp only [decide_eq_true_eq] at later ⊢
          exact lt_of_le_of_lt (le_max_left _ _) later

/-- A key that is still to come is on the page or after it. -/
theorem covers_cases {cut : Option ContinuationToken} (goes : nextToken cut token = some next)
    (key : PyStr) :
    covers Prefix Delimiter token none key = true ↔
      covers Prefix Delimiter token (some next) key = true ∨
        isAfter Prefix Delimiter next key = true := by
  constructor
  · intro coming
    cases later : isAfter Prefix Delimiter next key with
    | true => exact .inr rfl
    | false =>
        refine .inl ?_
        rw [covers_none] at coming
        simp [covers, coming, later]
  · rintro (here | later)
    · rw [covers_none]
      exact (Bool.and_eq_true_iff.mp here).1
    · exact isAfter_of_nextToken goes later

theorem not_isAfter_of_covers {key : PyStr}
    (here : covers Prefix Delimiter token (some next) key = true) :
    isAfter Prefix Delimiter next key = false := by
  simpa using (Bool.and_eq_true_iff.mp here).2

/-- What is listed of a part of a bucket is of the keys in it. -/
theorem get?_filter_eq_some {bucket : Bucket} {keep : ObjectKey → Bool}
    {entry : ObjectKey × StoredObject} :
    (bucket.filter keep).get? entry.1 = some entry.2 ↔
      bucket.get? entry.1 = some entry.2 ∧ keep entry.1 = true := by
  rw [SortedMap.get?_filter]
  split
  · rename_i kept
    simp [kept]
  · rename_i dropped
    simp [dropped]

section Next

variable {cut : Option ContinuationToken} (goes : nextToken cut token = some next)
  (bucket : Bucket)
include goes

/-- **The objects still to come are those of the page and then those after it.** -/
theorem contents_remaining :
    contents (remaining bucket Prefix Delimiter token) Prefix Delimiter =
      (pageBetween bucket Prefix Delimiter token (some next)).Contents ++
        contents (remaining bucket Prefix Delimiter (some next)) Prefix Delimiter := by
  refine eq_of_sorted_of_mem_iff (contents_sorted _ _ _) (List.pairwise_append.mpr
    ⟨contents_sorted _ _ _, contents_sorted _ _ _, ?_⟩) fun object => ?_
  · intro first here second later
    obtain ⟨entry, present, -, whole, rfl⟩ := mem_contents.mp here
    obtain ⟨entry', present', -, whole', rfl⟩ := mem_contents.mp later
    have before := not_isAfter_of_covers (get?_filter_eq_some.mp present).2
    have after := (get?_filter_eq_some.mp present').2
    rw [covers_none, Option.all_some] at after
    simp only [isAfter, whole, decide_eq_false_iff_not, not_lt] at before
    simp only [isAfter, whole', decide_eq_true_eq] at after
    exact lt_of_le_of_lt before after
  · rw [List.mem_append, pageBetween, mem_contents, mem_contents, mem_contents]
    simp only [remaining, get?_filter_eq_some, covers_none, Option.all_some]
    rw [← exists_or]
    refine exists_congr fun entry => ?_
    rw [← covers_none, covers_cases goes]
    tauto

/-- The common prefixes still to come are those of the page and those after it. -/
theorem commonPrefixes_remaining :
    (commonPrefixes (remaining bucket Prefix Delimiter token) Prefix Delimiter).Perm
      ((pageBetween bucket Prefix Delimiter token (some next)).CommonPrefixes ++
        commonPrefixes (remaining bucket Prefix Delimiter (some next)) Prefix Delimiter) := by
  refine (List.perm_ext_iff_of_nodup (nodup_commonPrefixes _ _ _) (List.nodup_append.mpr
    ⟨nodup_commonPrefixes _ _ _, nodup_commonPrefixes _ _ _, ?_⟩)).mpr fun rolled => ?_
  · rintro rolled here _ later rfl
    obtain ⟨entry, present, -, found⟩ := mem_commonPrefixes_iff.mp here
    obtain ⟨entry', present', -, found'⟩ := mem_commonPrefixes_iff.mp later
    have before := not_isAfter_of_covers (get?_filter_eq_some.mp present).2
    have after := (get?_filter_eq_some.mp present').2
    rw [covers_none, Option.all_some] at after
    simp only [isAfter, found, decide_eq_false_iff_not] at before
    simp only [isAfter, found', decide_eq_true_eq] at after
    exact before after
  · rw [List.mem_append, mem_commonPrefixes_iff, mem_commonPrefixes_iff, mem_commonPrefixes_iff]
    simp only [remaining, get?_filter_eq_some, covers_none, Option.all_some]
    rw [← exists_or]
    refine exists_congr fun entry => ?_
    rw [← covers_none, covers_cases goes]
    tauto

end Next

end Split

/-! ## One bucket from several moments -/

/-- Every key of the bucket is as it is in that of one of the moments. -/
def PiecedFrom (moments : ℕ → Weather × Bucket) (seen : Bucket) : Prop :=
  ∀ key, ∃ n, seen.get? key = (moments n).2.get? key

/-- In a bucket that stays as it is, there is one to see. -/
theorem PiecedFrom.eq {weather : ℕ → Weather} {bucket seen : Bucket}
    (pieced : PiecedFrom (fun n => (weather n, bucket)) seen) : seen = bucket := by
  refine SortedMap.ext_get? fun key => ?_
  obtain ⟨n, same⟩ := pieced key
  exact same

section Seen

variable {τ : Type} {Prefix : PyStr} {Delimiter : Option CodePoint}
  {body : Page → τ → StoreProgram τ} {moments : ℕ → Weather × Bucket}

/-- The answer to a listing is an outage or the page of the moment. -/
theorem answers_listObjectsV2 {moment : Weather × Bucket} {token : Option ContinuationToken}
    {answer : Except StoreError (ListObjectsV2Output Prefix token)}
    (answers : store.Answers moment ⟨.listObjectsV2 Prefix Delimiter token, answer⟩) :
    (∃ error, moment.1.outage = some error ∧ answer = .error error) ∨
      answer = .ok (listObjectsV2Output moment.1.cut moment.2 Prefix Delimiter token) := by
  simp only [Service.Answers, store] at answers
  cases outage : moment.1.outage with
  | some error =>
      rw [outage] at answers
      exact .inl ⟨error, rfl, answers⟩
  | none =>
      rw [outage] at answers
      exact .inr answers

/-- From a token on: the pages list one bucket pieced together from the moments. -/
theorem Paged.remaining {token : Option ContinuationToken} {loop : τ}
    {exchanges : List StoreExchange} {pages : List Page}
    {result : Except StoreError τ}
    (paged : Paged Prefix Delimiter body token loop exchanges pages result)
    (answered : ∀ exchange ∈ exchanges, ∃ n, store.Answers (moments n) exchange) :
    (∃ n error, (moments n).1.outage = some error ∧ result = .error error) ∨
      (∃ later, result = .ok later) ∧ ∃ seen, PiecedFrom moments seen ∧
        pages.flatMap Page.Contents =
          contents (Storage.remaining seen Prefix Delimiter token) Prefix Delimiter ∧
        (pages.flatMap Page.CommonPrefixes).Perm
          (commonPrefixes (Storage.remaining seen Prefix Delimiter token) Prefix Delimiter) := by
  induction paged with
  | failed error =>
      obtain ⟨n, answers⟩ := answered _ List.mem_cons_self
      rcases answers_listObjectsV2 answers with ⟨same, outage, failed⟩ | listed
      · cases failed
        exact .inl ⟨n, _, outage, rfl⟩
      · cases listed
  | last output ends ran =>
      obtain ⟨n, answers⟩ := answered _ List.mem_cons_self
      rcases answers_listObjectsV2 answers with ⟨same, outage, failed⟩ | listed
      · cases failed
      · cases listed
        refine .inr ⟨⟨_, rfl⟩, (moments n).2, fun key => ⟨n, rfl⟩, ?_⟩
        change nextToken _ _ = none at ends
        simp [listObjectsV2Output, ends, pageBetween, Storage.remaining]
  | @more token loop later inner outer pages result output next goes ran rest ih =>
      obtain ⟨n, answers⟩ := answered _ List.mem_cons_self
      rcases answers_listObjectsV2 answers with ⟨same, outage, failed⟩ | listed
      · cases failed
      · cases listed
        change nextToken _ _ = some next at goes
        rcases ih fun exchange member => answered exchange (List.mem_cons_of_mem _
          (List.mem_append_right _ member)) with failed | ⟨done, seen, pieced, objects, rolled⟩
        · exact .inl failed
        · let whole := SortedMap.splice
            (fun key : ObjectKey => isAfter Prefix Delimiter next key.1) seen (moments n).2
          have after : Storage.remaining whole Prefix Delimiter (some next) =
              Storage.remaining seen Prefix Delimiter (some next) := by
            refine SortedMap.filter_congr fun key kept => ?_
            rw [covers_none, Option.all_some] at kept
            rw [SortedMap.get?_splice, if_pos kept]
          have here : pageBetween whole Prefix Delimiter token (some next) =
              pageBetween (moments n).2 Prefix Delimiter token (some next) := by
            rw [pageBetween, SortedMap.filter_congr (n := (moments n).2) fun key kept => ?_]
            · rfl
            · rw [SortedMap.get?_splice, if_neg (by simp [not_isAfter_of_covers kept])]
          refine .inr ⟨done, whole, fun key => ?_, ?_, ?_⟩
          · rw [SortedMap.get?_splice]
            split
            · exact pieced key
            · exact ⟨n, rfl⟩
          · rw [List.flatMap_cons, contents_remaining goes, after, here, ← objects]
            simp [listObjectsV2Output, goes]
          · rw [List.flatMap_cons]
            refine List.Perm.trans ?_ (commonPrefixes_remaining goes whole).symm
            rw [after, here]
            simp only [listObjectsV2Output, goes]
            exact rolled.append_left _

/-- **The pages of a listing list one bucket, pieced together from the moments**, if no request
of it meets an outage. -/
theorem Paged.listed {loop : τ}
    {exchanges : List StoreExchange} {pages : List Page}
    {result : Except StoreError τ}
    (paged : Paged Prefix Delimiter body none loop exchanges pages result)
    (answered : ∀ exchange ∈ exchanges, ∃ n, store.Answers (moments n) exchange) :
    (∃ n error, (moments n).1.outage = some error ∧ result = .error error) ∨
      (∃ later, result = .ok later) ∧ ∃ seen, PiecedFrom moments seen ∧
        pages.flatMap Page.Contents = contents seen Prefix Delimiter ∧
        (pages.flatMap Page.CommonPrefixes).Perm (commonPrefixes seen Prefix Delimiter) := by
  have all : ∀ seen : Bucket, Storage.remaining seen Prefix Delimiter none = seen :=
    fun seen => SortedMap.filter_eq_self fun key => rfl
  have whole := paged.remaining answered
  simp only [all] at whole
  exact whole

/-- **What a thread makes of a listing, among others.** -/
theorem paginate_listed (Prefix : PyStr) (Delimiter : Option CodePoint)
    (body : Page → τ → StoreProgram τ) (loop : τ) (moments : ℕ → Weather × Bucket) :
    let program := paginate Prefix Delimiter body none loop
    ∃ pages, Paged Prefix Delimiter body none loop
        (program.exchanges store.observed moments ()) pages
        (program.run store.observed moments ()).1 ∧
      ((∃ n error, (moments n).1.outage = some error ∧
          (program.run store.observed moments ()).1 = .error error) ∨
        (∃ later, (program.run store.observed moments ()).1 = .ok later) ∧
          ∃ seen, PiecedFrom moments seen ∧
            pages.flatMap Page.Contents = contents seen Prefix Delimiter ∧
            (pages.flatMap Page.CommonPrefixes).Perm (commonPrefixes seen Prefix Delimiter)) := by
  intro program
  obtain ⟨pages, paged⟩ := paged_of_transcript (Program.transcript_run program)
  exact ⟨pages, paged, paged.listed fun exchange => Program.answers_of_mem_exchanges⟩

end Seen

end CarqnaAgent.Storage
