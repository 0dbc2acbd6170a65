import Mathlib
import CarqnaAgent.Foundations.Programs
import CarqnaAgent.Foundations.SortedMaps
import CarqnaAgent.Foundations.Datetimes

/-!
# An S3-compatible bucket

The object store behind `S3Backend`: a bucket is a finite map from non-empty keys to
objects, and the client issues three requests, each one atomic step. A key is opaque
to the store: no slash and no dot segment means anything to it.

A listing takes a request for each of its pages, and other requests may come between
these. Each page says with a token whether and where the listing goes on, and the
paginator asks until there is none (`paginate_eq`). A page holds the keys between two
tokens as the bucket has them then; with a delimiter, the keys with a further delimiter
are rolled up into their common prefixes.

The weather of a step is what the client does not choose: the store's clock, an
outage, and where a listing is cut.
-/

set_option autoImplicit false

namespace CarqnaAgent.Storage

open Foundations

/-- An object key. The store refuses the empty one. -/
abbrev ObjectKey := { key : PyStr // key ≠ [] }

/-- A stored object. -/
structure StoredObject where
  body : Bytes
  lastModified : Datetime
  deriving DecidableEq

/-- A bucket. -/
abbrev Bucket := SortedMap ObjectKey StoredObject

/-- What a request can raise: `ClientError`, with the `Code` of its response, or
`BotoCoreError`. `text` is what `str` makes of the exception. -/
inductive StoreError where
  | clientError (code : Option PyStr) (text : PyStr)
  | botoCoreError (text : PyStr)
  deriving DecidableEq

/-- `str(error)`. -/
def StoreError.text : StoreError → PyStr
  | .clientError _ text => text
  | .botoCoreError text => text

/-- One element of `Contents` in a page of `list_objects_v2`. -/
structure ObjectSummary where
  Key : PyStr
  Size : ℕ
  LastModified : Datetime
  deriving DecidableEq

/-- A page of `list_objects_v2`. -/
structure Page where
  CommonPrefixes : List PyStr
  Contents : List ObjectSummary
  deriving DecidableEq

/-- Where a listing goes on: after these common prefixes and after these keys, with at most
so many pages after the next one. How many is for the store to say and for no client to see;
any listing that ends has such a number. -/
structure ContinuationToken where
  prefixes : PyStr
  keys : PyStr
  left : ℕ
  deriving DecidableEq

/-- The answer to `list_objects_v2`, asked for the first page or for the page at a token. The
store lists only keys that start with the prefix asked for. -/
structure ListObjectsV2Output (Prefix : PyStr) (token : Option ContinuationToken) extends Page where
  NextContinuationToken : Option ContinuationToken
  starts : ∀ object ∈ Contents, Prefix <+: object.Key
  fewer : ∀ given ∈ token, ∀ next ∈ NextContinuationToken, next.left < given.left

/-- The requests of the client. `getObject` includes reading the body. -/
inductive StoreRequest where
  | listObjectsV2 (Prefix : PyStr) (Delimiter : Option CodePoint)
      (token : Option ContinuationToken)
  | getObject (Key : PyStr)
  | putObject (Key : PyStr) (Body : Bytes)

/-- The answer to a request. -/
def StoreRequest.Response : StoreRequest → Type
  | .listObjectsV2 Prefix _ token => Except StoreError (ListObjectsV2Output Prefix token)
  | .getObject _ => Except StoreError Bytes
  | .putObject _ _ => Except StoreError Unit

/-- A client of the store. -/
abbrev StoreProgram := Program StoreRequest StoreRequest.Response

/-- `client.list_objects_v2(Prefix=…, Delimiter=…, ContinuationToken=…)`. -/
def listObjectsV2 (Prefix : PyStr) (Delimiter : Option CodePoint)
    (token : Option ContinuationToken) :
    StoreProgram (Except StoreError (ListObjectsV2Output Prefix token)) :=
  .call (.listObjectsV2 Prefix Delimiter token) .ret

/-- `client.get_object(Key=…)["Body"].read()`. -/
def getObject (Key : PyStr) : StoreProgram (Except StoreError Bytes) :=
  .call (.getObject Key) .ret

/-- `client.put_object(Key=…, Body=…)`. -/
def putObject (Key : PyStr) (Body : Bytes) : StoreProgram (Except StoreError Unit) :=
  .call (.putObject Key Body) .ret

/-! ## The paginator -/

section Paginator

variable {τ : Type} (Prefix : PyStr) (Delimiter : Option CodePoint)
  (body : Page → τ → StoreProgram τ)

/-- One page: the body of the loop, and what follows if the listing goes on. -/
def pageThen (more : ContinuationToken → τ → StoreProgram (Except StoreError τ))
    (token : Option ContinuationToken) (loop : τ) : StoreProgram (Except StoreError τ) := do
  match ← listObjectsV2 Prefix Delimiter token with
  | .error error => return .error error
  | .ok output =>
      let loop ← body output.toPage loop
      match output.NextContinuationToken with
      | none => return .ok loop
      | some next => more next loop

/-- The pages from a token on, at most so many. -/
def pagesWithin : ℕ → ContinuationToken → τ → StoreProgram (Except StoreError τ)
  | 0, _, loop => return .ok loop
  | pages + 1, token, loop => pageThen Prefix Delimiter body (pagesWithin pages) (some token) loop

/-- `for page in client.get_paginator("list_objects_v2").paginate(Prefix=…, Delimiter=…)`, with
the variables the body of the loop assigns. An exception of the paginator ends it. -/
def paginate (token : Option ContinuationToken) (loop : τ) : StoreProgram (Except StoreError τ) :=
  pageThen Prefix Delimiter body
    (fun next => pagesWithin Prefix Delimiter body (next.left + 1) next) token loop

variable {Prefix Delimiter body}

theorem pageThen_congr {more more' : ContinuationToken → τ → StoreProgram (Except StoreError τ)}
    {token : Option ContinuationToken} {loop : τ}
    (same : ∀ next, (∀ given ∈ token, next.left < given.left) → more next = more' next) :
    pageThen Prefix Delimiter body more token loop =
      pageThen Prefix Delimiter body more' token loop := by
  refine congrArg (Program.call _) (funext fun answer => ?_)
  cases answer with
  | error error => rfl
  | ok output =>
      refine congrArg (body output.toPage loop >>= ·) (funext fun later => ?_)
      cases next : output.NextContinuationToken with
      | none => rfl
      | some token' =>
          have smaller := fun given member => output.fewer given member token' next
          exact congrFun (same token' smaller) later

/-- As many pages as the token says are enough. -/
theorem pagesWithin_eq {pages : ℕ} {token : ContinuationToken} (enough : token.left < pages) :
    pagesWithin Prefix Delimiter body pages token =
      paginate Prefix Delimiter body (some token) := by
  induction pages using Nat.strong_induction_on generalizing token with
  | _ pages ih =>
      cases pages with
      | zero => omega
      | succ pages =>
          funext loop
          refine pageThen_congr fun next smaller => ?_
          have less := smaller token rfl
          rw [ih pages (by omega) (by omega), ih (next.left + 1) (by omega) (by omega)]

/-- **The paginator asks for pages until there is no token.** -/
theorem paginate_eq (token : Option ContinuationToken) (loop : τ) :
    paginate Prefix Delimiter body token loop =
      pageThen Prefix Delimiter body (fun next => paginate Prefix Delimiter body (some next)) token
        loop :=
  pageThen_congr fun _ _ => pagesWithin_eq (by omega)

end Paginator

/-! What a client uses, request by request. -/

section Uses

variable {β : Type} {allowed : StoreRequest → Prop}

@[simp] theorem uses_listObjectsV2 {Prefix : PyStr} {Delimiter : Option CodePoint}
    {token : Option ContinuationToken}
    {rest : Except StoreError (ListObjectsV2Output Prefix token) → StoreProgram β} :
    (listObjectsV2 Prefix Delimiter token >>= rest).Uses allowed ↔
      allowed (.listObjectsV2 Prefix Delimiter token) ∧ ∀ answer, (rest answer).Uses allowed :=
  Iff.rfl

@[simp] theorem uses_getObject {Key : PyStr} {rest : Except StoreError Bytes → StoreProgram β} :
    (getObject Key >>= rest).Uses allowed ↔
      allowed (.getObject Key) ∧ ∀ answer, (rest answer).Uses allowed := Iff.rfl

@[simp] theorem uses_putObject {Key : PyStr} {Body : Bytes}
    {rest : Except StoreError Unit → StoreProgram β} :
    (putObject Key Body >>= rest).Uses allowed ↔
      allowed (.putObject Key Body) ∧ ∀ answer, (rest answer).Uses allowed := Iff.rfl

variable {τ : Type} {Prefix : PyStr} {Delimiter : Option CodePoint}
  {body : Page → τ → StoreProgram τ}
  (page : ∀ token, allowed (.listObjectsV2 Prefix Delimiter token))
  (each : ∀ (page : Page) (loop : τ), (∀ object ∈ page.Contents, Prefix <+: object.Key) →
    (body page loop).Uses allowed)
include page each

theorem pageThen_uses {more : ContinuationToken → τ → StoreProgram (Except StoreError τ)}
    (further : ∀ next loop, (more next loop).Uses allowed) (token : Option ContinuationToken)
    (loop : τ) : (pageThen Prefix Delimiter body more token loop).Uses allowed := by
  rw [pageThen, uses_listObjectsV2]
  refine ⟨page token, fun answer => ?_⟩
  cases answer with
  | error error => trivial
  | ok output =>
      refine Program.uses_bind (each _ _ output.starts) fun later => ?_
      cases output.NextContinuationToken with
      | none => trivial
      | some next => exact further next later

/-- What the paginator and the body of the loop use. -/
theorem paginate_uses (token : Option ContinuationToken) (loop : τ) :
    (paginate Prefix Delimiter body token loop).Uses allowed := by
  refine pageThen_uses page each (fun next later => ?_) token loop
  induction next.left + 1 generalizing next later with
  | zero => trivial
  | succ pages ih => exact pageThen_uses page each ih (some next) later

end Uses

/-! ## Listings -/

/-- The weather of a step: the store's clock, the outage of the request if there is one, and
where the store would cut a listing. -/
structure Weather where
  now : Datetime
  outage : Option StoreError
  cut : Option ContinuationToken

/-- No outage, at the first instant, and one page for each listing. -/
def fair : Weather := ⟨.utc 0 (by decide), none, none⟩

/-- `NoSuchKey`, as `get_object` raises it. -/
def noSuchKey : StoreError :=
  .clientError (some (py "NoSuchKey"))
    (py ("An error occurred (NoSuchKey) when calling the GetObject operation: " ++
      "The specified key does not exist."))

/-- The refusal of an empty key, before the request is sent. -/
def emptyKey : StoreError :=
  .botoCoreError (py ("Parameter validation failed:\n" ++
    "Invalid length for parameter Key, value: 0, valid min length: 1"))

/-- The common prefix a key is rolled up into, if the delimiter occurs after `Prefix`. -/
def commonPrefix? (Prefix : PyStr) (Delimiter : Option CodePoint) (key : PyStr) : Option PyStr :=
  let rest := key.drop Prefix.length
  Delimiter.bind fun d =>
    if d ∈ rest then some (Prefix ++ rest.takeWhile (· ≠ d) ++ [d]) else none

/-- The entries a listing is about, in key order. -/
def listed (bucket : Bucket) (Prefix : PyStr) : List (ObjectKey × StoredObject) :=
  (bucket.filter fun key => Prefix.isPrefixOf key.1).entries

/-- The element of `Contents` for an object. -/
def summary (entry : ObjectKey × StoredObject) : ObjectSummary :=
  ⟨entry.1.1, entry.2.body.length, entry.2.lastModified⟩

/-- All the `CommonPrefixes` of a listing, each once. -/
def commonPrefixes (bucket : Bucket) (Prefix : PyStr) (Delimiter : Option CodePoint) :
    List PyStr :=
  ((listed bucket Prefix).filterMap fun entry => commonPrefix? Prefix Delimiter entry.1.1).dedup

/-- All the `Contents` of a listing. -/
def contents (bucket : Bucket) (Prefix : PyStr) (Delimiter : Option CodePoint) :
    List ObjectSummary :=
  ((listed bucket Prefix).filter fun entry =>
    commonPrefix? Prefix Delimiter entry.1.1 = none).map summary

/-- The key is listed after the token: its common prefix comes after it, or the key does if it
has none. -/
def isAfter (Prefix : PyStr) (Delimiter : Option CodePoint) (token : ContinuationToken)
    (key : PyStr) : Bool :=
  match commonPrefix? Prefix Delimiter key with
  | some rolled => token.prefixes < rolled
  | none => token.keys < key

/-- The page from one token to the next is about the key. -/
def covers (Prefix : PyStr) (Delimiter : Option CodePoint) (token next : Option ContinuationToken)
    (key : PyStr) : Bool :=
  (token.all fun start => isAfter Prefix Delimiter start key) &&
    next.all fun finish => !isAfter Prefix Delimiter finish key

/-- The page from one token to the next. -/
def pageBetween (bucket : Bucket) (Prefix : PyStr) (Delimiter : Option CodePoint)
    (token next : Option ContinuationToken) : Page :=
  let part := bucket.filter fun key => covers Prefix Delimiter token next key.1
  ⟨commonPrefixes part Prefix Delimiter, contents part Prefix Delimiter⟩

/-- The token of the next page: the cut, not before the page itself, and for fewer pages. -/
def nextToken (cut : Option ContinuationToken) :
    Option ContinuationToken → Option ContinuationToken
  | none => cut
  | some token =>
      match token.left with
      | 0 => none
      | left + 1 => cut.map fun cut =>
          ⟨max token.prefixes cut.prefixes, max token.keys cut.keys, min left cut.left⟩

/-! ## What a listing holds -/

theorem mem_listed {bucket : Bucket} {Prefix : PyStr} {entry : ObjectKey × StoredObject} :
    entry ∈ listed bucket Prefix ↔
      bucket.get? entry.1 = some entry.2 ∧ Prefix <+: entry.1.1 := by
  simp [listed, SortedMap.filter, SortedMap.get?_eq_some]

/-- An element of `Contents` is an object of the bucket with the prefix and no
delimiter after it. -/
theorem mem_contents {bucket : Bucket} {Prefix : PyStr} {Delimiter : Option CodePoint}
    {object : ObjectSummary} :
    object ∈ contents bucket Prefix Delimiter ↔
      ∃ entry, bucket.get? entry.1 = some entry.2 ∧ Prefix <+: entry.1.1 ∧
        commonPrefix? Prefix Delimiter entry.1.1 = none ∧ summary entry = object := by
  simp [contents, mem_listed, and_assoc]

theorem nextToken_fewer {cut token : Option ContinuationToken} :
    ∀ given ∈ token, ∀ next ∈ nextToken cut token, next.left < given.left := by
  rintro given rfl next member
  simp only [nextToken] at member
  split at member
  · cases member
  · rename_i left given_left
    obtain ⟨cut, -, rfl⟩ := Option.map_eq_some_iff.mp member
    change min left cut.left < given.left
    omega

/-- The answer to `list_objects_v2`, in a bucket and with a place to cut. -/
def listObjectsV2Output (cut : Option ContinuationToken) (bucket : Bucket) (Prefix : PyStr)
    (Delimiter : Option CodePoint) (token : Option ContinuationToken) :
    ListObjectsV2Output Prefix token where
  toPage := pageBetween bucket Prefix Delimiter token (nextToken cut token)
  NextContinuationToken := nextToken cut token
  starts := by
    intro object member
    obtain ⟨entry, -, inside, -, rfl⟩ := mem_contents.mp member
    exact inside
  fewer := nextToken_fewer

/-- The store. A request either happens as a whole or, in an outage, changes nothing. -/
def store : Service StoreRequest StoreRequest.Response Bucket Weather :=
  fun weather bucket request =>
    match request with
    | .listObjectsV2 Prefix Delimiter token =>
        match weather.outage with
        | some error =>
            ((.error error : Except StoreError (ListObjectsV2Output Prefix token)), bucket)
        | none => ((.ok (listObjectsV2Output weather.cut bucket Prefix Delimiter token) :
            Except StoreError (ListObjectsV2Output Prefix token)), bucket)
    | .getObject Key =>
        match weather.outage with
        | some error => ((.error error : Except StoreError Bytes), bucket)
        | none =>
            if nonempty : Key ≠ [] then
              match bucket.get? ⟨Key, nonempty⟩ with
              | none => ((.error noSuchKey : Except StoreError Bytes), bucket)
              | some object => ((.ok object.body : Except StoreError Bytes), bucket)
            else ((.error emptyKey : Except StoreError Bytes), bucket)
    | .putObject Key Body =>
        match weather.outage with
        | some error => ((.error error : Except StoreError Unit), bucket)
        | none =>
            if nonempty : Key ≠ [] then
              ((.ok () : Except StoreError Unit),
                bucket.insert ⟨Key, nonempty⟩ ⟨Body, weather.now⟩)
            else ((.error emptyKey : Except StoreError Unit), bucket)

/-! ## Requests -/

section Run

variable {β σ ω : Type} {service : Service StoreRequest StoreRequest.Response σ ω}
  (weather : ℕ → ω) (state : σ)

theorem run_listObjectsV2 (Prefix : PyStr) (Delimiter : Option CodePoint)
    (token : Option ContinuationToken)
    (rest : Except StoreError (ListObjectsV2Output Prefix token) → StoreProgram β) :
    (listObjectsV2 Prefix Delimiter token >>= rest).run service weather state =
      (rest (service (weather 0) state (.listObjectsV2 Prefix Delimiter token)).1).run service
        (fun n => weather (n + 1))
        (service (weather 0) state (.listObjectsV2 Prefix Delimiter token)).2 := rfl

theorem run_getObject (Key : PyStr) (rest : Except StoreError Bytes → StoreProgram β) :
    (getObject Key >>= rest).run service weather state =
      (rest (service (weather 0) state (.getObject Key)).1).run service
        (fun n => weather (n + 1)) (service (weather 0) state (.getObject Key)).2 := rfl

theorem run_putObject (Key : PyStr) (Body : Bytes)
    (rest : Except StoreError Unit → StoreProgram β) :
    (putObject Key Body >>= rest).run service weather state =
      (rest (service (weather 0) state (.putObject Key Body)).1).run service
        (fun n => weather (n + 1)) (service (weather 0) state (.putObject Key Body)).2 := rfl

end Run

/-- A listing whose first page fails has its error. -/
theorem run_paginate_outage {τ : Type} {weather : ℕ → Weather} {bucket : Bucket} {Prefix : PyStr}
    {Delimiter : Option CodePoint} {body : Page → τ → StoreProgram τ}
    {token : Option ContinuationToken} {loop : τ} {error : StoreError}
    (outage : (weather 0).outage = some error) :
    (paginate Prefix Delimiter body token loop).run store weather bucket =
      (.error error, bucket) := by
  rw [paginate, pageThen, run_listObjectsV2]
  simp only [store, outage]
  rfl

section Calm

variable {weather : Weather} (calm : weather.outage = none) (bucket : Bucket)
include calm

theorem store_getObject (key : ObjectKey) :
    store weather bucket (.getObject key.1) =
      match bucket.get? key with
      | none => ((.error noSuchKey : Except StoreError Bytes), bucket)
      | some object => ((.ok object.body : Except StoreError Bytes), bucket) := by
  simp only [store, calm, dif_pos key.2]

theorem store_putObject (key : ObjectKey) (Body : Bytes) :
    store weather bucket (.putObject key.1 Body) =
      ((.ok () : Except StoreError Unit), bucket.insert key ⟨Body, weather.now⟩) := by
  simp only [store, calm, dif_pos key.2]
  rfl

end Calm

/-- A download changes nothing. -/
theorem store_getObject_state (weather : Weather) (bucket : Bucket) (Key : PyStr) :
    (store weather bucket (.getObject Key)).2 = bucket := by
  simp only [store]
  split
  · rfl
  · split
    · split <;> rfl
    · rfl

/-- A listing changes nothing. -/
theorem store_listObjectsV2_state (weather : Weather) (bucket : Bucket) (Prefix : PyStr)
    (Delimiter : Option CodePoint) (token : Option ContinuationToken) :
    (store weather bucket (.listObjectsV2 Prefix Delimiter token)).2 = bucket := by
  simp only [store]
  split
  · rfl
  · rfl

/-- **A step changes at most the key it puts.** -/
theorem store_get?_of_ne {weather : Weather} {bucket : Bucket} {request : StoreRequest}
    {key : ObjectKey} (elsewhere : ∀ Body, request ≠ .putObject key.1 Body) :
    (store weather bucket request).2.get? key = bucket.get? key := by
  cases request with
  | listObjectsV2 Prefix Delimiter token => rw [store_listObjectsV2_state]
  | getObject Key => rw [store_getObject_state]
  | putObject Key Body =>
      simp only [store]
      split
      · rfl
      · split
        · rename_i nonempty
          refine SortedMap.get?_insert_of_ne fun same => ?_
          exact elsewhere Body (by rw [same])
        · rfl

end CarqnaAgent.Storage
