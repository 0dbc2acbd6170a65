import Mathlib
import CarqnaAgent.Storage.Addressing

/-!
# A backend keeps to its root

The keys of a backend are the keys that start with its root, the key prefix and a
slash. Each operation builds its keys in one of three ways, and each of the three
stays under the root (`root_isPrefix_keyFor`, `root_isPrefix_dirKeyPrefix`, and the
listing of the root itself), whatever the path. So the keys under a root are a region
of the bucket, and every operation lives in it (`perform_uses`). All but `write` and
`edit` only read in it (`perform_reads`).

Two roots of which neither is a prefix of the other have no key in common, so each
region spares the requests of the other (`spares_of_owns`). **No operation of one
backend changes or observes what the other stores, in any interleaving**
(`operations_confined`).
-/

set_option autoImplicit false

namespace CarqnaAgent.Storage

open Foundations

/-! ## The region of a root -/

/-- The buckets hold the same objects under the root. -/
def SameUnder (root : PyStr) (first second : Bucket) : Prop :=
  ∀ key : ObjectKey, root <+: key.1 → first.get? key = second.get? key

/-- The request is about keys under the root. -/
def OwnedBy (root : PyStr) : StoreRequest → Prop
  | .listObjectsV2 Prefix _ _ => root <+: Prefix
  | .getObject Key => root <+: Key
  | .putObject Key _ => root <+: Key

/-- The request reads keys under the root. -/
def Reads (root : PyStr) : StoreRequest → Prop
  | .listObjectsV2 Prefix _ _ => root <+: Prefix
  | .getObject Key => root <+: Key
  | .putObject _ _ => False

theorem ownedBy_of_reads {root : PyStr} {request : StoreRequest} (reads : Reads root request) :
    OwnedBy root request := by
  cases request with
  | listObjectsV2 Prefix Delimiter token => exact reads
  | getObject Key => exact reads
  | putObject Key Body => exact reads.elim

/-- What reads under a root reads under any part of that. -/
theorem reads_mono {root inner : PyStr} (inside : root <+: inner) {request : StoreRequest}
    (reads : Reads inner request) : Reads root request := by
  cases request with
  | listObjectsV2 Prefix Delimiter token => exact inside.trans reads
  | getObject Key => exact inside.trans reads
  | putObject Key Body => exact reads.elim

/-- A request that reads changes nothing. -/
theorem store_reads {root : PyStr} {request : StoreRequest} (reads : Reads root request)
    (weather : Weather) (bucket : Bucket) : (store weather bucket request).2 = bucket := by
  cases request with
  | listObjectsV2 Prefix Delimiter token => exact store_listObjectsV2_state weather bucket _ _ _
  | getObject Key => exact store_getObject_state weather bucket Key
  | putObject Key Body => exact reads.elim

/-- **A program that reads changes nothing.** -/
theorem run_reads {α : Type} {root : PyStr} {program : StoreProgram α}
    (reads : program.Uses (Reads root)) (weather : ℕ → Weather) (bucket : Bucket) :
    (program.run store weather bucket).2 = bucket := by
  refine Program.run_keeps (· = bucket) ?_ reads weather rfl
  rintro weather state request allowed rfl
  exact store_reads allowed weather state

theorem listed_congr {root Prefix : PyStr} {first second : Bucket} (owned : root <+: Prefix)
    (same : SameUnder root first second) : listed first Prefix = listed second Prefix := by
  unfold listed
  rw [SortedMap.filter_congr]
  intro key kept
  exact same key (owned.trans (by simpa using kept))

/-- A page of a listing under the root is of the objects under the root. -/
theorem pageBetween_congr {root Prefix : PyStr} {first second : Bucket} (owned : root <+: Prefix)
    (same : SameUnder root first second) (Delimiter : Option CodePoint)
    (token next : Option ContinuationToken) :
    pageBetween first Prefix Delimiter token next =
      pageBetween second Prefix Delimiter token next := by
  have parts : ∀ keep : ObjectKey → Bool,
      listed (first.filter keep) Prefix = listed (second.filter keep) Prefix := by
    refine fun keep => listed_congr owned fun key inside => ?_
    rw [SortedMap.get?_filter, SortedMap.get?_filter, same key inside]
  simp only [pageBetween, commonPrefixes, contents, parts]

theorem listObjectsV2Output_congr {root Prefix : PyStr} {first second : Bucket}
    (owned : root <+: Prefix) (same : SameUnder root first second) (Delimiter : Option CodePoint)
    (cut token : Option ContinuationToken) :
    listObjectsV2Output cut first Prefix Delimiter token =
      listObjectsV2Output cut second Prefix Delimiter token := by
  simp only [listObjectsV2Output, pageBetween_congr owned same]

/-- The keys under a root are a region of the bucket. -/
def under (root : PyStr) : Region store where
  Owns := OwnedBy root
  Agrees := SameUnder root
  equivalence :=
    ⟨fun _ _ _ => rfl, fun same key inside => (same key inside).symm,
      fun first second key inside => (first key inside).trans (second key inside)⟩
  alike := by
    intro weather s t request owned same
    cases request with
    | listObjectsV2 Prefix Delimiter token =>
        simp only [store]
        split
        · exact ⟨rfl, same⟩
        · exact ⟨congrArg Except.ok (listObjectsV2Output_congr owned same Delimiter _ token), same⟩
    | getObject Key =>
        simp only [store]
        split
        · exact ⟨rfl, same⟩
        · split
          · rename_i nonempty
            rw [same ⟨Key, nonempty⟩ owned]
            split
            · exact ⟨rfl, same⟩
            · exact ⟨rfl, same⟩
          · exact ⟨rfl, same⟩
    | putObject Key Body =>
        simp only [store]
        split
        · exact ⟨rfl, same⟩
        · split
          · refine ⟨rfl, fun key inside => ?_⟩
            by_cases written : key = ⟨Key, by assumption⟩
            · rw [written, SortedMap.get?_insert_self, SortedMap.get?_insert_self]
            · rw [SortedMap.get?_insert_of_ne written, SortedMap.get?_insert_of_ne written]
              exact same key inside
          · exact ⟨rfl, same⟩

/-- Neither of two roots is a prefix of the other. -/
def Unrelated (root other : PyStr) : Prop := ¬ root <+: other ∧ ¬ other <+: root

instance : DecidableRel Unrelated := fun root other =>
  inferInstanceAs (Decidable (¬ root <+: other ∧ ¬ other <+: root))

/-- A request under one of two unrelated roots changes nothing under the other. -/
theorem spares_of_owns {root other : PyStr} (apart : Unrelated root other)
    {request : StoreRequest} (owned : OwnedBy other request) : (under root).Spares request := by
  intro weather bucket key inside
  apply store_get?_of_ne
  rintro Body rfl
  rcases List.prefix_or_prefix_of_prefix inside owned with below | above
  · exact apart.1 below
  · exact apart.2 above

/-! ## Every operation stays under the root -/

namespace S3Backend

variable (backend : S3Backend) (helpers : Helpers)

/-- `ls` reads in its directory. -/
theorem ls_reads (path : PyStr) : (backend.ls path).Uses (Reads (backend.dirKeyPrefix path)) := by
  refine Program.uses_bind (paginate_uses (fun _ => List.prefix_rfl) ?_ none []) fun answer => ?_
  · exact fun _ _ _ => trivial
  · split
    · trivial
    · trivial

theorem read_reads (filePath : PyStr) (offset limit : ℤ) :
    (backend.read helpers filePath offset limit).Uses (Reads backend.root) := by
  rw [read, uses_getObject]
  refine ⟨backend.root_isPrefix_keyFor filePath, fun answer => ?_⟩
  split
  · split
    · trivial
    · trivial
  · trivial
  · trivial

theorem write_uses (filePath content : PyStr) :
    (backend.write filePath content).Uses (OwnedBy backend.root) := by
  unfold write
  split
  · trivial
  · rw [uses_putObject]
    refine ⟨backend.root_isPrefix_keyFor filePath, fun answer => ?_⟩
    split
    · trivial
    · trivial

theorem editBody_uses (filePath oldString newString : PyStr) (replaceAll : Bool) (raw : Bytes) :
    (backend.editBody helpers filePath oldString newString replaceAll raw).Uses
      (OwnedBy backend.root) := by
  unfold editBody
  split
  · trivial
  · rw [uses_putObject]
    refine ⟨backend.root_isPrefix_keyFor filePath, fun answer => ?_⟩
    split
    · trivial
    · trivial

theorem edit_uses (filePath oldString newString : PyStr) (replaceAll : Bool) :
    (backend.edit helpers filePath oldString newString replaceAll).Uses
      (OwnedBy backend.root) := by
  rw [edit, uses_getObject]
  refine ⟨backend.root_isPrefix_keyFor filePath, fun answer => ?_⟩
  split
  · split
    · trivial
    · trivial
  · trivial
  · exact backend.editBody_uses helpers filePath oldString newString replaceAll _

/-- The downloads of `grep` stay under the root when the listed objects do. -/
theorem readContents_reads {objects : List ObjectSummary}
    (inside : ∀ object ∈ objects, backend.root <+: object.Key) (files : Dict PyStr FileData) :
    (backend.readContents helpers objects files).Uses (Reads backend.root) := by
  induction objects generalizing files with
  | nil => trivial
  | cons object rest ih =>
      have later := ih fun other member => inside other (List.mem_cons_of_mem _ member)
      rw [readContents]
      split
      · exact later files
      · rw [uses_getObject]
        refine ⟨inside object List.mem_cons_self, fun answer => ?_⟩
        split
        · exact later files
        · split
          · exact later files
          · exact later _

theorem iterAllObjects_reads {τ : Type} {body : List ObjectSummary → τ → StoreProgram τ}
    (each : ∀ (objects : List ObjectSummary) (loop : τ),
      (∀ object ∈ objects, backend.root <+: object.Key) →
        (body objects loop).Uses (Reads backend.root)) (loop : τ) :
    (backend.iterAllObjects body loop).Uses (Reads backend.root) :=
  paginate_uses (fun _ => List.prefix_rfl) (fun page => each page.Contents) none loop

theorem readAllFileContents_reads :
    (backend.readAllFileContents helpers).Uses (Reads backend.root) :=
  backend.iterAllObjects_reads
    (fun _ files inside => backend.readContents_reads helpers inside files) _

theorem readAllFileMetadata_reads :
    backend.readAllFileMetadata.Uses (Reads backend.root) := by
  refine backend.iterAllObjects_reads ?_ _
  exact fun _ _ _ => trivial

theorem grep_reads (pattern : PyStr) (path glob : Option PyStr) (maxCount : Option ℤ) :
    (backend.grep helpers pattern path glob maxCount).Uses (Reads backend.root) := by
  refine Program.uses_bind (backend.readAllFileContents_reads helpers) fun files => ?_
  split
  · trivial
  · trivial

theorem glob_reads (pattern : PyStr) (path : Option PyStr) :
    (backend.glob helpers pattern path).Uses (Reads backend.root) := by
  refine Program.uses_bind backend.readAllFileMetadata_reads fun answer => ?_
  split
  · trivial
  · trivial

/-- **An operation that is no write and no edit reads.** -/
theorem perform_reads {operation : Operation}
    (noWrite : ∀ filePath content, operation ≠ .write filePath content)
    (noEdit : ∀ filePath oldString newString replaceAll,
      operation ≠ .edit filePath oldString newString replaceAll) :
    (backend.perform helpers operation).Uses (Reads backend.root) := by
  cases operation with
  | ls path =>
      refine Program.uses_bind (Program.uses_mono (backend.ls_reads path) fun request =>
        reads_mono (backend.root_isPrefix_dirKeyPrefix path)) fun _ => trivial
  | read filePath offset limit =>
      exact Program.uses_bind (backend.read_reads helpers filePath offset limit) fun _ => trivial
  | write filePath content => exact absurd rfl (noWrite filePath content)
  | edit filePath oldString newString replaceAll =>
      exact absurd rfl (noEdit filePath oldString newString replaceAll)
  | grep pattern path glob maxCount =>
      exact Program.uses_bind (backend.grep_reads helpers pattern path glob maxCount)
        fun _ => trivial
  | glob pattern path =>
      exact Program.uses_bind (backend.glob_reads helpers pattern path) fun _ => trivial

/-- **Every operation lives under the root, whatever its arguments.** -/
theorem perform_uses (operation : Operation) :
    (backend.perform helpers operation).Uses (OwnedBy backend.root) := by
  cases operation with
  | write filePath content =>
      exact Program.uses_bind (backend.write_uses filePath content) fun _ => trivial
  | edit filePath oldString newString replaceAll =>
      exact Program.uses_bind
        (backend.edit_uses helpers filePath oldString newString replaceAll) fun _ => trivial
  | _ =>
      refine Program.uses_mono (backend.perform_reads helpers ?_ ?_) fun _ => ownedBy_of_reads
      · simp
      · simp

end S3Backend

/-! ## Clients of one bucket -/

/-- A client of a filesystem: its operations may depend on earlier results. -/
abbrev Client := Program Operation fun _ => Except PyException OperationResult

/-- A client run on a backend. -/
def S3Backend.serve {α : Type} (backend : S3Backend) (helpers : Helpers) (client : Client α) :
    StoreProgram α :=
  client.interpret (backend.perform helpers)

theorem S3Backend.serve_uses {α : Type} (backend : S3Backend) (helpers : Helpers)
    (client : Client α) : (backend.serve helpers client).Uses (OwnedBy backend.root) :=
  Program.uses_interpret (backend.perform_uses helpers) client

section Sharing

variable {ι α : Type} [DecidableEq ι]

/-- Clients over one bucket, each on its own backend. -/
def sharing (helpers : Helpers) (owner : ι → S3Backend) (clients : ι → Client α)
    (bucket : Bucket) : Pool ι StoreRequest StoreRequest.Response α Bucket where
  threads i := (owner i).serve helpers (clients i)
  state := bucket

/-- The clients under a root do not notice the clients under unrelated roots. -/
theorem sharing_filter (helpers : Helpers) {root : PyStr} {owner : ι → S3Backend}
    (apart : ∀ i, (owner i).root ≠ root → Unrelated root (owner i).root)
    (clients : ι → Client α) (bucket : Bucket) (schedule : List (ι × Weather)) :
    let pool := sharing helpers owner clients bucket
    let alone := pool.execute store (schedule.filter fun turn => (owner turn.1).root = root)
    (∀ i, (owner i).root = root → (pool.execute store schedule).threads i = alone.threads i) ∧
      SameUnder root (pool.execute store schedule).state alone.state := by
  refine (under root).execute_filter (fun i => (owner i).root = root) ?_ ?_ (fun _ _ => rfl)
    fun _ _ => rfl
  · intro i inside
    have uses := (owner i).serve_uses helpers (clients i)
    rw [inside] at uses
    exact uses
  · intro i outside
    exact Program.uses_mono ((owner i).serve_uses helpers (clients i)) fun _ owned =>
      spares_of_owns (apart i outside) owned

end Sharing

/-- **A backend is confined to the keys under its prefix.** An operation changes no other
key, its result and its effect depend on no other key, and no interleaving with clients
of backends with unrelated roots changes what its clients see or store. -/
theorem operations_confined (helpers : Helpers) (backend : S3Backend)
    (rooted : backend.rootPrefix ≠ []) :
    (∀ (operation : Operation) (weather : ℕ → Weather) (bucket : Bucket) (key : ObjectKey),
      ¬ backend.rootPrefix ++ slash <+: key.1 →
        ((backend.perform helpers operation).run store weather bucket).2.get? key =
          bucket.get? key) ∧
    (∀ (operation : Operation) (weather : ℕ → Weather) (first second : Bucket),
      SameUnder (backend.rootPrefix ++ slash) first second →
        ((backend.perform helpers operation).run store weather first).1 =
          ((backend.perform helpers operation).run store weather second).1 ∧
        SameUnder (backend.rootPrefix ++ slash)
          ((backend.perform helpers operation).run store weather first).2
          ((backend.perform helpers operation).run store weather second).2) ∧
    (∀ {ι α : Type} [DecidableEq ι] (owner : ι → S3Backend) (clients : ι → Client α)
      (bucket : Bucket) (schedule : List (ι × Weather)),
      (∀ i, (owner i).root ≠ backend.rootPrefix ++ slash →
        Unrelated (backend.rootPrefix ++ slash) (owner i).root) →
      let pool := sharing helpers owner clients bucket
      let alone := pool.execute store
        (schedule.filter fun turn => (owner turn.1).root = backend.rootPrefix ++ slash)
      (∀ i, (owner i).root = backend.rootPrefix ++ slash →
        (pool.execute store schedule).threads i = alone.threads i) ∧
      SameUnder (backend.rootPrefix ++ slash) (pool.execute store schedule).state alone.state) := by
  have root : backend.root = backend.rootPrefix ++ slash := if_pos rooted
  rw [← root]
  refine ⟨fun operation weather bucket key outside => ?_,
    fun operation weather first second same => ?_,
    fun owner clients bucket schedule apart => ?_⟩
  · refine Program.run_keeps (fun later : Bucket => later.get? key = bucket.get? key) ?_
      (backend.perform_uses helpers operation) weather rfl
    intro weather later request owned kept
    rw [← kept]
    apply store_get?_of_ne
    rintro Body rfl
    exact outside owned
  · exact (under backend.root).run_alike (backend.perform_uses helpers operation) weather same
  · exact sharing_filter helpers apart clients bucket schedule

/-- The root `docs` beside the sibling root `docs2`: a path that names the sibling stays in
the root, a listing does not see the sibling, and a writer on the sibling is not noticed. -/
theorem operations_confined_docs :
    let docs := S3Backend.init (py "corpus") (py "/docs/")
    let docs2 := S3Backend.init (py "corpus") (py "docs2")
    let sibling : ObjectKey := ⟨py "docs2/x", by decide⟩
    let full : Bucket := SortedMap.empty.insert sibling ⟨[], fair.now⟩
    let pool := sharing plainHelpers (fun onDocs : Bool => if onDocs then docs else docs2)
      (fun onDocs => .call (if onDocs then .ls (py "/") else .write (py "/x") (py "hi")) .ret) .empty
    ((docs.perform plainHelpers (.write (py "/../docs2/x") (py "hi"))).run store (fun _ => fair)
        full).2.get? sibling = full.get? sibling ∧
      ((docs.perform plainHelpers (.ls (py "/"))).run store (fun _ => fair) full).1 =
        ((docs.perform plainHelpers (.ls (py "/"))).run store (fun _ => fair) .empty).1 ∧
      (pool.execute store [(false, fair), (true, fair)]).threads true =
        (pool.execute store [(true, fair)]).threads true := by
  have confined := operations_confined plainHelpers (S3Backend.init (py "corpus") (py "/docs/"))
    (by decide)
  refine ⟨confined.1 _ _ _ _ (by decide), (confined.2.1 _ _ _ _ ?_).1,
    (confined.2.2 _ _ _ _ ?_).1 true (by decide)⟩
  · intro key inside
    refine SortedMap.get?_insert_of_ne ?_
    rintro rfl
    revert inside
    decide
  · decide

end CarqnaAgent.Storage
