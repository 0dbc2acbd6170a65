import Mathlib
import CarqnaAgent.Foundations.Globs
import CarqnaAgent.Foundations.Refinement
import CarqnaAgent.Storage.Confinement
import CarqnaAgent.Storage.Snapshots

/-!
# What the insurance expert may do

`create_graph` gives the sub-agent `insurance_expert` two permissions. A tool call is
decided by the first permission with its operation and a glob that matches its path, and
is allowed when there is none.

Both permissions have the glob `/`, and that matches one path. So **the sub-agent is kept
from changing the documents exactly as far as it names no path but `/`**
(`insurance_expert_readonly_iff`): any other path is decided by no permission.
-/

set_option autoImplicit false

namespace CarqnaAgent.Corpus

open Foundations Storage

/-! ## Permissions -/

/-- The operations a permission is about. An edit is a write. -/
inductive FileOperation where
  | read
  | write
  | delete
  deriving DecidableEq

/-- What a permission says. -/
inductive PermissionMode where
  | allow
  | deny
  deriving DecidableEq

/-- `FilesystemPermission`. -/
structure FilesystemPermission where
  operations : List FileOperation
  paths : List PyStr
  mode : PermissionMode

/-- A permission decides an operation on a path. -/
def FilesystemPermission.decides (permission : FilesystemPermission) (operation : FileOperation)
    (path : PyStr) : Bool :=
  decide (operation ∈ permission.operations) && permission.paths.any fun glob =>
    globMatches glob path

/-- The first permission that decides does; without one, the call is allowed. -/
def permissionMode (permissions : List FilesystemPermission) (operation : FileOperation)
    (path : PyStr) : PermissionMode :=
  match permissions.find? fun permission => permission.decides operation path with
  | some permission => permission.mode
  | none => .allow

/-- The `permissions` of `insurance_expert`. -/
def insurancePermissions : List FilesystemPermission :=
  [⟨[.read], [py "/"], .allow⟩, ⟨[.write, .delete], [py "/"], .deny⟩]

/-! ## Tool calls -/

/-- A filesystem tool call: an operation of the backend, or `delete`. -/
inductive ToolCall where
  | operation (operation : Operation)
  | delete (filePath : PyStr)

/-- The operation a tool call is checked for. -/
def ToolCall.kind : ToolCall → FileOperation
  | .operation (.write _ _) => .write
  | .operation (.edit _ _ _ _) => .write
  | .operation _ => .read
  | .delete _ => .delete

/-- The path a tool call is checked for. -/
def ToolCall.path : ToolCall → PyStr
  | .operation (.ls path) => path
  | .operation (.read filePath _ _) => filePath
  | .operation (.write filePath _) => filePath
  | .operation (.edit filePath _ _ _) => filePath
  | .operation (.grep _ path _ _) => path.getD slash
  | .operation (.glob _ path) => path.getD slash
  | .delete filePath => filePath

/-- The call is a write, an edit or a delete. -/
def ToolCall.Changes (call : ToolCall) : Prop := call.kind ≠ .read

instance : DecidablePred ToolCall.Changes := fun call =>
  inferInstanceAs (Decidable (call.kind ≠ .read))

/-- What a tool call comes to. `S3Backend` has no `delete`. -/
inductive ToolOutcome where
  | denied
  | returned (outcome : Except PyException OperationResult)
  | notImplemented

/-- A tool call of an agent with permissions. -/
def serveCall (permissions : List FilesystemPermission) (backend : S3Backend) (helpers : Helpers)
    (call : ToolCall) : StoreProgram ToolOutcome :=
  match permissionMode permissions call.kind call.path, call with
  | .deny, _ => return .denied
  | .allow, .operation operation => do return .returned (← backend.perform helpers operation)
  | .allow, .delete _ => return .notImplemented

/-- The tool calls of an agent one after the other, each in its own weather. -/
def serveCalls (permissions : List FilesystemPermission) (backend : S3Backend) (helpers : Helpers) :
    List (ToolCall × (ℕ → Weather)) → Bucket → List ToolOutcome × Bucket :=
  Refinement.run fun turn bucket =>
    (serveCall permissions backend helpers turn.1).run store turn.2 bucket

/-! ## What is decided -/

theorem globMatches_slash (path : PyStr) : globMatches (py "/") path = true ↔ path = slash :=
  globMatches_literal (by decide) path

/-- What the two permissions come to: elsewhere than on `/` neither of them decides. -/
theorem permissionMode_insurance (operation : FileOperation) (path : PyStr) :
    permissionMode insurancePermissions operation path =
      if operation ≠ .read ∧ path = slash then .deny else .allow := by
  by_cases top : path = slash
  · subst top
    have matched : globMatches (py "/") slash = true := (globMatches_slash slash).mpr rfl
    cases operation <;>
      simp [permissionMode, insurancePermissions, FilesystemPermission.decides, matched]
  · have unmatched : globMatches (py "/") path = false := by
      rw [Bool.eq_false_iff, ne_eq, globMatches_slash]
      exact top
    cases operation <;>
      simp [permissionMode, insurancePermissions, FilesystemPermission.decides, unmatched, top]

/-- **Reading is allowed everywhere.** -/
theorem permissionMode_read (path : PyStr) :
    permissionMode insurancePermissions .read path = .allow := by
  rw [permissionMode_insurance, if_neg fun changes => changes.1 rfl]

/-- **A change is denied on one path.** -/
theorem permissionMode_change {operation : FileOperation} (changes : operation ≠ .read)
    (path : PyStr) :
    permissionMode insurancePermissions operation path = .deny ↔ path = slash := by
  rw [permissionMode_insurance]
  by_cases top : path = slash
  · rw [if_pos ⟨changes, top⟩]
    exact iff_of_true rfl top
  · rw [if_neg fun both => top both.2]
    exact iff_of_false (by decide) top

/-! ## What changes nothing -/

section Reading

variable (backend : S3Backend) (helpers : Helpers)

theorem perform_of_read {operation : Operation}
    (reads : (ToolCall.operation operation).kind = .read) :
    (backend.perform helpers operation).Uses (Reads backend.root) := by
  refine backend.perform_reads helpers ?_ ?_
  · rintro filePath content rfl
    cases reads
  · rintro filePath oldString newString replaceAll rfl
    cases reads

/-- A call that is denied, or is no change, reads at most. -/
theorem serveCall_reads {permissions : List FilesystemPermission} {call : ToolCall}
    (harmless : call.Changes → permissionMode permissions call.kind call.path = .deny) :
    (serveCall permissions backend helpers call).Uses (Reads backend.root) := by
  unfold serveCall
  split
  · trivial
  · rename_i operation allowed
    by_cases changes : (ToolCall.operation operation).Changes
    · rw [harmless changes] at allowed
      cases allowed
    · exact Program.uses_bind (perform_of_read backend helpers (not_not.mp changes))
        fun _ => trivial
  · trivial

/-- **A sequence whose changes are all denied keeps the bucket.** -/
theorem serveCalls_keep {permissions : List FilesystemPermission}
    {calls : List (ToolCall × (ℕ → Weather))}
    (harmless : ∀ turn ∈ calls, turn.1.Changes →
      permissionMode permissions turn.1.kind turn.1.path = .deny) (bucket : Bucket) :
    (serveCalls permissions backend helpers calls bucket).2 = bucket := by
  induction calls with
  | nil => rfl
  | cons turn calls ih =>
      obtain ⟨first, others⟩ := List.forall_mem_cons.mp harmless
      have kept : ((serveCall permissions backend helpers turn.1).run store turn.2 bucket).2 =
          bucket := run_reads (serveCall_reads backend helpers first) turn.2 bucket
      rw [serveCalls, Refinement.run]
      simp only [kept]
      exact ih others

end Reading

/-! ## The insurance expert -/

/-- **The insurance expert is kept from the documents exactly when it names no path but
`/`.** -/
theorem insurance_expert_readonly_iff (backend : S3Backend) (helpers : Helpers) (bucket : Bucket)
    (calls : List (ToolCall × (ℕ → Weather))) :
    ((∀ turn ∈ calls, turn.1.Changes →
        permissionMode insurancePermissions turn.1.kind turn.1.path = .deny) ∧
      (serveCalls insurancePermissions backend helpers calls bucket).2 = bucket ∧
      ∀ path, permissionMode insurancePermissions .read path = .allow) ↔
    ∀ turn ∈ calls, turn.1.Changes → turn.1.path = slash := by
  constructor
  · rintro ⟨denied, -, -⟩ turn member changes
    exact (permissionMode_change changes _).mp (denied turn member changes)
  · intro named
    have denied : ∀ turn ∈ calls, turn.1.Changes →
        permissionMode insurancePermissions turn.1.kind turn.1.path = .deny :=
      fun turn member changes => (permissionMode_change changes _).mpr (named turn member changes)
    exact ⟨denied, serveCalls_keep backend helpers denied bucket, permissionMode_read⟩

/-- The plan's own test call: the expert writes `/hacked.md`, and the object is there. -/
theorem insurance_expert_writes :
    let docs := S3Backend.init (py "corpus") (py "docs")
    let call := ToolCall.operation (.write (py "/hacked.md") (py "hi"))
    call.Changes ∧ permissionMode insurancePermissions call.kind call.path ≠ .deny ∧
      (serveCalls insurancePermissions docs plainHelpers [(call, fun _ => fair)] .empty).2 ≠
        .empty := by
  intro docs call
  have uploaded : ((serveCalls insurancePermissions docs plainHelpers [(call, fun _ => fair)]
      .empty).2.get? ⟨py "docs/hacked.md", by decide⟩).isSome = true := by decide
  refine ⟨by decide, by decide, fun same => ?_⟩
  rw [same] at uploaded
  cases uploaded

end CarqnaAgent.Corpus
