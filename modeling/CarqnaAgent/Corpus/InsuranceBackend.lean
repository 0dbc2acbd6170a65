import Mathlib
import CarqnaAgent.Foundations.Urls
import CarqnaAgent.Storage.Directories

/-!
# The backend of the insurance documents

`_create_insurance_backend` of `src/agent/graph.py` reads one variable of the environment
and decides by its URI scheme between an S3-compatible store and the local filesystem.
The calls into the operating system, and which network locations `urlsplit` refuses, are
parameters (`System`).

The S3 backend of a plain `s3://` URI has the location for its bucket, and its root is the
path without the slashes at its ends and with one slash behind it, if anything is left
(`createInsuranceBackend_of_plain`, `root_init_lstrip`).
-/

set_option autoImplicit false

namespace CarqnaAgent.Corpus

open Foundations Storage

/-- `os.environ`. -/
abbrev Environ := PyStr → Option PyStr

/-- What the code asks of its surroundings. -/
structure System where
  expanduser : PyStr → PyStr
  pathExists : PyStr → Bool
  /-- A network location for which `urlsplit` raises `ValueError`. -/
  refusedNetloc : PyStr → Bool

/-- What the creation of the backend can raise. -/
inductive CreationError where
  | valueError
  | keyError (name : PyStr)
  | fileNotFoundError (text : PyStr)
  deriving DecidableEq

/-- The settings of the S3 client. -/
structure S3Settings where
  endpoint_url : PyStr
  access_key : PyStr
  secret_key : PyStr
  region : PyStr
  deriving DecidableEq

/-- A backend for the documents: `S3Backend`, or `FilesystemBackend` in virtual mode. -/
inductive InsuranceBackend where
  | s3 (backend : S3Backend) (settings : S3Settings)
  | filesystem (root_dir : PyStr)

/-- `os.environ[name]`. -/
def Environ.require (environ : Environ) (name : PyStr) : Except CreationError PyStr :=
  match environ name with
  | some value => .ok value
  | none => .error (.keyError name)

/-- The settings, from the environment. -/
def s3Settings (environ : Environ) : Except CreationError S3Settings := do
  let endpoint_url ← environ.require (py "S3_ENDPOINT_URL")
  let access_key ← environ.require (py "S3_ACCESS_KEY_ID")
  let secret_key ← environ.require (py "S3_SECRET_ACCESS_KEY")
  return {
    endpoint_url := endpoint_url
    access_key := access_key
    secret_key := secret_key
    region := (environ (py "S3_REGION")).getD (py "us-east-1") }

/-- Where the documents are unless the environment says otherwise. -/
def defaultFilesystemRoot : PyStr := py "~/git/knowledgexpert/data/linux-exec/insurance-docs"

/-- `_create_insurance_backend`. -/
def createInsuranceBackend (system : System) (environ : Environ) :
    Except CreationError InsuranceBackend :=
  let docsRoot := (environ (py "INSURANCE_DOCS_ROOT")).getD defaultFilesystemRoot
  match urlsplit system.refusedNetloc docsRoot with
  | none => .error .valueError
  | some parsed =>
      if parsed.scheme = py "s3" then
        (s3Settings environ).map fun settings =>
          .s3 (S3Backend.init parsed.netloc (PyStr.lstrip slash parsed.path)) settings
      else
        let filesystemRoot :=
          system.expanduser (if parsed.scheme = py "file" then parsed.path else docsRoot)
        if system.pathExists filesystemRoot then .ok (.filesystem filesystemRoot)
        else .error (.fileNotFoundError (py "Filesystem root not found: " ++ filesystemRoot))

/-! ## The root of an S3 backend -/

theorem mem_of_mem_strip {c : CodePoint} {s : PyStr} (member : c ∈ PyStr.strip slash s) : c ∈ s :=
  (List.dropWhile_sublist _).subset ((List.rdropWhile_prefix _ _).subset member)

theorem mem_dirBase {c : CodePoint} {path : PyStr} (member : c ∈ dirBase path) :
    c ∈ path ∨ c = CodePoint.ofChar '/' := by
  rw [dirBase] at member
  split at member
  · cases member
  · rcases List.mem_append.mp member with inside | last
    · exact .inl (mem_of_mem_strip inside)
    · exact .inr (by simpa [slash, py] using last)

/-- The root of the backend is the base of the path of the URI. -/
theorem root_init_lstrip (bucket path : PyStr) :
    (S3Backend.init bucket (PyStr.lstrip slash path)).root = dirBase path := by
  have stripped : PyStr.strip slash (PyStr.lstrip slash path) = PyStr.strip slash path := by
    have once : PyStr.lstrip slash (PyStr.lstrip slash path) = PyStr.lstrip slash path :=
      lstrip_eq_self_iff.mpr (not_slash_isPrefix_lstrip path)
    exact congrArg (PyStr.rstripBy _) once
  have rootPrefix : (S3Backend.init bucket (PyStr.lstrip slash path)).rootPrefix =
      PyStr.strip slash path := stripped
  rw [S3Backend.root, rootPrefix, dirBase]
  by_cases bare : PyStr.strip slash path = []
  · rw [if_neg (not_not.mpr bare), if_pos bare]
  · rw [if_pos bare, if_neg bare]

/-! ## A backend for an S3 URI -/

section S3

variable {system : System} {environ : Environ} {uri : PyStr}
  (located : environ (py "INSURANCE_DOCS_ROOT") = some uri)
include located

/-- An S3 backend has the location of the URI for its bucket and its path for its root. -/
theorem exists_parts_of_created {backend : S3Backend} {settings : S3Settings}
    (created : createInsuranceBackend system environ = .ok (.s3 backend settings)) :
    ∃ parts, urlsplit system.refusedNetloc uri = some parts ∧ backend.bucket = parts.netloc ∧
      backend.root = dirBase parts.path := by
  rw [createInsuranceBackend, located] at created
  dsimp only [Option.getD_some] at created
  cases split : urlsplit system.refusedNetloc uri with
  | none =>
      rw [split] at created
      cases created
  | some parts =>
      rw [split] at created
      dsimp only at created
      split at created
      · cases made : s3Settings environ with
        | error error =>
            rw [made] at created
            cases created
        | ok settings =>
            rw [made] at created
            cases created
            exact ⟨parts, rfl, rfl, root_init_lstrip _ _⟩
      · by_cases found : system.pathExists (system.expanduser
            (if parts.scheme = py "file" then parts.path else uri)) = true
        · rw [if_pos found] at created
          cases created
        · rw [if_neg found] at created
          cases created

/-- A plain S3 URI makes an S3 backend. -/
theorem createInsuranceBackend_of_plain {parts : SplitResult} {settings : S3Settings}
    (split : urlsplit system.refusedNetloc uri = some parts) (scheme : parts.scheme = py "s3")
    (configured : s3Settings environ = .ok settings) :
    createInsuranceBackend system environ =
      .ok (.s3 (S3Backend.init parts.netloc (PyStr.lstrip slash parts.path)) settings) := by
  rw [createInsuranceBackend, located]
  dsimp only [Option.getD_some]
  rw [split]
  dsimp only
  rw [if_pos scheme, configured]
  rfl

end S3

end CarqnaAgent.Corpus
