import Mathlib
import CarqnaAgent.Foundations.Dicts
import CarqnaAgent.Foundations.Integers
import CarqnaAgent.Storage.ObjectStore

/-!
# `S3Backend`

The virtual filesystem over a bucket, `src/agent/s3_backend.py`. Each operation is a
program over the requests of the store, in the order the source issues them. A
result is what the operation returns; an exception that no clause catches is
`PyException`.

The helpers imported from `deepagents` are not part of the repository, so they are a
parameter (`Helpers`), together with the text of a `UnicodeDecodeError`.
-/

set_option autoImplicit false

namespace CarqnaAgent.Storage

open Foundations

/-! ## Results -/

/-- `deepagents.backends.protocol.FileInfo`. -/
structure FileInfo where
  path : PyStr
  is_dir : Bool
  size : ℕ
  modified_at : PyStr
  deriving DecidableEq

/-- `deepagents.backends.protocol.FileData`. -/
structure FileData where
  content : PyStr
  encoding : PyStr
  created_at : Option PyStr := none
  modified_at : Option PyStr := none
  deriving DecidableEq

/-- One match of a `grep`. -/
structure GrepMatch where
  path : PyStr
  line : ℕ
  text : PyStr
  deriving DecidableEq

structure LsResult where
  error : Option PyStr := none
  entries : Option (List FileInfo) := none
  deriving DecidableEq

structure ReadResult where
  error : Option PyStr := none
  file_data : Option FileData := none
  deriving DecidableEq

structure WriteResult where
  error : Option PyStr := none
  path : Option PyStr := none
  deriving DecidableEq

structure EditResult where
  error : Option PyStr := none
  path : Option PyStr := none
  occurrences : Option ℤ := none
  deriving DecidableEq

structure GrepResult where
  error : Option PyStr := none
  found : Option (List GrepMatch) := none
  deriving DecidableEq

structure GlobResult where
  error : Option PyStr := none
  found : Option (List FileInfo) := none
  deriving DecidableEq

/-- The exceptions an operation lets through. -/
inductive PyException where
  | unicodeEncodeError (object : PyStr)
  | keyError (key : PyStr)
  deriving DecidableEq

/-- The code outside the repository the backend calls: `deepagents.backends.utils`, and
`str` of a `UnicodeDecodeError`. -/
structure Helpers where
  getBackendReadFileType : PyStr → PyStr
  checkEmptyContent : PyStr → Option PyStr
  sliceReadResponse : FileData → ℤ → ℤ → ReadResult
  /-- `Except.error` is the `str` the helper returns instead of a pair. -/
  performStringReplacement : PyStr → PyStr → PyStr → Bool → Except PyStr (PyStr × ℤ)
  createFileData : PyStr → FileData
  grepMatchesFromFiles :
    Dict PyStr FileData → PyStr → PyStr → Option PyStr → Option ℤ → GrepResult
  globSearchFiles : Dict PyStr FileData → PyStr → Option PyStr → PyStr
  unicodeDecodeError : Bytes → PyStr

/-! ## The backend -/

/-- The path separator. -/
def slash : PyStr := py "/"

/-- An `S3Backend`. Its key prefix has no slash at either end. -/
structure S3Backend where
  bucket : PyStr
  rootPrefix : PyStr
  stripped : PyStr.strip slash rootPrefix = rootPrefix

namespace S3Backend

/-- `S3Backend.__init__`. -/
def init (bucket keyPrefix : PyStr) : S3Backend where
  bucket := bucket
  rootPrefix := PyStr.strip slash keyPrefix
  stripped := PyStr.stripBy_stripBy

variable (backend : S3Backend) (helpers : Helpers)

/-- `S3Backend._key_for`. -/
def keyFor (path : PyStr) : PyStr :=
  let rel := PyStr.lstrip slash path
  if backend.rootPrefix ≠ [] then backend.rootPrefix ++ slash ++ rel else rel

/-- `S3Backend._path_for`. -/
def pathFor (key : PyStr) : PyStr :=
  if backend.rootPrefix ≠ [] then
    let keyPrefix := backend.rootPrefix ++ slash
    if keyPrefix.isPrefixOf key then slash ++ key.drop keyPrefix.length
    else if key = backend.rootPrefix then slash
    else slash ++ key
  else slash ++ key

/-- `S3Backend._dir_key_prefix`. -/
def dirKeyPrefix (path : PyStr) : PyStr :=
  let rel := PyStr.strip slash path
  let base :=
    if backend.rootPrefix ≠ [] ∧ rel ≠ [] then backend.rootPrefix ++ slash ++ rel
    else if backend.rootPrefix ≠ [] then backend.rootPrefix else rel
  if base ≠ [] then base ++ slash else []

/-- `S3Backend._not_found`, on the `Code` of a `ClientError`. -/
def notFound (code : Option PyStr) : Bool :=
  code ∈ [some (py "NoSuchKey"), some (py "404"), some (py "NotFound")]

/-- `entries.sort(key=lambda entry: entry.get("path", ""))`. -/
def sortByPath (entries : List FileInfo) : List FileInfo :=
  entries.insertionSort fun first second => first.path ≤ second.path

/-- The directory entry of a common prefix. -/
def directoryInfo (commonPrefix : PyStr) : FileInfo where
  path := backend.pathFor commonPrefix
  is_dir := true
  size := 0
  modified_at := []

/-- The file entry of an object. -/
def fileInfo (object : ObjectSummary) : FileInfo where
  path := backend.pathFor object.Key
  is_dir := false
  size := object.Size
  modified_at := object.LastModified.isoformat

/-- The entries `ls` makes of one page. The key equal to the listed prefix is the
zero-byte marker of the directory itself. -/
def lsPage (dirPrefix : PyStr) (page : Page) : List FileInfo :=
  page.CommonPrefixes.map backend.directoryInfo ++
    (page.Contents.filter fun object => object.Key ≠ dirPrefix).map backend.fileInfo

/-- `S3Backend.ls`. -/
def ls (path : PyStr) : StoreProgram (Except PyException LsResult) := do
  let dirPrefix := backend.dirKeyPrefix path
  match ← paginate dirPrefix (some (CodePoint.ofChar '/'))
      (fun page entries => return entries ++ backend.lsPage dirPrefix page) none [] with
  | .error error =>
      return .ok { error := some (py "Cannot list '" ++ path ++ py "': " ++ error.text) }
  | .ok entries => return .ok { entries := some (sortByPath entries) }

/-- What `read` makes of the bytes of the object. -/
def readBody (filePath : PyStr) (offset limit : ℤ) (raw : Bytes) : ReadResult :=
  if helpers.getBackendReadFileType filePath ≠ py "text" then
    { file_data := some { content := PyStr.base64 raw, encoding := py "base64" } }
  else
    match PyStr.decode raw with
    | none =>
        { error := some (py "Error reading file '" ++ filePath ++ py "': " ++
            helpers.unicodeDecodeError raw) }
    | some content =>
        match helpers.checkEmptyContent content with
        | some (c :: message) =>
            { file_data := some { content := c :: message, encoding := py "utf-8" } }
        | _ => helpers.sliceReadResponse { content := content, encoding := py "utf-8" } offset limit

/-- `S3Backend.read`. -/
def read (filePath : PyStr) (offset limit : ℤ) : StoreProgram (Except PyException ReadResult) := do
  match ← getObject (backend.keyFor filePath) with
  | .error (.clientError code text) =>
      if notFound code then
        return .ok { error := some (py "File '" ++ filePath ++ py "' not found") }
      else
        return .ok { error := some (py "Error reading file '" ++ filePath ++ py "': " ++ text) }
  | .error (.botoCoreError text) =>
      return .ok { error := some (py "Error reading file '" ++ filePath ++ py "': " ++ text) }
  | .ok raw => return .ok (readBody helpers filePath offset limit raw)

/-- `S3Backend.write`. The encoding happens before the request and no clause catches
its error. -/
def write (filePath content : PyStr) : StoreProgram (Except PyException WriteResult) := do
  match PyStr.encode content with
  | none => return .error (.unicodeEncodeError content)
  | some body =>
      match ← putObject (backend.keyFor filePath) body with
      | .error error =>
          let message := py "Error writing file '" ++ filePath ++ py "': " ++ error.text
          return .ok { error := some message }
      | .ok () => return .ok { path := some filePath }

/-- `s.replace("\r\n", "\n").replace("\r", "\n")`. -/
def normalizeNewlines (s : PyStr) : PyStr :=
  PyStr.replace (py "\r") (py "\n") (PyStr.replace (py "\r\n") (py "\n") s)

/-- What `edit` makes of the bytes of the object: the bytes to upload and the number of
replacements, or what it returns without an upload. -/
def edited (filePath oldString newString : PyStr) (replaceAll : Bool) (raw : Bytes) :
    Except (Except PyException EditResult) (Bytes × ℤ) :=
  match PyStr.decode raw with
  | none =>
      .error (.ok { error := some (py "Error editing file '" ++ filePath ++ py "': " ++
        helpers.unicodeDecodeError raw) })
  | some content =>
      match helpers.performStringReplacement content (normalizeNewlines oldString)
          (normalizeNewlines newString) replaceAll with
      | .error message => .error (.ok { error := some message })
      | .ok (newContent, occurrences) =>
          match PyStr.encode newContent with
          | none => .error (.error (.unicodeEncodeError newContent))
          | some body => .ok (body, occurrences)

/-- What `edit` does with the bytes of the object. -/
def editBody (filePath oldString newString : PyStr) (replaceAll : Bool) (raw : Bytes) :
    StoreProgram (Except PyException EditResult) := do
  match edited helpers filePath oldString newString replaceAll raw with
  | .error outcome => return outcome
  | .ok (body, occurrences) =>
      match ← putObject (backend.keyFor filePath) body with
      | .error error =>
          let message := py "Error editing file '" ++ filePath ++ py "': " ++ error.text
          return .ok { error := some message }
      | .ok () => return .ok { path := some filePath, occurrences := some occurrences }

/-- `S3Backend.edit`. -/
def edit (filePath oldString newString : PyStr) (replaceAll : Bool) :
    StoreProgram (Except PyException EditResult) := do
  match ← getObject (backend.keyFor filePath) with
  | .error (.clientError code text) =>
      if notFound code then
        return .ok { error := some (py "Error: File '" ++ filePath ++ py "' not found") }
      else
        return .ok { error := some (py "Error editing file '" ++ filePath ++ py "': " ++ text) }
  | .error (.botoCoreError text) =>
      return .ok { error := some (py "Error editing file '" ++ filePath ++ py "': " ++ text) }
  | .ok raw => backend.editBody helpers filePath oldString newString replaceAll raw

/-! ## The listings of the whole root -/

/-- The prefix of every key of the backend: `_iter_all_objects` lists it. -/
def root : PyStr := if backend.rootPrefix ≠ [] then backend.rootPrefix ++ slash else []

/-- `for obj in self._iter_all_objects()`: the body loops over the objects of a page. -/
def iterAllObjects {τ : Type} (body : List ObjectSummary → τ → StoreProgram τ) (loop : τ) :
    StoreProgram (Except StoreError τ) :=
  paginate backend.root none (fun page => body page.Contents) none loop

/-- The loop of `_read_all_file_contents`, over the objects of a page. -/
def readContents : List ObjectSummary → Dict PyStr FileData → StoreProgram (Dict PyStr FileData)
  | [], files => return files
  | object :: rest, files => do
      if slash.isSuffixOf object.Key then readContents rest files
      else
        match ← getObject object.Key with
        | .error _ => readContents rest files
        | .ok body =>
            match PyStr.decode body with
            | none => readContents rest files
            | some content =>
                readContents rest
                  (files.set (backend.pathFor object.Key) (helpers.createFileData content))

/-- `S3Backend._read_all_file_contents`. -/
def readAllFileContents : StoreProgram (Except StoreError (Dict PyStr FileData)) :=
  backend.iterAllObjects (backend.readContents helpers) .empty

/-- The entry of `files` that `_read_all_file_metadata` makes of an object. -/
def metadataOf (object : ObjectSummary) : FileData where
  content := []
  encoding := py "utf-8"
  modified_at := some object.LastModified.astimezoneUtc.isoformat

/-- The objects the listings of the whole root consider: a key that ends with a slash
is a directory marker. -/
def realFiles (objects : List ObjectSummary) : List ObjectSummary :=
  objects.filter fun object => !slash.isSuffixOf object.Key

/-- What the loop of `_read_all_file_metadata` adds to `files` and `sizes`. -/
def addMetadata (objects : List ObjectSummary) (maps : Dict PyStr FileData × Dict PyStr ℕ) :
    Dict PyStr FileData × Dict PyStr ℕ :=
  (maps.1.fill ((realFiles objects).map fun object =>
      (backend.pathFor object.Key, metadataOf object)),
    maps.2.fill ((realFiles objects).map fun object => (backend.pathFor object.Key, object.Size)))

/-- `S3Backend._read_all_file_metadata`: `files` and `sizes`. -/
def readAllFileMetadata :
    StoreProgram (Except StoreError (Dict PyStr FileData × Dict PyStr ℕ)) :=
  backend.iterAllObjects (fun objects maps => return backend.addMetadata objects maps)
    (.empty, .empty)

/-- `S3Backend.grep`. -/
def grep (pattern : PyStr) (path glob : Option PyStr) (maxCount : Option ℤ) :
    StoreProgram (Except PyException GrepResult) := do
  match ← backend.readAllFileContents helpers with
  | .error error =>
      return .ok { error := some (py "Error searching for '" ++ pattern ++ py "': " ++ error.text) }
  | .ok files =>
      return .ok (helpers.grepMatchesFromFiles files pattern (path.getD slash) glob maxCount)

/-- The element of `matches` for one line of the search result. -/
def globMatch (files : Dict PyStr FileData) (sizes : Dict PyStr ℕ) (filePath : PyStr) :
    Except PyException FileInfo :=
  match files.get? filePath with
  | none => .error (.keyError filePath)
  | some data =>
      match data.modified_at with
      | none => .error (.keyError (py "modified_at"))
      | some modified_at =>
          .ok { path := filePath
                is_dir := false
                size := (sizes.get? filePath).getD 0
                modified_at := modified_at }

/-- What `glob` makes of the listing. -/
def globFound (files : Dict PyStr FileData) (sizes : Dict PyStr ℕ) (pattern : PyStr)
    (path : Option PyStr) : Except PyException GlobResult :=
  let result := helpers.globSearchFiles files pattern path
  if result = py "No files found" then .ok { found := some [] }
  else
    match (result.splitOn (CodePoint.ofChar '\n')).mapM (globMatch files sizes) with
    | .error exception => .error exception
    | .ok found => .ok { found := some found }

/-- `S3Backend.glob`. -/
def glob (pattern : PyStr) (path : Option PyStr) : StoreProgram (Except PyException GlobResult) := do
  match ← backend.readAllFileMetadata with
  | .error error =>
      return .ok { error := some (py "Error searching for '" ++ pattern ++ py "': " ++ error.text) }
  | .ok (files, sizes) => return globFound helpers files sizes pattern path

/-! ## The six operations as one -/

end S3Backend

/-- A call of one of the operations. -/
inductive Operation where
  | ls (path : PyStr)
  | read (filePath : PyStr) (offset limit : ℤ)
  | write (filePath content : PyStr)
  | edit (filePath oldString newString : PyStr) (replaceAll : Bool)
  | grep (pattern : PyStr) (path glob : Option PyStr) (maxCount : Option ℤ)
  | glob (pattern : PyStr) (path : Option PyStr)

/-- What an operation returns. -/
inductive OperationResult where
  | ls (result : LsResult)
  | read (result : ReadResult)
  | write (result : WriteResult)
  | edit (result : EditResult)
  | grep (result : GrepResult)
  | glob (result : GlobResult)
  deriving DecidableEq

/-- The program of a call. -/
def S3Backend.perform (backend : S3Backend) (helpers : Helpers) :
    Operation → StoreProgram (Except PyException OperationResult)
  | .ls path => do return (← backend.ls path).map .ls
  | .read filePath offset limit => do
      return (← backend.read helpers filePath offset limit).map .read
  | .write filePath content => do return (← backend.write filePath content).map .write
  | .edit filePath oldString newString replaceAll => do
      return (← backend.edit helpers filePath oldString newString replaceAll).map .edit
  | .grep pattern path glob maxCount => do
      return (← backend.grep helpers pattern path glob maxCount).map .grep
  | .glob pattern path => do return (← backend.glob helpers pattern path).map .glob

/-! ## The helpers on short text files -/

/-- `perform_string_replacement`. -/
def performStringReplacement (content oldString newString : PyStr) (replaceAll : Bool) :
    Except PyStr (PyStr × ℤ) :=
  let occurrences := PyStr.count oldString content
  if occurrences = 0 then
    .error (py "Error: String not found in file: '" ++ oldString ++ py "'")
  else if 1 < occurrences ∧ replaceAll = false then
    .error (py "Error: String '" ++ oldString ++ py "' appears more than once in file")
  else .ok (PyStr.replace oldString newString content, occurrences)

/-- Helpers that do on a few short text files what those of `deepagents` do there: no
line window, no glob, every file of one age. -/
def plainHelpers : Helpers where
  getBackendReadFileType _ := py "text"
  checkEmptyContent content :=
    if content.all PyStr.isSpace then
      some (py "System reminder: File exists but has empty contents")
    else none
  sliceReadResponse file_data _ _ := { file_data := some file_data }
  performStringReplacement := performStringReplacement
  createFileData content := { content := content, encoding := py "utf-8" }
  grepMatchesFromFiles files pattern _ _ _ :=
    { found := some (files.items.flatMap fun item =>
        ((item.2.content.splitOn (CodePoint.ofChar '\n')).zipIdx 1).filterMap fun numbered =>
          if PyStr.count pattern numbered.1 = 0 then none
          else some ⟨item.1, numbered.2, numbered.1⟩) }
  globSearchFiles files _ _ :=
    if files.items = [] then py "No files found"
    else List.intercalate (py "\n") (files.items.map Prod.fst)
  unicodeDecodeError _ := py "'utf-8' codec can't decode bytes"

end CarqnaAgent.Storage
