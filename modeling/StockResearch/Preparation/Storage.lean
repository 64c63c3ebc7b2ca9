import StockResearch.Lib.Crash
import StockResearch.Lib.DirectoryTree
import StockResearch.Lib.Outcome
import StockResearch.Lib.PosixPath

/-!
# Publication of preparations

The files of a preparation are written into a staging directory, read back, validated, and
exposed by one rename; whatever is raised before that removes the staging directory again.
Every call of the file system is a step at which it may raise, or the process may stop.

- `validateFiles`: which mappings of paths to bytes are accepted.
- `StoragePoint`: the steps.
- `publishPreparation`, `publishRunPreparation`: the code.
-/

namespace StockResearch.Preparation

/-! ## Values -/

/-- The bytes of a file. -/
abbrev Bytes := List UInt8

/-- What is raised while a preparation is published. -/
inductive StorageError
  | valueError (message : String)
  | fileExistsError (message : String)
  | runtimeError (message : String)
  | osError (message : String)
  | rejected (message : String)
deriving DecidableEq

/-- A value of the mapping of files: bytes, or anything else. -/
inductive FileContent
  | bytes (content : Bytes)
  | other
deriving DecidableEq

/-- The mapping of paths to contents that a caller passes. -/
structure FileMapping where
  items : List (String × FileContent)
  nodup : (items.map Prod.fst).Nodup

/-- `StoredPreparationFile` -/
structure StoredPreparationFile where
  relativePath : String
  sha256 : String
deriving DecidableEq

/-- `PreparationReceipt` -/
structure PreparationReceipt where
  destinationName : String
  files : List StoredPreparationFile
deriving DecidableEq

/-- `PreparationValidator` -/
abbrev PreparationValidator := List (String × Bytes) → Except StorageError Unit

/-! ## Checks -/

/-- A trusted root: whether it is a symbolic link, and whether it is a directory. -/
structure RootPath where
  isSymlink : Bool
  isDir : Bool

/-- `_validate_root` -/
def validateRoot (root : RootPath) : Except StorageError Unit :=
  require (¬ (root.isSymlink ∨ ¬ root.isDir))
    (.valueError "preparation root must be an existing non-symlink directory")

/-- `_STAGING_PREFIX` -/
def stagingPrefix : String := ".staging-"

/-- `^[A-Za-z0-9][A-Za-z0-9_-]{0,63}$` -/
def isDestinationName (name : String) : Bool :=
  match name.toList with
  | first :: rest => first.isAlphanum && rest.length ≤ 63 &&
      rest.all fun c => c.isAlphanum || c == '_' || c == '-'
  | [] => false

/-- `_validate_destination_name` -/
def validateDestinationName (name : String) : Except StorageError Unit :=
  require (¬ (¬ isDestinationName name ∨ stagingPrefix.toList.isPrefixOf name.toList))
    (.valueError "destination name must match [A-Za-z0-9][A-Za-z0-9_-]\x7b0,63\x7d")

/-- The check of one path. -/
def IsUnsafePath (relativePath : String) : Prop :=
  let path := PosixPath.ofText relativePath
  relativePath = "" ∨ '\\' ∈ relativePath.toList ∨ path.isAbsolute ∨
    path.parts.any (fun part => part ∈ ["", ".", ".."]) ∨ relativePath ≠ path.asPosix

instance (relativePath : String) : Decidable (IsUnsafePath relativePath) :=
  inferInstanceAs (Decidable (_ ∨ _ ∨ _ ∨ _ ∨ _))

/-- A path is there already, or one of the two is a parent of the other. -/
def ConflictsWith (path : PosixPath) (filePaths : List PosixPath) : Prop :=
  path ∈ filePaths ∨ ∃ other ∈ filePaths, path ∈ other.parents ∨ other ∈ path.parents

instance (path : PosixPath) (filePaths : List PosixPath) :
    Decidable (ConflictsWith path filePaths) :=
  inferInstanceAs (Decidable (_ ∨ _))

/-- The loop of `_validate_files`, after the files with some paths. -/
def validateItems (filePaths : List PosixPath) :
    List (String × FileContent) → Except StorageError (List (String × Bytes))
  | [] => .ok []
  | (relativePath, content) :: items => do
    require (¬ IsUnsafePath relativePath)
      (.valueError "preparation file paths must be normalized relative POSIX paths")
    let content ← match content with
      | .bytes content => .ok content
      | .other => .error (.valueError "preparation file content must be bytes")
    let path := PosixPath.ofText relativePath
    require (¬ ConflictsWith path filePaths) (.valueError
      "preparation file paths must be unique and cannot conflict with directories")
    let normalized ← validateItems (filePaths ++ [path]) items
    pure ((relativePath, content) :: normalized)

/-- `_validate_files` -/
def validateFiles (files : FileMapping) : Except StorageError (List (String × Bytes)) := do
  require (files.items ≠ []) (.valueError "at least one preparation file is required")
  validateItems [] files.items

/-! ## The root -/

/-- An entry of the root: a directory, or a file or a link. -/
inductive RootEntry
  | directory (tree : DirectoryTree UInt8)
  | other

/-- What is in the root. -/
abbrev Root := Table String RootEntry

/-- An operation on a directory in the root. -/
def inDirectory (name : String) (f : DirectoryTree UInt8 → Option (DirectoryTree UInt8))
    (root : Root) : Except StorageError (Unit × Root) :=
  match root.get? name with
  | some (.directory tree) =>
    match f tree with
    | some tree => .ok ((), root.modify name fun _ => .directory tree)
    | none => .error (.osError "")
  | _ => .error (.osError "")

/-- A question about a directory in the root. -/
def ofDirectory {α : Type} (name : String) (f : DirectoryTree UInt8 → Option α) (root : Root) :
    Except StorageError α :=
  match root.get? name with
  | some (.directory tree) => fetch (f tree) (.osError "")
  | _ => .error (.osError "")

/-- The root without an entry. -/
def Root.without (root : Root) (name : String) : Root :=
  root.deleteWhere fun key _ => decide (key = name)

/-- `mkdtemp`, of the last name it tries. -/
def makeStaging (staging : String) (root : Root) : Except StorageError (Unit × Root) :=
  match root.get? staging with
  | some _ => .error (.fileExistsError "No usable temporary directory name found")
  | none => .ok ((), root.insert staging (.directory Table.empty))

/-- `os.rename` of a directory, which may replace an empty one. -/
def renameDirectory (source target : String) (root : Root) : Except StorageError (Unit × Root) :=
  match root.get? source with
  | some (.directory tree) =>
    match root.get? target with
    | none => .ok ((), (root.without source).insert target (.directory tree))
    | some (.directory present) =>
      if present.rows.isEmpty then
        .ok ((), ((root.without source).without target).insert target (.directory tree))
      else .error (.osError "Directory not empty")
    | some .other => .error (.osError "Not a directory")
  | _ => .error (.osError "")

/-- `rmdir` of an entry of the root. -/
def removeEntry (name : String) (root : Root) : Except StorageError (Unit × Root) :=
  match root.get? name with
  | some (.directory tree) =>
    if tree.rows.isEmpty then .ok ((), root.without name)
    else .error (.osError "Directory not empty")
  | _ => .error (.osError "")

/-! ## Steps -/

/-- The calls of the file system, each with what tells it from the others of its kind. -/
inductive StoragePoint
  | exists (again : Bool)
  | mkdtemp
  | mkdir (relativePath : String) (directory : List String)
  | openFile (relativePath : String)
  | write (relativePath : String) (offset : Nat)
  | readBack (relativePath : String)
  | rename
  | scan (directory : List String)
  | unlink (path : List String)
  | rmdir (path : List String)
  | rmdirStaging
  | openRoot
  | close
deriving DecidableEq

/-- The calls of `_remove_staging_tree`. -/
def StoragePoint.isCleanup : StoragePoint → Bool
  | .scan _ => true
  | .unlink _ => true
  | .rmdir _ => true
  | .rmdirStaging => true
  | _ => false

/-- A program over the root. -/
abbrev Storage := Proc StoragePoint StorageError Root

section Staging

variable (staging : String)

/-- `parent.mkdir(parents=True, exist_ok=True)`, for the names after a directory. -/
def makeParents (relativePath : String) (directory : List String) : List String → Storage Unit
  | [] => pure ()
  | name :: names => do
    Proc.action (.mkdir relativePath (directory ++ [name]))
      (inDirectory staging (DirectoryTree.makeDirectory (directory ++ [name])))
    makeParents relativePath (directory ++ [name]) names

/-- The writing of bytes to an open file. A call that raises may have written any number of
them. -/
def writeBytes (relativePath : String) (path : List String) (offset : Nat) :
    Bytes → Storage Unit
  | [] => pure ()
  | byte :: bytes => do
    Proc.action (.write relativePath offset)
      (inDirectory staging (DirectoryTree.appendFile path byte))
    writeBytes relativePath path (offset + 1) bytes

/-- The body of the loop that stages the files. -/
def stageFile (file : String × Bytes) : Storage Unit := do
  let path := (PosixPath.ofText file.1).parts
  makeParents staging file.1 [] path.dropLast
  Proc.action (.openFile file.1) (inDirectory staging (DirectoryTree.createFile path))
  writeBytes staging file.1 path 0 file.2

/-- `(staging / relative_path).read_bytes()`, for every path. -/
def readBack : List (String × Bytes) → Storage (List (String × Bytes))
  | [] => pure []
  | file :: files => do
    let content ← Proc.read (.readBack file.1)
      (ofDirectory staging (DirectoryTree.readFile (PosixPath.ofText file.1).parts))
    let observed ← readBack files
    pure ((file.1, content) :: observed)

/-- The directories and the files that `os.walk` finds; it passes over a directory that it
cannot list. -/
def scanDirectory (directory : List String) :
    Storage (List (List String) × List (List String)) :=
  Proc.tryExcept (Proc.read (.scan directory)
    (ofDirectory staging fun tree => some (DirectoryTree.listing directory tree)))
    fun _ => pure ([], [])

/-- The loop of `_remove_staging_tree`, from the bottom up, for what is under a directory;
nothing is deeper than the depth. -/
def removeUnder : Nat → List String → Storage Unit
  | 0, _ => pure ()
  | depth + 1, directory => do
    let (directories, files) ← scanDirectory staging directory
    directories.forM (removeUnder depth)
    files.forM fun path =>
      Proc.action (.unlink path) (inDirectory staging (DirectoryTree.unlink path))
    directories.forM fun path =>
      Proc.action (.rmdir path) (inDirectory staging (DirectoryTree.removeDirectory path))

/-- `_remove_staging_tree` -/
def removeStagingTree (depth : Nat) : Storage Unit := do
  removeUnder staging depth []
  Proc.action .rmdirStaging (removeEntry staging)

end Staging

/-! ## Publication -/

/-- The depth of the paths of some files. -/
def depthOf (files : List (String × Bytes)) : Nat :=
  (files.map fun file => (PosixPath.ofText file.1).parts.length).foldr max 0

/-- `destination.exists() or destination.is_symlink()`; both are false where their call
raises. -/
def destinationExists (name : String) (again : Bool) : Storage Bool :=
  Proc.tryExcept (Proc.read (.exists again) fun root => .ok (root.get? name).isSome)
    fun _ => pure false

/-- A preparation whose destination exists. -/
def destinationTaken (name : String) : StorageError :=
  .fileExistsError ("preparation destination already exists: " ++ name)

/-- The receipt of the files that were read back. -/
def preparationReceipt (sha256 : Bytes → String) (name : String)
    (observed : List (String × Bytes)) : PreparationReceipt :=
  ⟨name, observed.map fun file => ⟨file.1, sha256 file.2⟩⟩

/-- The body of the `try` statement of `publish_preparation`. -/
def stageAndExpose (sha256 : Bytes → String) (staging name : String)
    (normalized : List (String × Bytes)) (validator : PreparationValidator) :
    Storage PreparationReceipt := do
  normalized.forM (stageFile staging)
  let observed ← readBack staging normalized
  Proc.ofExcept (require (observed = normalized)
    (.osError "preparation bytes changed while staging"))
  Proc.ofExcept (validator observed)
  let taken ← destinationExists name true
  Proc.ofExcept (require (taken = false) (destinationTaken name))
  Proc.action .rename (renameDirectory staging name)
  pure (preparationReceipt sha256 name observed)

/-- `publish_preparation`; `suffix` is what `mkdtemp` ends the name of the staging directory
with. -/
def publishPreparation (sha256 : Bytes → String) (root : RootPath) (name : String)
    (files : FileMapping) (validator : PreparationValidator) (suffix : String) :
    Storage PreparationReceipt := do
  Proc.ofExcept (validateRoot root)
  Proc.ofExcept (validateDestinationName name)
  let normalized ← Proc.ofExcept (validateFiles files)
  let taken ← destinationExists name false
  Proc.ofExcept (require (taken = false) (destinationTaken name))
  let staging := stagingPrefix ++ suffix
  Proc.action .mkdtemp (makeStaging staging)
  Proc.onRaise (stageAndExpose sha256 staging name normalized validator)
    (removeStagingTree staging (depthOf normalized))

/-- `publish_run_preparation`; `busy` is whether another publisher holds the lock. -/
def publishRunPreparation (sha256 : Bytes → String) (root : RootPath) (name : String)
    (files : FileMapping) (validator : PreparationValidator) (suffix : String) (busy : Bool) :
    Storage Unit := do
  let close : Storage Unit := Proc.action .close fun root => .ok ((), root)
  Proc.action .openRoot fun content =>
    if root.isDir ∧ ¬ root.isSymlink then .ok ((), content) else .error (.osError "")
  Proc.onRaise (do
    Proc.ofExcept (require (busy = false) (.runtimeError "run_publication_root_busy"))
    let _ ← publishPreparation sha256 root name files validator suffix
    pure ()) close
  close

end StockResearch.Preparation
