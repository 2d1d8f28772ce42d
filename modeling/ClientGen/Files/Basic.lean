import ClientGen.GenError

/-!
What the generator asks of a file system, and how it makes a directory with those above it that are
missing. Paths are texts with `/` between their parts.
-/

namespace ClientGen

class Files (m : Type → Type) where
  isPresent : String → m Bool
  isDirectory : String → m Bool
  read : String → m (Except IoFault ByteArray)
  /-- Makes one directory where nothing is yet. -/
  createDirectory : String → m (Except IoFault Unit)
  write : String → ByteArray → m (Except IoFault Unit)

namespace Path

def isAbsolute (path : String) : Bool := path.toList.head? = some '/'

/-- An absolute path stands for itself wherever it is joined. -/
def join (base path : String) : String :=
  if isAbsolute path || base = "" then path
  else if base.toList.getLast? = some '/' then base ++ path
  else base ++ "/" ++ path

def parts (path : String) : List String := (path.toList.splitOn '/').map String.ofList

/-- The parts, last first, of a path and of the paths above it. A part `.` counts only in front. -/
def upwards : List String → List (List String)
  | [] => []
  | part :: above =>
    if part = "" ∨ (part = "." ∧ above ≠ []) then upwards above
    else (part :: above) :: upwards above

def withAbove (path : String) : List String :=
  match upwards (parts path).reverse with
  | [] => []
  | _ :: above => path :: above.map fun parts => String.intercalate "/" parts.reverse

end Path

namespace Files

variable {m : Type → Type} [Monad m] [Files m]

def ensureDirectory (path : String) : m (Except IoFault Unit) := do
  match ← createDirectory path with
  | .error .alreadyExists =>
    if ← isDirectory path then pure (.ok ()) else pure (.error .alreadyExists)
  | result => pure result

/-- Goes up to the first directory that is there or can be made, and gives the paths below it,
uppermost first. -/
def missing? (below : List String) : List String → m (Except IoFault (List String))
  | [] => pure (.ok below)
  | path :: above => do
    match ← ensureDirectory path with
    | .ok () => pure (.ok below)
    | .error .notFound => missing? (path :: below) above
    | .error fault => pure (.error fault)

def ensureEach : List String → m (Except IoFault Unit)
  | [] => pure (.ok ())
  | path :: rest => do
    match ← ensureDirectory path with
    | .ok () => ensureEach rest
    | .error fault => pure (.error fault)

def createDirectories (path : String) : m (Except IoFault Unit) := do
  match ← missing? [] (Path.withAbove path) with
  | .ok paths => ensureEach paths
  | .error fault => pure (.error fault)

end Files

end ClientGen
