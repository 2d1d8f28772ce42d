import ClientGen.Files.Basic

/-!
A file system as a value: directories and files by the names that lead to them from the root.
-/

namespace ClientGen

inductive Node
  | directory
  | file (content : ByteArray)

structure FileTree where
  /-- The working directory, where relative paths start. -/
  home : List String
  /-- The first entry of a place counts. -/
  entries : List (List String × Node)

namespace FileTree

/-- The root is a directory whatever the entries say. -/
def node? (t : FileTree) (place : List String) : Option Node :=
  if place = [] then some .directory else t.entries.lookup place

def put (t : FileTree) (place : List String) (n : Node) : FileTree :=
  { t with entries := (place, n) :: t.entries }

theorem node?_put (t : FileTree) {place : List String} (h : place ≠ []) (n : Node)
    (other : List String) :
    (t.put place n).node? other = if other = place then some n else t.node? other := by
  by_cases e : other = place
  · subst e
    simp [node?, put, h]
  · have : (other == place) = false := by simpa using e
    simp [node?, put, List.lookup_cons, this, e]

def maxNameBytes : Nat := 255

def maxPathBytes : Nat := 4095

def walk (t : FileTree) (place : List String) : List String → Except IoFault (List String)
  | [] => .ok place
  | part :: rest =>
    match t.node? place with
    | none => .error .notFound
    | some (.file _) => .error .notDirectory
    | some .directory =>
      if part = "" ∨ part = "." then t.walk place rest
      else if part = ".." then t.walk place.dropLast rest
      else if maxNameBytes < part.utf8ByteSize then .error .nameTooLong
      else t.walk (place ++ [part]) rest

def locateParts (t : FileTree) (path : String) (parts : List String) :
    Except IoFault (List String) :=
  if path.toList.contains '\x00' then .error .nulInName
  else if path = "" then .error .notFound
  else if maxPathBytes < path.utf8ByteSize then .error .nameTooLong
  else t.walk (if Path.isAbsolute path then [] else t.home) parts

def locate (t : FileTree) (path : String) : Except IoFault (List String) :=
  t.locateParts path (Path.parts path)

def nodeAt? (t : FileTree) (path : String) : Option Node :=
  match t.locate path with
  | .ok place => t.node? place
  | .error _ => none

def isDirectory (t : FileTree) (path : String) : Bool :=
  match t.nodeAt? path with
  | some .directory => true
  | _ => false

def read (t : FileTree) (path : String) : Except IoFault ByteArray := do
  match t.node? (← t.locate path) with
  | some (.file content) => pure content
  | some .directory => throw .isDirectory
  | none => throw .notFound

def write (t : FileTree) (path : String) (content : ByteArray) : Except IoFault FileTree := do
  let place ← t.locate path
  match t.node? place with
  | some .directory => throw .isDirectory
  | _ => pure (t.put place (.file content))

/-- Slashes at the end of the path count for nothing. -/
def createDirectory (t : FileTree) (path : String) : Except IoFault FileTree := do
  let place ← t.locateParts path ((Path.parts path).reverse.dropWhile (· = "")).reverse
  match t.node? place with
  | some _ => throw .alreadyExists
  | none => pure (t.put place .directory)

def updating (update : FileTree → Except IoFault FileTree) :
    StateM FileTree (Except IoFault Unit) := do
  match update (← get) with
  | .ok t =>
    set t
    pure (.ok ())
  | .error e => pure (.error e)

instance : Files (StateM FileTree) where
  isPresent path := do pure ((← get).nodeAt? path).isSome
  isDirectory path := do pure ((← get).isDirectory path)
  read path := do pure ((← get).read path)
  createDirectory path := updating (·.createDirectory path)
  write path content := updating (·.write path content)

/-- The files below the working directory, by the path from there. -/
def files (t : FileTree) : List (String × ByteArray) :=
  t.entries.filterMap fun (place, _) =>
    match t.node? place with
    | some (.file content) =>
      if t.home.isPrefixOf place then
        some (String.intercalate "/" (place.drop t.home.length), content)
      else none
    | _ => none

/-- Puts a file and the directories above it below the working directory. -/
def withFile (t : FileTree) (path : String) (content : ByteArray) : FileTree :=
  let place := t.home ++ Path.parts path
  let above := (List.range place.length).map place.take
  (above.foldl (fun t p => if (t.node? p).isSome then t else t.put p .directory) t).put place
    (.file content)

end FileTree

end ClientGen
