import OperatorConsole.Text.Utf8

/-!
# Files

The part of a file system that the console touches: directories and files by
path, and the faults that opening, reading and creating them can have.  A path
is walked part by part, so a fault depends on the first thing on it that is
missing or is not a directory, even where the path turns back later on.
-/

namespace OperatorConsole

/-- Why the system refuses an operation on a file. -/
inductive FileFault where
  | notFound
  | alreadyExists
  | notDirectory
  | isDirectory
  | nameTooLong
  | notUtf8
deriving DecidableEq, Repr

def FileFault.message : FileFault → String
  | .notFound => "No such file or directory (os error 2)"
  | .alreadyExists => "File exists (os error 17)"
  | .notDirectory => "Not a directory (os error 20)"
  | .isDirectory => "Is a directory (os error 21)"
  | .nameTooLong => "File name too long (os error 36)"
  | .notUtf8 => "stream did not contain valid UTF-8"

/-! ## Paths -/

namespace FilePath

/-- The parts of a path between slashes. -/
def components (path : String) : List String :=
  ((path.toList.splitOn '/').filter (· != [])).map String.ofList

/-- Go from one place to another by one part of a path. -/
def enter (place : List String) (part : String) : List String :=
  if part = "." then place
  else if part = ".." then place.dropLast
  else place ++ [part]

/-- The directories and the name that a path comes down to. -/
def parts (path : String) : List String :=
  (components path).foldl enter []

/-- Whether a slash ends a path. -/
def endsInSlash (path : String) : Bool :=
  path.toList.getLast? == some '/'

/-- Drop the parts that say nothing, given last part first, from the end of a
path.  A dot in front of a path says something. -/
def dropIdle : List (List Char) → List (List Char)
  | [] => []
  | part :: before =>
      if part = [] ∨ part = ['.'] ∧ before ≠ [] then dropIdle before
      else part :: before

/-- The path without its last part, or `none` when there is nothing to take
off.  The parent of a lone name is the empty path. -/
def parent? (path : String) : Option String :=
  let absolute := path.toList.head? = some '/'
  match dropIdle (path.toList.splitOn '/').reverse with
  | [] => none
  | _ :: before =>
      match dropIdle before with
      | [] => some (if absolute then "/" else "")
      | kept =>
          some (String.ofList (List.intercalate ['/'] kept.reverse))

/-- A path and those that lead to it, at most so many, innermost first. -/
def ancestors : Nat → String → List String
  | 0, _ => []
  | fuel + 1, path =>
      match parent? path with
      | none => []
      | some outer => path :: ancestors fuel outer

/-- A name inside a directory. -/
def join (directory name : String) : String :=
  if directory = "" then name
  else if directory.toList.getLast? = some '/' then directory ++ name
  else directory ++ "/" ++ name

end FilePath

inductive FileNode where
  | directory
  | file (bytes : List UInt8)
deriving DecidableEq, Repr

/-- Files and directories by the parts of their paths.  The root is always
there. -/
structure Files where
  nodes : List (List String × FileNode)
deriving DecidableEq, Repr

namespace Files

def empty : Files := ⟨[]⟩

def node? (files : Files) (parts : List String) : Option FileNode :=
  if parts = [] then some .directory
  else (files.nodes.find? fun entry => entry.1 == parts).map (·.2)

def isDirectory (files : Files) (parts : List String) : Bool :=
  files.node? parts == some .directory

def set (files : Files) (parts : List String) (node : FileNode) : Files :=
  ⟨(parts, node) :: files.nodes.filter fun entry => entry.1 != parts⟩

/-- Bytes that a name may have. -/
def longestName : Nat := 255

/-- Bytes that a path may have. -/
def longestPath : Nat := 4095

/-- Where a path ends. -/
inductive Spot where
  | directory (place : List String)
  /-- A name in a directory.  If a slash follows, it must be one of a directory
  too. -/
  | name (place : List String) (slash : Bool)
deriving DecidableEq, Repr

/-- What stands at the place of a name in a directory. -/
def lookUp (files : Files) (place : List String) :
    Except FileFault (Option FileNode) :=
  if longestName < (place.getLastD "").utf8ByteSize then .error .nameTooLong
  else .ok (files.node? place)

/-- Go on to a directory. -/
def enter (files : Files) (place : List String) (part : String) :
    Except FileFault (List String) := do
  let next := FilePath.enter place part
  match ← files.lookUp next with
  | some .directory => .ok next
  | some (.file _) => .error .notDirectory
  | none => .error .notFound

def isDots (part : String) : Bool :=
  part == "." || part == ".."

/-- Walk the parts of a path. -/
def walk (files : Files) (slash : Bool) (place : List String) :
    List String → Except FileFault Spot
  | [] => .ok (.directory place)
  | [part] =>
      let last := FilePath.enter place part
      .ok (if isDots part then .directory last else .name last slash)
  | part :: next :: rest => do
      files.walk slash (← files.enter place part) (next :: rest)

/-- Walk a path. -/
def spot (files : Files) (path : String) : Except FileFault Spot :=
  if path = "" then .error .notFound
  else if longestPath < path.utf8ByteSize then .error .nameTooLong
  else
    files.walk (FilePath.endsInSlash path) [] (FilePath.components path)

/-- The bytes of a file. -/
def readBytes (files : Files) (path : String) :
    Except FileFault (List UInt8) := do
  match ← files.spot path with
  | .directory _ => .error .isDirectory
  | .name place slash =>
      match ← files.lookUp place with
      | some (.file bytes) =>
          if slash then .error .notDirectory else .ok bytes
      | some .directory => .error .isDirectory
      | none => .error .notFound

/-- The text of a file. -/
def readText (files : Files) (path : String) : Except FileFault String := do
  match Text.Utf8.decode? (← files.readBytes path) with
  | some cs => .ok (String.ofList cs)
  | none => .error .notUtf8

/-- The place of a file that may be written or made, and what stands there. -/
def filePlace (files : Files) (path : String) :
    Except FileFault (List String × Option FileNode) := do
  match ← files.spot path with
  | .directory _ | .name _ true => .error .isDirectory
  | .name place false =>
      match ← files.lookUp place with
      | some .directory => .error .isDirectory
      | node => .ok (place, node)

/-- Write a file in a directory that is there. -/
def write (files : Files) (path text : String) : Except FileFault Files := do
  let (place, _) ← files.filePlace path
  return files.set place (.file (Text.Utf8.encode text.toList))

/-- Open a file for appending, which makes an empty one if there is none. -/
def openAppend (files : Files) (path : String) : Except FileFault Files := do
  match ← files.filePlace path with
  | (_, some _) => return files
  | (place, none) => return files.set place (.file [])

/-- Make a directory. -/
def makeDirectory (files : Files) (path : String) :
    Except FileFault Files := do
  match ← files.spot path with
  | .directory _ => .error .alreadyExists
  | .name place _ =>
      match ← files.lookUp place with
      | some _ => .error .alreadyExists
      | none => .ok (files.set place .directory)

/-- Whether a path leads to a directory. -/
def hasDirectory (files : Files) (path : String) : Bool :=
  match files.spot path with
  | .ok (.directory _) => true
  | .ok (.name place _) => files.isDirectory place
  | .error _ => false

/-- Make a directory, unless it is there. -/
def ensureDirectory (files : Files) (path : String) :
    Except FileFault Unit × Files :=
  match files.makeDirectory path with
  | .ok made => (.ok (), made)
  | .error fault =>
      (if files.hasDirectory path then .ok () else .error fault, files)

/-- Make the first of some directories, and the others before if one is missing
on the way.  Those that were made stay if a later one cannot be made. -/
def ensureDirectories (files : Files) : List String →
    Except FileFault Unit × Files
  | [] => (.ok (), files)
  | path :: outer =>
      match files.ensureDirectory path with
      | (.error .notFound, _) =>
          match files.ensureDirectories outer with
          | (.ok (), made) => made.ensureDirectory path
          | failed => failed
      | done => done

/-- Make a directory and those that lead to it. -/
def createDirectories (files : Files) (path : String) :
    Except FileFault Unit × Files :=
  files.ensureDirectories (FilePath.ancestors (path.length + 1) path)

/-- Make the directory that a file is in, if its path names one.  `trouble` says
what it means that it cannot be made. -/
def createParent {ε : Type} (files : Files) (path : String)
    (trouble : String → FileFault → ε) : Except ε Unit × Files :=
  match FilePath.parent? path with
  | none => (.ok (), files)
  | some directory =>
      let (result, files) := files.createDirectories directory
      (result.mapError (trouble directory), files)

end Files

end OperatorConsole
