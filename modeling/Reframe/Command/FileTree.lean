import Reframe.Bytes
import Reframe.IoError
import Reframe.Net.Address

/-
  This file defines the files that commands read and write,
  as a tree below the working directory.

  Key definitions include:
    * `FilePath`
    * `FilePath.step`
    * `FilePath.ways`
    * `FileTree`
    * `FileTree.resolve`
    * `FileTree.open?`
    * `FileTree.write`
    * `FileTree.createAlong`
    * `FileTree.createDirectories`
    * `FileTree.filesBeyond`
-/

namespace Reframe

------------------------------------------------------------
-- Paths
------------------------------------------------------------

/-
  A path: the names on the way from the working directory,
  dots among them, whether there is a slash at its end, and
  how many bytes it is written in.  A way that starts at the
  root has a slash for its first name.
-/
structure FilePath where
  names : List String
  isDirectory : Bool := false
  size : Nat
deriving DecidableEq, Repr

namespace FilePath

def ofText
    (s : String) : FilePath :=
  let parts :=
    (IpAddress.splitAt '/' s.toList).map String.ofList
  let start := if s.startsWith "/" then ["/"] else []
  { names := start ++ parts.filter (fun n => n ≠ "")
    isDirectory := decide (parts.getLast? = some "")
    size := s.utf8ByteSize }

/-
  Step from a place to a name.  One dot stays, and two dots
  lead back.
-/
def step
    (place : List String)
    (name : String) : List String :=
  if name = "." then place
  else if name ≠ ".." then place ++ [name]
  else if place = ["/"] then place
  else if place = [] ∨ place.getLast? = some ".." then
    place ++ [name]
  else place.dropLast

/- The places that names lead to, one after the other. -/
def places
    (place : List String) : List String → List (List String)
| [] => []
| name :: rest =>
    step place name :: places (step place name) rest

def textOf : List String → String
| "/" :: rest => "/" ++ "/".intercalate rest
| names => "/".intercalate names

/- The text of a name below a path. -/
def below
    (dir name : String) : String :=
  if dir = "" ∨ dir.endsWith "/" then dir ++ name
  else dir ++ "/" ++ name

/-
  The names on the way to a path without single dots, except
  for one at its end.
-/
def ways
    (p : FilePath) : List String :=
  p.names.filter (fun n => n ≠ ".")
    ++ if p.names.getLast? = some "." then ["."] else []

end FilePath

------------------------------------------------------------
-- Trees
------------------------------------------------------------

inductive FileNode where
| directory
| file (content : Bytes)
deriving DecidableEq, Repr

/-
  The files and directories below the working directory, by
  the texts that lead to them.
-/
abbrev FileTree :=
  List (String × FileNode)

namespace FileTree

/-
  What a text leads to on every host: a device that has no
  content.
-/
def hostNode? : String → Option FileNode
| "/dev" => some .directory
| "/dev/null" => some (.file [])
| _ => none

/-
  The node at a place.  The working directory and what lies
  above it are directories.
-/
def node?
    (t : FileTree)
    (place : List String) : Option FileNode :=
  if ∀ n ∈ place, n = ".." ∨ n = "/" then some .directory
  else
    let text := FilePath.textOf place
    match List.lookup text t with
    | some n => some n
    | none => hostNode? text

/- Put a node at a place, instead of the one there. -/
def put
    (t : FileTree)
    (place : List String)
    (n : FileNode) : FileTree :=
  let text := FilePath.textOf place
  t.filter (fun e => e.1 ≠ text) ++ [(text, n)]

------------------------------------------------------------
-- Ways
------------------------------------------------------------

def nameLimit : Nat :=
  255

/- The number of bytes that a path has to stay below. -/
def pathLimit : Nat :=
  4096

/-
  Walk from a place along names.  All places that the walk
  goes on from are directories.
-/
def walk
    (t : FileTree)
    (place : List String) :
    List String → Except IoError (List String)
| [] => .ok place
| name :: rest =>
    match t.node? place with
    | none => .error .noSuchFile
    | some (.file _) => .error .notADirectory
    | some .directory =>
        if nameLimit < name.utf8ByteSize then
          .error .nameTooLong
        else t.walk (FilePath.step place name) rest

def resolve
    (t : FileTree)
    (p : FilePath) : Except IoError (List String) :=
  if p.size = 0 then .error .noSuchFile
  else if pathLimit ≤ p.size then .error .nameTooLong
  else t.walk [] p.names

------------------------------------------------------------
-- Reading And Writing
------------------------------------------------------------

/- The place that a path leads to, and what is there. -/
def open?
    (t : FileTree)
    (p : FilePath) :
    Except IoError (List String × FileNode) :=
  match t.resolve p with
  | .error e => .error e
  | .ok place =>
      match t.node? place with
      | none => .error .noSuchFile
      | some .directory => .ok (place, .directory)
      | some (.file content) =>
          if p.isDirectory then .error .notADirectory
          else .ok (place, .file content)

def read
    (t : FileTree)
    (p : FilePath) : Except IoError Bytes :=
  match t.open? p with
  | .error e => .error e
  | .ok (_, .directory) => .error .isADirectory
  | .ok (_, .file content) => .ok content

/- Write a file into a directory that is there. -/
def write
    (t : FileTree)
    (p : FilePath)
    (content : Bytes) : Except IoError FileTree :=
  match t.resolve p with
  | .error e => .error e
  | .ok place =>
      match t.node? place with
      | some .directory => .error .isADirectory
      | some (.file _) =>
          if p.isDirectory then .error .notADirectory
          else .ok (t.put place (.file content))
      | none =>
          if p.isDirectory then .error .isADirectory
          else .ok (t.put place (.file content))

------------------------------------------------------------
-- Directories
------------------------------------------------------------

/-
  Create the directories that are missing along names, going
  on from the place of a directory.  If the last name is a
  dot, what it is the dot of has to be there.  A file in the
  way is said to exist if it is the last one, or if some
  directory was created before it was met.
-/
def createAlong
    (t : FileTree)
    (place : List String)
    (created : Bool) :
    List String → Except IoError Unit × FileTree
| [] => (.ok (), t)
| name :: rest =>
    let next := FilePath.step place name
    if nameLimit < name.utf8ByteSize then
      (.error .nameTooLong, t)
    else
      match t.node? next with
      | some .directory => t.createAlong next created rest
      | some (.file _) =>
          if rest = [] ∨ (created ∧ rest ≠ ["."]) then
            (.error .fileExists, t)
          else (.error .notADirectory, t)
      | none =>
          if rest = ["."] then (.error .noSuchFile, t)
          else
            (t.put next .directory).createAlong next true rest

/-
  Create a directory and all on the way to it.  What was
  created before a failure stays.
-/
def createDirectories
    (t : FileTree)
    (p : FilePath) : Except IoError Unit × FileTree :=
  if p.size = 0 then (.ok (), t)
  else if pathLimit ≤ p.size then (.error .nameTooLong, t)
  else t.createAlong [] false p.ways

------------------------------------------------------------
-- Sets Of Files
------------------------------------------------------------

def addFile
    (t : FileTree)
    (p : FilePath)
    (content : Bytes) : FileTree :=
  (t.createAlong [] false p.ways.dropLast).2.put
    (p.names.foldl FilePath.step []) (.file content)

def ofFiles
    (fs : List (String × Bytes)) : FileTree :=
  fs.foldl (fun t f => t.addFile (.ofText f.1) f.2) []

/- The nodes that another tree does not have. -/
def beyond
    (t other : FileTree) : FileTree :=
  t.filter (fun e => e ∉ other)

/- A text leads below the working directory. -/
def IsInside
    (s : String) : Prop :=
  ¬ s.startsWith "/" ∧ ¬ s.startsWith "../"

instance
    (s : String) :
    Decidable (IsInside s) := by
  unfold IsInside
  infer_instance

def files
    (t : FileTree) : List (String × Bytes) :=
  t.filterMap (fun e =>
    match e.2 with
    | .directory => none
    | .file content =>
        if IsInside e.1 then some (e.1, content) else none)

/- The files whose names no file of another tree has. -/
def filesBeyond
    (t other : FileTree) : List (String × Bytes) :=
  t.files.filter
    (fun f => f.1 ∉ other.files.map Prod.fst)

end FileTree

end Reframe
