/-!
# Files

A tree of files and directories, seen from a working directory in it. A file is read or written
as a whole, and a refused write changes nothing. Apart from what its nodes forbid, a tree may refuse
any reading or writing for reasons of its own: a missing permission, a full disk.
-/

namespace TurtleGraphics.CommandLine

inductive FileError where
  | notFound
  | notDirectory
  | isDirectory
  | notText
  /-- Any other refusal, in the words of the system. -/
  | refused (reason : String)
  deriving DecidableEq, Repr

namespace FileError

def message : FileError → String
  | notFound => "No such file or directory (os error 2)"
  | notDirectory => "Not a directory (os error 20)"
  | isDirectory => "Is a directory (os error 21)"
  | notText => "stream did not contain valid UTF-8"
  | refused reason => reason

end FileError

def decodeText (content : ByteArray) : Except FileError String :=
  match String.fromUTF8? content with
  | some text => .ok text
  | none => .error .notText

inductive Node where
  | file (content : ByteArray)
  | directory

/-- A place in a tree: the names from there up to the root. -/
abbrev Location := List String

structure FileTree where
  workingDirectory : Location
  node : Location → Option Node
  /-- Why the file at a place cannot be read, in the words of the system. -/
  readRefusal : Location → Option String := fun _ => none
  /-- Why a content cannot be written to a place, in the words of the system. -/
  writeRefusal : Location → ByteArray → Option String := fun _ _ => none

/-- A path as it is written: names between slashes. Slashes in a row count as one. -/
structure Path where
  absolute : Bool
  /-- The names before the last one. -/
  parents : List String
  name : Option String
  /-- A slash follows the last name. -/
  trailingSlash : Bool
  deriving DecidableEq, Repr

namespace Path

def ofString (text : String) : Path :=
  let names := ((text.toList.splitOn '/').filter (· ≠ [])).map String.ofList
  ⟨text.toList.head? = some '/', names.dropLast, names.getLast?, text.toList.getLast? = some '/'⟩

end Path

namespace FileTree

def descend (tree : FileTree) (place : Location) : List String → Except FileError Location
  | [] => .ok place
  | "." :: names => tree.descend place names
  | ".." :: names => tree.descend place.tail names
  | name :: names =>
    match tree.node (name :: place) with
    | none => .error .notFound
    | some (.file _) => .error .notDirectory
    | some .directory => tree.descend (name :: place) names

def parent (tree : FileTree) (path : Path) : Except FileError Location :=
  tree.descend (if path.absolute then [] else tree.workingDirectory) path.parents

/-- Where the last name of `path` is, unless it names a directory by dots or not at all. -/
def locate? (tree : FileTree) (path : Path) : Except FileError (Option Location) :=
  match tree.parent path with
  | .error e => .error e
  | .ok place =>
    match path.name with
    | none => .ok none
    | some "." => .ok none
    | some ".." => .ok none
    | some name => .ok (some (name :: place))

def permit {α : Type} (refusal : Option String) (result : α) : Except FileError α :=
  match refusal with
  | some reason => .error (.refused reason)
  | none => .ok result

def readFile (tree : FileTree) (path : String) : Except FileError ByteArray :=
  let path := Path.ofString path
  match tree.locate? path with
  | .error e => .error e
  | .ok none => .error .isDirectory
  | .ok (some place) =>
    match tree.node place with
    | none => .error .notFound
    | some .directory => .error .isDirectory
    | some (.file content) =>
      if path.trailingSlash then .error .notDirectory
      else permit (tree.readRefusal place) content

def readText (tree : FileTree) (path : String) : Except FileError String :=
  match tree.readFile path with
  | .error e => .error e
  | .ok content => decodeText content

def put (tree : FileTree) (place : Location) (node : Node) : FileTree :=
  { tree with node := fun p => if p = place then some node else tree.node p }

def writeFile (tree : FileTree) (path : String) (content : ByteArray) :
    Except FileError FileTree :=
  let path := Path.ofString path
  match tree.locate? path with
  | .error e => .error e
  | .ok none => .error .isDirectory
  | .ok (some place) =>
    if path.trailingSlash then .error .isDirectory
    else
      match tree.node place with
      | some .directory => .error .isDirectory
      | some (.file _) | none =>
        permit (tree.writeRefusal place content) (tree.put place (.file content))

def fresh : FileTree where
  workingDirectory := ["work"]
  node place := if place = ["work"] then some .directory else none

def makeDirectory (tree : FileTree) (path : String) : FileTree :=
  let path := Path.ofString path
  (path.parents ++ path.name.toList).foldl
    (fun (tree, place) name => (tree.put (name :: place) .directory, name :: place))
    (tree, tree.workingDirectory) |>.1

end FileTree

end TurtleGraphics.CommandLine
