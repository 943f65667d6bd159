import NodeAudit.Entries
import NodeAudit.Text.Parts

/-!
# Files

A file system: directories of entries, each a file or a directory. A path leads from the working
directory, or from the outermost one if it begins with a slash; the outermost directory is also the
one around itself. Writing a file creates it or takes the place of what it held; it fails, and
changes nothing, if a part of the path is missing or no directory.
-/

namespace NodeAudit

/-- Why a file could not be read or written. -/
inductive FileError where
  | notFound
  | notDirectory
  | isDirectory
  | nameTooLong
  | invalidName
  | invalidText
deriving DecidableEq, Repr

/-- The error in words. -/
def FileError.message : FileError → String
  | notFound => "No such file or directory (os error 2)"
  | notDirectory => "Not a directory (os error 20)"
  | isDirectory => "Is a directory (os error 21)"
  | nameTooLong => "File name too long (os error 36)"
  | invalidName => "file name contained an unexpected NUL byte"
  | invalidText => "stream did not contain valid UTF-8"

namespace Files

/-- A file with its text, a file that holds none, or a directory. -/
inductive Node where
  | file (text : String)
  | binary
  | directory
deriving DecidableEq, Repr

/-- The files and directories below the outermost directory, by the names that lead to them with
slashes between the names, and the working directory. -/
structure Tree where
  nodes : Entries Node := []
  here : List String := []
deriving DecidableEq, Repr

/-- How many bytes a name may have. -/
def maxName : Nat := 255

/-- How many bytes a path may have, with the one that ends it. -/
def maxPath : Nat := 4096

/-- The parts of a path. -/
def parts (path : String) : List String :=
  ((Text.parts (· == '/') path.toList).map String.ofList).filter (· != "")

/-- The path of names. -/
def joined (place : List String) : String := String.intercalate "/" place

/-- The path can only be that of a directory. -/
def endsInSlash (path : String) : Bool := path.toList.getLast? == some '/'

namespace Tree

/-- What is at a place, given by the names that lead to it. -/
def node? (t : Tree) (place : List String) : Option Node :=
  if place.isEmpty then some .directory else t.nodes.get? (joined place)

/-- Follow the parts of a path from a place. Every part but the last must lead to a directory. -/
def follow (t : Tree) : List String → List String → Except FileError (List String)
  | place, [] => .ok place
  | place, part :: rest =>
    match t.node? place with
    | none => .error .notFound
    | some (.file _) | some .binary => .error .notDirectory
    | some .directory =>
      if part = "." then t.follow place rest
      else if part = ".." then t.follow place.dropLast rest
      else if maxName < part.utf8ByteSize then .error .nameTooLong
      else t.follow (place ++ [part]) rest

/-- The place that a path names. -/
def place (t : Tree) (path : String) : Except FileError (List String) :=
  if path.toList.contains '\x00' then .error .invalidName
  else if path = "" then .error .notFound
  else if maxPath ≤ path.utf8ByteSize then .error .nameTooLong
  else t.follow (if path.toList.head? = some '/' then [] else t.here) (parts path)

/-- The text of a file. -/
def read (t : Tree) (path : String) : Except FileError String := do
  let place ← t.place path
  match t.node? place with
  | none => throw .notFound
  | some .directory => throw .isDirectory
  | some .binary => throw (if endsInSlash path then .notDirectory else .invalidText)
  | some (.file text) => if endsInSlash path then throw .notDirectory else return text

/-- The text of the file with the name in the working directory, or else in the nearest directory
around it that has such a file. -/
def readUpward? (t : Tree) (name : String) : Option String :=
  (List.range (t.here.length + 1)).reverse.findSome? fun n =>
    match t.node? (t.here.take n ++ [name]) with
    | some (.file text) => some text
    | _ => none

/-- Write a file. -/
def write (t : Tree) (path text : String) : Except FileError Tree := do
  let place ← t.place path
  match t.node? place with
  | some .directory => throw .isDirectory
  | some (.file _) | some .binary => if endsInSlash path then throw .notDirectory
  | none => if endsInSlash path then throw .isDirectory
  return { t with nodes := t.nodes.insert (joined place) (.file text) }

/-! ## Building trees -/

/-- The tree with directories from a place on, each in the one before. -/
def addDirectories (t : Tree) (place : List String) : List String → Tree
  | [] => t
  | name :: rest =>
    let place := place ++ [name]
    addDirectories { t with nodes := t.nodes.insert (joined place) .directory } place rest

/-- The tree with a file or directory in the working directory, and with all directories around
it. -/
def add (t : Tree) (path : String) (node : Node) : Tree :=
  let place := t.here ++ parts path
  let t := t.addDirectories [] place.dropLast
  { t with nodes := t.nodes.insert (joined place) node }

/-- The tree with some files and directories in the working directory. -/
def ofList (here : List String) (nodes : List (String × Node)) : Tree :=
  nodes.foldl (fun t (path, node) => t.add path node) (addDirectories { here } [] here)

end Tree

end Files

end NodeAudit
