import Lexis.Text.Offset

/-!
# File trees

A file tree is what a path is looked up in: directories that hold named files
and directories.  A path is walked from left to right, a name at a time, and
the first thing that is wrong on the way is the fault.

* A name can be looked up only in a directory, and `.` and an empty name stay
  there.  So a slash at the end asks for a directory.
* `..` goes to the directory above; the root is above itself.
* Names and paths have a greatest length.

A source file is read as UTF-8, and a byte order mark is part of its text.
-/

namespace Lexis

/-! ## Faults -/

/-- Why a file cannot be read. -/
inductive ReadFault where
  | nulInPath
  | notFound
  | nameTooLong
  | notADirectory
  | isADirectory
  | permissionDenied
  | invalidUtf8
  /-- Any other reason, in the words of the system. -/
  | other (reason : String)
  deriving DecidableEq

namespace ReadFault

/-- What a user is told about a file that cannot be read. -/
def message (path : String) : ReadFault → String
  | notFound => "cannot find file '" ++ path ++ "'"
  | permissionDenied => "permission denied reading '" ++ path ++ "'"
  | invalidUtf8 => "'" ++ path ++ "' contains invalid UTF-8 data"
  | nulInPath => because "file name contained an unexpected NUL byte"
  | isADirectory => because "Is a directory (os error 21)"
  | notADirectory => because "Not a directory (os error 20)"
  | nameTooLong => because "File name too long (os error 36)"
  | other reason => because reason
where
  because (reason : String) : String :=
    "error reading '" ++ path ++ "': " ++ reason

end ReadFault

/-! ## Trees -/

/-- A file or a directory. -/
inductive FileTree where
  | file (content : ByteArray) (readable : Bool)
  | directory (entries : List (String × FileTree))

namespace FileTree

/-- The empty directory. -/
def empty : FileTree :=
  directory []

/-- The entries of a directory; a file has none. -/
def entries : FileTree → List (String × FileTree)
  | file _ _ => []
  | directory entries => entries

/-- A directory with an entry put in place of any other of its name. -/
def withChild (tree : FileTree) (name : String) (entry : FileTree) : FileTree :=
  directory ((name, entry) :: tree.entries.filter (·.1 != name))

/-- What is in a place after something has been put there.  A directory stays
as it is when it is made again, a file that can be opened gets other contents,
and nothing takes the place of a thing of the other kind. -/
def replaced? (entry : FileTree) : FileTree → Option FileTree
  | directory entries =>
      match entry with
      | directory _ => some (directory entries)
      | file _ _ => none
  | file _ readable =>
      match entry with
      | file _ _ => if readable then some entry else none
      | directory _ => none

/-- Put an entry at the end of a list of names, unless something is in the way.
Directories on the way are made where there are none. -/
def insert? (tree entry : FileTree) : List String → Option FileTree
  | [] => replaced? entry tree
  | name :: rest =>
      match tree with
      | file _ _ => none
      | directory entries =>
          match entries.lookup name with
          | some inner => (inner.insert? entry rest).map (tree.withChild name)
          | none =>
              some (tree.withChild name
                (rest.foldr (fun name inner => directory [(name, inner)]) entry))

/-! ## Paths -/

/-- The greatest number of bytes in a name. -/
def longestName : Nat := 255

/-- The greatest number of bytes in a path. -/
def longestPath : Nat := 4095

/-- The names of a path, in order. -/
def pathNames (path : String) : List String :=
  Text.pieces '/' path

/-- Whether a name stays where it is looked up. -/
def staysPut (name : String) : Bool :=
  name.isEmpty || name == "."

/-- Put an entry where a path leads from a directory, of which the names are
`here`.  Going up from a directory makes it, too. -/
def insertFrom? (tree entry : FileTree) (here : List String) : List String → Option FileTree
  | [] => tree.insert? entry here
  | name :: rest =>
      if staysPut name then tree.insertFrom? entry here rest
      else if name = ".." then do
        (← tree.insert? empty here).insertFrom? entry here.dropLast rest
      else tree.insertFrom? entry (here ++ [name]) rest

/-- Walk a list of names from a tree, with the directories above it, the
nearest first. -/
def walk (tree : FileTree) (above : List FileTree) : List String → Except ReadFault FileTree
  | [] => .ok tree
  | name :: rest =>
      match tree with
      | file _ _ => .error .notADirectory
      | directory entries =>
          if staysPut name then tree.walk above rest
          else if name = ".." then
            match above with
            | [] => tree.walk [] rest
            | parent :: further => parent.walk further rest
          else if longestName < name.utf8ByteSize then .error .nameTooLong
          else
            match entries.lookup name with
            | none => .error .notFound
            | some entry => entry.walk (tree :: above) rest

/-- Look a path up, from the root if it begins with a slash and from the
working directory if not. -/
def resolve (root : FileTree) (workingDirectory : List String) (path : String) :
    Except ReadFault FileTree :=
  if path.toList.contains '\x00' then .error .nulInPath
  else if path.isEmpty then .error .notFound
  else if longestPath < path.utf8ByteSize then .error .nameTooLong
  else if path.toList.head? = some '/' then root.walk [] (pathNames path)
  else root.walk [] (workingDirectory ++ pathNames path)

/-! ## Reading -/

/-- The text of some bytes. -/
def decode (bytes : ByteArray) : Except ReadFault String :=
  match String.fromUTF8? bytes with
  | some text => .ok text
  | none => .error .invalidUtf8

/-- The text of a file. -/
def text : FileTree → Except ReadFault String
  | directory _ => .error .isADirectory
  | file _ false => .error .permissionDenied
  | file content true => decode content

/-- The text of the file at a path. -/
def read (root : FileTree) (workingDirectory : List String) (path : String) :
    Except ReadFault String := do
  (← root.resolve workingDirectory path).text

end FileTree

end Lexis
