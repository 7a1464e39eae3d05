import ErSchema.FileSystem.Access
import ErSchema.Path

/-!
# A tree of files

Directories and files without links between paths.  A path is followed component by component from
the root or from the working directory, and everything it passes through must be a directory.
Writing makes or replaces one file in a directory that exists, or fails and changes nothing.

Every file may be read and written here, and there is always room for it: refusals for want of
permission or of space, and for a device that fails, are left out, as are links.
-/

set_option autoImplicit false

namespace ErSchema

/-- The names that lead from the root to a file or directory. -/
abbrev Location := List String

/-- What a location holds. -/
inductive Node where
  | directory
  | file (bytes : ByteArray)

/-- The files and directories below the root, and the location of the working directory. -/
structure FileTree where
  nodes : List (Location × Node)
  workingDirectory : Location

namespace FileTree

/-- What a location holds.  The root is a directory. -/
def node? (tree : FileTree) (location : Location) : Option Node :=
  if location.isEmpty then some .directory else tree.nodes.lookup location

/-- The longest component of a path, in bytes. -/
def componentLimit : Nat := 255

/-- The longest path, in bytes. -/
def pathLimit : Nat := 4095

/-- Follows components from a location.  Each of them must stand in a directory; the last need not
exist. -/
def walk (tree : FileTree) : Location → List String → Except FileError Location
  | here, [] => .ok here
  | here, name :: rest =>
    match tree.node? here with
    | none => .error .notFound
    | some (.file _) => .error .notADirectory
    | some .directory =>
      if name.utf8ByteSize > componentLimit then .error .nameTooLong
      else if name = "." then tree.walk here rest
      else if name = ".." then tree.walk here.dropLast rest
      else tree.walk (here ++ [name]) rest

/-- The location that a path denotes. -/
def locate (tree : FileTree) (path : String) : Except FileError Location :=
  if path.isEmpty then .error .notFound
  else if path.toList.contains (Char.ofNat 0) then .error .nulInPath
  else if path.utf8ByteSize > pathLimit then .error .nameTooLong
  else
    tree.walk (if Path.isAbsolute path then [] else tree.workingDirectory) (Path.components path)

/-- Whether a path denotes a file. -/
def isFile (tree : FileTree) (path : String) : Bool :=
  match tree.locate path with
  | .ok location =>
    match tree.node? location with
    | some (.file _) => true
    | _ => false
  | .error _ => false

/-- The text of a file. -/
def readText (tree : FileTree) (path : String) : Except FileError String := do
  match tree.node? (← tree.locate path) with
  | none => throw .notFound
  | some .directory => throw .isADirectory
  | some (.file bytes) =>
    match String.fromUTF8? bytes with
    | some text => return text
    | none => throw .notText

/-- The tree with a node at a location. -/
def put (tree : FileTree) (location : Location) (node : Node) : FileTree :=
  { tree with nodes := (location, node) :: tree.nodes.filter (·.1 ≠ location) }

/-- The tree with a file that holds some bytes. -/
def write (tree : FileTree) (path : String) (bytes : ByteArray) : Except FileError FileTree := do
  let location ← tree.locate path
  match tree.node? location with
  | some .directory => throw .isADirectory
  | _ => return tree.put location (.file bytes)

/-- Access to the files of a tree that is kept as a state. -/
def access : FileAccess (StateM FileTree) where
  isFile path := return (← get).isFile path
  readText path := return (← get).readText path
  write path bytes := do
    match (← get).write path bytes with
    | .ok tree =>
      set tree
      return .ok ()
    | .error error => return .error error

end FileTree

end ErSchema
