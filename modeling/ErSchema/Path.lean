/-!
# File paths

A path is a text whose components are separated by slashes.  Several slashes in a row separate like
one, and a component that is a single dot is ignored unless it comes first.  The file name of a path
is its last component, except that a dot or two dots name no file.
-/

set_option autoImplicit false

namespace ErSchema.Path

/-- A path split into what comes before its last component, that component, and the slashes and dots
after it that are ignored. -/
structure Split where
  parent : List Char
  last : List Char
  ignored : List Char
  deriving DecidableEq, Repr

/-- The length of the slashes and ignored dots at the end of a path, given in reverse. -/
def ignoredLength : List Char → Nat
  | '/' :: rest => ignoredLength rest + 1
  | '.' :: '/' :: rest => ignoredLength rest + 2
  | _ => 0

/-- The parts of a path.  Put together again they are the path. -/
def split (path : String) : Split :=
  let reversed := path.toList.reverse
  let ignored := ignoredLength reversed
  let kept := reversed.drop ignored
  let last := kept.takeWhile (· ≠ '/')
  ⟨(kept.drop last.length).reverse, last.reverse, (reversed.take ignored).reverse⟩

/-- The file name of a path. -/
def fileName? (path : String) : Option String :=
  let last := (split path).last
  if last = [] ∨ last = ['.'] ∨ last = ['.', '.'] then none else some (String.ofList last)

/-- A file name before and after its last dot.  A dot at the start does not count. -/
def splitName (name : List Char) : List Char × Option (List Char) :=
  let extension := (name.reverse.takeWhile (· ≠ '.')).reverse
  let stem := name.take (name.length - extension.length - 1)
  if extension.length = name.length ∨ stem.isEmpty then (name, none) else (stem, some extension)

/-- The path with another extension in place of what follows the stem of its file name.  A path
without a file name stays as it is.  When the stem is a single dot, taking its extension away
leaves two dots, which name no file, so the path ends there; this does not happen when slashes
follow the name. -/
def withExtension (path extension : String) : String :=
  let parts := split path
  let (stem, current) := splitName parts.last
  if (fileName? path).isNone then path
  else if stem = ['.'] ∧ current.isSome ∧ parts.ignored = [] then
    String.ofList (parts.parent ++ ['.', '.'])
  else
    String.ofList (parts.parent ++ stem) ++ (if extension.isEmpty then "" else "." ++ extension)

/-- The path of the directory that holds the last component of a path. -/
def parent (path : String) : String :=
  let before := (split path).parent.reverse
  let kept := before.drop (ignoredLength before)
  String.ofList (if kept.isEmpty then before.take 1 else kept.reverse)

/-- Whether a path starts at the root. -/
def isAbsolute (path : String) : Bool :=
  path.toList.head? == some '/'

/-- Whether nothing follows the last slash of a path. -/
def endsWithSlash (path : String) : Bool :=
  path.toList.getLast? == some '/'

/-- A path inside a directory.  An absolute path is not inside of anything. -/
def join (directory path : String) : String :=
  if isAbsolute path then path
  else if directory.isEmpty || endsWithSlash directory then directory ++ path
  else directory ++ "/" ++ path

/-- The path with another file name. -/
def withFileName (path name : String) : String :=
  join (if (fileName? path).isSome then parent path else path) name

/-- The names between the slashes of a path. -/
def names (path : List Char) : List String :=
  ((path.splitOn '/').filter fun name => !name.isEmpty).map String.ofList

/-- The components of a path, one after the other.  A slash at the end counts as a dot, because
such a path denotes a directory. -/
def components (path : String) : List String :=
  if endsWithSlash path then names path.toList ++ ["."] else names path.toList

end ErSchema.Path
