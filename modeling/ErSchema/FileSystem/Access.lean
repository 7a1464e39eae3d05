import ErSchema.FileSystem.Error

/-!
# Access to files

What a program may do with files, whatever holds them.  The operations run in a monad of the
holder's choice.
-/

set_option autoImplicit false

namespace ErSchema

/-- The operations on files. -/
structure FileAccess (m : Type → Type) where
  /-- Whether a path denotes a regular file. -/
  isFile : String → m Bool
  /-- The text of a file. -/
  readText : String → m (Except FileError String)
  /-- Makes a file hold some bytes. -/
  write : String → ByteArray → m (Except FileError Unit)

end ErSchema
