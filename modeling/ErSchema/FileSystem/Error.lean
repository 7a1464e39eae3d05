/-!
# File errors

Why a file cannot be read or written, with the wording and the number under which the operating
system reports it.
-/

set_option autoImplicit false

namespace ErSchema

/-- A failed file operation. -/
inductive FileError where
  | notFound
  | notADirectory
  | isADirectory
  | nameTooLong
  /-- A path with a character that ends texts for the operating system. -/
  | nulInPath
  /-- A file that does not hold text. -/
  | notText
  /-- Any other failure, in the words of the operating system. -/
  | other (message : String)
  deriving DecidableEq, Repr

/-- The wording of a file error. -/
def FileError.message : FileError → String
  | .notFound => "No such file or directory (os error 2)"
  | .notADirectory => "Not a directory (os error 20)"
  | .isADirectory => "Is a directory (os error 21)"
  | .nameTooLong => "File name too long (os error 36)"
  | .nulInPath => "file name contained an unexpected NUL byte"
  | .notText => "stream did not contain valid UTF-8"
  | .other message => message

end ErSchema
