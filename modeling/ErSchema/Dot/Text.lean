/-!
# Text in DOT

A DOT file writes a text between double quotes.  Inside them a double quote and a backslash are
preceded by a backslash, a newline is written as a backslash and the letter n, and a carriage return
is left out.  A word of ASCII letters, digits and underscores needs no quotes.
-/

set_option autoImplicit false

namespace ErSchema.Dot

/-- One character between double quotes. -/
def escapeChar (c : Char) : List Char :=
  if c = '"' then ['\\', '"']
  else if c = '\\' then ['\\', '\\']
  else if c = '\n' then ['\\', 'n']
  else if c = '\r' then []
  else [c]

/-- A text as it stands between double quotes. -/
def escape (text : String) : String :=
  String.ofList (text.toList.flatMap escapeChar)

/-- A text with its double quotes. -/
def quote (text : String) : String :=
  "\"" ++ escape text ++ "\""

/-- Whether a character may stand in a word without quotes. -/
def isWordChar (c : Char) : Bool :=
  c.isAlphanum || c = '_'

/-- Whether a text is written without quotes. -/
def isWord (text : String) : Bool :=
  !text.isEmpty && text.toList.all isWordChar

end ErSchema.Dot
