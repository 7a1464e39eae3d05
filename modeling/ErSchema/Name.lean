import ErSchema.Unicode.Alphanumeric
import ErSchema.Unicode.CaseMapping

/-!
# Names in a diagram

Names that people write become identifiers of nodes, so they are reduced to letters, digits and
underscores: alphanumeric characters are kept, a space or an underscore becomes an underscore, and
everything else is dropped.  Entities and relationships are written in capitals, attributes with a
capital at the start of every word.  Both reductions are defined for every text, and the result is
empty when nothing is left of it.
-/

set_option autoImplicit false

namespace ErSchema.Name

/-- Whether a character separates two words of a name. -/
def isSeparator (c : Char) : Bool :=
  c = ' ' || c = '_'

/-- What one character contributes to the name of an entity. -/
def entityChar (c : Char) : List Char :=
  if Unicode.isAlphanumeric c then Unicode.upper c
  else if isSeparator c then ['_']
  else []

/-- The name of an entity or a relationship: every letter in upper case. -/
def ofEntity (text : String) : String :=
  String.ofList (text.toList.flatMap entityChar)

/-- The characters of an attribute name, where `atStart` tells whether a word starts here.  A
dropped character does not start a word. -/
def attributeChars (atStart : Bool) : List Char → List Char
  | [] => []
  | c :: rest =>
    if Unicode.isAlphanumeric c then
      (if atStart then Unicode.upper c else Unicode.lower c) ++ attributeChars false rest
    else if isSeparator c then
      '_' :: attributeChars true rest
    else
      attributeChars atStart rest

/-- The name of an attribute: each word with a capital, all later letters in lower case. -/
def ofAttribute (text : String) : String :=
  String.ofList (attributeChars true text.toList)

end ErSchema.Name
