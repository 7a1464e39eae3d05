import ErSchema.Toml.Scalar
import ErSchema.Toml.Table
import ErSchema.Toml.Text

/-!
# TOML documents

The grammar of documents: lines that hold an entry, a header or nothing, each with a comment at its
end if one likes.  Within brackets and braces lines may be broken and comments may stand anywhere
between the parts, and a comma may follow the last part.

Values nest to a limited depth, and the depth that is left bounds the recursion of the reader.
-/

set_option autoImplicit false

namespace ErSchema.Toml

/-- How deep arrays and tables between braces may nest. -/
def nestingLimit : Nat := 80

/-- How many parts a dotted key may have. -/
def keyLimit : Nat := 80

/-- Whether a character may stand in a key without quotes. -/
def isBareKeyChar (c : Char) : Bool :=
  c.isAlphanum || c = '_' || c = '-'

/-- Whether a character may stand in a value without quotes.  A quote may, but not at its start. -/
def isScalarChar (c : Char) : Bool :=
  !(isBlank c || c = '\n' || c = '\r' || c = '#' || c = ',' || c = '[' || c = ']' || c = '{' ||
    c = '}' || c = '=')

/-- Whether a value without quotes may go on, after blanks, with a character. -/
def continuesScalar (c : Char) : Bool :=
  isScalarChar c && c ≠ '.' && c ≠ '"' && c ≠ '\''

namespace Reader

/-- Takes blanks. -/
def blanks : Reader Unit := do
  let _ ← takeWhile isBlank

/-- Takes a comment, if one comes next, up to the end of its line. -/
def comment : Reader Unit := do
  if ← accept ['#'] then
    let _ ← takeWhile isTextChar

/-- Takes blanks, comments and line ends. -/
def layout : Reader Unit :=
  loop (fun (_ : Unit) => do
    blanks
    comment
    if ← acceptNewline then return .inl () else return .inr ()) ()

/-- Takes the end of a line: blanks, a comment, and a line end or the end of the text. -/
def lineEnd : Reader Unit := do
  blanks
  comment
  unless (← acceptNewline) || (← peek).isNone do fail

/-- One part of a dotted key. -/
def keyPart : Reader Key := spanned do
  match ← lineText? with
  | some text => return text
  | none =>
    let name ← takeWhile isBareKeyChar
    if name.isEmpty then fail else return String.ofList name

/-- A dotted key: its parts before the last, and the last. -/
def dottedKey : Reader (List Key × Key) := do
  let ⟨parts, span⟩ ← spanned (loop (fun (read : List Key) => do
    let read := (← keyPart) :: read
    blanks
    if ← accept ['.'] then
      blanks
      return .inl read
    else
      return .inr read) [])
  if keyLimit < parts.length then throw (.keyTooLong span)
  match parts with
  | last :: before => return (before.reverse, last)
  | [] => fail

/-- A word without quotes.  It may hold blanks, as between a date and a time. -/
def word : Reader (List Char) :=
  loop (fun (read : List Char) => do
    let read := read ++ (← takeWhile isScalarChar)
    let rest := (← get).rest
    let blank := rest.takeWhile isBlank
    let goesOn := ((rest.drop blank.length).head?.map continuesScalar).getD false
    if !blank.isEmpty && goesOn then
      skip blank.length
      return .inl (read ++ blank)
    else
      return .inr read) []

/-- A truth value, number, date, time or quoted text. -/
def plainValue : Reader Value := do
  let ⟨text, span⟩ ← spanned anyText?
  match text with
  | some text => return .string span text
  | none =>
    let found ← spanned word
    if found.value.isEmpty then fail else scalar found

/-- The parts between an opening and a closing mark, after the opening one, separated by commas. -/
def separated {α : Type} (part : Reader α) (closing : List Char) : Reader (List α) :=
  loop (fun (read : List α) => do
    layout
    if ← accept closing then
      return .inr read.reverse
    else
      let read := (← part) :: read
      layout
      if ← accept [','] then
        return .inl read
      else
        expect closing
        return .inr read.reverse) []

/-- The items of an array, after its opening bracket. -/
def arrayItems (item : Reader Value) : Reader (List Value) :=
  separated item [']']

/-- An entry of a table between braces. -/
def bracedEntry (item : Reader Value) : Reader (List Key × Key × Value) := do
  let (path, key) ← dottedKey
  layout
  expect ['=']
  layout
  return (path, key, ← item)

/-- The entries of a table between braces, after its opening brace. -/
def bracedEntries (item : Reader Value) : Reader (List (List Key × Key × Value)) :=
  separated (bracedEntry item) ['}']

/-- A value with at most `depth` arrays and tables within one another. -/
def value : (depth : Nat) → Reader Value
  | 0 => do
    match ← peek with
    | some '[' | some '{' => throw (.nestedTooDeeply (← get).offset)
    | _ => plainValue
  | depth + 1 => do
    match ← peek with
    | some '[' =>
      let ⟨items, span⟩ ← spanned (skip 1 *> arrayItems (value depth))
      return .array span false items
    | some '{' =>
      let ⟨entries, span⟩ ← spanned (skip 1 *> bracedEntries (value depth))
      return .table span .braces (← Entries.ofBraces entries)
    | _ => plainValue

/-- A key between the brackets of a header. -/
def headerKey (opening closing : List Char) : Reader (Spanned (List Key × Key)) := spanned do
  expect opening
  blanks
  let key ← dottedKey
  blanks
  expect closing
  return key

/-- An expression. -/
def expression : Reader Expression := do
  if ← comes ['[', '['] then
    let ⟨(path, key), span⟩ ← headerKey ['[', '['] [']', ']']
    return .element path key span
  else if ← comes ['['] then
    let ⟨(path, key), span⟩ ← headerKey ['['] [']']
    return .table path key span
  else
    let (path, key) ← dottedKey
    blanks
    expect ['=']
    blanks
    return .entry path key (← value nestingLimit)

/-- Whether a line holds nothing but a comment. -/
def isEmptyLine : Reader Bool := do
  match ← peek with
  | none | some '\n' | some '\r' | some '#' => return true
  | some _ => return false

/-- The expressions of all lines. -/
def expressions : Reader (List Expression) :=
  loop (fun (read : List Expression) => do
    blanks
    if !(← isEmptyLine) then
      return .inl ((← expression <* lineEnd) :: read)
    else if (← peek).isNone then
      return .inr read.reverse
    else
      lineEnd
      return .inl read) []

end Reader

/-- The table that a source text describes.  A byte order mark at the start is skipped. -/
def parse (source : String) : Except SyntaxError Value := do
  let text := source.toList
  let start : Cursor := ⟨0, text⟩
  let start := if text.head? = some (Char.ofNat 0xFEFF) then start.drop 1 else start
  let (expressions, _) ← Reader.expressions.run start
  return .table ⟨0, 0⟩ .header (← Entries.ofExpressions expressions)

end ErSchema.Toml
