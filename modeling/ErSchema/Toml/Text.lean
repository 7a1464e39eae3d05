import ErSchema.Toml.Cursor

/-!
# Quoted text in TOML

A text is written in one of four ways: between double quotes with escapes, between single quotes
without, and each of these on several lines between threefold quotes.  Control characters other than
the tab must be escaped.
-/

set_option autoImplicit false

namespace ErSchema.Toml

/-- Whether a character may stand for itself within a line. -/
def isTextChar (c : Char) : Bool :=
  c = '\t' || (0x20 ≤ c.toNat && c.toNat ≠ 0x7F)

/-- Whether a character is a space or a tab. -/
def isBlank (c : Char) : Bool :=
  c = ' ' || c = '\t'

/-- The value of a hexadecimal digit. -/
def hexDigit? (c : Char) : Option Nat :=
  if c.isDigit then some (c.toNat - '0'.toNat)
  else if 'a' ≤ c ∧ c ≤ 'f' then some (c.toNat - 'a'.toNat + 10)
  else if 'A' ≤ c ∧ c ≤ 'F' then some (c.toNat - 'A'.toNat + 10)
  else none

/-- The character whose code point is written by the first `count` hexadecimal digits of a text. -/
def hexChar? (count : Nat) (text : List Char) : Option Char := do
  let digits ← (text.take count).mapM hexDigit?
  let code := digits.foldl (fun value digit => 16 * value + digit) 0
  if digits.length = count ∧ code.isValidChar then some (Char.ofNat code) else none

/-- The character that an escape stands for, and the number of characters after the backslash. -/
def escape? : List Char → Option (Char × Nat)
  | 'b' :: _ => some (Char.ofNat 0x08, 1)
  | 't' :: _ => some ('\t', 1)
  | 'n' :: _ => some ('\n', 1)
  | 'f' :: _ => some (Char.ofNat 0x0C, 1)
  | 'r' :: _ => some ('\r', 1)
  | 'e' :: _ => some (Char.ofNat 0x1B, 1)
  | '"' :: _ => some ('"', 1)
  | '\\' :: _ => some ('\\', 1)
  | 'x' :: digits => (hexChar? 2 digits).map (·, 3)
  | 'u' :: digits => (hexChar? 4 digits).map (·, 5)
  | 'U' :: digits => (hexChar? 8 digits).map (·, 9)
  | _ => none

/-- The number of blanks and line ends at the start of a text. -/
def whiteCount : List Char → Nat
  | '\r' :: '\n' :: rest => whiteCount rest + 2
  | c :: rest => if isBlank c ∨ c = '\n' then whiteCount rest + 1 else 0
  | [] => 0

/-- The number of characters that a backslash at the end of a line swallows, when it stands there:
everything up to the next character that is neither blank nor a line end. -/
def continuation? (text : List Char) : Option Nat :=
  match text.dropWhile isBlank with
  | '\n' :: _ | '\r' :: '\n' :: _ => some (whiteCount text)
  | _ => none

/-- What a reader of quoted text answers. -/
abbrev TextResult := Except SyntaxError (String × Cursor)

/-- The characters read so far, latest first, as a text. -/
def finishText (read : List Char) (offset : Nat) (rest : List Char) : TextResult :=
  .ok (String.ofList read.reverse, ⟨offset, rest⟩)

/-- The rest of a text between double quotes. -/
def basicText (read : List Char) (offset : Nat) (text : List Char) : TextResult :=
  match text with
  | [] => .error (.unexpected offset)
  | '"' :: rest => finishText read (offset + 1) rest
  | '\\' :: rest =>
    match escape? rest with
    | some (c, size) => basicText (c :: read) (offset + 1 + size) (rest.drop size)
    | none => .error (.unexpected offset)
  | c :: rest =>
    if isTextChar c then basicText (c :: read) (offset + c.utf8Size) rest
    else .error (.unexpected offset)
termination_by text.length
decreasing_by all_goals grind

/-- The rest of a text between single quotes. -/
def literalText (read : List Char) (offset : Nat) : List Char → TextResult
  | [] => .error (.unexpected offset)
  | '\'' :: rest => finishText read (offset + 1) rest
  | c :: rest =>
    if isTextChar c then literalText (c :: read) (offset + c.utf8Size) rest
    else .error (.unexpected offset)

/-- The end of a text between threefold quotes, where a run of `run` quotes stands.  Up to two of
them belong to the text. -/
def closeMultiline (quote : Char) (read : List Char) (offset run : Nat) (text : List Char) :
    TextResult :=
  let taken := min run 5
  finishText (List.replicate (taken - 3) quote ++ read) (offset + taken) (text.drop taken)

/-- The rest of a text between threefold double quotes. -/
def multilineBasicText (read : List Char) (offset : Nat) (text : List Char) : TextResult :=
  match text with
  | [] => .error (.unexpected offset)
  | '"' :: rest =>
    let run := (text.takeWhile (· = '"')).length
    if 3 ≤ run then closeMultiline '"' read offset run text
    else multilineBasicText ('"' :: read) (offset + 1) rest
  | '\\' :: rest =>
    match continuation? rest with
    | some count => multilineBasicText read (offset + 1 + count) (rest.drop count)
    | none =>
      match escape? rest with
      | some (c, size) => multilineBasicText (c :: read) (offset + 1 + size) (rest.drop size)
      | none => .error (.unexpected offset)
  | '\r' :: '\n' :: rest => multilineBasicText ('\n' :: '\r' :: read) (offset + 2) rest
  | c :: rest =>
    if isTextChar c ∨ c = '\n' then multilineBasicText (c :: read) (offset + c.utf8Size) rest
    else .error (.unexpected offset)
termination_by text.length
decreasing_by all_goals grind

/-- The rest of a text between threefold single quotes. -/
def multilineLiteralText (read : List Char) (offset : Nat) (text : List Char) : TextResult :=
  match text with
  | [] => .error (.unexpected offset)
  | '\'' :: rest =>
    let run := (text.takeWhile (· = '\'')).length
    if 3 ≤ run then closeMultiline '\'' read offset run text
    else multilineLiteralText ('\'' :: read) (offset + 1) rest
  | '\r' :: '\n' :: rest => multilineLiteralText ('\n' :: '\r' :: read) (offset + 2) rest
  | c :: rest =>
    if isTextChar c ∨ c = '\n' then multilineLiteralText (c :: read) (offset + c.utf8Size) rest
    else .error (.unexpected offset)
termination_by text.length
decreasing_by all_goals grind

namespace Reader

/-- A reader from a function on the place and the text that is left. -/
def ofText (read : Nat → List Char → TextResult) : Reader String := fun cursor =>
  read cursor.offset cursor.rest

/-- A line end. -/
def acceptNewline : Reader Bool := do
  if ← accept ['\n'] then return true else accept ['\r', '\n']

/-- A text on one line, in either sort of quotes; nothing is taken when no quote comes next. -/
def lineText? : Reader (Option String) := do
  if ← accept ['"'] then
    return some (← ofText (basicText []))
  else if ← accept ['\''] then
    return some (← ofText (literalText []))
  else
    return none

/-- A text in any sort of quotes; nothing is taken when no quote comes next.  A line end right after
threefold quotes does not belong to the text. -/
def anyText? : Reader (Option String) := do
  if ← accept ['"', '"', '"'] then
    let _ ← acceptNewline
    return some (← ofText (multilineBasicText []))
  else if ← accept ['\'', '\'', '\''] then
    let _ ← acceptNewline
    return some (← ofText (multilineLiteralText []))
  else
    lineText?

end Reader

end ErSchema.Toml
