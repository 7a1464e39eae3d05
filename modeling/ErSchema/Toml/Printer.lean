import ErSchema.Decimal.Positional
import ErSchema.Toml.Text
import ErSchema.Toml.Value

/-!
# Printing TOML values

A value is printed on one line: arrays between brackets, tables between braces.  A text is printed
in the first of the four quoted forms in which nothing needs an escape, and with escapes when there
is none.  A tab needs no escape but gets one between double quotes.
-/

set_option autoImplicit false

namespace ErSchema.Toml.Printer

/-- Whether a character must be escaped wherever it stands. -/
def isControl (c : Char) : Bool :=
  (c.toNat < 0x20 && c ≠ '\t' && c ≠ '\n') || c.toNat = 0x7F

/-- What the characters of a text allow. -/
structure Traits where
  hasNewline : Bool
  hasControl : Bool
  hasBackslash : Bool
  hasDoubleQuote : Bool
  hasSingleQuote : Bool
  /-- Three double quotes or more stand in a row. -/
  hasDoubleRun : Bool
  /-- Three single quotes or more stand in a row. -/
  hasSingleRun : Bool
  deriving DecidableEq, Repr

/-- Whether a character stands three times in a row. -/
def hasRun (quote : Char) : List Char → Bool
  | first :: second :: third :: rest =>
    (first = quote && second = quote && third = quote) || hasRun quote (second :: third :: rest)
  | _ => false

/-- The traits of a text. -/
def traits (text : List Char) : Traits where
  hasNewline := text.contains '\n'
  hasControl := text.any isControl
  hasBackslash := text.contains '\\'
  hasDoubleQuote := text.contains '"'
  hasSingleQuote := text.contains '\''
  hasDoubleRun := hasRun '"' text
  hasSingleRun := hasRun '\'' text

/-- A code point as four hexadecimal digits in upper case. -/
def hexText (code : Nat) : List Char :=
  let digits := (Nat.toDigits 16 code).map Char.toUpper
  List.replicate (4 - digits.length) '0' ++ digits

/-- A character between double quotes, where a double quote is escaped. -/
def escapeChar (c : Char) : List Char :=
  if c = Char.ofNat 0x08 then ['\\', 'b']
  else if c = '\t' then ['\\', 't']
  else if c = '\n' then ['\\', 'n']
  else if c = Char.ofNat 0x0C then ['\\', 'f']
  else if c = '\r' then ['\\', 'r']
  else if c = '"' then ['\\', '"']
  else if c = '\\' then ['\\', '\\']
  else if isControl c then ['\\', 'u'] ++ hexText c.toNat
  else [c]

/-- A text between threefold double quotes, after `run` double quotes in a row.  Newlines stand for
themselves, and of the double quotes in a row only every third is escaped. -/
def escapeMultiline (run : Nat) : List Char → List Char
  | [] => []
  | c :: rest =>
    if c = '"' then
      if run = 2 then ['\\', '"'] ++ escapeMultiline 0 rest
      else '"' :: escapeMultiline (run + 1) rest
    else if c = '\n' then '\n' :: escapeMultiline 0 rest
    else escapeChar c ++ escapeMultiline 0 rest

/-- A text between double quotes. -/
def basic (text : List Char) : List Char :=
  ['"'] ++ text.flatMap escapeChar ++ ['"']

/-- A text between single quotes. -/
def literal (text : List Char) : List Char :=
  ['\''] ++ text ++ ['\'']

/-- A line end after opening quotes, which keeps the first line of a text at the margin. -/
def openingBreak (text : List Char) : List Char :=
  if text.contains '\n' then ['\n'] else []

/-- A text between threefold double quotes. -/
def multilineBasic (text : List Char) : List Char :=
  ['"', '"', '"'] ++ openingBreak text ++ escapeMultiline 0 text ++ ['"', '"', '"']

/-- A text between threefold single quotes. -/
def multilineLiteral (text : List Char) : List Char :=
  ['\'', '\'', '\''] ++ openingBreak text ++ text ++ ['\'', '\'', '\'']

/-- Whether a text can stand between double quotes without escapes, tabs apart. -/
def fitsBasic (t : Traits) : Bool :=
  !t.hasDoubleQuote && !t.hasBackslash && !t.hasNewline && !t.hasControl

/-- Whether a text can stand between single quotes. -/
def fitsLiteral (t : Traits) : Bool :=
  !t.hasSingleQuote && !t.hasNewline && !t.hasControl

/-- A text as a value. -/
def text (text : String) : String :=
  let chars := text.toList
  let t := traits chars
  String.ofList <|
    if fitsBasic t then basic chars
    else if fitsLiteral t then literal chars
    else if !t.hasBackslash && !t.hasControl && !t.hasDoubleRun then multilineBasic chars
    else if !t.hasControl && !t.hasSingleRun then multilineLiteral chars
    else if t.hasNewline then multilineBasic chars
    else basic chars

/-- Whether a character may stand in a key without quotes. -/
def isBareKeyChar (c : Char) : Bool :=
  c.isAlphanum || c = '_' || c = '-'

/-- A text as a key, always on one line. -/
def key (key : String) : String :=
  let chars := key.toList
  let t := traits chars
  if !chars.isEmpty && chars.all isBareKeyChar then key
  else String.ofList (if !fitsBasic t && fitsLiteral t then literal chars else basic chars)

mutual

/-- A value on one line. -/
def value : Value → String
  | .string _ content => text content
  | .integer _ number => toString number
  | .float _ number => Decimal.positional "nan" number
  | .boolean _ truth => if truth then "true" else "false"
  | .dateTime _ moment => moment.text
  | .numeral _ text => text
  | .array _ _ items => "[" ++ String.intercalate ", " (values items) ++ "]"
  | .table _ _ [] => "\x7b\x7d"
  | .table _ _ fields => "\x7b " ++ String.intercalate ", " (entries fields) ++ " \x7d"

/-- Several values. -/
def values : List Value → List String
  | [] => []
  | first :: rest => value first :: values rest

/-- The entries of a table. -/
def entries : List (Key × Value) → List String
  | [] => []
  | (name, first) :: rest => (key name.value ++ " = " ++ value first) :: entries rest

end

end ErSchema.Toml.Printer
