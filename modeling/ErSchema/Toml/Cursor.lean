import ErSchema.Span

/-!
# Reading characters

A reader takes characters from the front of what is left of a text, and keeps count of the bytes
that it took.  When it fails it tells the cause and the place.
-/

set_option autoImplicit false

namespace ErSchema.Toml

/-- Why a text is not a TOML document. -/
inductive SyntaxError where
  /-- A character that may not stand at its place, or the end of the text. -/
  | unexpected (offset : Nat)
  /-- A word that is no number, date, time or other value. -/
  | malformedScalar (span : Span)
  /-- Arrays and tables within one another beyond the limit. -/
  | nestedTooDeeply (offset : Nat)
  /-- A dotted key with too many parts. -/
  | keyTooLong (span : Span)
  /-- A key or table that is defined twice. -/
  | duplicateKey (key : Spanned String)
  /-- A key or header that passes through a value to which nothing can be added. -/
  | notExtendable (key : Spanned String)
  deriving DecidableEq, Repr

/-- What is left of a text, and the number of bytes before it. -/
structure Cursor where
  offset : Nat
  rest : List Char
  deriving DecidableEq, Repr

/-- A computation that takes characters from the front of a text. -/
abbrev Reader (α : Type) := StateT Cursor (Except SyntaxError) α

/-- The number of bytes of some characters. -/
def byteCount (text : List Char) : Nat :=
  text.foldl (fun count c => count + c.utf8Size) 0

/-- The cursor after `count` characters. -/
def Cursor.drop (cursor : Cursor) (count : Nat) : Cursor :=
  ⟨cursor.offset + byteCount (cursor.rest.take count), cursor.rest.drop count⟩

namespace Reader

/-- Fails because of the next character. -/
def fail {α : Type} : Reader α := do
  throw (.unexpected (← get).offset)

/-- The next character, which is not taken. -/
def peek : Reader (Option Char) :=
  return (← get).rest.head?

/-- Whether the text goes on with `expected`, which is not taken. -/
def comes (expected : List Char) : Reader Bool :=
  return expected.isPrefixOf (← get).rest

/-- Takes `count` characters. -/
def skip (count : Nat) : Reader Unit :=
  modify (·.drop count)

/-- Takes `expected` if the text goes on with it, and tells whether it did. -/
def accept (expected : List Char) : Reader Bool := do
  if ← comes expected then
    skip expected.length
    return true
  else
    return false

/-- Takes `expected`, or fails. -/
def expect (expected : List Char) : Reader Unit := do
  unless ← accept expected do fail

/-- Takes the longest run of characters of a class. -/
def takeWhile (isMember : Char → Bool) : Reader (List Char) := do
  let run := (← get).rest.takeWhile isMember
  skip run.length
  return run

/-- The result of a reader with the stretch of text that it took. -/
def spanned {α : Type} (reader : Reader α) : Reader (Spanned α) := do
  let start := (← get).offset
  let value ← reader
  return ⟨value, ⟨start, (← get).offset⟩⟩

/-- Repeats a step that answers either a new state or a result, at most once for each character of
`budget` and once more. -/
def iterate {σ α : Type} (step : σ → Reader (σ ⊕ α)) (budget : List Char) (state : σ) :
    Reader α := do
  match ← step state with
  | .inr result => return result
  | .inl next =>
    match budget with
    | [] => fail
    | _ :: budget => iterate step budget next

/-- Repeats a step until it answers a result.  Every step but the last takes a character, so the
characters that are left bound the number of steps. -/
def loop {σ α : Type} (step : σ → Reader (σ ⊕ α)) (state : σ) : Reader α := do
  iterate step (← get).rest state

end Reader

end ErSchema.Toml
