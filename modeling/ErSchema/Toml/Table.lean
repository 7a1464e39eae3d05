import ErSchema.Toml.Cursor
import ErSchema.Toml.Value

/-!
# Building tables

A document is a sequence of expressions: entries with dotted keys, headers of tables, and headers
of elements of arrays.  Each expression adds to the tables that the earlier ones built, and is
refused when the table it adds to is complete, or when what it defines is there already.

A header may pass through every table that is not written between braces, and through the last
element of an array that is written under headers.  A dotted key may not pass through a table that
has a header of its own.  A table that only longer headers passed through may still get a header, or
else entries by dotted keys, but not first those and then a header.
-/

set_option autoImplicit false

namespace ErSchema.Toml

/-- A part of a document. -/
inductive Expression where
  /-- A value under a key, reached through the tables named by `path`. -/
  | entry (path : List Key) (key : Key) (value : Value)
  /-- The header of a table. -/
  | table (path : List Key) (key : Key) (span : Span)
  /-- The header of an element of an array. -/
  | element (path : List Key) (key : Key) (span : Span)

namespace Entries

/-- What is done to a table at the end of a path, given how the table came about. -/
abbrev Change := Origin → Entries → Except SyntaxError Entries

/-- How a table came about after a path has passed through it: none if no path may.  `made` is the
origin of the tables that the path makes, and a table that only longer headers passed through is
taken for one of them. -/
def passed? (made : Origin) : Origin → Option Origin
  | .braces => none
  | .header => if made = .dotted then none else some .header
  | .passage => some made
  | .dotted => some .dotted

/-- Follows a path from a table and changes the table at its end.  Tables that are missing on the
way are made with the origin `made`. -/
def along (made : Origin) (change : Change) : List Key → Change
  | [], origin, entries => change origin entries
  | key :: path, _, entries =>
    match entries.find? key.value with
    | none => do
      let inner ← along made change path made []
      return entries.insert key (.table key.span made inner)
    | some (existing, .table span origin inner) =>
      match passed? made origin with
      | none => throw (.notExtendable key)
      | some origin => do
        let inner ← along made change path origin inner
        return entries.insert existing (.table span origin inner)
    | some (existing, .array span true items) =>
      match items.getLast? with
      | some (.table itemSpan origin inner) => do
        let inner ← along made change path origin inner
        return entries.insert existing
          (.array span true (items.dropLast ++ [.table itemSpan origin inner]))
      | _ => throw (.notExtendable key)
    | some _ => throw (.notExtendable key)

/-- Adds a value under a dotted key.  The last table on the way may not be an element of an array,
which has a header of its own. -/
def addEntry (path : List Key) (key : Key) (value : Value) : Change :=
  along .dotted
    (fun origin entries =>
      if ¬path.isEmpty ∧ origin ≠ .dotted then throw (.notExtendable key)
      else if (entries.find? key.value).isSome then throw (.duplicateKey key)
      else return entries.insert key value)
    path

/-- Opens the table of a header.  A table that longer headers passed through is completed. -/
def openTable (key : Key) (span : Span) : Change := fun _ entries =>
  match entries.find? key.value with
  | none => return entries.insert key (.table span .header [])
  | some (_, .table _ .passage inner) => return entries.insert key (.table span .header inner)
  | some _ => throw (.duplicateKey key)

/-- Adds an empty table to the array of a header. -/
def openElement (key : Key) (span : Span) : Change := fun _ entries =>
  let element : Value := .table span .header []
  match entries.find? key.value with
  | none => return entries.insert key (.array span true [element])
  | some (existing, .array whole true items) =>
    return entries.insert existing (.array whole true (items ++ [element]))
  | some _ => throw (.duplicateKey key)

/-- The entries of the document so far, and the path of the header that entries belong to. -/
structure Progress where
  entries : Entries
  header : List Key

/-- Adds one expression. -/
def Progress.add (progress : Progress) : Expression → Except SyntaxError Progress
  | .entry path key value => do
    let entries ← along .passage (addEntry path key value) progress.header .header progress.entries
    return { progress with entries }
  | .table path key span => do
    let entries ← along .passage (openTable key span) path .header progress.entries
    return ⟨entries, path ++ [key]⟩
  | .element path key span => do
    let entries ← along .passage (openElement key span) path .header progress.entries
    return ⟨entries, path ++ [key]⟩

/-- The entries of a whole document. -/
def ofExpressions (expressions : List Expression) : Except SyntaxError Entries := do
  let progress ← expressions.foldlM Progress.add ⟨[], []⟩
  return progress.entries

/-- The entries of a table between braces. -/
def ofBraces (parts : List (List Key × Key × Value)) : Except SyntaxError Entries :=
  parts.foldlM (fun entries (path, key, value) => addEntry path key value .braces entries) []

end Entries

end ErSchema.Toml
