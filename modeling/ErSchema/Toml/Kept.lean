import ErSchema.Toml.Value

/-!
# Values that are kept whole

A reader that keeps a value of any type needs all of it, so every numeral in it has to have a value.

Where a record is wanted, a date or time appears as a table with the one key `dateTimeKey`.  The
converse holds of a value that is kept: a table whose first key is `dateTimeKey` stands for the date
or time that the text under the key spells, and its other entries are not looked at.
-/

set_option autoImplicit false

namespace ErSchema.Toml

/-- The key under which a date or time appears when it is read as a table. -/
def dateTimeKey : String := "$__toml_private_datetime"

/-- The date or time that a text value spells, or else the place of the value. -/
def Value.spelledDateTime : Value → Except Span DateTime
  | .string span text =>
    match DateTime.ofChars? text.toList with
    | some moment => .ok moment
    | none => .error span
  | value => .error value.span

mutual

/-- A value as it is kept, or else the place of the first part that cannot be kept. -/
def Value.kept : Value → Except Span Value
  | .numeral span _ => .error span
  | .array span underHeaders items => return .array span underHeaders (← keptItems items)
  | .table span origin entries =>
    match entries with
    | [] => return .table span origin []
    | (key, value) :: rest =>
      if key.value = dateTimeKey then
        return .dateTime span (← value.spelledDateTime)
      else
        return .table span origin ((key, ← value.kept) :: (← keptEntries rest))
  | value => .ok value

/-- Items as they are kept. -/
def keptItems : List Value → Except Span (List Value)
  | [] => .ok []
  | value :: rest => return (← value.kept) :: (← keptItems rest)

/-- Entries as they are kept. -/
def keptEntries : List (Key × Value) → Except Span (List (Key × Value))
  | [] => .ok []
  | (key, value) :: rest => return (key, ← value.kept) :: (← keptEntries rest)

end

/-- A document as it is kept.  It remains a table, whatever its first key. -/
def Value.keptDocument : Value → Except Span Value
  | .table span origin entries => return .table span origin (← keptEntries entries)
  | value => value.kept

end ErSchema.Toml
