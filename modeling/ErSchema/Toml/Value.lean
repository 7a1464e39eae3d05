import ErSchema.Span
import ErSchema.Toml.DateTime

/-!
# TOML values

A value remembers where it stands in its source text.  A table also remembers how it came about,
because that decides whether more may be added to it, and its entries are kept in ascending order of
their keys.
-/

set_option autoImplicit false

namespace ErSchema.Toml

/-- A key with the place where it is written. -/
abbrev Key := Spanned String

/-- How a table came about. -/
inductive Origin where
  /-- It has a header of its own, or is the whole document. -/
  | header
  /-- Longer headers pass through it, and nothing else adds to it. -/
  | passage
  /-- A dotted key passes through it. -/
  | dotted
  /-- It is written between braces. -/
  | braces
  deriving DecidableEq, Repr

/-- A value of a document. -/
inductive Value where
  | string (span : Span) (text : String)
  | integer (span : Span) (number : Int)
  | float (span : Span) (number : Float)
  | boolean (span : Span) (truth : Bool)
  | dateTime (span : Span) (moment : DateTime)
  /-- A numeral as it is written, for which no 64-bit integer or finite double-precision number
  stands. -/
  | numeral (span : Span) (text : String)
  /-- A list of values, written between brackets or, element by element, under headers of its own.
  -/
  | array (span : Span) (underHeaders : Bool) (items : List Value)
  | table (span : Span) (origin : Origin) (entries : List (Key × Value))
  deriving Inhabited

/-- The entries of a table. -/
abbrev Entries := List (Key × Value)

/-- Where a value stands. -/
def Value.span : Value → Span
  | .string span _ | .integer span _ | .float span _ | .boolean span _ | .dateTime span _
  | .numeral span _ | .array span _ _ | .table span _ _ => span

mutual

/-- The number of levels of a value. -/
def Value.depth : Value → Nat
  | .array _ _ items => itemsDepth items + 1
  | .table _ _ entries => entriesDepth entries + 1
  | _ => 1

/-- The number of levels of the deepest item. -/
def itemsDepth : List Value → Nat
  | [] => 0
  | value :: rest => max value.depth (itemsDepth rest)

/-- The number of levels of the deepest entry. -/
def entriesDepth : List (Key × Value) → Nat
  | [] => 0
  | (_, value) :: rest => max value.depth (entriesDepth rest)

end

namespace Entries

/-- The entry with a given name. -/
def find? (entries : Entries) (name : String) : Option (Key × Value) :=
  List.find? (fun entry => entry.1.value == name) entries

/-- The entries with one more, at the place that keeps keys ascending.  An entry of the same name is
replaced, key and all. -/
def insert (key : Key) (value : Value) : Entries → Entries
  | [] => [(key, value)]
  | first :: rest =>
    if key.value < first.1.value then (key, value) :: first :: rest
    else if key.value = first.1.value then (key, value) :: rest
    else first :: insert key value rest

end Entries

end ErSchema.Toml
