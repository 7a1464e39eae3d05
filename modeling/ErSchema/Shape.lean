import ErSchema.Decimal.Positional
import ErSchema.Text.Quoted
import ErSchema.Toml.Document
import ErSchema.Toml.Kept

/-!
# Shapes of TOML values

A document that is well-formed TOML may still not have the shape that its reader wants.  This
module reads texts, truth values, lists, records and alternatives, and tells the first thing that
is not as wanted, with its place.

A record is a table whose keys are among the fields of the record; its keys are read in ascending
order.  It may also be an array that holds the fields in the order of their declaration.  An
alternative is the text of one of its names; it may also be a table whose only key is one of them
and whose value is empty.
-/

set_option autoImplicit false

namespace ErSchema

open Toml

/-- What a reader wants to find. -/
inductive Wanted where
  | text
  | truth
  | list
  | record (name : String)
  deriving DecidableEq, Repr

/-- Why a value does not have the wanted shape. -/
inductive ShapeFault where
  | missingField (field : String)
  | unknownField (field : String) (expected : List String)
  | unknownVariant (variant : String) (expected : List String)
  /-- A value of another type than the wanted one; the value is described. -/
  | invalidType (found : String) (wanted : Wanted)
  /-- An alternative that is neither a text nor a table. -/
  | noAlternative
  /-- An alternative as a table without a key. -/
  | noVariant
  /-- An alternative as a table with several keys. -/
  | severalVariants
  /-- The name of an alternative with something that is not a table; its type is named. -/
  | variantContent (found : String)
  /-- The name of an alternative with a table that is not empty. -/
  | fullTable
  /-- The name of an alternative with an array that is not empty. -/
  | fullArray
  /-- A record as an array that ends before a field without a default. -/
  | missingPosition (position : Nat) (record : String) (fields : Nat)
  /-- A part of a value of any type that cannot be kept. -/
  | notKept
  deriving DecidableEq, Repr

/-- A fault with its place. -/
structure ShapeError where
  fault : ShapeFault
  span : Span
  deriving DecidableEq, Repr

/-- A name in backticks. -/
def ticked (name : String) : String :=
  "`" ++ name ++ "`"

/-- A choice of names: two are joined by "or", more are listed. -/
def choice (names : List String) : String :=
  match names with
  | [] => "nothing"
  | [only] => ticked only
  | [first, second] => ticked first ++ " or " ++ ticked second
  | names => "one of " ++ String.intercalate ", " (names.map ticked)

/-- What is wanted, in words. -/
def Wanted.description : Wanted → String
  | .text => "a string"
  | .truth => "a boolean"
  | .list => "a sequence"
  | .record name => "struct " ++ name

/-- The wording of a fault. -/
def ShapeFault.message : ShapeFault → String
  | .missingField field => "missing field " ++ ticked field
  | .unknownField field expected =>
    "unknown field " ++ ticked field ++ ", expected " ++ choice expected
  | .unknownVariant variant expected =>
    "unknown variant " ++ ticked variant ++ ", expected " ++ choice expected
  | .invalidType found wanted => "invalid type: " ++ found ++ ", expected " ++ wanted.description
  | .noAlternative => "wanted string or table"
  | .noVariant => "wanted exactly 1 element, found 0 elements"
  | .severalVariants => "wanted exactly 1 element, more than 1 element"
  | .variantContent found => "expected table, found " ++ found
  | .fullTable => "expected empty table"
  | .fullArray => "expected empty array"
  | .missingPosition position record fields =>
    "invalid length " ++ toString position ++ ", expected struct " ++ record ++ " with " ++
      toString fields ++ " elements"
  | .notKept => "value cannot be kept"

/-- The name of the type of a value. -/
def typeName : Value → String
  | .string _ _ => "string"
  | .integer _ _ => "integer"
  | .float _ _ => "float"
  | .boolean _ _ => "boolean"
  | .dateTime _ _ => "datetime"
  | .numeral _ _ => "number"
  | .array _ _ _ => "array"
  | .table _ _ _ => "table"

/-- A value as it is described when it has the wrong type: scalars with their value. -/
def describe : Value → String
  | .string _ text => "string " ++ Text.Quoted.encode text
  | .integer _ number => "integer " ++ ticked (toString number)
  | .float _ number => "floating point " ++ ticked (Decimal.positional "NaN" number)
  | .boolean _ truth => "boolean " ++ ticked (if truth then "true" else "false")
  | .numeral _ text => "number " ++ ticked text
  | .array _ _ _ => "sequence"
  | .dateTime _ _ | .table _ _ _ => "map"

namespace Shape

/-- A reader of values of one shape. -/
abbrev Decoder (α : Type) := Value → Except ShapeError α

/-- Reports a value that is not of the wanted type. -/
def mismatch {α : Type} (wanted : Wanted) (value : Value) : Except ShapeError α :=
  .error ⟨.invalidType (describe value) wanted, value.span⟩

/-- A text. -/
def text : Decoder String
  | .string _ content => .ok content
  | value => mismatch .text value

/-- A truth value. -/
def truth : Decoder Bool
  | .boolean _ content => .ok content
  | value => mismatch .truth value

/-- A value of any type, as it is kept. -/
def any : Decoder Value := fun value =>
  value.kept.mapError (⟨.notKept, ·⟩)

/-- A value together with its place. -/
def spanned {α : Type} (decoder : Decoder α) : Decoder (Spanned α) := fun value => do
  return ⟨← decoder value, value.span⟩

/-- A list. -/
def list {α : Type} (decoder : Decoder α) : Decoder (List α)
  | .array _ _ items => items.mapM decoder
  | value => mismatch .list value

/-- The meaning of the name of an alternative, which stands at `span`. -/
def variant {α : Type} (variants : List (String × α)) (name : String) (span : Span) :
    Except ShapeError α :=
  match variants.lookup name with
  | some meaning => .ok meaning
  | none => .error ⟨.unknownVariant name (variants.map Prod.fst), span⟩

/-- What stands under the name of an alternative, which must be empty. -/
def emptyContent : Decoder Unit
  | .array _ _ [] | .table _ _ [] => .ok ()
  | .array span _ _ => .error ⟨.fullArray, span⟩
  | .table span _ _ => .error ⟨.fullTable, span⟩
  | value => .error ⟨.variantContent (typeName value), value.span⟩

/-- One of several named alternatives. -/
def alternative {α : Type} (variants : List (String × α)) : Decoder α
  | .string span name => variant variants name span
  | .table span _ entries =>
    match entries with
    | [] => .error ⟨.noVariant, span⟩
    | [(key, content)] => do
      let meaning ← variant variants key.value key.span
      emptyContent content
      return meaning
    | _ => .error ⟨.severalVariants, span⟩
  | value => .error ⟨.noAlternative, value.span⟩

/-- When a field may be left out. -/
inductive Presence where
  /-- Never. -/
  | required
  /-- In a table, but not in an array. -/
  | optional
  /-- Always, in favour of a default. -/
  | defaulted
  deriving DecidableEq, Repr

/-- A field of a record that is built in a state of type `σ`. -/
structure Field (σ : Type) where
  name : String
  presence : Presence
  /-- Reads a value and stores it in the record. -/
  store : Value → σ → Except ShapeError σ

/-- A field from the reader of its value and from where its value is stored. -/
def field {σ α : Type} (name : String) (presence : Presence) (decoder : Decoder α)
    (put : α → σ → σ) : Field σ :=
  ⟨name, presence, fun value record => return put (← decoder value) record⟩

section Record

variable {σ : Type} (name : String) (fields : List (Field σ)) (initial : σ)

/-- The fault of a key that no field has. -/
def unknown (key : String) : ShapeFault :=
  .unknownField key (fields.map Field.name)

/-- A record from a table: every entry is stored, and then no required field may be missing. -/
def recordOfTable (span : Span) (entries : Entries) : Except ShapeError σ := do
  let record ← entries.foldlM (fun record (key, value) =>
    match fields.find? (·.name == key.value) with
    | some field => field.store value record
    | none => throw ⟨unknown fields key.value, key.span⟩) initial
  match fields.find? fun field =>
      field.presence = .required && (entries.find? field.name).isNone with
  | some field => throw ⟨.missingField field.name, span⟩
  | none => return record

/-- A record from an array: the items are the fields in order, and more items are ignored. -/
def recordOfArray (span : Span) (items : List Value) : Except ShapeError σ :=
  fields.zipIdx.foldlM (fun record (field, position) =>
    match items[position]?, field.presence with
    | some value, _ => field.store value record
    | none, .defaulted => return record
    | none, _ => throw ⟨.missingPosition position name fields.length, span⟩) initial

/-- A record with the given fields, which starts from the defaults in `initial`. -/
def record : Decoder σ
  | .table span _ entries => recordOfTable fields initial span entries
  | .array span _ items => recordOfArray name fields initial span items
  | .dateTime span _ => .error ⟨unknown fields dateTimeKey, span⟩
  | value => mismatch (.record name) value

end Record

end Shape

/-- Why a source text cannot be read. -/
inductive SourceFault where
  /-- It is not TOML. -/
  | notToml (error : SyntaxError)
  /-- It does not have the wanted shape, and no reader could keep the whole of it. -/
  | notKept (span : Span)
  /-- It does not have the wanted shape. -/
  | misshapen (error : ShapeError)
  deriving DecidableEq, Repr

/-- The wording of a fault.  A text that is not TOML or cannot be kept is reported under one fixed
name; the cause and the place stay in the fault. -/
def SourceFault.message : SourceFault → String
  | .notToml _ | .notKept _ => "<toml syntax>"
  | .misshapen error => error.fault.message

/-- The place of a fault, which is reported for faults of shape alone. -/
def SourceFault.span? : SourceFault → Option Span
  | .notToml _ | .notKept _ => none
  | .misshapen error => some error.span

/-- The fault of a document that does not have the wanted shape.  What cannot be kept is named
before any fault of shape, wherever the two stand. -/
def SourceFault.ofShapeError (document : Value) (error : ShapeError) : SourceFault :=
  match document.keptDocument with
  | .ok _ => .misshapen error
  | .error span => .notKept span

/-- Reads a source text as a value of a shape.  The whole text is read before its shape is looked
at.  A numeral without a value is no fault as long as nothing reads it. -/
def Shape.read {α : Type} (decoder : Shape.Decoder α) (source : String) : Except SourceFault α :=
  match Toml.parse source with
  | .error error => .error (.notToml error)
  | .ok document => (decoder document).mapError (.ofShapeError document)

end ErSchema
