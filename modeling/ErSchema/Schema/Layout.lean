import ErSchema.Schema.Declaration
import ErSchema.Shape
import ErSchema.Toml.Printer

/-!
# The layout of schema documents

Which tables and keys a schema document consists of.  Every table may hold only the keys listed
here.  A bound of a constraint may be any value that can be kept: an integer is a count, a text may
mean that there is no bound, and every other value is written down as TOML.
-/

set_option autoImplicit false

namespace ErSchema.Schema.Layout

open Shape Toml

/-- A kind of attribute. -/
def attributeKind : Decoder AttributeKind :=
  alternative
    [("simple", .simple), ("composite", .composite), ("derived", .derived),
      ("multivalued", .multivalued)]

/-- A kind of entity. -/
def entityKind : Decoder EntityKind :=
  alternative [("regular", .regular), ("weak", .weak)]

/-- A kind of specialization. -/
def specializationKind : Decoder SpecializationKind :=
  alternative [("disjoint", .disjoint), ("overlap", .overlap), ("unspecified", .unspecified)]

/-- A kind of relationship. -/
def relationshipKind : Decoder RelationshipKind :=
  alternative [("regular", .regular), ("identifying", .identifying)]

/-- A bound. -/
def bound : Decoder Bound
  | .integer _ number => .ok (.count number)
  | .string _ content => .ok (.ofText content)
  | value => return .other (Printer.value (← any value))

/-- A constraint: a list of bounds. -/
def constraint : Decoder StructuralConstraint := fun value => do
  return ⟨← list bound value⟩

/-- An attribute with at most `depth` levels of components. -/
def attributeWithin : (depth : Nat) → Decoder AttributeDeclaration
  | 0 => mismatch (.record "AttributeDecl")
  | depth + 1 =>
    record "AttributeDecl"
      [field "name" .required text fun name declaration => { declaration with name },
        field "kind" .defaulted attributeKind fun kind declaration => { declaration with kind },
        field "key" .defaulted truth fun isKey declaration => { declaration with isKey },
        field "components" .defaulted (list (attributeWithin depth))
          fun components declaration => { declaration with components }]
      {}

/-- A list of attributes.  No attribute has more levels than the list itself. -/
def attributes : Decoder (List AttributeDeclaration) := fun value =>
  list (attributeWithin value.depth) value

/-- An entity. -/
def entity : Decoder EntityDeclaration :=
  record "EntityDecl"
    [field "name" .required (spanned text) fun name declaration => { declaration with name },
      field "kind" .defaulted entityKind fun kind declaration => { declaration with kind },
      field "attributes" .defaulted attributes
        fun attributes declaration => { declaration with attributes }]
    {}

/-- A specialization. -/
def specialization : Decoder SpecializationDeclaration :=
  record "SpecializationDecl"
    [field "parent" .optional (spanned text)
        fun parent declaration => { declaration with parent := some parent },
      field "kind" .defaulted specializationKind fun kind declaration => { declaration with kind },
      field "role" .defaulted text fun role declaration => { declaration with role },
      field "total" .defaulted truth fun isTotal declaration => { declaration with isTotal },
      field "derived" .defaulted (list (spanned text))
        fun derived declaration => { declaration with derived }]
    {}

/-- A link. -/
def link : Decoder LinkDeclaration :=
  record "LinkDecl"
    [field "entity" .optional (spanned text)
        fun entity declaration => { declaration with entity := some entity },
      field "constraint" .optional constraint
        fun constraint declaration => { declaration with constraint := some constraint },
      field "role" .defaulted text fun role declaration => { declaration with role }]
    {}

/-- A relationship. -/
def relationship : Decoder RelationshipDeclaration :=
  record "RelationshipDecl"
    [field "name" .required (spanned text) fun name declaration => { declaration with name },
      field "kind" .defaulted relationshipKind fun kind declaration => { declaration with kind },
      field "links" .defaulted (list link) fun links declaration => { declaration with links },
      field "attributes" .defaulted attributes
        fun attributes declaration => { declaration with attributes }]
    {}

/-- A schema document. -/
def document : Decoder Document :=
  record "Document"
    [field "name" .required text fun name document => { document with name },
      field "description" .defaulted text
        fun description document => { document with description },
      field "authors" .defaulted (list text) fun authors document => { document with authors },
      field "entity" .defaulted (list entity) fun entities document => { document with entities },
      field "specialization" .defaulted (list specialization)
        fun specializations document => { document with specializations },
      field "relationship" .defaulted (list relationship)
        fun relationships document => { document with relationships }]
    {}

end ErSchema.Schema.Layout
