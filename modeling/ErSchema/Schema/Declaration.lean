import ErSchema.Constraint
import ErSchema.Model.Attribute
import ErSchema.Model.Entity
import ErSchema.Model.Relationship
import ErSchema.Span

/-!
# Schema documents

A schema document declares entities, specializations and relationships.  Declarations refer to
entities by name, in any spelling that has the same entity form, and names that may be reported keep
their place in the source text.
-/

set_option autoImplicit false

namespace ErSchema.Schema

/-- A name with the place where it is written. -/
abbrev WrittenName := Spanned String

/-- The declaration of an attribute with its components. -/
structure AttributeDeclaration where
  name : String := ""
  kind : AttributeKind := .simple
  isKey : Bool := false
  components : List AttributeDeclaration := []
  deriving Repr, Inhabited

/-- The declaration of an entity. -/
structure EntityDeclaration where
  name : WrittenName := default
  kind : EntityKind := .regular
  attributes : List AttributeDeclaration := []
  deriving Repr, Inhabited

/-- The declaration of a specialization.  The parent may be left out, which is reported later. -/
structure SpecializationDeclaration where
  parent : Option WrittenName := none
  kind : SpecializationKind := .unspecified
  role : String := ""
  isTotal : Bool := true
  derived : List WrittenName := []
  deriving Repr, Inhabited

/-- The declaration of a link. -/
structure LinkDeclaration where
  entity : Option WrittenName := none
  constraint : Option StructuralConstraint := none
  role : String := ""
  deriving Repr, Inhabited

/-- The declaration of a relationship. -/
structure RelationshipDeclaration where
  name : WrittenName := default
  kind : RelationshipKind := .regular
  links : List LinkDeclaration := []
  attributes : List AttributeDeclaration := []
  deriving Repr, Inhabited

/-- A schema document. -/
structure Document where
  name : String := ""
  description : String := ""
  authors : List String := []
  entities : List EntityDeclaration := []
  specializations : List SpecializationDeclaration := []
  relationships : List RelationshipDeclaration := []
  deriving Repr, Inhabited

end ErSchema.Schema
