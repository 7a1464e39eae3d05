import ErSchema.Constraint
import ErSchema.Model.Attribute
import ErSchema.Model.Handle
import ErSchema.Unicode.Lowercase

/-!
# Relationships

A relationship has links to its participants.  A link may lack a participant or a constraint; it is
kept all the same and reported when the model is validated.
-/

set_option autoImplicit false

namespace ErSchema

/-- The purpose of a relationship. -/
inductive RelationshipKind where
  | regular
  /-- It supplies the part of a weak entity's key that the entity itself lacks. -/
  | identifying
  deriving DecidableEq, Repr, Inhabited

/-- The name of a kind of relationship. -/
def RelationshipKind.text : RelationshipKind → String
  | .regular => "regular"
  | .identifying => "identifying"

/-- The participation of an entity in a relationship. -/
structure Link where
  entity : Option EntityId
  constraint : Option StructuralConstraint
  role : String
  deriving DecidableEq, Repr

/-- A link whose role is the lower case of `role`. -/
def Link.ofRole (entity : Option EntityId) (constraint : Option StructuralConstraint)
    (role : String) : Link :=
  ⟨entity, constraint, Unicode.lowercase role⟩

/-- A relationship with its links and attributes. -/
structure Relationship where
  kind : RelationshipKind
  name : String
  links : List Link
  attributes : List Attribute
  deriving Repr

namespace Relationship

/-- A relationship named by the entity form of `name`. -/
def ofName (kind : RelationshipKind) (name : String) (links : List Link)
    (attributes : List Attribute) : Relationship :=
  ⟨kind, Name.ofEntity name, links, attributes⟩

/-- Whether a relationship identifies a weak entity. -/
def isIdentifying (relationship : Relationship) : Bool :=
  relationship.kind = .identifying

/-- The participants that the links name, in link order. -/
def participants (relationship : Relationship) : List EntityId :=
  relationship.links.filterMap Link.entity

end Relationship

end ErSchema
