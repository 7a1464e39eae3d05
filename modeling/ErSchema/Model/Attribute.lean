import ErSchema.Name

/-!
# Attributes

An attribute belongs to an entity, to a relationship or, as a component, to another attribute.
Components nest to any depth, so an attribute is a tree.
-/

set_option autoImplicit false

namespace ErSchema

/-- How the value of an attribute comes about. -/
inductive AttributeKind where
  /-- One stored value. -/
  | simple
  /-- A value made up of the values of components. -/
  | composite
  /-- A value that is computed from other data. -/
  | derived
  /-- Several values. -/
  | multivalued
  deriving DecidableEq, Repr, Inhabited

/-- The name of a kind of attribute. -/
def AttributeKind.text : AttributeKind → String
  | .simple => "simple"
  | .composite => "composite"
  | .derived => "derived"
  | .multivalued => "multivalued"

/-- An attribute with its components. -/
structure Attribute where
  kind : AttributeKind
  name : String
  isKey : Bool
  components : List Attribute
  deriving Repr, Inhabited

namespace Attribute

/-- An attribute without components, named by the attribute form of `name`. -/
def ofName (kind : AttributeKind) (name : String) (isKey : Bool := false) : Attribute :=
  ⟨kind, Name.ofAttribute name, isKey, []⟩

/-- The attribute with one more component.  A simple attribute becomes a composite one; every other
kind stays. -/
def addComponent (owner component : Attribute) : Attribute :=
  { owner with
    kind := if owner.kind = .simple then .composite else owner.kind
    components := owner.components ++ [component] }

/-- The attribute with several more components, added in order. -/
def addComponents (owner : Attribute) (components : List Attribute) : Attribute :=
  components.foldl addComponent owner

end Attribute

end ErSchema
