import ErSchema.Model.Handle
import ErSchema.Name

/-!
# Specializations

A specialization divides an entity, its parent, into derived entities.  It is kept in the list of
its parent and refers to the derived entities by their handles.
-/

set_option autoImplicit false

namespace ErSchema

/-- How the derived entities of a specialization relate. -/
inductive SpecializationKind where
  /-- No instance belongs to two of them. -/
  | disjoint
  /-- An instance may belong to several of them. -/
  | overlap
  /-- Nothing was declared. -/
  | unspecified
  deriving DecidableEq, Repr, Inhabited

/-- The name of a kind of specialization. -/
def SpecializationKind.text : SpecializationKind → String
  | .disjoint => "disjoint"
  | .overlap => "overlap"
  | .unspecified => "unspecified"

/-- The division of a parent entity into derived entities. -/
structure Specialization where
  kind : SpecializationKind
  parent : EntityId
  role : Option String
  isTotal : Bool
  derived : List EntityId
  deriving DecidableEq, Repr

namespace Specialization

/-- The role that a text declares: none when it is empty, and else its attribute form, which may be
empty in its turn. -/
def roleOfText (text : String) : Option String :=
  if text.isEmpty then none else some (Name.ofAttribute text)

/-- A total specialization without a role and without derived entities. -/
def ofParent (kind : SpecializationKind) (parent : EntityId) : Specialization :=
  ⟨kind, parent, none, true, []⟩

/-- A specialization of a parent that may be missing, which is an error. -/
def ofParent? (kind : SpecializationKind) :
    Option EntityId → Except ConstructionError Specialization
  | some parent => .ok (ofParent kind parent)
  | none => .error .missingParent

end Specialization

end ErSchema
