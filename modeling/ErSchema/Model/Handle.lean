/-!
# Handles

A model refers to its entities and relationships by handles.  A handle is the position of the thing
in the order in which it was added; a handle that no model issued is still a value, and looking it
up finds nothing.
-/

set_option autoImplicit false

namespace ErSchema

/-- The handle of an entity. -/
structure EntityId where
  index : Nat
  deriving DecidableEq, Repr

/-- The handle of a relationship. -/
structure RelationshipId where
  index : Nat
  deriving DecidableEq, Repr

/-- A handle as text. -/
def EntityId.text (id : EntityId) : String :=
  "#" ++ toString id.index

/-- A handle as text. -/
def RelationshipId.text (id : RelationshipId) : String :=
  "#" ++ toString id.index

/-- Why a part cannot be added to a model. -/
inductive ConstructionError where
  /-- A specialization names no entity that it specializes. -/
  | missingParent
  /-- A handle was not issued by the model. -/
  | unknownEntity (id : EntityId)
  /-- No participant of an identifying relationship is a weak entity that still lacks one. -/
  | unidentifiedWeakEntity (relationship : String)
  deriving DecidableEq, Repr

/-- The wording of a construction error. -/
def ConstructionError.message : ConstructionError → String
  | .missingParent => "No parent entity for specialization"
  | .unknownEntity id => "Entity " ++ id.text ++ " does not belong to this model"
  | .unidentifiedWeakEntity relationship =>
    "No unidentified weak entity is identified by identifying relationship '" ++ relationship ++ "'"

end ErSchema
