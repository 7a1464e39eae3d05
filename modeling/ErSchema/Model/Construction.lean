import ErSchema.Model.Basic

/-!
# Building a model

Entities are always accepted.  An identifying relationship claims the first of its participants that
is a weak entity nobody identifies yet, and is refused when there is none.  A specialization is
refused when a handle in it was not issued by the model.  A refused part leaves the model as it was,
because the operations return the new model only on success.
-/

set_option autoImplicit false

namespace ErSchema.Model

/-- The model with one more entity, and the handle of that entity. -/
def addEntity (model : Model) (entity : Entity) : EntityId × Model :=
  (⟨model.entities.length⟩, { model with entities := model.entities ++ [entity] })

/-- Whether a handle denotes a weak entity that no relationship identifies yet. -/
def awaitsIdentification (model : Model) (id : EntityId) : Bool :=
  (model.entity? id).any Entity.isWeak && (model.identifyingRelationship? id).isNone

/-- The participant that an identifying relationship would identify: the first, in link order, that
still awaits identification. -/
def claim? (model : Model) (relationship : Relationship) : Option EntityId :=
  relationship.participants.find? model.awaitsIdentification

/-- The identifications that a relationship adds to those of the model. -/
def claims (model : Model) (relationship : Relationship) :
    Except ConstructionError (List (EntityId × RelationshipId)) :=
  if relationship.isIdentifying then
    match model.claim? relationship with
    | some weak => .ok [(weak, ⟨model.relationships.length⟩)]
    | none => .error (.unidentifiedWeakEntity relationship.name)
  else
    .ok []

/-- The model with one more relationship, and the handle of that relationship. -/
def addRelationship (model : Model) (relationship : Relationship) :
    Except ConstructionError (RelationshipId × Model) := do
  let claimed ← model.claims relationship
  return (⟨model.relationships.length⟩,
    { model with
      relationships := model.relationships ++ [relationship]
      identifications := model.identifications ++ claimed })

/-- The first handle of a specialization that the model did not issue: derived entities are looked
at before the parent. -/
def unknownEntity? (model : Model) (specialization : Specialization) : Option EntityId :=
  (specialization.derived ++ [specialization.parent]).find? fun id => (model.entity? id).isNone

/-- The model with a specialization at the end of its parent's list. -/
def specialize (model : Model) (specialization : Specialization) :
    Except ConstructionError Model :=
  match model.unknownEntity? specialization with
  | some id => .error (.unknownEntity id)
  | none => .ok
    { model with
      entities := model.entities.modify specialization.parent.index (·.attach specialization) }

/-- A part that can be added to a model. -/
inductive Member where
  | entity (entity : Entity)
  | relationship (relationship : Relationship)
  deriving Repr

/-- The model with one more part. -/
def add (model : Model) : Member → Except ConstructionError Model
  | .entity entity => .ok (model.addEntity entity).2
  | .relationship relationship => (model.addRelationship relationship).map Prod.snd

end ErSchema.Model
