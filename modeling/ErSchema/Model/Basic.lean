import ErSchema.Model.Entity
import ErSchema.Model.Relationship

/-!
# Models

A model owns the entities and relationships of a schema and remembers which identifying
relationship identifies which weak entity.  Construction is permissive: a model whose entities lack
keys, or whose relationships have a single link, can be built, examined, validated and drawn.

This module holds the type and the questions that one can ask of it.
-/

set_option autoImplicit false

namespace ErSchema

/-- The entities and relationships of a schema, in the order in which they were added, together with
the weak entities that are identified, each with its identifying relationship. -/
structure Model where
  name : String
  description : String
  authors : List String
  entities : List Entity
  relationships : List Relationship
  identifications : List (EntityId × RelationshipId)
  deriving Repr

namespace Model

/-- A model without entities and relationships. -/
def empty (name description : String) (authors : List String) : Model :=
  ⟨name, description, authors, [], [], []⟩

/-- The entity behind a handle. -/
def entity? (model : Model) (id : EntityId) : Option Entity :=
  model.entities[id.index]?

/-- The relationship behind a handle. -/
def relationship? (model : Model) (id : RelationshipId) : Option Relationship :=
  model.relationships[id.index]?

/-- The entities with their handles, in the order in which they were added. -/
def entitiesWithIds (model : Model) : List (EntityId × Entity) :=
  model.entities.zipIdx.map fun (entity, index) => (⟨index⟩, entity)

/-- The relationships with their handles, in the order in which they were added. -/
def relationshipsWithIds (model : Model) : List (RelationshipId × Relationship) :=
  model.relationships.zipIdx.map fun (relationship, index) => (⟨index⟩, relationship)

/-- The first entity whose name is the entity form of a text. -/
def entityId? (model : Model) (text : String) : Option EntityId :=
  (model.entities.findIdx? (·.name == Name.ofEntity text)).map EntityId.mk

/-- The relationship that identifies a weak entity. -/
def identifyingRelationship? (model : Model) (id : EntityId) : Option RelationshipId :=
  model.identifications.lookup id

/-- The relationships in which an entity takes part, each once. -/
def relationshipsOf (model : Model) (id : EntityId) : List RelationshipId :=
  (model.relationshipsWithIds.filter fun (_, relationship) =>
    relationship.links.any (·.entity == some id)).map Prod.fst

/-- The authors as one phrase: two names are joined by "and", three or more are listed with commas
and the word before the last. -/
def authorsPhrase (model : Model) : String :=
  match model.authors with
  | [] => ""
  | [only] => only
  | [first, second] => first ++ " and " ++ second
  | authors => String.intercalate ", " authors.dropLast ++ ", and " ++ authors.getLastD ""

end Model

end ErSchema
