import ErSchema.Proofs.Identification
import Mathlib.Data.List.Perm.Basic
import Mathlib.Data.Prod.Basic
import Mathlib.Logic.Function.Basic

/-!
# Models with renamed handles

Handles of entities are positions, so another order of the entities gives all of them other handles.
`Renamed` says that two models differ in nothing else: a bijection of handles leads from the entities
of one model to those of the other, and wherever a handle occurs in the one, its image stands in the
other.  Relationships keep their handles.
-/

set_option autoImplicit false

namespace ErSchema

section Parts

variable (image : EntityId → EntityId)

/-- A specialization with other handles. -/
def Specialization.rename (specialization : Specialization) : Specialization :=
  { specialization with
    parent := image specialization.parent
    derived := specialization.derived.map image }

/-- An entity with other handles in its specializations. -/
def Entity.rename (entity : Entity) : Entity :=
  { entity with specializations := entity.specializations.map (Specialization.rename image) }

/-- A link to a participant with another handle. -/
def Link.rename (link : Link) : Link :=
  { link with entity := link.entity.map image }

/-- A relationship with other handles in its links. -/
def Relationship.rename (relationship : Relationship) : Relationship :=
  { relationship with links := relationship.links.map (Link.rename image) }

end Parts

/-- A renamed link leads to the image of an entity exactly when the link leads to the entity. -/
theorem Link.concerns_rename {image : EntityId → EntityId} (injective : Function.Injective image)
    (link : Link) (id : EntityId) :
    ((link.rename image).entity == some (image id)) = (link.entity == some id) := by
  rw [Bool.eq_iff_iff, beq_iff_eq, beq_iff_eq]
  exact (Option.map_injective injective).eq_iff (b := some id)

/-- Looking up the image of a key in a table with renamed keys finds what the key finds. -/
theorem lookup_map_key {κ ν : Type} [BEq κ] [LawfulBEq κ] {image : κ → κ}
    (injective : Function.Injective image) (table : List (κ × ν)) (key : κ) :
    (table.map (Prod.map image id)).lookup (image key) = table.lookup key := by
  induction table with
  | nil => rfl
  | cons head rest ih =>
    obtain ⟨first, content⟩ := head
    rw [List.map_cons, Prod.map_apply, List.lookup_cons, List.lookup_cons, ih]
    have same : (image key == image first) = (key == first) := by
      rw [Bool.eq_iff_iff, beq_iff_eq, beq_iff_eq]
      exact injective.eq_iff
    rw [same]
    rfl

namespace Model

/-- Whether a model is another one with renamed handles of entities. -/
structure Renamed (image : EntityId → EntityId) (model other : Model) : Prop where
  bijective : Function.Bijective image
  name : other.name = model.name
  description : other.description = model.description
  authors : other.authors = model.authors
  entity : ∀ id, other.entity? (image id) = (model.entity? id).map (Entity.rename image)
  relationships : other.relationships = model.relationships.map (Relationship.rename image)
  identification : ∀ id,
    other.identifyingRelationship? (image id) = model.identifyingRelationship? id

/-- Renaming handles of entities leaves those of the identifying relationships. -/
theorem identifyingIds_of_relationships_eq {image : EntityId → EntityId} {model other : Model}
    (renamed : other.relationships = model.relationships.map (Relationship.rename image)) :
    other.identifyingIds = model.identifyingIds := by
  unfold identifyingIds relationshipsWithIds
  rw [renamed, List.zipIdx_map, List.map_map, List.filter_map, List.filter_map, List.map_map,
    List.map_map]
  rfl

namespace Renamed

variable {image : EntityId → EntityId} {model other : Model}
  (renamed : Renamed image model other)

include renamed

/-- Relationships keep their handles, and the handles in them are renamed. -/
theorem relationship? (id : RelationshipId) :
    other.relationship? id = (model.relationship? id).map (Relationship.rename image) := by
  rw [Model.relationship?, renamed.relationships, List.getElem?_map]
  rfl

/-- Both models have the same entities with their handles, apart from the names and the order. -/
theorem entitiesWithIds_perm :
    other.entitiesWithIds.Perm
      (model.entitiesWithIds.map (Prod.map image (Entity.rename image))) := by
  have distinct : ((model.entitiesWithIds.map (Prod.map image (Entity.rename image))).map
      Prod.fst).Nodup := by
    have keys : (model.entitiesWithIds.map (Prod.map image (Entity.rename image))).map
        Prod.fst = (model.entitiesWithIds.map Prod.fst).map image := by
      rw [List.map_map, List.map_map, Prod.map_fst']
    rw [keys]
    exact nodup_entitiesWithIds.map renamed.bijective.injective
  rw [List.perm_ext_iff_of_nodup (nodup_entitiesWithIds.of_map _) (distinct.of_map _)]
  rintro ⟨id, entity⟩
  -- every handle of the other model is the image of one handle
  obtain ⟨original, rfl⟩ := renamed.bijective.surjective id
  rw [mem_entitiesWithIds, renamed.entity, Option.map_eq_some_iff, List.mem_map]
  constructor
  · rintro ⟨before, found, rfl⟩
    exact ⟨(original, before), mem_entitiesWithIds.2 found, rfl⟩
  · rintro ⟨⟨handle, before⟩, mem, both⟩
    obtain ⟨same, rfl⟩ := Prod.mk.inj both
    obtain rfl := renamed.bijective.injective same
    exact ⟨before, mem_entitiesWithIds.1 mem, rfl⟩

/-- The entities are the same up to their order, with the handles in them renamed. -/
theorem entities_perm :
    other.entities.Perm (model.entities.map (Entity.rename image)) := by
  have both := renamed.entitiesWithIds_perm.map Prod.snd
  rwa [map_snd_entitiesWithIds, List.map_map, Prod.map_snd', ← List.map_map,
    map_snd_entitiesWithIds] at both

end Renamed

end Model

end ErSchema
