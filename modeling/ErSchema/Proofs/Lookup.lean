import ErSchema.Model.Basic
import Mathlib.Data.List.Nodup

/-!
# Looking up by handle

A handle is a position, and the numbered lists of a model pair every position with what stands
there.  The lemmas here let later modules speak of `entity?`, `relationship?` and
`identifyingRelationship?` alone: membership in a numbered list, in the list of relationships of an
entity and in the table of identifications is turned into a successful lookup.
-/

set_option autoImplicit false

namespace ErSchema

/-- A table whose keys are distinct holds exactly the pairs that looking up a key finds. -/
theorem lookup_eq_some_iff_mem {κ ν : Type} [BEq κ] [LawfulBEq κ] {table : List (κ × ν)}
    (distinct : (table.map Prod.fst).Nodup) (key : κ) (value : ν) :
    table.lookup key = some value ↔ (key, value) ∈ table := by
  induction table with
  | nil => simp
  | cons head rest ih =>
    obtain ⟨first, content⟩ := head
    simp only [List.map_cons, List.nodup_cons] at distinct
    rw [List.lookup_cons, List.mem_cons, Prod.mk.injEq]
    by_cases same : key = first
    · subst same
      have absent : (key, value) ∉ rest := fun mem =>
        distinct.1 (List.mem_map_of_mem (f := Prod.fst) mem)
      simp [absent, eq_comm]
    · rw [beq_false_of_ne same]
      simp [same, ih distinct.2]

/-- A key is looked up in vain exactly when no pair has it. -/
theorem lookup_eq_none_iff_notMem {κ ν : Type} [BEq κ] [LawfulBEq κ] {table : List (κ × ν)}
    {key : κ} : table.lookup key = none ↔ key ∉ table.map Prod.fst := by
  rw [List.lookup_eq_none_iff, List.mem_map]
  constructor
  · rintro none ⟨pair, mem, rfl⟩
    simpa using none pair mem
  · intro absent pair mem
    rw [bne_iff_ne]
    exact fun same => absent ⟨pair, mem, same.symm⟩

/-- The items of a numbered list are those of the list. -/
theorem map_snd_numbered {α β : Type} (handle : Nat → β) (items : List α) :
    (items.zipIdx.map fun (item, index) => (handle index, item)).map Prod.snd = items := by
  rw [List.map_map]
  exact List.zipIdx_map_fst 0 items

/-- The numbers of a numbered list count up from zero. -/
theorem map_numbers {α β : Type} (handle : Nat → β) (items : List α) :
    (items.zipIdx.map fun (item, index) => (handle index, item)).map Prod.fst =
      (List.range items.length).map handle := by
  rw [List.range_eq_range', ← List.zipIdx_map_snd, List.map_map, List.map_map]
  rfl

/-- The numbers of a numbered list are distinct. -/
theorem nodup_numbered {α β : Type} {handle : Nat → β} (distinct : Function.Injective handle)
    (items : List α) :
    ((items.zipIdx.map fun (item, index) => (handle index, item)).map Prod.fst).Nodup := by
  rw [map_numbers]
  exact List.nodup_range.map distinct

namespace Model

variable {model : Model}

/-- The entity with number `id` is the one behind that handle. -/
theorem mem_entitiesWithIds {id : EntityId} {entity : Entity} :
    (id, entity) ∈ model.entitiesWithIds ↔ model.entity? id = some entity := by
  obtain ⟨index⟩ := id
  simp only [entitiesWithIds, entity?, List.mem_map, Prod.exists, Prod.mk.injEq,
    EntityId.mk.injEq, List.mem_zipIdx_iff_getElem?]
  constructor
  · rintro ⟨_, _, found, rfl, rfl⟩
    exact found
  · exact fun found => ⟨entity, index, found, rfl, rfl⟩

/-- The relationship with number `id` is the one behind that handle. -/
theorem mem_relationshipsWithIds {id : RelationshipId} {relationship : Relationship} :
    (id, relationship) ∈ model.relationshipsWithIds ↔
      model.relationship? id = some relationship := by
  obtain ⟨index⟩ := id
  simp only [relationshipsWithIds, relationship?, List.mem_map, Prod.exists, Prod.mk.injEq,
    RelationshipId.mk.injEq, List.mem_zipIdx_iff_getElem?]
  constructor
  · rintro ⟨_, _, found, rfl, rfl⟩
    exact found
  · exact fun found => ⟨relationship, index, found, rfl, rfl⟩

/-- No two entities have the same number. -/
theorem nodup_entitiesWithIds : (model.entitiesWithIds.map Prod.fst).Nodup :=
  nodup_numbered (fun _ _ same => EntityId.mk.inj same) model.entities

/-- No two relationships have the same number. -/
theorem nodup_relationshipsWithIds : (model.relationshipsWithIds.map Prod.fst).Nodup :=
  nodup_numbered (fun _ _ same => RelationshipId.mk.inj same) model.relationships

/-- Without their handles the entities are those of the model, in order. -/
theorem map_snd_entitiesWithIds : model.entitiesWithIds.map Prod.snd = model.entities :=
  map_snd_numbered EntityId.mk model.entities

/-- Without their handles the relationships are those of the model, in order. -/
theorem map_snd_relationshipsWithIds :
    model.relationshipsWithIds.map Prod.snd = model.relationships :=
  map_snd_numbered RelationshipId.mk model.relationships

/-- A name is looked up in vain exactly when no entity has it. -/
theorem entityId?_eq_none_iff {text : String} :
    model.entityId? text = none ↔ ∀ entity ∈ model.entities, entity.name ≠ Name.ofEntity text := by
  simp [entityId?]

/-- A name that is looked up leads to an entity with that name. -/
theorem exists_entity?_of_entityId? {text : String} {id : EntityId}
    (found : model.entityId? text = some id) :
    ∃ entity, model.entity? id = some entity ∧ entity.name = Name.ofEntity text := by
  obtain ⟨index, first, rfl⟩ := Option.map_eq_some_iff.1 found
  obtain ⟨bound, same, -⟩ := List.findIdx?_eq_some_iff_getElem.1 first
  exact ⟨_, List.getElem?_eq_getElem bound, beq_iff_eq.1 same⟩

/-- An entity names a relationship among its own exactly when a link of it names the entity. -/
theorem mem_relationshipsOf {id : EntityId} {relationshipId : RelationshipId} :
    relationshipId ∈ model.relationshipsOf id ↔
      ∃ relationship, model.relationship? relationshipId = some relationship ∧
        ∃ link ∈ relationship.links, link.entity = some id := by
  simp only [relationshipsOf, List.mem_map, List.mem_filter, Prod.exists, exists_and_right,
    exists_eq_right, mem_relationshipsWithIds, List.any_eq_true, beq_iff_eq]

end Model

/-- The participants of a relationship are the entities that its links name. -/
theorem Relationship.mem_participants {relationship : Relationship} {id : EntityId} :
    id ∈ relationship.participants ↔ ∃ link ∈ relationship.links, link.entity = some id := by
  simp [participants, List.mem_filterMap]

end ErSchema
