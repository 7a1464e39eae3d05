import ErSchema.Proofs.Update

/-!
# The specializations of a reachable model

A specialization is kept in the list of its parent and holds the handles of derived entities.
`Divided` says that both fit the model: the entity that keeps a specialization is the one that the
specialization names, and every handle in it denotes an entity.

An entity could be added with specializations from elsewhere, about which nothing is known.  Callers
cannot build one (`Entity.Built`), so every run whose calls add such entities only keeps a model
divided.
-/

set_option autoImplicit false

namespace ErSchema

/-- The entities that a caller can build: a kind and a name, and attributes one after the other. -/
inductive Entity.Built : Entity → Prop
  | named (kind : EntityKind) (name : String) : Built (.ofName kind name)
  | withAttribute {entity : Entity} (built : Built entity) (added : Attribute) :
      Built (entity.addAttribute added)

/-- An entity that a caller builds has no specializations yet. -/
theorem Entity.Built.specializations_eq_nil {entity : Entity} (built : entity.Built) :
    entity.specializations = [] := by
  induction built with
  | named kind name => rfl
  | withAttribute built added ih => exact ih

/-- An entity that a caller builds has a name in normal form. -/
theorem Entity.Built.exists_name {entity : Entity} (built : entity.Built) :
    ∃ text, entity.name = Name.ofEntity text := by
  induction built with
  | named kind name => exact ⟨name, rfl⟩
  | withAttribute built added ih => exact ih

namespace Model

/-- Whether a call adds no entity other than one that a caller can build. -/
def Operation.AddsBuilt : Operation → Prop
  | .addEntity entity | .add (.entity entity) => entity.Built
  | .addRelationship _ | .add (.relationship _) | .specialize _ => True

/-- The entities of a model have names of entities, keep the specializations that name them as the
parent, and these specializations hold handles of entities only. -/
structure Divided (model : Model) : Prop where
  named : ∀ id entity, model.entity? id = some entity → ∃ text, entity.name = Name.ofEntity text
  parent : ∀ id entity, model.entity? id = some entity →
    ∀ specialization ∈ entity.specializations, specialization.parent = id
  derived : ∀ id entity, model.entity? id = some entity →
    ∀ specialization ∈ entity.specializations, ∀ subclass ∈ specialization.derived,
      ∃ child, model.entity? subclass = some child

/-- An empty model has no entities that could break the rule. -/
theorem divided_empty (name description : String) (authors : List String) :
    Divided (.empty name description authors) where
  named id entity found := by simp [entity?, empty] at found
  parent id entity found := by simp [entity?, empty] at found
  derived id entity found := by simp [entity?, empty] at found

section Step

variable {model next : Model} (divided : Divided model)

include divided

/-- A new entity of a caller brings no specializations, so the model stays divided. -/
theorem Divided.addEntity {added : Entity} (built : added.Built) :
    Divided (model.addEntity added).2 := by
  have none := built.specializations_eq_nil
  constructor
  · intro id entity found
    rcases entity?_addEntity_eq_some_iff.1 found with found | ⟨-, rfl⟩
    · exact divided.named id entity found
    · exact built.exists_name
  · intro id entity found specialization mem
    rcases entity?_addEntity_eq_some_iff.1 found with found | ⟨-, rfl⟩
    · exact divided.parent id entity found specialization mem
    · rw [none] at mem
      cases mem
  · intro id entity found specialization mem subclass listed
    rcases entity?_addEntity_eq_some_iff.1 found with found | ⟨-, rfl⟩
    · obtain ⟨child, issued⟩ := divided.derived id entity found specialization mem subclass listed
      exact ⟨child, entity?_addEntity_eq_some_iff.2 (.inl issued)⟩
    · rw [none] at mem
      cases mem

/-- A new relationship leaves the entities as they are. -/
theorem Divided.addRelationship {relationship : Relationship} {issued : RelationshipId}
    (accepted : model.addRelationship relationship = .ok (issued, next)) : Divided next := by
  have same : next.entity? = model.entity? := by
    funext id
    rw [entity?, entity?, entities_of_addRelationship accepted]
  constructor <;> rw [same]
  · exact divided.named
  · exact divided.parent
  · exact divided.derived

/-- The handles in the attached specialization were looked at, and attaching it changes no name. -/
theorem Divided.specialize {added : Specialization}
    (accepted : model.specialize added = .ok next) : Divided next := by
  have kept : ∀ {id child}, model.entity? id = some child → ∃ child, next.entity? id = some child :=
    fun found => ⟨_, by rw [entity?_of_specialize accepted, found]; rfl⟩
  constructor
  · intro id entity found
    rw [entity?_of_specialize accepted] at found
    obtain ⟨before, present, rfl⟩ := Option.map_eq_some_iff.1 found
    obtain ⟨text, name⟩ := divided.named id before present
    refine ⟨text, ?_⟩
    split <;> exact name
  · intro id entity found specialization mem
    rw [entity?_of_specialize accepted] at found
    obtain ⟨before, present, rfl⟩ := Option.map_eq_some_iff.1 found
    split at mem
    · next same =>
      rcases List.mem_append.1 mem with old | new
      · exact divided.parent id before present specialization old
      · rw [List.mem_singleton.1 new, same]
    · exact divided.parent id before present specialization mem
  · intro id entity found specialization mem subclass listed
    rw [entity?_of_specialize accepted] at found
    obtain ⟨before, present, rfl⟩ := Option.map_eq_some_iff.1 found
    have earlier : specialization ∈ before.specializations →
        ∃ child, next.entity? subclass = some child := by
      intro old
      obtain ⟨child, issued⟩ := divided.derived id before present specialization old subclass listed
      exact kept issued
    split at mem
    · rcases List.mem_append.1 mem with old | new
      · exact earlier old
      · rw [List.mem_singleton.1 new] at listed
        obtain ⟨child, issued⟩ :=
          exists_entity_of_specialize accepted (List.mem_append_left _ listed)
        exact kept issued
    · exact earlier mem

end Step

/-- Every run keeps a model divided when its calls add entities that a caller can build. -/
theorem Divided.run {start : Model} (divided : Divided start) {operations : List Operation}
    (built : ∀ operation ∈ operations, operation.AddsBuilt) : Divided (start.run operations) := by
  refine run_preserves ?_ ?_ ?_ divided built
  · rintro model operation added allowed (rfl | rfl) divided
    · exact divided.addEntity allowed
    · exact divided.addEntity allowed
  · intro model operation added issued next _ _ divided accepted
    exact divided.addRelationship accepted
  · intro model added next divided accepted
    exact divided.specialize accepted

end Model

end ErSchema
