import ErSchema.Proofs.Update

/-!
# The parts that callers make

Callers make attributes, entities and relationships by naming them and by adding one part after the
other; the fields themselves are not theirs to set.  So a name is always in its normal form, and the
position of a key is always that of the first attribute with the key flag.  `Assembled` lists the
ways of making a part.  Every run whose calls add assembled parts leads to a model of assembled
parts: an accepted specialization is one more way to go on with an entity.
-/

set_option autoImplicit false

namespace ErSchema

/-- The attributes that callers make: a kind, a name and a flag, and components one after the
other. -/
inductive Attribute.Assembled : Attribute → Prop
  | named (kind : AttributeKind) (name : String) (isKey : Bool) :
      Assembled (.ofName kind name isKey)
  | withComponent {owner component : Attribute} (assembled : Assembled owner)
      (part : Assembled component) : Assembled (owner.addComponent component)

/-- An assembled attribute has a name in normal form, because every text is normalized on its way
in. -/
theorem Attribute.Assembled.exists_name {item : Attribute} (assembled : item.Assembled) :
    ∃ text, item.name = Name.ofAttribute text := by
  induction assembled with
  | named kind name isKey => exact ⟨name, rfl⟩
  | withComponent assembled part ih => exact ih

/-- Assembled components may be added all at once. -/
theorem Attribute.Assembled.addComponents {owner : Attribute} (assembled : owner.Assembled)
    {components : List Attribute} (parts : ∀ component ∈ components, component.Assembled) :
    (owner.addComponents components).Assembled :=
  List.foldlRecOn components Attribute.addComponent assembled
    fun _ sofar component mem => sofar.withComponent (parts component mem)

/-- The entities that callers make: a kind and a name, and attributes and specializations in any
order. -/
inductive Entity.Assembled : Entity → Prop
  | named (kind : EntityKind) (name : String) : Assembled (.ofName kind name)
  | withAttribute {entity : Entity} {added : Attribute} (assembled : Assembled entity)
      (part : added.Assembled) : Assembled (entity.addAttribute added)
  | attached {entity : Entity} (assembled : Assembled entity) (added : Specialization) :
      Assembled (entity.attach added)

/-- Assembled attributes may be added all at once. -/
theorem Entity.Assembled.addAttributes {entity : Entity} (assembled : entity.Assembled)
    {attributes : List Attribute} (parts : ∀ item ∈ attributes, item.Assembled) :
    (entity.addAttributes attributes).Assembled :=
  List.foldlRecOn attributes Entity.addAttribute assembled
    fun _ sofar item mem => sofar.withAttribute (parts item mem)

namespace Entity.Assembled

variable {entity : Entity} (assembled : entity.Assembled)

include assembled

/-- An assembled entity has a name in normal form. -/
theorem exists_name : ∃ text, entity.name = Name.ofEntity text := by
  induction assembled with
  | named kind name => exact ⟨name, rfl⟩
  | withAttribute assembled part ih => exact ih
  | attached assembled added ih => exact ih

/-- The attributes of an assembled entity are assembled. -/
theorem attributes : ∀ item ∈ entity.attributes, item.Assembled := by
  induction assembled with
  | named kind name =>
    intro item mem
    cases mem
  | withAttribute assembled part ih =>
    intro item mem
    rcases List.mem_append.1 mem with old | new
    · exact ih item old
    · rw [List.mem_singleton.1 new]
      exact part
  | attached assembled added ih => exact ih

/-- The key stands where the first attribute with the key flag does. -/
theorem keyPosition_eq : entity.keyPosition = entity.attributes.findIdx? Attribute.isKey := by
  induction assembled with
  | named kind name => rfl
  | @withAttribute entity added assembled part ih =>
    unfold addAttribute
    rw [List.findIdx?_append, ← ih]
    cases flag : added.isKey <;> cases entity.keyPosition <;> simp [flag]
  | attached assembled added ih => exact ih

end Entity.Assembled

/-- The relationships that callers make: a kind, a name, links and attributes. -/
def Relationship.Assembled (relationship : Relationship) : Prop :=
  ∃ kind name links attributes, relationship = .ofName kind name links attributes ∧
    ∀ item ∈ attributes, item.Assembled

namespace Model

/-- Whether callers made the part that a call adds. -/
def Operation.Assembled : Operation → Prop
  | .addEntity entity | .add (.entity entity) => entity.Assembled
  | .addRelationship relationship | .add (.relationship relationship) => relationship.Assembled
  | .specialize _ => True

/-- Whether callers made all parts of a model. -/
structure Assembled (model : Model) : Prop where
  entities : ∀ entity ∈ model.entities, entity.Assembled
  relationships : ∀ relationship ∈ model.relationships, relationship.Assembled

/-- An empty model has no parts that were not assembled. -/
theorem assembled_empty (name description : String) (authors : List String) :
    Assembled (.empty name description authors) where
  entities _ mem := nomatch mem
  relationships _ mem := nomatch mem

section Step

variable {model next : Model} (assembled : Assembled model)

include assembled

/-- An assembled entity may be added. -/
theorem Assembled.addEntity {added : Entity} (part : added.Assembled) :
    Assembled (model.addEntity added).2 where
  entities entity mem := by
    rcases List.mem_append.1 mem with old | new
    · exact assembled.entities entity old
    · rw [List.mem_singleton.1 new]
      exact part
  relationships := assembled.relationships

/-- An assembled relationship may be added, with or without a claim. -/
theorem Assembled.addRelationship {added : Relationship} {issued : RelationshipId}
    (part : added.Assembled) (accepted : model.addRelationship added = .ok (issued, next)) :
    Assembled next := by
  obtain ⟨claimed, -, -, rfl⟩ := addRelationship_eq_ok_iff.1 accepted
  refine ⟨assembled.entities, ?_⟩
  intro relationship mem
  rcases List.mem_append.1 mem with old | new
  · exact assembled.relationships relationship old
  · rw [List.mem_singleton.1 new]
    exact part

/-- An accepted specialization goes on with the entity that it names as its parent. -/
theorem Assembled.specialize {added : Specialization}
    (accepted : model.specialize added = .ok next) : Assembled next := by
  obtain ⟨earlier, parent, later, split, -, rfl⟩ := exists_split_of_specialize accepted
  have before := assembled.entities
  rw [split] at before
  simp only [List.forall_mem_append, List.forall_mem_cons] at before
  refine ⟨?_, assembled.relationships⟩
  simp only [List.forall_mem_append, List.forall_mem_cons]
  exact ⟨before.1, before.2.1.attached added, before.2.2⟩

end Step

/-- Callers made all parts of a model that their calls lead to. -/
theorem Assembled.run {start : Model} (assembled : Assembled start) {operations : List Operation}
    (parts : ∀ operation ∈ operations, operation.Assembled) : Assembled (start.run operations) := by
  refine run_preserves ?_ ?_ ?_ assembled parts
  · rintro model operation added part (rfl | rfl) assembled
    · exact assembled.addEntity part
    · exact assembled.addEntity part
  · rintro model operation added issued next part (rfl | rfl) assembled accepted
    · exact assembled.addRelationship part accepted
    · exact assembled.addRelationship part accepted
  · intro model added next assembled accepted
    exact assembled.specialize accepted

end Model

end ErSchema
