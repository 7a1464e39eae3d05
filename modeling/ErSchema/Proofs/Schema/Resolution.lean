import ErSchema.Proofs.Schema.Acceptance

/-!
# References and the lookup of a model

Elaboration keeps an index of the entities by name, and the model has no index: it goes through its
entities and takes the first one with the name.  `InStep` says why both find the same handle, for
any document and after every declaration: the index lists the names of the entities at their
positions, and a name that was declared is given to nothing else.

`resolve_agrees` concludes that a reference is resolved to the handle that the model of an
accepted document finds for it, from the last entity on, and that at most one part of the model has
the name.
-/

set_option autoImplicit false

namespace ErSchema

/-! ## Names in a model -/

namespace Model

variable {model : Model}

/-- When the names of the entities are distinct, a text leads to the one entity with its form. -/
theorem entityId?_eq_some_iff (distinct : (model.entities.map Entity.name).Nodup) {text : String}
    {id : EntityId} : model.entityId? text = some id ↔
      ∃ entity, model.entity? id = some entity ∧ entity.name = Name.ofEntity text := by
  constructor
  · exact exists_entity?_of_entityId?
  · rintro ⟨entity, issued, named⟩
    cases found : model.entityId? text with
    | none =>
      have listed : entity ∈ model.entities := List.mem_of_getElem? issued
      exact absurd named (entityId?_eq_none_iff.1 found entity listed)
    | some first =>
      obtain ⟨other, issued', named'⟩ := exists_entity?_of_entityId? found
      obtain ⟨index⟩ := id
      obtain ⟨position⟩ := first
      rw [entity?] at issued issued'
      have bound : position < (model.entities.map Entity.name).length := by
        rw [List.length_map]
        exact (List.getElem?_eq_some_iff.1 issued').1
      have same : position = index := by
        apply (List.getElem?_inj bound distinct).1
        rw [List.getElem?_map, List.getElem?_map, issued, issued', Option.map_some,
          Option.map_some, named, named']
      rw [same]

/-- A new specialization changes neither the names of the entities nor the relationships. -/
theorem map_name_of_specialize {added : Specialization} {next : Model}
    (accepted : model.specialize added = .ok next) :
    next.entities.map Entity.name = model.entities.map Entity.name ∧
      next.relationships = model.relationships := by
  obtain ⟨-, rfl⟩ := specialize_eq_ok_iff.1 accepted
  refine ⟨List.ext_getElem? fun index => ?_, rfl⟩
  rw [List.getElem?_map, List.getElem?_map, List.getElem?_modify]
  cases model.entities[index]? with
  | none => rfl
  | some entity =>
    split
    · rfl
    · rfl

end Model

namespace Schema

/-- In the index of numbered names a name leads to its first place. -/
theorem lookup_numbered (names : List String) (name : String) :
    (numbered names).lookup name = (names.findIdx? (· == name)).map EntityId.mk := by
  induction names using List.reverseRecOn with
  | nil => rfl
  | append_singleton earlier last ih =>
    rw [numbered_concat, List.lookup_append, ih, List.findIdx?_append, Option.map_or]
    congr 1
    by_cases same : last = name
    · simp [same]
    · simp [same, List.lookup_cons, beq_false_of_ne (Ne.symm same)]

/-! ## The index in step with the model -/

namespace Elaboration

/-- How the index and the declared names stand to the model, whatever was wrong with the
declarations handled so far. -/
structure InStep (state : Elaboration) : Prop where
  index_eq : state.index = numbered (state.model.entities.map Entity.name)
  distinct : (state.model.entities.map Entity.name ++
    state.model.relationships.map Relationship.name).Nodup
  declared : ∀ name ∈ state.model.entities.map Entity.name ++
    state.model.relationships.map Relationship.name, name ∈ state.names

namespace InStep

/-- At the start model, index and names are empty. -/
theorem start (document : Document) : InStep (.start document) where
  index_eq := rfl
  distinct := List.nodup_nil
  declared _ mem := absurd mem List.not_mem_nil

section State

variable {state : Elaboration} (inStep : state.InStep)

include inStep

/-- A reference leads to the entity that the model finds under its text, or is reported. -/
theorem resolve_eq (reference : WrittenName) :
    state.resolve reference =
      match state.model.entityId? reference.value with
      | some id => .ok id
      | none => .error (.undeclared (formal reference) reference.span) := by
  have found : state.index.lookup (formal reference) = state.model.entityId? reference.value := by
    rw [inStep.index_eq, lookup_numbered, List.findIdx?_map]
    rfl
  rw [← found]
  rfl

/-- Noting diagnostics keeps the index in step. -/
theorem note (diagnostics : List Diagnostic) : (state.note diagnostics).InStep :=
  ⟨inStep.index_eq, inStep.distinct, inStep.declared⟩

/-- A name that is free comes new to the names in the model. -/
theorem nodup_cons {name : String} (free : name ∉ state.names) :
    (name :: (state.model.entities.map Entity.name ++
      state.model.relationships.map Relationship.name)).Nodup :=
  List.nodup_cons.2 ⟨fun mem => free (inStep.declared name mem), inStep.distinct⟩

/-- Index and model stay in step when no entity and no relationship is added. -/
theorem of_keeps {next : Elaboration} (index : next.index = state.index)
    (entities : next.model.entities.map Entity.name = state.model.entities.map Entity.name)
    (relationships : next.model.relationships = state.model.relationships)
    (names : state.names ⊆ next.names) : next.InStep where
  index_eq := by rw [index, entities, inStep.index_eq]
  distinct := by
    rw [entities, relationships]
    exact inStep.distinct
  declared name mem := by
    rw [entities, relationships] at mem
    exact names (inStep.declared name mem)

/-- An entity that is added gets the next handle in the index too. -/
theorem addEntity (declaration : EntityDeclaration) : (state.addEntity declaration).InStep := by
  by_cases taken : formal declaration.name ∈ state.names
  · rw [addEntity_of_taken taken]
    exact inStep.note _
  · have entities : (state.model.addEntity declaration.toEntity).2.entities.map Entity.name =
        state.model.entities.map Entity.name ++ [formal declaration.name] := by
      rw [← declaration.name_toEntity]
      exact List.map_append
    rw [addEntity_of_free taken]
    refine ⟨?_, ?_, ?_⟩
    · rw [entities, numbered_concat, List.length_map, ← inStep.index_eq]
    · -- the names of the relationships stand behind those of the entities
      rw [entities, List.append_assoc, List.singleton_append, List.nodup_middle]
      exact inStep.nodup_cons taken
    · intro name mem
      rw [entities, List.append_assoc, List.singleton_append] at mem
      rw [names, List.map_append, List.mem_append]
      rcases List.mem_cons.1 (List.perm_middle.mem_iff.1 mem) with rfl | old
      · exact .inr (List.mem_singleton.2 rfl)
      · exact .inl (inStep.declared name old)

/-- Handling a specialization keeps the index in step. -/
theorem addSpecialization (declaration : SpecializationDeclaration) :
    (state.addSpecialization declaration).InStep := by
  obtain ⟨next, same, rfl | ⟨added, accepted⟩⟩ := addSpecialization_cases state declaration
  · rw [same]
    exact inStep.of_keeps rfl rfl rfl (List.Subset.refl _)
  · obtain ⟨entities, relationships⟩ := Model.map_name_of_specialize accepted
    rw [same]
    exact inStep.of_keeps rfl entities relationships (List.Subset.refl _)

/-- A relationship that is added has a name that no entity has. -/
theorem addRelationship (declaration : RelationshipDeclaration) :
    (state.addRelationship declaration).InStep := by
  by_cases taken : formal declaration.name ∈ state.names
  · rw [addRelationship_of_taken taken]
    exact inStep.note _
  · obtain ⟨next, same, kept⟩ := addRelationship_cases taken
    have grows : state.names ⊆
        (state.declared ++ [(formal declaration.name, declaration.name.span)]).map Prod.fst := by
      rw [List.map_append]
      exact List.subset_append_left _ _
    rw [same]
    rcases kept with rfl | ⟨id, accepted⟩
    · -- the name stays declared though the model has not taken the relationship
      exact inStep.of_keeps rfl rfl rfl grows
    · obtain ⟨claimed, -, -, rfl⟩ := Model.addRelationship_eq_ok_iff.1 accepted
      refine ⟨inStep.index_eq, ?_, ?_⟩
      · rw [List.map_append, ← List.append_assoc, List.nodup_append_comm]
        exact inStep.nodup_cons taken
      · intro name mem
        rw [List.map_append, ← List.append_assoc, List.mem_append] at mem
        rcases mem with old | new
        · exact grows (inStep.declared name old)
        · rw [List.mem_singleton.1 new, names, List.map_append]
          exact List.mem_append_right _ (List.mem_singleton.2 rfl)

end State

end InStep

/-- Index and model are in step at the end, whether the document is accepted or not. -/
theorem inStep_run (document : Document) : (run document).InStep := by
  have entities : (afterEntities document).InStep :=
    List.foldlRecOn document.entities Elaboration.addEntity (.start document)
      fun _ inStep declaration _ => inStep.addEntity declaration
  have specializations : (afterSpecializations document).InStep :=
    List.foldlRecOn document.specializations Elaboration.addSpecialization entities
      fun _ inStep declaration _ => inStep.addSpecialization declaration
  rw [run_eq]
  exact List.foldlRecOn document.relationships Elaboration.addRelationship specializations
    fun _ inStep declaration _ => inStep.addRelationship declaration

/-! ## The index after the last entity -/

/-- Handling a specialization leaves the index as it is. -/
theorem index_addSpecialization (state : Elaboration) (declaration : SpecializationDeclaration) :
    (state.addSpecialization declaration).index = state.index := by
  obtain ⟨next, same, -⟩ := addSpecialization_cases state declaration
  rw [same]

/-- Handling a relationship leaves the index as it is. -/
theorem index_addRelationship (state : Elaboration) (declaration : RelationshipDeclaration) :
    (state.addRelationship declaration).index = state.index := by
  by_cases taken : formal declaration.name ∈ state.names
  · rw [addRelationship_of_taken taken, index_note]
  · rw [addRelationship_of_free taken]

/-- Once all entities have been handled, the index stays as it is. -/
theorem index_foldl (state : Elaboration) (divisions : List SpecializationDeclaration)
    (relationships : List RelationshipDeclaration) :
    (relationships.foldl addRelationship (divisions.foldl addSpecialization state)).index =
      state.index := by
  have specializations : (divisions.foldl addSpecialization state).index = state.index :=
    List.foldlRecOn (motive := fun next => next.index = state.index) divisions addSpecialization rfl
      fun next same declaration _ => (index_addSpecialization next declaration).trans same
  exact List.foldlRecOn (motive := fun next => next.index = state.index) relationships
    addRelationship specializations
    fun next same declaration _ => (index_addRelationship next declaration).trans same

/-- Whether and to what a reference is resolved depends on the index alone. -/
theorem resolve_eq_of_index_eq {state other : Elaboration} (same : state.index = other.index)
    (reference : WrittenName) : state.resolve reference = other.resolve reference := by
  simp only [resolve, same]

end Elaboration

open Elaboration

/-- When an accepted document has got past its entities, every reference is resolved as the finished
model looks it up, whatever specializations and relationships were handled since.  The handle found
is that of the only entity with the name, nothing is found exactly when no entity has the name, and
when an entity has the name no relationship has it. -/
theorem resolve_agrees {document : Document} {model : Model} {warnings : List Diagnostic}
    (accepted : document.elaborate = .ok (model, warnings))
    (divisions : List SpecializationDeclaration) (relationships : List RelationshipDeclaration)
    (reference : WrittenName) :
    let state := relationships.foldl addRelationship
      (divisions.foldl addSpecialization (afterEntities document))
    state.resolve reference =
      (match model.entityId? reference.value with
      | some id => .ok id
      | none => .error (.undeclared (formal reference) reference.span)) ∧
    (∀ id, model.entityId? reference.value = some id ↔
      ∃ entity, model.entity? id = some entity ∧ entity.name = formal reference) ∧
    (model.entityId? reference.value = none ↔
      ∀ entity ∈ model.entities, entity.name ≠ formal reference) ∧
    ∀ id, model.entityId? reference.value = some id →
      ∀ relationship ∈ model.relationships, relationship.name ≠ formal reference := by
  intro state
  obtain ⟨-, -, rfl⟩ := elaborated_of_elaborate accepted
  have inStep := inStep_run document
  obtain ⟨entities, -, apart⟩ := List.nodup_append.1 inStep.distinct
  have index : state.index = (run document).index := by
    rw [index_foldl, run_eq, afterSpecializations, index_foldl]
  refine ⟨?_, fun id => Model.entityId?_eq_some_iff entities, Model.entityId?_eq_none_iff, ?_⟩
  · rw [resolve_eq_of_index_eq index, inStep.resolve_eq]
  · intro id found relationship mem same
    obtain ⟨entity, issued, named⟩ := Model.exists_entity?_of_entityId? found
    have first := List.mem_map_of_mem (f := Entity.name) (List.mem_of_getElem? issued)
    have second := List.mem_map_of_mem (f := Relationship.name) mem
    exact apart _ first _ second (named.trans same.symm)

/-- The pet of the household is found under any spelling, before its relationships are handled. -/
theorem resolve_household :
    household.elaborate = .ok (householdModel, []) ∧
    (afterSpecializations household).resolve ⟨"pEt", 60, 63⟩ = .ok ⟨1⟩ := by
  have accepted : household.elaborate = .ok (householdModel, []) := rfl
  exact ⟨accepted,
    (resolve_agrees accepted household.specializations [] ⟨"pEt", 60, 63⟩).1⟩

end Schema

end ErSchema
