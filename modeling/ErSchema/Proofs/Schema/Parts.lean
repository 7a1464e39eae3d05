import ErSchema.Proofs.Parts
import ErSchema.Proofs.Schema.Acceptance

/-!
# The parts of a declared model

Elaboration makes its entities and relationships as callers do, by naming them and by adding one
attribute after the other, and it changes its model by calls only.  So the model of an accepted
document consists of assembled parts (`assembled_of_elaborate`), and what holds of the models that
callers make holds of it.
-/

set_option autoImplicit false

namespace ErSchema.Schema

mutual

/-- A declared attribute is assembled, with its components. -/
theorem AttributeDeclaration.assembled :
    ∀ declaration : AttributeDeclaration, declaration.toAttribute.Assembled
  | ⟨name, kind, isKey, components⟩ => by
    rw [AttributeDeclaration.toAttribute]
    exact (Attribute.Assembled.named kind name isKey).addComponents
      (assembled_toAttributes components)

/-- Declared attributes are assembled. -/
theorem assembled_toAttributes :
    ∀ declarations : List AttributeDeclaration, ∀ item ∈ toAttributes declarations, item.Assembled
  | [] => by simp [toAttributes]
  | first :: rest => by
    rw [toAttributes, List.forall_mem_cons]
    exact ⟨first.assembled, assembled_toAttributes rest⟩

end

/-- A declared entity is assembled. -/
theorem EntityDeclaration.assembled (declaration : EntityDeclaration) :
    declaration.toEntity.Assembled :=
  (Entity.Assembled.named _ _).addAttributes (assembled_toAttributes declaration.attributes)

/-- A declared relationship is assembled, whatever its links are. -/
theorem RelationshipDeclaration.assembled (declaration : RelationshipDeclaration)
    (links : List Link) : (declaration.withLinks links).Assembled :=
  ⟨_, _, links, _, rfl, assembled_toAttributes declaration.attributes⟩

namespace Elaboration

section Step

variable {state : Elaboration} (assembled : state.model.Assembled)

include assembled

/-- Handling an entity keeps the model assembled. -/
theorem assembled_addEntity (declaration : EntityDeclaration) :
    (state.addEntity declaration).model.Assembled := by
  by_cases taken : formal declaration.name ∈ state.names
  · rw [addEntity_of_taken taken, model_note]
    exact assembled
  · rw [addEntity_of_free taken]
    exact assembled.addEntity declaration.assembled

/-- Handling a specialization keeps the model assembled. -/
theorem assembled_addSpecialization (declaration : SpecializationDeclaration) :
    (state.addSpecialization declaration).model.Assembled := by
  obtain ⟨next, same, rfl | ⟨added, accepted⟩⟩ := addSpecialization_cases state declaration
  · rw [same]
    exact assembled
  · rw [same]
    exact assembled.specialize accepted

/-- Handling a relationship keeps the model assembled. -/
theorem assembled_addRelationship (declaration : RelationshipDeclaration) :
    (state.addRelationship declaration).model.Assembled := by
  by_cases taken : formal declaration.name ∈ state.names
  · rw [addRelationship_of_taken taken, model_note]
    exact assembled
  · rw [addRelationship_of_free taken]
    -- a relationship with an undeclared participant is not given to the model
    dsimp only
    split
    · exact Model.holds_orKeep_addRelationship assembled fun issued next accepted =>
        assembled.addRelationship (declaration.assembled _) accepted
    · exact assembled

end Step

/-- The parts of a model are assembled to the end of elaboration, whether the document is accepted
or not. -/
theorem assembled_run (document : Document) : (run document).model.Assembled := by
  have entities : (afterEntities document).model.Assembled :=
    List.foldlRecOn (motive := (·.model.Assembled)) document.entities addEntity
      (Model.assembled_empty _ _ _)
      fun _ sofar declaration _ => assembled_addEntity sofar declaration
  have specializations : (afterSpecializations document).model.Assembled :=
    List.foldlRecOn (motive := (·.model.Assembled)) document.specializations addSpecialization
      entities
      fun _ sofar declaration _ => assembled_addSpecialization sofar declaration
  exact List.foldlRecOn (motive := (·.model.Assembled)) document.relationships addRelationship
    specializations
    fun _ sofar declaration _ => assembled_addRelationship sofar declaration

end Elaboration

/-- The model of an accepted document is one whose parts callers could have made. -/
theorem assembled_of_elaborate {document : Document} {model : Model} {warnings : List Diagnostic}
    (accepted : document.elaborate = .ok (model, warnings)) : model.Assembled := by
  obtain ⟨-, -, rfl⟩ := elaborated_of_elaborate accepted
  exact Elaboration.assembled_run document

end ErSchema.Schema
