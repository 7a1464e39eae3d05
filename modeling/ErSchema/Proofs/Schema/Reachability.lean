import ErSchema.Proofs.Extension
import ErSchema.Proofs.Schema.Findings

/-!
# Elaboration as a run

Elaboration changes its model by calls only, at most one for each declaration.  So the model of a
document, whether the document is accepted or not, is one that a caller could have built from an
empty model, and what holds of all runs holds of it.
-/

set_option autoImplicit false

namespace ErSchema

/-- Whether a run leads from one model to another. -/
def Model.Reaches (model later : Model) : Prop :=
  ∃ operations, model.run operations = later

namespace Model.Reaches

/-- A run without calls leads from a model to itself. -/
theorem refl (model : Model) : model.Reaches model :=
  ⟨[], rfl⟩

/-- Runs can follow one another. -/
theorem trans {model middle later : Model} (lower : model.Reaches middle)
    (upper : middle.Reaches later) : model.Reaches later := by
  obtain ⟨before, rfl⟩ := lower
  obtain ⟨after, rfl⟩ := upper
  exact ⟨before ++ after, run_append model before after⟩

/-- A single call is a run. -/
theorem apply (model : Model) (operation : Operation) : model.Reaches (model.apply operation) :=
  ⟨[operation], rfl⟩

/-- A run keeps everything in the model. -/
theorem keeps {model later : Model} (reaches : model.Reaches later) : model.Extends later := by
  obtain ⟨operations, rfl⟩ := reaches
  exact extends_run model operations

end Model.Reaches

namespace Schema.Elaboration

/-- Handling an entity changes the model by calls only. -/
theorem reaches_addEntity (state : Elaboration) (declaration : EntityDeclaration) :
    state.model.Reaches (state.addEntity declaration).model := by
  by_cases taken : formal declaration.name ∈ state.names
  · rw [addEntity_of_taken taken, model_note]
    exact .refl state.model
  · rw [addEntity_of_free taken]
    exact .apply state.model (.addEntity declaration.toEntity)

/-- So does handling a specialization. -/
theorem reaches_addSpecialization (state : Elaboration)
    (declaration : SpecializationDeclaration) :
    state.model.Reaches (state.addSpecialization declaration).model := by
  obtain ⟨next, same, rfl | ⟨added, accepted⟩⟩ := addSpecialization_cases state declaration
  · rw [same]
    exact .refl state.model
  · have taken : state.model.apply (.specialize added) = next := by
      rw [Model.apply, accepted, Model.orKeep]
    rw [same, ← taken]
    exact .apply state.model (.specialize added)

/-- So does handling a relationship. -/
theorem reaches_addRelationship (state : Elaboration) (declaration : RelationshipDeclaration) :
    state.model.Reaches (state.addRelationship declaration).model := by
  by_cases taken : formal declaration.name ∈ state.names
  · rw [addRelationship_of_taken taken, model_note]
    exact .refl state.model
  · rw [addRelationship_of_free taken]
    -- a relationship with an undeclared participant is not given to the model
    dsimp only
    split
    · exact .apply state.model (.addRelationship _)
    · exact .refl state.model

/-- Declarations that are handled one after the other make a run when each of them does. -/
theorem reaches_foldl {α : Type} {add : Elaboration → α → Elaboration}
    (each : ∀ (state : Elaboration) (declaration : α),
      state.model.Reaches (add state declaration).model)
    (state : Elaboration) (declarations : List α) :
    state.model.Reaches (declarations.foldl add state).model := by
  induction declarations generalizing state with
  | nil => exact .refl state.model
  | cons declaration rest ih => exact (each state declaration).trans (ih (add state declaration))

/-- The model of a document is built by a run from an empty model. -/
theorem reaches_run (document : Document) :
    (Model.empty document.name document.description document.authors).Reaches
      (run document).model := by
  have entities := reaches_foldl reaches_addEntity (start document) document.entities
  have specializations := reaches_foldl reaches_addSpecialization (afterEntities document)
    document.specializations
  have relationships := reaches_foldl reaches_addRelationship (afterSpecializations document)
    document.relationships
  exact entities.trans (specializations.trans relationships)

end Schema.Elaboration

end ErSchema
