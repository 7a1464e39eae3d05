import ErSchema.Proofs.Identification
import ErSchema.Proofs.Update

/-!
# Handles that stay valid

A caller keeps the handles that a model issues and goes on building.  `Extends` says what the caller
may rely on: behind every handle there is still the same thing, except that an entity may have got
more specializations at the end of its list.  One call extends a model, extension is a preorder, and
so every run extends the model from which it starts.
-/

set_option autoImplicit false

namespace ErSchema

/-- What may become of an entity while its model grows. -/
structure Entity.GrowsInto (entity later : Entity) : Prop where
  kind : later.kind = entity.kind
  name : later.name = entity.name
  keyPosition : later.keyPosition = entity.keyPosition
  attributes : later.attributes = entity.attributes
  specializations : entity.specializations <+: later.specializations

namespace Entity.GrowsInto

/-- An entity grows into itself when nothing happens to it. -/
theorem refl (entity : Entity) : entity.GrowsInto entity :=
  ⟨rfl, rfl, rfl, rfl, List.prefix_refl _⟩

/-- An entity that grows twice grows. -/
theorem trans {entity middle later : Entity} (lower : entity.GrowsInto middle)
    (upper : middle.GrowsInto later) : entity.GrowsInto later where
  kind := upper.kind.trans lower.kind
  name := upper.name.trans lower.name
  keyPosition := upper.keyPosition.trans lower.keyPosition
  attributes := upper.attributes.trans lower.attributes
  specializations := lower.specializations.trans upper.specializations

/-- An entity grows by a specialization behind those it has. -/
theorem attach (entity : Entity) (added : Specialization) :
    entity.GrowsInto (entity.attach added) :=
  ⟨rfl, rfl, rfl, rfl, List.prefix_append _ _⟩

/-- The key is told by its position among the attributes, so it stays. -/
theorem key?_eq {entity later : Entity} (grows : entity.GrowsInto later) :
    later.key? = entity.key? := by
  unfold Entity.key?
  rw [grows.keyPosition, grows.attributes]

end Entity.GrowsInto

namespace Model

/-- Whether everything in a model is in a later model too, behind the same handles. -/
structure Extends (model later : Model) : Prop where
  name : later.name = model.name
  description : later.description = model.description
  authors : later.authors = model.authors
  entity : ∀ id entity, model.entity? id = some entity →
    ∃ grown, later.entity? id = some grown ∧ entity.GrowsInto grown
  relationship : ∀ id relationship, model.relationship? id = some relationship →
    later.relationship? id = some relationship
  identifying : ∀ id relationshipId, model.identifyingRelationship? id = some relationshipId →
    later.identifyingRelationship? id = some relationshipId

/-- A model extends itself. -/
theorem Extends.refl (model : Model) : Extends model model where
  name := rfl
  description := rfl
  authors := rfl
  entity _ entity found := ⟨entity, found, .refl entity⟩
  relationship _ _ found := found
  identifying _ _ found := found

/-- A model that extends an extension extends the first model. -/
theorem Extends.trans {model middle later : Model} (lower : Extends model middle)
    (upper : Extends middle later) : Extends model later where
  name := upper.name.trans lower.name
  description := upper.description.trans lower.description
  authors := upper.authors.trans lower.authors
  entity := by
    intro id entity found
    obtain ⟨grown, found', grows⟩ := lower.entity id entity found
    obtain ⟨last, found'', grows'⟩ := upper.entity id grown found'
    exact ⟨last, found'', grows.trans grows'⟩
  relationship id relationship found := upper.relationship id _ (lower.relationship id _ found)
  identifying id _ found := upper.identifying id _ (lower.identifying id _ found)

/-- No call removes or changes what is there; only an accepted specialization touches an entity, and
it goes to the end of the list of its parent. -/
theorem Step.extends {model next : Model} {operation : Operation}
    (step : Step model operation next) : Extends model next := by
  have relationship : ∀ id relationship, model.relationship? id = some relationship →
      next.relationship? id = some relationship := fun id _ found => step.relationship?_eq found
  have identifying := step.tableGrows.kept
  cases step with
  | refused => exact .refl model
  | entity added =>
    refine ⟨rfl, rfl, rfl, ?_, relationship, identifying⟩
    intro id entity found
    exact ⟨entity, entity?_addEntity_eq_some_iff.2 (.inl found), .refl entity⟩
  | relationship adds accepted =>
    have entities := entities_of_addRelationship accepted
    obtain ⟨claimed, -, -, rfl⟩ := addRelationship_eq_ok_iff.1 accepted
    refine ⟨rfl, rfl, rfl, ?_, relationship, identifying⟩
    intro id entity found
    exact ⟨entity, found, .refl entity⟩
  | @specialization added _ accepted =>
    have entity? := entity?_of_specialize accepted
    obtain ⟨-, rfl⟩ := specialize_eq_ok_iff.1 accepted
    refine ⟨rfl, rfl, rfl, ?_, relationship, identifying⟩
    intro id entity found
    rw [entity?, found, Option.map_some]
    refine ⟨_, rfl, ?_⟩
    split
    · exact .attach entity added
    · exact .refl entity

/-- A run extends the model from which it starts. -/
theorem extends_run (model : Model) (operations : List Operation) :
    Extends model (model.run operations) :=
  run_induction (fun _ _ _ step grows => grows.trans step.extends) (.refl model) operations

/-- What comes after a call extends the outcome of the call. -/
theorem extends_run_of_split {model : Model} {operations before after : List Operation}
    {operation : Operation} (split : operations = before ++ operation :: after) :
    Extends ((model.run before).apply operation) (model.run operations) := by
  have later := extends_run (model.run (before ++ [operation])) after
  rwa [← run_append, List.append_assoc, List.singleton_append, ← split, run_concat] at later

/-- A run keeps everything that the model held before, behind the same handles, and the keys of the
entities with it.  Every handle that a call of the run issues is the number of parts of its kind at
the time of the call, and after the rest of the run it still stands for what that call added. -/
theorem handles_stay_valid (model : Model) (operations : List Operation) :
    let final := model.run operations
    model.Extends final ∧
    (∀ id entity, model.entity? id = some entity →
      (final.entity? id).bind Entity.key? = entity.key?) ∧
    ∀ before operation after, operations = before ++ operation :: after →
      let current := model.run before
      (∀ added, operation = .addEntity added →
        (current.addEntity added).1 = ⟨current.entities.length⟩ ∧
        ∃ grown, final.entity? (current.addEntity added).1 = some grown ∧
          added.GrowsInto grown) ∧
      ∀ added issued next, operation = .addRelationship added →
        current.addRelationship added = .ok (issued, next) →
          issued = ⟨current.relationships.length⟩ ∧
          final.relationship? issued = some added := by
  intro final
  have grows : model.Extends final := extends_run model operations
  refine ⟨grows, ?_, ?_⟩
  · intro id entity found
    obtain ⟨grown, found', into⟩ := grows.entity id entity found
    rw [found', Option.bind_some, into.key?_eq]
  · intro before operation after split current
    have later : Extends (current.apply operation) final := extends_run_of_split split
    constructor
    · rintro added rfl
      refine ⟨rfl, later.entity _ added ?_⟩
      exact entity?_addEntity_eq_some_iff.2 (.inr ⟨rfl, rfl⟩)
    · rintro added issued next rfl accepted
      have outcome : current.apply (.addRelationship added) = next := by
        rw [apply, accepted]
        rfl
      have present := relationship?_of_addRelationship accepted
      obtain ⟨claimed, -, number, -⟩ := addRelationship_eq_ok_iff.1 accepted
      rw [outcome] at later
      exact ⟨number, later.relationship issued added present⟩

end Model

end ErSchema
