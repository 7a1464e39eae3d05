import ErSchema.Model.Construction
import Mathlib.Data.List.Induction

/-!
# Runs of construction calls

A caller builds a model by a sequence of calls, and the model may refuse any of them.  A refused
call leaves the model as it was, so a run is a fold that goes on after a refusal.

`Step` lists everything that one call can do to a model.  An invariant of all reachable models is
proved by going through its four cases and then by `run_induction`.  `exists_addition` goes the
other way, from a model back into its history: every relationship was added by one call of the run,
and the model at the time of that call is the one that the earlier calls made.
-/

set_option autoImplicit false

namespace ErSchema.Model

/-- A call by which a caller changes a model. -/
inductive Operation where
  | addEntity (entity : Entity)
  | addRelationship (relationship : Relationship)
  | add (member : Member)
  | specialize (specialization : Specialization)

/-- Whether a call asks for a relationship to be added. -/
def Operation.Adds (operation : Operation) (relationship : Relationship) : Prop :=
  operation = .addRelationship relationship ∨ operation = .add (.relationship relationship)

/-- Whether a call asks for an entity to be added. -/
def Operation.AddsEntity (operation : Operation) (entity : Entity) : Prop :=
  operation = .addEntity entity ∨ operation = .add (.entity entity)

/-- The outcome of a call, or the model as it was when the call is refused. -/
def orKeep (model : Model) : Except ConstructionError Model → Model
  | .ok next => next
  | .error _ => model

/-- The model after a call. -/
def apply (model : Model) : Operation → Model
  | .addEntity entity => (model.addEntity entity).2
  | .addRelationship relationship =>
    model.orKeep ((model.addRelationship relationship).map Prod.snd)
  | .add member => model.orKeep (model.add member)
  | .specialize specialization => model.orKeep (model.specialize specialization)

/-- The model after a sequence of calls. -/
def run (model : Model) (operations : List Operation) : Model :=
  operations.foldl apply model

/-- No calls leave the model as it is. -/
@[simp] theorem run_nil (model : Model) : model.run [] = model := rfl

/-- A run can be interrupted anywhere and taken up in the model that it has left. -/
theorem run_append (model : Model) (before after : List Operation) :
    model.run (before ++ after) = (model.run before).run after :=
  List.foldl_append

/-- The last call of a run is applied to what the calls before it have made. -/
@[simp] theorem run_concat (model : Model) (before : List Operation) (operation : Operation) :
    model.run (before ++ [operation]) = (model.run before).apply operation := by
  rw [run_append]
  rfl

/-! ## What a call does -/

/-- The claim of a relationship: nothing for a regular one, and for an identifying one the first
participant that awaits identification, who gets the next handle. -/
theorem claims_eq_ok_iff {model : Model} {relationship : Relationship}
    {claimed : List (EntityId × RelationshipId)} :
    model.claims relationship = .ok claimed ↔
      (relationship.isIdentifying = false ∧ claimed = []) ∨
      (relationship.isIdentifying = true ∧ ∃ weak, model.claim? relationship = some weak ∧
        claimed = [(weak, ⟨model.relationships.length⟩)]) := by
  unfold claims
  cases relationship.isIdentifying with
  | false => simp [eq_comm]
  | true => cases model.claim? relationship <;> simp [eq_comm]

/-- An accepted relationship goes to the end of the list, and what it claims to the end of the
table. -/
theorem addRelationship_eq_ok_iff {model next : Model} {relationship : Relationship}
    {id : RelationshipId} :
    model.addRelationship relationship = .ok (id, next) ↔
      ∃ claimed, model.claims relationship = .ok claimed ∧
        id = ⟨model.relationships.length⟩ ∧
        next =
          { model with
            relationships := model.relationships ++ [relationship]
            identifications := model.identifications ++ claimed } := by
  unfold addRelationship
  cases model.claims relationship with
  | error error => simp [bind, Except.bind]
  | ok claimed => simp [bind, Except.bind, pure, Except.pure, eq_comm]

/-- An accepted specialization names issued handles only and goes to the end of the list of its
parent. -/
theorem specialize_eq_ok_iff {model next : Model} {specialization : Specialization} :
    model.specialize specialization = .ok next ↔
      model.unknownEntity? specialization = none ∧
        next =
          { model with
            entities :=
              model.entities.modify specialization.parent.index (·.attach specialization) } := by
  unfold specialize
  cases model.unknownEntity? specialization <;> simp [eq_comm]

/-- Everything that a call can do to a model. -/
inductive Step (model : Model) (operation : Operation) : Model → Prop where
  /-- The call is refused. -/
  | refused : Step model operation model
  | entity (entity : Entity) : Step model operation (model.addEntity entity).2
  | relationship {relationship : Relationship} {id : RelationshipId} {next : Model}
      (adds : operation.Adds relationship)
      (accepted : model.addRelationship relationship = .ok (id, next)) :
      Step model operation next
  | specialization {specialization : Specialization} {next : Model}
      (accepted : model.specialize specialization = .ok next) : Step model operation next

/-- A call for a relationship adds it or is refused. -/
theorem step_addRelationship {model : Model} {operation : Operation} {relationship : Relationship}
    (adds : operation.Adds relationship) :
    Step model operation (model.orKeep ((model.addRelationship relationship).map Prod.snd)) := by
  cases accepted : model.addRelationship relationship with
  | error error => exact .refused
  | ok issued => exact .relationship adds accepted

/-- Every call is one of the steps. -/
theorem step_apply (model : Model) (operation : Operation) :
    Step model operation (model.apply operation) := by
  cases operation with
  | addEntity entity => exact .entity entity
  | addRelationship relationship => exact step_addRelationship (.inl rfl)
  | add member =>
    cases member with
    | entity entity => exact .entity entity
    | relationship relationship => exact step_addRelationship (.inr rfl)
  | specialize specialization =>
    show Step model _ (model.orKeep (model.specialize specialization))
    cases accepted : model.specialize specialization with
    | error error => exact .refused
    | ok next => exact .specialization accepted

/-- What every step preserves holds after every run. -/
theorem run_induction {holds : Model → Prop}
    (step : ∀ model operation next, Step model operation next → holds model → holds next)
    {start : Model} (initially : holds start) (operations : List Operation) :
    holds (start.run operations) := by
  induction operations generalizing start with
  | nil => exact initially
  | cons operation rest ih =>
    exact ih (step start operation _ (step_apply start operation) initially)

/-- What holds of a model, and of the outcome of a call that is accepted, holds after the call. -/
theorem holds_orKeep {holds : Model → Prop} {model : Model} (now : holds model)
    {outcome : Except ConstructionError Model}
    (accepted : ∀ next, outcome = .ok next → holds next) : holds (model.orKeep outcome) := by
  cases outcome with
  | error error => exact now
  | ok next => exact accepted next rfl

/-- What holds of a model and of it with an accepted relationship holds after the call. -/
theorem holds_orKeep_addRelationship {holds : Model → Prop} {model : Model} (now : holds model)
    {added : Relationship}
    (accepted : ∀ issued next, model.addRelationship added = .ok (issued, next) → holds next) :
    holds (model.orKeep ((model.addRelationship added).map Prod.snd)) := by
  apply holds_orKeep now
  intro next outcome
  cases call : model.addRelationship added with
  | error error =>
    rw [call] at outcome
    cases outcome
  | ok issued =>
    rw [call] at outcome
    cases outcome
    exact accepted issued.1 issued.2 call

/-- What every accepted call preserves holds after every run, when the calls of the run are such as
`admits` asks for. -/
theorem run_preserves {holds : Model → Prop} {admits : Operation → Prop}
    (entity : ∀ model operation added, admits operation → operation.AddsEntity added →
      holds model → holds (model.addEntity added).2)
    (relationship : ∀ model operation added issued next, admits operation → operation.Adds added →
      holds model → model.addRelationship added = .ok (issued, next) → holds next)
    (specialization : ∀ model added next, holds model → model.specialize added = .ok next →
      holds next)
    {start : Model} (initially : holds start) {operations : List Operation}
    (admitted : ∀ operation ∈ operations, admits operation) : holds (start.run operations) := by
  induction operations generalizing start with
  | nil => exact initially
  | cons operation rest ih =>
    simp only [List.mem_cons, forall_eq_or_imp] at admitted
    obtain ⟨allowed, admitted⟩ := admitted
    have added : ∀ part, operation.Adds part →
        holds (start.orKeep ((start.addRelationship part).map Prod.snd)) :=
      fun part adds => holds_orKeep_addRelationship initially fun issued next accepted =>
        relationship start operation part issued next allowed adds initially accepted
    have later : holds (start.apply operation) → holds ((start.apply operation).run rest) :=
      fun next => ih next admitted
    apply later
    cases operation with
    | addEntity part => exact entity start _ part allowed (.inl rfl) initially
    | addRelationship part => exact added part (.inl rfl)
    | add member =>
      cases member with
      | entity part => exact entity start _ part allowed (.inr rfl) initially
      | relationship part => exact added part (.inr rfl)
    | specialize part =>
      exact holds_orKeep initially fun next accepted =>
        specialization start part next initially accepted

/-! ## The history of a relationship -/

/-- A step leaves the relationships as they are, or a call for one more is accepted. -/
theorem Step.relationships {model next : Model} {operation : Operation}
    (step : Step model operation next) :
    next.relationships = model.relationships ∨
      ∃ relationship id, operation.Adds relationship ∧
        model.addRelationship relationship = .ok (id, next) := by
  cases step with
  | refused => exact .inl rfl
  | entity entity => exact .inl rfl
  | relationship adds accepted => exact .inr ⟨_, _, adds, accepted⟩
  | specialization accepted =>
    obtain ⟨-, rfl⟩ := specialize_eq_ok_iff.1 accepted
    exact .inl rfl

/-- A relationship of a model that started without relationships was added by a call of the run,
under the handle that the model at that time issued. -/
theorem exists_addition {start : Model} (fresh : start.relationships = [])
    {operations : List Operation} {id : RelationshipId} {relationship : Relationship}
    (found : (start.run operations).relationship? id = some relationship) :
    ∃ before operation after, operations = before ++ operation :: after ∧
      operation.Adds relationship ∧
      (start.run before).addRelationship relationship =
        .ok (id, start.run (before ++ [operation])) := by
  induction operations using List.reverseRecOn with
  | nil => simp [relationship?, fresh] at found
  | append_singleton before operation ih =>
    rcases (step_apply (start.run before) operation).relationships with same | ⟨added, issued, adds,
      accepted⟩
    · rw [run_concat, relationship?, same] at found
      obtain ⟨earlier, call, later, rfl, adds, accepted⟩ := ih found
      exact ⟨earlier, call, later ++ [operation], by simp, adds, accepted⟩
    · obtain ⟨claimed, -, rfl, next⟩ := addRelationship_eq_ok_iff.1 accepted
      rw [run_concat, relationship?, next, List.getElem?_append] at found
      split at found
      case isTrue =>
        obtain ⟨earlier, call, later, rfl, adds', accepted'⟩ := ih found
        exact ⟨earlier, call, later ++ [operation], by simp, adds', accepted'⟩
      case isFalse outside =>
        -- the position is past the old relationships, so it is that of the added one
        obtain ⟨position, rfl⟩ := List.getElem?_eq_some_iff.1 found
        have last : id = ⟨(start.run before).relationships.length⟩ := by
          cases id
          simp only [List.length_singleton] at position
          simp only [RelationshipId.mk.injEq] at outside ⊢
          omega
        subst last
        exact ⟨before, operation, [], rfl, by simpa using adds, by simpa using accepted⟩

end ErSchema.Model
