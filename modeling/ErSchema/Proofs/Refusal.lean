import ErSchema.Proofs.Identification
import ErSchema.Proofs.InPlace
import ErSchema.Proofs.Update

/-!
# Which calls are refused

A relationship is refused when it is identifying and each of its links is `Unclaimable`, and a
specialization when a handle in it was not issued.  The handles that a model issues are told from
the calls that built it: `issued` collects what the calls of a run return, and in a model that
started empty these are the handles behind which there is an entity (`mem_issued_iff`).

A refused call leaves nothing behind, even when calls write in place, and an accepted one adds what
it was given at one place.
-/

set_option autoImplicit false

namespace ErSchema.Model

variable {model start : Model} {operation : Operation} {operations : List Operation}
  {id : EntityId}

/-! ## Handles that a run issues -/

/-- The handle that a call issues for an entity. -/
def issue? (model : Model) : Operation → Option EntityId
  | .addEntity entity | .add (.entity entity) => some (model.addEntity entity).1
  | .addRelationship _ | .add (.relationship _) | .specialize _ => none

/-- The handles that the calls of a run issue for entities, in order. -/
def issued (model : Model) : List Operation → List EntityId
  | [] => []
  | operation :: rest => (model.issue? operation).toList ++ (model.apply operation).issued rest

/-- A call that issues a handle issues the number of the entities. -/
theorem eq_of_issue?_eq_some (issues : model.issue? operation = some id) :
    id = ⟨model.entities.length⟩ := by
  cases operation with
  | addEntity entity => exact (Option.some.inj issues).symm
  | addRelationship relationship => cases issues
  | add member =>
    cases member with
    | entity entity => exact (Option.some.inj issues).symm
    | relationship relationship => cases issues
  | specialize specialization => cases issues

/-- A call adds as many entities as it issues handles. -/
theorem length_entities_apply (model : Model) (operation : Operation) :
    (model.apply operation).entities.length =
      model.entities.length + (model.issue? operation).toList.length := by
  have relationship : ∀ added, (model.orKeep
      ((model.addRelationship added).map Prod.snd)).entities.length = model.entities.length := by
    intro added
    cases accepted : model.addRelationship added with
    | error error => rfl
    | ok outcome => exact congrArg List.length (entities_of_addRelationship accepted)
  cases operation with
  | addEntity entity => exact List.length_append
  | addRelationship added => exact relationship added
  | add member =>
    cases member with
    | entity entity => exact List.length_append
    | relationship added => exact relationship added
  | specialize added =>
    show (model.orKeep (model.specialize added)).entities.length = model.entities.length
    cases accepted : model.specialize added with
    | error error => rfl
    | ok next =>
      obtain ⟨-, rfl⟩ := specialize_eq_ok_iff.1 accepted
      exact List.length_modify ..

/-- A run adds as many entities as it issues handles. -/
theorem length_entities_run (model : Model) (operations : List Operation) :
    (model.run operations).entities.length =
      model.entities.length + (model.issued operations).length := by
  induction operations generalizing model with
  | nil => rfl
  | cons operation rest ih =>
    have later := ih (model.apply operation)
    rw [length_entities_apply] at later
    rw [issued, List.length_append, ← Nat.add_assoc]
    exact later

/-- A run issues the numbers that follow on those of the entities. -/
theorem issued_eq (model : Model) (operations : List Operation) :
    model.issued operations =
      (List.range' model.entities.length (model.issued operations).length).map EntityId.mk := by
  induction operations generalizing model with
  | nil => rfl
  | cons operation rest ih =>
    have later := ih (model.apply operation)
    rw [length_entities_apply] at later
    rw [issued]
    cases issues : model.issue? operation with
    | none => simpa [issues] using later
    | some id =>
      have number := eq_of_issue?_eq_some issues
      simpa [issues, number, List.range'_succ] using later

/-- In a model that started without entities, the handles that were issued are those behind which
there is an entity. -/
theorem mem_issued_iff (fresh : start.entities = []) :
    id ∈ start.issued operations ↔ ∃ entity, (start.run operations).entity? id = some entity := by
  obtain ⟨index⟩ := id
  have number := length_entities_run start operations
  rw [issued_eq, List.mem_map]
  rw [fresh, List.length_nil, Nat.zero_add] at *
  rw [entity?, ← number]
  simp [List.getElem?_eq_some_iff]

/-! ## Refused relationships -/

/-- Why a link offers an identifying relationship nobody to identify. -/
inductive Unclaimable (model : Model) (link : Link) : Prop
  /-- It has no participant. -/
  | absent (unnamed : link.entity = none)
  /-- Its participant denotes no entity. -/
  | unresolved {id : EntityId} (named : link.entity = some id) (dangling : model.entity? id = none)
  /-- Its participant is a regular entity. -/
  | regular {id : EntityId} {entity : Entity} (named : link.entity = some id)
      (found : model.entity? id = some entity) (kind : entity.kind = .regular)
  /-- Its participant has an identifying relationship. -/
  | identified {id : EntityId} {relationshipId : RelationshipId} (named : link.entity = some id)
      (entry : model.identifyingRelationship? id = some relationshipId)

/-- A link is unclaimable when its participant, if it has one, does not await identification. -/
theorem unclaimable_iff {link : Link} :
    model.Unclaimable link ↔
      ∀ id, link.entity = some id → ¬ model.awaitsIdentification id = true := by
  constructor
  · intro unclaimable id named awaits
    obtain ⟨⟨entity, found, weak⟩, free⟩ := awaitsIdentification_iff.1 awaits
    cases unclaimable with
    | absent unnamed => simp [named] at unnamed
    | unresolved named' dangling => simp_all
    | regular named' found' kind => simp_all
    | identified named' entry => simp_all
  · intro claimable
    cases named : link.entity with
    | none => exact .absent named
    | some id =>
      cases found : model.entity? id with
      | none => exact .unresolved named found
      | some entity =>
        cases kind : entity.kind with
        | regular => exact .regular named found kind
        | weak =>
          cases entry : model.identifyingRelationship? id with
          | some relationshipId => exact .identified named entry
          | none =>
            have awaits := awaitsIdentification_iff.2 ⟨⟨entity, found, kind⟩, entry⟩
            exact absurd awaits (claimable id named)

/-- A relationship has nobody to identify when all its links are unclaimable. -/
theorem claim?_eq_none_iff {relationship : Relationship} :
    model.claim? relationship = none ↔ ∀ link ∈ relationship.links, model.Unclaimable link := by
  simp only [claim?, List.find?_eq_none, Relationship.mem_participants, unclaimable_iff]
  exact ⟨fun all link mem id named => all id ⟨link, mem, named⟩,
    fun all id ⟨link, mem, named⟩ => all link mem id named⟩

/-- A relationship is refused when it is identifying and all its links are unclaimable. -/
theorem addRelationship_refused_iff {relationship : Relationship} :
    (∃ error, model.addRelationship relationship = .error error) ↔
      relationship.kind = .identifying ∧
        ∀ link ∈ relationship.links, model.Unclaimable link := by
  constructor
  · rintro ⟨error, refused⟩
    obtain ⟨identifying, unclaimed, -⟩ := addRelationship_eq_error_iff.1 refused
    exact ⟨of_decide_eq_true identifying, claim?_eq_none_iff.1 unclaimed⟩
  · rintro ⟨identifying, unclaimable⟩
    exact ⟨_, addRelationship_eq_error_iff.2
      ⟨decide_eq_true identifying, claim?_eq_none_iff.2 unclaimable, rfl⟩⟩

/-- What an accepted relationship changes: it goes to the end of the relationships, and an
identifying one to the end of the table, for a participant that had no entry. -/
structure GainsRelationship (model : Model) (added : Relationship) (id : RelationshipId)
    (next : Model) : Prop where
  handle : id = ⟨model.relationships.length⟩
  relationships : next.relationships = model.relationships ++ [added]
  regular : added.kind = .regular → next.identifications = model.identifications
  identifying : added.kind = .identifying →
    ∃ weak, weak ∉ model.identifications.map Prod.fst ∧
      next.identifications = model.identifications ++ [(weak, id)]
  rest : next =
    { model with
      relationships := next.relationships
      identifications := next.identifications }

/-- An accepted relationship is gained, with the next handle and what it claims. -/
theorem gainsRelationship_of_accepted {added : Relationship} {issued : RelationshipId}
    {next : Model} (accepted : model.addRelationship added = .ok (issued, next)) :
    model.GainsRelationship added issued next := by
  obtain ⟨claimed, claims, rfl, rfl⟩ := addRelationship_eq_ok_iff.1 accepted
  rcases claims_eq_ok_iff.1 claims with ⟨regular, rfl⟩ | ⟨identifying, weak, claim, rfl⟩
  · have regular : added.kind ≠ .identifying := of_decide_eq_false regular
    exact ⟨rfl, rfl, fun _ => List.append_nil _, fun kind => absurd kind regular, rfl⟩
  · have identifying : added.kind = .identifying := of_decide_eq_true identifying
    refine ⟨rfl, rfl, fun kind => ?_, fun _ => ⟨weak, ?_, rfl⟩, rfl⟩
    · rw [identifying] at kind
      cases kind
    · exact InPlace.notMem_of_claim? claim

/-! ## Refused specializations -/

/-- A specialization is refused with the first of its handles that is unknown. -/
theorem specialize_eq_error_iff {specialization : Specialization} {error : ConstructionError} :
    model.specialize specialization = .error error ↔
      ∃ id, error = .unknownEntity id ∧ model.unknownEntity? specialization = some id := by
  unfold specialize
  cases model.unknownEntity? specialization <;> simp [eq_comm]

/-- The first unknown handle of a specialization is the first among the derived entities, or else
the parent. -/
theorem unknownEntity?_eq_some_iff {specialization : Specialization} :
    model.unknownEntity? specialization = some id ↔
      FirstWith (model.entity? · = none) specialization.derived id ∨
        (∀ derived ∈ specialization.derived, ¬ model.entity? derived = none) ∧
          id = specialization.parent ∧ model.entity? specialization.parent = none := by
  have first : specialization.derived.find? (fun id => (model.entity? id).isNone) = some id ↔
      FirstWith (model.entity? · = none) specialization.derived id := by
    simp only [find?_eq_some_iff_firstWith, Option.isNone_iff_eq_none]
  have nowhere : specialization.derived.find? (fun id => (model.entity? id).isNone) = none ↔
      ∀ derived ∈ specialization.derived, ¬ model.entity? derived = none := by
    simp only [List.find?_eq_none, Option.isNone_iff_eq_none]
  have last : (if (model.entity? specialization.parent).isNone then some specialization.parent
        else none) = some id ↔
      id = specialization.parent ∧ model.entity? specialization.parent = none := by
    cases model.entity? specialization.parent <;> simp [eq_comm]
  rw [InPlace.unknownEntity?_eq, Option.or_eq_some_iff, first, nowhere, last]

/-- What an accepted specialization changes: it goes to the end of the list of its parent. -/
def GainsSpecialization (model : Model) (added : Specialization) (next : Model) : Prop :=
  ∃ earlier parent later, model.entities = earlier ++ parent :: later ∧
    earlier.length = added.parent.index ∧
    next =
      { model with
        entities := earlier ++
          { parent with specializations := parent.specializations ++ [added] } :: later }

/-! ## All or nothing -/

/-- What calls on a reachable model do.  It is the model that calls in place leave behind.

A relationship is refused exactly when it is identifying and every link of it lacks a participant or
has one that denotes no entity, is regular or is identified already; a specialization exactly when a
handle in it was not issued by a call, and the error names the first such derived entity or else the
parent.  A refused call leaves the model behind as it was, even when it writes in place.  An accepted
relationship goes to the end of the relationships and, if it is identifying, to the end of the table,
over no other entry; an accepted specialization goes to the end of the list of its parent; and
nothing else changes. -/
theorem calls_all_or_nothing (name description : String) (authors : List String)
    (operations : List Operation) :
    let start := empty name description authors
    let model := start.run operations
    InPlace.callAll start operations = model ∧
    (∀ added : Relationship,
      ((∃ error, model.addRelationship added = .error error) ↔
        added.kind = .identifying ∧ ∀ link ∈ added.links, model.Unclaimable link) ∧
      (∀ error, model.addRelationship added = .error error →
        error = .unidentifiedWeakEntity added.name ∧
        (InPlace.addRelationship added).on model = (.error error, model)) ∧
      ∀ id next, model.addRelationship added = .ok (id, next) →
        (InPlace.addRelationship added).on model = (.ok id, next) ∧
        model.GainsRelationship added id next) ∧
    ∀ added : Specialization,
      (∀ error, model.specialize added = .error error ↔
        ∃ id, error = .unknownEntity id ∧
          (FirstWith (· ∉ start.issued operations) added.derived id ∨
            (∀ derived ∈ added.derived, derived ∈ start.issued operations) ∧
              id = added.parent ∧ added.parent ∉ start.issued operations)) ∧
      (∀ error, model.specialize added = .error error →
        (InPlace.specialize added).on model = (.error error, model)) ∧
      ∀ next, model.specialize added = .ok next →
        (InPlace.specialize added).on model = (.ok ⟨⟩, next) ∧
        model.GainsSpecialization added next := by
  intro start model
  have unissued : ∀ id, model.entity? id = none ↔ id ∉ start.issued operations := by
    intro id
    rw [mem_issued_iff rfl, ← Option.ne_none_iff_exists', not_not]
  refine ⟨InPlace.callAll_eq_run start operations, ?_, ?_⟩
  · intro added
    refine ⟨addRelationship_refused_iff, ?_, ?_⟩
    · intro error refused
      obtain ⟨-, -, cause⟩ := addRelationship_eq_error_iff.1 refused
      exact ⟨cause, by rw [InPlace.on_addRelationship, refused]⟩
    · intro id next accepted
      exact ⟨by rw [InPlace.on_addRelationship, accepted], gainsRelationship_of_accepted accepted⟩
  · intro added
    refine ⟨?_, ?_, ?_⟩
    · intro error
      simp only [specialize_eq_error_iff, unknownEntity?_eq_some_iff, unissued, not_not]
    · intro error refused
      rw [InPlace.on_specialize, refused]
    · intro next accepted
      exact ⟨by rw [InPlace.on_specialize, accepted], exists_split_of_specialize accepted⟩

end ErSchema.Model
