import ErSchema.Proofs.Schema.Acceptance
import ErSchema.Proofs.Schema.Reachability
import ErSchema.Proofs.Validation.Renaming

/-!
# Documents with their entities in another order

Declarations refer to entities by name, and names are unique, so the order of the entities of a
document matters to nothing but their handles.  `transfer` leads from the position of a name in one
order to its position in another.  What a document describes in the other order is what it describes
in the first one with these new handles, and the weak entities are claimed in the order of the
relationships and links alone, which is the same.
-/

set_option autoImplicit false

namespace ErSchema.Schema

/-! ## The renaming of handles -/

/-- The handle in another list of names of the name behind a handle.  Other handles stay. -/
def transfer (names others : List String) (id : EntityId) : EntityId :=
  match names[id.index]? with
  | some name => handleOf others name
  | none => id

section Renaming

variable {names others : List String} (same : names.Perm others)

include same

/-- The handle of a name becomes its handle in the other list, also where there is no such name. -/
theorem transfer_handleOf (name : String) :
    transfer names others (handleOf names name) = handleOf others name := by
  unfold transfer
  by_cases declared : name ∈ names
  · rw [getElem?_handleOf declared]
  · have absent : name ∉ others := mt same.mem_iff.2 declared
    have last : (handleOf names name).index = names.length := List.idxOf_of_notMem declared
    rw [last, List.getElem?_eq_none (Nat.le_refl names.length)]
    dsimp only
    rw [handleOf, handleOf, List.idxOf_of_notMem declared, List.idxOf_of_notMem absent,
      same.length_eq]

/-- With distinct names a handle is renamed and renamed back. -/
theorem transfer_transfer (distinct : names.Nodup) (id : EntityId) :
    transfer others names (transfer names others id) = id := by
  cases found : names[id.index]? with
  | none =>
    have fixed : transfer names others id = id := by
      rw [transfer, found]
    have bound := List.getElem?_eq_none_iff.1 found
    rw [same.length_eq] at bound
    rw [fixed, transfer, List.getElem?_eq_none bound]
  | some name =>
    have own : handleOf names name = id := by
      obtain ⟨bound, rfl⟩ := List.getElem?_eq_some_iff.1 found
      rw [handleOf, distinct.idxOf_getElem id.index bound]
    rw [← own, transfer_handleOf same, transfer_handleOf same.symm]

end Renaming

/-- Different names in another order give handles back one for one. -/
theorem transfer_bijective {names others : List String} (same : names.Perm others)
    (distinct : names.Nodup) : Function.Bijective (transfer names others) := by
  apply Function.bijective_iff_has_inverse.2
  refine ⟨transfer others names, transfer_transfer same distinct, ?_⟩
  exact transfer_transfer same.symm (same.nodup_iff.1 distinct)

/-! ## What a document describes -/

section Reordered

variable {document : Document} {entities : List EntityDeclaration}
  (reordered : document.entities.Perm entities)

include reordered

/-- Documents with the same entities in another order have the same names in another order. -/
theorem entityNames_perm :
    document.entityNames.Perm (Document.entityNames { document with entities }) := by
  unfold Document.entityNames
  exact reordered.map _

/-- The declaration behind a handle is found again behind the new handle. -/
theorem getElem?_transfer (distinct : document.entityNames.Nodup) (id : EntityId) :
    entities[(transfer document.entityNames (Document.entityNames { document with entities })
      id).index]? = document.entities[id.index]? := by
  have same := entityNames_perm reordered
  cases found : document.entities[id.index]? with
  | none =>
    have lost : document.entityNames[id.index]? = none := by
      rw [Document.entityNames, List.getElem?_map, found]
      rfl
    have bound := List.getElem?_eq_none_iff.1 found
    rw [reordered.length_eq] at bound
    rw [transfer, lost]
    exact List.getElem?_eq_none bound
  | some declaration =>
    have named : document.entityNames[id.index]? = some (formal declaration.name) := by
      rw [Document.entityNames, List.getElem?_map, found]
      rfl
    have declared := same.mem_iff.1 (List.mem_of_getElem? named)
    have there := getElem?_handleOf declared
    rw [transfer, named]
    dsimp only
    generalize handleOf (Document.entityNames { document with entities })
      (formal declaration.name) = handle at there ⊢
    -- the names in the new order are distinct too, so the name finds this declaration
    rw [Document.entityNames, List.getElem?_map, Option.map_eq_some_iff] at there
    obtain ⟨other, found', name⟩ := there
    have mem := reordered.mem_iff.2 (List.mem_of_getElem? found')
    have one := List.inj_on_of_nodup_map distinct mem (List.mem_of_getElem? found) name
    rw [← one]
    exact found'

/-- An entity is described by its declaration in the new order as before, with new handles. -/
theorem describedEntity_reordered (declaration : EntityDeclaration) :
    Document.describedEntity { document with entities } declaration =
      (document.describedEntity declaration).rename
        (transfer document.entityNames (Document.entityNames { document with entities })) := by
  have handles := transfer_handleOf (entityNames_perm reordered)
  simp only [Document.describedEntity, Entity.rename, Document.divisions, List.map_map]
  congr 1
  apply List.map_congr_left
  intro specialization _
  simp only [Function.comp_apply, SpecializationDeclaration.withHandles, Specialization.rename,
    handles, List.map_map, Function.comp_def]

/-- A relationship is described with the handles that its participants have in the other order. -/
theorem described_reordered (declaration : RelationshipDeclaration) :
    declaration.described (Document.entityNames { document with entities }) =
      (declaration.described document.entityNames).rename
        (transfer document.entityNames (Document.entityNames { document with entities })) := by
  have handles := transfer_handleOf (entityNames_perm reordered)
  simp only [RelationshipDeclaration.described, RelationshipDeclaration.withLinks,
    Relationship.ofName, Relationship.rename, List.map_map]
  congr 1
  apply List.map_congr_left
  intro link _
  simp only [LinkDeclaration.described, Function.comp_apply, Link.ofRole, Link.rename,
    Option.map_map, Function.comp_def, handles]

/-! ## What is claimed -/

/-- Whether a document declares a weak entity does not depend on the order of its entities. -/
theorem declaresWeak_reordered :
    Document.declaresWeak { document with entities } = document.declaresWeak := by
  funext name
  exact (reordered.any_eq).symm

/-- Neither does it depend on this order which entities are claimed. -/
theorem claimedBy_reordered :
    Document.claimedBy { document with entities } = document.claimedBy := by
  have claim : Document.claim? { document with entities } = document.claim? := by
    funext claimed declaration
    rw [Document.claim?, declaresWeak_reordered reordered]
    rfl
  funext declarations
  rw [Document.claimedBy, claim]
  rfl

/-- The order of the entities does not decide whether a document is acceptable. -/
theorem acceptable_reordered (acceptable : document.Acceptable) :
    Document.Acceptable { document with entities } := by
  have same := entityNames_perm reordered
  refine ⟨?_, ?_, ?_, ?_⟩
  · exact (same.append_right document.relationshipNames).nodup_iff.1 acceptable.distinct
  · intro declaration mem
    obtain ⟨⟨reference, given, declared⟩, derived⟩ := acceptable.divisions declaration mem
    exact ⟨⟨reference, given, same.mem_iff.1 declared⟩,
      fun name listed => same.mem_iff.1 (derived name listed)⟩
  · intro declaration mem link listed reference given
    exact same.mem_iff.1 (acceptable.links declaration mem link listed reference given)
  · intro before declaration after split identifying
    rw [declaresWeak_reordered reordered, claimedBy_reordered reordered]
    exact acceptable.claims before declaration after split identifying

/-! ## The two models -/

/-- The relationships of the two models are the same up to the handles in their links. -/
theorem relationships_reordered {model other : Model} (parts : HasParts document model)
    (parts' : HasParts { document with entities } other) :
    other.relationships = model.relationships.map (Relationship.rename
      (transfer document.entityNames (Document.entityNames { document with entities }))) := by
  rw [parts'.relationships, parts.relationships, List.map_map]
  exact List.map_congr_left fun declaration _ => described_reordered reordered declaration

/-- Behind a transferred handle stands the same entity, with the handles in it transferred. -/
theorem entity?_transfer (distinct : document.entityNames.Nodup) {model other : Model}
    (parts : HasParts document model) (parts' : HasParts { document with entities } other)
    (id : EntityId) :
    other.entity? (transfer document.entityNames
        (Document.entityNames { document with entities }) id) =
      (model.entity? id).map (Entity.rename
        (transfer document.entityNames (Document.entityNames { document with entities }))) := by
  rw [Model.entity?, Model.entity?, parts'.entities, parts.entities, List.getElem?_map,
    List.getElem?_map, getElem?_transfer reordered distinct, Option.map_map,
    funext (describedEntity_reordered reordered)]
  rfl

/-- The entries of both tables are in the same order: the values are the identifying relationships,
and the keys are what these claim one after the other. -/
theorem identifications_reordered {state next : Elaboration} (fits : Elaborated document state)
    (fits' : Elaborated { document with entities } next) (table : state.model.Identified)
    (table' : next.model.Identified) :
    next.model.identifications = state.model.identifications.map (Prod.map
      (transfer document.entityNames (Document.entityNames { document with entities })) id) := by
  have keys : next.model.identifications.map Prod.fst =
      (state.model.identifications.map Prod.fst).map
        (transfer document.entityNames (Document.entityNames { document with entities })) := by
    rw [fits'.claimed, fits.claimed, claimedBy_reordered reordered, List.map_map]
    apply List.map_congr_left
    exact fun name _ => (transfer_handleOf (entityNames_perm reordered) name).symm
  have values : next.model.identifications.map Prod.snd =
      state.model.identifications.map Prod.snd := by
    rw [table'.values_eq, table.values_eq]
    exact Model.identifyingIds_of_relationships_eq
      (relationships_reordered reordered fits.toHasParts fits'.toHasParts)
  rw [List.zip_of_prod keys values]
  symm
  apply List.zip_of_prod
  · rw [List.map_map, List.map_map, Prod.map_fst']
  · rw [List.map_map, Prod.map_snd', Function.id_comp]

/-- The models of a document in both orders are the same up to the new handles. -/
theorem renamed_of_elaborated {state next : Elaboration} (fits : Elaborated document state)
    (fits' : Elaborated { document with entities } next) (table : state.model.Identified)
    (table' : next.model.Identified) :
    Model.Renamed
      (transfer document.entityNames (Document.entityNames { document with entities }))
      state.model next.model := by
  have bijective := transfer_bijective (entityNames_perm reordered) fits.nodup_entityNames
  exact {
    bijective := bijective
    name := fits'.name.trans fits.name.symm
    description := fits'.description.trans fits.description.symm
    authors := fits'.authors.trans fits.authors.symm
    entity := entity?_transfer reordered fits.nodup_entityNames fits.toHasParts fits'.toHasParts
    relationships := relationships_reordered reordered fits.toHasParts fits'.toHasParts
    identification := by
      intro id
      unfold Model.identifyingRelationship?
      rw [identifications_reordered reordered fits fits' table table']
      exact lookup_map_key bijective.injective state.model.identifications id }

end Reordered

open Elaboration

/-- The table of the model of a document fits, whether the document is accepted or not. -/
theorem identified_run (document : Document) : (run document).model.Identified := by
  obtain ⟨operations, reached⟩ := reaches_run document
  rw [← reached]
  exact (Model.identified_empty document.name document.description document.authors).run operations

/-- An accepted document is accepted in every order of its entities.  The model is the same up to
the handles of entities, which move as the declarations do.  The rule about links reports the same
list, and every other rule reports the same problems, maybe in another order. -/
theorem elaborate_reordered {document : Document} {model : Model} {warnings : List Diagnostic}
    (accepted : document.elaborate = .ok (model, warnings)) {entities : List EntityDeclaration}
    (reordered : document.entities.Perm entities) :
    ∃ image other notes,
      Document.elaborate { document with entities } = .ok (other, notes) ∧
      (∀ id : EntityId, entities[(image id).index]? = document.entities[id.index]?) ∧
      Model.Renamed image model other ∧
      ∀ (mode : Mode) (rule : Rule), rule ∈ mode.rules →
        ∃ findings others, rule.run model = .ok findings ∧ rule.run other = .ok others ∧
          others.Perm findings ∧
          (rule.id = Rule.relationshipDegree.id → others = findings) := by
  obtain ⟨fits, acceptable, rfl⟩ := elaborated_of_elaborate accepted
  have acceptable' := acceptable_reordered reordered acceptable
  rcases elaborated_or_rejected { document with entities } with ⟨fits', -⟩ | ⟨-, rejected⟩
  case inr => exact absurd acceptable' rejected
  have clean := fits'.clean
  rw [diagnostics_run] at clean
  have renamed := renamed_of_elaborated reordered fits fits' (identified_run document)
    (identified_run { document with entities })
  exact ⟨_, _, _, elaborate_of_not_hasError clean,
    getElem?_transfer reordered fits.nodup_entityNames, renamed,
    fun mode rule mem => renamed.rules_agree mem⟩

/-- The household may declare the pet first. -/
theorem household_reordered :
    household.elaborate = .ok (householdModel, []) ∧
    household.entities.Perm household.entities.reverse ∧
    ∃ image other notes,
      Document.elaborate { household with entities := household.entities.reverse } =
        .ok (other, notes) ∧
      Model.Renamed image householdModel other := by
  have accepted : household.elaborate = .ok (householdModel, []) := rfl
  have reordered := (List.reverse_perm household.entities).symm
  obtain ⟨image, other, notes, accepted', -, renamed, -⟩ := elaborate_reordered accepted reordered
  exact ⟨accepted, reordered, image, other, notes, accepted', renamed⟩

end ErSchema.Schema
