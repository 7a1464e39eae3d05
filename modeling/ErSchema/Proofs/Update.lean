import ErSchema.Proofs.Run

/-!
# What accepted calls leave in place

A call adds to a model and takes nothing away.  The lemmas here say what stands behind a handle
after an accepted call: the same as before, a new part behind the next handle, the parent of an
accepted specialization with one specialization more, or a new entry for the weak entity that an
identifying relationship claims.
-/

set_option autoImplicit false

namespace ErSchema.Model

variable {model next : Model} {id : EntityId} {entity : Entity}

/-- An entity that is behind a handle stays there when one is added, and the added one is behind
the next handle. -/
theorem entity?_addEntity_eq_some_iff {added : Entity} :
    (model.addEntity added).2.entity? id = some entity ↔
      model.entity? id = some entity ∨ id = ⟨model.entities.length⟩ ∧ entity = added := by
  obtain ⟨index⟩ := id
  show (model.entities ++ [added])[index]? = some entity ↔
    model.entities[index]? = some entity ∨
      (⟨index⟩ : EntityId) = ⟨model.entities.length⟩ ∧ entity = added
  rw [EntityId.mk.injEq]
  rcases Nat.lt_trichotomy index model.entities.length with before | same | after
  · rw [List.getElem?_append_left before]
    simp [Nat.ne_of_lt before]
  · simp [same, eq_comm]
  · have outside : model.entities.length ≤ index := Nat.le_of_lt after
    have further : ¬ index < (model.entities ++ [added]).length := by
      rw [List.length_append, List.length_singleton]
      omega
    rw [List.getElem?_eq_none outside, List.getElem?_eq_none (Nat.le_of_not_lt further)]
    simp [Nat.ne_of_gt after]

/-- An accepted relationship changes no entity. -/
theorem entities_of_addRelationship {relationship : Relationship} {issued : RelationshipId}
    (accepted : model.addRelationship relationship = .ok (issued, next)) :
    next.entities = model.entities := by
  obtain ⟨claimed, -, -, rfl⟩ := addRelationship_eq_ok_iff.1 accepted
  rfl

/-- An accepted relationship is behind the handle that is issued for it. -/
theorem relationship?_of_addRelationship {relationship : Relationship} {issued : RelationshipId}
    (accepted : model.addRelationship relationship = .ok (issued, next)) :
    next.relationship? issued = some relationship := by
  obtain ⟨claimed, -, rfl, rfl⟩ := addRelationship_eq_ok_iff.1 accepted
  simp [relationship?]

/-- An accepted regular relationship changes no entry of the table. -/
theorem identifyingRelationship?_of_regular {relationship : Relationship}
    {issued : RelationshipId} (accepted : model.addRelationship relationship = .ok (issued, next))
    (regular : relationship.kind = .regular) (id : EntityId) :
    next.identifyingRelationship? id = model.identifyingRelationship? id := by
  obtain ⟨claimed, claims, -, rfl⟩ := addRelationship_eq_ok_iff.1 accepted
  rcases claims_eq_ok_iff.1 claims with ⟨-, rfl⟩ | ⟨identifying, -⟩
  · unfold identifyingRelationship?
    rw [List.append_nil]
  · simp [Relationship.isIdentifying, regular] at identifying

/-- An accepted identifying relationship has an entry for the participant that it claims, and the
entries of the others are as before. -/
theorem exists_claim_of_identifying {relationship : Relationship} {issued : RelationshipId}
    (accepted : model.addRelationship relationship = .ok (issued, next))
    (identifying : relationship.kind = .identifying) :
    ∃ weak, model.claim? relationship = some weak ∧ ∀ id,
      next.identifyingRelationship? id =
        (model.identifyingRelationship? id).or (if id = weak then some issued else none) := by
  obtain ⟨claimed, claims, rfl, rfl⟩ := addRelationship_eq_ok_iff.1 accepted
  rcases claims_eq_ok_iff.1 claims with ⟨regular, -⟩ | ⟨-, weak, claim, rfl⟩
  · simp [Relationship.isIdentifying, identifying] at regular
  · refine ⟨weak, claim, ?_⟩
    intro id
    unfold identifyingRelationship?
    rw [List.lookup_append, List.lookup_cons, List.lookup_nil]
    by_cases own : id = weak
    · rw [own, beq_self_eq_true, if_pos rfl]
    · rw [beq_false_of_ne own, if_neg own]

/-- An accepted specialization is attached to its parent and changes no other entity. -/
theorem entity?_of_specialize {specialization : Specialization}
    (accepted : model.specialize specialization = .ok next) (id : EntityId) :
    next.entity? id = (model.entity? id).map fun entity =>
      if id = specialization.parent then entity.attach specialization else entity := by
  obtain ⟨-, rfl⟩ := specialize_eq_ok_iff.1 accepted
  obtain ⟨index⟩ := id
  obtain ⟨kind, ⟨parent⟩, role, isTotal, derived⟩ := specialization
  unfold entity?
  rw [List.getElem?_modify]
  by_cases same : parent = index
  · simp [same]
  · have other : ¬ index = parent := fun same' => same same'.symm
    simp [same, other]

/-- The handles in an accepted specialization were issued by the model. -/
theorem exists_entity_of_specialize {specialization : Specialization}
    (accepted : model.specialize specialization = .ok next)
    (mem : id ∈ specialization.derived ++ [specialization.parent]) :
    ∃ entity, model.entity? id = some entity := by
  obtain ⟨known, -⟩ := specialize_eq_ok_iff.1 accepted
  have issued := List.find?_eq_none.1 known id mem
  rw [Option.isNone_iff_eq_none, ← ne_eq, Option.ne_none_iff_exists'] at issued
  exact issued

/-- The list of entities, cut at the parent of an accepted specialization. -/
theorem exists_split_of_specialize {added : Specialization}
    (accepted : model.specialize added = .ok next) :
    ∃ earlier parent later, model.entities = earlier ++ parent :: later ∧
      earlier.length = added.parent.index ∧
      next = { model with entities := earlier ++ parent.attach added :: later } := by
  obtain ⟨parent, found⟩ :=
    exists_entity_of_specialize accepted (List.mem_append_right _ (List.mem_singleton_self _))
  obtain ⟨bound, rfl⟩ := List.getElem?_eq_some_iff.1 found
  obtain ⟨-, rfl⟩ := specialize_eq_ok_iff.1 accepted
  refine ⟨model.entities.take added.parent.index, model.entities[added.parent.index],
    model.entities.drop (added.parent.index + 1), ?_, ?_, ?_⟩
  · rw [← List.drop_eq_getElem_cons bound, List.take_append_drop]
  · exact List.length_take_of_le (Nat.le_of_lt bound)
  · rw [List.modify_eq_take_cons_drop bound]

end ErSchema.Model
