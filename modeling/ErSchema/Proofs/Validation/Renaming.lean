import ErSchema.Proofs.Renaming
import ErSchema.Validation.Mode
import Mathlib.Data.List.Perm.Basic

/-!
# Validation and renamed handles

A rule reports names and positions of links, never handles, so a renamed model has the same problems
part by part.  Relationships keep their order, and the rule about links reports the very same list.
The other rules go through the entities, and report the same problems in another order.
-/

set_option autoImplicit false

namespace ErSchema

/-- Whether a specialization lists an entity does not depend on handles. -/
theorem memberFindings_rename (image : EntityId → EntityId) (entity : Entity) :
    Rule.memberFindings (entity.rename image) = Rule.memberFindings entity := by
  have divisions : (entity.rename image).specializations.zipIdx =
      entity.specializations.zipIdx.map (Prod.map (Specialization.rename image) id) :=
    List.zipIdx_map
  unfold Rule.memberFindings
  rw [divisions, List.filter_map, List.map_map]
  have empty : (fun entry : Specialization × Nat => entry.1.derived.isEmpty) ∘
      Prod.map (Specialization.rename image) id = fun entry => entry.1.derived.isEmpty := by
    funext entry
    exact List.isEmpty_map
  rw [empty]
  rfl

namespace Model.Renamed

variable {image : EntityId → EntityId} {model other : Model}
  (renamed : Renamed image model other)

include renamed

/-! ## Relationships -/

/-- The participant of a renamed link is found exactly when that of the link is found. -/
theorem linkFinding?_rename (name : String) (link : Link) (position : Nat) :
    Rule.linkFinding? other name (link.rename image) position =
      Rule.linkFinding? model name link position := by
  have participant : (link.rename image).entity.bind other.entity? =
      (link.entity.bind model.entity?).map (Entity.rename image) := by
    cases named : link.entity with
    | none => simp [Link.rename, named]
    | some id => simp [Link.rename, named, renamed.entity]
  have constraint : (link.rename image).constraint = link.constraint := rfl
  unfold Rule.linkFinding?
  rw [participant, constraint]
  cases link.entity.bind model.entity? with
  | none => rfl
  | some entity => cases link.constraint <;> rfl

/-- The rule about links finds the same in a relationship with renamed handles. -/
theorem degreeFindings_rename (relationship : Relationship) :
    Rule.degreeFindings other (relationship.rename image) =
      Rule.degreeFindings model relationship := by
  have links : (relationship.rename image).links.zipIdx =
      relationship.links.zipIdx.map (Prod.map (Link.rename image) id) :=
    List.zipIdx_map
  have found : Rule.linkFindings other (relationship.rename image) =
      Rule.linkFindings model relationship := by
    unfold Rule.linkFindings
    rw [links, List.filterMap_map]
    apply List.filterMap_congr
    rintro ⟨link, position⟩ -
    exact renamed.linkFinding?_rename relationship.name link position
  have valid : Rule.validLinkCount other (relationship.rename image) =
      Rule.validLinkCount model relationship := by
    unfold Rule.validLinkCount
    rw [links, List.countP_map]
    apply List.countP_congr
    rintro ⟨link, position⟩ -
    have same := renamed.linkFinding?_rename relationship.name link position
    exact Bool.eq_iff_iff.1 (congrArg Option.isNone same)
  have total : (relationship.rename image).links.length = relationship.links.length :=
    List.length_map _
  unfold Rule.degreeFindings
  rw [found, valid, total]
  rfl

/-- It finds the same in the whole of a renamed model, because the relationships keep their order.
-/
theorem relationshipDegreeFindings_eq :
    Rule.relationshipDegreeFindings other = Rule.relationshipDegreeFindings model := by
  unfold Rule.relationshipDegreeFindings
  rw [renamed.relationships, List.flatMap_map]
  apply List.flatMap_congr
  exact fun relationship _ => renamed.degreeFindings_rename relationship

/-! ## Entities -/

/-- The rule about keys finds the same up to the order of the entities. -/
theorem entityKeyFindings_perm :
    (Rule.entityKeyFindings other).Perm (Rule.entityKeyFindings model) := by
  unfold Rule.entityKeyFindings
  have both := (renamed.entities_perm.filter (·.key?.isNone)).map fun entity =>
    Finding.missingKey entity.name
  rwa [List.filter_map, List.map_map] at both

/-- The rule about derived entities finds the same up to this order. -/
theorem specializationMembersFindings_perm :
    (Rule.specializationMembersFindings other).Perm
      (Rule.specializationMembersFindings model) := by
  unfold Rule.specializationMembersFindings
  have both := renamed.entities_perm.flatMap_right Rule.memberFindings
  rwa [List.flatMap_map, funext (memberFindings_rename image)] at both

/-- The rule about the kinds of keys finds the same up to this order. -/
theorem keyKindFindings_perm :
    (Rule.keyKindFindings other).Perm (Rule.keyKindFindings model) := by
  unfold Rule.keyKindFindings
  have both := renamed.entities_perm.filterMap Rule.keyKindFinding?
  rwa [List.filterMap_map] at both

/-! ## Identification -/

/-- The links to an entity lead to its image when they are renamed. -/
theorem identificationFindings_rename (id : EntityId) (entity : Entity) :
    Rule.identificationFindings other (image id) (entity.rename image) =
      Rule.identificationFindings model id entity := by
  have identifying : (other.identifyingRelationship? (image id)).bind other.relationship? =
      ((model.identifyingRelationship? id).bind model.relationship?).map
        (Relationship.rename image) := by
    rw [renamed.identification, Option.map_bind]
    exact congrArg _ (funext renamed.relationship?)
  unfold Rule.identificationFindings
  rw [identifying]
  cases (model.identifyingRelationship? id).bind model.relationship? with
  | none => rfl
  | some relationship =>
    have links : (relationship.rename image).links.filter (fun link =>
          link.entity == some (image id) && !Rule.isMandatory link) =
        (relationship.links.filter fun link =>
          link.entity == some id && !Rule.isMandatory link).map (Link.rename image) := by
      rw [Relationship.rename, List.filter_map]
      congr 1
      apply List.filter_congr
      intro link _
      have concerns := link.concerns_rename renamed.bijective.injective id
      exact congrArg (· && !Rule.isMandatory link) concerns
    simp only [Option.map_some]
    rw [links, List.map_map]
    rfl

/-- The rule about weak entities finds the same up to this order, because the table of
identifications is renamed with the model. -/
theorem weakEntityFindings_perm :
    (Rule.weakEntityFindings other).Perm (Rule.weakEntityFindings model) := by
  unfold Rule.weakEntityFindings
  have both := (renamed.entitiesWithIds_perm.filter (·.2.isWeak)).flatMap_right
    fun item => Rule.identificationFindings other item.1 item.2
  rw [List.filter_map, List.flatMap_map] at both
  refine both.trans (.of_eq (List.flatMap_congr ?_))
  rintro ⟨id, entity⟩ -
  exact renamed.identificationFindings_rename id entity

/-- Every rule of either mode finds the same in both models, apart from the order, and the rule
about links in the same order. -/
theorem rules_agree {mode : Mode} {rule : Rule} (mem : rule ∈ mode.rules) :
    ∃ findings others, rule.run model = .ok findings ∧ rule.run other = .ok others ∧
      others.Perm findings ∧ (rule.id = Rule.relationshipDegree.id → others = findings) := by
  have listed : rule ∈ Mode.strict.rules := by
    cases mode with
    | basic => exact List.mem_append_left _ mem
    | strict => exact mem
  simp only [Mode.rules, Mode.basicRules, List.cons_append, List.nil_append, List.mem_cons,
    List.not_mem_nil, or_false] at listed
  rcases listed with rfl | rfl | rfl | rfl | rfl
  · exact ⟨_, _, rfl, rfl, renamed.entityKeyFindings_perm,
      fun same => absurd same (by decide)⟩
  · exact ⟨_, _, rfl, rfl, .of_eq renamed.relationshipDegreeFindings_eq,
      fun _ => renamed.relationshipDegreeFindings_eq⟩
  · exact ⟨_, _, rfl, rfl, renamed.weakEntityFindings_perm,
      fun same => absurd same (by decide)⟩
  · exact ⟨_, _, rfl, rfl, renamed.specializationMembersFindings_perm,
      fun same => absurd same (by decide)⟩
  · exact ⟨_, _, rfl, rfl, renamed.keyKindFindings_perm,
      fun same => absurd same (by decide)⟩

end Model.Renamed

end ErSchema
