import ErSchema.Proofs.Identification
import ErSchema.Validation.Mode

/-!
# The rule about weak entities

The rule goes through the links of an identifying relationship and reports those to the weak entity
that are not mandatory.  It would pass an entity without a look at it if there were no such links,
and an entity whose entry leads nowhere would be reported as if it had none.  Neither happens in a
reachable model, because its table of identifications fits.  So the problems that are reported are
exactly those of `Reported`, and a weak entity without problems does take part mandatorily.

The entities without an entry are counted: they are the weak entities less the identifying
relationships.
-/

set_option autoImplicit false

namespace ErSchema

/-- Whether a link requires that its participant takes part at least once: its first bound is an
integer from one up. -/
def Link.Mandatory (link : Link) : Prop :=
  ∃ constraint least, link.constraint = some constraint ∧
    constraint.bounds[0]? = some (.count least) ∧ 1 ≤ least

/-- A link counts as mandatory when its minimum is a number greater than zero. -/
theorem Rule.isMandatory_iff {link : Link} : Rule.isMandatory link = true ↔ link.Mandatory := by
  unfold Rule.isMandatory Link.Mandatory StructuralConstraint.minimum?
  cases link.constraint with
  | none => simp
  | some constraint =>
    rw [Option.bind_some]
    cases first : constraint.bounds[0]? with
    | none => simp [first]
    | some bound => cases bound <;> simp [first]

instance (link : Link) : Decidable link.Mandatory :=
  decidable_of_iff _ Rule.isMandatory_iff

/-- The problems of the links to an entity in its identifying relationship: one for each link that
is not mandatory, with its first bound. -/
def Relationship.optionalFindings (relationship : Relationship) (id : EntityId) (entity : Entity) :
    List Finding :=
  (relationship.links.filter fun link => link.entity = some id ∧ ¬ link.Mandatory).map fun link =>
    .optionalParticipation entity.name relationship.name
      (link.constraint.bind fun constraint => constraint.bounds[0]?)

namespace Model

/-- The weak entities with their handles, in the order in which they were added. -/
def weakEntities (model : Model) : List (EntityId × Entity) :=
  model.entitiesWithIds.filter (·.2.isWeak)

/-- The problems of a weak entity.  Either it has no entry in the table, and that is the problem, or
each link to it in its identifying relationship that is not mandatory is one. -/
inductive Reported (model : Model) (id : EntityId) (entity : Entity) : List Finding → Prop
  | unidentified (absent : id ∉ model.identifications.map Prod.fst) :
      Reported model id entity [.unidentified entity.name]
  | identified {relationshipId : RelationshipId} {relationship : Relationship}
      (entry : (id, relationshipId) ∈ model.identifications)
      (found : model.relationship? relationshipId = some relationship) :
      Reported model id entity (relationship.optionalFindings id entity)

/-- The weak entities of a model are its entities of that kind, with their handles. -/
theorem mem_weakEntities {model : Model} {id : EntityId} {entity : Entity} :
    (id, entity) ∈ model.weakEntities ↔ model.entity? id = some entity ∧ entity.kind = .weak := by
  simp [weakEntities, mem_entitiesWithIds, Entity.isWeak]

/-- The handles of the weak entities are distinct. -/
theorem nodup_weakEntities (model : Model) : (model.weakEntities.map Prod.fst).Nodup :=
  nodup_entitiesWithIds.sublist (List.filter_sublist.map Prod.fst)

/-- The rule reports the problems of the weak entities one after the other. -/
theorem weakEntityFindings_eq (model : Model) :
    Rule.weakEntityFindings model = model.weakEntities.flatMap fun (id, entity) =>
      Rule.identificationFindings model id entity :=
  rfl

/-- About an entity without an entry the rule reports just that. -/
theorem identificationFindings_of_none {model : Model} {id : EntityId}
    (none : model.identifyingRelationship? id = none) (entity : Entity) :
    Rule.identificationFindings model id entity = [.unidentified entity.name] := by
  rw [Rule.identificationFindings, none]
  rfl

/-- About an entity with an entry the rule reports the links that are not mandatory. -/
theorem identificationFindings_of_some {model : Model} {id : EntityId}
    {relationshipId : RelationshipId} {relationship : Relationship}
    (entry : model.identifyingRelationship? id = some relationshipId)
    (found : model.relationship? relationshipId = some relationship) (entity : Entity) :
    Rule.identificationFindings model id entity = relationship.optionalFindings id entity := by
  have optional : ∀ link : Link, (link.entity == some id && !Rule.isMandatory link) =
      decide (link.entity = some id ∧ ¬ link.Mandatory) := by
    intro link
    rw [Bool.eq_iff_iff, decide_eq_true_iff, ← Rule.isMandatory_iff]
    simp
  rw [Rule.identificationFindings, entry, Option.bind_some, found]
  simp only [optional]
  rfl

section Fitting

variable {model : Model} (fits : Identified model)

include fits

/-- What the rule reports about an entity are its problems. -/
theorem Identified.reported (id : EntityId) (entity : Entity) :
    Reported model id entity (Rule.identificationFindings model id entity) := by
  cases entry : model.identifyingRelationship? id with
  | none =>
    rw [identificationFindings_of_none entry]
    exact .unidentified (lookup_eq_none_iff_notMem.1 entry)
  | some relationshipId =>
    obtain ⟨-, relationship, found, -, -⟩ := fits.of_found entry
    rw [identificationFindings_of_some entry found]
    exact .identified ((fits.mem_iff id relationshipId).2 entry) found

/-- A weak entity without problems has a link in its identifying relationship, and every link to it
there is mandatory. -/
theorem Identified.mandatory_of_reported_nil {id : EntityId} {entity : Entity}
    (nothing : Reported model id entity []) :
    ∃ relationshipId relationship, model.identifyingRelationship? id = some relationshipId ∧
      model.relationship? relationshipId = some relationship ∧ relationship.kind = .identifying ∧
      (∃ link ∈ relationship.links, link.entity = some id) ∧
      ∀ link ∈ relationship.links, link.entity = some id → link.Mandatory := by
  generalize none : ([] : List Finding) = findings at nothing
  cases nothing with
  | unidentified absent => cases none
  | @identified relationshipId relationship entry found =>
    have entry := (fits.mem_iff id relationshipId).1 entry
    obtain ⟨-, same, found', identifying, linked⟩ := fits.of_found entry
    obtain rfl : relationship = same := Option.some.inj (found.symm.trans found')
    refine ⟨relationshipId, relationship, entry, found, identifying, linked, ?_⟩
    intro link mem named
    by_contra optional
    have listed : link ∈ relationship.links.filter fun link =>
        link.entity = some id ∧ ¬ link.Mandatory :=
      List.mem_filter.2 ⟨mem, decide_eq_true ⟨named, optional⟩⟩
    rw [List.map_eq_nil_iff.1 none.symm] at listed
    cases listed

end Fitting

/-! ## Counting -/

/-- When every part holds one counted item or none, the whole holds as many as there are parts with
one. -/
theorem countP_flatMap_eq_countP {α β : Type} {part : α → List β} {counted : β → Bool}
    {single : α → Bool} (items : List α)
    (each : ∀ item ∈ items, (part item).countP counted = if single item then 1 else 0) :
    (items.flatMap part).countP counted = items.countP single := by
  induction items with
  | nil => rfl
  | cons first rest ih =>
    simp only [List.mem_cons, forall_eq_or_imp] at each
    rw [List.flatMap_cons, List.countP_append, ih each.2, each.1, List.countP_cons]
    omega

/-- A weak entity is reported as lacking an identifying relationship when it has no entry. -/
theorem Reported.countP_unidentified {model : Model} {id : EntityId} {entity : Entity}
    {findings : List Finding} (reported : Reported model id entity findings) :
    (findings.countP fun finding =>
        finding.reason = "Weak entity has no identifying relationship") =
      if id ∉ model.identifications.map Prod.fst then 1 else 0 := by
  cases reported with
  | unidentified absent =>
    rw [if_pos absent]
    exact List.countP_singleton.trans (if_pos (decide_eq_true rfl))
  | identified entry found =>
    have listed : id ∈ model.identifications.map Prod.fst := List.mem_map_of_mem entry
    rw [if_neg fun absent => absent listed, List.countP_eq_zero]
    intro finding mem
    obtain ⟨link, -, rfl⟩ := List.mem_map.1 mem
    have other : "Weak entity does not participate mandatorily in its identifying relationship" ≠
        "Weak entity has no identifying relationship" := by decide
    exact fun counted => other (of_decide_eq_true counted)

/-- There are as many handles of weak entities as weak entities. -/
theorem length_weakEntities (model : Model) :
    model.weakEntities.length = model.entities.countP Entity.isWeak := by
  rw [weakEntities, ← List.countP_eq_length_filter, ← map_snd_entitiesWithIds, List.countP_map]
  rfl

/-- There are as many handles of identifying relationships as identifying relationships. -/
theorem length_identifyingIds (model : Model) :
    model.identifyingIds.length = model.relationships.countP Relationship.isIdentifying := by
  rw [identifyingIds, List.length_map, ← List.countP_eq_length_filter,
    ← map_snd_relationshipsWithIds, List.countP_map]
  rfl

section Counting

variable {model : Model} (fits : Identified model)

include fits

/-- The weak entities with an entry are as many as the identifying relationships: the entries are
about different weak entities, and there is one for each of these relationships. -/
theorem Identified.countP_identified :
    (model.weakEntities.countP fun (id, _) => id ∈ model.identifications.map Prod.fst) =
      model.relationships.countP Relationship.isIdentifying := by
  let keys := model.identifications.map Prod.fst
  have same : ((model.weakEntities.map Prod.fst).filter (· ∈ keys)).Perm keys := by
    rw [List.perm_ext_iff_of_nodup ((nodup_weakEntities model).filter _) fits.nodup_keys]
    intro id
    rw [List.mem_filter, decide_eq_true_iff]
    refine and_iff_right_of_imp fun listed => ?_
    obtain ⟨pair, entry, rfl⟩ := List.mem_map.1 listed
    obtain ⟨entity, found, weak⟩ := fits.weak pair entry
    exact List.mem_map.2 ⟨(pair.1, entity), mem_weakEntities.2 ⟨found, weak⟩, rfl⟩
  calc
    (model.weakEntities.countP fun (id, _) => id ∈ model.identifications.map Prod.fst)
      = ((model.weakEntities.map Prod.fst).filter (· ∈ keys)).length := by
        rw [← List.countP_eq_length_filter, List.countP_map]
        rfl
    _ = keys.length := same.length_eq
    _ = model.identifyingIds.length := by rw [← fits.values_eq, List.length_map, List.length_map]
    _ = model.relationships.countP Relationship.isIdentifying := length_identifyingIds model

/-- The rule reports one weak entity without an entry for each weak entity that is left when every
identifying relationship has one. -/
theorem Identified.countP_unidentified :
    ((Rule.weakEntityFindings model).countP fun finding =>
        finding.reason = "Weak entity has no identifying relationship") +
      model.relationships.countP Relationship.isIdentifying =
    model.entities.countP Entity.isWeak := by
  have absent : (Rule.weakEntityFindings model).countP (fun finding =>
        finding.reason = "Weak entity has no identifying relationship") =
      model.weakEntities.countP fun (id, _) => id ∉ model.identifications.map Prod.fst := by
    rw [weakEntityFindings_eq]
    apply countP_flatMap_eq_countP
    rintro ⟨id, entity⟩ -
    simpa only [decide_eq_true_iff] using (fits.reported id entity).countP_unidentified
  rw [absent, ← fits.countP_identified, ← length_weakEntities, Nat.add_comm]
  have split := List.length_eq_countP_add_countP (l := model.weakEntities)
    fun (id, _) => id ∈ model.identifications.map Prod.fst
  simpa using split.symm

end Counting

/-! ## The rule in both modes -/

/-- The outcome of the rule stands once in the report of either mode. -/
theorem exists_report (model : Model) (mode : Mode) :
    ∃ report, model.validate mode.rules = .ok report ∧
      report.outcomes.filter (·.id = Rule.weakEntityIdentification.id) =
        [⟨Rule.weakEntityIdentification.id, Rule.weakEntityIdentification.description,
          Rule.weakEntityFindings model⟩] := by
  cases mode with
  | basic => exact ⟨_, rfl, rfl⟩
  | strict => exact ⟨_, rfl, rfl⟩

/-- In the report of a reachable model, in either mode, the rule about weak entities reports the
problems of every weak entity, one entity after the other.  An entity without problems takes part
mandatorily in its identifying relationship, and has a link there.  The entities that lack an
identifying relationship are as many as the weak entities less the identifying relationships. -/
theorem weakEntityIdentification_exact (name description : String) (authors : List String)
    (operations : List Operation) (mode : Mode) :
    let model := (empty name description authors).run operations
    ∃ report findings problems, model.validate mode.rules = .ok report ∧
      report.outcomes.filter (·.id = Rule.weakEntityIdentification.id) =
        [⟨Rule.weakEntityIdentification.id, Rule.weakEntityIdentification.description, findings⟩] ∧
      findings = problems.flatten ∧
      List.Forall₂ (fun (id, entity) found => Reported model id entity found)
        model.weakEntities problems ∧
      (∀ id entity, Reported model id entity [] →
        ∃ relationshipId relationship, model.identifyingRelationship? id = some relationshipId ∧
          model.relationship? relationshipId = some relationship ∧
          relationship.kind = .identifying ∧
          (∃ link ∈ relationship.links, link.entity = some id) ∧
          ∀ link ∈ relationship.links, link.entity = some id → link.Mandatory) ∧
      (findings.countP fun finding =>
          finding.reason = "Weak entity has no identifying relationship") +
        model.relationships.countP Relationship.isIdentifying =
      model.entities.countP Entity.isWeak := by
  intro model
  have fits : Identified model := (identified_empty name description authors).run operations
  obtain ⟨report, ran, outcome⟩ := exists_report model mode
  refine ⟨report, Rule.weakEntityFindings model,
    model.weakEntities.map fun (id, entity) => Rule.identificationFindings model id entity,
    ran, outcome, ?_, ?_, ?_, fits.countP_unidentified⟩
  · rw [weakEntityFindings_eq, List.flatMap_def]
  · rw [List.forall₂_map_right_iff, List.forall₂_same]
    rintro ⟨id, entity⟩ -
    exact fits.reported id entity
  · intro id entity nothing
    exact fits.mandatory_of_reported_nil nothing

end Model

end ErSchema
