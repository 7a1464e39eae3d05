import ErSchema.Proofs.Division
import ErSchema.Proofs.Validation.Identification

/-!
# What one call changes in a report

A rule goes through the whole model, but an accepted call changes little of what it finds.  A new
entity brings findings about itself, a new relationship findings about its links, and a new
specialization at most one finding at its place.  The one finding that goes away is that of the weak
entity which a new identifying relationship claims: the problems of the links to it take its place.

The rules look at other parts of the model in two ways only.  The rule about links asks whether a
handle denotes an entity (`degreeFindings_congr`), and the rule about weak entities asks for the
relationship behind an entry of the table (`identificationFindings_congr`).
-/

set_option autoImplicit false

namespace ErSchema

/-- What the five rules find in a model. -/
structure Findings where
  entityKey : List Finding
  relationshipDegree : List Finding
  weakEntityIdentification : List Finding
  specializationMembers : List Finding
  keyAttributeKind : List Finding

/-- The strict report with given findings. -/
def Findings.report (findings : Findings) : Report where
  outcomes := [
    ⟨Rule.entityKey.id, Rule.entityKey.description, findings.entityKey⟩,
    ⟨Rule.relationshipDegree.id, Rule.relationshipDegree.description, findings.relationshipDegree⟩,
    ⟨Rule.weakEntityIdentification.id, Rule.weakEntityIdentification.description,
      findings.weakEntityIdentification⟩,
    ⟨Rule.specializationMembers.id, Rule.specializationMembers.description,
      findings.specializationMembers⟩,
    ⟨Rule.keyAttributeKind.id, Rule.keyAttributeKind.description, findings.keyAttributeKind⟩]

namespace Model

/-- What the five rules find in a model. -/
def findings (model : Model) : Findings where
  entityKey := Rule.entityKeyFindings model
  relationshipDegree := Rule.relationshipDegreeFindings model
  weakEntityIdentification := Rule.weakEntityFindings model
  specializationMembers := Rule.specializationMembersFindings model
  keyAttributeKind := Rule.keyKindFindings model

/-- The strict report of a model is made of what the five rules find. -/
theorem validate_strict (model : Model) :
    model.validate Mode.strict.rules = .ok model.findings.report :=
  rfl

/-- Whether every handle in a link denotes an entity. -/
def LinksResolve (model : Model) : Prop :=
  ∀ relationship ∈ model.relationships, ∀ id ∈ relationship.participants,
    ∃ entity, model.entity? id = some entity

/-! ## What the rules look at -/

section Locality

variable {model next : Model}

/-- Of the entities, the rule about links asks only whether there is one behind a handle. -/
theorem linkFinding?_congr {link : Link} (same : (link.entity.bind next.entity?).isSome =
      (link.entity.bind model.entity?).isSome) (name : String) (position : Nat) :
    Rule.linkFinding? next name link position = Rule.linkFinding? model name link position := by
  unfold Rule.linkFinding?
  cases new : link.entity.bind next.entity? with
  | none =>
    rw [new, Option.isSome_none, eq_comm, Option.isSome_eq_false_iff, Option.isNone_iff_eq_none]
      at same
    rw [same]
  | some present =>
    rw [new, Option.isSome_some, eq_comm, Option.isSome_iff_exists] at same
    obtain ⟨before, old⟩ := same
    rw [old]
    cases link.constraint <;> rfl

/-- So the findings about a relationship stay the same while the same of its handles denote
entities. -/
theorem degreeFindings_congr {relationship : Relationship}
    (same : ∀ id ∈ relationship.participants,
      (next.entity? id).isSome = (model.entity? id).isSome) :
    Rule.degreeFindings next relationship = Rule.degreeFindings model relationship := by
  have each : ∀ numbered ∈ relationship.links.zipIdx,
      Rule.linkFinding? next relationship.name numbered.1 numbered.2 =
        Rule.linkFinding? model relationship.name numbered.1 numbered.2 := by
    rintro ⟨link, position⟩ mem
    apply linkFinding?_congr
    cases named : link.entity with
    | none => rfl
    | some id =>
      have listed := List.fst_mem_of_mem_zipIdx mem
      exact same id (Relationship.mem_participants.2 ⟨link, listed, named⟩)
  have found : Rule.linkFindings next relationship = Rule.linkFindings model relationship :=
    List.filterMap_congr each
  have valid : Rule.validLinkCount next relationship = Rule.validLinkCount model relationship := by
    apply List.countP_congr
    rintro ⟨link, position⟩ mem
    have unchanged := each (link, position) mem
    dsimp only at unchanged ⊢
    rw [unchanged]
  unfold Rule.degreeFindings
  rw [found, valid]

/-- Of the model, the problems of a weak entity depend on its identifying relationship alone. -/
theorem identificationFindings_congr {id : EntityId} {entity other : Entity}
    (name : other.name = entity.name)
    (same : (next.identifyingRelationship? id).bind next.relationship? =
      (model.identifyingRelationship? id).bind model.relationship?) :
    Rule.identificationFindings next id other = Rule.identificationFindings model id entity := by
  unfold Rule.identificationFindings
  rw [same, name]

end Locality

/-! ## A new entity -/

section Entity

variable {model : Model} {added : Entity}

/-- A new entity comes last among the entities with their handles. -/
theorem entitiesWithIds_addEntity :
    (model.addEntity added).2.entitiesWithIds =
      model.entitiesWithIds ++ [(⟨model.entities.length⟩, added)] := by
  simp [addEntity, entitiesWithIds, List.zipIdx_append]

/-- The next handle has no entry in the table. -/
theorem Identified.next_notMem (fits : Identified model) :
    model.identifyingRelationship? ⟨model.entities.length⟩ = none := by
  cases entry : model.identifyingRelationship? ⟨model.entities.length⟩ with
  | none => rfl
  | some id =>
    obtain ⟨⟨entity, found, -⟩, -⟩ := fits.of_found entry
    simp [entity?] at found

/-- A new weak entity is unidentified, and the others are reported as before because the table and
the relationships are the same. -/
theorem weakEntityFindings_addEntity (fits : Identified model) :
    Rule.weakEntityFindings (model.addEntity added).2 =
      Rule.weakEntityFindings model ++
        if added.isWeak then [.unidentified added.name] else [] := by
  have unidentified : Rule.identificationFindings (model.addEntity added).2
      ⟨model.entities.length⟩ added = [.unidentified added.name] :=
    identificationFindings_of_none fits.next_notMem added
  rw [weakEntityFindings_eq, weakEntities, entitiesWithIds_addEntity, List.filter_append,
    List.flatMap_append]
  congr 1
  cases isWeak : added.isWeak <;> simp [isWeak, unidentified]

/-- A new entity brings the findings about itself. -/
theorem findings_addEntity (fits : Identified model) (resolves : model.LinksResolve)
    (built : added.Built) :
    (model.addEntity added).2.findings =
      { entityKey := model.findings.entityKey ++
          if added.key?.isNone then [.missingKey added.name] else []
        relationshipDegree := model.findings.relationshipDegree
        weakEntityIdentification := model.findings.weakEntityIdentification ++
          if added.isWeak then [.unidentified added.name] else []
        specializationMembers := model.findings.specializationMembers
        keyAttributeKind := model.findings.keyAttributeKind ++
          (Rule.keyKindFinding? added).toList } := by
  have key : Rule.entityKeyFindings (model.addEntity added).2 =
      Rule.entityKeyFindings model ++
        if added.key?.isNone then [.missingKey added.name] else [] := by
    unfold Rule.entityKeyFindings addEntity
    cases keyless : added.key?.isNone <;> simp [keyless]
  have degree : Rule.relationshipDegreeFindings (model.addEntity added).2 =
      Rule.relationshipDegreeFindings model := by
    apply List.flatMap_congr
    intro relationship mem
    apply degreeFindings_congr
    intro id named
    obtain ⟨entity, found⟩ := resolves relationship mem id named
    rw [found, entity?_addEntity_eq_some_iff.2 (.inl found)]
  have members : Rule.specializationMembersFindings (model.addEntity added).2 =
      Rule.specializationMembersFindings model := by
    have none : Rule.memberFindings added = [] := by
      rw [Rule.memberFindings, built.specializations_eq_nil]
      rfl
    unfold Rule.specializationMembersFindings addEntity
    rw [List.flatMap_append, List.flatMap_singleton, none, List.append_nil]
  have kind : Rule.keyKindFindings (model.addEntity added).2 =
      Rule.keyKindFindings model ++ (Rule.keyKindFinding? added).toList := by
    unfold Rule.keyKindFindings addEntity
    rw [List.filterMap_append]
    cases found : Rule.keyKindFinding? added <;> simp [found]
  unfold findings
  rw [key, degree, weakEntityFindings_addEntity fits, members, kind]

end Entity

/-! ## A new relationship -/

section Relationship

variable {model next : Model} {added : Relationship} {issued : RelationshipId}

/-- What the rule about weak entities reports about some of them, one after the other. -/
def identificationProblems (model : Model) (weak : List (EntityId × Entity)) : List Finding :=
  weak.flatMap fun (id, entity) => Rule.identificationFindings model id entity

/-- The problems of weak entities are listed entity by entity, so each of them has its place. -/
theorem identificationProblems_middle (model : Model) (earlier later : List (EntityId × Entity))
    (id : EntityId) (entity : Entity) :
    identificationProblems model (earlier ++ (id, entity) :: later) =
      identificationProblems model earlier ++ Rule.identificationFindings model id entity ++
        identificationProblems model later := by
  unfold identificationProblems
  rw [List.flatMap_append, List.flatMap_cons, List.append_assoc]

/-- An entity whose entry a new relationship leaves as it is keeps its problems. -/
theorem Identified.identificationFindings_eq (fits : Identified model)
    (accepted : model.addRelationship added = .ok (issued, next)) {id : EntityId}
    (same : next.identifyingRelationship? id = model.identifyingRelationship? id)
    (entity : Entity) :
    Rule.identificationFindings next id entity = Rule.identificationFindings model id entity := by
  have step : Step model (.addRelationship added) next := .relationship (.inl rfl) accepted
  refine identificationFindings_congr rfl ?_
  rw [same]
  cases entry : model.identifyingRelationship? id with
  | none => rfl
  | some relationshipId =>
    obtain ⟨-, relationship, found, -, -⟩ := fits.of_found entry
    rw [Option.bind_some, Option.bind_some, found, step.relationship?_eq found]

/-- A new relationship changes the findings about its own links, and about the weak entity that it
claims. -/
theorem findings_addRelationship
    (accepted : model.addRelationship added = .ok (issued, next)) :
    next.findings =
      { model.findings with
        relationshipDegree := model.findings.relationshipDegree ++ Rule.degreeFindings next added
        weakEntityIdentification := identificationProblems next model.weakEntities } := by
  -- the entities are the same, so the old relationships are reported as before
  have entities : next.entities = model.entities := entities_of_addRelationship accepted
  have unchanged : Rule.degreeFindings next = Rule.degreeFindings model := by
    funext relationship
    apply degreeFindings_congr
    intro id _
    rw [entity?, entity?, entities]
  obtain ⟨claimed, -, -, same⟩ := addRelationship_eq_ok_iff.1 accepted
  have relationships : next.relationships = model.relationships ++ [added] := by rw [same]
  have degree : Rule.relationshipDegreeFindings next =
      Rule.relationshipDegreeFindings model ++ Rule.degreeFindings next added := by
    unfold Rule.relationshipDegreeFindings
    rw [relationships, unchanged, List.flatMap_append, List.flatMap_singleton]
  have weak : Rule.weakEntityFindings next =
      identificationProblems next model.weakEntities := by
    rw [weakEntityFindings_eq, weakEntities, entitiesWithIds, entities]
    rfl
  unfold findings Rule.entityKeyFindings Rule.specializationMembersFindings Rule.keyKindFindings
  rw [degree, weak, entities]

/-- A new regular relationship claims no entity. -/
theorem identificationProblems_of_regular (fits : Identified model)
    (accepted : model.addRelationship added = .ok (issued, next))
    (regular : added.kind = .regular) :
    identificationProblems next model.weakEntities =
      model.findings.weakEntityIdentification := by
  apply List.flatMap_congr
  rintro ⟨id, entity⟩ -
  apply fits.identificationFindings_eq accepted
  exact identifyingRelationship?_of_regular accepted regular id

/-- A new identifying relationship claims a weak entity, whose problem it replaces in its place. -/
theorem identificationProblems_of_identifying (fits : Identified model)
    (accepted : model.addRelationship added = .ok (issued, next))
    (identifying : added.kind = .identifying) :
    ∃ weak entity earlier later, model.claim? added = some weak ∧
      model.weakEntities = earlier ++ (weak, entity) :: later ∧
      next.identifyingRelationship? weak = some issued ∧
      model.findings.weakEntityIdentification =
        identificationProblems model earlier ++ [.unidentified entity.name] ++
          identificationProblems model later ∧
      identificationProblems next model.weakEntities =
        identificationProblems model earlier ++ added.optionalFindings weak entity ++
          identificationProblems model later := by
  obtain ⟨weak, claim, lookup⟩ := exists_claim_of_identifying accepted identifying
  obtain ⟨⟨entity, present, kind⟩, unclaimed⟩ :=
    awaitsIdentification_iff.1 (List.find?_some claim)
  have found := relationship?_of_addRelationship accepted
  have entry : next.identifyingRelationship? weak = some issued := by
    rw [lookup, unclaimed, if_pos rfl, Option.none_or]
  obtain ⟨earlier, later, split⟩ := List.append_of_mem (mem_weakEntities.2 ⟨present, kind⟩)
  have distinct := nodup_weakEntities model
  have others : ∀ part, (∀ pair ∈ part, pair.1 ≠ weak) →
      identificationProblems next part = identificationProblems model part := by
    intro part apart
    apply List.flatMap_congr
    rintro ⟨id, other⟩ mem
    apply fits.identificationFindings_eq accepted
    rw [lookup, if_neg (apart _ mem), Option.or_none]
  have apart : ∀ pair ∈ earlier ++ later, pair.1 ≠ weak := by
    intro pair mem own
    have key := List.mem_map_of_mem (f := Prod.fst) mem
    rw [split, List.map_append, List.map_cons, List.nodup_middle, ← List.map_append,
      List.nodup_cons] at distinct
    exact distinct.1 (own ▸ key)
  refine ⟨weak, entity, earlier, later, claim, split, entry, ?_, ?_⟩
  · show identificationProblems model model.weakEntities = _
    rw [split, identificationProblems_middle, identificationFindings_of_none unclaimed]
  · rw [split, identificationProblems_middle, identificationFindings_of_some entry found,
      others earlier fun pair mem => apart pair (List.mem_append_left _ mem),
      others later fun pair mem => apart pair (List.mem_append_right _ mem)]

end Relationship

/-! ## A new specialization -/

section Specialization

variable {model next : Model} {added : Specialization}

/-- An attached specialization is reported at its place when it lists no derived entity. -/
theorem memberFindings_attach (parent : Entity) :
    Rule.memberFindings (parent.attach added) = Rule.memberFindings parent ++
      if added.derived = [] then [.noSubclasses parent.name parent.specializations.length]
      else [] := by
  unfold Rule.memberFindings Entity.attach
  by_cases empty : added.derived = [] <;> simp [List.zipIdx_append, empty]

/-- Attaching a specialization to an entity changes neither its kind nor its name, and these are all
that the rule about weak entities asks of it. -/
theorem weakEntityFindings_attach {earlier later : List Entity} {parent : Entity}
    (split : model.entities = earlier ++ parent :: later)
    (attached : next = { model with entities := earlier ++ parent.attach added :: later }) :
    Rule.weakEntityFindings next = Rule.weakEntityFindings model := by
  have entities : next.entities = earlier ++ parent.attach added :: later := by rw [attached]
  have unchanged : Rule.identificationFindings next = Rule.identificationFindings model := by
    subst attached
    rfl
  have kind : (parent.attach added).isWeak = parent.isWeak := rfl
  rw [weakEntityFindings_eq, weakEntityFindings_eq, weakEntities, weakEntities, entitiesWithIds,
    entitiesWithIds, split, entities, unchanged]
  simp only [List.zipIdx_append, List.zipIdx_cons, List.map_append, List.map_cons,
    List.filter_append, List.filter_cons, List.flatMap_append, kind]
  cases parent.isWeak <;> rfl

/-- A new specialization brings one finding, behind those about the earlier specializations of its
parent, when it lists no derived entity. -/
theorem findings_specialize (accepted : model.specialize added = .ok next) :
    ∃ earlier parent later, model.entities = earlier ++ parent :: later ∧
      earlier.length = added.parent.index ∧
      model.findings.specializationMembers =
        (earlier ++ [parent]).flatMap Rule.memberFindings ++
          later.flatMap Rule.memberFindings ∧
      next.findings =
        { model.findings with
          specializationMembers :=
            (earlier ++ [parent]).flatMap Rule.memberFindings ++
              (if added.derived = [] then
                [.noSubclasses parent.name parent.specializations.length]
              else []) ++
              later.flatMap Rule.memberFindings } := by
  obtain ⟨earlier, parent, later, split, position, attached⟩ :=
    exists_split_of_specialize accepted
  have entities : next.entities = earlier ++ parent.attach added :: later := by rw [attached]
  have key : Rule.entityKeyFindings next = Rule.entityKeyFindings model := by
    have same : (parent.attach added).key? = parent.key? := rfl
    unfold Rule.entityKeyFindings
    rw [split, entities]
    simp only [List.filter_append, List.filter_cons, List.map_append, same]
    cases parent.key?.isNone <;> rfl
  have degree : Rule.relationshipDegreeFindings next = Rule.relationshipDegreeFindings model := by
    have relationships : next.relationships = model.relationships := by rw [attached]
    unfold Rule.relationshipDegreeFindings
    rw [relationships]
    refine List.flatMap_congr fun relationship _ => degreeFindings_congr fun id _ => ?_
    rw [entity?_of_specialize accepted, Option.isSome_map]
  have members : Rule.specializationMembersFindings next =
        (earlier ++ [parent]).flatMap Rule.memberFindings ++
          (if added.derived = [] then
            [.noSubclasses parent.name parent.specializations.length]
          else []) ++
          later.flatMap Rule.memberFindings := by
    unfold Rule.specializationMembersFindings
    rw [entities, List.flatMap_append, List.flatMap_cons, memberFindings_attach]
    simp only [List.flatMap_append, List.flatMap_singleton, List.append_assoc]
  have kind : Rule.keyKindFindings next = Rule.keyKindFindings model := by
    have same : Rule.keyKindFinding? (parent.attach added) = Rule.keyKindFinding? parent := rfl
    unfold Rule.keyKindFindings
    rw [split, entities, List.filterMap_append, List.filterMap_append, List.filterMap_cons,
      List.filterMap_cons, same]
  refine ⟨earlier, parent, later, split, position, ?_, ?_⟩
  · show model.entities.flatMap Rule.memberFindings = _
    rw [split, ← List.flatMap_append, List.append_assoc]
    rfl
  · unfold findings
    rw [key, degree, weakEntityFindings_attach split attached, members, kind]

end Specialization

/-! ## All calls -/

/-- What an accepted call changes in the findings about a reachable model whose links denote
entities.  A new entity adds what is found about itself and leaves the findings about links.  A new
relationship adds what is found about its links; if it is identifying, its optional links to the
weak entity that it claims replace the finding that the entity is unidentified, in its place.  A new
specialization adds one finding at its place, exactly when it lists no derived entity.  Strict
validation reports what is found, of the model before the call as of the model after it. -/
theorem findings_incremental (name description : String) (authors : List String)
    (operations : List Operation)
    (resolves : ((empty name description authors).run operations).LinksResolve) :
    let model := (empty name description authors).run operations
    (∀ reported : Model,
      reported.validate Mode.strict.rules = .ok reported.findings.report) ∧
    (∀ added : Entity, added.Built → (model.addEntity added).2.findings =
      { entityKey := model.findings.entityKey ++
          if added.key?.isNone then [.missingKey added.name] else []
        relationshipDegree := model.findings.relationshipDegree
        weakEntityIdentification := model.findings.weakEntityIdentification ++
          if added.isWeak then [.unidentified added.name] else []
        specializationMembers := model.findings.specializationMembers
        keyAttributeKind := model.findings.keyAttributeKind ++
          (Rule.keyKindFinding? added).toList }) ∧
    (∀ added issued next, model.addRelationship added = .ok (issued, next) →
      ∃ identification,
        next.findings =
          { model.findings with
            relationshipDegree :=
              model.findings.relationshipDegree ++ Rule.degreeFindings next added
            weakEntityIdentification := identification } ∧
        (added.kind = .regular → identification = model.findings.weakEntityIdentification) ∧
        (added.kind = .identifying →
          ∃ weak entity earlier later, model.claim? added = some weak ∧
            model.weakEntities = earlier ++ (weak, entity) :: later ∧
            next.identifyingRelationship? weak = some issued ∧
            model.findings.weakEntityIdentification =
              identificationProblems model earlier ++ [.unidentified entity.name] ++
                identificationProblems model later ∧
            identification =
              identificationProblems model earlier ++ added.optionalFindings weak entity ++
                identificationProblems model later)) ∧
    ∀ added next, model.specialize added = .ok next →
      ∃ earlier parent later, model.entities = earlier ++ parent :: later ∧
        earlier.length = added.parent.index ∧
        model.findings.specializationMembers =
          (earlier ++ [parent]).flatMap Rule.memberFindings ++
            later.flatMap Rule.memberFindings ∧
        next.findings =
          { model.findings with
            specializationMembers :=
              (earlier ++ [parent]).flatMap Rule.memberFindings ++
                (if added.derived = [] then
                  [.noSubclasses parent.name parent.specializations.length]
                else []) ++
                later.flatMap Rule.memberFindings } := by
  intro model
  have fits : Identified model := (identified_empty name description authors).run operations
  refine ⟨validate_strict, ?_, ?_, ?_⟩
  · intro added built
    exact findings_addEntity fits resolves built
  · intro added issued next accepted
    refine ⟨_, findings_addRelationship accepted, ?_, ?_⟩
    · intro regular
      exact identificationProblems_of_regular fits accepted regular
    · intro identifying
      exact identificationProblems_of_identifying fits accepted identifying
  · intro added next accepted
    exact findings_specialize accepted

/-- Calls that build a model of a person and two weak entities. -/
def kennelCalls : List Operation := [
  .addEntity ((Entity.ofName .regular "person").addAttribute (.ofName .simple "name" true)),
  .addEntity (.ofName .weak "pet"),
  .addEntity (.ofName .weak "toy"),
  .addRelationship (.ofName .identifying "keeps"
    [⟨some ⟨0⟩, some .partialMany, ""⟩, ⟨some ⟨1⟩, some .partialSingle, ""⟩] [])]

/-- One more weak entity is reported behind those of the kennel. -/
theorem findings_kennel :
    ((empty "Kennel" "" []).run kennelCalls).LinksResolve ∧
    (((empty "Kennel" "" []).run kennelCalls).addEntity
        (.ofName .weak "ball")).2.findings.weakEntityIdentification =
      [.optionalParticipation "PET" "KEEPS" (some (.count 0)), .unidentified "TOY",
        .unidentified "BALL"] := by
  have issued : ∀ relationship ∈ ((empty "Kennel" "" []).run kennelCalls).relationships,
      ∀ id ∈ relationship.participants,
        (((empty "Kennel" "" []).run kennelCalls).entity? id).isSome = true := by
    decide +kernel
  have resolves : ((empty "Kennel" "" []).run kennelCalls).LinksResolve :=
    fun relationship mem id named => Option.isSome_iff_exists.1 (issued relationship mem id named)
  obtain ⟨-, entity, -, -⟩ := findings_incremental "Kennel" "" [] kennelCalls resolves
  refine ⟨resolves, ?_⟩
  rw [entity (.ofName .weak "ball") (.named _ _)]
  decide +kernel

end Model

end ErSchema
