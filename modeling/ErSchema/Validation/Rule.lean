import ErSchema.Model.Basic
import ErSchema.Validation.Finding

/-!
# Rules

A rule checks a model and lists what it finds; it passes when it finds nothing.  The five rules of
this module always run to their end.  A rule may also fail to run at all, with a text that says why.
-/

set_option autoImplicit false

namespace ErSchema

/-- A check of a model. -/
structure Rule where
  /-- A short name that does not change. -/
  id : String
  /-- The question that the rule answers. -/
  description : String
  /-- The problems of a model, or why the rule could not run. -/
  run : Model → Except String (List Finding)

namespace Rule

/-- Every entity has a key. -/
def entityKeyFindings (model : Model) : List Finding :=
  (model.entities.filter (·.key?.isNone)).map (.missingKey ·.name)

/-- What is wrong with the link at a position of a relationship.  A missing participant hides every
other problem of the link. -/
def linkFinding? (model : Model) (relationship : String) (link : Link) (position : Nat) :
    Option Finding :=
  match link.entity.bind model.entity?, link.constraint with
  | none, _ => some (.missingParticipant relationship position)
  | some _, none => some (.missingConstraint relationship position)
  | some _, some constraint =>
    if constraint.isValid then none
    else some (.malformedConstraint relationship position constraint)

/-- The problems of the links of a relationship, in link order. -/
def linkFindings (model : Model) (relationship : Relationship) : List Finding :=
  relationship.links.zipIdx.filterMap fun (link, position) =>
    linkFinding? model relationship.name link position

/-- The number of links of a relationship that nothing is wrong with. -/
def validLinkCount (model : Model) (relationship : Relationship) : Nat :=
  relationship.links.zipIdx.countP fun (link, position) =>
    (linkFinding? model relationship.name link position).isNone

/-- The problems of one relationship: those of its links, and that fewer than two links are valid.
-/
def degreeFindings (model : Model) (relationship : Relationship) : List Finding :=
  let valid := validLinkCount model relationship
  linkFindings model relationship ++
    if valid < 2 then [.tooFewValidLinks relationship.name valid relationship.links.length] else []

/-- Every relationship has at least two valid links and no invalid one. -/
def relationshipDegreeFindings (model : Model) : List Finding :=
  model.relationships.flatMap (degreeFindings model)

/-- Whether a link requires that its participant takes part at least once. -/
def isMandatory (link : Link) : Bool :=
  match link.constraint.bind StructuralConstraint.minimum? with
  | some (.count least) => 1 ≤ least
  | _ => false

/-- The problems of one weak entity: no identifying relationship, or links to it in that
relationship which do not require its participation. -/
def identificationFindings (model : Model) (id : EntityId) (entity : Entity) : List Finding :=
  match (model.identifyingRelationship? id).bind model.relationship? with
  | none => [.unidentified entity.name]
  | some relationship =>
    (relationship.links.filter fun link => link.entity == some id && !isMandatory link).map
      fun link => .optionalParticipation entity.name relationship.name
        (link.constraint.bind StructuralConstraint.minimum?)

/-- Every weak entity takes part mandatorily in its identifying relationship. -/
def weakEntityFindings (model : Model) : List Finding :=
  (model.entitiesWithIds.filter (·.2.isWeak)).flatMap fun (id, entity) =>
    identificationFindings model id entity

/-- The specializations of an entity that list no derived entity. -/
def memberFindings (entity : Entity) : List Finding :=
  (entity.specializations.zipIdx.filter (·.1.derived.isEmpty)).map
    fun (_, position) => .noSubclasses entity.name position

/-- Every specialization lists a derived entity. -/
def specializationMembersFindings (model : Model) : List Finding :=
  model.entities.flatMap memberFindings

/-- The key of an entity when its value is computed or is not a single one. -/
def keyKindFinding? (entity : Entity) : Option Finding :=
  entity.key?.bind fun key =>
    if key.kind = .derived ∨ key.kind = .multivalued then
      some (.unsuitableKey entity.name key.name key.kind)
    else
      none

/-- Every key has one stored value. -/
def keyKindFindings (model : Model) : List Finding :=
  model.entities.filterMap keyKindFinding?

/-- Entities have keys. -/
def entityKey : Rule where
  id := "entity-key"
  description := "Does every entity have a primary key, or a partial key for a weak entity"
  run model := .ok (entityKeyFindings model)

/-- Relationships have enough valid participants. -/
def relationshipDegree : Rule where
  id := "relationship-degree"
  description := "Does every relationship have sufficient and valid participants"
  run model := .ok (relationshipDegreeFindings model)

/-- Weak entities are identified. -/
def weakEntityIdentification : Rule where
  id := "weak-entity-identification"
  description :=
    "Does every weak entity have an identifying relationship with mandatory participation"
  run model := .ok (weakEntityFindings model)

/-- Specializations have derived entities. -/
def specializationMembers : Rule where
  id := "specialization-members"
  description := "Does every specialization have at least one subclass"
  run model := .ok (specializationMembersFindings model)

/-- Keys are stored and single-valued. -/
def keyAttributeKind : Rule where
  id := "key-attribute-kind"
  description := "Is every key attribute stored and single-valued"
  run model := .ok (keyKindFindings model)

end Rule

end ErSchema
