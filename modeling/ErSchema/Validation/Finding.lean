import ErSchema.Constraint
import ErSchema.Model.Attribute

/-!
# Findings

A finding is a problem that a rule notices in a model.  It names the item it is about by its name in
the diagram, states a reason, and may add a detail such as the position of a link.
-/

set_option autoImplicit false

namespace ErSchema

/-- A problem in a model. -/
inductive Finding where
  /-- An entity has no key. -/
  | missingKey (entity : String)
  /-- A link names no entity of the model. -/
  | missingParticipant (relationship : String) (link : Nat)
  /-- A link has no constraint. -/
  | missingConstraint (relationship : String) (link : Nat)
  /-- The constraint of a link is not a pair of a minimum and a maximum. -/
  | malformedConstraint (relationship : String) (link : Nat) (constraint : StructuralConstraint)
  /-- A relationship has fewer than two valid links. -/
  | tooFewValidLinks (relationship : String) (valid total : Nat)
  /-- A weak entity has no identifying relationship. -/
  | unidentified (entity : String)
  /-- A link allows that a weak entity takes no part in its identifying relationship. -/
  | optionalParticipation (entity relationship : String) (minimum : Option Bound)
  /-- A specialization lists no derived entity. -/
  | noSubclasses (entity : String) (specialization : Nat)
  /-- The value of a key is computed or is not a single one. -/
  | unsuitableKey (entity key : String) (kind : AttributeKind)
  /-- What a rule of a caller's own reports, in the words of that rule. -/
  | custom (item reason : String) (detail : Option String)
  deriving DecidableEq, Repr

namespace Finding

/-- The name of the item that a finding is about: an entity or a relationship, unless the rule is a
caller's own. -/
def item : Finding → String
  | .missingKey entity | .unidentified entity | .optionalParticipation entity _ _
  | .noSubclasses entity _ | .unsuitableKey entity _ _ => entity
  | .missingParticipant relationship _ | .missingConstraint relationship _
  | .malformedConstraint relationship _ _ | .tooFewValidLinks relationship _ _ => relationship
  | .custom item _ _ => item

/-- The wording of a problem. -/
def reason : Finding → String
  | .missingKey _ => "Missing key attribute"
  | .missingParticipant _ _ => "Relationship link has missing participant"
  | .missingConstraint _ _ => "Relationship link has missing structural constraint"
  | .malformedConstraint _ _ _ =>
    "Relationship link has structural constraint that isn't of the form (min,max), where min " ++
      "is a non-negative integer and max is a non-negative integer or N"
  | .tooFewValidLinks _ _ _ => "Relationship does not have at least 2 valid links"
  | .unidentified _ => "Weak entity has no identifying relationship"
  | .optionalParticipation _ _ _ =>
    "Weak entity does not participate mandatorily in its identifying relationship"
  | .noSubclasses _ _ => "Specialization has no subclasses"
  | .unsuitableKey _ _ _ => "Key attribute is derived or multivalued"
  | .custom _ reason _ => reason

/-- What a finding adds to its reason. -/
def detail : Finding → Option String
  | .missingKey _ | .unidentified _ => none
  | .missingParticipant _ link | .missingConstraint _ link => some ("i=" ++ toString link)
  | .malformedConstraint _ link constraint =>
    some ("i=" ++ toString link ++ ", structCon=" ++ constraint.text)
  | .tooFewValidLinks _ valid total =>
    some ("validLinks=" ++ toString valid ++ "/" ++ toString total)
  | .optionalParticipation _ relationship minimum =>
    some ("relationship=" ++ relationship ++ ", min=" ++ (minimum.map Bound.text).getD "-")
  | .noSubclasses _ specialization => some ("s=" ++ toString specialization)
  | .unsuitableKey _ key kind => some ("key=" ++ key ++ ", kind=" ++ kind.text)
  | .custom _ _ detail => detail

/-- A finding as one line of a report. -/
def line (finding : Finding) : String :=
  "X -- " ++ finding.reason ++ " | Item: " ++ finding.item ++ " | Info: " ++
    finding.detail.getD "-"

end Finding

end ErSchema
