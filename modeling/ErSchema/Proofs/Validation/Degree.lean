import ErSchema.Validation.Mode

/-!
# The rule about links

The rule classifies a link by two things: whether its participant denotes an entity, and whether its
constraint is there and well-formed.  A missing participant hides the rest.  A relationship without
problems has at least two links, each with a participant and a constraint that passes the check, and
the text of such a constraint is its minimum and its maximum.
-/

set_option autoImplicit false

namespace ErSchema

/-! ## Constraints -/

/-- A bound is counted as a number when it is this number. -/
theorem Bound.asCount_eq_some_iff {bound : Bound} {number : Nat} :
    bound.asCount = some number ↔ bound = .count number := by
  cases bound with
  | count value =>
    cases value with
    | ofNat n =>
      rw [asCount, Option.some_inj, count.injEq]
      exact Int.ofNat_inj.symm
    | negSucc n => simp [asCount]
  | many => simp [asCount]
  | other text => simp [asCount]

namespace StructuralConstraint

variable {constraint : StructuralConstraint} {minimum : Nat} {maximum : Cardinality}

/-- A constraint that passes the check has the minimum and the maximum as its bounds. -/
theorem bounds_of_check (checked : constraint.check = .ok (minimum, maximum)) :
    ∃ bound, constraint.bounds = [.count minimum, bound] ∧ bound.text = maximum.text := by
  unfold check at checked
  split at checked
  case h_2 => cases checked
  case h_1 least most pair =>
    cases first : least.asCount with
    | none =>
      rw [first] at checked
      cases checked
    | some number =>
      rw [first] at checked
      obtain rfl := Bound.asCount_eq_some_iff.1 first
      refine ⟨most, ?_⟩
      cases most with
      | many =>
        cases checked
        exact ⟨pair, rfl⟩
      | other text => cases checked
      | count value =>
        cases value with
        | ofNat n =>
          cases checked
          exact ⟨pair, rfl⟩
        | negSucc n => cases checked

/-- The text of bounds that are a pair is the minimum and the maximum in parentheses. -/
theorem text_of_check (checked : constraint.check = .ok (minimum, maximum)) :
    constraint.text = "(" ++ toString minimum ++ "," ++ maximum.text ++ ")" := by
  obtain ⟨bound, pair, most⟩ := bounds_of_check checked
  have least : (Bound.count minimum).text = toString minimum := rfl
  rw [text, pair, List.map_cons, List.map_cons, List.map_nil, least, most]
  simp [String.append_assoc]

/-- Valid bounds are a pair. -/
theorem exists_check_of_isValid (valid : constraint.isValid = true) :
    ∃ minimum maximum, constraint.check = .ok (minimum, maximum) := by
  unfold isValid at valid
  cases checked : constraint.check with
  | ok pair => exact ⟨pair.1, pair.2, rfl⟩
  | error defect =>
    rw [checked] at valid
    cases valid

end StructuralConstraint

/-! ## Links -/

namespace Rule

variable {model : Model} {relationship : Relationship} {link : Link} {position : Nat}

/-- A link is reported for its participant at its own position, when its handle denotes no entity.
-/
theorem linkFinding?_eq_missingParticipant_iff {name : String} {reported : Nat} :
    linkFinding? model name link position = some (.missingParticipant name reported) ↔
      position = reported ∧ link.entity.bind model.entity? = none := by
  unfold linkFinding?
  cases link.entity.bind model.entity? with
  | none => simp
  | some participant =>
    cases link.constraint with
    | none => simp
    | some constraint => cases valid : constraint.isValid <;> simp [valid]

/-- A link that is not reported has a participant and a valid constraint. -/
theorem linkFinding?_eq_none {name : String}
    (none : linkFinding? model name link position = none) :
    ∃ participant constraint, link.entity.bind model.entity? = some participant ∧
      link.constraint = some constraint ∧ constraint.isValid = true := by
  unfold linkFinding? at none
  cases resolved : link.entity.bind model.entity? with
  | none => simp [resolved] at none
  | some participant =>
    cases given : link.constraint with
    | none => simp [resolved, given] at none
    | some constraint =>
      cases valid : constraint.isValid with
      | false => simp [resolved, given, valid] at none
      | true => exact ⟨participant, constraint, rfl, rfl, valid⟩

/-- A missing participant is reported for the links whose participant denotes no entity. -/
theorem missingParticipant_mem_iff (listed : relationship.links[position]? = some link) :
    .missingParticipant relationship.name position ∈ degreeFindings model relationship ↔
      link.entity.bind model.entity? = none := by
  have other : .missingParticipant relationship.name position ∉
      if validLinkCount model relationship < 2 then
        [Finding.tooFewValidLinks relationship.name (validLinkCount model relationship)
          relationship.links.length]
      else [] := by
    split <;> simp
  rw [degreeFindings, List.mem_append, or_iff_left other, linkFindings, List.mem_filterMap]
  constructor
  · rintro ⟨⟨reported, index⟩, mem, found⟩
    obtain ⟨rfl, missing⟩ := linkFinding?_eq_missingParticipant_iff.1 found
    rw [List.mem_zipIdx_iff_getElem?.1 mem] at listed
    cases listed
    exact missing
  · intro missing
    have numbered : (link, position) ∈ relationship.links.zipIdx :=
      List.mem_zipIdx_iff_getElem?.2 listed
    exact ⟨(link, position), numbered,
      linkFinding?_eq_missingParticipant_iff.2 ⟨rfl, missing⟩⟩

/-- A relationship without problems has at least two links, and nothing is wrong with any. -/
theorem links_of_degreeFindings_eq_nil (none : degreeFindings model relationship = []) :
    2 ≤ relationship.links.length ∧
      ∀ link ∈ relationship.links, ∃ participant constraint,
        link.entity.bind model.entity? = some participant ∧
        link.constraint = some constraint ∧ constraint.isValid = true := by
  obtain ⟨unproblematic, enough⟩ := List.append_eq_nil_iff.1 none
  constructor
  · have few : ¬ validLinkCount model relationship < 2 := by
      intro few
      simp [few] at enough
    have bound : validLinkCount model relationship ≤ relationship.links.zipIdx.length :=
      List.countP_le_length
    rw [List.length_zipIdx] at bound
    omega
  · intro link mem
    obtain ⟨position, listed⟩ := List.mem_iff_getElem?.1 mem
    have numbered : (link, position) ∈ relationship.links.zipIdx :=
      List.mem_zipIdx_iff_getElem?.2 listed
    exact linkFinding?_eq_none (List.filterMap_eq_nil_iff.1 unproblematic (link, position) numbered)

end Rule

/-! ## Success -/

/-- A report is a success when every rule passed. -/
theorem Report.isSuccess_iff {report : Report} :
    report.isSuccess = true ↔ ∀ outcome ∈ report.outcomes, outcome.passed = true := by
  have bound : report.passed ≤ report.total := List.countP_le_length
  rw [isSuccess, beq_iff_eq, failed, ← List.countP_eq_length]
  change report.total - report.passed = 0 ↔ report.passed = report.total
  omega

/-- In the basic mode a success means that the rule about links found nothing. -/
theorem Model.degreeFindings_of_success (model : Model) :
    ∃ report, model.validate Mode.basic.rules = .ok report ∧
      (report.isSuccess = true → Rule.relationshipDegreeFindings model = []) := by
  refine ⟨_, rfl, fun success => ?_⟩
  have passed := Report.isSuccess_iff.1 success
    ⟨Rule.relationshipDegree.id, Rule.relationshipDegree.description,
      Rule.relationshipDegreeFindings model⟩ (by simp)
  exact List.isEmpty_iff.1 passed

end ErSchema
