import ErSchema.Proofs.Validation.Degree
import Mathlib.Data.List.Forall2

/-!
# Valid links

The rule about links looks at one link after the other and counts those with which nothing is wrong.
Here the two outcomes are said of the link alone.  A link is `Valid` when its participant denotes an
entity and its constraint is a pair of a minimum and a maximum.  An `Objection` gives the one reason
why it is not: a missing participant comes before the constraint, so the reasons exclude each other.

Each link is valid or has one objection.  So the report about a relationship lists the objections in
link order, and they are as many as the links less the valid ones.
-/

set_option autoImplicit false

namespace ErSchema

/-! ## Pairs -/

namespace StructuralConstraint

variable {constraint : StructuralConstraint}

/-- Whether the bounds are a pair of a minimum, an integer from zero up, and a maximum, such an
integer or the absence of a bound. -/
def IsPair (constraint : StructuralConstraint) : Prop :=
  ∃ least most, constraint.bounds = [.count least, most] ∧ 0 ≤ least ∧
    (most = .many ∨ ∃ count, most = .count count ∧ 0 ≤ count)

/-- The check gives the minimum and the maximum that the bounds spell. -/
theorem check_eq_ok_iff {minimum : Nat} {maximum : Cardinality} :
    constraint.check = .ok (minimum, maximum) ↔
      constraint.bounds = [.count minimum, .many] ∧ maximum = .many ∨
      ∃ count : Nat, constraint.bounds = [.count minimum, .count count] ∧
        maximum = .bounded count := by
  constructor
  · intro checked
    obtain ⟨most, pair, -⟩ := bounds_of_check checked
    rw [check, pair] at checked
    cases most with
    | many =>
      cases checked
      exact .inl ⟨pair, rfl⟩
    | other text => cases checked
    | count value =>
      cases value with
      | ofNat count =>
        cases checked
        exact .inr ⟨count, pair, rfl⟩
      | negSucc count => cases checked
  · rintro (⟨pair, rfl⟩ | ⟨count, pair, rfl⟩)
    · rw [check, pair]
      rfl
    · rw [check, pair]
      rfl

/-- The bounds are accepted when they are a pair. -/
theorem isValid_iff : constraint.isValid = true ↔ constraint.IsPair := by
  constructor
  · intro valid
    obtain ⟨minimum, maximum, checked⟩ := exists_check_of_isValid valid
    rcases check_eq_ok_iff.1 checked with ⟨pair, -⟩ | ⟨count, pair, -⟩
    · exact ⟨minimum, .many, pair, Int.natCast_nonneg minimum, .inl rfl⟩
    · exact ⟨minimum, .count count, pair, Int.natCast_nonneg minimum,
        .inr ⟨count, rfl, Int.natCast_nonneg count⟩⟩
  · rintro ⟨least, most, pair, atLeast, many | ⟨count, rfl, upTo⟩⟩
    · obtain ⟨minimum, rfl⟩ := Int.eq_ofNat_of_zero_le atLeast
      rw [many] at pair
      rw [isValid, check_eq_ok_iff.2 (.inl ⟨pair, rfl⟩)]
    · obtain ⟨minimum, rfl⟩ := Int.eq_ofNat_of_zero_le atLeast
      obtain ⟨maximum, rfl⟩ := Int.eq_ofNat_of_zero_le upTo
      rw [isValid, check_eq_ok_iff.2 (.inr ⟨maximum, pair, rfl⟩)]

end StructuralConstraint

/-! ## Links -/

/-- Whether a link counts: its participant denotes an entity, and its constraint is a pair. -/
structure Link.Valid (model : Model) (link : Link) : Prop where
  resolved : ∃ participant, link.entity.bind model.entity? = some participant
  bounded : ∃ constraint, link.constraint = some constraint ∧ constraint.IsPair

/-- Why a link at a position of a relationship does not count. -/
inductive Objection (model : Model) (relationship : String) (link : Link) (position : Nat) :
    Finding → Prop
  /-- Its participant is missing or denotes no entity. -/
  | participant (missing : link.entity.bind model.entity? = none) :
      Objection model relationship link position (.missingParticipant relationship position)
  /-- It has no constraint. -/
  | constraint {participant : Entity} (resolved : link.entity.bind model.entity? = some participant)
      (missing : link.constraint = none) :
      Objection model relationship link position (.missingConstraint relationship position)
  /-- The bounds of its constraint are no pair. -/
  | bounds {participant : Entity} {constraint : StructuralConstraint}
      (resolved : link.entity.bind model.entity? = some participant)
      (given : link.constraint = some constraint) (malformed : ¬ constraint.IsPair) :
      Objection model relationship link position
        (.malformedConstraint relationship position constraint)

/-- An objection is about the relationship and tells the number of the link. -/
theorem Objection.detail {model : Model} {relationship : String} {link : Link} {position : Nat}
    {finding : Finding} (objection : Objection model relationship link position finding) :
    finding.item = relationship ∧
      ∃ more, finding.detail = some ("i=" ++ toString position ++ more) := by
  cases objection with
  | participant missing => exact ⟨rfl, "", by simp [Finding.detail]⟩
  | constraint resolved missing => exact ⟨rfl, "", by simp [Finding.detail]⟩
  | @bounds participant constraint resolved given malformed =>
    exact ⟨rfl, ", structCon=" ++ constraint.text, by simp [Finding.detail, String.append_assoc]⟩

namespace Rule

variable {model : Model} {relationship : Relationship} {link : Link} {name : String}
  {position : Nat} {finding : Finding}

/-- Nothing is wrong with a link when it is valid. -/
theorem linkFinding?_eq_none_iff :
    linkFinding? model name link position = none ↔ link.Valid model := by
  constructor
  · intro none
    obtain ⟨participant, constraint, resolved, given, valid⟩ := linkFinding?_eq_none none
    exact ⟨⟨participant, resolved⟩, constraint, given, StructuralConstraint.isValid_iff.1 valid⟩
  · rintro ⟨⟨participant, resolved⟩, constraint, given, pair⟩
    have valid := StructuralConstraint.isValid_iff.2 pair
    simp only [linkFinding?, resolved, given, valid, if_true]

/-- What is wrong with a link is the objection to it. -/
theorem linkFinding?_eq_some_iff :
    linkFinding? model name link position = some finding ↔
      Objection model name link position finding := by
  constructor
  · intro found
    unfold linkFinding? at found
    split at found
    · next missing =>
      cases found
      exact .participant missing
    · next resolved missing =>
      cases found
      exact .constraint resolved missing
    · next constraint resolved given =>
      split at found
      · cases found
      · next invalid =>
        cases found
        exact .bounds resolved given fun pair => invalid (StructuralConstraint.isValid_iff.2 pair)
  · intro objection
    unfold linkFinding?
    cases objection with
    | participant missing => rw [missing]
    | constraint resolved missing => rw [resolved, missing]
    | bounds resolved given malformed =>
      have invalid := mt StructuralConstraint.isValid_iff.1 malformed
      rw [resolved, given]
      exact if_neg invalid

end Rule

instance (model : Model) : DecidablePred (Link.Valid model) := fun link =>
  decidable_of_iff (Rule.linkFinding? model "" link 0 = none) Rule.linkFinding?_eq_none_iff

/-! ## Relationships -/

/-- When every item is either kept and related to what is picked from it, or neither kept nor
picked, the kept items correspond to what is picked. -/
theorem forall₂_filter_filterMap {α β : Type} {pick : α → Option β} {kept : α → Bool}
    {related : α → β → Prop} {items : List α}
    (each : ∀ item ∈ items, (kept item = false ∧ pick item = none) ∨
      kept item = true ∧ ∃ value, pick item = some value ∧ related item value) :
    List.Forall₂ related (items.filter kept) (items.filterMap pick) := by
  induction items with
  | nil => exact .nil
  | cons first rest ih =>
    simp only [List.mem_cons, forall_eq_or_imp] at each
    obtain ⟨⟨dropped, nothing⟩ | ⟨kept, value, picked, holds⟩, later⟩ := each
    · rw [List.filter_cons_of_neg (by simp [dropped]), List.filterMap_cons_none nothing]
      exact ih later
    · rw [List.filter_cons_of_pos kept, List.filterMap_cons_some picked]
      exact .cons holds (ih later)

/-- The number of links that count towards the degree of a relationship. -/
def Relationship.validLinks (model : Model) (relationship : Relationship) : Nat :=
  relationship.links.countP fun link => link.Valid model

/-- What is to be reported about a relationship: an objection to each link that is not valid, in
link order, and behind them, exactly when fewer than two links are valid, how many of them are.  The
objections are as many as the links less the valid ones. -/
def Relationship.DegreeReport (model : Model) (relationship : Relationship)
    (findings : List Finding) : Prop :=
  ∃ objections,
    findings = objections ++
      (if relationship.validLinks model < 2 then
        [.tooFewValidLinks relationship.name (relationship.validLinks model)
          relationship.links.length]
      else []) ∧
    List.Forall₂ (fun (link, position) finding =>
        Objection model relationship.name link position finding)
      (relationship.links.zipIdx.filter fun (link, _) => ¬ link.Valid model) objections ∧
    objections.length + relationship.validLinks model = relationship.links.length

namespace Rule

variable {model : Model} {relationship : Relationship}

/-- Every link that is not valid has its objection, and no other link has one. -/
theorem forall₂_linkFindings :
    List.Forall₂ (fun (link, position) finding =>
        Objection model relationship.name link position finding)
      (relationship.links.zipIdx.filter fun (link, _) => ¬ link.Valid model)
      (linkFindings model relationship) := by
  apply forall₂_filter_filterMap
  rintro ⟨link, position⟩ -
  dsimp only
  cases found : linkFinding? model relationship.name link position with
  | none =>
    have valid := linkFinding?_eq_none_iff.1 found
    exact .inl ⟨decide_eq_false (not_not.2 valid), rfl⟩
  | some finding =>
    have invalid : ¬ link.Valid model := by
      intro valid
      rw [linkFinding?_eq_none_iff.2 valid] at found
      cases found
    exact .inr ⟨decide_eq_true invalid, finding, rfl, linkFinding?_eq_some_iff.1 found⟩

/-- The rule counts the valid links. -/
theorem validLinkCount_eq (model : Model) (relationship : Relationship) :
    validLinkCount model relationship = relationship.validLinks model := by
  have each : (fun numbered : Link × Nat =>
        (linkFinding? model relationship.name numbered.1 numbered.2).isNone) =
      (fun link => decide (link.Valid model)) ∘ Prod.fst := by
    funext numbered
    rw [Bool.eq_iff_iff, Option.isNone_iff_eq_none, linkFinding?_eq_none_iff]
    exact decide_eq_true_iff.symm
  rw [validLinkCount, Relationship.validLinks]
  conv_rhs => rw [← List.zipIdx_map_fst 0 relationship.links, List.countP_map]
  rw [← each]

/-- Objections and valid links add up to all links. -/
theorem length_linkFindings (model : Model) (relationship : Relationship) :
    (linkFindings model relationship).length + relationship.validLinks model =
      relationship.links.length := by
  rw [← validLinkCount_eq, linkFindings, validLinkCount, List.length_filterMap_eq_countP]
  have split := List.length_eq_countP_add_countP (l := relationship.links.zipIdx)
    fun (link, position) => (linkFinding? model relationship.name link position).isSome
  simpa only [List.length_zipIdx, Bool.not_eq_true, Option.isSome_eq_false_iff, Bool.decide_eq_true]
    using split.symm

/-- What the rule says about a relationship is what is to be reported about it. -/
theorem degreeReport (model : Model) (relationship : Relationship) :
    relationship.DegreeReport model (degreeFindings model relationship) := by
  refine ⟨linkFindings model relationship, ?_, forall₂_linkFindings,
    length_linkFindings model relationship⟩
  rw [degreeFindings, validLinkCount_eq]

end Rule

/-- In every model the rule about links reports about one relationship after the other: an objection
to each link that is not valid, with the number of the link, and how many of all links are valid
exactly when these are fewer than two. -/
theorem relationshipDegree_exact (model : Model) :
    (∃ reports, Rule.relationshipDegree.run model = .ok reports.flatten ∧
      List.Forall₂ (fun relationship findings => relationship.DegreeReport model findings)
        model.relationships reports) ∧
    (∀ relationship link position finding, Objection model relationship link position finding →
      finding.item = relationship ∧
        ∃ more, finding.detail = some ("i=" ++ toString position ++ more)) ∧
    ∀ relationship valid total,
      (Finding.tooFewValidLinks relationship valid total).item = relationship ∧
        (Finding.tooFewValidLinks relationship valid total).detail =
          some ("validLinks=" ++ toString valid ++ "/" ++ toString total) := by
  refine ⟨⟨model.relationships.map (Rule.degreeFindings model), ?_, ?_⟩, ?_, ?_⟩
  · rw [← List.flatMap_def]
    rfl
  · rw [List.forall₂_map_right_iff, List.forall₂_same]
    exact fun relationship _ => Rule.degreeReport model relationship
  · exact fun _ _ _ _ objection => objection.detail
  · exact fun _ _ _ => ⟨rfl, rfl⟩

end ErSchema
