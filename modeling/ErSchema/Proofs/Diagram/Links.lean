import ErSchema.Proofs.Diagram.Closure
import ErSchema.Proofs.Validation.Degree

/-!
# The edges of links

The edge of a link is drawn exactly where the rule about links finds a participant, and it has a
label exactly where the link has a constraint.  So a model that passes the rule is drawn in full:
every link has its edge, and the label of the edge is a minimum and a maximum.

In the text of a diagram these edges are told from the others by their length.
-/

set_option autoImplicit false

namespace ErSchema

namespace Dot

/-- The edge of a link: what it joins, and its label if it has one. -/
structure LinkEdge where
  participant : String
  relationship : String
  label : Option String
  deriving DecidableEq, Repr

/-- An edge as it can be read. -/
def LinkEdge.legible (edge : LinkEdge) : LinkEdge where
  participant := dropReturns edge.participant
  relationship := dropReturns edge.relationship
  label := edge.label.map dropReturns

/-- The text between the quotes of a value. -/
def Value.quoted? : Value → Option String
  | .quoted text => some text
  | .bare _ => none

/-- The label among some settings. -/
def labelAmong? (settings : List Setting) : Option String :=
  (settings.find? (·.name = "label")).bind fun setting => setting.value.quoted?

/-- The edge of a link that a statement is, if it is drawn with the length of these edges. -/
def Statement.linkEdge? : Statement → Option LinkEdge
  | .node _ _ => none
  | .edge tail head settings =>
    if ⟨"len", .bare "1.0"⟩ ∈ settings then some ⟨tail, head, labelAmong? settings⟩ else none

/-- The edges of links in a graph. -/
def Graph.linkEdges (graph : Graph) : List LinkEdge :=
  graph.statements.filterMap Statement.linkEdge?

/-- The label that can be read is the label without carriage returns. -/
theorem labelAmong?_map_legible (settings : List Setting) :
    labelAmong? (settings.map Setting.legible) = (labelAmong? settings).map dropReturns := by
  have named : (fun setting : Setting => decide (setting.name = "label")) ∘ Setting.legible =
      fun setting => decide (setting.name = "label") := rfl
  unfold labelAmong?
  rw [List.find?_map, named]
  cases settings.find? fun setting => decide (setting.name = "label") with
  | none => rfl
  | some setting =>
    obtain ⟨name, value⟩ := setting
    cases value <;> rfl

/-- The edge of a link that can be read is that edge without carriage returns. -/
theorem Statement.linkEdge?_legible (line : Statement) :
    line.legible.linkEdge? = line.linkEdge?.map LinkEdge.legible := by
  cases line with
  | node id settings => rfl
  | edge tail head settings =>
    simp only [Statement.legible, Statement.linkEdge?, bare_mem_map_legible,
      labelAmong?_map_legible]
    split <;> rfl

/-- A graph that holds the statements of another as they can be read holds its edges of links so. -/
theorem linkEdges_of_statements_eq {graph found : Graph}
    (same : found.statements = graph.statements.map Statement.legible) :
    found.linkEdges = graph.linkEdges.map LinkEdge.legible := by
  simp only [Graph.linkEdges, same, List.filterMap_map, List.map_filterMap, Function.comp_def,
    Statement.linkEdge?_legible]

end Dot

open Dot

/-- The edge of a link whose participant denotes an entity. -/
def Model.linkEdge? (model : Model) (relationship : Relationship) (link : Link) :
    Option LinkEdge :=
  (link.entity.bind model.entity?).map fun participant =>
    ⟨participant.name, relationship.name, link.constraint.map StructuralConstraint.text⟩

namespace Diagram

/-- The edges of attributes are shorter. -/
theorem linkEdges_framed (style : Style) (shape fill owner : String) (isDouble : Bool)
    (attributes : List Attribute) :
    (namedNode shape fill owner isDouble ::
      attributeListStatements style owner attributes).filterMap Statement.linkEdge? = [] := by
  rw [List.filterMap_eq_nil_iff]
  refine List.forall_mem_cons.2 ⟨rfl, ?_⟩
  intro line mem
  cases isBranch_attributes style owner attributes line mem with
  | node id settings => rfl
  | edge fromOwner toAttribute => simp [Statement.linkEdge?, bare]

/-- The circle of a specialization and its edge are no edges of links. -/
theorem linkEdges_circleStatements (style : Style) (parent circle : String)
    (specialization : Specialization) :
    (circleStatements style parent circle specialization).filterMap Statement.linkEdge? = [] := by
  rw [List.filterMap_eq_nil_iff]
  refine List.forall_mem_cons.2 ⟨rfl, List.forall_mem_singleton.2 ?_⟩
  cases specialization.isTotal <;> cases specialization.role <;>
    simp [Statement.linkEdge?, quoted, bare]

/-- The edges of subclasses are no edges of links. -/
theorem linkEdges_subclassStatements (model : Model) (owner : String)
    (specialization : Specialization) :
    (subclassStatements model owner specialization).filterMap Statement.linkEdge? = [] := by
  rw [List.filterMap_eq_nil_iff]
  intro line mem
  obtain ⟨child, -, rfl⟩ := List.mem_map.1 mem
  simp [Statement.linkEdge?, bare]

/-- The edges of specializations are longer. -/
theorem linkEdges_divisionStatements (model : Model) (style : Style) (entity : Entity) :
    (divisionStatements model style entity).filterMap Statement.linkEdge? = [] := by
  rw [divisionStatements, List.filterMap_flatMap, List.flatMap_eq_nil_iff]
  rintro ⟨specialization, position⟩ -
  dsimp only
  unfold specializationStatements
  split
  · rw [List.filterMap_append, linkEdges_circleStatements, linkEdges_subclassStatements,
      List.append_nil]
  · exact linkEdges_subclassStatements model entity.name specialization

/-- The edge of a link is read as what it joins and its label. -/
theorem linkEdges_linkStatements (model : Model) (relationship : Relationship) :
    (linkStatements model relationship).filterMap Statement.linkEdge? =
      relationship.links.filterMap (model.linkEdge? relationship) := by
  unfold linkStatements
  rw [List.filterMap_filterMap]
  apply List.filterMap_congr
  intro link _
  unfold linkStatement? Model.linkEdge?
  cases link.entity.bind model.entity? with
  | none => rfl
  | some participant =>
    cases link.constraint <;>
      simp [Statement.linkEdge?, labelAmong?, Value.quoted?, quoted, bare]

end Diagram

open Diagram

namespace Model

/-- All links of a model, each with its relationship, in order. -/
def links (model : Model) : List (Relationship × Link) :=
  model.relationships.flatMap fun relationship => relationship.links.map (relationship, ·)

/-- The links of a model are those of its relationships. -/
theorem mem_links {model : Model} {relationship : Relationship} {link : Link} :
    (relationship, link) ∈ model.links ↔
      relationship ∈ model.relationships ∧ link ∈ relationship.links := by
  simp [links]

/-- The edges of links in a diagram are those of the links of the model, in order. -/
theorem linkEdges_diagram (model : Model) (style : Style) :
    (model.diagram style).linkEdges =
      model.links.filterMap fun (relationship, link) => model.linkEdge? relationship link := by
  have entities : ∀ entity, (entityStatements style entity).filterMap Statement.linkEdge? = [] :=
    fun entity => linkEdges_framed style _ _ _ _ _
  have relationships : ∀ relationship,
      (relationshipStatements model style relationship).filterMap Statement.linkEdge? =
        relationship.links.filterMap (model.linkEdge? relationship) := by
    intro relationship
    rw [relationshipStatements, List.filterMap_append, linkEdges_framed,
      linkEdges_linkStatements, List.nil_append]
  rw [Graph.linkEdges, filterMap_statements_diagram,
    List.flatMap_eq_nil_iff.2 fun entity _ => entities entity,
    List.flatMap_eq_nil_iff.2 fun entity _ => linkEdges_divisionStatements model style entity,
    List.nil_append, List.nil_append, links, List.filterMap_flatMap]
  simp only [relationships, List.filterMap_map, Function.comp_def]

/-! ## Edges and findings -/

/-- Whether an edge draws a link of a relationship in full: it joins the participant and the
relationship, and its label is the minimum and the maximum that the constraint of the link
declares. -/
structure DrawnInFull (model : Model) (relationship : Relationship) (link : Link)
    (edge : LinkEdge) : Prop where
  joined : ∃ participant, link.entity.bind model.entity? = some participant ∧
    edge.participant = dropReturns participant.name ∧
    edge.relationship = dropReturns relationship.name
  labelled : ∃ constraint minimum maximum, link.constraint = some constraint ∧
    constraint.check = .ok (minimum, maximum) ∧
    edge.label = some ("(" ++ toString minimum ++ "," ++ maximum.text ++ ")")

/-- A link has an edge exactly when its participant denotes an entity. -/
theorem isSome_linkEdge? (model : Model) (relationship : Relationship) (link : Link) :
    (model.linkEdge? relationship link).isSome = (link.entity.bind model.entity?).isSome :=
  Option.isSome_map

/-- The label of the edge is the text of the constraint. -/
theorem label_of_linkEdge? {model : Model} {relationship : Relationship} {link : Link}
    {edge : LinkEdge} (drawn : model.linkEdge? relationship link = some edge) :
    edge.label = link.constraint.map StructuralConstraint.text := by
  obtain ⟨participant, -, rfl⟩ := Option.map_eq_some_iff.1 drawn
  rfl

/-- The text of a minimum and a maximum is read back as it is. -/
theorem dropReturns_pair (minimum : Nat) (maximum : Cardinality) :
    dropReturns ("(" ++ toString minimum ++ "," ++ maximum.text ++ ")") =
      "(" ++ toString minimum ++ "," ++ maximum.text ++ ")" := by
  have least := DiagramNode.notMem_toString (c := '\r') (by decide) minimum
  have most : '\r' ∉ maximum.text.toList := by
    cases maximum with
    | bounded count => exact DiagramNode.notMem_toString (by decide) count
    | many => decide
  apply dropReturns_eq_self
  generalize toString minimum = first at least ⊢
  simp [String.toList_append, least, most]

/-- A link without problems has an edge, which draws it in full. -/
theorem exists_drawnInFull {model : Model} (relationship : Relationship) {link : Link}
    {participant : Entity} (resolved : link.entity.bind model.entity? = some participant)
    {constraint : StructuralConstraint} (given : link.constraint = some constraint)
    (valid : constraint.isValid = true) :
    ∃ edge, model.linkEdge? relationship link = some edge ∧
      model.DrawnInFull relationship link edge.legible := by
  obtain ⟨minimum, maximum, checked⟩ := StructuralConstraint.exists_check_of_isValid valid
  have label := StructuralConstraint.text_of_check checked
  refine ⟨⟨participant.name, relationship.name, some constraint.text⟩, ?_, ?_⟩
  · rw [linkEdge?, resolved, given]
    rfl
  · refine ⟨⟨participant, resolved, rfl, rfl⟩, constraint, minimum, maximum, given, checked, ?_⟩
    rw [← dropReturns_pair, ← label]
    rfl

/-- When each item is picked, the items correspond to what is picked from them. -/
theorem forall₂_filterMap {α β : Type} {pick : α → Option β} {related : α → β → Prop}
    {items : List α} (each : ∀ item ∈ items, ∃ value, pick item = some value ∧ related item value) :
    List.Forall₂ related items (items.filterMap pick) := by
  induction items with
  | nil => exact .nil
  | cons first rest ih =>
    simp only [List.mem_cons, forall_eq_or_imp] at each
    obtain ⟨⟨value, picked, holds⟩, later⟩ := each
    rw [List.filterMap_cons_some picked]
    exact .cons holds (ih later)

/-- In a model that passes the rule about links, every link is drawn in full. -/
theorem forall₂_drawnInFull {model : Model}
    (passed : Rule.relationshipDegreeFindings model = []) :
    List.Forall₂ (fun (relationship, link) edge =>
        model.DrawnInFull relationship link (LinkEdge.legible edge))
      model.links
      (model.links.filterMap fun (relationship, link) => model.linkEdge? relationship link) := by
  apply forall₂_filterMap
  rintro ⟨relationship, link⟩ mem
  obtain ⟨listed, mem⟩ := mem_links.1 mem
  have none := List.flatMap_eq_nil_iff.1 passed relationship listed
  obtain ⟨-, each⟩ := Rule.links_of_degreeFindings_eq_nil none
  obtain ⟨participant, constraint, resolved, given, valid⟩ := each link mem
  exact exists_drawnInFull relationship resolved given valid

/-- The edges of links in the text of a diagram are those of the links whose participant the rule
about links does not miss, in order, and an edge has a label exactly when its link has a constraint.
When the basic rules find nothing, every relationship has at least two links, and every link has its
edge, with a minimum and a maximum for its label. -/
theorem links_drawn_as_checked (model : Model) (style : Style) :
    ∃ graph report, Dot.read (model.dot style) = some graph ∧
      model.validate Mode.basic.rules = .ok report ∧
      Rule.relationshipDegree.run model =
        .ok (model.relationships.flatMap (Rule.degreeFindings model)) ∧
      (graph.linkEdges = (model.links.filterMap fun (relationship, link) =>
        model.linkEdge? relationship link).map LinkEdge.legible) ∧
      (∀ relationship ∈ model.relationships, ∀ position link,
        relationship.links[position]? = some link →
          ((model.linkEdge? relationship link).isSome ↔
            .missingParticipant relationship.name position ∉
              Rule.degreeFindings model relationship) ∧
          ∀ edge, model.linkEdge? relationship link = some edge →
            (edge.label.isSome ↔ link.constraint.isSome)) ∧
      (report.isSuccess = true →
        (∀ relationship ∈ model.relationships, 2 ≤ relationship.links.length) ∧
        List.Forall₂ (fun (relationship, link) edge => model.DrawnInFull relationship link edge)
          model.links graph.linkEdges) := by
  obtain ⟨graph, read, same⟩ := exists_read_text (Prescription.diagram_wellFormed model style)
  obtain ⟨report, ran, success⟩ := degreeFindings_of_success model
  have edges := linkEdges_of_statements_eq same
  rw [linkEdges_diagram] at edges
  refine ⟨graph, report, read, ran, rfl, edges, ?_, ?_⟩
  · intro relationship _ position link listed
    constructor
    · rw [Rule.missingParticipant_mem_iff listed, isSome_linkEdge?, Option.isSome_iff_ne_none]
    · intro edge drawn
      rw [label_of_linkEdge? drawn, Option.isSome_map]
  · intro succeeded
    have passed := success succeeded
    constructor
    · intro relationship listed
      have none := List.flatMap_eq_nil_iff.1 passed relationship listed
      exact (Rule.links_of_degreeFindings_eq_nil none).1
    · rw [edges, List.forall₂_map_right_iff]
      exact forall₂_drawnInFull passed

end Model

end ErSchema
