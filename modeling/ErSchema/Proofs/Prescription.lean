import ErSchema.Diagram
import ErSchema.Proofs.Dot.RoundTrip

/-!
# What a model prescribes

`Model.prescription` says which statements the diagram of a model consists of, without regard to how
they are written: attribute trees are listed flat, depth first, and what a node or an edge looks
like depends on the kind and the flags of one thing at a time.

The diagram consists of these statements and of empty lines, and all its names and bare values are
bare words.  So the text of a diagram is read back as the prescription (`read_dot`), whatever the
texts in model and style are; only their carriage returns are gone.
-/

set_option autoImplicit false

namespace ErSchema

open Dot

namespace Prescription

/-- A setting whose value is a text. -/
def quoted (name text : String) : Setting := ⟨name, .quoted text⟩

/-- A setting whose value is a word. -/
def bare (name word : String) : Setting := ⟨name, .bare word⟩

/-- A node in which its own name is written, with a second border when it is doubled. -/
def frame (shape fill name : String) (doubled : Bool) : Statement :=
  .node name
    (bare "shape" shape :: quoted "fillcolor" fill :: quoted "style" "filled,solid" ::
      quoted "label" name :: if doubled then [bare "peripheries" "2"] else [])

mutual

/-- An attribute and all components below it, depth first, each with the node that owns it. -/
def placed (owner : String) : Attribute → List (String × Attribute)
  | ⟨kind, name, isKey, components⟩ =>
    (owner, ⟨kind, name, isKey, components⟩) :: placedAll (owner ++ "_a" ++ name) components

/-- Several attributes of one owner with all components below them. -/
def placedAll (owner : String) : List Attribute → List (String × Attribute)
  | [] => []
  | first :: rest => placed owner first ++ placedAll owner rest

end

/-- The line of an attribute: dashed when it is derived, bold when it is a key that is neither
derived nor multivalued, and solid otherwise. -/
def line (item : Attribute) : String :=
  if item.kind = .derived then "filled,dashed"
  else if item.isKey ∧ item.kind ≠ .multivalued then "filled,solid,bold"
  else "filled,solid"

/-- An attribute below its owner: an ellipse, with a second border when it is multivalued, and an
edge from the owner. -/
def ellipse (style : Style) (owner : String) (item : Attribute) : List Statement :=
  let node := owner ++ "_a" ++ item.name
  [.node node
      ([bare "shape" "ellipse", quoted "fillcolor" style.attributeFill,
        quoted "label" item.name] ++
        (if item.kind = .multivalued then [bare "peripheries" "2"] else []) ++
        [quoted "style" (line item)]),
    .edge owner node [bare "len" "0.5"]]

/-- All attributes and components below an owner. -/
def ellipses (style : Style) (owner : String) (items : List Attribute) : List Statement :=
  (placedAll owner items).flatMap fun place => ellipse style place.1 place.2

/-- An entity: its box, which is doubled when it is weak, and its attributes. -/
def box (style : Style) (entity : Entity) : Item :=
  .subgraph (frame "box" style.entityFill entity.name (entity.kind = .weak) ::
    ellipses style entity.name entity.attributes)

/-- The letter of a kind of specialization. -/
def letter (kind : SpecializationKind) : String :=
  if kind = .disjoint then "d" else if kind = .overlap then "o" else ""

/-- The circle of a specialization and the edge from its parent, which is doubled when the
specialization is total and labelled when it has a role. -/
def circle (style : Style) (parent node : String) (specialization : Specialization) :
    List Statement :=
  [.node node
      [bare "shape" "circle", quoted "fillcolor" style.specializationFill,
        quoted "style" "filled,solid", quoted "label" (letter specialization.kind)],
    .edge parent node
      ((if specialization.isTotal then [quoted "color" "black:black"] else []) ++
        (match specialization.role with
          | some role => [quoted "label" role]
          | none => []) ++
        [bare "len" "1.50"])]

/-- The edge from the parent or the circle of a specialization to a derived entity. -/
def subclass (owner : String) (derived : Entity) : Statement :=
  .edge owner derived.name [bare "arrowhead" "tee", bare "dir" "forward", bare "len" "1.30"]

/-- The specialization of an entity at a position: a circle exactly when there is more than one
derived handle, and an edge for each derived handle that denotes an entity. -/
def division (model : Model) (style : Style) (parent : Entity) (position : Nat)
    (specialization : Specialization) : List Statement :=
  let node := parent.name ++ "_s" ++ toString position
  let children := specialization.derived.filterMap model.entity?
  if 1 < specialization.derived.length then
    circle style parent.name node specialization ++ children.map (subclass node)
  else
    children.map (subclass parent.name)

/-- All specializations of an entity. -/
def divisions (model : Model) (style : Style) (parent : Entity) : List Statement :=
  parent.specializations.zipIdx.flatMap fun (specialization, position) =>
    division model style parent position specialization

/-- A link whose participant denotes an entity: an edge from it to the relationship, labelled when
the link has a constraint. -/
def linkEdge? (model : Model) (relationship : Relationship) (link : Link) : Option Statement := do
  let participant ← model.entity? (← link.entity)
  let label :=
    match link.constraint with
    | some constraint => [quoted "label" constraint.text]
    | none => []
  some (.edge participant.name relationship.name (label ++ [bare "len" "1.0"]))

/-- A relationship: its diamond, which is doubled when it is identifying, with its attributes, and
after them its links. -/
def diamond (model : Model) (style : Style) (relationship : Relationship) : List Item :=
  .subgraph
      (frame "diamond" style.relationshipFill relationship.name
          (relationship.kind = .identifying) ::
        ellipses style relationship.name relationship.attributes) ::
    (relationship.links.filterMap (linkEdge? model relationship)).map .statement

/-- The caption: name, description and authors on a line each, as far as there are any. -/
def caption (model : Model) : String :=
  model.name ++ (if model.description = "" then "" else "\n" ++ model.description) ++
    if model.authors = [] then "" else "\n" ++ ("by " ++ model.authorsPhrase)

/-- The value of the overlap setting: bare when it is a word of ASCII letters, digits and
underscores. -/
def overlap (text : String) : Value :=
  if text ≠ "" ∧ text.toList.all (fun c => c.isAlphanum || c == '_') then .bare text
  else .quoted text

end Prescription

open Prescription in
/-- The graph that a model prescribes. -/
def Model.prescription (model : Model) (style : Style) : Graph where
  name := "ER"
  items :=
    model.entities.map (box style) ++
      (model.entities.flatMap (divisions model style)).map .statement ++
      model.relationships.flatMap (diamond model style) ++
      [.assignment (quoted "label" (caption model)), .assignment ⟨"overlap", overlap style.overlap⟩]

namespace Prescription

/-! ## The diagram is what is prescribed -/

/-- The emitter draws the line of an attribute as it is prescribed. -/
theorem lineStyle_eq (item : Attribute) :
    Diagram.lineStyle item.kind item.isKey =
      (if item.kind = .multivalued then [bare "peripheries" "2"] else []) ++
        [quoted "style" (line item)] := by
  obtain ⟨kind, name, isKey, components⟩ := item
  cases kind <;> cases isKey <;> rfl

mutual

/-- The statements of an attribute are those of its places, in order. -/
theorem attributeStatements_eq (style : Style) (owner : String) :
    ∀ item : Attribute, Diagram.attributeStatements style owner item =
      (placed owner item).flatMap fun place => ellipse style place.1 place.2
  | ⟨kind, name, isKey, components⟩ => by
    have below := attributeListStatements_eq style (owner ++ "_a" ++ name) components
    have look := lineStyle_eq ⟨kind, name, isKey, components⟩
    simp only [Diagram.attributeStatements, placed, List.flatMap_cons, ellipse,
      Diagram.attributeId, below, look, ellipses, List.append_assoc]
    rfl

/-- The statements of several attributes are those of their places, in order. -/
theorem attributeListStatements_eq (style : Style) (owner : String) :
    ∀ items : List Attribute, Diagram.attributeListStatements style owner items =
      ellipses style owner items
  | [] => rfl
  | first :: rest => by
    have head := attributeStatements_eq style owner first
    have tail := attributeListStatements_eq style owner rest
    simp only [Diagram.attributeListStatements, head, tail, ellipses, placedAll,
      List.flatMap_append]

end

/-- The emitter writes the node of a name as it is prescribed. -/
theorem namedNode_eq (shape fill name : String) (doubled : Bool) :
    Diagram.namedNode shape fill name doubled = frame shape fill name doubled := by
  cases doubled <;> rfl

/-- The emitter writes an entity with its attributes as it is prescribed. -/
theorem entityItem_eq (style : Style) (entity : Entity) :
    Diagram.entityItem style entity = box style entity := by
  rw [Diagram.entityItem, namedNode_eq, attributeListStatements_eq]
  rfl

/-- The emitter writes the circle of a specialization and its edge as they are prescribed. -/
theorem circleStatements_eq (style : Style) (parent node : String)
    (specialization : Specialization) :
    Diagram.circleStatements style parent node specialization =
      circle style parent node specialization := by
  obtain ⟨kind, handle, role, isTotal, derived⟩ := specialization
  cases kind <;> cases role <;> rfl

/-- The emitter writes a specialization as it is prescribed. -/
theorem specializationStatements_eq (model : Model) (style : Style) (parent : Entity)
    (specialization : Specialization) (position : Nat) :
    Diagram.specializationStatements model style parent.name specialization position =
      division model style parent position specialization := by
  simp only [Diagram.specializationStatements, circleStatements_eq]
  rfl

/-- The emitter writes the edge of a link as it is prescribed, and only for a participant that there
is. -/
theorem linkStatement?_eq (model : Model) (relationship : Relationship) (link : Link) :
    Diagram.linkStatement? model relationship.name link = linkEdge? model relationship link := by
  obtain ⟨entity, constraint, role⟩ := link
  cases entity with
  | none => rfl
  | some id =>
    simp only [Diagram.linkStatement?, linkEdge?, Option.bind_some, Option.bind_eq_bind]
    cases model.entity? id <;> cases constraint <;> rfl

/-- The emitter puts the caption together as it is prescribed. -/
theorem caption_eq (model : Model) : Diagram.caption model = caption model := by
  unfold Diagram.caption caption
  by_cases description : model.description = "" <;> by_cases authors : model.authors = [] <;>
    simp [description, authors, String.append_assoc]

/-- The emitter writes the overlap setting as it is prescribed. -/
theorem ofText_eq (text : String) : Value.ofText text = overlap text := by
  have word : isWord text = true ↔
      text ≠ "" ∧ text.toList.all (fun c => c.isAlphanum || c == '_') := by
    simp [isWord, isWordChar]
  unfold Value.ofText overlap
  by_cases isWord : Dot.isWord text = true
  · rw [if_pos isWord, if_pos (word.1 isWord)]
  · rw [if_neg isWord, if_neg (mt word.2 isWord)]

/-- Statements are no empty lines. -/
theorem filter_map_statement (statements : List Statement) :
    (statements.map Item.statement).filter (· ≠ .gap) = statements.map .statement :=
  List.filter_eq_self.2 fun item mem => by
    obtain ⟨statement, -, rfl⟩ := List.mem_map.1 mem
    rfl

/-- But for gaps, the emitter writes the specializations of an entity as they are prescribed. -/
theorem filter_specializationItems (model : Model) (style : Style) (entity : Entity) :
    (Diagram.specializationItems model style entity).filter (· ≠ .gap) =
      (divisions model style entity).map .statement := by
  unfold Diagram.specializationItems divisions
  simp only [specializationStatements_eq]
  split
  case isTrue none =>
    rw [List.isEmpty_iff.1 none]
    rfl
  case isFalse =>
    rw [List.filter_append, filter_map_statement]
    exact List.append_nil _

/-- But for gaps, the emitter writes a relationship with its links as it is prescribed. -/
theorem filter_relationshipItems (model : Model) (style : Style) (relationship : Relationship) :
    (Diagram.relationshipItems model style relationship).filter (· ≠ .gap) =
      diamond model style relationship := by
  unfold Diagram.relationshipItems diamond
  simp only [namedNode_eq, attributeListStatements_eq,
    funext (linkStatement?_eq model relationship)]
  rw [List.filter_append, List.filter_append, filter_map_statement]
  exact List.append_nil _

/-- Apart from empty lines the diagram of a model consists of what the model prescribes. -/
theorem diagram_withoutGaps (model : Model) (style : Style) :
    (model.diagram style).withoutGaps = model.prescription style := by
  have boxes : (model.entities.map (box style)).filter (· ≠ .gap) =
      model.entities.map (box style) :=
    List.filter_eq_self.2 fun item mem => by
      obtain ⟨entity, -, rfl⟩ := List.mem_map.1 mem
      rfl
  simp only [Graph.withoutGaps, Model.diagram, Model.prescription, List.filter_append,
    List.filter_flatMap, filter_specializationItems, filter_relationshipItems,
    funext (entityItem_eq style), boxes, List.map_flatMap, caption_eq, ofText_eq]
  rw [show [Item.gap, Item.gap].filter (· ≠ .gap) = [] from rfl, List.append_nil]
  rfl

/-! ## What is prescribed can be read -/

/-- A setting with a quoted value is well formed when its name is a word. -/
theorem quoted_wellFormed {name text : String} :
    (quoted name text).WellFormed ↔ isBare name = true := by
  simp [quoted, Setting.WellFormed, Value.WellFormed]

/-- A setting with a bare value is well formed when its name and its value are words. -/
theorem bare_wellFormed {name word : String} :
    (bare name word).WellFormed ↔ isBare name = true ∧ isBare word = true :=
  Iff.rfl

/-- The node of a name is well formed, whatever the name is, because names are quoted. -/
theorem frame_wellFormed {shape : String} (word : isBare shape = true) (fill name : String)
    (doubled : Bool) : (frame shape fill name doubled).WellFormed := by
  cases doubled <;>
    simp +decide [frame, Statement.WellFormed, quoted_wellFormed, bare_wellFormed, word]

/-- The node and the edge of an attribute are well formed. -/
theorem ellipse_wellFormed (style : Style) (owner : String) (item : Attribute) :
    ∀ statement ∈ ellipse style owner item, statement.WellFormed := by
  have border : ∀ setting ∈ if item.kind = .multivalued then [bare "peripheries" "2"] else [],
      setting.WellFormed := by
    split <;> simp +decide [bare_wellFormed]
  intro statement mem
  simp only [ellipse, List.mem_cons, List.not_mem_nil, or_false] at mem
  rcases mem with rfl | rfl
  · simp +decide only [Statement.WellFormed, List.forall_mem_append, List.forall_mem_cons,
      quoted_wellFormed, bare_wellFormed]
    simpa using border
  · simp +decide [Statement.WellFormed, bare_wellFormed]

/-- The circle of a specialization and the edge to it are well formed. -/
theorem circle_wellFormed (style : Style) (parent node : String)
    (specialization : Specialization) :
    ∀ statement ∈ circle style parent node specialization, statement.WellFormed := by
  obtain ⟨kind, handle, role, isTotal, derived⟩ := specialization
  intro statement mem
  simp only [circle, List.mem_cons, List.not_mem_nil, or_false] at mem
  rcases mem with rfl | rfl
  · simp +decide [Statement.WellFormed, quoted_wellFormed, bare_wellFormed]
  · cases isTotal <;> cases role <;>
      simp +decide [Statement.WellFormed, quoted_wellFormed, bare_wellFormed]

/-- All statements of a specialization are well formed. -/
theorem division_wellFormed (model : Model) (style : Style) (parent : Entity) (position : Nat)
    (specialization : Specialization) :
    ∀ statement ∈ division model style parent position specialization, statement.WellFormed := by
  have children : ∀ (owner : String) (derived : List Entity),
      ∀ statement ∈ derived.map (subclass owner), statement.WellFormed := by
    intro owner derived statement mem
    obtain ⟨child, -, rfl⟩ := List.mem_map.1 mem
    simp +decide [subclass, Statement.WellFormed, bare_wellFormed]
  unfold division
  intro statement mem
  dsimp only at mem
  split at mem
  · rcases List.mem_append.1 mem with mem | mem
    · exact circle_wellFormed _ _ _ _ statement mem
    · exact children _ _ statement mem
  · exact children _ _ statement mem

/-- The edge of a link is well formed. -/
theorem linkEdge?_wellFormed {model : Model} {relationship : Relationship} {link : Link}
    {statement : Statement} (found : linkEdge? model relationship link = some statement) :
    statement.WellFormed := by
  obtain ⟨entity, constraint, role⟩ := link
  simp only [linkEdge?, Option.bind_eq_bind, Option.bind_eq_some_iff] at found
  obtain ⟨id, -, participant, -, edge⟩ := found
  rw [← Option.some.inj edge]
  cases constraint <;> simp +decide [Statement.WellFormed, quoted_wellFormed, bare_wellFormed]

/-- The overlap setting is well formed, because a text that is no word is quoted. -/
theorem overlap_wellFormed (text : String) : (overlap text).WellFormed := by
  unfold overlap
  split
  case isTrue word =>
    have chars : ∀ c ∈ text.toList, isBareChar c = true := fun c mem => by
      have letter := List.all_eq_true.1 word.2 c mem
      simp only [Bool.or_eq_true, beq_iff_eq] at letter
      simpa [isBareChar] using .inl letter
    have nonempty : text.toList ≠ [] := by simpa using word.1
    simpa [Value.WellFormed, isBare, nonempty] using chars
  case isFalse => trivial

/-- A frame with the attributes below it. -/
theorem subgraph_wellFormed {shape : String} (word : isBare shape = true) (style : Style)
    (fill name : String) (doubled : Bool) (items : List Attribute) :
    (Item.subgraph (frame shape fill name doubled :: ellipses style name items)).WellFormed := by
  intro statement mem
  rcases List.mem_cons.1 mem with rfl | mem
  · exact frame_wellFormed word fill name doubled
  · obtain ⟨place, -, mem⟩ := List.mem_flatMap.1 mem
    exact ellipse_wellFormed style place.1 place.2 statement mem

/-- All names and bare values of what is prescribed are bare words. -/
theorem wellFormed (model : Model) (style : Style) : (model.prescription style).WellFormed := by
  have name : isBare "ER" = true := by decide
  have setting : isBare "overlap" = true := by decide
  refine ⟨name, fun item mem => ?_⟩
  simp only [Model.prescription, List.mem_append, List.mem_map, List.mem_flatMap, List.mem_cons,
    List.not_mem_nil, or_false] at mem
  rcases mem with ((⟨entity, -, rfl⟩ | ⟨statement, ⟨parent, -, mem⟩, rfl⟩) |
    ⟨relationship, -, mem⟩) | rfl | rfl
  · exact subgraph_wellFormed (by decide) style _ _ _ _
  · obtain ⟨⟨specialization, position⟩, -, mem⟩ := List.mem_flatMap.1 mem
    exact division_wellFormed model style parent position specialization statement mem
  · rcases List.mem_cons.1 mem with rfl | mem
    · exact subgraph_wellFormed (by decide) style _ _ _ _
    · obtain ⟨statement, edge, rfl⟩ := List.mem_map.1 mem
      obtain ⟨link, -, found⟩ := List.mem_filterMap.1 edge
      exact linkEdge?_wellFormed found
  · exact quoted_wellFormed.2 (by decide)
  · exact ⟨setting, overlap_wellFormed style.overlap⟩

/-- The diagram of a model is well formed, in whatever style. -/
theorem diagram_wellFormed (model : Model) (style : Style) : (model.diagram style).WellFormed :=
  wellFormed_of_withoutGaps (diagram_withoutGaps model style ▸ wellFormed model style)

/-- Without gaps, and as far as it can be read back, the diagram of a model is what is prescribed.
-/
theorem legible_diagram (model : Model) (style : Style) :
    (model.diagram style).legible.withoutGaps = (model.prescription style).legible := by
  rw [← legible_withoutGaps, diagram_withoutGaps]

end Prescription

/-- The text of a diagram is read back as exactly what the model prescribes, for every model and
every style.  Texts are read as they are but for their carriage returns. -/
theorem Model.read_dot (model : Model) (style : Style) :
    Dot.read (model.dot style) = some (model.prescription style).legible := by
  rw [Model.dot, read_text (Prescription.diagram_wellFormed model style),
    Prescription.legible_diagram]

/-- A carriage return in a text is not read back. -/
theorem Model.read_dot_carriageReturn :
    Dot.read ((Model.empty "a\rb" "" []).dot {}) ≠
      some ((Model.empty "a\rb" "" []).prescription {}) := by
  rw [Model.dot, read_text (Prescription.diagram_wellFormed _ _), Prescription.legible_diagram]
  decide

end ErSchema
