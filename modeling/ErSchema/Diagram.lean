import ErSchema.Dot.Graph
import ErSchema.Model.Basic
import ErSchema.Style

/-!
# Diagrams

The diagram of a model is a graph in three parts: every entity with its attributes, each in a
subgraph of its own; the specializations of every entity; and every relationship with its
attributes in a subgraph, followed by its links.  A caption and the overlap setting close the
graph.

Nothing is drawn for a handle that denotes no entity.  A specialization with several derived
entities has a circle of its own; one with a single derived entity is a line from the parent.
-/

set_option autoImplicit false

namespace ErSchema

open Dot

namespace Diagram

/-- A setting whose value is a text between quotes. -/
def quoted (name text : String) : Setting :=
  ⟨name, .quoted text⟩

/-- A setting whose value is a word. -/
def bare (name word : String) : Setting :=
  ⟨name, .bare word⟩

/-- The settings of a second border around a node. -/
def doubleBorder (isDouble : Bool) : List Setting :=
  if isDouble then [bare "peripheries" "2"] else []

/-- A node that carries its own identifier as its label. -/
def namedNode (shape fill name : String) (isDouble : Bool) : Statement :=
  .node name
    ([bare "shape" shape, quoted "fillcolor" fill, quoted "style" "filled,solid",
      quoted "label" name] ++ doubleBorder isDouble)

/-- The identifier of the node of an attribute. -/
def attributeId (owner name : String) : String :=
  owner ++ "_a" ++ name

/-- The identifier of the circle of a specialization, by its position in its parent's list. -/
def circleId (parent : String) (position : Nat) : String :=
  parent ++ "_s" ++ toString position

/-- The line style of an attribute: several values have a double border, a computed value a dashed
line and a key a bold one. -/
def lineStyle (kind : AttributeKind) (isKey : Bool) : List Setting :=
  match kind with
  | .multivalued => [bare "peripheries" "2", quoted "style" "filled,solid"]
  | .derived => [quoted "style" "filled,dashed"]
  | _ => [quoted "style" (if isKey then "filled,solid,bold" else "filled,solid")]

mutual

/-- The node of an attribute and its edge to the owner, and then the same for its components, which
are owned by the node of the attribute. -/
def attributeStatements (style : Style) (owner : String) : Attribute → List Statement
  | ⟨kind, name, isKey, components⟩ =>
    let id := attributeId owner name
    .node id
        ([bare "shape" "ellipse", quoted "fillcolor" style.attributeFill, quoted "label" name] ++
          lineStyle kind isKey) ::
      .edge owner id [bare "len" "0.5"] ::
      attributeListStatements style id components

/-- The nodes and edges of several attributes of one owner, in order. -/
def attributeListStatements (style : Style) (owner : String) : List Attribute → List Statement
  | [] => []
  | first :: rest =>
    attributeStatements style owner first ++ attributeListStatements style owner rest

end

/-- The subgraph of an entity: its box and its attributes. -/
def entityItem (style : Style) (entity : Entity) : Item :=
  .subgraph (namedNode "box" style.entityFill entity.name entity.isWeak ::
    attributeListStatements style entity.name entity.attributes)

/-- The letter in the circle of a specialization. -/
def circleLabel : SpecializationKind → String
  | .disjoint => "d"
  | .overlap => "o"
  | .unspecified => ""

/-- The circle of a specialization and its edge to the parent. -/
def circleStatements (style : Style) (parent circle : String) (specialization : Specialization) :
    List Statement :=
  [.node circle
      [bare "shape" "circle", quoted "fillcolor" style.specializationFill,
        quoted "style" "filled,solid", quoted "label" (circleLabel specialization.kind)],
    .edge parent circle
      ((if specialization.isTotal then [quoted "color" "black:black"] else []) ++
        (specialization.role.map (quoted "label")).toList ++ [bare "len" "1.50"])]

/-- The edges from `owner` to the derived entities of a specialization. -/
def subclassStatements (model : Model) (owner : String) (specialization : Specialization) :
    List Statement :=
  (specialization.derived.filterMap model.entity?).map fun child =>
    .edge owner child.name
      [bare "arrowhead" "tee", bare "dir" "forward", bare "len" "1.30"]

/-- The statements of the specialization at a position in the list of its parent. -/
def specializationStatements (model : Model) (style : Style) (parent : String)
    (specialization : Specialization) (position : Nat) : List Statement :=
  if specialization.derived.length > 1 then
    let circle := circleId parent position
    circleStatements style parent circle specialization ++
      subclassStatements model circle specialization
  else
    subclassStatements model parent specialization

/-- All specializations of an entity, followed by an empty line if there are any. -/
def specializationItems (model : Model) (style : Style) (entity : Entity) : List Item :=
  if entity.specializations.isEmpty then
    []
  else
    (entity.specializations.zipIdx.flatMap fun (specialization, position) =>
      specializationStatements model style entity.name specialization position).map .statement ++
      [.gap]

/-- The edge of a link whose participant is an entity of the model, labelled by its constraint. -/
def linkStatement? (model : Model) (relationship : String) (link : Link) : Option Statement :=
  (link.entity.bind model.entity?).map fun participant =>
    .edge participant.name relationship
      ((link.constraint.map fun constraint => quoted "label" constraint.text).toList ++
        [bare "len" "1.0"])

/-- A relationship: its diamond and attributes in a subgraph, its links, and an empty line. -/
def relationshipItems (model : Model) (style : Style) (relationship : Relationship) : List Item :=
  [.subgraph
      (namedNode "diamond" style.relationshipFill relationship.name relationship.isIdentifying ::
        attributeListStatements style relationship.name relationship.attributes)] ++
    (relationship.links.filterMap (linkStatement? model relationship.name)).map .statement ++
    [.gap]

/-- The caption: the name, the description and the authors, each on a line of its own, where an
empty description and an empty list of authors are left out. -/
def caption (model : Model) : String :=
  String.intercalate "\n"
    ([model.name] ++
      (if model.description.isEmpty then [] else [model.description]) ++
      (if model.authors.isEmpty then [] else ["by " ++ model.authorsPhrase]))

end Diagram

/-- The diagram of a model. -/
def Model.diagram (model : Model) (style : Style) : Graph where
  name := "ER"
  items :=
    model.entities.map (Diagram.entityItem style) ++
      model.entities.flatMap (Diagram.specializationItems model style) ++
      [.gap, .gap] ++
      model.relationships.flatMap (Diagram.relationshipItems model style) ++
      [.gap, .assignment (Diagram.quoted "label" (Diagram.caption model)),
        .assignment ⟨"overlap", .ofText style.overlap⟩]

/-- The diagram of a model as DOT text. -/
def Model.dot (model : Model) (style : Style) : String :=
  (model.diagram style).text

end ErSchema
