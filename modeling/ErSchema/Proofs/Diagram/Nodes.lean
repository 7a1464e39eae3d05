import ErSchema.Proofs.Diagram.Node
import ErSchema.Proofs.Dot.Statements
import ErSchema.Proofs.Prescription

/-!
# The nodes of a diagram

`Model.nodes` lists what is drawn as a node: every entity with all attributes and components below
it, every circle, and every relationship with its attributes.  The nodes that a diagram declares are
exactly these, each once and in this order (`nodeIds_diagram`).

The identifiers that attributes and circles get in a diagram are spelled out from names, and whom
they belong to can be read off them, whatever texts the names come from (`identifiers_injective`).
-/

set_option autoImplicit false

namespace ErSchema

open Dot

/-! ## What is drawn as a node -/

mutual

/-- The paths from the owner of an attribute to the attribute and to the components below it. -/
def Attribute.paths : Attribute → List (List String)
  | ⟨_, name, _, components⟩ => [name] :: (pathsAll components).map (name :: ·)

/-- The paths from an owner to all attributes and components below it. -/
def pathsAll : List Attribute → List (List String)
  | [] => []
  | first :: rest => first.paths ++ pathsAll rest

end

/-- An owner and all attributes and components below it. -/
def nodesBelow (owner : String) (attributes : List Attribute) : List DiagramNode :=
  .part owner [] :: (pathsAll attributes).map (.part owner)

/-- The circles of an entity: one for each specialization with several derived entities. -/
def Entity.circles (entity : Entity) : List DiagramNode :=
  entity.specializations.zipIdx.filterMap fun (specialization, position) =>
    if specialization.derived.length > 1 then some (.circle entity.name position) else none

/-- Everything in a model that is drawn as a node. -/
def Model.nodes (model : Model) : List DiagramNode :=
  (model.entities.flatMap fun entity => nodesBelow entity.name entity.attributes) ++
    model.entities.flatMap Entity.circles ++
    model.relationships.flatMap fun relationship =>
      nodesBelow relationship.name relationship.attributes

/-- The paths from an owner are those to its attributes, one after the other. -/
theorem pathsAll_eq_flatMap (attributes : List Attribute) :
    pathsAll attributes = attributes.flatMap Attribute.paths := by
  induction attributes with
  | nil => rfl
  | cons first rest ih => rw [pathsAll, ih, List.flatMap_cons]

namespace Diagram

/-! ## Attributes -/

mutual

/-- The nodes of an attribute are those of its paths. -/
theorem nodeIds_attribute (style : Style) (owner : String) : ∀ item : Attribute,
    nodeIdsOf (attributeStatements style owner item) =
      item.paths.map fun path => path.foldl attributeId owner
  | ⟨kind, name, isKey, components⟩ => by
    have below := nodeIds_attributes style (attributeId owner name) components
    rw [attributeStatements, Attribute.paths, List.map_cons, List.map_map]
    exact congrArg (attributeId owner name :: ·) below

/-- The nodes of attributes are those at the ends of their paths. -/
theorem nodeIds_attributes (style : Style) (owner : String) : ∀ attributes : List Attribute,
    nodeIdsOf (attributeListStatements style owner attributes) =
      (pathsAll attributes).map fun path => path.foldl attributeId owner
  | [] => rfl
  | first :: rest => by
    rw [attributeListStatements, pathsAll, nodeIdsOf_append, List.map_append,
      nodeIds_attribute style owner first, nodeIds_attributes style owner rest]

end

/-- A frame and the attributes below it are the nodes of an owner. -/
theorem nodeIds_framed (style : Style) (shape fill owner : String) (isDouble : Bool)
    (attributes : List Attribute) :
    nodeIdsOf (namedNode shape fill owner isDouble ::
        attributeListStatements style owner attributes) =
      (nodesBelow owner attributes).map DiagramNode.id := by
  have below := nodeIds_attributes style owner attributes
  rw [nodesBelow, List.map_cons, List.map_map]
  exact congrArg (owner :: ·) below

/-! ## Specializations and relationships -/

/-- The node from which the edges to the subclasses of a specialization start: its circle, if there
is one, or else its parent. -/
def origin (parent : String) (specialization : Specialization) (position : Nat) : String :=
  if specialization.derived.length > 1 then circleId parent position else parent

/-- The edges to subclasses declare no nodes. -/
theorem nodeIds_subclassStatements (model : Model) (owner : String)
    (specialization : Specialization) :
    nodeIdsOf (subclassStatements model owner specialization) = [] := by
  rw [nodeIdsOf, List.filterMap_eq_nil_iff]
  intro line mem
  obtain ⟨child, -, rfl⟩ := List.mem_map.1 mem
  rfl

/-- A specialization declares a node when it has several derived entities, and this node is its
circle. -/
theorem nodeIds_specializationStatements (model : Model) (style : Style) (parent : String)
    (specialization : Specialization) (position : Nat) :
    nodeIdsOf (specializationStatements model style parent specialization position) =
      if specialization.derived.length > 1 then [circleId parent position] else [] := by
  unfold specializationStatements
  split
  · rw [nodeIdsOf_append, nodeIds_subclassStatements, List.append_nil]
    rfl
  · exact nodeIds_subclassStatements _ _ _

/-- The statements of all specializations of an entity. -/
def divisionStatements (model : Model) (style : Style) (entity : Entity) : List Statement :=
  entity.specializations.zipIdx.flatMap fun (specialization, position) =>
    specializationStatements model style entity.name specialization position

/-- The specializations of an entity are drawn one after the other. -/
theorem statements_specializationItems (model : Model) (style : Style) (entity : Entity) :
    (specializationItems model style entity).flatMap Item.statements =
      divisionStatements model style entity := by
  unfold specializationItems divisionStatements
  split
  · next none => simp [List.isEmpty_iff.1 none]
  · rw [List.flatMap_append, flatMap_statements_map_statement]
    exact List.append_nil _

/-- The nodes of the specializations of an entity are its circles. -/
theorem nodeIds_divisionStatements (model : Model) (style : Style) (entity : Entity) :
    nodeIdsOf (divisionStatements model style entity) = entity.circles.map DiagramNode.id := by
  unfold divisionStatements Entity.circles
  rw [nodeIdsOf_flatMap, List.map_filterMap]
  induction entity.specializations.zipIdx with
  | nil => rfl
  | cons first rest ih =>
    obtain ⟨specialization, position⟩ := first
    rw [List.flatMap_cons, ih, nodeIds_specializationStatements]
    by_cases several : specialization.derived.length > 1 <;> simp [several, DiagramNode.id]

/-- The statements of an entity with its attributes. -/
def entityStatements (style : Style) (entity : Entity) : List Statement :=
  namedNode "box" style.entityFill entity.name entity.isWeak ::
    attributeListStatements style entity.name entity.attributes

/-- The edges of the links of a relationship. -/
def linkStatements (model : Model) (relationship : Relationship) : List Statement :=
  relationship.links.filterMap (linkStatement? model relationship.name)

/-- The statements of a relationship with its attributes and links. -/
def relationshipStatements (model : Model) (style : Style) (relationship : Relationship) :
    List Statement :=
  namedNode "diamond" style.relationshipFill relationship.name relationship.isIdentifying ::
      attributeListStatements style relationship.name relationship.attributes ++
    linkStatements model relationship

/-- A relationship is drawn with its attributes, and its links after it. -/
theorem statements_relationshipItems (model : Model) (style : Style)
    (relationship : Relationship) :
    (relationshipItems model style relationship).flatMap Item.statements =
      relationshipStatements model style relationship := by
  unfold relationshipItems relationshipStatements linkStatements
  rw [List.flatMap_append, List.flatMap_append, flatMap_statements_map_statement]
  simp [Item.statements]

/-- Links declare no nodes. -/
theorem nodeIds_linkStatements (model : Model) (relationship : Relationship) :
    nodeIdsOf (linkStatements model relationship) = [] := by
  rw [nodeIdsOf, List.filterMap_eq_nil_iff]
  intro line mem
  obtain ⟨link, -, drawn⟩ := List.mem_filterMap.1 mem
  obtain ⟨participant, -, rfl⟩ := Option.map_eq_some_iff.1 drawn
  rfl

end Diagram

open Diagram

/-- The statements of a diagram: entities, specializations and relationships. -/
theorem statements_diagram (model : Model) (style : Style) :
    (model.diagram style).statements =
      model.entities.flatMap (entityStatements style) ++
        model.entities.flatMap (divisionStatements model style) ++
        model.relationships.flatMap (relationshipStatements model style) := by
  have entities : model.entities.flatMap (fun entity => (entityItem style entity).statements) =
      model.entities.flatMap (entityStatements style) := rfl
  simp only [Graph.statements, Model.diagram, List.flatMap_append, List.flatMap_map,
    List.flatMap_assoc, entities, statements_specializationItems, statements_relationshipItems]
  simp [Item.statements]

/-- What is picked from the statements of a diagram is picked from one part after the other. -/
theorem filterMap_statements_diagram {α : Type} (pick : Statement → Option α) (model : Model)
    (style : Style) :
    (model.diagram style).statements.filterMap pick =
      (model.entities.flatMap fun entity => (entityStatements style entity).filterMap pick) ++
        (model.entities.flatMap fun entity =>
          (divisionStatements model style entity).filterMap pick) ++
        model.relationships.flatMap fun relationship =>
          (relationshipStatements model style relationship).filterMap pick := by
  rw [statements_diagram, List.filterMap_append, List.filterMap_append, List.filterMap_flatMap,
    List.filterMap_flatMap, List.filterMap_flatMap]

/-- The nodes that a diagram declares are those of the model, each once and in order. -/
theorem nodeIds_diagram (model : Model) (style : Style) :
    (model.diagram style).nodeIds = model.nodes.map DiagramNode.id := by
  have entities : ∀ entity, nodeIdsOf (entityStatements style entity) =
      (nodesBelow entity.name entity.attributes).map DiagramNode.id :=
    fun entity => nodeIds_framed style _ _ _ _ _
  have relationships : ∀ relationship,
      nodeIdsOf (relationshipStatements model style relationship) =
        (nodesBelow relationship.name relationship.attributes).map DiagramNode.id := by
    intro relationship
    rw [relationshipStatements, nodeIdsOf_append, nodeIds_framed, nodeIds_linkStatements,
      List.append_nil]
  simp only [Graph.nodeIds, statements_diagram, nodeIdsOf_append, nodeIdsOf_flatMap, Model.nodes,
    List.map_append, List.map_flatMap, entities, nodeIds_divisionStatements, relationships]

/-! ## Identifiers spelled out -/

namespace Diagram

/-- The identifier of the attribute that is reached from an owner by a path: the name of the owner
and then each name of the path after its mark. -/
def pathId (owner : String) (path : List String) : String :=
  owner ++ String.join (path.map ("_a" ++ ·))

/-- Going down a path puts each of its names behind a mark. -/
theorem foldl_attributeId (owner : String) (path : List String) :
    path.foldl attributeId owner = pathId owner path := by
  induction path generalizing owner with
  | nil => simp [pathId]
  | cons name rest ih =>
    rw [List.foldl_cons, ih]
    simp [pathId, attributeId, String.append_assoc]

/-- The attributes of owners have names that identifiers can be told from. -/
theorem named_part (owner : String) (texts : List String) :
    (DiagramNode.part (Name.ofEntity owner) (texts.map Name.ofAttribute)).Named := by
  refine ⟨⟨owner, rfl⟩, fun name mem => ?_⟩
  obtain ⟨text, -, rfl⟩ := List.mem_map.1 mem
  exact ⟨text, rfl⟩

/-- So have the circles of entities. -/
theorem named_circle (owner : String) (position : Nat) :
    (DiagramNode.circle (Name.ofEntity owner) position).Named :=
  ⟨⟨owner, rfl⟩, fun _ mem => absurd mem List.not_mem_nil⟩

/-- What can be read off the identifiers of attributes and of circles, and that neither is taken for
the other or for the name of an entity or a relationship.  The names come from any texts, so they
may be empty and may begin, end or go on with underscores. -/
theorem identifiers_injective (owner owner' first first' : String) (rest rest' : List String)
    (position position' : Nat) :
    let name := Name.ofEntity owner
    let name' := Name.ofEntity owner'
    let path := (first :: rest).map Name.ofAttribute
    let path' := (first' :: rest').map Name.ofAttribute
    (∀ style attributes, nodeIdsOf (attributeListStatements style name attributes) =
      (pathsAll attributes).map (pathId name)) ∧
    (∀ model style specialization,
      nodeIdsOf (specializationStatements model style name specialization position) =
        if specialization.derived.length > 1 then [circleId name position] else []) ∧
    (pathId name path = pathId name' path' ↔ name = name' ∧ path = path') ∧
    (circleId name position = circleId name' position' ↔ name = name' ∧ position = position') ∧
    name ≠ pathId name' path' ∧ name ≠ circleId name' position' ∧
    pathId name path ≠ circleId name' position' := by
  intro name name' path path'
  have below : ∀ owner path, (DiagramNode.part owner path).id = pathId owner path :=
    foldl_attributeId
  refine ⟨?_, ?_, ⟨?_, ?_⟩, ⟨?_, ?_⟩, ?_, ?_, ?_⟩
  · intro style attributes
    rw [nodeIds_attributes]
    exact List.map_congr_left fun path _ => foldl_attributeId name path
  · intro model style specialization
    exact nodeIds_specializationStatements model style name specialization position
  · intro same
    rw [← below, ← below] at same
    have node := DiagramNode.id_injective (named_part owner _) (named_part owner' _) same
    exact DiagramNode.part.inj node
  · rintro ⟨owners, paths⟩
    rw [owners, paths]
  · intro same
    have node := DiagramNode.id_injective (named_circle owner position)
      (named_circle owner' position') same
    exact DiagramNode.circle.inj node
  · rintro ⟨owners, positions⟩
    rw [owners, positions]
  · intro same
    rw [← below] at same
    have node := DiagramNode.id_injective (named_part owner []) (named_part owner' _) same
    cases (DiagramNode.part.inj node).2
  · intro same
    cases DiagramNode.id_injective (named_part owner []) (named_circle owner' position') same
  · intro same
    rw [← below] at same
    cases DiagramNode.id_injective (named_part owner _) (named_circle owner' position') same

end Diagram

end ErSchema
