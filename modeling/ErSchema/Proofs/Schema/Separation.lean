import ErSchema.Proofs.Diagram.Separation
import ErSchema.Proofs.Schema.Acceptance

/-!
# Which nodes the diagram of a document merges

In the diagram of an accepted document every entity, every relationship and every circle has a node
of its own, and so has every attribute that is reached by its own path of names.  The names of
attributes are not checked for repetition, though: two attributes of one owner whose names have the
same attribute form are drawn as one node.  `nodeIds_nodup_iff` says that this is the only way in
which nodes merge.
-/

set_option autoImplicit false

namespace ErSchema.Schema

open Name

/-! ## Attributes with the same name -/

mutual

/-- Whether the components of an attribute are told apart by their names, at every depth. -/
def AttributeDeclaration.ComponentsApart : AttributeDeclaration → Prop
  | ⟨_, _, _, components⟩ => SiblingsApart components

/-- Whether no two attributes of one owner have the same name in attribute form, neither here nor
among the components at any depth. -/
def SiblingsApart : List AttributeDeclaration → Prop
  | [] => True
  | first :: rest =>
    (∀ other ∈ rest, ofAttribute other.name ≠ ofAttribute first.name) ∧
      first.ComponentsApart ∧ SiblingsApart rest

end

/-- A declared attribute has the attribute form of its name. -/
theorem name_toAttribute (declaration : AttributeDeclaration) :
    declaration.toAttribute.name = ofAttribute declaration.name := by
  cases declaration
  rw [AttributeDeclaration.toAttribute, Attribute.name_addComponents, Attribute.ofName]

/-- A declared attribute has the components that were declared. -/
theorem components_toAttribute (declaration : AttributeDeclaration) :
    declaration.toAttribute.components = toAttributes declaration.components := by
  cases declaration
  rw [AttributeDeclaration.toAttribute, Attribute.components_addComponents, Attribute.ofName,
    List.nil_append]

mutual

/-- The paths to the components of a declared attribute are different exactly when the components
are told apart. -/
theorem nodup_components_iff : ∀ declaration : AttributeDeclaration,
    (pathsAll (toAttributes declaration.components)).Nodup ↔ declaration.ComponentsApart
  | ⟨_, _, _, components⟩ => by
    rw [AttributeDeclaration.ComponentsApart]
    exact nodup_paths_iff_siblingsApart components

/-- The paths to declared attributes are told apart exactly when siblings are told apart. -/
theorem nodup_paths_iff_siblingsApart : ∀ declarations : List AttributeDeclaration,
    (pathsAll (toAttributes declarations)).Nodup ↔ SiblingsApart declarations
  | [] => by simp [toAttributes, pathsAll, SiblingsApart]
  | first :: rest => by
    have head := nodup_components_iff first
    have tail := nodup_paths_iff_siblingsApart rest
    rw [nodup_pathsAll_iff] at tail
    have other : (∀ item ∈ toAttributes rest, item.name ≠ ofAttribute first.name) ↔
        ∀ other ∈ rest, ofAttribute other.name ≠ ofAttribute first.name := by
      simp [toAttributes_eq_map, name_toAttribute]
    rw [nodup_pathsAll_iff, toAttributes, SiblingsApart, ← head, ← tail, ← other]
    simp only [List.map_cons, List.nodup_cons, List.forall_mem_cons, name_toAttribute,
      components_toAttribute, List.mem_map, not_exists, not_and]
    constructor
    · rintro ⟨⟨apart, names⟩, first, others⟩
      exact ⟨apart, first, names, others⟩
    · rintro ⟨apart, first, names, others⟩
      exact ⟨⟨apart, names⟩, first, others⟩

end

mutual

/-- The paths to a declared attribute and its components consist of attribute names. -/
theorem named_of_mem_paths : ∀ (declaration : AttributeDeclaration) {path : List String},
    path ∈ declaration.toAttribute.paths → ∀ name ∈ path, ∃ text, name = ofAttribute text
  | ⟨text, kind, isKey, components⟩, path, mem => by
    rw [Attribute.paths_eq, name_toAttribute, components_toAttribute, List.mem_cons,
      List.mem_map] at mem
    intro name listed
    rcases mem with rfl | ⟨rest, mem, rfl⟩
    · exact ⟨text, List.mem_singleton.1 listed⟩
    · rcases List.mem_cons.1 listed with rfl | listed
      · exact ⟨text, rfl⟩
      · exact named_of_mem_pathsAll components mem name listed

/-- The paths to declared attributes consist of attribute names. -/
theorem named_of_mem_pathsAll : ∀ (declarations : List AttributeDeclaration) {path : List String},
    path ∈ pathsAll (toAttributes declarations) → ∀ name ∈ path, ∃ text, name = ofAttribute text
  | [], path, mem => by
    rw [toAttributes] at mem
    cases mem
  | first :: rest, path, mem => by
    rw [toAttributes, pathsAll, List.mem_append] at mem
    rcases mem with mem | mem
    · exact named_of_mem_paths first mem
    · exact named_of_mem_pathsAll rest mem

end

/-- The nodes below a declared owner have names that identifiers can be told from. -/
theorem named_of_mem_nodesBelow {reference : WrittenName}
    {declarations : List AttributeDeclaration} {node : DiagramNode}
    (mem : node ∈ nodesBelow (formal reference) (toAttributes declarations)) : node.Named := by
  obtain ⟨path, rfl, none | listed⟩ := exists_of_mem_nodesBelow mem
  · subst none
    exact ⟨⟨reference.value, rfl⟩, fun _ mem => absurd mem List.not_mem_nil⟩
  · exact ⟨⟨reference.value, rfl⟩, named_of_mem_pathsAll declarations listed⟩

/-! ## The model of an accepted document -/

/-- An accepted document is acceptable, and its model has the parts that it describes. -/
theorem hasParts_of_elaborate {document : Document} {model : Model} {warnings : List Diagnostic}
    (accepted : document.elaborate = .ok (model, warnings)) :
    HasParts document model ∧ document.Acceptable := by
  obtain ⟨fits, acceptable, rfl⟩ := elaborated_of_elaborate accepted
  exact ⟨fits.toHasParts, acceptable⟩

section Parts

variable {document : Document} {model : Model} (parts : HasParts document model)

include parts

/-- The entities of the model have the declared names, in order. -/
theorem HasParts.map_name_entities :
    model.entities.map Entity.name = document.entityNames := by
  rw [parts.entities, List.map_map, Document.entityNames]
  exact List.map_congr_left fun declaration _ => declaration.name_toEntity

/-- The relationships of the model have the declared names, in order. -/
theorem HasParts.map_name_relationships :
    model.relationships.map Relationship.name = document.relationshipNames := by
  rw [parts.relationships, List.map_map, Document.relationshipNames]
  rfl

/-- The nodes of the model are named after the declarations. -/
theorem HasParts.named_of_mem_nodes {node : DiagramNode} (mem : node ∈ model.nodes) :
    node.Named := by
  simp only [Model.nodes, parts.entities, parts.relationships, List.mem_append, List.mem_flatMap,
    List.mem_map] at mem
  rcases mem with (⟨_, ⟨declaration, -, rfl⟩, mem⟩ | ⟨_, ⟨declaration, -, rfl⟩, mem⟩) |
    ⟨_, ⟨declaration, -, rfl⟩, mem⟩
  · have name : (document.describedEntity declaration).name = formal declaration.name :=
      declaration.name_toEntity
    have attributes : (document.describedEntity declaration).attributes =
        toAttributes declaration.attributes := declaration.attributes_toEntity
    rw [name, attributes] at mem
    exact named_of_mem_nodesBelow mem
  · obtain ⟨position, rfl⟩ := exists_of_mem_circles mem
    exact ⟨⟨declaration.name.value, declaration.name_toEntity⟩,
      fun _ mem => absurd mem List.not_mem_nil⟩
  · exact named_of_mem_nodesBelow mem

/-- The nodes of the model are told apart exactly when sibling attributes are. -/
theorem HasParts.nodup_nodes_iff (acceptable : document.Acceptable) :
    model.nodes.Nodup ↔
      (∀ declaration ∈ document.entities, SiblingsApart declaration.attributes) ∧
      ∀ declaration ∈ document.relationships, SiblingsApart declaration.attributes := by
  have distinct := acceptable.distinct
  rw [← parts.map_name_entities, ← parts.map_name_relationships] at distinct
  rw [ErSchema.nodup_nodes_iff distinct, parts.entities, parts.relationships, List.forall_mem_map,
    List.forall_mem_map]
  have attributes : ∀ declaration, (document.describedEntity declaration).attributes =
      toAttributes declaration.attributes := fun declaration => declaration.attributes_toEntity
  simp only [attributes, RelationshipDeclaration.described, RelationshipDeclaration.withLinks,
    Relationship.ofName, nodup_paths_iff_siblingsApart]

end Parts

/-- The diagram of an accepted document declares the nodes of its model, each once and in order, and
nodes with the same identifier are the same.  So no identifier is declared twice exactly when no two
attributes of one owner, at any depth, have the same name in attribute form. -/
theorem nodeIds_nodup_iff {document : Document} {model : Model} {warnings : List Diagnostic}
    (accepted : document.elaborate = .ok (model, warnings)) (style : Style) :
    ∃ graph, Dot.read (model.dot style) = some graph ∧
      graph.nodeIds = model.nodes.map DiagramNode.id ∧
      (∀ node ∈ model.nodes, ∀ other ∈ model.nodes, node.id = other.id → node = other) ∧
      (graph.nodeIds.Nodup ↔
        (∀ declaration ∈ document.entities, SiblingsApart declaration.attributes) ∧
        ∀ declaration ∈ document.relationships, SiblingsApart declaration.attributes) := by
  obtain ⟨parts, acceptable⟩ := hasParts_of_elaborate accepted
  obtain ⟨graph, read, same⟩ := Dot.exists_read_text (Prescription.diagram_wellFormed model style)
  have ids : graph.nodeIds = model.nodes.map DiagramNode.id := by
    rw [Dot.nodeIds_of_statements_eq same, nodeIds_diagram, List.map_map]
    apply List.map_congr_left
    intro node mem
    exact Dot.dropReturns_eq_self (DiagramNode.return_notMem_id (parts.named_of_mem_nodes mem))
  have injective : ∀ node ∈ model.nodes, ∀ other ∈ model.nodes, node.id = other.id → node = other :=
    fun node mem other mem' =>
      DiagramNode.id_injective (parts.named_of_mem_nodes mem) (parts.named_of_mem_nodes mem')
  refine ⟨graph, read, ids, injective, ?_⟩
  rw [ids, ← parts.nodup_nodes_iff acceptable]
  constructor
  · exact List.Nodup.of_map DiagramNode.id
  · intro nodup
    exact (List.nodup_map_iff_inj_on nodup).2 injective

/-- The nodes of the household are drawn apart. -/
theorem nodeIds_household :
    household.elaborate = .ok (householdModel, []) ∧
    ∃ graph, Dot.read (householdModel.dot {}) = some graph ∧ graph.nodeIds.Nodup := by
  have accepted : household.elaborate = .ok (householdModel, []) := rfl
  have apart : (∀ declaration ∈ household.entities, SiblingsApart declaration.attributes) ∧
      ∀ declaration ∈ household.relationships, SiblingsApart declaration.attributes := by
    simp [household, SiblingsApart, AttributeDeclaration.ComponentsApart]
  obtain ⟨graph, read, -, -, separated⟩ := nodeIds_nodup_iff accepted {}
  exact ⟨accepted, graph, read, separated.2 apart⟩

/-- A person with two attributes whose names differ in their case only. -/
def phoneBook : Document where
  name := "M"
  entities := [
    { name := ⟨"person", 29, 37⟩
      attributes := [
        { name := "id", isKey := true },
        { name := "phone" },
        { name := "PHONE", kind := .multivalued }] }]

/-- The phone book is accepted, and its diagram declares one node twice. -/
theorem phoneBook_merges :
    ∃ model graph, phoneBook.elaborate = .ok (model, []) ∧
      Dot.read (model.dot {}) = some graph ∧ ¬ graph.nodeIds.Nodup := by
  obtain ⟨model, accepted⟩ : ∃ model, phoneBook.elaborate = .ok (model, []) := ⟨_, rfl⟩
  obtain ⟨graph, read, same⟩ := Dot.exists_read_text (Prescription.diagram_wellFormed model {})
  refine ⟨model, graph, accepted, read, ?_⟩
  cases accepted
  rw [Dot.nodeIds_of_statements_eq same]
  decide +kernel

end ErSchema.Schema
