import ErSchema.Proofs.Diagram.Nodes
import ErSchema.Proofs.Division

/-!
# The edges of a diagram

Every edge of a diagram joins nodes that the diagram declares (`closed_diagram`), because nothing is
drawn for a handle that denotes no entity.  In a reachable model this loses no subclass: all handles
in a specialization denote entities, so there is one edge for each of them (`read_dot_closed`).
-/

set_option autoImplicit false

namespace ErSchema

open Dot

namespace Diagram

/-! ## Attributes -/

/-- A statement about an attribute: a node, or an edge that has a length only and joins two of some
identifiers. -/
inductive IsBranch (ids : List String) : Statement → Prop
  | node (id : String) (settings : List Setting) : IsBranch ids (.node id settings)
  | edge {tail head : String} (fromOwner : tail ∈ ids) (toAttribute : head ∈ ids) :
      IsBranch ids (.edge tail head [bare "len" "0.5"])

/-- A branch among some identifiers is one among more of them. -/
theorem IsBranch.mono {ids others : List String} {line : Statement} (branch : IsBranch ids line)
    (sub : ids ⊆ others) : IsBranch others line := by
  cases branch with
  | node id settings => exact .node id settings
  | edge fromOwner toAttribute => exact .edge (sub fromOwner) (sub toAttribute)

/-- A branch joins no other identifiers. -/
theorem IsBranch.ends_subset {ids : List String} {line : Statement} (branch : IsBranch ids line) :
    line.ends ⊆ ids := by
  cases branch with
  | node id settings => exact List.nil_subset ids
  | edge fromOwner toAttribute =>
    exact List.cons_subset.2 ⟨fromOwner, List.cons_subset.2 ⟨toAttribute, List.nil_subset ids⟩⟩

/-- A branch is not the edge of a subclass, which has a bar. -/
theorem IsBranch.subclassEdge?_eq_none {ids : List String} {line : Statement}
    (branch : IsBranch ids line) : line.subclassEdge? = none := by
  cases branch with
  | node id settings => rfl
  | edge fromOwner toAttribute => simp [Statement.subclassEdge?, bare]

mutual

/-- An attribute is drawn in branches among its owner, itself and its components. -/
theorem isBranch_attribute (style : Style) (owner : String) : ∀ item : Attribute,
    ∀ line ∈ attributeStatements style owner item,
      IsBranch (owner :: nodeIdsOf (attributeStatements style owner item)) line
  | ⟨kind, name, isKey, components⟩ => by
    have below := isBranch_attributes style (attributeId owner name) components
    rw [attributeStatements]
    refine List.forall_mem_cons.2 ⟨.node _ _, List.forall_mem_cons.2 ⟨?_, ?_⟩⟩
    · refine .edge List.mem_cons_self (List.mem_cons_of_mem owner ?_)
      exact List.mem_cons_self
    · intro line mem
      exact (below line mem).mono (List.subset_cons_of_subset owner (List.Subset.refl _))

/-- The statements about the attributes of an owner are nodes, and edges that join the owner and
these nodes. -/
theorem isBranch_attributes (style : Style) (owner : String) : ∀ attributes : List Attribute,
    ∀ line ∈ attributeListStatements style owner attributes,
      IsBranch (owner :: nodeIdsOf (attributeListStatements style owner attributes)) line
  | [], _, mem => absurd mem List.not_mem_nil
  | first :: rest, line, mem => by
    rw [attributeListStatements] at mem
    rw [attributeListStatements, nodeIdsOf_append]
    rcases List.mem_append.1 mem with mem | mem
    · have head := isBranch_attribute style owner first line mem
      exact head.mono (List.cons_subset_cons owner (List.subset_append_left _ _))
    · have tail := isBranch_attributes style owner rest line mem
      exact tail.mono (List.cons_subset_cons owner (List.subset_append_right _ _))

end

/-! ## Where edges end -/

/-- Whether all ends of edges are among some identifiers. -/
def EndsAmong (ids : List String) (statements : List Statement) : Prop :=
  ∀ line ∈ statements, ∀ id ∈ line.ends, id ∈ ids

/-- Edges that end among some identifiers end among more of them. -/
theorem EndsAmong.mono {ids others : List String} {statements : List Statement}
    (among : EndsAmong ids statements) (sub : ids ⊆ others) : EndsAmong others statements :=
  fun line mem id joined => sub (among line mem id joined)

/-- Edges of two lists end where those of each list end. -/
theorem EndsAmong.append {ids : List String} {first second : List Statement}
    (among : EndsAmong ids first) (among' : EndsAmong ids second) :
    EndsAmong ids (first ++ second) := by
  intro line mem
  rcases List.mem_append.1 mem with mem | mem
  · exact among line mem
  · exact among' line mem

/-- A statement may come first when its own ends are among the identifiers. -/
theorem EndsAmong.cons {ids : List String} {line : Statement} {rest : List Statement}
    (first : ∀ id ∈ line.ends, id ∈ ids) (among : EndsAmong ids rest) :
    EndsAmong ids (line :: rest) :=
  List.forall_mem_cons.2 ⟨first, among⟩

/-- Edges of several items end among some identifiers when those of each item do. -/
theorem EndsAmong.flatMap {α : Type} {ids : List String} {items : List α}
    {statements : α → List Statement} (among : ∀ item ∈ items, EndsAmong ids (statements item)) :
    EndsAmong ids (items.flatMap statements) := by
  intro line mem
  obtain ⟨item, listed, mem⟩ := List.mem_flatMap.1 mem
  exact among item listed line mem

/-- The edges in the subgraph of an entity or of a relationship join nodes of the subgraph. -/
theorem endsAmong_framed (style : Style) (shape fill owner : String) (isDouble : Bool)
    (attributes : List Attribute) :
    EndsAmong (nodeIdsOf (namedNode shape fill owner isDouble ::
        attributeListStatements style owner attributes))
      (namedNode shape fill owner isDouble :: attributeListStatements style owner attributes) := by
  refine .cons (fun id joined => absurd joined List.not_mem_nil) ?_
  intro line mem
  exact (isBranch_attributes style owner attributes line mem).ends_subset

/-- The edges to subclasses join what they start from and entities of the model. -/
theorem endsAmong_subclassStatements (model : Model) (owner : String)
    (specialization : Specialization) :
    EndsAmong (owner :: model.entities.map Entity.name)
      (subclassStatements model owner specialization) := by
  intro line mem id joined
  obtain ⟨child, listed, rfl⟩ := List.mem_map.1 mem
  obtain ⟨subclass, -, found⟩ := List.mem_filterMap.1 listed
  have present : child ∈ model.entities := List.mem_of_getElem? found
  have named := List.mem_map_of_mem (f := Entity.name) present
  simp only [Statement.ends, List.mem_cons, List.not_mem_nil, or_false] at joined
  rcases joined with rfl | rfl
  · exact List.mem_cons_self
  · exact List.mem_cons_of_mem _ named

/-- The edges of a specialization join its parent, its circle and entities of the model. -/
theorem endsAmong_specializationStatements (model : Model) (style : Style) (parent : String)
    (specialization : Specialization) (position : Nat) :
    EndsAmong
      (parent :: nodeIdsOf
          (specializationStatements model style parent specialization position) ++
        model.entities.map Entity.name)
      (specializationStatements model style parent specialization position) := by
  rw [nodeIds_specializationStatements]
  unfold specializationStatements
  split
  · have subclasses := endsAmong_subclassStatements model (circleId parent position) specialization
    refine .append ?_ (subclasses.mono ?_)
    · refine .cons ?_ (.cons ?_ ?_) <;> simp [Statement.ends, EndsAmong]
    · exact List.subset_cons_of_subset parent (List.Subset.refl _)
  · exact endsAmong_subclassStatements model parent specialization

/-- The edges of links join entities of the model and the relationship. -/
theorem endsAmong_linkStatements (model : Model) (relationship : Relationship) :
    EndsAmong (relationship.name :: model.entities.map Entity.name)
      (linkStatements model relationship) := by
  intro line mem id joined
  obtain ⟨link, -, drawn⟩ := List.mem_filterMap.1 mem
  obtain ⟨participant, resolved, rfl⟩ := Option.map_eq_some_iff.1 drawn
  obtain ⟨handle, -, found⟩ := Option.bind_eq_some_iff.1 resolved
  have present : participant ∈ model.entities := List.mem_of_getElem? found
  have named := List.mem_map_of_mem (f := Entity.name) present
  simp only [Statement.ends, List.mem_cons, List.not_mem_nil, or_false] at joined
  rcases joined with rfl | rfl
  · exact List.mem_cons_of_mem _ named
  · exact List.mem_cons_self

end Diagram

open Diagram

section Parts

variable (model : Model) (style : Style)

/-- What is drawn of an entity is in the diagram. -/
theorem entityStatements_subset {entity : Entity} (listed : entity ∈ model.entities) :
    entityStatements style entity ⊆ (model.diagram style).statements := by
  rw [statements_diagram, List.append_assoc]
  apply List.subset_append_of_subset_left
  exact fun _ mem => List.mem_flatMap_of_mem listed mem

/-- What is drawn of the specializations of an entity is in the diagram. -/
theorem divisionStatements_subset {entity : Entity} (listed : entity ∈ model.entities) :
    divisionStatements model style entity ⊆ (model.diagram style).statements := by
  rw [statements_diagram]
  apply List.subset_append_of_subset_left
  apply List.subset_append_of_subset_right
  exact fun _ mem => List.mem_flatMap_of_mem listed mem

/-- What is drawn of a relationship is in the diagram. -/
theorem relationshipStatements_subset {relationship : Relationship}
    (listed : relationship ∈ model.relationships) :
    relationshipStatements model style relationship ⊆ (model.diagram style).statements := by
  rw [statements_diagram]
  apply List.subset_append_of_subset_right
  exact fun _ mem => List.mem_flatMap_of_mem listed mem

/-- Every entity is a node of the diagram. -/
theorem map_name_subset_nodeIds :
    model.entities.map Entity.name ⊆ (model.diagram style).nodeIds := by
  intro name mem
  obtain ⟨entity, listed, rfl⟩ := List.mem_map.1 mem
  have declared := nodeIdsOf_subset (entityStatements_subset model style listed)
  exact declared List.mem_cons_self

/-- Every edge of a diagram joins nodes of the diagram. -/
theorem closed_diagram : (model.diagram style).Closed := by
  have names := map_name_subset_nodeIds model style
  show EndsAmong (model.diagram style).nodeIds (model.diagram style).statements
  rw [statements_diagram]
  refine .append (.append (.flatMap ?_) (.flatMap ?_)) (.flatMap ?_)
  · intro entity listed
    have framed := endsAmong_framed style "box" style.entityFill entity.name entity.isWeak
      entity.attributes
    exact framed.mono (nodeIdsOf_subset (entityStatements_subset model style listed))
  · intro entity listed
    refine .flatMap ?_
    rintro ⟨specialization, position⟩ mem
    have ends := endsAmong_specializationStatements model style entity.name specialization position
    refine ends.mono (List.append_subset.2 ⟨List.cons_subset.2 ⟨?_, ?_⟩, names⟩)
    · exact names (List.mem_map_of_mem listed)
    · apply nodeIdsOf_subset
      refine List.Subset.trans ?_ (divisionStatements_subset model style listed)
      exact fun _ line => List.mem_flatMap_of_mem mem line
  · intro relationship listed
    have inside := nodeIdsOf_subset (relationshipStatements_subset model style listed)
    rw [relationshipStatements, nodeIdsOf_append] at inside
    refine .append ?_ ?_
    · have framed := endsAmong_framed style "diamond" style.relationshipFill relationship.name
        relationship.isIdentifying relationship.attributes
      exact framed.mono (List.Subset.trans (List.subset_append_left _ _) inside)
    · have links := endsAmong_linkStatements model relationship
      refine links.mono (List.cons_subset.2 ⟨?_, names⟩)
      exact inside List.mem_cons_self

end Parts

/-! ## Edges of subclasses -/

namespace Diagram

/-- What the edges to the subclasses of a specialization join: the node from which they start, and
the node of each subclass. -/
def subclassPairs (model : Model) (parent : String) (specialization : Specialization)
    (position : Nat) : List (String × String) :=
  (specialization.derived.filterMap model.entity?).map fun child =>
    (origin parent specialization position, child.name)

/-- Whether none of the statements is the edge of a subclass. -/
def NoSubclassEdge (statements : List Statement) : Prop :=
  ∀ line ∈ statements, line.subclassEdge? = none

/-- The edges of attributes have no bar. -/
theorem noSubclassEdge_framed (style : Style) (shape fill owner : String) (isDouble : Bool)
    (attributes : List Attribute) :
    NoSubclassEdge (namedNode shape fill owner isDouble ::
      attributeListStatements style owner attributes) := by
  refine List.forall_mem_cons.2 ⟨rfl, ?_⟩
  intro line mem
  exact (isBranch_attributes style owner attributes line mem).subclassEdge?_eq_none

/-- The edge between a circle and its parent has no bar, whatever its role and its line. -/
theorem noSubclassEdge_circleStatements (style : Style) (parent circle : String)
    (specialization : Specialization) :
    NoSubclassEdge (circleStatements style parent circle specialization) := by
  unfold circleStatements
  refine List.forall_mem_cons.2 ⟨rfl, List.forall_mem_singleton.2 ?_⟩
  cases specialization.isTotal <;> cases specialization.role <;>
    simp [Statement.subclassEdge?, quoted, bare]

/-- The edges of links have no bar. -/
theorem noSubclassEdge_linkStatements (model : Model) (relationship : Relationship) :
    NoSubclassEdge (linkStatements model relationship) := by
  intro line mem
  obtain ⟨link, -, drawn⟩ := List.mem_filterMap.1 mem
  obtain ⟨participant, -, rfl⟩ := Option.map_eq_some_iff.1 drawn
  cases link.constraint <;> simp [Statement.subclassEdge?, quoted, bare]

/-- Where no statement is the edge of a subclass, none is found. -/
theorem NoSubclassEdge.filterMap_eq_nil {statements : List Statement}
    (none : NoSubclassEdge statements) : statements.filterMap Statement.subclassEdge? = [] :=
  List.filterMap_eq_nil_iff.2 none

/-- A specialization has one edge for each derived handle that denotes an entity, in order. -/
theorem filterMap_subclassStatements (model : Model) (owner : String)
    (specialization : Specialization) :
    (subclassStatements model owner specialization).filterMap Statement.subclassEdge? =
      (specialization.derived.filterMap model.entity?).map fun child => (owner, child.name) := by
  unfold subclassStatements
  induction specialization.derived.filterMap model.entity? with
  | nil => rfl
  | cons child rest ih =>
    rw [List.map_cons, List.map_cons, ← ih]
    rfl

/-- Among the statements of a specialization, the edges of subclasses are those to its derived
entities. -/
theorem filterMap_specializationStatements (model : Model) (style : Style) (parent : String)
    (specialization : Specialization) (position : Nat) :
    (specializationStatements model style parent specialization position).filterMap
        Statement.subclassEdge? =
      subclassPairs model parent specialization position := by
  unfold specializationStatements subclassPairs origin
  split
  · have round := noSubclassEdge_circleStatements style parent (circleId parent position)
      specialization
    rw [List.filterMap_append, round.filterMap_eq_nil, filterMap_subclassStatements,
      List.nil_append]
  · exact filterMap_subclassStatements model parent specialization

end Diagram

/-- The edges of subclasses in a diagram are those of its specializations, in order. -/
theorem subclassEdges_diagram (model : Model) (style : Style) :
    (model.diagram style).subclassEdges = model.entities.flatMap fun entity =>
      entity.specializations.zipIdx.flatMap fun (specialization, position) =>
        subclassPairs model entity.name specialization position := by
  have entities : ∀ entity,
      (entityStatements style entity).filterMap Statement.subclassEdge? = [] :=
    fun entity => (noSubclassEdge_framed style _ _ _ _ _).filterMap_eq_nil
  have relationships : ∀ relationship,
      (relationshipStatements model style relationship).filterMap Statement.subclassEdge? = [] := by
    intro relationship
    have framed := noSubclassEdge_framed style "diamond" style.relationshipFill relationship.name
      relationship.isIdentifying relationship.attributes
    have links := noSubclassEdge_linkStatements model relationship
    rw [relationshipStatements, List.filterMap_append, framed.filterMap_eq_nil,
      links.filterMap_eq_nil, List.nil_append]
  have divisions : ∀ entity,
      (divisionStatements model style entity).filterMap Statement.subclassEdge? =
        entity.specializations.zipIdx.flatMap fun (specialization, position) =>
          subclassPairs model entity.name specialization position := by
    intro entity
    rw [divisionStatements, List.filterMap_flatMap]
    simp only [filterMap_specializationStatements]
  rw [Graph.subclassEdges, filterMap_statements_diagram,
    List.flatMap_eq_nil_iff.2 fun entity _ => entities entity,
    List.flatMap_eq_nil_iff.2 fun relationship _ => relationships relationship,
    List.nil_append, List.append_nil]
  simp only [divisions]

/-! ## Reachable models -/

/-- Neither the name of an entity nor the identifier of a circle holds a carriage return. -/
theorem return_notMem_origin {parent : String} (named : ∃ text, parent = Name.ofEntity text)
    (specialization : Specialization) (position : Nat) :
    '\r' ∉ (origin parent specialization position).toList := by
  unfold origin
  split
  · have circle : (DiagramNode.circle parent position).Named :=
      ⟨named, fun _ mem => absurd mem List.not_mem_nil⟩
    exact DiagramNode.return_notMem_id circle
  · obtain ⟨text, rfl⟩ := named
    exact (Name.plain_ofEntity text).noReturn

namespace Model

section Divided

variable {model : Model} (divided : Divided model)

include divided

/-- Every derived entity of a specialization in a divided model has its edge. -/
theorem Divided.forall₂_subclassPairs {id : EntityId} {parent : Entity}
    (found : model.entity? id = some parent) {specialization : Specialization}
    (mem : specialization ∈ parent.specializations) (position : Nat) :
    List.Forall₂
      (fun subclass pair => ∃ child, model.entity? subclass = some child ∧
        pair = (origin parent.name specialization position, child.name))
      specialization.derived (subclassPairs model parent.name specialization position) := by
  have resolved := divided.derived id parent found specialization mem
  unfold subclassPairs
  generalize origin parent.name specialization position = start
  revert resolved
  induction specialization.derived with
  | nil => exact fun _ => .nil
  | cons first rest ih =>
    intro resolved
    simp only [List.mem_cons, forall_eq_or_imp] at resolved
    obtain ⟨⟨child, issued⟩, later⟩ := resolved
    rw [List.filterMap_cons_some issued, List.map_cons]
    exact .cons ⟨child, issued, rfl⟩ (ih later)

/-- The edges of subclasses in a divided model hold no carriage return, so that they are read back
as they are. -/
theorem Divided.map_dropReturns_subclassEdges (style : Style) :
    (model.diagram style).subclassEdges.map (Prod.map dropReturns dropReturns) =
      (model.diagram style).subclassEdges := by
  have named : ∀ entity ∈ model.entities, ∃ text, entity.name = Name.ofEntity text := by
    intro entity mem
    obtain ⟨index, found⟩ := List.mem_iff_getElem?.1 mem
    exact divided.named ⟨index⟩ entity found
  rw [subclassEdges_diagram]
  conv_rhs => rw [← List.map_id (List.flatMap _ _)]
  apply List.map_congr_left
  rintro ⟨start, subclass⟩ mem
  obtain ⟨entity, listed, mem⟩ := List.mem_flatMap.1 mem
  obtain ⟨⟨specialization, position⟩, -, mem⟩ := List.mem_flatMap.1 mem
  obtain ⟨child, issued, same⟩ := List.mem_map.1 mem
  obtain ⟨handle, -, found⟩ := List.mem_filterMap.1 issued
  cases same
  obtain ⟨text, name⟩ := divided.named handle child found
  have tail := return_notMem_origin (named entity listed) specialization position
  have head := (Name.plain_ofEntity text).noReturn
  rw [← name] at head
  exact congrArg₂ Prod.mk (dropReturns_eq_self tail) (dropReturns_eq_self head)

end Divided

/-- The diagram of a reachable model is read back as a graph in which every edge joins declared
nodes.  The edges of subclasses are those of the specializations that are kept, in order.  Each of
them is kept by its parent, every handle in it denotes an entity, and each handle has one edge. -/
theorem read_dot_closed (name description : String) (authors : List String)
    {operations : List Operation} (built : ∀ operation ∈ operations, operation.AddsBuilt)
    (style : Style) :
    let model := (empty name description authors).run operations
    ∃ graph, Dot.read (model.dot style) = some graph ∧ graph.Closed ∧
      (graph.subclassEdges = model.entities.flatMap fun parent =>
        parent.specializations.zipIdx.flatMap fun (specialization, position) =>
          subclassPairs model parent.name specialization position) ∧
      ∀ id parent, model.entity? id = some parent →
        ∀ specialization position, parent.specializations[position]? = some specialization →
          specialization.parent = id ∧
          (subclassPairs model parent.name specialization position).length =
            specialization.derived.length ∧
          List.Forall₂
            (fun subclass pair => ∃ child, model.entity? subclass = some child ∧
              pair = (origin parent.name specialization position, child.name))
            specialization.derived (subclassPairs model parent.name specialization position) := by
  intro model
  have divided : Divided model := (divided_empty name description authors).run built
  obtain ⟨graph, read, same⟩ := exists_read_text (Prescription.diagram_wellFormed model style)
  refine ⟨graph, read, closed_of_statements_eq same (closed_diagram model style), ?_, ?_⟩
  · rw [subclassEdges_of_statements_eq same, divided.map_dropReturns_subclassEdges,
      subclassEdges_diagram]
  · intro id parent found specialization position listed
    have mem : specialization ∈ parent.specializations := List.mem_of_getElem? listed
    have pairs := divided.forall₂_subclassPairs found mem position
    exact ⟨divided.parent id parent found specialization mem, pairs.length_eq.symm, pairs⟩

/-- Calls that build a small model: two specializations are accepted and one is refused, and a link
names a handle that was never issued. -/
def zooCalls : List Operation := [
  .addEntity ((Entity.ofName .regular "animal").addAttribute (.ofName .simple "id" true)),
  .addEntity (.ofName .regular "cat"),
  .add (.entity (.ofName .weak "dog")),
  .specialize ⟨.disjoint, ⟨0⟩, none, true, [⟨1⟩, ⟨2⟩]⟩,
  .specialize ⟨.unspecified, ⟨1⟩, none, true, [⟨7⟩]⟩,
  .specialize ⟨.unspecified, ⟨1⟩, none, true, [⟨2⟩]⟩,
  .addRelationship (.ofName .regular "feeds" [⟨some ⟨9⟩, none, ""⟩, ⟨some ⟨0⟩, none, ""⟩] [])]

/-- The diagram of the zoo has an edge for each of its three subclasses. -/
theorem read_dot_zoo :
    (∀ operation ∈ zooCalls, operation.AddsBuilt) ∧
    ∃ graph, Dot.read (((empty "Zoo" "" []).run zooCalls).dot {}) = some graph ∧ graph.Closed ∧
      graph.subclassEdges = [("ANIMAL_s0", "CAT"), ("ANIMAL_s0", "DOG"), ("CAT", "DOG")] := by
  have built : ∀ operation ∈ zooCalls, operation.AddsBuilt := by
    simp only [zooCalls, List.forall_mem_cons, Operation.AddsBuilt]
    exact ⟨.withAttribute (.named _ _) _, .named _ _, .named _ _, trivial, trivial, trivial,
      trivial, fun _ mem => absurd mem List.not_mem_nil⟩
  obtain ⟨graph, read, closed, edges, -⟩ := read_dot_closed "Zoo" "" [] built {}
  refine ⟨built, graph, read, closed, edges.trans ?_⟩
  decide +kernel

end Model

end ErSchema
