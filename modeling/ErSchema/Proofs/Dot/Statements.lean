import ErSchema.Proofs.Dot.RoundTrip

/-!
# The statements of a graph

The nodes and edges of a graph, in the order in which they are written, whether they stand in a
subgraph or not.  A graph is closed when every end of an edge is declared as a node.  What is read
back from the text of a graph has the same statements but for the carriage returns in them, so a
graph that is closed is read back as a closed graph.
-/

set_option autoImplicit false

namespace ErSchema.Dot

/-- The nodes and edges in a part of a graph. -/
def Item.statements : Item → List Statement
  | .statement line => [line]
  | .subgraph body => body
  | .assignment _ | .gap => []

/-- The nodes and edges of a graph. -/
def Graph.statements (graph : Graph) : List Statement :=
  graph.items.flatMap Item.statements

/-- The identifier that a statement declares as a node. -/
def Statement.nodeId? : Statement → Option String
  | .node id _ => some id
  | .edge _ _ _ => none

/-- The identifiers that a statement joins. -/
def Statement.ends : Statement → List String
  | .node _ _ => []
  | .edge tail head _ => [tail, head]

/-- The identifiers that statements declare as nodes. -/
def nodeIdsOf (statements : List Statement) : List String :=
  statements.filterMap Statement.nodeId?

/-- The identifiers that a graph declares as nodes, as often as it declares them. -/
def Graph.nodeIds (graph : Graph) : List String :=
  nodeIdsOf graph.statements

/-- Whether all ends of edges are declared as nodes. -/
def Graph.Closed (graph : Graph) : Prop :=
  ∀ statement ∈ graph.statements, ∀ id ∈ statement.ends, id ∈ graph.nodeIds

/-- The parent or circle and the subclass that a statement joins, if it is drawn as the edge of a
subclass, which ends in a bar. -/
def Statement.subclassEdge? : Statement → Option (String × String)
  | .node _ _ => none
  | .edge tail head settings =>
    if ⟨"arrowhead", .bare "tee"⟩ ∈ settings then some (tail, head) else none

/-- The edges of subclasses in a graph. -/
def Graph.subclassEdges (graph : Graph) : List (String × String) :=
  graph.statements.filterMap Statement.subclassEdge?

/-- The nodes of two lists of statements come one after the other. -/
@[simp] theorem nodeIdsOf_append (first second : List Statement) :
    nodeIdsOf (first ++ second) = nodeIdsOf first ++ nodeIdsOf second :=
  List.filterMap_append

/-- The nodes of several items are those of the items one by one. -/
theorem nodeIdsOf_flatMap {α : Type} (items : List α) (statements : α → List Statement) :
    nodeIdsOf (items.flatMap statements) = items.flatMap fun item => nodeIdsOf (statements item) :=
  List.filterMap_flatMap

/-- What a part of a graph declares, the graph declares. -/
theorem nodeIdsOf_subset {graph : Graph} {part : List Statement} (sub : part ⊆ graph.statements) :
    nodeIdsOf part ⊆ graph.nodeIds :=
  List.filterMap_subset Statement.nodeId? sub

/-- Statements that stand by themselves are found as they are. -/
@[simp] theorem flatMap_statements_map_statement (statements : List Statement) :
    (statements.map Item.statement).flatMap Item.statements = statements := by
  induction statements with
  | nil => rfl
  | cons first rest ih => rw [List.map_cons, List.flatMap_cons, ih]; rfl

/-! ## Statements that are read back -/

/-- Empty lines hold no statements. -/
theorem statements_withoutGaps (graph : Graph) :
    graph.withoutGaps.statements = graph.statements := by
  unfold Graph.withoutGaps Graph.statements
  induction graph.items with
  | nil => rfl
  | cons item rest ih => cases item <;> simp_all [Item.statements]

/-- The statements of a graph as it can be read are its statements as they can be read. -/
theorem statements_legible (graph : Graph) :
    graph.legible.statements = graph.statements.map Statement.legible := by
  have each : ∀ item : Item, item.legible.statements = item.statements.map Statement.legible := by
    intro item
    cases item <;> rfl
  simp only [Graph.legible, Graph.statements, List.flatMap_map, List.map_flatMap, each]

/-- A well-formed graph is read back with the same statements, but for their carriage returns. -/
theorem exists_read_text {graph : Graph} (formed : graph.WellFormed) :
    ∃ found, read graph.text = some found ∧
      found.statements = graph.statements.map Statement.legible :=
  ⟨_, read_text formed, by rw [statements_withoutGaps, statements_legible]⟩

/-- A setting whose value is a word is read back as it is. -/
theorem bare_mem_map_legible {name word : String} {settings : List Setting} :
    ⟨name, .bare word⟩ ∈ settings.map Setting.legible ↔ ⟨name, .bare word⟩ ∈ settings := by
  rw [List.mem_map]
  constructor
  · rintro ⟨⟨other, value⟩, mem, read⟩
    cases value with
    | quoted text => cases read
    | bare other =>
      cases read
      exact mem
  · exact fun mem => ⟨_, mem, rfl⟩

section Read

variable {graph found : Graph} (same : found.statements = graph.statements.map Statement.legible)

include same

/-- The nodes that are found are those of the graph, without carriage returns. -/
theorem nodeIds_of_statements_eq : found.nodeIds = graph.nodeIds.map dropReturns := by
  have each : ∀ line : Statement, line.legible.nodeId? = line.nodeId?.map dropReturns := by
    intro line
    cases line <;> rfl
  simp only [Graph.nodeIds, nodeIdsOf, same, List.filterMap_map, List.map_filterMap,
    Function.comp_def, each]

/-- A graph that is read back from a closed one is closed. -/
theorem closed_of_statements_eq (closed : graph.Closed) : found.Closed := by
  intro line mem id joined
  rw [same] at mem
  obtain ⟨source, listed, rfl⟩ := List.mem_map.1 mem
  rw [nodeIds_of_statements_eq same]
  have ends : source.legible.ends = source.ends.map dropReturns := by
    cases source <;> rfl
  rw [ends] at joined
  obtain ⟨source_id, of_source, rfl⟩ := List.mem_map.1 joined
  exact List.mem_map_of_mem (closed source listed source_id of_source)

/-- The edges of subclasses that are found are those of the graph, without carriage returns. -/
theorem subclassEdges_of_statements_eq :
    found.subclassEdges = graph.subclassEdges.map (Prod.map dropReturns dropReturns) := by
  have each : ∀ line : Statement, line.legible.subclassEdge? =
      line.subclassEdge?.map (Prod.map dropReturns dropReturns) := by
    intro line
    cases line with
    | node id settings => rfl
    | edge tail head settings =>
      simp only [Statement.legible, Statement.subclassEdge?, bare_mem_map_legible]
      split <;> rfl
  simp only [Graph.subclassEdges, same, List.filterMap_map, List.map_filterMap, Function.comp_def,
    each]

end Read

end ErSchema.Dot
