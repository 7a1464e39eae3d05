import ErSchema.Dot.Text

/-!
# Graphs in DOT

The fragment of the DOT language in which diagrams are written: an undirected graph whose body holds
nodes, edges, assignments and anonymous subgraphs.  Empty lines between them are part of the layout,
so they are items of the body too.  `Graph.text` is the written form.
-/

set_option autoImplicit false

namespace ErSchema.Dot

/-- The value of a setting. -/
inductive Value where
  /-- A text between double quotes. -/
  | quoted (text : String)
  /-- A word or a number without quotes. -/
  | bare (word : String)
  deriving DecidableEq, Repr

/-- A named value. -/
structure Setting where
  name : String
  value : Value
  deriving DecidableEq, Repr

/-- The declaration of a node or of an edge. -/
inductive Statement where
  | node (id : String) (settings : List Setting)
  | edge (tail head : String) (settings : List Setting)
  deriving DecidableEq, Repr

/-- A part of the body of a graph. -/
inductive Item where
  | statement (statement : Statement)
  /-- An anonymous subgraph. -/
  | subgraph (body : List Statement)
  /-- An assignment to a setting of the whole graph. -/
  | assignment (setting : Setting)
  /-- An empty line. -/
  | gap
  deriving DecidableEq, Repr

/-- An undirected graph. -/
structure Graph where
  name : String
  items : List Item
  deriving DecidableEq, Repr

/-- A text as a value: without quotes when it is a word. -/
def Value.ofText (text : String) : Value :=
  if isWord text then .bare text else .quoted text

/-- A value as it is written. -/
def Value.text : Value → String
  | .quoted text => quote text
  | .bare word => word

/-- A setting in the brackets of a node or an edge. -/
def Setting.text (setting : Setting) : String :=
  setting.name ++ "=" ++ setting.value.text

/-- Settings in brackets. -/
def bracket (settings : List Setting) : String :=
  "[" ++ String.intercalate "," (settings.map Setting.text) ++ "]"

/-- A statement as it is written, without indentation. -/
def Statement.text : Statement → String
  | .node id settings => quote id ++ " " ++ bracket settings ++ ";"
  | .edge tail head settings => quote tail ++ " -- " ++ quote head ++ " " ++ bracket settings ++ ";"

/-- An item as it is written: full lines, indented by one tab and, inside a subgraph, by two. -/
def Item.text : Item → String
  | .statement line => "\t" ++ line.text ++ "\n"
  | .subgraph body =>
    "\tsubgraph \x7b\n" ++ String.join (body.map fun line => "\t\t" ++ line.text ++ "\n") ++
      "\t\x7d\n"
  | .assignment setting => "\t" ++ setting.name ++ " = " ++ setting.value.text ++ "\n"
  | .gap => "\n"

/-- A graph as it is written. -/
def Graph.text (graph : Graph) : String :=
  "graph " ++ graph.name ++ "\n\x7b\n" ++ String.join (graph.items.map Item.text) ++ "\x7d\n"

end ErSchema.Dot
