import ErSchema.Proofs.Dot.Reader

/-!
# Reading what was written

A graph whose names and bare values are bare words is read back from its text.  What is read is the
graph itself, but for two things that the text does not hold: carriage returns inside quotes
(`Graph.legible`) and empty lines (`Graph.withoutGaps`).

The proof goes through the words of a graph (`Graph.tokens`).  Scanning the text of a part gives
the words of the part, and reading the words gives the part back, whatever follows them.
-/

set_option autoImplicit false

namespace ErSchema.Dot

/-! ## What a text can hold -/

/-- A value as it can be read: without carriage returns. -/
def Value.legible : Value → Value
  | .quoted text => .quoted (dropReturns text)
  | .bare word => .bare word

/-- A setting as it can be read. -/
def Setting.legible (setting : Setting) : Setting :=
  ⟨setting.name, setting.value.legible⟩

/-- A statement as it can be read. -/
def Statement.legible : Statement → Statement
  | .node id settings => .node (dropReturns id) (settings.map Setting.legible)
  | .edge tail head settings =>
    .edge (dropReturns tail) (dropReturns head) (settings.map Setting.legible)

/-- A part of a graph as it can be read. -/
def Item.legible : Item → Item
  | .statement line => .statement line.legible
  | .subgraph body => .subgraph (body.map Statement.legible)
  | .assignment setting => .assignment setting.legible
  | .gap => .gap

/-- A graph as it can be read, with its empty lines. -/
def Graph.legible (graph : Graph) : Graph :=
  { graph with items := graph.items.map Item.legible }

/-- A graph without its empty lines. -/
def Graph.withoutGaps (graph : Graph) : Graph :=
  { graph with items := graph.items.filter (· ≠ .gap) }

/-- A value that can be told from what follows it. -/
def Value.WellFormed : Value → Prop
  | .quoted _ => True
  | .bare word => isBare word = true

/-- A setting whose name is a bare word. -/
def Setting.WellFormed (setting : Setting) : Prop :=
  isBare setting.name = true ∧ setting.value.WellFormed

/-- A statement with well-formed settings. -/
def Statement.WellFormed : Statement → Prop
  | .node _ settings | .edge _ _ settings => ∀ setting ∈ settings, setting.WellFormed

/-- A part of a graph with well-formed settings. -/
def Item.WellFormed : Item → Prop
  | .statement line => line.WellFormed
  | .subgraph body => ∀ statement ∈ body, statement.WellFormed
  | .assignment setting => setting.WellFormed
  | .gap => True

/-- A graph whose names and bare values are bare words. -/
def Graph.WellFormed (graph : Graph) : Prop :=
  isBare graph.name = true ∧ ∀ item ∈ graph.items, item.WellFormed

/-- Empty lines may be left out before or after carriage returns are. -/
theorem legible_withoutGaps (graph : Graph) :
    graph.withoutGaps.legible = graph.legible.withoutGaps := by
  have same : ((· ≠ Item.gap) ∘ Item.legible : Item → Bool) = (· ≠ Item.gap) := by
    funext item
    cases item <;> simp [Item.legible]
  unfold Graph.withoutGaps Graph.legible
  dsimp only
  rw [List.filter_map, same]

/-- Empty lines hold nothing that could be ill-formed. -/
theorem wellFormed_of_withoutGaps {graph : Graph} (formed : graph.withoutGaps.WellFormed) :
    graph.WellFormed := by
  refine ⟨formed.1, fun item mem => ?_⟩
  by_cases gap : item = .gap
  · subst gap
    trivial
  · exact formed.2 item (List.mem_filter.2 ⟨mem, decide_eq_true gap⟩)

/-! ## The words of a graph -/

/-- The words of a setting. -/
def Setting.tokens (setting : Setting) : List Token :=
  [.bare setting.name, .equals, setting.value.token]

/-- The words of settings, each after a comma. -/
def laterTokens (settings : List Setting) : List Token :=
  settings.flatMap fun setting => .comma :: setting.tokens

/-- The words of settings in brackets. -/
def bracketTokens : List Setting → List Token
  | [] => [.openBracket, .closeBracket]
  | first :: rest => .openBracket :: first.tokens ++ laterTokens rest ++ [.closeBracket]

/-- The words of a statement. -/
def Statement.tokens : Statement → List Token
  | .node id settings => .quoted id :: bracketTokens settings ++ [.semicolon]
  | .edge tail head settings =>
    .quoted tail :: .line :: .quoted head :: bracketTokens settings ++ [.semicolon]

/-- The words of a part of a graph. -/
def Item.tokens : Item → List Token
  | .statement line => line.tokens
  | .subgraph body =>
    .bare "subgraph" :: .openBrace :: body.flatMap Statement.tokens ++ [.closeBrace]
  | .assignment setting => setting.tokens
  | .gap => []

/-- The words of a graph. -/
def Graph.tokens (graph : Graph) : List Token :=
  .bare "graph" :: .bare graph.name :: .openBrace :: graph.items.flatMap Item.tokens ++
    [.closeBrace]

/-! ## Scanning -/

/-- An equals sign ends a bare word. -/
theorem ends_equals : Ends '=' [.equals] := ⟨rfl, rfl⟩

/-- So does a comma. -/
theorem ends_comma : Ends ',' [.comma] := ⟨rfl, rfl⟩

/-- So does a closing bracket. -/
theorem ends_closeBracket : Ends ']' [.closeBracket] := ⟨rfl, rfl⟩

/-- So does a space, which is no word itself. -/
theorem ends_space : Ends ' ' [] := ⟨rfl, rfl⟩

/-- So does a newline. -/
theorem ends_newline : Ends '\n' [] := ⟨rfl, rfl⟩

/-- A value is known to end with the character after it. -/
theorem scan_value {value : Value} (formed : value.WellFormed) {c : Char} {tokens : List Token}
    (ends : Ends c tokens) :
    scan .between (value.text.toList ++ [c]) = some (value.legible.token :: tokens, .between) := by
  cases value with
  | quoted text =>
    have last : scan .between [c] = some (tokens, .between) := by simp [scan, advance, ends.start]
    exact scan_append (scan_quote text) last
  | bare word => exact scan_bare_concat formed ends

/-- A setting is its name, an equals sign and its value. -/
theorem scan_setting {setting : Setting} (formed : setting.WellFormed) {c : Char}
    {tokens : List Token} (ends : Ends c tokens) :
    scan .between (setting.text.toList ++ [c]) =
      some (setting.legible.tokens ++ tokens, .between) := by
  have whole := scan_append (scan_bare_concat formed.1 ends_equals) (scan_value formed.2 ends)
  simpa [Setting.text, String.toList_append, Setting.tokens, Setting.legible] using whole

/-- Settings are separated by commas, and a bracket closes the last. -/
theorem scan_settings {first : Setting} {rest : List Setting} (formed : first.WellFormed)
    (formed' : ∀ setting ∈ rest, setting.WellFormed) :
    scan .between ([','].intercalate ((first :: rest).map (·.text.toList)) ++ [']']) =
      some (first.legible.tokens ++ laterTokens (rest.map Setting.legible) ++ [.closeBracket],
        .between) := by
  induction rest generalizing first with
  | nil => simpa [laterTokens] using scan_setting formed ends_closeBracket
  | cons second rest ih =>
    have later := ih (formed' second List.mem_cons_self) fun setting mem =>
      formed' setting (List.mem_cons_of_mem second mem)
    have whole := scan_append (scan_setting formed ends_comma) later
    simpa [laterTokens, List.intercalate_cons_cons] using whole

/-- Settings in brackets. -/
theorem scan_bracket {settings : List Setting}
    (formed : ∀ setting ∈ settings, setting.WellFormed) :
    scan .between (bracket settings).toList =
      some (bracketTokens (settings.map Setting.legible), .between) := by
  have opened : scan .between ['['] = some ([.openBracket], .between) := rfl
  have text : (bracket settings).toList =
      ['['] ++ ([','].intercalate (settings.map (·.text.toList)) ++ [']']) := by
    simp [bracket, String.toList_append, String.toList_intercalate, Function.comp_def]
  rw [text]
  cases settings with
  | nil => rfl
  | cons first rest =>
    have later := scan_settings (formed first List.mem_cons_self) fun setting mem =>
      formed setting (List.mem_cons_of_mem first mem)
    simpa [bracketTokens] using scan_append opened later

/-- A statement is scanned from its text. -/
theorem scan_statement {statement : Statement} (formed : statement.WellFormed) :
    scan .between statement.text.toList = some (statement.legible.tokens, .between) := by
  have space : scan .between [' '] = some ([], .between) := rfl
  have dashes : scan .between " -- ".toList = some ([.line], .between) := rfl
  have semicolon : scan .between [';'] = some ([.semicolon], .between) := rfl
  cases statement with
  | node id settings =>
    have settings := scan_append (scan_append space (scan_bracket formed)) semicolon
    simpa [Statement.text, String.toList_append, Statement.tokens, Statement.legible] using
      scan_append (scan_quote id) settings
  | edge tail head settings =>
    have settings := scan_append (scan_append space (scan_bracket formed)) semicolon
    have ends := scan_append (scan_append (scan_quote tail) dashes) (scan_quote head)
    simpa [Statement.text, String.toList_append, Statement.tokens, Statement.legible] using
      scan_append ends settings

/-- Parts that are scanned one by one are scanned one after the other. -/
theorem scan_flatMap {α : Type} (text : α → List Char) (tokens : α → List Token) (items : List α)
    (each : ∀ item ∈ items, scan .between (text item) = some (tokens item, .between)) :
    scan .between (items.flatMap text) = some (items.flatMap tokens, .between) := by
  induction items with
  | nil => rfl
  | cons item rest ih =>
    have head := each item List.mem_cons_self
    have tail := ih fun other mem => each other (List.mem_cons_of_mem item mem)
    exact scan_append head tail

/-- A part of a graph is scanned from its lines. -/
theorem scan_item {item : Item} (formed : item.WellFormed) :
    scan .between item.text.toList = some (item.legible.tokens, .between) := by
  have tab : scan .between ['\t'] = some ([], .between) := rfl
  have newline : scan .between ['\n'] = some ([], .between) := rfl
  cases item with
  | statement line =>
    simpa [Item.text, String.toList_append, Item.tokens, Item.legible] using
      scan_append (scan_append tab (scan_statement formed)) newline
  | subgraph body =>
    have opened : scan .between "\tsubgraph \x7b\n".toList =
        some ([.bare "subgraph", .openBrace], .between) := rfl
    have closed : scan .between "\t\x7d\n".toList = some ([.closeBrace], .between) := rfl
    have lines := scan_flatMap (fun line : Statement => ['\t', '\t'] ++ line.text.toList ++ ['\n'])
      (fun line => line.legible.tokens) body fun line mem => by
        have statement := scan_statement (formed line mem)
        simpa using scan_append (scan_append (scan_append tab tab) statement) newline
    simpa [Item.text, String.toList_append, String.toList_join, List.flatMap_map, Item.tokens,
      Item.legible] using scan_append (scan_append opened lines) closed
  | assignment setting =>
    have equals : scan .between ['=', ' '] = some ([.equals], .between) := rfl
    have name := scan_append tab (scan_bare_concat formed.1 ends_space)
    have whole := scan_append (scan_append name equals) (scan_value formed.2 ends_newline)
    simpa [Item.text, String.toList_append, Item.tokens, Item.legible, Setting.tokens,
      Setting.legible] using whole
  | gap => rfl

/-- The text of a graph has the words of the graph as it can be read. -/
theorem tokens?_text {graph : Graph} (formed : graph.WellFormed) :
    tokens? graph.text = some graph.legible.tokens := by
  have keyword : scan .between "graph ".toList = some ([.bare "graph"], .between) := rfl
  have opened : scan .between ['\x7b', '\n'] = some ([.openBrace], .between) := rfl
  have closed : scan .between ['\x7d', '\n'] = some ([.closeBrace], .between) := rfl
  have header := scan_append (scan_append keyword (scan_bare_concat formed.1 ends_newline)) opened
  have body := scan_flatMap (fun item : Item => item.text.toList) (fun item => item.legible.tokens)
    graph.items fun item mem => scan_item (formed.2 item mem)
  have whole : scan .between graph.text.toList = some (graph.legible.tokens, .between) := by
    simpa [Graph.text, String.toList_append, String.toList_join, List.flatMap_map, Graph.tokens,
      Graph.legible] using scan_append (scan_append header body) closed
  simp [tokens?, whole]

/-! ## Reading words -/

/-- A value is read back from its word. -/
theorem value?_token (value : Value) : value.token.value? = some value := by
  cases value <;> rfl

/-- Settings after the first are read back up to the closing bracket. -/
theorem laterSettings?_tokens (settings : List Setting) (rest : List Token) :
    laterSettings? (laterTokens settings ++ .closeBracket :: rest) = some (settings, rest) := by
  induction settings with
  | nil => rfl
  | cons first others ih =>
    simp only [laterTokens, List.flatMap_cons, Setting.tokens, List.cons_append,
      List.nil_append] at ih ⊢
    simp [laterSettings?, value?_token, ih]

/-- Settings in brackets are read back, whatever follows them. -/
theorem settings?_tokens (settings : List Setting) (rest : List Token) :
    settings? (bracketTokens settings ++ rest) = some (settings, rest) := by
  cases settings with
  | nil => rfl
  | cons first others =>
    have read := laterSettings?_tokens (first :: others) rest
    simp only [laterTokens, List.flatMap_cons, Setting.tokens, List.cons_append,
      List.nil_append] at read
    simpa [bracketTokens, settings?, Setting.tokens, laterTokens] using read

/-- A statement is read back, whatever follows it. -/
theorem statement?_tokens (statement : Statement) (rest : List Token) :
    statement? (statement.tokens ++ rest) = some (statement, rest) := by
  cases statement with
  | node id settings =>
    have read := settings?_tokens settings (.semicolon :: rest)
    cases settings with
    | nil => rfl
    | cons first others =>
      simp only [bracketTokens, List.cons_append, List.append_assoc, List.nil_append] at read
      simp [Statement.tokens, bracketTokens, statement?, read, ending?]
  | edge tail head settings =>
    have read := settings?_tokens settings (.semicolon :: rest)
    simp [Statement.tokens, statement?, read, ending?]

/-- Parts that are read one by one are read as a block, up to a brace that starts no part. -/
theorem Reader.block?_flatMap {α : Type} (part : Reader α) (tokens : α → List Token)
    (stops : ∀ rest, part.read (.closeBrace :: rest) = none)
    (items : List α)
    (each : ∀ item ∈ items, ∀ rest, part.read (tokens item ++ rest) = some (item, rest))
    (rest : List Token) :
    part.block? (items.flatMap tokens ++ .closeBrace :: rest) = some (items, rest) := by
  induction items with
  | nil =>
    rw [List.flatMap_nil, List.nil_append, block?]
    split
    case h_1 first later found => simp [stops] at found
    case h_2 => rfl
  | cons item others ih =>
    have head := each item List.mem_cons_self
    have tail := ih fun other mem => each other (List.mem_cons_of_mem item mem)
    rw [List.flatMap_cons, List.append_assoc, block?]
    split
    case h_1 first later found =>
      rw [head] at found
      obtain ⟨rfl, rfl⟩ := Prod.mk.inj (Option.some.inj found)
      simp [tail]
    case h_2 found => simp [head] at found

/-- A part of a graph is read back, whatever follows it, unless it is an empty line. -/
theorem item?_tokens {item : Item} (notGap : item ≠ .gap) (rest : List Token) :
    item? (item.tokens ++ rest) = some (item, rest) := by
  cases item with
  | statement line =>
    have read := statement?_tokens line rest
    cases line with
    | node id settings =>
      simp only [Statement.tokens, List.cons_append, List.append_assoc, List.nil_append] at read
      simp [Item.tokens, Statement.tokens, item?, read]
    | edge tail head settings =>
      simp only [Statement.tokens, List.cons_append, List.append_assoc, List.nil_append] at read
      simp [Item.tokens, Statement.tokens, item?, read]
  | subgraph body =>
    have read := statementReader.block?_flatMap Statement.tokens (fun _ => rfl) body
      (fun line _ => statement?_tokens line) rest
    simp [Item.tokens, item?, read]
  | assignment setting => simp [Item.tokens, Setting.tokens, item?, value?_token]
  | gap => exact absurd rfl notGap

/-- An empty line has no words. -/
theorem flatMap_tokens_withoutGaps (graph : Graph) :
    graph.withoutGaps.items.flatMap Item.tokens = graph.items.flatMap Item.tokens := by
  unfold Graph.withoutGaps
  induction graph.items with
  | nil => rfl
  | cons item rest ih => cases item <;> simp_all [Item.tokens]

/-- A graph is read from its words, but for its empty lines. -/
theorem graph?_tokens (graph : Graph) : graph? graph.tokens = some graph.withoutGaps := by
  have body := itemReader.block?_flatMap Item.tokens (fun _ => rfl) graph.withoutGaps.items
    (fun item mem => item?_tokens (of_decide_eq_true (List.mem_filter.1 mem).2)) []
  rw [flatMap_tokens_withoutGaps] at body
  simp [Graph.tokens, graph?, body, Graph.withoutGaps]

/-- A well-formed graph is read from its text, without its carriage returns and empty lines. -/
theorem read_text {graph : Graph} (formed : graph.WellFormed) :
    read graph.text = some graph.legible.withoutGaps := by
  simp [read, tokens?_text formed, graph?_tokens]

end ErSchema.Dot
