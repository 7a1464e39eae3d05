import ErSchema.Dot.Graph
import ErSchema.Proofs.Dot.Scanner

/-!
# Reading DOT

The reader turns the words of a text back into a graph: a name, and a body of nodes, edges,
assignments and anonymous subgraphs.  It looks at one part after the other and never goes back.  A
`Reader` carries the proof that it uses up words, which is what makes reading a block of any number
of parts terminate.

Empty lines are no words, so a graph that was read has no gaps.
-/

set_option autoImplicit false

namespace ErSchema.Dot

/-- A value as a word. -/
def Value.token : Value → Token
  | .quoted text => .quoted text
  | .bare word => .bare word

/-- The value that a word is. -/
def Token.value? : Token → Option Value
  | .quoted text => some (.quoted text)
  | .bare word => some (.bare word)
  | _ => none

/-- The settings that follow one another up to the closing bracket, each after a comma. -/
def laterSettings? : List Token → Option (List Setting × List Token)
  | .closeBracket :: rest => some ([], rest)
  | .comma :: .bare name :: .equals :: token :: tokens => do
    let value ← token.value?
    let (others, rest) ← laterSettings? tokens
    return (⟨name, value⟩ :: others, rest)
  | _ => none

/-- Settings in brackets, separated by commas. -/
def settings? : List Token → Option (List Setting × List Token)
  | .openBracket :: .closeBracket :: rest => some ([], rest)
  | .openBracket :: tokens => laterSettings? (.comma :: tokens)
  | _ => none

/-- The semicolon at the end of a statement. -/
def ending? (statement : Statement) : List Token → Option (Statement × List Token)
  | .semicolon :: rest => some (statement, rest)
  | _ => none

/-- A node or an edge. -/
def statement? : List Token → Option (Statement × List Token)
  | .quoted tail :: .line :: .quoted head :: tokens => do
    let (settings, rest) ← settings? tokens
    ending? (.edge tail head settings) rest
  | .quoted id :: tokens => do
    let (settings, rest) ← settings? tokens
    ending? (.node id settings) rest
  | _ => none

/-- A reader of one part, which uses up at least one word. -/
structure Reader (α : Type) where
  read : List Token → Option (α × List Token)
  shorter : ∀ {tokens item rest}, read tokens = some (item, rest) → rest.length < tokens.length

/-- Any number of parts up to the closing brace. -/
def Reader.block? {α : Type} (part : Reader α) (tokens : List Token) :
    Option (List α × List Token) :=
  match _found : part.read tokens with
  | some (first, later) =>
    (part.block? later).map fun (others, rest) => (first :: others, rest)
  | none =>
    match tokens with
    | .closeBrace :: rest => some ([], rest)
    | _ => none
termination_by tokens.length
decreasing_by exact part.shorter _found

/-! ## Words are used up -/

/-- Reading what follows the first setting uses up tokens, the closing bracket at least. -/
theorem laterSettings?_shorter {tokens rest : List Token} {settings : List Setting}
    (found : laterSettings? tokens = some (settings, rest)) : rest.length < tokens.length := by
  fun_induction laterSettings? tokens generalizing settings rest with
  | case1 later =>
    obtain ⟨-, rfl⟩ := Prod.mk.inj (Option.some.inj found)
    simp
  | case2 name token tokens ih =>
    simp only [Option.bind_eq_bind, Option.bind_eq_some_iff] at found
    obtain ⟨value, -, ⟨others, later⟩, found, result⟩ := found
    obtain ⟨-, rfl⟩ := Prod.mk.inj (Option.some.inj result)
    have := ih found
    simp only [List.length_cons]
    omega
  | case3 => simp at found

/-- Reading the settings in brackets uses up tokens. -/
theorem settings?_shorter {tokens rest : List Token} {settings : List Setting}
    (found : settings? tokens = some (settings, rest)) : rest.length < tokens.length := by
  unfold settings? at found
  split at found
  · obtain ⟨-, rfl⟩ := Prod.mk.inj (Option.some.inj found)
    simp only [List.length_cons]
    omega
  · have := laterSettings?_shorter found
    simpa using this
  · simp at found

/-- Reading the end of a statement uses up tokens, whether settings stand there or not. -/
theorem ending?_shorter {statement result : Statement} {tokens rest : List Token}
    (found : ending? statement tokens = some (result, rest)) : rest.length < tokens.length := by
  unfold ending? at found
  split at found
  · obtain ⟨-, rfl⟩ := Prod.mk.inj (Option.some.inj found)
    simp
  · simp at found

/-- Reading a statement uses up tokens. -/
theorem statement?_shorter {tokens rest : List Token} {statement : Statement}
    (found : statement? tokens = some (statement, rest)) : rest.length < tokens.length := by
  unfold statement? at found
  split at found
  case h_3 => simp at found
  all_goals
    obtain ⟨⟨settings, later⟩, first, last⟩ := Option.bind_eq_some_iff.1 found
    have := settings?_shorter first
    have := ending?_shorter last
    simp only [List.length_cons]
    omega

/-- The reader of a statement. -/
def statementReader : Reader Statement := ⟨statement?, statement?_shorter⟩

/-- Reading a block uses up tokens, its closing brace at least. -/
theorem Reader.block?_shorter {α : Type} (part : Reader α) {tokens rest : List Token}
    {items : List α} (found : part.block? tokens = some (items, rest)) :
    rest.length < tokens.length := by
  fun_induction part.block? tokens generalizing items rest with
  | case1 tokens first later read ih =>
    obtain ⟨⟨others, final⟩, inner, result⟩ := Option.map_eq_some_iff.1 found
    obtain ⟨-, rfl⟩ := Prod.mk.inj result
    exact Nat.lt_trans (ih inner) (part.shorter read)
  | case2 later =>
    obtain ⟨-, rfl⟩ := Prod.mk.inj (Option.some.inj found)
    simp
  | case3 => simp at found

/-! ## Parts of a graph -/

/-- A subgraph, an assignment or a statement. -/
def item? : List Token → Option (Item × List Token)
  | .bare word :: .openBrace :: tokens =>
    if word = "subgraph" then
      (statementReader.block? tokens).map fun (body, rest) => (.subgraph body, rest)
    else
      none
  | .bare name :: .equals :: token :: rest =>
    token.value?.map fun value => (.assignment ⟨name, value⟩, rest)
  | tokens => (statement? tokens).map fun (statement, rest) => (.statement statement, rest)

/-- Reading an item uses up tokens, so the items of a graph can be read one after the other. -/
theorem item?_shorter {tokens rest : List Token} {item : Item}
    (found : item? tokens = some (item, rest)) : rest.length < tokens.length := by
  unfold item? at found
  split at found
  · split at found
    · obtain ⟨⟨body, later⟩, inner, result⟩ := Option.map_eq_some_iff.1 found
      obtain ⟨-, rfl⟩ := Prod.mk.inj result
      have := statementReader.block?_shorter inner
      simp only [List.length_cons]
      omega
    · simp at found
  · obtain ⟨value, -, result⟩ := Option.map_eq_some_iff.1 found
    obtain ⟨-, rfl⟩ := Prod.mk.inj result
    simp only [List.length_cons]
    omega
  · obtain ⟨⟨statement, later⟩, inner, result⟩ := Option.map_eq_some_iff.1 found
    obtain ⟨-, rfl⟩ := Prod.mk.inj result
    exact statement?_shorter inner

/-- The reader of a part of the body of a graph. -/
def itemReader : Reader Item := ⟨item?, item?_shorter⟩

/-- A whole graph. -/
def graph? : List Token → Option Graph
  | .bare keyword :: .bare name :: .openBrace :: tokens =>
    match itemReader.block? tokens with
    | some (items, []) => if keyword = "graph" then some ⟨name, items⟩ else none
    | _ => none
  | _ => none

/-- The graph that a text describes. -/
def read (text : String) : Option Graph :=
  (tokens? text).bind graph?

end ErSchema.Dot
