import ErSchema.Dot.Text

/-!
# Scanning DOT

The fragment of DOT in which diagrams are written has two sorts of words: texts between double
quotes, whose only escapes are those of a double quote, a backslash and a newline, and bare words of
ASCII letters, digits, underscores and dots.  The scanner goes through a text character by
character, so that scanning two texts one after the other is scanning them together
(`scan_append`), and what is written piece by piece can be scanned piece by piece.

`scan_quote` says what is left of a text that is written between quotes: everything but its
carriage returns.
-/

set_option autoImplicit false

namespace ErSchema.Dot

/-- A word or a sign of the fragment. -/
inductive Token where
  | quoted (text : String)
  | bare (word : String)
  | openBrace
  | closeBrace
  | openBracket
  | closeBracket
  | equals
  | comma
  | semicolon
  /-- The two dashes of an undirected edge. -/
  | line
  deriving DecidableEq, Repr

/-- Where the scanner stands, with the part of the present word that it has read. -/
inductive Mode where
  | between
  | inWord (read : List Char)
  | inText (read : List Char)
  | afterBackslash (read : List Char)
  | afterDash
  deriving DecidableEq, Repr

/-- Whether a character may stand in a bare word. -/
def isBareChar (c : Char) : Bool :=
  c.isAlphanum || c = '_' || c = '.'

/-- Whether a text is a bare word. -/
def isBare (word : String) : Bool :=
  !word.toList.isEmpty && word.toList.all isBareChar

/-- Whether a character only separates words. -/
def isBlank (c : Char) : Bool :=
  c = ' ' || c = '\t' || c = '\n'

/-- The sign that a character is. -/
def sign? (c : Char) : Option Token :=
  if c = '\x7b' then some .openBrace
  else if c = '\x7d' then some .closeBrace
  else if c = '[' then some .openBracket
  else if c = ']' then some .closeBracket
  else if c = '=' then some .equals
  else if c = ',' then some .comma
  else if c = ';' then some .semicolon
  else none

/-- What a character between two words brings: the sign that it is, and the word that it starts. -/
def startWord (c : Char) : Option (List Token × Mode) :=
  if c = '"' then some ([], .inText [])
  else if isBlank c then some ([], .between)
  else if isBareChar c then some ([], .inWord [c])
  else if c = '-' then some ([], .afterDash)
  else (sign? c).map fun token => ([token], .between)

/-- One character: the words that it ends, and where the scanner stands after it.  A text between
quotes holds no newline, and a backslash in it no other escape than the three. -/
def advance : Mode → Char → Option (List Token × Mode)
  | .between, c => startWord c
  | .inWord read, c =>
    if isBareChar c then some ([], .inWord (read ++ [c]))
    else (startWord c).map fun (tokens, mode) => (.bare (.ofList read) :: tokens, mode)
  | .inText read, c =>
    if c = '"' then some ([.quoted (.ofList read)], .between)
    else if c = '\\' then some ([], .afterBackslash read)
    else if c = '\n' then none
    else some ([], .inText (read ++ [c]))
  | .afterBackslash read, c =>
    if c = '"' ∨ c = '\\' then some ([], .inText (read ++ [c]))
    else if c = 'n' then some ([], .inText (read ++ ['\n']))
    else none
  | .afterDash, c => if c = '-' then some ([.line], .between) else none

/-- The words of a part of a text, and where the scanner stands after it. -/
def scan : Mode → List Char → Option (List Token × Mode)
  | mode, [] => some ([], mode)
  | mode, c :: rest => do
    let (first, next) ← advance mode c
    let (others, last) ← scan next rest
    return (first ++ others, last)

/-- The words of a whole text. -/
def tokens? (text : String) : Option (List Token) :=
  match scan .between text.toList with
  | some (tokens, .between) => some tokens
  | some (tokens, .inWord read) => some (tokens ++ [.bare (.ofList read)])
  | _ => none

/-- Scanning two parts one after the other. -/
theorem scan_append {first second third : Mode} {left right : List Char}
    {leftTokens rightTokens : List Token} (lower : scan first left = some (leftTokens, second))
    (upper : scan second right = some (rightTokens, third)) :
    scan first (left ++ right) = some (leftTokens ++ rightTokens, third) := by
  induction left generalizing first leftTokens with
  | nil =>
    obtain ⟨rfl, rfl⟩ := Prod.mk.inj (Option.some.inj lower)
    exact upper
  | cons c rest ih =>
    simp only [scan, Option.bind_eq_bind, Option.bind_eq_some_iff, List.cons_append] at lower ⊢
    obtain ⟨⟨head, next⟩, step, ⟨tail, last⟩, later, result⟩ := lower
    obtain ⟨rfl, rfl⟩ := Prod.mk.inj (Option.some.inj result)
    exact ⟨(head, next), step, (tail ++ rightTokens, third), ih later, by simp⟩

/-! ## Texts between quotes -/

/-- A text without its carriage returns, which a written text never holds. -/
def dropReturns (text : String) : String :=
  .ofList (text.toList.filter (· ≠ '\r'))

/-- A text without carriage returns loses nothing. -/
theorem dropReturns_eq_self {text : String} (none : '\r' ∉ text.toList) :
    dropReturns text = text := by
  have kept : text.toList.filter (· ≠ '\r') = text.toList :=
    List.filter_eq_self.2 fun c mem => decide_eq_true fun same => none (same ▸ mem)
  rw [dropReturns, kept, String.ofList_toList]

/-- The escaped form of a character is read as that character, and that of a carriage return as
nothing. -/
theorem scan_escapeChar (read : List Char) (c : Char) :
    scan (.inText read) (escapeChar c) = some ([], .inText (read ++ [c].filter (· ≠ '\r'))) := by
  unfold escapeChar
  by_cases quote : c = '"'
  · subst quote; rfl
  by_cases backslash : c = '\\'
  · subst backslash; rfl
  by_cases newline : c = '\n'
  · subst newline; rfl
  by_cases return_ : c = '\r'
  · subst return_; simp [scan]
  simp [quote, backslash, newline, return_, scan, advance]

/-- An escaped text is read as the text without its carriage returns. -/
theorem scan_escape (read text : List Char) :
    scan (.inText read) (text.flatMap escapeChar) =
      some ([], .inText (read ++ text.filter (· ≠ '\r'))) := by
  induction text generalizing read with
  | nil => simp [scan]
  | cons c rest ih =>
    rw [List.flatMap_cons, scan_append (scan_escapeChar read c) (ih _)]
    rw [List.append_assoc, ← List.filter_append]
    rfl

/-- A written text is one word. -/
theorem scan_quote (text : String) :
    scan .between (quote text).toList = some ([.quoted (dropReturns text)], .between) := by
  have opened : scan .between ['"'] = some ([], .inText []) := rfl
  have closed : scan (.inText (text.toList.filter (· ≠ '\r'))) ['"'] =
      some ([.quoted (dropReturns text)], .between) := rfl
  have content := scan_append opened (scan_escape [] text.toList)
  have whole := scan_append content closed
  simpa [quote, escape, String.toList_append] using whole

/-! ## Bare words -/

/-- The first character of a bare word. -/
theorem startWord_of_isBareChar {c : Char} (bare : isBareChar c = true) :
    startWord c = some ([], .inWord [c]) := by
  have quote : c ≠ '"' := by
    rintro rfl
    exact absurd bare (by decide)
  have blank : isBlank c = false := by
    rw [Bool.eq_false_iff]
    intro blank
    simp only [isBlank, Bool.or_eq_true, decide_eq_true_eq] at blank
    rcases blank with (rfl | rfl) | rfl
    all_goals exact absurd bare (by decide)
  simp [startWord, quote, blank, bare]

/-- Further characters of a bare word. -/
theorem scan_inWord (read : List Char) {chars : List Char}
    (bare : ∀ c ∈ chars, isBareChar c = true) :
    scan (.inWord read) chars = some ([], .inWord (read ++ chars)) := by
  induction chars generalizing read with
  | nil => simp [scan]
  | cons c rest ih =>
    have head := bare c List.mem_cons_self
    have tail := ih (read ++ [c]) fun d mem => bare d (List.mem_cons_of_mem c mem)
    simp [scan, advance, head, tail]

/-- A bare word is read to its end, and is not yet known to end there. -/
theorem scan_bare {word : String} (bare : isBare word = true) :
    scan .between word.toList = some ([], .inWord word.toList) := by
  simp only [isBare, Bool.and_eq_true, Bool.not_eq_true', List.all_eq_true] at bare
  obtain ⟨nonempty, bare⟩ := bare
  cases chars : word.toList with
  | nil => simp [chars] at nonempty
  | cons c rest =>
    rw [chars] at bare
    have first := startWord_of_isBareChar (bare c List.mem_cons_self)
    have start : scan .between [c] = some ([], .inWord [c]) := by simp [scan, advance, first]
    exact scan_append start (scan_inWord [c] fun d mem => bare d (List.mem_cons_of_mem c mem))

/-- A character that ends a bare word and leaves the scanner between two words. -/
structure Ends (c : Char) (tokens : List Token) : Prop where
  notBare : isBareChar c = false
  start : startWord c = some (tokens, .between)

/-- A bare word is known to end with the character after it. -/
theorem scan_bare_concat {word : String} (bare : isBare word = true) {c : Char}
    {tokens : List Token} (ends : Ends c tokens) :
    scan .between (word.toList ++ [c]) = some (.bare word :: tokens, .between) := by
  have last : scan (.inWord word.toList) [c] = some (.bare word :: tokens, .between) := by
    simp [scan, advance, ends.notBare, ends.start]
  exact scan_append (scan_bare bare) last

end ErSchema.Dot
