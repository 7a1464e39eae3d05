import ErSchema.Diagram
import ErSchema.Proofs.Dot.Scanner
import Mathlib.Data.List.DropRight

/-!
# Identifiers in DOT

An ID of the DOT language is a word, a number or a text between double quotes.  A word holds
letters, digits and underscores, does not begin with a digit and is none of the keywords, whose case
does not matter; everything beyond ASCII counts as a letter.  `Denotes` is this grammar, together
with the text that an ID stands for, and `Assigns` is that of an assignment on a line of its own.

A value is written without quotes when it is made of ASCII letters, digits and underscores.  That
lets two sorts of values through that are no IDs: keywords, and words that begin with a digit and
are no numbers (`Misread`).  Every other value is written as an ID that stands for it
(`denotes_text_iff`).
-/

set_option autoImplicit false

namespace ErSchema

namespace Dot

/-! ## The grammar -/

/-- The words that have a meaning of their own. -/
def keywords : List String :=
  ["node", "edge", "graph", "digraph", "subgraph", "strict"]

/-- Whether a text is a keyword, in any mixture of ASCII case. -/
def IsKeyword (text : String) : Prop :=
  ∃ keyword ∈ keywords, text.toList.map Char.toLower = keyword.toList

instance : DecidablePred IsKeyword := fun text =>
  inferInstanceAs (Decidable (∃ keyword ∈ keywords, text.toList.map Char.toLower = keyword.toList))

/-- Whether a character may stand in a word. -/
def isNameChar (c : Char) : Bool :=
  isWordChar c || 0x80 ≤ c.toNat

/-- Whether a text begins with a digit. -/
def BeginsWithDigit (text : String) : Prop :=
  text.toList.head?.any Char.isDigit = true

instance : DecidablePred BeginsWithDigit := fun text =>
  inferInstanceAs (Decidable (text.toList.head?.any Char.isDigit = true))

/-- One digit or more. -/
def IsDigits (chars : List Char) : Prop :=
  chars ≠ [] ∧ ∀ c ∈ chars, c.isDigit = true

/-- A number without a sign: digits, among which or before which may stand one dot. -/
inductive IsUnsigned : List Char → Prop
  | whole {digits : List Char} (number : IsDigits digits) : IsUnsigned digits
  | pointed {digits decimals : List Char} (number : IsDigits digits)
      (rest : ∀ c ∈ decimals, c.isDigit = true) : IsUnsigned (digits ++ '.' :: decimals)
  | fraction {decimals : List Char} (number : IsDigits decimals) : IsUnsigned ('.' :: decimals)

/-- A number, which may have a minus sign. -/
def IsNumber (chars : List Char) : Prop :=
  IsUnsigned chars ∨ ∃ unsigned, chars = '-' :: unsigned ∧ IsUnsigned unsigned

/-- The IDs, each with the text that it stands for.  Words and numbers stand for themselves.
Between double quotes the only escapes are those of a double quote, a backslash and a newline. -/
inductive Denotes : String → String → Prop
  | word {text : String} (nonempty : text.toList ≠ [])
      (chars : ∀ c ∈ text.toList, isNameChar c = true) (start : ¬ BeginsWithDigit text)
      (free : ¬ IsKeyword text) : Denotes text text
  | number {text : String} (formed : IsNumber text.toList) : Denotes text text
  | quoted {inside content : List Char}
      (read : scan (.inText []) inside = some ([], .inText content)) :
      Denotes (.ofList ('"' :: inside ++ ['"'])) (.ofList content)

/-- Whether a line assigns a value to a setting: two IDs with an equals sign between them, and
blanks around them. -/
def Assigns (line name value : String) : Prop :=
  ∃ setting id : String, Denotes setting name ∧ Denotes id value ∧
    ∃ before behind ahead after : List Char,
      (∀ blanks ∈ [before, behind, ahead, after], ∀ c ∈ blanks, isBlank c = true) ∧
      line.toList = before ++ setting.toList ++ behind ++ '=' :: (ahead ++ id.toList ++ after)

/-- Whether a value is written without quotes and is no ID: it is a keyword or begins with a digit,
and it is no number. -/
def Misread (text : String) : Prop :=
  isWord text = true ∧ (IsKeyword text ∨ BeginsWithDigit text) ∧
    ¬ ∀ c ∈ text.toList, c.isDigit = true

-- the characters of the text are gone through, not all characters there are
instance : DecidablePred Misread := fun text =>
  decidable_of_iff (isWord text = true ∧ (IsKeyword text ∨ BeginsWithDigit text) ∧
    ¬ text.toList.all Char.isDigit = true) (by rw [Misread, List.all_eq_true])

/-! ## The forms of IDs -/

/-- Whether a character may stand in a word or a number. -/
def isUnquotedChar (c : Char) : Bool :=
  isNameChar c || c = '.' || c = '-'

/-- Digits may stand without quotes. -/
theorem isUnquotedChar_of_isDigit {c : Char} (digit : c.isDigit = true) :
    isUnquotedChar c = true := by
  simp [isUnquotedChar, isNameChar, isWordChar, Char.isAlphanum, digit]

/-- A number is not empty and may stand without quotes. -/
theorem IsUnsigned.isUnquotedChar {chars : List Char} (unsigned : IsUnsigned chars) :
    chars ≠ [] ∧ ∀ c ∈ chars, isUnquotedChar c = true := by
  have digits {chars : List Char} (each : ∀ c ∈ chars, c.isDigit = true) :
      ∀ c ∈ chars, Dot.isUnquotedChar c = true :=
    fun c mem => isUnquotedChar_of_isDigit (each c mem)
  have dot : Dot.isUnquotedChar '.' = true := by decide
  cases unsigned with
  | whole number => exact ⟨number.1, digits number.2⟩
  | pointed number rest =>
    refine ⟨by simp, ?_⟩
    rw [List.forall_mem_append, List.forall_mem_cons]
    exact ⟨digits number.2, dot, digits rest⟩
  | fraction number =>
    refine ⟨by simp, ?_⟩
    rw [List.forall_mem_cons]
    exact ⟨dot, digits number.2⟩

/-- An ID is made of characters of words and numbers, or it stands between double quotes. -/
theorem Denotes.unquoted_or_quoted {id value : String} (denotes : Denotes id value) :
    (id.toList ≠ [] ∧ ∀ c ∈ id.toList, isUnquotedChar c = true) ∨
      ∃ inside content, id.toList = '"' :: inside ++ ['"'] ∧ value = .ofList content ∧
        scan (.inText []) inside = some ([], .inText content) := by
  cases denotes with
  | word nonempty chars start free =>
    refine .inl ⟨nonempty, fun c mem => ?_⟩
    rw [isUnquotedChar, chars c mem, Bool.true_or, Bool.true_or]
  | number formed =>
    rcases formed with unsigned | ⟨unsigned, signed, formed⟩
    · exact .inl unsigned.isUnquotedChar
    · rw [signed, List.forall_mem_cons]
      exact .inl ⟨by simp, by decide, formed.isUnquotedChar.2⟩
  | @quoted inside content read =>
    exact .inr ⟨inside, content, String.toList_ofList, rfl, read⟩

/-- An ID that begins as a word or a number does is not quoted. -/
theorem Denotes.unquoted_of_append_eq {id value : String} (denotes : Denotes id value)
    {chars rest rest' : List Char} (nonempty : chars ≠ [])
    (unquoted : ∀ c ∈ chars, isUnquotedChar c = true) (same : id.toList ++ rest = chars ++ rest') :
    ∀ c ∈ id.toList, isUnquotedChar c = true := by
  rcases denotes.unquoted_or_quoted with ⟨-, unquoted⟩ | ⟨inside, content, written, -, -⟩
  · exact unquoted
  · cases chars with
    | nil => exact absurd rfl nonempty
    | cons c more =>
      rw [written] at same
      obtain rfl : '"' = c := (List.cons.inj same).1
      exact absurd (unquoted '"' List.mem_cons_self) (by decide)

/-! ## Values as IDs -/

section Word

variable {text : String} (word : isWord text = true)

include word

/-- A word is not empty. -/
theorem toList_ne_nil_of_isWord : text.toList ≠ [] := by
  intro none
  obtain rfl := String.toList_eq_nil_iff.1 none
  cases word

/-- A word consists of word characters. -/
theorem isWordChar_of_isWord {c : Char} (mem : c ∈ text.toList) : isWordChar c = true := by
  simp only [isWord, Bool.and_eq_true, List.all_eq_true] at word
  exact word.2 c mem

/-- A word holds no carriage returns that could be dropped. -/
theorem dropReturns_of_isWord : dropReturns text = text :=
  dropReturns_eq_self fun mem => absurd (isWordChar_of_isWord word mem) (by decide)

/-- A word is a number only when all its characters are digits. -/
theorem isDigit_of_isNumber (number : IsNumber text.toList) :
    ∀ c ∈ text.toList, c.isDigit = true := by
  have own : ∀ c ∈ text.toList, isWordChar c = true := fun c => isWordChar_of_isWord word
  rcases number with unsigned | ⟨unsigned, sign, -⟩
  · -- neither a dot nor a sign may stand in a word, so only digits are left
    generalize text.toList = chars at unsigned own
    cases unsigned with
    | whole number => exact number.2
    | pointed number rest => exact absurd (own '.' (by simp)) (by decide)
    | fraction number => exact absurd (own '.' (by simp)) (by decide)
  · exact absurd (own '-' (by simp [sign])) (by decide)

/-- A word stands for itself, unless it is misread. -/
theorem denotes_word_iff {value : String} : Denotes text value ↔ value = text ∧ ¬ Misread text := by
  constructor
  · intro denotes
    cases denotes with
    | word nonempty chars start free =>
      refine ⟨rfl, ?_⟩
      rintro ⟨-, keyword | digit, -⟩
      · exact free keyword
      · exact start digit
    | number formed =>
      refine ⟨rfl, ?_⟩
      rintro ⟨-, -, other⟩
      exact other (isDigit_of_isNumber word formed)
    | quoted read =>
      have quote : isWordChar '"' = true := isWordChar_of_isWord word (by simp)
      exact absurd quote (by decide)
  · rintro ⟨rfl, clear⟩
    by_cases digits : ∀ c ∈ value.toList, c.isDigit = true
    · exact .number (.inl (.whole ⟨toList_ne_nil_of_isWord word, digits⟩))
    · refine .word (toList_ne_nil_of_isWord word) ?_ ?_ ?_
      · intro c mem
        rw [isNameChar, isWordChar_of_isWord word mem, Bool.true_or]
      · exact fun digit => clear ⟨word, .inr digit, digits⟩
      · exact fun keyword => clear ⟨word, .inl keyword, digits⟩

end Word

/-- A quoted text is its escaped characters between double quotes. -/
theorem toList_quote (text : String) :
    (quote text).toList = '"' :: text.toList.flatMap escapeChar ++ ['"'] := by
  simp [quote, escape, String.toList_append]

/-- A text between quotes stands for itself without its carriage returns. -/
theorem denotes_quote_iff {text value : String} :
    Denotes (quote text) value ↔ value = dropReturns text := by
  have content := scan_escape [] text.toList
  constructor
  · intro denotes
    rcases denotes.unquoted_or_quoted with ⟨-, unquoted⟩ | ⟨inside, own, written, rfl, read⟩
    · exact absurd (unquoted '"' (by simp [toList_quote])) (by decide)
    · obtain rfl : text.toList.flatMap escapeChar = inside := by
        simpa using (toList_quote text).symm.trans written
      rw [content] at read
      have same := Mode.inText.inj (Prod.mk.inj (Option.some.inj read)).2
      exact congrArg String.ofList same.symm
  · rintro rfl
    have quoted := Denotes.quoted content
    rw [← toList_quote, String.ofList_toList] at quoted
    exact quoted

/-- The written form of a value is an ID exactly when the value is not misread, and it stands for
the value without its carriage returns. -/
theorem denotes_text_iff {text value : String} :
    Denotes (Value.ofText text).text value ↔ value = dropReturns text ∧ ¬ Misread text := by
  unfold Value.ofText
  split
  · next word =>
    rw [dropReturns_of_isWord word]
    exact denotes_word_iff word
  · next other =>
    have clear : ¬ Misread text := fun misread => other misread.1
    rw [and_iff_left clear]
    exact denotes_quote_iff

/-! ## Assignments -/

/-- Whether a text neither begins nor ends with a blank, and is not empty. -/
def IsTight (chars : List Char) : Prop :=
  ∃ nonempty : chars ≠ [],
    isBlank (chars.head nonempty) = false ∧ isBlank (chars.getLast nonempty) = false

/-- What may stand without quotes is no blank. -/
theorem isBlank_of_isUnquotedChar {c : Char} (unquoted : isUnquotedChar c = true) :
    isBlank c = false := by
  rw [Bool.eq_false_iff]
  intro blank
  simp only [isBlank, Bool.or_eq_true, decide_eq_true_eq] at blank
  rcases blank with (rfl | rfl) | rfl
  all_goals exact absurd unquoted (by decide)

/-- Words and numbers neither begin nor end with a blank. -/
theorem isTight_of_unquoted {chars : List Char} (nonempty : chars ≠ [])
    (unquoted : ∀ c ∈ chars, isUnquotedChar c = true) : IsTight chars :=
  ⟨nonempty, isBlank_of_isUnquotedChar (unquoted _ (List.head_mem nonempty)),
    isBlank_of_isUnquotedChar (unquoted _ (List.getLast_mem nonempty))⟩

/-- Neither do texts in double quotes, even with blanks inside. -/
theorem isTight_of_quoted (inside : List Char) : IsTight ('"' :: inside ++ ['"']) := by
  refine ⟨by simp, rfl, ?_⟩
  rw [List.getLast_append_singleton]
  decide

/-- So no ID begins or ends with a blank, and blanks around it can be told from it. -/
theorem Denotes.isTight {id value : String} (denotes : Denotes id value) : IsTight id.toList := by
  rcases denotes.unquoted_or_quoted with ⟨nonempty, unquoted⟩ | ⟨inside, content, written, -, -⟩
  · exact isTight_of_unquoted nonempty unquoted
  · rw [written]
    exact isTight_of_quoted inside

/-- The written form of a value has no blanks around it, whether it is an ID or not. -/
theorem isTight_text (text : String) : IsTight (Value.ofText text).text.toList := by
  unfold Value.ofText
  split
  · next word =>
    refine isTight_of_unquoted (toList_ne_nil_of_isWord word) ?_
    intro c mem
    rw [isUnquotedChar, isNameChar, isWordChar_of_isWord word mem, Bool.true_or, Bool.true_or,
      Bool.true_or]
  · rw [Value.text, toList_quote]
    exact isTight_of_quoted _

/-- Dropping blanks stops where a tight text begins. -/
theorem IsTight.dropWhile {chars : List Char} (tight : IsTight chars) {before : List Char}
    (blanks : ∀ c ∈ before, isBlank c = true) (more : List Char) :
    (before ++ (chars ++ more)).dropWhile isBlank = chars ++ more := by
  obtain ⟨nonempty, start, -⟩ := tight
  rw [List.dropWhile_append_of_pos blanks]
  cases chars with
  | nil => exact absurd rfl nonempty
  | cons c rest => exact List.dropWhile_cons_of_neg (by simpa using start)

/-- What stands between blanks is found by leaving them out. -/
theorem IsTight.trim {chars : List Char} (tight : IsTight chars) {before after : List Char}
    (blanks : ∀ c ∈ before, isBlank c = true) (blanks' : ∀ c ∈ after, isBlank c = true) :
    ((before ++ chars ++ after).dropWhile isBlank).rdropWhile isBlank = chars := by
  rw [List.append_assoc, tight.dropWhile blanks, List.rdropWhile, List.reverse_append,
    List.dropWhile_append_of_pos (by simpa using blanks'), ← List.rdropWhile,
    List.rdropWhile_eq_self_iff]
  obtain ⟨nonempty, -, last⟩ := tight
  intro _
  simpa using last

/-- A text is cut in one way at the first place where a character stands. -/
theorem append_cons_inj_of_notMem {c : Char} {first first' rest rest' : List Char}
    (absent : c ∉ first) (absent' : c ∉ first') (same : first ++ c :: rest = first' ++ c :: rest') :
    first = first' ∧ rest = rest' := by
  -- both first parts are gone through together: neither may end where the other goes on
  induction first generalizing first' with
  | nil =>
    cases first' with
    | nil => exact ⟨rfl, (List.cons.inj same).2⟩
    | cons d more => exact absurd (List.cons.inj same).1 (List.ne_of_not_mem_cons absent')
  | cons d more ih =>
    cases first' with
    | nil => exact absurd (List.cons.inj same).1.symm (List.ne_of_not_mem_cons absent)
    | cons d' more' =>
      obtain ⟨rfl, later⟩ := List.cons.inj same
      obtain ⟨rfl, rfl⟩ := ih (mt (List.mem_cons_of_mem d) absent)
        (mt (List.mem_cons_of_mem d) absent') later
      exact ⟨rfl, rfl⟩

/-- A word or a number holds no equals sign, nor do blanks around it. -/
theorem equals_notMem {before chars after : List Char} (blanks : ∀ c ∈ before, isBlank c = true)
    (unquoted : ∀ c ∈ chars, isUnquotedChar c = true)
    (blanksAfter : ∀ c ∈ after, isBlank c = true) :
    '=' ∉ before ++ chars ++ after := by
  simp only [List.mem_append, not_or]
  exact ⟨⟨fun mem => absurd (blanks '=' mem) (by decide),
    fun mem => absurd (unquoted '=' mem) (by decide)⟩,
    fun mem => absurd (blanksAfter '=' mem) (by decide)⟩

/-- A line that is written as an assignment assigns what its two sides stand for, and nothing when
one of them is no ID. -/
theorem assigns_iff {setting id name value : String} (nonempty : setting.toList ≠ [])
    (unquoted : ∀ c ∈ setting.toList, isUnquotedChar c = true) (tight : IsTight id.toList) :
    Assigns ("\t" ++ setting ++ " = " ++ id) name value ↔
      Denotes setting name ∧ Denotes id value := by
  have chars : ("\t" ++ setting ++ " = " ++ id).toList =
      ['\t'] ++ setting.toList ++ [' '] ++ '=' :: ([' '] ++ id.toList ++ []) := by
    simp [String.toList_append]
  constructor
  · rintro ⟨setting', id', denotes, denotes', before, behind, ahead, after, blanks, line⟩
    simp only [List.forall_mem_cons] at blanks
    obtain ⟨blankBefore, blankBehind, blankAhead, blankAfter, -⟩ := blanks
    rw [chars] at line
    have tab : ∀ c ∈ ['\t'], isBlank c = true := List.forall_mem_singleton.2 rfl
    have space : ∀ c ∈ [' '], isBlank c = true := List.forall_mem_singleton.2 rfl
    have tightSetting := isTight_of_unquoted nonempty unquoted
    -- both settings begin with the same character, so the other one is not quoted either
    have unquoted' : ∀ c ∈ setting'.toList, isUnquotedChar c = true := by
      have cut := congrArg (List.dropWhile isBlank) line
      simp only [List.append_assoc] at cut
      rw [tightSetting.dropWhile tab, denotes.isTight.dropWhile blankBefore] at cut
      exact denotes.unquoted_of_append_eq nonempty unquoted cut.symm
    obtain ⟨left, right⟩ := append_cons_inj_of_notMem (equals_notMem tab unquoted space)
      (equals_notMem blankBefore unquoted' blankBehind) line
    obtain rfl : setting = setting' := String.toList_injective <| by
      rw [← tightSetting.trim tab space, left, denotes.isTight.trim blankBefore blankBehind]
    obtain rfl : id = id' := String.toList_injective <| by
      rw [← tight.trim space (List.forall_mem_nil _), right,
        denotes'.isTight.trim blankAhead blankAfter]
    exact ⟨denotes, denotes'⟩
  · rintro ⟨denotes, denotes'⟩
    refine ⟨setting, id, denotes, denotes', ['\t'], [' '], [' '], [], ?_, chars⟩
    simp [isBlank]

end Dot

/-! ## The overlap setting -/

open Dot

/-- The last line of a diagram before its closing brace is that of the overlap setting. -/
theorem Model.exists_dot_eq (model : Model) (style : Style) :
    ∃ front, model.dot style =
      front ++ "\n" ++ ("\toverlap = " ++ (Value.ofText style.overlap).text) ++ "\n\x7d\n" := by
  have items : ∃ earlier, (model.diagram style).items = earlier ++
      [.gap, .assignment (Diagram.quoted "label" (Diagram.caption model)),
        .assignment ⟨"overlap", .ofText style.overlap⟩] := ⟨_, rfl⟩
  obtain ⟨earlier, items⟩ := items
  refine ⟨"graph ER\n\x7b\n" ++ String.join (earlier.map Item.text) ++ "\n\tlabel = " ++
    quote (Diagram.caption model), ?_⟩
  have name : (model.diagram style).name = "ER" := rfl
  rw [← String.toList_inj, dot, Graph.text, items, name]
  simp [String.toList_append, String.toList_join, Item.text, Diagram.quoted, Value.text]

/-- The line of the overlap setting assigns the setting without its carriage returns, unless it is
misread, and nothing else. -/
theorem assigns_overlap_iff {overlap name value : String} :
    Assigns ("\toverlap = " ++ (Value.ofText overlap).text) name value ↔
      name = "overlap" ∧ value = dropReturns overlap ∧ ¬ Misread overlap := by
  have word : isWord "overlap" = true := by decide
  have clear : ¬ Misread "overlap" := by decide
  have start : "\toverlap = " = "\t" ++ "overlap" ++ " = " := rfl
  have unquoted : ∀ c ∈ "overlap".toList, isUnquotedChar c = true :=
    List.all_eq_true.1 (by decide)
  rw [start, assigns_iff (by decide) unquoted (isTight_text overlap), denotes_text_iff,
    denotes_word_iff word, and_iff_left clear]

/-- The overlap setting of a diagram, whatever it is.  Its line is the last one before the closing
brace.  What it is written as stands for the setting without its carriage returns, and the line is
an assignment of that to the overlap setting, exactly when the setting is not misread; a setting
that is misread is written as no ID and its line is no assignment. -/
theorem Model.overlap_assigns (model : Model) (style : Style) :
    ∃ front id, id = (Value.ofText style.overlap).text ∧
      model.dot style = front ++ "\n" ++ ("\toverlap = " ++ id) ++ "\n\x7d\n" ∧
      (∀ value, Denotes id value ↔ value = dropReturns style.overlap ∧ ¬ Misread style.overlap) ∧
      ∀ name value, Assigns ("\toverlap = " ++ id) name value ↔
        name = "overlap" ∧ value = dropReturns style.overlap ∧ ¬ Misread style.overlap := by
  obtain ⟨front, written⟩ := model.exists_dot_eq style
  exact ⟨front, _, rfl, written, fun value => denotes_text_iff,
    fun name value => assigns_overlap_iff⟩

/-- A keyword and a word that begins with a digit are written as they are and stand for nothing, so
the line of the overlap setting is no assignment. -/
theorem overlap_misread :
    (Value.ofText "2d").text = "2d" ∧ (¬ ∃ value, Denotes "2d" value) ∧
      (Value.ofText "node").text = "node" ∧ (¬ ∃ value, Denotes "node" value) ∧
      (∃ front, (Model.empty "M" "" []).dot { overlap := "node" } =
        front ++ "\n" ++ "\toverlap = node" ++ "\n\x7d\n") ∧
      ¬ ∃ name value, Assigns "\toverlap = node" name value := by
  have none (overlap : String) (misread : Misread overlap) :
      ¬ ∃ value, Denotes (Value.ofText overlap).text value := by
    rintro ⟨value, denotes⟩
    exact (denotes_text_iff.1 denotes).2 misread
  refine ⟨rfl, none "2d" (by decide), rfl, none "node" (by decide),
    (Model.empty "M" "" []).exists_dot_eq _, ?_⟩
  rintro ⟨name, value, assigns⟩
  have line : "\toverlap = node" = "\toverlap = " ++ (Value.ofText "node").text := rfl
  rw [line, assigns_overlap_iff] at assigns
  exact assigns.2.2 (by decide)

end ErSchema
