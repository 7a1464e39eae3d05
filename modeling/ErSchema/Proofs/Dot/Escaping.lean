import ErSchema.Proofs.Dot.Scanner
import Mathlib.Data.List.Basic
import Mathlib.Data.Set.Function

/-!
# Escaped texts

What stands between the quotes of a written text can be read in two ways.  A reader that only wants
to know where the text ends goes to the first quote that no backslash before it has taken
(`closing?`), and need not know the escapes.  A reader of the text itself undoes the escapes, and
knows three of them (`unescape?`).

Escaping goes through the text by single characters, and the readers through the result by one or
two.  So what each of them does is first said of the escaped form of one character with anything
behind it: the first reader passes over it as a whole, and the second reads the character, or
nothing when it is a carriage return.  Whole texts follow by induction.
-/

set_option autoImplicit false

namespace ErSchema.Dot

/-! ## The two readers -/

/-- What stands before the first quote that no backslash has taken, and what stands behind it.  A
backslash always takes the next character with it. -/
def closing? : List Char → Option (List Char × List Char)
  | [] => none
  | '"' :: rest => some ([], rest)
  | '\\' :: c :: rest => (closing? rest).map fun (inside, behind) => ('\\' :: c :: inside, behind)
  | c :: rest => (closing? rest).map fun (inside, behind) => (c :: inside, behind)

/-- A text whose escapes are undone.  There are three, and a backslash begins nothing else. -/
def unescape? : List Char → Option (List Char)
  | [] => some []
  | '\\' :: '"' :: rest => (unescape? rest).map ('"' :: ·)
  | '\\' :: '\\' :: rest => (unescape? rest).map ('\\' :: ·)
  | '\\' :: 'n' :: rest => (unescape? rest).map ('\n' :: ·)
  | c :: rest => if c = '\\' then none else (unescape? rest).map (c :: ·)

/-- The search for the end passes over a character that is neither a quote nor a backslash. -/
theorem closing?_cons {c : Char} (noQuote : c ≠ '"') (noBackslash : c ≠ '\\') (rest : List Char) :
    closing? (c :: rest) =
      (closing? rest).map fun (inside, behind) => (c :: inside, behind) := by
  rw [closing?]
  · exact noQuote
  · rintro _ _ rfl
    exact absurd rfl noBackslash

/-- A character that is no backslash stands for itself. -/
theorem unescape?_cons {c : Char} (noBackslash : c ≠ '\\') (rest : List Char) :
    unescape? (c :: rest) = (unescape? rest).map (c :: ·) := by
  rw [unescape?, if_neg noBackslash]
  all_goals
    rintro _ rfl
    exact absurd rfl noBackslash

/-! ## One character -/

/-- The characters with their escaped forms. -/
inductive Escaped : Char → List Char → Prop
  | quote : Escaped '"' ['\\', '"']
  | backslash : Escaped '\\' ['\\', '\\']
  | newline : Escaped '\n' ['\\', 'n']
  | dropped : Escaped '\r' []
  | kept {c : Char} (noQuote : c ≠ '"') (noBackslash : c ≠ '\\') (noNewline : c ≠ '\n')
      (noReturn : c ≠ '\r') : Escaped c [c]

/-- Every character is written in its escaped form. -/
theorem escaped_escapeChar (c : Char) : Escaped c (escapeChar c) := by
  unfold escapeChar
  split
  · next quote => exact quote ▸ .quote
  split
  · next backslash => exact backslash ▸ .backslash
  split
  · next newline => exact newline ▸ .newline
  split
  · next dropped => exact dropped ▸ .dropped
  · exact .kept ‹_› ‹_› ‹_› ‹_›

variable {c : Char} {form : List Char} (escaped : Escaped c form)

include escaped

/-- The end of a text does not lie in the escaped form of a character. -/
theorem Escaped.closing?_append (rest : List Char) :
    closing? (form ++ rest) =
      (closing? rest).map fun (inside, behind) => (form ++ inside, behind) := by
  cases escaped with
  | quote | backslash | newline => rfl
  | dropped => simp
  | kept noQuote noBackslash _ _ => exact closing?_cons noQuote noBackslash rest

/-- The escaped form of a character is undone as that character, and that of a carriage return as
nothing. -/
theorem Escaped.unescape?_append (rest : List Char) :
    unescape? (form ++ rest) = (unescape? rest).map ([c].filter (· ≠ '\r') ++ ·) := by
  cases escaped with
  | quote | backslash | newline => rfl
  | dropped => simp
  | kept _ noBackslash _ noReturn => simpa [noReturn] using unescape?_cons noBackslash rest

/-- No escaped form holds a newline. -/
theorem Escaped.newline_notMem : '\n' ∉ form := by
  cases escaped with
  | quote | backslash | newline | dropped => decide
  | kept _ _ noNewline _ => simpa using noNewline.symm

omit escaped

/-! ## Whole texts -/

/-- A text is escaped character by character. -/
theorem toList_escape (text : String) : (escape text).toList = text.toList.flatMap escapeChar :=
  String.toList_ofList

/-- The first quote that no backslash has taken is the one that is put behind an escaped text. -/
theorem closing?_escape (text : String) (rest : List Char) :
    closing? ((escape text).toList ++ '"' :: rest) = some ((escape text).toList, rest) := by
  rw [toList_escape]
  induction text.toList with
  | nil => rfl
  | cons c more ih =>
    rw [List.flatMap_cons, List.append_assoc, (escaped_escapeChar c).closing?_append, ih,
      Option.map_some]

/-- With its escapes undone an escaped text is the text without its carriage returns. -/
theorem unescape?_escape (text : String) :
    unescape? (escape text).toList = some (dropReturns text).toList := by
  rw [toList_escape, dropReturns, String.toList_ofList]
  induction text.toList with
  | nil => rfl
  | cons c more ih =>
    rw [List.flatMap_cons, (escaped_escapeChar c).unescape?_append, ih, Option.map_some,
      ← List.filter_append, List.singleton_append]

/-- No newline is left in an escaped text. -/
theorem newline_notMem_escape (text : String) : '\n' ∉ (escape text).toList := by
  rw [toList_escape, List.mem_flatMap]
  rintro ⟨c, -, mem⟩
  exact (escaped_escapeChar c).newline_notMem mem

/-- A text without the characters that escaping changes stays as it is. -/
theorem escape_eq_self {text : String}
    (plain : ∀ c ∈ ['"', '\\', '\n', '\r'], c ∉ text.toList) : escape text = text := by
  have each : ∀ c ∈ text.toList, escapeChar c = [c] := by
    intro c mem
    have escaped := escaped_escapeChar c
    generalize escapeChar c = form at escaped
    cases escaped with
    | quote => exact absurd mem (plain _ (by decide))
    | backslash => exact absurd mem (plain _ (by decide))
    | newline => exact absurd mem (plain _ (by decide))
    | dropped => exact absurd mem (plain _ (by decide))
    | kept => rfl
  rw [← String.toList_inj, toList_escape, List.flatMap_congr each, List.flatMap_singleton']

/-- Carriage returns leave no trace. -/
theorem escape_dropReturns (text : String) : escape (dropReturns text) = escape text := by
  rw [← String.toList_inj, toList_escape, toList_escape, dropReturns, String.toList_ofList]
  induction text.toList with
  | nil => rfl
  | cons c more ih =>
    by_cases dropped : c = '\r'
    · subst dropped
      exact ih
    · rw [List.filter_cons_of_pos (by simpa using dropped), List.flatMap_cons, ih,
        List.flatMap_cons]

/-- Two texts are escaped alike when they differ in carriage returns alone. -/
theorem escape_eq_escape_iff {first second : String} :
    escape first = escape second ↔ dropReturns first = dropReturns second := by
  constructor
  · intro same
    have read := unescape?_escape first
    rw [same, unescape?_escape second] at read
    exact String.toList_injective (Option.some.inj read).symm
  · intro same
    rw [← escape_dropReturns first, same, escape_dropReturns second]

/-- A text with its quotes is complete, whatever follows it: behind the first quote, the first quote
that no backslash has taken is its last character, and no line ends before it.  Every backslash
between the quotes begins an escape, and with the escapes undone the text is there without its
carriage returns.  So escaping confuses only texts that differ in carriage returns. -/
theorem quote_complete (text : String) :
    (∃ inside, (quote text).toList = '"' :: inside ∧
      ∀ rest, closing? (inside ++ rest) = some ((escape text).toList, rest)) ∧
    '\n' ∉ (quote text).toList ∧
    unescape? (escape text).toList = some (dropReturns text).toList ∧
    (∀ other, escape text = escape other ↔ dropReturns text = dropReturns other) ∧
    Set.InjOn escape {text | '\r' ∉ text.toList} := by
  have written : (quote text).toList = '"' :: ((escape text).toList ++ ['"']) := by
    simp [quote, String.toList_append]
  refine ⟨⟨_, written, fun rest => ?_⟩, ?_, unescape?_escape text,
    fun _ => escape_eq_escape_iff, ?_⟩
  · rw [List.append_assoc]
    exact closing?_escape text rest
  · rw [written]
    simpa using newline_notMem_escape text
  · intro first noReturn second noReturn' same
    rw [← dropReturns_eq_self noReturn, escape_eq_escape_iff.1 same,
      dropReturns_eq_self noReturn']

end ErSchema.Dot
