import ErSchema.Proofs.Name.Settled

/-!
# The words of an attribute name

The name of an attribute can be told from the words of its text.  What a name drops is taken away
first, and what is left is cut at each separator, so that words may be empty.  Each word gets its
capital, and underscores join them again.

A name can also be written from left to right, one character after the other, with a look at the end
of what has been written so far: a word begins where nothing has been written, or an underscore
last.  That this is the same comes from two facts about letters.  Their forms are never empty and
never end with an underscore, so what has been written shows whether a word begins.
-/

set_option autoImplicit false

namespace ErSchema.Name

open Unicode

/-! ## Words -/

/-- The words of a text, some of which may be empty. -/
def words (text : String) : List (List Char) :=
  (text.toList.filter isKept).splitOnP isSeparator

/-- A word as it stands in the name of an attribute: its first letter in upper case and all later
ones in lower case. -/
def capitalize : List Char → List Char
  | [] => []
  | first :: rest => upper first ++ rest.flatMap lower

/-- A word, or what is left of it when its first letter came before. -/
def wordForm (atStart : Bool) (word : List Char) : List Char :=
  if atStart then capitalize word else word.flatMap lower

/-- An empty word stays empty. -/
theorem wordForm_nil (atStart : Bool) : wordForm atStart [] = [] := by
  cases atStart <;> rfl

/-- A word is written letter by letter, and only its first letter may be a capital. -/
theorem wordForm_cons (atStart : Bool) (c : Char) (word : List Char) :
    wordForm atStart (c :: word) = letterForm atStart c ++ wordForm false word := by
  cases atStart <;> rfl

/-- What is put in front of the first text comes first. -/
theorem intercalate_append_cons {α : Type} (between first second : List α) (more : List (List α)) :
    between.intercalate ((first ++ second) :: more) =
      first ++ between.intercalate (second :: more) := by
  cases more with
  | nil => simp [List.intercalate_singleton]
  | cons next more => simp [List.intercalate_cons_cons]

/-- The words of a text, the first of which may have begun before it, make up the name. -/
theorem attributeChars_eq_intercalate {atStart : Bool} {text word : List Char}
    {more : List (List Char)} (cut : (text.filter isKept).splitOnP isSeparator = word :: more) :
    attributeChars atStart text =
      ['_'].intercalate (wordForm atStart word :: more.map capitalize) := by
  induction text generalizing atStart word more with
  | nil =>
    rw [List.filter_nil, List.splitOnP_nil] at cut
    cases cut
    rw [wordForm_nil]
    rfl
  | cons c rest ih =>
    obtain ⟨next, later, cutRest⟩ :=
      List.exists_cons_of_ne_nil (List.splitOnP_ne_nil isSeparator (rest.filter isKept))
    rw [attributeChars_cons, ih cutRest, attributeChar, startsAfter]
    by_cases letter : isAlphanumeric c = true
    · -- a letter goes in front of the first word
      have joined := isSeparator_eq_false_of_letter letter
      have kept : isKept c = true := by rw [isKept, letter, Bool.true_or]
      rw [List.filter_cons_of_pos kept, List.splitOnP_cons_eq_if_modifyHead, joined, cutRest] at cut
      cases cut
      rw [if_pos letter, if_pos kept, joined, wordForm_cons, intercalate_append_cons]
    · rw [if_neg letter]
      by_cases separator : isSeparator c = true
      · -- a separator ends an empty word and begins another
        have kept : isKept c = true := by rw [isKept, separator, Bool.or_true]
        rw [List.filter_cons_of_pos kept, List.splitOnP_cons_eq_if_modifyHead, if_pos separator,
          cutRest] at cut
        cases cut
        rw [if_pos separator, if_pos kept, separator, wordForm_nil, List.map_cons,
          List.intercalate_cons_cons]
        rfl
      · have dropped : ¬ isKept c = true := by simp [isKept, letter, separator]
        rw [List.filter_cons_of_neg dropped, cutRest] at cut
        cases cut
        rw [if_neg separator, if_neg dropped, List.nil_append]

/-- The name of an attribute begins with a word. -/
theorem toList_ofAttribute (text : String) :
    (ofAttribute text).toList = attributeChars true text.toList :=
  String.toList_ofList

/-- The words of a text, each with its capital, are joined by underscores. -/
theorem toList_ofAttribute_eq_intercalate (text : String) :
    (ofAttribute text).toList = ['_'].intercalate ((words text).map capitalize) := by
  obtain ⟨word, more, cut⟩ := List.exists_cons_of_ne_nil
    (List.splitOnP_ne_nil isSeparator (text.toList.filter isKept))
  rw [toList_ofAttribute, attributeChars_eq_intercalate cut, words, cut]
  rfl

/-- What a name drops is not missed. -/
theorem ofAttribute_filter (text : String) :
    ofAttribute (String.ofList (text.toList.filter isKept)) = ofAttribute text := by
  have same : words (String.ofList (text.toList.filter isKept)) = words text := by
    rw [words, String.toList_ofList, List.filter_filter]
    simp only [Bool.and_self]
    rfl
  rw [← String.toList_inj, toList_ofAttribute_eq_intercalate, toList_ofAttribute_eq_intercalate,
    same]

/-! ## Underscores -/

/-- The form of a letter holds no underscore. -/
theorem underscore_notMem_letterForm {begins : Bool} {c : Char} (letter : isAlphanumeric c = true) :
    '_' ∉ letterForm begins c := by
  cases begins with
  | true => exact unreached_underscore.notMem_upper letter
  | false => exact unreached_underscore.notMem_lower letter

/-- The form of a letter is not empty. -/
theorem letterForm_ne_nil (begins : Bool) (c : Char) : letterForm begins c ≠ [] := by
  cases begins with
  | true => exact upper_ne_nil c
  | false => exact lower_ne_nil c

/-- Only a separator brings an underscore, and it brings one. -/
theorem count_underscore_attributeChar (atStart : Bool) (c : Char) :
    (attributeChar atStart c).count '_' = if isSeparator c then 1 else 0 := by
  unfold attributeChar
  by_cases letter : isAlphanumeric c = true
  · rw [if_pos letter, List.count_eq_zero_of_not_mem (underscore_notMem_letterForm letter),
      isSeparator_eq_false_of_letter letter]
    rfl
  · rw [if_neg letter]
    split <;> simp

/-- A name has an underscore for each separator of the text, wherever the text starts. -/
theorem count_underscore_attributeChars (atStart : Bool) (text : List Char) :
    (attributeChars atStart text).count '_' = text.countP isSeparator := by
  induction text generalizing atStart with
  | nil => rfl
  | cons c rest ih =>
    rw [attributeChars_cons, List.count_append, count_underscore_attributeChar, ih,
      List.countP_cons, Nat.add_comm]

/-! ## Writing from left to right -/

/-- Whether a word begins behind what has been written of a name. -/
def EndsOpen (written : List Char) : Prop :=
  written = [] ∨ written.getLast? = some '_'

instance : DecidablePred EndsOpen := fun written =>
  inferInstanceAs (Decidable (written = [] ∨ written.getLast? = some '_'))

/-- A name with what the next character brings. -/
def writeChar (written : List Char) (c : Char) : List Char :=
  if isAlphanumeric c then written ++ (if EndsOpen written then upper c else lower c)
  else if isSeparator c then written ++ ['_']
  else written

/-- A character is put behind what has been written in the form that the end of it asks for. -/
theorem writeChar_eq (written : List Char) (c : Char) :
    writeChar written c = written ++ attributeChar (decide (EndsOpen written)) c := by
  simp only [writeChar, attributeChar, letterForm, decide_eq_true_eq]
  split
  · rfl
  · split <;> simp

/-- Whether a word begins is seen from the last character that was written. -/
theorem endsOpen_append_iff {written more : List Char} (nonempty : more ≠ []) :
    EndsOpen (written ++ more) ↔ more.getLast? = some '_' := by
  rw [EndsOpen, List.getLast?_append_of_ne_nil _ nonempty, List.append_eq_nil_iff]
  exact or_iff_right fun both => nonempty both.2

/-- Whether a word begins is seen as well from what has been written as from the text. -/
theorem endsOpen_writeChar (written : List Char) (c : Char) :
    decide (EndsOpen (writeChar written c)) = startsAfter (decide (EndsOpen written)) c := by
  rw [writeChar_eq, attributeChar, startsAfter]
  by_cases letter : isAlphanumeric c = true
  · have joined := isSeparator_eq_false_of_letter letter
    have kept : isKept c = true := by rw [isKept, letter, Bool.true_or]
    rw [if_pos letter, if_pos kept, joined, decide_eq_false_iff_not,
      endsOpen_append_iff (letterForm_ne_nil _ c)]
    exact fun last => underscore_notMem_letterForm letter (List.mem_of_getLast? last)
  · rw [if_neg letter]
    by_cases separator : isSeparator c = true
    · have kept : isKept c = true := by rw [isKept, separator, Bool.or_true]
      rw [if_pos separator, if_pos kept, separator, decide_eq_true_eq,
        endsOpen_append_iff (List.cons_ne_nil _ _)]
      rfl
    · have dropped : ¬ isKept c = true := by simp [isKept, letter, separator]
      rw [if_neg separator, if_neg dropped, List.append_nil]

/-- Writing a text behind what has been written adds its characters in their forms. -/
theorem foldl_writeChar (written text : List Char) :
    text.foldl writeChar written =
      written ++ attributeChars (decide (EndsOpen written)) text := by
  induction text generalizing written with
  | nil => simp [attributeChars]
  | cons c rest ih =>
    rw [List.foldl_cons, ih, endsOpen_writeChar, writeChar_eq, attributeChars_cons,
      List.append_assoc]

/-- The name of an attribute is made of the words of its text, each with its capital, joined by
underscores; and it is what is written when each character is put behind the name so far and the end
of that name tells whether a word begins.  It has one underscore for each separator, and a dropped
character makes no difference to it wherever it stands. -/
theorem ofAttribute_wordwise (text : String) :
    (ofAttribute text).toList = ['_'].intercalate ((words text).map capitalize) ∧
    (ofAttribute text).toList = text.toList.foldl writeChar [] ∧
    (ofAttribute text).toList.count '_' = text.toList.countP isSeparator ∧
    ofAttribute (String.ofList (text.toList.filter isKept)) = ofAttribute text := by
  refine ⟨toList_ofAttribute_eq_intercalate text, ?_, ?_, ofAttribute_filter text⟩
  · rw [toList_ofAttribute, foldl_writeChar]
    rfl
  · rw [toList_ofAttribute, count_underscore_attributeChars]

end ErSchema.Name
