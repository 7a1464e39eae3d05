import ErSchema.Constraint
import ErSchema.Proofs.Diagram.Node

/-!
# Lines

A text has one line more than line breaks (`length_linesOf`).  So texts that are written one below
the other are the lines of what is written exactly when none of them holds a line break of its own
(`linesOf_writeLines_eq_iff`).

Numbers and names in their normal form hold no line break.  A bound does when it is kept as a text
that holds one.
-/

set_option autoImplicit false

namespace ErSchema

/-- The lines of a text: what stands before, between and behind its line breaks. -/
def linesOf (text : String) : List String :=
  (text.toList.splitOn '\n').map String.ofList

/-- The number of line breaks in a text. -/
def lineBreaks (text : String) : Nat :=
  text.toList.count '\n'

/-- Two texts have their line breaks together. -/
@[simp] theorem lineBreaks_append (first second : String) :
    lineBreaks (first ++ second) = lineBreaks first + lineBreaks second := by
  simp [lineBreaks, String.toList_append, List.count_append]

/-- A text has no line breaks when no newline stands in it. -/
theorem lineBreaks_eq_zero_iff {text : String} : lineBreaks text = 0 ↔ '\n' ∉ text.toList :=
  List.count_eq_zero

/-- A text that is written out as its characters has no line break among others. -/
theorem lineBreaks_ofList {chars : List Char} (none : '\n' ∉ chars) :
    lineBreaks (String.ofList chars) = 0 := by
  rwa [lineBreaks_eq_zero_iff, String.toList_ofList]

/-- A text has one line more than line breaks. -/
theorem length_linesOf (text : String) : (linesOf text).length = lineBreaks text + 1 := by
  unfold linesOf lineBreaks
  rw [List.length_map]
  induction text.toList with
  | nil => simp
  | cons c rest ih =>
    rw [List.splitOn_cons_eq_if_modifyHead, List.count_cons]
    split
    · rw [List.length_cons, ih]
    · rw [List.length_modifyHead, ih]

/-- A line break ends a line, whatever stands before and behind it. -/
theorem linesOf_append_newline (first second : String) :
    linesOf (first ++ "\n" ++ second) = linesOf first ++ linesOf second := by
  have chars : (first ++ "\n" ++ second).toList = first.toList ++ '\n' :: second.toList := by
    simp [String.toList_append]
  unfold linesOf
  rw [chars, List.splitOn_append_cons_self, List.map_append]

/-- A text is its only line exactly when it holds no line break. -/
theorem linesOf_eq_singleton_iff {text : String} : linesOf text = [text] ↔ lineBreaks text = 0 := by
  constructor
  · intro single
    have length := length_linesOf text
    rw [single, List.length_singleton] at length
    omega
  · intro none
    unfold linesOf
    rw [List.splitOn_eq_singleton (lineBreaks_eq_zero_iff.1 none), List.map_singleton,
      String.ofList_toList]

/-! ## Texts one below the other -/

/-- The number of line breaks in texts. -/
def lineBreaksIn (texts : List String) : Nat :=
  lineBreaks (String.join texts)

/-- No texts have no line breaks. -/
@[simp] theorem lineBreaksIn_nil : lineBreaksIn [] = 0 :=
  rfl

/-- The line breaks of texts are counted text by text. -/
@[simp] theorem lineBreaksIn_cons (text : String) (rest : List String) :
    lineBreaksIn (text :: rest) = lineBreaks text + lineBreaksIn rest := by
  rw [lineBreaksIn, String.join_cons, lineBreaks_append]
  rfl

/-- Two lists of texts have their line breaks together. -/
@[simp] theorem lineBreaksIn_append (first second : List String) :
    lineBreaksIn (first ++ second) = lineBreaksIn first + lineBreaksIn second := by
  rw [lineBreaksIn, String.join_append, lineBreaks_append]
  rfl

/-- Texts have no line breaks when none of them has one. -/
theorem lineBreaksIn_eq_zero_iff {texts : List String} :
    lineBreaksIn texts = 0 ↔ ∀ text ∈ texts, lineBreaks text = 0 := by
  induction texts with
  | nil => simp
  | cons text rest ih => rw [lineBreaksIn_cons, Nat.add_eq_zero_iff, ih, List.forall_mem_cons]

/-- Texts that come from the same items are compared item by item. -/
theorem lineBreaksIn_flatMap_congr {α : Type} {items : List α} {first second : α → List String}
    (each : ∀ item ∈ items, lineBreaksIn (first item) = lineBreaksIn (second item)) :
    lineBreaksIn (items.flatMap first) = lineBreaksIn (items.flatMap second) := by
  induction items with
  | nil => rfl
  | cons item rest ih =>
    rw [List.forall_mem_cons] at each
    rw [List.flatMap_cons, List.flatMap_cons, lineBreaksIn_append, lineBreaksIn_append, each.1,
      ih each.2]

/-- Texts one below the other, with a line break behind each of them but the last. -/
def writeLines (texts : List String) (last : String) : String :=
  String.join (texts.map (· ++ "\n")) ++ last

/-- Texts that are written one below the other have the lines of each text, one after the other. -/
theorem linesOf_writeLines (texts : List String) (last : String) :
    linesOf (writeLines texts last) = (texts ++ [last]).flatMap linesOf := by
  induction texts with
  | nil => simp [writeLines, String.join_nil]
  | cons text rest ih =>
    have first : writeLines (text :: rest) last = text ++ "\n" ++ writeLines rest last := by
      simp [writeLines, String.join_cons, String.append_assoc]
    rw [first, linesOf_append_newline, ih, List.cons_append, List.flatMap_cons]

/-- Texts have a line each, and one more for each line break in them. -/
theorem length_flatMap_linesOf (texts : List String) :
    (texts.flatMap linesOf).length = texts.length + lineBreaksIn texts := by
  induction texts with
  | nil => rfl
  | cons text rest ih =>
    rw [List.flatMap_cons, List.length_append, length_linesOf, ih, List.length_cons,
      lineBreaksIn_cons]
    omega

/-- Texts one below the other are the lines of what is written exactly when none of them holds a
line break. -/
theorem linesOf_writeLines_eq_iff {texts : List String} {last : String} :
    linesOf (writeLines texts last) = texts ++ [last] ↔
      lineBreaksIn (texts ++ [last]) = 0 := by
  rw [linesOf_writeLines]
  generalize texts ++ [last] = all
  constructor
  · intro same
    -- as many lines as texts leave no line break over
    have length := length_flatMap_linesOf all
    rw [same] at length
    omega
  · intro none
    have single : ∀ text ∈ all, linesOf text = [text] :=
      fun text mem => linesOf_eq_singleton_iff.2 (lineBreaksIn_eq_zero_iff.1 none text mem)
    rw [List.flatMap_congr single, List.flatMap_singleton']

/-! ## Numbers, names and bounds -/

/-- A natural number is written in one line. -/
theorem lineBreaks_toString_nat (number : Nat) : lineBreaks (toString number) = 0 :=
  lineBreaks_eq_zero_iff.2 (DiagramNode.notMem_toString (by decide) number)

/-- So is an integer, whose sign is no line break either. -/
theorem lineBreaks_toString_int (number : Int) : lineBreaks (toString number) = 0 := by
  cases number with
  | ofNat magnitude => exact lineBreaks_toString_nat magnitude
  | negSucc magnitude =>
    show lineBreaks ("-" ++ toString (magnitude + 1)) = 0
    rw [lineBreaks_append, lineBreaks_toString_nat]
    rfl

/-- The name of an entity is one line, whatever text it is made of. -/
theorem lineBreaks_ofEntity (text : String) : lineBreaks (Name.ofEntity text) = 0 :=
  lineBreaks_eq_zero_iff.2 (Name.notMem_ofEntity Unicode.unreached_newline (by decide) text)

/-- The name of an attribute is one line, whatever text it is made of. -/
theorem lineBreaks_ofAttribute (text : String) : lineBreaks (Name.ofAttribute text) = 0 :=
  lineBreaks_eq_zero_iff.2 (Name.notMem_ofAttribute Unicode.unreached_newline (by decide) text)

/-- The text that a bound is kept as, when it is neither a number nor the absence of a bound. -/
def Bound.declared? : Bound → Option String
  | .other text => some text
  | _ => none

/-- A bound brings line breaks only with the text that it is kept as. -/
theorem Bound.lineBreaks_text (bound : Bound) :
    lineBreaks bound.text = lineBreaksIn bound.declared?.toList := by
  cases bound with
  | count value => exact lineBreaks_toString_int value
  | many => rfl
  | other text => rfl

/-- Commas between texts add no line breaks. -/
theorem lineBreaks_intercalate (texts : List String) :
    lineBreaks (String.intercalate "," texts) = lineBreaksIn texts := by
  induction texts with
  | nil => rfl
  | cons first rest ih =>
    cases rest with
    | nil => simp [String.intercalate_singleton]
    | cons second rest =>
      have comma : lineBreaks "," = 0 := lineBreaks_ofList (by decide)
      rw [String.intercalate_cons_cons, lineBreaks_append, lineBreaks_append, ih, comma,
        Nat.add_zero, ← lineBreaksIn_cons]

/-- The line breaks of a constraint are those of the texts that its bounds are kept as. -/
theorem StructuralConstraint.lineBreaks_text (constraint : StructuralConstraint) :
    lineBreaks constraint.text = lineBreaksIn (constraint.bounds.filterMap Bound.declared?) := by
  have opening : lineBreaks "(" = 0 := lineBreaks_ofList (by decide)
  have closing : lineBreaks ")" = 0 := lineBreaks_ofList (by decide)
  have bounds : lineBreaksIn (constraint.bounds.map Bound.text) =
      lineBreaksIn (constraint.bounds.filterMap Bound.declared?) := by
    rw [List.map_eq_flatMap, List.filterMap_eq_flatMap_toList]
    apply lineBreaksIn_flatMap_congr
    intro bound mem
    rw [lineBreaksIn_cons, lineBreaksIn_nil, Nat.add_zero, bound.lineBreaks_text]
  rw [text, lineBreaks_append, lineBreaks_append, opening, closing, lineBreaks_intercalate, bounds,
    Nat.zero_add, Nat.add_zero]

end ErSchema
