import ErSchema.Proofs.Diagram.Links
import ErSchema.Proofs.Dot.Escaping
import ErSchema.Proofs.Validation.ValidLinks
import Mathlib

/-!
# The labels of links

The bounds of a constraint are looked at in three places: the check tells whether they are a pair of
a minimum and a maximum and which pair, the text of the constraint lists them, and a diagram has
this text as the label of an edge.  Here the three are tied together.

`Spells` says which pair bounds mean, with integers of either sign.  A pair can be read back from its
text (`pair?`), because decimal digits hold no comma and are not the mark of an unbounded maximum.
So labels tell pairs apart, as long as the bounds are pairs: other bounds may have the same text.
What is wrong with other bounds is said defect by defect (`Applies`), and the check reports the
first defect that applies.

Mathlib is imported whole because no narrower module of it makes `Nat.toNat?_repr` available, the
lemma that reads decimal digits back.
-/

set_option autoImplicit false

namespace ErSchema

open Dot

/-! ## Reading a maximum -/

/-- The maximum that a text stands for. -/
def Cardinality.ofText? (text : String) : Option Cardinality :=
  if text = manyText then some .many else text.toNat?.map .bounded

/-- Digits are not the mark of an unbounded maximum. -/
theorem Cardinality.ofText?_text (maximum : Cardinality) : ofText? maximum.text = some maximum := by
  cases maximum with
  | many => rfl
  | bounded count =>
    have digits : toString count ≠ manyText := by
      intro same
      have absent := DiagramNode.notMem_toString (c := 'N') (by decide) count
      rw [same] at absent
      exact absent (by decide)
    rw [text, ofText?, if_neg digits, Nat.toString_eq_repr, Nat.toNat?_repr]
    rfl

/-- A minimum or a maximum holds only digits or the mark of an unbounded maximum. -/
theorem Cardinality.notMem_text {c : Char} (noDigit : c.isDigit = false) (noMark : c ≠ 'N')
    (maximum : Cardinality) : c ∉ maximum.text.toList := by
  cases maximum with
  | many => simpa [text, manyText] using noMark
  | bounded count => exact DiagramNode.notMem_toString noDigit count

namespace StructuralConstraint

variable {constraint : StructuralConstraint} {lower : Nat} {upper : Cardinality}

/-! ## Pairs -/

/-- The minimum and the maximum that bounds spell: integers from zero up, or no maximum. -/
inductive Spells : List Bound → Nat → Cardinality → Prop
  | bounded {least most : Int} (atLeast : 0 ≤ least) (atMost : 0 ≤ most) :
      Spells [.count least, .count most] least.toNat (.bounded most.toNat)
  | many {least : Int} (atLeast : 0 ≤ least) : Spells [.count least, .many] least.toNat .many

/-- The check accepts exactly the bounds that spell a pair, and answers with this pair. -/
theorem check_eq_ok_iff_spells :
    constraint.check = .ok (lower, upper) ↔ Spells constraint.bounds lower upper := by
  rw [check_eq_ok_iff]
  constructor
  · rintro (⟨pair, rfl⟩ | ⟨count, pair, rfl⟩)
    · rw [pair]
      exact .many (Int.natCast_nonneg lower)
    · rw [pair]
      exact .bounded (Int.natCast_nonneg lower) (Int.natCast_nonneg count)
  · intro spells
    generalize constraint.bounds = bounds at spells ⊢
    cases spells with
    | bounded atLeast atMost =>
      exact .inr ⟨_, by rw [Int.toNat_of_nonneg atLeast, Int.toNat_of_nonneg atMost], rfl⟩
    | many atLeast => exact .inl ⟨by rw [Int.toNat_of_nonneg atLeast], rfl⟩

/-! ## Defects -/

/-- Whether there is a bound and it is an integer from zero up. -/
def IsCount (bound : Option Bound) : Prop :=
  ∃ value : Int, 0 ≤ value ∧ bound = some (.count value)

/-- A bound is an integer from zero up when it is counted. -/
theorem isCount_some_iff {bound : Bound} : IsCount (some bound) ↔ bound.asCount.isSome := by
  rw [Option.isSome_iff_exists]
  constructor
  · rintro ⟨value, nonneg, same⟩
    obtain ⟨number, rfl⟩ := Int.eq_ofNat_of_zero_le nonneg
    exact ⟨number, Bound.asCount_eq_some_iff.2 (Option.some.inj same)⟩
  · rintro ⟨number, counted⟩
    exact ⟨number, Int.natCast_nonneg number,
      congrArg some (Bound.asCount_eq_some_iff.1 counted)⟩

namespace Defect

/-- Whether bounds have a defect, whatever other defects they have. -/
def Applies (constraint : StructuralConstraint) : Defect → Prop
  | .arity found => constraint.bounds.length = found ∧ found ≠ 2
  | .minimum => ¬ IsCount constraint.minimum?
  | .maximum => ¬ (IsCount constraint.maximum? ∨ constraint.maximum? = some .many)

/-- The place of a defect in the order in which defects are looked for. -/
def rank : Defect → Nat
  | .arity _ => 0
  | .minimum => 1
  | .maximum => 2

/-- Whether a defect applies and none before it does. -/
structure IsFirst (constraint : StructuralConstraint) (defect : Defect) : Prop where
  applies : defect.Applies constraint
  earliest : ∀ earlier : Defect, earlier.rank < defect.rank → ¬ earlier.Applies constraint

/-- Only one defect is the first. -/
theorem IsFirst.unique {first second : Defect} (isFirst : first.IsFirst constraint)
    (isFirst' : second.IsFirst constraint) : first = second := by
  have same : first.rank = second.rank := by
    rcases Nat.lt_trichotomy first.rank second.rank with before | same | behind
    · exact absurd isFirst.applies (isFirst'.earliest first before)
    · exact same
    · exact absurd isFirst'.applies (isFirst.earliest second behind)
  cases first <;> cases second <;> cases same
  · rw [← isFirst.applies.1, ← isFirst'.applies.1]
  · rfl
  · rfl

/-- A wrong number of bounds comes before all other defects. -/
theorem isFirst_arity (other : constraint.bounds.length ≠ 2) :
    (arity constraint.bounds.length).IsFirst constraint where
  applies := ⟨rfl, other⟩
  earliest _ before := absurd before (Nat.not_lt_zero _)

section Two

variable {least most : Bound} (pair : constraint.bounds = [least, most])

include pair

/-- Two bounds are not too few or too many. -/
theorem not_applies_arity (found : Nat) : ¬ (arity found).Applies constraint := by
  rintro ⟨length, other⟩
  exact other (by rw [← length, pair]; rfl)

/-- The minimum of two bounds is wrong when the first is not counted. -/
theorem applies_minimum_iff : minimum.Applies constraint ↔ least.asCount = none := by
  have first : constraint.minimum? = some least := by rw [minimum?, pair]; rfl
  rw [Applies, first, isCount_some_iff, Option.not_isSome_iff_eq_none]

/-- The maximum of two bounds is wrong when the second is not counted and not the mark of an
unbounded one. -/
theorem applies_maximum_iff :
    maximum.Applies constraint ↔ most.asCount = none ∧ most ≠ .many := by
  have second : constraint.maximum? = some most := by rw [maximum?, pair]; rfl
  rw [Applies, second, isCount_some_iff, not_or, Option.not_isSome_iff_eq_none, Ne,
    Option.some_inj]

/-- Of two bounds a wrong minimum comes first. -/
theorem isFirst_minimum (uncounted : least.asCount = none) : minimum.IsFirst constraint where
  applies := (applies_minimum_iff pair).2 uncounted
  earliest
    | arity found, _ => not_applies_arity pair found
    | minimum, before => absurd before (by decide)
    | maximum, before => absurd before (by decide)

/-- A wrong maximum comes first when the minimum is in order. -/
theorem isFirst_maximum (counted : least.asCount ≠ none) (uncounted : most.asCount = none)
    (bounded : most ≠ .many) : maximum.IsFirst constraint where
  applies := (applies_maximum_iff pair).2 ⟨uncounted, bounded⟩
  earliest
    | arity found, _ => not_applies_arity pair found
    | minimum, _ => mt (applies_minimum_iff pair).1 counted
    | maximum, before => absurd before (by decide)

end Two

end Defect

/-- No defect applies to bounds that spell a pair. -/
theorem not_applies_of_check (checked : constraint.check = .ok (lower, upper)) (defect : Defect) :
    ¬ defect.Applies constraint := by
  obtain ⟨most, pair, either⟩ : ∃ most, constraint.bounds = [.count lower, most] ∧
      (most = .many ∨ ∃ count : Nat, most = .count count) := by
    rcases check_eq_ok_iff.1 checked with ⟨pair, -⟩ | ⟨count, pair, -⟩
    · exact ⟨_, pair, .inl rfl⟩
    · exact ⟨_, pair, .inr ⟨count, rfl⟩⟩
  cases defect with
  | arity found => exact Defect.not_applies_arity pair found
  | minimum =>
    rw [Defect.applies_minimum_iff pair, Bound.asCount_eq_some_iff.2 rfl]
    exact Option.some_ne_none lower
  | maximum =>
    rw [Defect.applies_maximum_iff pair]
    rintro ⟨uncounted, bounded⟩
    rcases either with rfl | ⟨count, rfl⟩
    · exact bounded rfl
    · rw [Bound.asCount_eq_some_iff.2 rfl] at uncounted
      cases uncounted

/-- What the check reports is the first defect. -/
theorem isFirst_of_check {defect : Defect} (checked : constraint.check = .error defect) :
    defect.IsFirst constraint := by
  unfold check at checked
  split at checked
  case h_2 bounds other =>
    cases checked
    refine Defect.isFirst_arity fun two => ?_
    obtain ⟨least, most, pair⟩ := List.length_eq_two.1 two
    exact other least most pair
  case h_1 least most pair =>
    cases counted : least.asCount with
    | none =>
      rw [counted] at checked
      cases checked
      exact Defect.isFirst_minimum pair counted
    | some number =>
      rw [counted] at checked
      have isFirst := Defect.isFirst_maximum pair (by simp [counted])
      cases most with
      | many => cases checked
      | other text =>
        cases checked
        exact isFirst rfl Bound.noConfusion
      | count value =>
        cases value with
        | ofNat count => cases checked
        | negSucc count =>
          cases checked
          exact isFirst rfl Bound.noConfusion

/-- The check reports the first defect. -/
theorem check_eq_error_iff {defect : Defect} :
    constraint.check = .error defect ↔ defect.IsFirst constraint := by
  constructor
  · exact isFirst_of_check
  · intro isFirst
    cases checked : constraint.check with
    | ok pair => exact absurd isFirst.applies (not_applies_of_check checked defect)
    | error other => rw [(isFirst_of_check checked).unique isFirst]

/-! ## Reading a pair -/

/-- The pair that a text stands for: a minimum and a maximum in parentheses, with a comma between
them. -/
def pair? (text : String) : Option (Nat × Cardinality) :=
  match text.toList with
  | '(' :: rest =>
    match rest.splitOn ',' with
    | [least, most] =>
      if most.getLast? = some ')' then do
        let minimum ← (String.ofList least).toNat?
        let maximum ← Cardinality.ofText? (String.ofList most.dropLast)
        return (minimum, maximum)
      else
        none
    | _ => none
  | _ => none

/-- A pair is read back from its text. -/
theorem pair?_text (minimum : Nat) (maximum : Cardinality) :
    pair? ("(" ++ toString minimum ++ "," ++ maximum.text ++ ")") = some (minimum, maximum) := by
  have noComma := DiagramNode.notMem_toString (c := ',') (by decide) minimum
  have noComma' := maximum.notMem_text (c := ',') (by decide) (by decide)
  have written : ("(" ++ toString minimum ++ "," ++ maximum.text ++ ")").toList =
      '(' :: ((toString minimum).toList ++ ',' :: (maximum.text.toList ++ [')'])) := by
    simp [String.toList_append]
  have cut : ((toString minimum).toList ++ ',' :: (maximum.text.toList ++ [')'])).splitOn ',' =
      [(toString minimum).toList, maximum.text.toList ++ [')']] := by
    rw [List.splitOn_append_cons_self, List.splitOn_eq_singleton noComma,
      List.splitOn_eq_singleton (by simpa using noComma')]
    rfl
  rw [pair?, written]
  simp only [cut]
  rw [if_pos (by simp), List.dropLast_concat, String.ofList_toList, String.ofList_toList,
    Cardinality.ofText?_text, Nat.toString_eq_repr, Nat.toNat?_repr]
  rfl

/-- The text of a pair holds digits, the mark of an unbounded maximum and its own signs alone. -/
theorem notMem_text_of_check (checked : constraint.check = .ok (lower, upper)) {c : Char}
    (noDigit : c.isDigit = false) (other : c ∉ ['N', '(', ',', ')']) :
    c ∉ constraint.text.toList := by
  simp only [List.mem_cons, List.not_mem_nil, or_false, not_or] at other
  obtain ⟨noMark, noSign⟩ := other
  have absent := DiagramNode.notMem_toString noDigit lower
  have absent' := upper.notMem_text noDigit noMark
  rw [text_of_check checked]
  generalize toString lower = least at absent ⊢
  simp [String.toList_append, noSign, absent, absent']

/-- The text of a pair needs no escapes. -/
theorem quote_text_of_check (checked : constraint.check = .ok (lower, upper)) :
    quote constraint.text = "\"" ++ constraint.text ++ "\"" := by
  have absent {c : Char} := notMem_text_of_check checked (c := c)
  have plain : ∀ c ∈ ['"', '\\', '\n', '\r'], c ∉ constraint.text.toList := by
    simp only [List.forall_mem_cons]
    exact ⟨absent rfl (by decide), absent rfl (by decide), absent rfl (by decide),
      absent rfl (by decide), List.forall_mem_nil _⟩
  rw [quote, escape_eq_self plain]

end StructuralConstraint

/-! ## Labels -/

/-- The label of the edge of a link as it is written, if there is an edge and it has one. -/
def Diagram.writtenLabel? (model : Model) (relationship : String) (link : Link) : Option String :=
  match Diagram.linkStatement? model relationship link with
  | some (.edge _ _ settings) =>
    (settings.find? (·.name = "label")).map fun setting => setting.value.text
  | _ => none

/-- Whether a link has an edge and a constraint. -/
structure Link.Bears (model : Model) (link : Link) (constraint : StructuralConstraint) : Prop where
  resolved : ∃ participant, link.entity.bind model.entity? = some participant
  given : link.constraint = some constraint

/-- The label of an edge is the quoted text of the constraint of its link. -/
theorem Link.Bears.writtenLabel?_eq {model : Model} {link : Link}
    {constraint : StructuralConstraint} (bears : link.Bears model constraint)
    (relationship : String) :
    Diagram.writtenLabel? model relationship link = some (quote constraint.text) := by
  obtain ⟨participant, resolved⟩ := bears.resolved
  simp [Diagram.writtenLabel?, Diagram.linkStatement?, resolved, bears.given, Diagram.quoted,
    Value.text]

/-- The check accepts the bounds that spell a pair, and answers with this pair.  Then the text of
the constraint is the pair in decimal digits, it is written as it is for the label of an edge, and
the pair can be read back from it.  So the edges of two links with pairs have the same label exactly
when the pairs are the same.  When the check refuses the bounds, it gives the first defect in the
order of arity, minimum and maximum. -/
theorem StructuralConstraint.label_spells_pair (constraint : StructuralConstraint) :
    (∀ lower upper,
      constraint.check = .ok (lower, upper) ↔ Spells constraint.bounds lower upper) ∧
    (∀ lower upper, constraint.check = .ok (lower, upper) →
      constraint.text = "(" ++ toString lower ++ "," ++ upper.text ++ ")" ∧
      pair? constraint.text = some (lower, upper) ∧
      ∀ model relationship link, link.Bears model constraint →
        Diagram.writtenLabel? model relationship link = some ("\"" ++ constraint.text ++ "\"")) ∧
    (∀ other model relationship relationship' link link',
      constraint.isValid = true → other.isValid = true →
      link.Bears model constraint → link'.Bears model other →
      (Diagram.writtenLabel? model relationship link =
          Diagram.writtenLabel? model relationship' link' ↔
        constraint.check = other.check)) ∧
    ∀ defect, constraint.check = .error defect ↔ defect.IsFirst constraint := by
  refine ⟨fun _ _ => check_eq_ok_iff_spells, ?_, ?_, fun _ => check_eq_error_iff⟩
  · intro lower upper checked
    have text := text_of_check checked
    refine ⟨text, ?_, fun model relationship link bears => ?_⟩
    · rw [text]
      exact pair?_text lower upper
    · rw [bears.writtenLabel?_eq, quote_text_of_check checked]
  · intro other model relationship relationship' link link' valid valid' bears bears'
    obtain ⟨lower, upper, checked⟩ := exists_check_of_isValid valid
    obtain ⟨lower', upper', checked'⟩ := exists_check_of_isValid valid'
    rw [bears.writtenLabel?_eq, bears'.writtenLabel?_eq, Option.some_inj,
      quote_text_of_check checked, quote_text_of_check checked', String.append_left_inj,
      String.append_right_inj, checked, checked']
    constructor
    · intro same
      rw [text_of_check checked, text_of_check checked'] at same
      have read := congrArg pair? same
      rw [pair?_text, pair?_text] at read
      rw [Option.some.inj read]
    · intro same
      obtain ⟨rfl, rfl⟩ := Prod.mk.inj (Except.ok.inj same)
      rw [text_of_check checked, text_of_check checked']

end ErSchema
