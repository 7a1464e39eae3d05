/-!
# Structural constraints

A structural constraint bounds how often an entity takes part in a relationship.  It should be a
pair of a minimum and a maximum, but a schema may declare any list of values.  The bounds are
therefore kept as they were declared, and `StructuralConstraint.check` tells whether they form a
pair, and which pair.
-/

set_option autoImplicit false

namespace ErSchema

/-- The text that stands for an unbounded maximum. -/
def manyText : String := "N"

/-- A declared bound. -/
inductive Bound where
  /-- An integer, which may be negative. -/
  | count (value : Int)
  /-- No bound at all. -/
  | many
  /-- Any other value, as text. -/
  | other (text : String)
  deriving DecidableEq, Repr

namespace Bound

/-- An ASCII letter in lower case, and any other character as it is. -/
def foldAscii (text : String) : List Char :=
  text.toList.map Char.toLower

/-- The bound that a text declares: N and many, in any mixture of ASCII case, mean no bound. -/
def ofText (text : String) : Bound :=
  if foldAscii text = foldAscii manyText ∨ foldAscii text = foldAscii "many" then
    .many
  else
    .other text

/-- The bound as a number of times, when it is an integer that is not negative. -/
def asCount : Bound → Option Nat
  | .count (.ofNat n) => some n
  | _ => none

/-- The bound as it appears in a diagram. -/
def text : Bound → String
  | .count value => toString value
  | .many => manyText
  | .other text => text

end Bound

/-- A maximum of a well-formed pair. -/
inductive Cardinality where
  | bounded (count : Nat)
  | many
  deriving DecidableEq, Repr

/-- The maximum as it appears in a diagram. -/
def Cardinality.text : Cardinality → String
  | .bounded count => toString count
  | .many => manyText

/-- The bounds declared for one link, in order. -/
structure StructuralConstraint where
  bounds : List Bound
  deriving DecidableEq, Repr

namespace StructuralConstraint

/-- Why declared bounds are not a pair of a minimum and a maximum. -/
inductive Defect where
  /-- There are not exactly two bounds. -/
  | arity (found : Nat)
  /-- The first bound is not an integer from zero up. -/
  | minimum
  /-- The second bound is neither an integer from zero up nor the absence of a bound. -/
  | maximum
  deriving DecidableEq, Repr

/-- The wording of a defect. -/
def Defect.message : Defect → String
  | .arity found => "expected 2 bounds, found " ++ toString found
  | .minimum => "min is not a non-negative integer"
  | .maximum => "max is neither a non-negative integer nor " ++ manyText

/-- The constraint with the given minimum and maximum. -/
def ofPair (minimum maximum : Bound) : StructuralConstraint :=
  ⟨[minimum, maximum]⟩

/-- At most once, and possibly never. -/
def partialSingle : StructuralConstraint := ofPair (.count 0) (.count 1)

/-- Any number of times, and possibly never. -/
def partialMany : StructuralConstraint := ofPair (.count 0) .many

/-- Exactly once. -/
def totalSingle : StructuralConstraint := ofPair (.count 1) (.count 1)

/-- At least once. -/
def totalMany : StructuralConstraint := ofPair (.count 1) .many

/-- The first declared bound. -/
def minimum? (constraint : StructuralConstraint) : Option Bound :=
  constraint.bounds[0]?

/-- The second declared bound. -/
def maximum? (constraint : StructuralConstraint) : Option Bound :=
  constraint.bounds[1]?

/-- The minimum and the maximum that the bounds declare, or the first defect: the number of bounds
comes before the minimum and the minimum before the maximum. -/
def check (constraint : StructuralConstraint) : Except Defect (Nat × Cardinality) :=
  match constraint.bounds with
  | [minimum, maximum] =>
    match minimum.asCount, maximum, maximum.asCount with
    | none, _, _ => .error .minimum
    | some least, .many, _ => .ok (least, .many)
    | some least, _, some most => .ok (least, .bounded most)
    | some _, _, none => .error .maximum
  | bounds => .error (.arity bounds.length)

/-- Whether the bounds are a pair of a minimum and a maximum. -/
def isValid (constraint : StructuralConstraint) : Bool :=
  match constraint.check with
  | .ok _ => true
  | .error _ => false

/-- The constraint as it appears in a diagram: the bounds in parentheses, separated by commas. -/
def text (constraint : StructuralConstraint) : String :=
  "(" ++ String.intercalate "," (constraint.bounds.map Bound.text) ++ ")"

end StructuralConstraint

end ErSchema
