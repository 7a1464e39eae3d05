/-!
# Ranges of code points

A property of characters is a list of ranges of code points, and a case mapping is a list of ranges
that are moved as a whole.  Both are plain data: a property holds of a character exactly when some
range covers its code point, so facts about a property reduce to facts about finitely many ranges.
-/

set_option autoImplicit false

namespace ErSchema.Unicode

/-- The code points from `first` to `last`, both included. -/
structure CodeRange where
  first : Nat
  last : Nat
  deriving DecidableEq, Repr

/-- Whether a code point lies in a range. -/
def CodeRange.contains (range : CodeRange) (code : Nat) : Bool :=
  range.first ≤ code && code ≤ range.last

/-- Whether some range of a list covers a character. -/
def covers (ranges : List CodeRange) (c : Char) : Bool :=
  ranges.any (·.contains c.toNat)

/-- Every `step`-th code point from `first` to `last`, moved so that `first` becomes `target`. -/
structure ShiftedRange where
  first : Nat
  last : Nat
  step : Nat
  target : Nat
  deriving DecidableEq, Repr

/-- The code point that a range maps `code` to, if it maps it at all. -/
def ShiftedRange.image? (range : ShiftedRange) (code : Nat) : Option Nat :=
  if range.first ≤ code ∧ code ≤ range.last ∧ (code - range.first) % range.step = 0 then
    some (range.target + (code - range.first))
  else
    none

/-- The image of a code point under the first range that maps it, or the code point itself. -/
def shift (ranges : List ShiftedRange) (code : Nat) : Nat :=
  (ranges.findSome? (·.image? code)).getD code

/-- Two lists of ranges cover what either of them covers. -/
theorem covers_append (left right : List CodeRange) (c : Char) :
    covers (left ++ right) c = (covers left c || covers right c) := by
  simp [covers, List.any_append]

end ErSchema.Unicode
