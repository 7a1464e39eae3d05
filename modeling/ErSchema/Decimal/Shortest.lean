/-!
# Shortest decimals

A binary floating-point number stands for every real number that rounds to it.  Its shortest
decimal is the one with the fewest digits in that interval, and among several of those the one
nearest to the number itself.

Having the fewest digits means being a multiple of the greatest power of ten that has a multiple in
the interval.  Powers are tried from the greatest down, and for each of them only the two multiples
on either side of the number have to be looked at.  All arithmetic is exact.
-/

set_option autoImplicit false

namespace ErSchema.Decimal

/-- The number `digits * 10 ^ exponent`. -/
structure Scaled where
  digits : Nat
  exponent : Int
  deriving DecidableEq, Repr

/-- A positive number together with the ends of the interval that rounds to it, all three as
multiples of `2 ^ exponent`. -/
structure Interval where
  low : Nat
  value : Nat
  high : Nat
  exponent : Int
  /-- Whether the ends themselves round to the number. -/
  closed : Bool
  deriving DecidableEq, Repr

/-- The least number that the 52 fraction bits of a double-precision number cannot hold. -/
def fractionLimit : Nat := Nat.pow 2 52

/-- The interval of a positive double-precision number, from the bits of its exponent and of its
fraction.  Below a power of two the next number is only half as far away as above it. -/
def Interval.ofFields (exponent fraction : Nat) : Interval :=
  let mantissa := if exponent = 0 then fraction else fraction + fractionLimit
  let power : Int := if exponent = 0 then -1074 else (exponent : Int) - 1075
  let below := if fraction = 0 ∧ 1 < exponent then 1 else 2
  ⟨4 * mantissa - below, 4 * mantissa, 4 * mantissa + 2, power - 2, mantissa % 2 = 0⟩

/-- The factors that turn multiples of `2 ^ binary` and of `10 ^ decimal` into multiples of one
common unit. -/
def commonUnit (binary decimal : Int) : Nat × Nat :=
  (Nat.pow 2 binary.toNat * Nat.pow 10 (-decimal).toNat,
    Nat.pow 2 (-binary).toNat * Nat.pow 10 decimal.toNat)

/-- The multiple of `10 ^ exponent` in an interval that is nearest to its number.  Of two multiples
at the same distance it is the greater one. -/
def Interval.multiple? (interval : Interval) (exponent : Int) : Option Nat :=
  let (unit, step) := commonUnit interval.exponent exponent
  let value := interval.value * unit
  let below := value / step
  let above := below + 1
  let holds (multiple : Nat) : Bool :=
    if interval.closed then
      interval.low * unit ≤ multiple * step && multiple * step ≤ interval.high * unit
    else
      interval.low * unit < multiple * step && multiple * step < interval.high * unit
  match holds below, holds above with
  | true, true => some (if value - below * step < above * step - value then below else above)
  | true, false => some below
  | false, true => some above
  | false, false => none

/-- The shortest decimal whose exponent is one of the `count` integers from `greatest` down. -/
def Interval.shortestFrom (interval : Interval) (greatest : Int) : (count : Nat) → Option Scaled
  | 0 => none
  | count + 1 =>
    match interval.multiple? greatest with
    | some digits => some ⟨digits, greatest⟩
    | none => interval.shortestFrom (greatest - 1) count

/-- The shortest decimal of the absolute value of a double-precision number, from its exponent and
fraction bits.  No such number reaches ten to the power of 309, and every interval has a multiple of
ten to the power of -324. -/
def shortest (exponent fraction : Nat) : Scaled :=
  if exponent = 0 ∧ fraction = 0 then
    ⟨0, 0⟩
  else
    ((Interval.ofFields exponent fraction).shortestFrom 309 634).getD ⟨0, 0⟩

end ErSchema.Decimal
