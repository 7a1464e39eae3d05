import ErSchema.Decimal.Shortest

/-!
# Positional text of floating-point numbers

A finite number is written with its shortest decimal, always in positional notation and always with
a fraction.  Infinities are written as inf and -inf.  How a number that is not a number is written
depends on where the text is used.
-/

set_option autoImplicit false

namespace ErSchema.Decimal

/-- A scaled number in positional notation, with at least one digit on both sides of the point. -/
def Scaled.text (number : Scaled) : String :=
  let digits := (toString number.digits).toList
  let zeros (count : Nat) : List Char := List.replicate count '0'
  if 0 ≤ number.exponent then
    String.ofList (digits ++ zeros number.exponent.toNat ++ ".0".toList)
  else
    let places := (-number.exponent).toNat
    let padded := zeros (places + 1 - digits.length) ++ digits
    String.ofList (padded.take (padded.length - places) ++ ['.'] ++
      padded.drop (padded.length - places))

/-- The least number that the 11 exponent bits of a double-precision number cannot hold. -/
def exponentLimit : Nat := Nat.pow 2 11

/-- A floating-point number as text, where `nan` stands for what is not a number. -/
def positional (nan : String) (number : Float) : String :=
  let bits := number.toBits.toNat
  let fraction := bits % fractionLimit
  let exponent := bits / fractionLimit % exponentLimit
  let sign := if bits / fractionLimit / exponentLimit = 1 then "-" else ""
  if exponent = exponentLimit - 1 then
    if fraction = 0 then sign ++ "inf" else nan
  else
    sign ++ (shortest exponent fraction).text

end ErSchema.Decimal
