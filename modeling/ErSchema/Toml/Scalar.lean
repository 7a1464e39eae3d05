import ErSchema.Toml.Cursor
import ErSchema.Toml.Value

/-!
# Unquoted values

Truth values, integers, floating-point numbers, dates and times are written without quotes.  Digits
may be separated by single underscores, decimal numbers have no leading zeros, and integers may also
be written in hexadecimal, octal or binary digits.

An integer is recognised by its outline.  Whether it has a value, and one in range, matters only to
the reader of the value, so a numeral without a value is still well written.
-/

set_option autoImplicit false

namespace ErSchema.Toml

/-- The digits of a run in which underscores may stand between two digits. -/
def separatedDigits? (isMember : Char → Bool) : List Char → Option (List Char)
  | [] => none
  | [c] => if isMember c then some [c] else none
  | c :: '_' :: rest => if isMember c then (separatedDigits? isMember rest).map (c :: ·) else none
  | c :: rest => if isMember c then (separatedDigits? isMember rest).map (c :: ·) else none

/-- The number written by digits of a base. -/
def digitsValue (base : Nat) (digits : List Char) : Nat :=
  digits.foldl (fun value digit => base * value + (digit.toNat - '0'.toNat)) 0

/-- A hexadecimal digit in either case, as its value. -/
def hexValue (c : Char) : Nat :=
  if c.isDigit then c.toNat - '0'.toNat else c.toLower.toNat - 'a'.toNat + 10

/-- Whether a character is a hexadecimal digit. -/
def isHexDigit (c : Char) : Bool :=
  c.isDigit || ('a' ≤ c && c ≤ 'f') || ('A' ≤ c && c ≤ 'F')

/-- The digits of a decimal number without leading zeros. -/
def decimalDigits? (text : List Char) : Option (List Char) :=
  match separatedDigits? Char.isDigit text with
  | some ('0' :: _ :: _) => none
  | digits => digits

/-- A text without its sign, and whether the sign was a minus. -/
def splitSign : List Char → Bool × List Char
  | '-' :: rest => (true, rest)
  | '+' :: rest => (false, rest)
  | text => (false, text)

/-- A number with a sign. -/
def signed (isNegative : Bool) (magnitude : Nat) : Int :=
  if isNegative then -magnitude else magnitude

/-- A whole text as an integer. -/
def integer? (text : List Char) : Option Int :=
  match text with
  | '0' :: 'x' :: digits =>
    (separatedDigits? isHexDigit digits).map fun digits =>
      digits.foldl (fun value digit => 16 * value + hexValue digit) 0
  | '0' :: 'o' :: digits =>
    (separatedDigits? (fun c => '0' ≤ c && c ≤ '7') digits).map (digitsValue 8 ·)
  | '0' :: 'b' :: digits =>
    (separatedDigits? (fun c => c = '0' || c = '1') digits).map (digitsValue 2 ·)
  | _ =>
    let (isNegative, digits) := splitSign text
    (decimalDigits? digits).map fun digits => signed isNegative (digitsValue 10 digits)

/-- Whether an integer fits into 64 bits with a sign. -/
def inRange (number : Int) : Bool :=
  -9223372036854775808 ≤ number && number ≤ 9223372036854775807

/-- The exponent after the mantissa of a floating-point number: zero when there is none. -/
def exponent? : List Char → Option Int
  | [] => some 0
  | mark :: text =>
    if mark = 'e' ∨ mark = 'E' then
      let (isNegative, digits) := splitSign text
      (separatedDigits? Char.isDigit digits).map fun digits =>
        signed isNegative (digitsValue 10 digits)
    else
      none

/-- The digits after the point of a floating-point number: none when there is no point. -/
def fraction? : List Char → Option (List Char)
  | [] => some []
  | '.' :: digits => separatedDigits? Char.isDigit digits
  | _ => none

/-- The number `mantissa * 10 ^ exponent`, rounded to the nearest double-precision number.  Where
the result is certain to be infinite or zero it is not computed from the powers. -/
def scaledFloat (mantissa : Nat) (exponent : Int) : Float :=
  let size : Int := exponent + (Nat.toDigits 10 mantissa).length
  if mantissa = 0 ∨ size < -400 then 0.0
  else if 400 < size then 1.0 / 0.0
  else Float.ofScientific mantissa (exponent < 0) exponent.natAbs

/-- A whole text as a floating-point number, which must have a fraction or an exponent. -/
def float? (text : List Char) : Option Float :=
  let (isNegative, text) := splitSign text
  let negate (number : Float) : Float := if isNegative then -number else number
  if text = "inf".toList then
    some (negate (1.0 / 0.0))
  else if text = "nan".toList then
    some (0.0 / 0.0)
  else
    let isExponentMark (c : Char) : Bool := c = 'e' || c = 'E'
    let beforeExponent := text.takeWhile (!isExponentMark ·)
    let whole := beforeExponent.takeWhile (· ≠ '.')
    do
      let wholeDigits ← decimalDigits? whole
      let fractionDigits ← fraction? (beforeExponent.drop whole.length)
      let exponent ← exponent? (text.drop beforeExponent.length)
      some (negate (scaledFloat (digitsValue 10 (wholeDigits ++ fractionDigits))
        (exponent - fractionDigits.length)))

/-- Whether a number is infinite although it is written with digits. -/
def overflows (text : List Char) (number : Float) : Bool :=
  number.isInf && text.any Char.isDigit

/-- Whether every underscore stands between two digits of base 16. -/
def separatesDigits : List Char → Bool
  | [] => true
  | '_' :: _ => false
  | first :: '_' :: rest =>
    isHexDigit first && (rest.head?.map isHexDigit).getD false && separatesDigits rest
  | _ :: rest => separatesDigits rest

/-- Whether a word has the outline of a decimal integer with underscores: it starts with a digit
other than zero, the first character that is no digit is an underscore, and every underscore stands
between two digits of base 16.  Spaces and the marks of a floating-point number are excluded. -/
def outlinesDecimal (text : List Char) : Bool :=
  let (_, digits) := splitSign text
  let isExcluded (c : Char) : Bool := c = ' ' || c = '.' || c = 'e' || c = 'E'
  (digits.head?.map fun c => c.isDigit && c ≠ '0').getD false &&
    (digits.dropWhile Char.isDigit).head? = some '_' &&
    !digits.any isExcluded && separatesDigits digits

/-- Whether a word has the outline of an integer: the mark of a base alone, or the outline of a
decimal integer with underscores. -/
def outlinesInteger (text : List Char) : Bool :=
  text = ['0', 'x'] || text = ['0', 'o'] || text = ['0', 'b'] || outlinesDecimal text

/-- The value that a word without quotes stands for. -/
def scalar (word : Spanned (List Char)) : Except SyntaxError Value :=
  let ⟨text, span⟩ := word
  let numeral : Value := .numeral span (String.ofList text)
  if text = "true".toList then .ok (.boolean span true)
  else if text = "false".toList then .ok (.boolean span false)
  else
    match integer? text, DateTime.ofChars? text, float? text with
    | some number, _, _ => .ok (if inRange number then .integer span number else numeral)
    | none, some moment, _ => .ok (.dateTime span moment)
    | none, none, some number => .ok (if overflows text number then numeral else .float span number)
    | none, none, none =>
      if outlinesInteger text then .ok numeral else .error (.malformedScalar span)

end ErSchema.Toml
