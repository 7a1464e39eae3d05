/-!
# Dates and times

The four forms of dates and times: a date, a time of day, both together, and both together with an
offset from universal time.  Their text is that of RFC 3339, except that a time of day may lack its
seconds.
-/

set_option autoImplicit false

namespace ErSchema.Toml

/-- A day of the calendar. -/
structure Date where
  year : Nat
  month : Nat
  day : Nat
  deriving DecidableEq, Repr

/-- A time of day. -/
structure Time where
  hour : Nat
  minute : Nat
  second : Option Nat
  nanosecond : Option Nat
  deriving DecidableEq, Repr

/-- The distance of local time from universal time. -/
inductive Offset where
  /-- Universal time itself. -/
  | universal
  /-- Minutes to the east, negative to the west. -/
  | minutes (east : Int)
  deriving DecidableEq, Repr

/-- A date, a time, or both. -/
inductive DateTime where
  | date (date : Date)
  | time (time : Time)
  | dateTime (date : Date) (time : Time) (offset : Option Offset)
  deriving DecidableEq, Repr

/-- A number with leading zeros. -/
def padded (width number : Nat) : String :=
  let digits := (toString number).toList
  String.ofList (List.replicate (width - digits.length) '0' ++ digits)

/-- A list without the zeros at its end. -/
def dropTrailingZeros (digits : List Char) : List Char :=
  (digits.reverse.dropWhile (· = '0')).reverse

/-- A number of nanoseconds as a fraction of a second, without zeros at the end. -/
def fractionText (nanosecond : Nat) : String :=
  match dropTrailingZeros (padded 9 nanosecond).toList with
  | [] => ".0"
  | digits => "." ++ String.ofList digits

/-- A date as text. -/
def Date.text (date : Date) : String :=
  padded 4 date.year ++ "-" ++ padded 2 date.month ++ "-" ++ padded 2 date.day

/-- A time as text. -/
def Time.text (time : Time) : String :=
  padded 2 time.hour ++ ":" ++ padded 2 time.minute ++
    ((time.second.map fun second => ":" ++ padded 2 second).getD "") ++
    ((time.nanosecond.map fractionText).getD "")

/-- An offset as text. -/
def Offset.text : Offset → String
  | .universal => "Z"
  | .minutes east =>
    (if east < 0 then "-" else "+") ++ padded 2 (east.natAbs / 60) ++ ":" ++
      padded 2 (east.natAbs % 60)

/-- A date or time as text. -/
def DateTime.text : DateTime → String
  | .date day => day.text
  | .time clock => clock.text
  | .dateTime day clock offset =>
    day.text ++ "T" ++ clock.text ++ ((offset.map Offset.text).getD "")

/-- The number that a list of decimal digits stands for. -/
def decimalValue (digits : List Char) : Nat :=
  digits.foldl (fun value digit => 10 * value + (digit.toNat - '0'.toNat)) 0

/-- A number of exactly `count` digits at the start of a text, and what follows it. -/
def digits? (count : Nat) (text : List Char) : Option (Nat × List Char) :=
  let digits := text.take count
  if digits.length = count ∧ digits.all Char.isDigit then
    some (decimalValue digits, text.drop count)
  else
    none

/-- What follows a character at the start of a text. -/
def after? (c : Char) : List Char → Option (List Char)
  | [] => none
  | first :: rest => if first = c then some rest else none

/-- Whether a year has a twenty-ninth of February. -/
def isLeapYear (year : Nat) : Bool :=
  year % 4 = 0 && (year % 100 ≠ 0 || year % 400 = 0)

/-- The number of days of a month. -/
def daysOfMonth (year month : Nat) : Nat :=
  if month = 2 then if isLeapYear year then 29 else 28
  else if month = 4 ∨ month = 6 ∨ month = 9 ∨ month = 11 then 30
  else 31

/-- A date at the start of a text, and what follows it. -/
def Date.read? (text : List Char) : Option (Date × List Char) := do
  let (year, text) ← digits? 4 text
  let (month, text) ← digits? 2 (← after? '-' text)
  let (day, text) ← digits? 2 (← after? '-' text)
  if 1 ≤ month ∧ month ≤ 12 ∧ 1 ≤ day ∧ day ≤ daysOfMonth year month then
    some (⟨year, month, day⟩, text)
  else
    none

/-- The nanoseconds that the digits of a fraction stand for; digits after the ninth are dropped. -/
def nanoseconds (digits : List Char) : Nat :=
  let kept := digits.take 9
  decimalValue kept * Nat.pow 10 (9 - kept.length)

/-- The seconds and the fraction that may follow the minutes of a time, and what follows them. -/
def readSeconds? (text : List Char) : Option ((Option Nat × Option Nat) × List Char) :=
  match text with
  | ':' :: rest => do
    let (second, rest) ← digits? 2 rest
    match rest with
    | '.' :: rest =>
      let digits := rest.takeWhile Char.isDigit
      if digits.isEmpty then none
      else some ((some second, some (nanoseconds digits)), rest.drop digits.length)
    | _ => some ((some second, none), rest)
  | _ => some ((none, none), text)

/-- A time of day at the start of a text, and what follows it.  A second may be a leap second. -/
def Time.read? (text : List Char) : Option (Time × List Char) := do
  let (hour, text) ← digits? 2 text
  let (minute, text) ← digits? 2 (← after? ':' text)
  let ((second, nanosecond), text) ← readSeconds? text
  if hour ≤ 23 ∧ minute ≤ 59 ∧ second.getD 0 ≤ 60 then
    some (⟨hour, minute, second, nanosecond⟩, text)
  else
    none

/-- A whole text as an offset, where an empty text is the lack of one. -/
def readOffset? (text : List Char) : Option (Option Offset) :=
  let minutes (sign : Int) (rest : List Char) : Option (Option Offset) := do
    let (hour, rest) ← digits? 2 rest
    let (minute, rest) ← digits? 2 (← after? ':' rest)
    if hour ≤ 23 ∧ minute ≤ 59 ∧ rest.isEmpty then
      some (some (.minutes (sign * (60 * hour + minute : Nat))))
    else
      none
  match text with
  | [] => some none
  | ['Z'] | ['z'] => some (some .universal)
  | '+' :: rest => minutes 1 rest
  | '-' :: rest => minutes (-1) rest
  | _ => none

/-- A whole text as a date or time. -/
def DateTime.ofChars? (text : List Char) : Option DateTime :=
  match Time.read? text with
  | some (clock, []) => some (.time clock)
  | _ => do
    let (day, rest) ← Date.read? text
    match rest with
    | [] => some (.date day)
    | mark :: rest =>
      if mark = 'T' ∨ mark = 't' ∨ mark = ' ' then do
        let (clock, rest) ← Time.read? rest
        let offset ← readOffset? rest
        some (.dateTime day clock offset)
      else
        none

end ErSchema.Toml
