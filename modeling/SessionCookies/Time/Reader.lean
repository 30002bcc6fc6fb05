import SessionCookies.Json.Reader
import SessionCookies.Time.Timestamp

/-!
# Reading timestamps

Three ways in which a timestamp may be given: as a date and a time with or without an offset, as a
date alone, and as a number of seconds or milliseconds since 1970. A number stands for milliseconds
if it is too large for a plausible number of seconds.
-/

namespace SessionCookies.Timestamp

/-! ### Dates and times -/

/-- A number of two digits. -/
def two? (a b : Char) : Option Nat := Digits.read? [a, b]

/-- A date `YYYY-MM-DD` at midnight, and the rest. -/
def readDate? : List Char → Option (Civil × List Char)
  | a :: b :: c :: d :: '-' :: e :: f :: '-' :: g :: h :: rest => do
    let year ← Digits.read? [a, b, c, d]
    let month ← two? e f
    let day ← two? g h
    return (⟨year, month, day, 0, 0, 0, 0⟩, rest)
  | _ => none

/-- The microseconds of the digits after the point, those past the sixth being dropped. -/
def fractionMicros (digits : List Char) : Nat :=
  (Digits.read? ((digits ++ List.replicate 6 '0').take 6)).getD 0

/-- A fraction of a second of at least one digit after a point or a comma, and the rest; no fraction
is zero. -/
def readFraction? : List Char → Option (Nat × List Char)
  | c :: rest =>
    if c = '.' ∨ c = ',' then
      match rest.takeWhile Char.isDigit with
      | [] => none
      | digits => some (fractionMicros digits, rest.dropWhile Char.isDigit)
    else some (0, c :: rest)
  | [] => some (0, [])

/-- A time `HH:MM` or `HH:MM:SS` with or without a fraction, put into a day, and the rest. -/
def readTime? (date : Civil) : List Char → Option (Civil × List Char)
  | a :: b :: ':' :: c :: d :: ':' :: e :: f :: rest => do
    let hour ← two? a b
    let minute ← two? c d
    let second ← two? e f
    let (micro, rest) ← readFraction? rest
    return ({ date with hour, minute, second, micro }, rest)
  | a :: b :: ':' :: c :: d :: rest => do
    let hour ← two? a b
    let minute ← two? c d
    return ({ date with hour, minute }, rest)
  | _ => none

/-- The timestamp of a civil time that the calendar has. -/
def ofCivil? (c : Civil) (offset : Option Int) : Option Timestamp :=
  if c.isValid then ofWall? c.toWall offset else none

/-! ### Offsets -/

/-- An offset in microseconds given by its sign, hours and minutes. -/
def offsetMicros? (negative : Bool) (hours minutes : Option Nat) : Option Int := do
  let hours ← hours
  let minutes ← minutes
  if minutes < 60 then
    let micros := Int.ofNat ((hours * 3600 + minutes * 60) * Civil.microsPerSecond)
    return if negative then -micros else micros
  else none

/-- The sign of an offset. -/
def negativeSign? (c : Char) : Option Bool :=
  if c = '+' then some false
  else if c = '-' ∨ c = '\u2212' then some true
  else none

/-- What may stand after a time: nothing, `Z`, or a sign, hours and minutes with or without a
colon. -/
def readOffset? : List Char → Option (Option Int)
  | [] => some none
  | [c] => if c = 'Z' ∨ c = 'z' then some (some 0) else none
  | [s, a, b, c, d] => do
    let negative ← negativeSign? s
    let micros ← offsetMicros? negative (two? a b) (two? c d)
    return some micros
  | [s, a, b, ':', c, d] => do
    let negative ← negativeSign? s
    let micros ← offsetMicros? negative (two? a b) (two? c d)
    return some micros
  | _ => none

/-! ### Texts -/

/-- What may part a date from a time. -/
def isSeparator (c : Char) : Bool := c = 'T' || c = 't' || c = ' ' || c = '_'

/-- A date and a time with or without an offset. -/
def ofDateTime? (cs : List Char) : Option Timestamp := do
  let (date, rest) ← readDate? cs
  match rest with
  | c :: rest =>
    if isSeparator c then
      let (civil, rest) ← readTime? date rest
      let offset ← readOffset? rest
      ofCivil? civil offset
    else none
  | [] => none

/-- A date alone, which stands for its midnight. -/
def ofDate? (cs : List Char) : Option Timestamp := do
  let (date, rest) ← readDate? cs
  if rest.isEmpty then ofCivil? date none else none

/-! ### Numbers -/

/-- The greatest number that is taken as seconds, not milliseconds. -/
def greatestSeconds : Nat := 20000000000

/-- The UTC timestamp of a number of seconds or milliseconds. -/
def ofNumber? (number : Int) : Option Timestamp :=
  let micros :=
    if number.natAbs ≤ greatestSeconds then number * Civil.microsPerSecond else number * 1000
  ofWall? (micros + Civil.epoch) (some 0)

/-- The UTC timestamp of a number of seconds with a fraction, to the nearest microsecond. -/
def ofSeconds? (seconds : Float) : Option Timestamp :=
  if seconds.abs < 1.0e18 then
    let whole := seconds.floor
    let micros := ((seconds - whole) * 1000000).round.toUInt64.toNat
    ofWall? (whole.toInt64.toInt * Civil.microsPerSecond + micros + Civil.epoch) (some 0)
  else none

/-- The UTC timestamp of a number of seconds or milliseconds with a fraction. -/
def ofFloat? (x : Float) : Option Timestamp :=
  ofSeconds? (if x.abs > Float.ofNat greatestSeconds then x / 1000 else x)

/-- A text that spells a number: a sign, if any, and digits, or digits with a point among them and
perhaps an exponent. -/
def ofNumeral? (cs : List Char) : Option Timestamp :=
  let (negative, cs) := match cs with
    | '-' :: rest => (true, rest)
    | '+' :: rest => (false, rest)
    | _ => (false, cs)
  let whole := cs.takeWhile Char.isDigit
  match cs.dropWhile Char.isDigit with
  | [] =>
    if whole.isEmpty then none
    else (Digits.read? whole).bind fun n => ofNumber? (if negative then -n else n)
  | '.' :: rest =>
    let fraction := rest.takeWhile Char.isDigit
    let (exponent, rest) := Json.exponentPart (rest.dropWhile Char.isDigit)
    if rest.isEmpty ∧ !(whole.isEmpty && fraction.isEmpty) then
      ofFloat? (Json.Numeral.toFloat ⟨negative, whole, fraction, exponent⟩)
    else none
  | _ => none

/-- The timestamp that a text stands for. -/
def ofText? (cs : List Char) : Option Timestamp :=
  ofDateTime? cs <|> ofNumeral? cs <|> ofDate? cs

/-- The timestamp that a text or a number of a JSON text stands for. -/
def ofJson? : Json → Option Timestamp
  | .string s => (Units.chars? s).bind ofText?
  | .int n => ofNumber? n
  | .float x => ofFloat? x
  | _ => none

end SessionCookies.Timestamp
