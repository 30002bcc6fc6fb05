import SessionCookies.Fault
import SessionCookies.Time.Duration
import SessionCookies.Time.Reader

/-!
# Reading durations

The two ways in which a duration may be spelled, both with or without a sign: by ISO 8601, as in
`P1DT12H`, and as a number of days and a time of day, as in `1 day, 12:00:00`, either of which may
be left out. A year has 365 days and a month 30. A duration may also be given as a number of
seconds.
-/

namespace SessionCookies.Duration

/-! ### Range -/

/-- The greatest duration in days. -/
def maxDays : Nat := 999999999

/-- A duration in microseconds. No duration has more days than the greatest one, and a negative one
ends there; the hours of that day are outside the calendar. -/
def ofMicros? (negative : Bool) (micros : Nat) : Except Fault Int :=
  if maxDays < micros / Civil.microsPerDay then .error .invalidForm
  else if negative then
    if maxDays * Civil.microsPerDay < micros then .error .dateOutOfRange
    else .ok (-Int.ofNat micros)
  else .ok (Int.ofNat micros)

/-- Whether a number of microseconds is that of a duration. -/
def isInRange (micros : Int) : Bool :=
  -Int.ofNat (maxDays * Civil.microsPerDay) ≤ micros &&
    micros < Int.ofNat ((maxDays + 1) * Civil.microsPerDay)

/-! ### Days and a time of day -/

/-- The greatest number of hours in a time of day. -/
def maxHours : Nat := 2400000000

/-- A time of day to the end of the text, in microseconds. It may have any number of hours, and
takes up five characters at least; what stands behind the sixth digit of its fraction is dropped. -/
def clockMicros? (cs : List Char) : Option Nat :=
  match cs.dropWhile (· ≠ ':') with
  | [] => none
  | _ :: rest => do
    let hours ← Digits.read? (cs.takeWhile (· ≠ ':'))
    let (time, rest) ←
      Timestamp.readTime? ⟨1, 1, 1, 0, 0, 0, 0⟩ ('0' :: '0' :: ':' :: rest.take 12)
    if 5 ≤ cs.length ∧ hours ≤ maxHours ∧ rest.isEmpty ∧ time.isValid then
      some (hours * 3600 * Civil.microsPerSecond + time.toWall)
    else none

/-- The text without a character at its front, if that is there. -/
def dropOne (c : Char) : List Char → List Char
  | d :: rest => if d = c then rest else d :: rest
  | [] => []

/-- What follows the word for days: `d`, `day` or `days`, the letters after the first being all
small or all capital. -/
def afterDayWord? : List Char → Option (List Char)
  | c :: rest =>
    if c = 'd' ∨ c = 'D' then
      match rest with
      | 'a' :: 'y' :: rest => some (dropOne 's' rest)
      | 'A' :: 'Y' :: rest => some (dropOne 'S' rest)
      | 'a' :: _ | 'A' :: _ => none
      | rest => some rest
    else none
  | [] => none

/-- A number of days, alone or with a time of day behind a comma, a blank, both or neither. -/
def dayMicros? (cs : List Char) : Option Nat := do
  let days := cs.takeWhile Char.isDigit
  if days.isEmpty then none
  else
    let days ← Digits.read? days
    let rest ← afterDayWord? (dropOne ' ' (cs.dropWhile Char.isDigit))
    let rest := dropOne ',' rest
    let micros ← if rest.isEmpty then some 0 else clockMicros? (dropOne ' ' rest)
    return days * Civil.microsPerDay + micros

/-! ### Amounts of units -/

/-- A length of time, or a sum of such lengths, in days, seconds and microseconds. -/
structure Amount where
  days : Nat := 0
  seconds : Nat := 0
  micros : Nat := 0

namespace Amount

def add (a b : Amount) : Amount := ⟨a.days + b.days, a.seconds + b.seconds, a.micros + b.micros⟩

def toMicros (a : Amount) : Nat :=
  a.days * Civil.microsPerDay + a.seconds * Civil.microsPerSecond + a.micros

/-- The most seconds beside its days that an amount may have. -/
def maxSeconds : Nat := 4294967295

/-- Some seconds, to the nearest microsecond. -/
def ofSeconds (x : Float) : Amount :=
  let whole := x.floor
  { seconds := whole.toUInt64.toNat, micros := ((x - whole) * 1000000).round.toUInt64.toNat }

/-- Some days, their seconds to the nearest microsecond. -/
def ofDays (x : Float) : Amount :=
  let whole := x.floor
  { ofSeconds ((x - whole) * 86400) with days := whole.toUInt64.toNat }

end Amount

/-- The number of days, or behind the `T` of seconds, that a letter stands for. -/
def unit? (timed : Bool) (letter : Char) : Option Nat :=
  let units :=
    if timed then [('H', 3600), ('M', 60), ('S', 1)]
    else [('Y', 365), ('M', 30), ('W', 7), ('D', 1)]
  (units.find? fun entry => entry.1 = letter).map Prod.snd

/-- The part of one that the digits after a point stand for. -/
def part? (digits : List Char) : Option Float := do
  let values ← digits.mapM Digits.value?
  return values.foldl (fun x d => x * 10 + Float.ofNat d) 0 / values.foldl (fun x _ => x * 10) 1

/-- The amount that a numeral and a unit stand for, and whether it is written with a fraction. -/
def amount? (timed : Bool) (unit : Nat) (numeral : List Char) : Option (Amount × Bool) := do
  let whole := numeral.takeWhile Char.isDigit
  if whole.isEmpty then none
  else
    let n ← Digits.read? whole
    let whole : Amount := if timed then { seconds := n * unit } else { days := n * unit }
    match numeral.dropWhile Char.isDigit with
    | [] => return (whole, false)
    | point :: fraction =>
      if point = '.' ∨ point = ',' then
        let x := (← part? fraction) * Float.ofNat unit
        return (whole.add (if timed then .ofSeconds x else .ofDays x), true)
      else none

/-- The sum of amounts, each a numeral and a letter. A single `T` parts those in days from those in
hours, and only the last one has a fraction. -/
def sumAmounts? (timed closed : Bool) (numeral : List Char) : List Char → Option Amount
  | [] => if numeral.isEmpty then some {} else none
  | c :: rest =>
    if c.isDigit ∨ c = '.' ∨ c = ',' then sumAmounts? timed closed (numeral ++ [c]) rest
    else if c = 'T' ∧ numeral.isEmpty then
      if timed then none else sumAmounts? true closed [] rest
    else if closed then none
    else do
      let unit ← unit? timed c
      let (amount, closed) ← amount? timed unit numeral
      return amount.add (← sumAmounts? timed closed [] rest)

/-- The microseconds of the amounts behind a `P`. -/
def amountMicros? (cs : List Char) : Option Nat := do
  let sum ← sumAmounts? false false [] cs
  if sum.seconds ≤ Amount.maxSeconds then some sum.toMicros else none

/-! ### Texts -/

/-- The microseconds of a text of some length, its sign left out. -/
def spelledMicros? (length : Nat) (cs : List Char) : Option Nat :=
  match cs with
  | 'P' :: amounts => if length < 3 then none else amountMicros? amounts
  | _ =>
    if length < 5 ∨ cs.contains 'd' ∨ cs.contains 'D' then dayMicros? cs else clockMicros? cs

/-- The duration that a text stands for. -/
def ofText? (cs : List Char) : Except Fault Int :=
  let (negative, rest) := match cs with
    | '-' :: rest => (true, rest)
    | '+' :: rest => (false, rest)
    | _ => (false, cs)
  match spelledMicros? cs.length rest with
  | some micros => ofMicros? negative micros
  | none => .error .invalidForm

/-! ### Numbers -/

/-- The duration of a number of seconds. The seconds are counted in 64 bits, and their days in 32,
higher bits being lost. -/
def ofSeconds? (seconds : Int) : Except Fault Int :=
  if -9223372036854775808 ≤ seconds ∧ seconds < 9223372036854775808 then
    let amount : Amount :=
      { days := seconds.natAbs / 86400 % 4294967296, seconds := seconds.natAbs % 86400 }
    ofMicros? (seconds < 0) amount.toMicros
  else .error .invalidForm

/-- The duration of a number of seconds with a fraction, to the nearest microsecond. -/
def ofFloat? (seconds : Float) : Except Fault Int :=
  if seconds.abs < 86400 * 1000000000 then
    ofMicros? (seconds < 0) (Amount.ofSeconds seconds.abs).toMicros
  else .error .invalidForm

/-- The duration that a value of a JSON text stands for: a text, or a number of seconds, the truth
values counting as numbers. -/
def ofJson? : Json → Except Fault Int
  | .string s =>
    match Units.chars? s with
    | some cs => ofText? cs
    | none => .error .invalidForm
  | .bool b => ofSeconds? (if b then 1 else 0)
  | .int n => ofSeconds? n
  | .float x => ofFloat? x
  | _ => .error .invalidForm

end SessionCookies.Duration
