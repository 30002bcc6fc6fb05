/-!
# The calendar

Moments of a wall clock in the proleptic Gregorian calendar, from the first day of year 1 to the
last of year 9999: as a count of microseconds, and as year, month, day and time of day.
-/

namespace SessionCookies

/-- A day and a time of day. -/
structure Civil where
  year : Nat
  month : Nat
  day : Nat
  hour : Nat
  minute : Nat
  second : Nat
  micro : Nat
  deriving DecidableEq, Repr

namespace Civil

/-! ### Days -/

def isLeap (year : Nat) : Bool := year % 4 = 0 && (year % 100 ≠ 0 || year % 400 = 0)

/-- The lengths of the months of a year. -/
def monthLengths (leap : Bool) : List Nat :=
  [31, if leap then 29 else 28, 31, 30, 31, 30, 31, 31, 30, 31, 30, 31]

/-- The number of days before the first of a month. -/
def daysBeforeMonth (leap : Bool) (month : Nat) : Nat :=
  ((monthLengths leap).take (month - 1)).foldl Nat.add 0

/-- The number of days from the beginning of year 1 to the beginning of a year. -/
def daysBeforeYear (year : Nat) : Nat :=
  let past := year - 1
  past * 365 + past / 4 - past / 100 + past / 400

/-- The number of days from the first day of year 1. -/
def dayNumber (c : Civil) : Nat :=
  daysBeforeYear c.year + daysBeforeMonth (isLeap c.year) c.month + (c.day - 1)

/-- The year of a day number and the day's number within it. -/
def yearOfDay (n : Nat) : Nat × Nat :=
  let rest := n % 146097
  let century := min 3 (rest / 36524)
  let rest := rest - century * 36524
  let four := rest / 1461
  let rest := rest % 1461
  let one := min 3 (rest / 365)
  (n / 146097 * 400 + century * 100 + four * 4 + one + 1, rest - one * 365)

/-- The month, counted from one, and the day of the month of a day's number within a year. -/
def monthOfDay : List Nat → Nat → Nat × Nat
  | [], d => (1, d + 1)
  | length :: rest, d =>
    if d < length then (1, d + 1)
    else
      let (month, day) := monthOfDay rest (d - length)
      (month + 1, day)

/-! ### Microseconds -/

def microsPerSecond : Nat := 1000000

def microsPerDay : Nat := 86400 * microsPerSecond

/-- The number of microseconds from year 1 to the end of year 9999. -/
def wallLimit : Nat := daysBeforeYear 10000 * microsPerDay

/-- The number of microseconds from year 1 to 1970. -/
def epoch : Nat := daysBeforeYear 1970 * microsPerDay

/-- The microseconds of a wall clock since the beginning of year 1. -/
def toWall (c : Civil) : Nat :=
  (((c.dayNumber * 24 + c.hour) * 60 + c.minute) * 60 + c.second) * microsPerSecond + c.micro

/-- The day and time of day of a wall clock. -/
def ofWall (wall : Nat) : Civil :=
  let seconds := wall / microsPerSecond
  let (year, dayOfYear) := yearOfDay (seconds / 86400)
  let (month, day) := monthOfDay (monthLengths (isLeap year)) dayOfYear
  ⟨year, month, day, seconds / 3600 % 24, seconds / 60 % 60, seconds % 60, wall % microsPerSecond⟩

/-- The day of the week, Monday being zero. -/
def weekday (c : Civil) : Nat := c.dayNumber % 7

/-- Whether the calendar has the day and the clock the time. -/
def isValid (c : Civil) : Bool :=
  1 ≤ c.year && c.year ≤ 9999 && 1 ≤ c.month && c.month ≤ 12 && 1 ≤ c.day &&
    c.day ≤ (monthLengths (isLeap c.year)).getD (c.month - 1) 0 &&
    c.hour < 24 && c.minute < 60 && c.second < 60 && c.micro < microsPerSecond

end Civil

end SessionCookies
