import SessionCookies.Text.Digits
import SessionCookies.Time.Civil

/-!
# Durations

Durations in microseconds: how they are shown, and how they become whole seconds. A number of
seconds is first brought to 53 binary digits, so that above nine billion seconds a single
microsecond may be lost.
-/

namespace SessionCookies.Duration

/-! ### Text -/

/-- Hours, minutes and seconds of a day, the days in front if there are any. -/
def text (micros : Int) : String :=
  let days := Int.fdiv micros Civil.microsPerDay
  let rest := (Int.fmod micros Civil.microsPerDay).toNat
  let seconds := rest / Civil.microsPerSecond
  let fraction := rest % Civil.microsPerSecond
  let clock := Nat.toDigits 10 (seconds / 3600) ++ ':' :: Digits.fixed 2 (seconds / 60 % 60) ++
    ':' :: Digits.fixed 2 (seconds % 60) ++
    if fraction = 0 then [] else '.' :: Digits.fixed 6 fraction
  if days = 0 then String.ofList clock
  else
    let unit := if days.natAbs = 1 then "day" else "days"
    s!"{days} {unit}, {String.ofList clock}"

/-! ### Whole seconds -/

/-- The quotient nearest to `n / d`, a tie going to the even one. -/
def nearestQuotient (n d : Nat) : Nat :=
  let q := n / d
  let twice := 2 * (n % d)
  if twice < d ∨ (twice = d ∧ q % 2 = 0) then q else q + 1

/-- The number of binary digits after the point that a number of seconds is brought to. -/
def places (micros : Nat) : Nat := 52 - Nat.log2 (micros / Civil.microsPerSecond)

/-- The units in a second: a power of two with so many places. -/
def units (micros : Nat) : Nat := Nat.pow 2 (places micros)

/-- A duration in such units. -/
def scaledSeconds (micros : Nat) : Nat :=
  nearestQuotient (micros * units micros) Civil.microsPerSecond

/-- The least whole number of seconds that is no shorter; any positive time takes at least one. -/
def secondsUp (micros : Nat) : Nat :=
  if micros = 0 then 0
  else if micros < Civil.microsPerSecond then 1
  else (scaledSeconds micros + units micros - 1) / units micros

/-- The whole seconds of a duration, the rest being dropped. -/
def secondsToward (micros : Int) : Int :=
  let magnitude :=
    if micros.natAbs < Civil.microsPerSecond then 0
    else scaledSeconds micros.natAbs / units micros.natAbs
  if micros < 0 then -Int.ofNat magnitude else magnitude

end SessionCookies.Duration
