import SessionCookies.Fault
import SessionCookies.Text.Digits
import SessionCookies.Time.Civil

/-!
# Timestamps

A timestamp is a reading of a wall clock, with or without the clock's offset from UTC. With an
offset it stands for an instant, counted in microseconds since 1970; without one it cannot be
compared with an instant. It has two written forms, which differ in how they spell the offset of
UTC and in offsets that are no whole number of minutes.
-/

namespace SessionCookies

/-- A reading of a wall clock and the microseconds by which the clock is ahead of UTC, if known. -/
structure Timestamp where
  wall : Nat
  offset : Option Int
  wall_lt : wall < Civil.wallLimit
  offset_lt : ∀ micros ∈ offset, micros.natAbs < Civil.microsPerDay
  deriving DecidableEq

namespace Timestamp

/-- The timestamp of a wall clock and an offset, if the calendar has it. -/
def ofWall? (wall : Int) (offset : Option Int) : Option Timestamp :=
  if hw : 0 ≤ wall ∧ wall.toNat < Civil.wallLimit then
    match offset with
    | none => some ⟨wall.toNat, none, hw.2, by simp⟩
    | some micros =>
      if ho : micros.natAbs < Civil.microsPerDay then
        some ⟨wall.toNat, some micros, hw.2, by simpa using ho⟩
      else none
  else none

/-- The UTC timestamp of an instant, if the calendar has it. -/
def ofInstant? (instant : Int) : Except Fault Timestamp :=
  match ofWall? (instant + Civil.epoch) (some 0) with
  | some t => .ok t
  | none => .error .dateOutOfRange

/-- The instant of a timestamp with an offset. -/
def instant? (t : Timestamp) : Option Int :=
  t.offset.map fun micros => Int.ofNat t.wall - Civil.epoch - micros

/-- A timestamp without an offset taken as one of UTC. -/
def assumeUtc (t : Timestamp) : Timestamp where
  wall := t.wall
  offset := some (t.offset.getD 0)
  wall_lt := t.wall_lt
  offset_lt := by
    cases h : t.offset with
    | none => simp [Civil.microsPerDay, Civil.microsPerSecond]
    | some micros => simpa using t.offset_lt micros (by simp [h])

/-- The time from an instant to a timestamp in microseconds. -/
def since (t : Timestamp) (now : Int) : Except Fault Int :=
  match t.instant? with
  | some instant => .ok (instant - now)
  | none => .error .expiryWithoutOffset

/-! ### Written forms -/

/-- Date and time of day, with six digits after the point if the second is not whole. -/
def writeWall (wall : Nat) : List Char :=
  let c := Civil.ofWall wall
  Digits.fixed 4 c.year ++ '-' :: Digits.fixed 2 c.month ++ '-' :: Digits.fixed 2 c.day ++
    'T' :: Digits.fixed 2 c.hour ++ ':' :: Digits.fixed 2 c.minute ++
    ':' :: Digits.fixed 2 c.second ++ if c.micro = 0 then [] else '.' :: Digits.fixed 6 c.micro

/-- The sign of an offset, its hours and its minutes. -/
def writeOffset (negative : Bool) (seconds : Nat) : List Char :=
  (if negative then '-' else '+') ::
    Digits.fixed 2 (seconds / 3600) ++ ':' :: Digits.fixed 2 (seconds / 60 % 60)

/-- The form of RFC 3339 without an offset if there is none; UTC is spelled `Z`. A fraction of a
second in the offset makes it the next smaller number of seconds. -/
def rfc3339 (t : Timestamp) : List Char :=
  writeWall t.wall ++
    match t.offset with
    | none => []
    | some micros =>
      let seconds := Int.fdiv micros Civil.microsPerSecond
      if seconds = 0 then ['Z'] else writeOffset (seconds < 0) seconds.natAbs

end Timestamp

end SessionCookies
