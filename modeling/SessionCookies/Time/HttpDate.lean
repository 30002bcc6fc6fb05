import SessionCookies.Text.Digits
import SessionCookies.Time.Civil

/-!
# Dates in headers

The date form of HTTP, such as `Wed, 15 Nov 2023 22:13:20 GMT`. A fraction of a second is dropped.
-/

namespace SessionCookies.HttpDate

def weekdayNames : List String := ["Mon", "Tue", "Wed", "Thu", "Fri", "Sat", "Sun"]

def monthNames : List String :=
  ["Jan", "Feb", "Mar", "Apr", "May", "Jun", "Jul", "Aug", "Sep", "Oct", "Nov", "Dec"]

/-- The date form of a wall clock in UTC, with the year written by `year`. -/
def write (year : Nat → List Char) (wall : Nat) : List Char :=
  let c := Civil.ofWall wall
  (weekdayNames.getD c.weekday "").toList ++ ',' :: ' ' :: Digits.fixed 2 c.day ++
    ' ' :: (monthNames.getD (c.month - 1) "").toList ++ ' ' :: year c.year ++
    ' ' :: Digits.fixed 2 c.hour ++ ':' :: Digits.fixed 2 c.minute ++
    ':' :: Digits.fixed 2 c.second ++ " GMT".toList

/-- A year of four digits. -/
def fullYear (year : Nat) : List Char := Digits.fixed 4 year

/-- A year set to the right in four places. -/
def shortYear (year : Nat) : List Char :=
  let digits := Nat.toDigits 10 year
  List.replicate (4 - digits.length) ' ' ++ digits

/-- The date at which a cookie is to expire. -/
def ofExpiry (wall : Nat) : List Char := write fullYear wall

/-- The present date, at which a cookie that is to be deleted has expired. -/
def ofDeletion (wall : Nat) : List Char := write shortYear wall

end SessionCookies.HttpDate
