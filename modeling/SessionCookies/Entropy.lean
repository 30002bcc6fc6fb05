/-!
# Random bytes

The one source of randomness: draws of 64 bytes each, counted from zero.
-/

namespace SessionCookies

/-- Random bytes, byte `i` of draw `k` being `byte k i`, and how many draws were made. -/
structure Entropy where
  byte : Nat → Nat → UInt8
  drawn : Nat := 0

namespace Entropy

/-- How many bytes one draw has. -/
def drawLength : Nat := 64

/-- The bytes of the next draw. -/
def next (e : Entropy) : List UInt8 := (List.range drawLength).map (e.byte e.drawn)

/-- The source after a draw. -/
def advance (e : Entropy) : Entropy := { e with drawn := e.drawn + 1 }

@[simp] theorem length_next (e : Entropy) : e.next.length = drawLength := by simp [next]

/-- A repeatable source: each byte grows with the number of its draw and with its place. -/
def ofSeed (seed : Int) : Entropy where
  byte k i := UInt8.ofNat ((seed + 31 * k + 7 * i + k * i) % 256).toNat

end Entropy

end SessionCookies
