/-!
# Shortest decimals

The fewest decimal digits that read back as a given binary floating-point number. A number is held
as `mantissa * 2 ^ exponent`; the reals that round to it form an interval around it, which holds its
ends if the mantissa is even. The grids of decimals with 1, 2, … 17 digits are tried in turn, and on
each the two neighbours of the number; of two neighbours inside the interval the nearer is taken,
and of two equally near the even one.
-/

namespace SessionCookies.Decimal

/-! ### Binary numbers -/

/-- A positive number `mantissa * 2 ^ exponent`; `tight` says that its lower neighbour is only half
as far away as its upper one, as happens at a power of two. -/
structure Binary where
  mantissa : Nat
  exponent : Int
  tight : Bool

/-- The leading bit that the mantissa of most numbers has and their form leaves out. -/
def hidden : Nat := 4503599627370496

/-- The magnitude of a finite number. -/
def Binary.ofFloat (x : Float) : Binary :=
  let bits := x.toBits.toNat
  let fraction := bits % hidden
  let biased := bits / hidden % 2048
  if biased = 0 then ⟨fraction, -1074, false⟩
  else ⟨fraction + hidden, Int.ofNat biased - 1075, fraction = 0 ∧ 1 < biased⟩

/-- `b ^ e` as a numerator, which is one for a negative exponent. -/
private def powUp (b : Nat) (e : Int) : Nat := b.pow e.toNat

/-- `b ^ e` as a denominator, which is one for a positive exponent. -/
private def powDown (b : Nat) (e : Int) : Nat := b.pow (-e).toNat

/-! ### Decimal numbers -/

/-- The number `digits * 10 ^ exponent`. -/
structure Scaled where
  digits : Nat
  exponent : Int
  deriving DecidableEq, Repr

/-- Takes zeros from the end of the digits, at most as many as the fuel allows. -/
def Scaled.strip : Nat → Scaled → Scaled
  | 0, d => d
  | fuel + 1, d =>
    if d.digits ≠ 0 ∧ d.digits % 10 = 0 then strip fuel ⟨d.digits / 10, d.exponent + 1⟩ else d

/-- The number of decimal digits of `n`. -/
def digitCount (n : Nat) : Nat := (Nat.toDigits 10 n).length

/-- The exponent `p` with `10 ^ (p - 1) ≤ num / den < 10 ^ p`, for a positive fraction. -/
def magnitude (num den : Nat) : Int :=
  if den ≤ num then digitCount (num / den)
  else
    let z := digitCount (den / num)
    if den ≤ num * Nat.pow 10 (z - 1) then 2 - z else 1 - z

/-- On the grid of multiples of `10 ^ unit`, the neighbour of a number that rounds to it. -/
def Binary.neighbour? (b : Binary) (unit : Int) : Option Scaled :=
  let left := powUp 2 (b.exponent - 2) * powDown 10 unit
  let right := powDown 2 (b.exponent - 2) * powUp 10 unit
  let value := 4 * b.mantissa * left
  let low := (4 * b.mantissa - if b.tight then 1 else 2) * left
  let high := (4 * b.mantissa + 2) * left
  let closed := b.mantissa % 2 = 0
  let inside (c : Nat) : Bool :=
    if closed then low ≤ c * right ∧ c * right ≤ high else low < c * right ∧ c * right < high
  let below := value / right
  let above := below + 1
  let toBelow := value - below * right
  let toAbove := above * right - value
  let belowFirst := toBelow < toAbove ∨ (toBelow = toAbove ∧ below % 2 = 0)
  let pick (c : Nat) : Option Scaled := some ⟨c, unit⟩
  match inside below && below ≠ 0, inside above with
  | true, true => if belowFirst then pick below else pick above
  | true, false => pick below
  | false, true => pick above
  | false, false => none

/-- The shortest decimal of a positive number, without zeros at its end. -/
def Binary.shortest (b : Binary) : Scaled :=
  let top := magnitude (b.mantissa * powUp 2 b.exponent) (powDown 2 b.exponent)
  let grids := (List.range 17).map fun n => top - (Int.ofNat n + 1)
  ((grids.findSome? b.neighbour?).getD ⟨b.mantissa, 0⟩).strip 20

end SessionCookies.Decimal
