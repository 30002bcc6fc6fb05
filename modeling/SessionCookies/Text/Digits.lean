/-!
# Digits

Numbers written with a fixed count of decimal digits, and the reading of such a run. Hexadecimal
digits are read one at a time.
-/

namespace SessionCookies.Digits

def ofNat (n : Nat) : Char := Char.ofNat (n % 10 + 48)

/-- The number that a decimal digit stands for. -/
def value? (c : Char) : Option Nat := if c.isDigit then some (c.toNat - 48) else none

theorem value?_ofNat (n : Nat) : value? (ofNat n) = some (n % 10) := by
  have h : ∀ k < 10, value? (Char.ofNat (k + 48)) = some k := by decide
  exact h _ (Nat.mod_lt _ (by decide))

/-- The last `width` decimal digits of a number. -/
def fixed : Nat → Nat → List Char
  | 0, _ => []
  | width + 1, n => fixed width (n / 10) ++ [ofNat n]

@[simp] theorem length_fixed (width n : Nat) : (fixed width n).length = width := by
  induction width generalizing n with
  | zero => rfl
  | succ width ih => simp [fixed, ih]

/-- A run of digits continued from the number read so far. -/
def readFrom? : Nat → List Char → Option Nat
  | n, [] => some n
  | n, c :: rest => (value? c).bind fun d => readFrom? (n * 10 + d) rest

/-- The number that a run of digits stands for; any other character spoils the run. -/
def read? (cs : List Char) : Option Nat := readFrom? 0 cs

theorem readFrom?_append (n : Nat) (cs ds : List Char) :
    readFrom? n (cs ++ ds) = (readFrom? n cs).bind fun m => readFrom? m ds := by
  induction cs generalizing n with
  | nil => rfl
  | cons c rest ih =>
    cases h : value? c with
    | none => simp [readFrom?, h]
    | some d => simp [readFrom?, h, ih]

theorem readFrom?_fixed (width m n : Nat) (h : n < Nat.pow 10 width) :
    readFrom? m (fixed width n) = some (m * Nat.pow 10 width + n) := by
  induction width generalizing n with
  | zero => simp_all [fixed, readFrom?]
  | succ width ih =>
    have hlt : n / 10 < Nat.pow 10 width := by
      change n < Nat.pow 10 width * 10 at h
      exact Nat.div_lt_of_lt_mul (by rwa [Nat.mul_comm])
    simp only [fixed, readFrom?_append, ih _ hlt, Option.bind_some, readFrom?, value?_ofNat]
    congr 1
    change _ = m * (Nat.pow 10 width * 10) + n
    rw [Nat.add_mul, Nat.mul_assoc]
    omega

theorem read?_fixed (width n : Nat) (h : n < Nat.pow 10 width) :
    read? (fixed width n) = some n := by
  simpa [read?] using readFrom?_fixed width 0 n h

/-- The number that a hexadecimal digit stands for. -/
def hexValue? (c : Char) : Option Nat :=
  if c.isDigit then some (c.toNat - 48)
  else if 'a' ≤ c ∧ c ≤ 'f' then some (c.toNat - 87)
  else if 'A' ≤ c ∧ c ≤ 'F' then some (c.toNat - 55)
  else none

end SessionCookies.Digits
