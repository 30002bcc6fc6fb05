/-!
# Base64

Bytes written as base64 text over the standard alphabet, and the strict reader of such text. The
reader takes every text that `encode` writes. It takes three more kinds of text, all with the same
bytes as a canonical one: the unused low bits of the last digit may be set, and whole groups of four
digits may be followed by any number of padding signs.
-/

namespace SessionCookies.Base64

/-! ### Digits -/

/-- The base64 digit of a number below 64. -/
def digit (n : Nat) : Char :=
  if n < 26 then Char.ofNat (n + 65)
  else if n < 52 then Char.ofNat (n + 71)
  else if n < 62 then Char.ofNat (n - 4)
  else if n = 62 then '+' else '/'

/-- The number that a base64 digit stands for; no other character, the padding sign included, has
one. -/
def digitValue? (c : Char) : Option Nat :=
  if 65 ≤ c.toNat ∧ c.toNat ≤ 90 then some (c.toNat - 65)
  else if 97 ≤ c.toNat ∧ c.toNat ≤ 122 then some (c.toNat - 71)
  else if 48 ≤ c.toNat ∧ c.toNat ≤ 57 then some (c.toNat + 4)
  else if c = '+' then some 62
  else if c = '/' then some 63
  else none

theorem digitValue?_digit : ∀ n < 64, digitValue? (digit n) = some n := by decide

/-! ### Writing -/

/-- Every three bytes become four digits; one or two bytes left over are padded to four
characters. -/
def encode : List UInt8 → List Char
  | [] => []
  | [a] => [digit (a.toNat / 4), digit (a.toNat % 4 * 16), '=', '=']
  | [a, b] =>
    [digit (a.toNat / 4), digit (a.toNat % 4 * 16 + b.toNat / 16), digit (b.toNat % 16 * 4), '=']
  | a :: b :: c :: rest =>
    digit (a.toNat / 4) :: digit (a.toNat % 4 * 16 + b.toNat / 16) ::
      digit (b.toNat % 16 * 4 + c.toNat / 64) :: digit (c.toNat % 64) :: encode rest

@[simp] theorem encode_nil : encode [] = [] := rfl

theorem length_encode (bytes : List UInt8) :
    (encode bytes).length = (bytes.length + 2) / 3 * 4 := by
  fun_induction encode bytes <;> simp_all; omega

/-- The base64 text of some bytes. -/
def text (bytes : List UInt8) : String := String.ofList (encode bytes)

/-! ### Reading -/

/-- The byte whose high bits end one digit and whose low bits begin the next. -/
def joined (high low : Nat) : UInt8 := UInt8.ofNat (high + low)

/-- Reads whole groups of four digits, of which the last may be padded; after a whole group the text
may also end in padding signs alone. -/
def decode? : List Char → Option (List UInt8)
  | [] => some []
  | [p, q, '=', '='] => do
    let p ← digitValue? p
    let q ← digitValue? q
    return [joined (p * 4) (q / 16)]
  | [p, q, r, '='] => do
    let p ← digitValue? p
    let q ← digitValue? q
    let r ← digitValue? r
    return [joined (p * 4) (q / 16), joined (q % 16 * 16) (r / 4)]
  | p :: q :: r :: s :: rest => do
    let p ← digitValue? p
    let q ← digitValue? q
    let r ← digitValue? r
    let s ← digitValue? s
    let more ← if rest.all (· = '=') then some [] else decode? rest
    return joined (p * 4) (q / 16) :: joined (q % 16 * 16) (r / 4) :: joined (r % 4 * 64) s :: more
  | _ => none

/-- The bytes that a base64 text stands for. -/
def bytes? (s : String) : Option (List UInt8) := decode? s.toList

end SessionCookies.Base64
