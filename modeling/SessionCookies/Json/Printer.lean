import SessionCookies.Decimal.Shortest
import SessionCookies.Json.Basic

/-!
# Writing JSON

JSON texts in printable ASCII: code units outside it are written as `\u` escapes, and a blank
follows each comma and colon. A float has the fewest digits that read back, a point or an
exponent, and is positional if its first digit stands from the fourth place after the point to the
sixteenth before it.
-/

namespace SessionCookies.Json

/-! ### Strings -/

/-- The hexadecimal digit of a number below 16. -/
def hexDigit (n : Nat) : Char := if n < 10 then Char.ofNat (n + 48) else Char.ofNat (n + 87)

/-- Four hexadecimal digits. -/
def hexDigits (u : UInt16) : List Char :=
  let n := u.toNat
  [hexDigit (n / 4096), hexDigit (n / 256 % 16), hexDigit (n / 16 % 16), hexDigit (n % 16)]

/-- A code unit inside a string literal. -/
def writeUnit (u : UInt16) : List Char :=
  if u = 0x22 then ['\\', '"']
  else if u = 0x5C then ['\\', '\\']
  else if u = 0x08 then ['\\', 'b']
  else if u = 0x09 then ['\\', 't']
  else if u = 0x0A then ['\\', 'n']
  else if u = 0x0C then ['\\', 'f']
  else if u = 0x0D then ['\\', 'r']
  else if 0x20 ≤ u ∧ u ≤ 0x7E then [Char.ofNat u.toNat]
  else '\\' :: 'u' :: hexDigits u

def writeString (s : Units) : List Char := '"' :: s.flatMap writeUnit ++ ['"']

/-! ### Numbers -/

def writeNat (n : Nat) : List Char := Nat.toDigits 10 n

def writeInt : Int → List Char
  | .ofNat n => writeNat n
  | .negSucc n => '-' :: writeNat (n + 1)

/-- How a decimal is laid out: positional if the point stands at a place from `least` to `most`
counted from its first digit, else with an exponent of at least two digits. -/
structure FloatLayout where
  least : Int
  most : Int

/-- Floats are positional from a ten-thousandth up to ten to the sixteenth. -/
def floatLayout : FloatLayout := ⟨-3, 16⟩

/-- Exactly `n` zeros. -/
private def zeros (n : Nat) : List Char := List.replicate n '0'

/-- The text of a positive decimal. -/
def FloatLayout.write (layout : FloatLayout) (d : Decimal.Scaled) : List Char :=
  let digits := writeNat d.digits
  let count := digits.length
  let point := d.exponent + count
  if layout.least ≤ point ∧ point ≤ layout.most then
    if point ≤ 0 then '0' :: '.' :: zeros (-point).toNat ++ digits
    else
      let whole := point.toNat
      if count ≤ whole then digits ++ zeros (whole - count) ++ ['.', '0']
      else digits.take whole ++ '.' :: digits.drop whole
  else
    let power := point - 1
    let shown := writeNat power.natAbs
    let mantissa := digits.take 1 ++ if count = 1 then [] else '.' :: digits.drop 1
    mantissa ++ 'e' :: (if power < 0 then '-' else '+') :: zeros (2 - shown.length) ++ shown

def writeFloat (x : Float) : List Char :=
  let negative := x.toBits ≥ 0x8000000000000000
  if x.isNaN then "NaN".toList
  else
    let magnitude :=
      if x.isInf then "Infinity".toList
      else if x == 0 then ['0', '.', '0']
      else floatLayout.write (Decimal.Binary.ofFloat x).shortest
    if negative then '-' :: magnitude else magnitude

/-! ### Values -/

mutual
def writeChars : Json → List Char
  | .null => ['n', 'u', 'l', 'l']
  | .bool true => ['t', 'r', 'u', 'e']
  | .bool false => ['f', 'a', 'l', 's', 'e']
  | .int n => writeInt n
  | .float x => writeFloat x
  | .string s => writeString s
  | .array items => '[' :: writeItems items
  | .object fields => '\x7b' :: writeFields fields

/-- Items with the closing bracket. -/
def writeItems : List Json → List Char
  | [] => [']']
  | [v] => writeChars v ++ [']']
  | v :: rest => writeChars v ++ ',' :: ' ' :: writeItems rest

/-- Fields with the closing brace. -/
def writeFields : List (Units × Json) → List Char
  | [] => ['\x7d']
  | [(name, v)] => writeString name ++ ':' :: ' ' :: writeChars v ++ ['\x7d']
  | (name, v) :: rest =>
    writeString name ++ ':' :: ' ' :: writeChars v ++ ',' :: ' ' :: writeFields rest
end

/-- The JSON text of a value. -/
def toText (v : Json) : String := String.ofList v.writeChars

end SessionCookies.Json
