import SessionCookies.Text.Blank
import SessionCookies.Text.Split

/-!
# Numerals

Integers written with the decimal digits of any script: a sign, and digits between which single
underscores may stand. White space around the numeral does not count. There is a bound on the number
of digits. Decimals are written in the same way, with a point and an exponent or by the names of the
values that are no numbers.
-/

namespace SessionCookies.Numeral

/-- The zeros of the scripts of Unicode 14; the other digits of a script follow its zero. -/
def zeros : List Nat := [
  0x30, 0x660, 0x6F0, 0x7C0, 0x966, 0x9E6, 0xA66, 0xAE6, 0xB66, 0xBE6, 0xC66, 0xCE6, 0xD66, 0xDE6,
  0xE50, 0xED0, 0xF20, 0x1040, 0x1090, 0x17E0, 0x1810, 0x1946, 0x19D0, 0x1A80, 0x1A90, 0x1B50,
  0x1BB0, 0x1C40, 0x1C50, 0xA620, 0xA8D0, 0xA900, 0xA9D0, 0xA9F0, 0xAA50, 0xABF0, 0xFF10, 0x104A0,
  0x10D30, 0x11066, 0x110F0, 0x11136, 0x111D0, 0x112F0, 0x11450, 0x114D0, 0x11650, 0x116C0, 0x11730,
  0x118E0, 0x11950, 0x11C50, 0x11D50, 0x11DA0, 0x16A60, 0x16AC0, 0x16B50, 0x1D7CE, 0x1D7D8, 0x1D7E2,
  0x1D7EC, 0x1D7F6, 0x1E140, 0x1E2F0, 0x1E950, 0x1FBF0]

/-- The number that a decimal digit of any script stands for. -/
def digit? (c : Char) : Option Nat :=
  zeros.findSome? fun start =>
    if start ≤ c.toNat && c.toNat < start + 10 then some (c.toNat - start) else none

/-- The most digits that a numeral may have, zeros in front included. -/
def maxDigits : Nat := 4300

/-- The digits of a numeral without a sign, the most significant first. -/
def digits? (cs : List Char) : Option (List Nat) := do
  let groups ← (Split.pieces '_' cs).mapM fun group =>
    if group.isEmpty then none else group.mapM digit?
  let digits := groups.flatten
  if digits.length ≤ maxDigits then some digits else none

/-- The number that a numeral without a sign stands for. -/
def magnitude? (cs : List Char) : Option Nat :=
  (digits? cs).map fun digits => digits.foldl (fun n d => n * 10 + d) 0

/-- White space around a numeral; the separators of ASCII are none. -/
def isPadding (c : Char) : Bool :=
  Blank.isBlank c && !(0x1C ≤ c.toNat && c.toNat ≤ 0x1F)

/-- The characters without the white space at both ends. -/
def trimmed (cs : List Char) : List Char :=
  ((cs.dropWhile isPadding).reverse.dropWhile isPadding).reverse

/-- The integer that a numeral stands for. -/
def ofText? (s : String) : Option Int :=
  match trimmed s.toList with
  | '-' :: cs => (magnitude? cs).map fun n => -Int.ofNat n
  | '+' :: cs => (magnitude? cs).map Int.ofNat
  | cs => (magnitude? cs).map Int.ofNat

/-! ### Decimals -/

/-- A character with a digit of any script given by that of ASCII. -/
def plainDigit (c : Char) : Char :=
  match digit? c with
  | some n => Char.ofNat (n + 48)
  | none => c

/-- The digits that a text begins with, underscores included, and the rest. -/
def takeDigits (cs : List Char) : List Char × List Char :=
  (cs.takeWhile fun c => c.isDigit || c = '_', cs.dropWhile fun c => c.isDigit || c = '_')

/-- Whether every underscore in a run of digits stands between two of them. -/
def isGrouped (run : List Char) : Bool := (Split.pieces '_' run).all fun group => !group.isEmpty

/-- A text without the sign in front, if there is one. -/
def withoutSign : List Char → List Char
  | '+' :: rest | '-' :: rest => rest
  | cs => cs

/-- Whether a text is empty or an exponent. -/
def isExponent : List Char → Bool
  | [] => true
  | c :: rest =>
    let (digits, rest) := takeDigits (withoutSign rest)
    (c = 'e' || c = 'E') && isGrouped digits && rest.isEmpty

/-- Whether a text is a decimal without a sign. -/
def isMagnitude (cs : List Char) : Bool :=
  let (whole, rest) := takeDigits cs
  let (fraction, rest) := match rest with
    | '.' :: rest => takeDigits rest
    | rest => ([], rest)
  (whole.isEmpty || isGrouped whole) && (fraction.isEmpty || isGrouped fraction) &&
    !(whole.isEmpty && fraction.isEmpty) && isExponent rest

/-- The names of the values that are no numbers, in lower case. -/
def valueNames : List String := ["inf", "infinity", "nan"]

/-- Whether a text is a decimal. -/
def isDecimal (s : List Char) : Bool :=
  let cs := withoutSign ((trimmed s).map plainDigit)
  isMagnitude cs || valueNames.contains (String.ofList (cs.map Char.toLower))

end SessionCookies.Numeral
