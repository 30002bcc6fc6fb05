import SessionCookies.Fault
import SessionCookies.Json.Basic
import SessionCookies.Text.Digits

/-!
# Reading JSON

A strict reader of JSON texts. It takes the grammar of RFC 8259 and three more values, `NaN`,
`Infinity` and `-Infinity`; there are limits on the digits of numbers and on nesting. Fields come
out in the order in which they stand, a name that stands twice included. Where a text cannot be
read, the fault tells at which character: an open string is reported at its opening quote, a bad
escape where it begins.
-/

namespace SessionCookies.Json

/-! ### Limits -/

/-- The greatest number of digits that an integer may have. -/
def maxIntegerDigits : Nat := 4300

/-- What a reader puts up with. -/
structure Limits where
  /-- How many arrays and objects that are not empty may enclose one another. -/
  depth : Nat
  /-- Whether the bound on the digits of an integer is one on what stands before the point of every
  number, the sign included. -/
  boundsFloats : Bool

/-- The limits for any text. -/
def Limits.general : Limits := ⟨970, false⟩

/-! ### Faults -/

/-- Why a text cannot be read: it goes wrong where `rest` begins, or has a number with too many
digits, or is nested too deeply. -/
inductive ReadError where
  | invalid (rest : List Char)
  | integerTooLong
  | tooDeep

/-- The fault of an error in a text of `total` characters. -/
def ReadError.fault (total : Nat) : ReadError → Fault
  | .invalid rest => .notJson (total - rest.length)
  | .integerTooLong => .integerTooLong
  | .tooDeep => .nestedTooDeeply

/-! ### Tokens -/

/-- The characters that may stand between tokens. -/
def isBlank (c : Char) : Bool := c = ' ' || c = '\t' || c = '\n' || c = '\r'

def skipBlank (cs : List Char) : List Char := cs.dropWhile isBlank

/-- The code unit that four hexadecimal digits stand for. -/
def hexUnit? (a b c d : Char) : Option UInt16 := do
  let a ← Digits.hexValue? a
  let b ← Digits.hexValue? b
  let c ← Digits.hexValue? c
  let d ← Digits.hexValue? d
  return UInt16.ofNat (((a * 16 + b) * 16 + c) * 16 + d)

/-- The code unit that a character stands for after a backslash. -/
def escaped? (c : Char) : Option UInt16 :=
  match c with
  | '"' => some 0x22
  | '\\' => some 0x5C
  | '/' => some 0x2F
  | 'b' => some 0x08
  | 'f' => some 0x0C
  | 'n' => some 0x0A
  | 'r' => some 0x0D
  | 't' => some 0x09
  | _ => none

/-- The rest of a string literal after its opening quote, and what follows its closing one; `start`
is the literal from its opening quote on. -/
def stringBody (start : List Char) : List Char → Except ReadError (Units × List Char)
  | [] | ['\\'] => .error (.invalid start)
  | '"' :: rest => .ok ([], rest)
  | '\\' :: 'u' :: a :: b :: c :: d :: e :: rest =>
    match hexUnit? a b c d with
    | some u => (stringBody start (e :: rest)).map fun (us, rest) => (u :: us, rest)
    | none => .error (.invalid ('u' :: a :: b :: c :: d :: e :: rest))
  | '\\' :: c :: rest =>
    match escaped? c with
    | some u => (stringBody start rest).map fun (us, rest) => (u :: us, rest)
    | none => .error (.invalid (if c = 'u' then c :: rest else '\\' :: c :: rest))
  | c :: rest =>
    if c.toNat < 0x20 then .error (.invalid (c :: rest))
    else (stringBody start rest).map fun (us, rest) => (Units.ofChar c ++ us, rest)

/-! ### Numbers -/

/-- The parts of a number: the digits before the point, those after it, and the exponent. -/
structure Numeral where
  negative : Bool
  whole : List Char
  fraction : List Char := []
  exponent : Option Int := none

/-- The number that a run of decimal digits stands for. -/
def digitsValue (cs : List Char) : Nat := cs.foldl (fun n c => n * 10 + (c.toNat - 48)) 0

/-- The digits before the point: a zero alone, or digits that do not begin with one. -/
def wholeDigits? : List Char → Option (List Char × List Char)
  | '0' :: rest => some (['0'], rest)
  | c :: rest =>
    if c.isDigit then some (c :: rest.takeWhile Char.isDigit, rest.dropWhile Char.isDigit) else none
  | [] => none

/-- A point and the digits after it, if there is one with digits. -/
def fractionDigits (cs : List Char) : List Char × List Char :=
  match cs with
  | '.' :: rest =>
    match rest.takeWhile Char.isDigit with
    | [] => ([], cs)
    | digits => (digits, rest.dropWhile Char.isDigit)
  | _ => ([], cs)

/-- Whether an exponent is negative, and what stands after its sign, if it has one. -/
def exponentSign (cs : List Char) : Bool × List Char :=
  match cs with
  | '-' :: rest => (true, rest)
  | '+' :: rest => (false, rest)
  | _ => (false, cs)

/-- The exponent that stands after its mark: a sign, if any, and digits. -/
def signedDigits? (cs : List Char) : Option (Int × List Char) :=
  let (negative, cs) := exponentSign cs
  match cs.takeWhile Char.isDigit with
  | [] => none
  | digits =>
    let n := Int.ofNat (digitsValue digits)
    some (if negative then -n else n, cs.dropWhile Char.isDigit)

/-- An exponent with its mark, if there is one with digits. -/
def exponentPart (cs : List Char) : Option Int × List Char :=
  match cs with
  | c :: rest =>
    if c = 'e' ∨ c = 'E' then
      match signedDigits? rest with
      | some (n, rest) => (some n, rest)
      | none => (none, cs)
    else (none, cs)
  | [] => (none, cs)

/-- Whether a number is negative, and what stands after its minus, if it has one. -/
def numberSign (cs : List Char) : Bool × List Char :=
  match cs with
  | '-' :: rest => (true, rest)
  | _ => (false, cs)

/-- The longest number that a text begins with. -/
def numeral? (cs : List Char) : Option (Numeral × List Char) := do
  let (negative, cs) := numberSign cs
  let (whole, cs) ← wholeDigits? cs
  let (fraction, cs) := fractionDigits cs
  let (exponent, cs) := exponentPart cs
  return (⟨negative, whole, fraction, exponent⟩, cs)

/-- The float nearest to a decimal with some digits after the point and an exponent. -/
def Numeral.toFloat (n : Numeral) : Float :=
  let scale := n.exponent.getD 0 - n.fraction.length
  let magnitude := Float.ofScientific (digitsValue (n.whole ++ n.fraction)) (scale < 0) scale.natAbs
  if n.negative then -magnitude else magnitude

/-- Whether a number is an integer: it has neither a point nor an exponent. -/
def Numeral.isInteger (n : Numeral) : Bool := n.fraction.isEmpty && n.exponent.isNone

/-- How many characters stand before the point, the sign included. -/
def Numeral.width (n : Numeral) : Nat := n.whole.length + if n.negative then 1 else 0

/-- Whether a number has no more digits than it may have. -/
def Numeral.isWithin (limits : Limits) (n : Numeral) : Bool :=
  if limits.boundsFloats then n.width ≤ maxIntegerDigits
  else !n.isInteger || n.whole.length ≤ maxIntegerDigits

/-- The value of a number. -/
def Numeral.value (limits : Limits) (n : Numeral) : Except ReadError Json :=
  if n.isWithin limits then
    if n.isInteger then
      let magnitude := Int.ofNat (digitsValue n.whole)
      .ok (.int (if n.negative then -magnitude else magnitude))
    else .ok (.float n.toFloat)
  else .error .integerTooLong

def positiveInfinity : Float := 1.0 / 0.0

def notANumber : Float := 0.0 / 0.0

/-! ### Values -/

/-- The limits one level deeper. -/
def Limits.inside (limits : Limits) : Except ReadError Limits :=
  match limits.depth with
  | 0 => .error .tooDeep
  | depth + 1 => .ok { limits with depth }

mutual
/-- The value that a text begins with, and the rest. The fuel bounds the number of nested calls; a
text needs at most two for each of its characters. -/
def readValue (limits : Limits) : Nat → List Char → Except ReadError (Json × List Char)
  | 0, cs => .error (.invalid cs)
  | fuel + 1, cs =>
    match cs with
    | '"' :: rest => (stringBody cs rest).map fun (us, rest) => (.string us, rest)
    | '[' :: rest =>
      match skipBlank rest with
      | ']' :: rest => .ok (.array [], rest)
      | rest => do
        let (items, rest) ← readItems (← limits.inside) fuel rest
        return (.array items, rest)
    | '\x7b' :: rest =>
      match skipBlank rest with
      | '\x7d' :: rest => .ok (.object [], rest)
      | rest => do
        let (fields, rest) ← readFields (← limits.inside) fuel rest
        return (.object fields, rest)
    | 'n' :: 'u' :: 'l' :: 'l' :: rest => .ok (.null, rest)
    | 't' :: 'r' :: 'u' :: 'e' :: rest => .ok (.bool true, rest)
    | 'f' :: 'a' :: 'l' :: 's' :: 'e' :: rest => .ok (.bool false, rest)
    | 'N' :: 'a' :: 'N' :: rest => .ok (.float notANumber, rest)
    | 'I' :: 'n' :: 'f' :: 'i' :: 'n' :: 'i' :: 't' :: 'y' :: rest =>
      .ok (.float positiveInfinity, rest)
    | '-' :: 'I' :: 'n' :: 'f' :: 'i' :: 'n' :: 'i' :: 't' :: 'y' :: rest =>
      .ok (.float (-positiveInfinity), rest)
    | _ =>
      match numeral? cs with
      | some (n, rest) => (n.value limits).map fun v => (v, rest)
      | none => .error (.invalid cs)

/-- At least one item of an array, and what follows its closing bracket. -/
def readItems (limits : Limits) : Nat → List Char → Except ReadError (List Json × List Char)
  | 0, cs => .error (.invalid cs)
  | fuel + 1, cs => do
    let (v, rest) ← readValue limits fuel cs
    match skipBlank rest with
    | ',' :: rest =>
      let (vs, rest) ← readItems limits fuel (skipBlank rest)
      return (v :: vs, rest)
    | ']' :: rest => return ([v], rest)
    | rest => .error (.invalid rest)

/-- At least one field of an object, and what follows its closing brace. -/
def readFields (limits : Limits) :
    Nat → List Char → Except ReadError (List (Units × Json) × List Char)
  | 0, cs => .error (.invalid cs)
  | fuel + 1, cs =>
    match cs with
    | '"' :: rest => do
      let (name, rest) ← stringBody cs rest
      match skipBlank rest with
      | ':' :: rest =>
        let (v, rest) ← readValue limits fuel (skipBlank rest)
        match skipBlank rest with
        | ',' :: rest =>
          let (fields, rest) ← readFields limits fuel (skipBlank rest)
          return ((name, v) :: fields, rest)
        | '\x7d' :: rest => return ([(name, v)], rest)
        | rest => .error (.invalid rest)
      | rest => .error (.invalid rest)
    | cs => .error (.invalid cs)
end

/-- The value of a whole text, with every field that stands in it. -/
def readAll (limits : Limits) (cs : List Char) : Except ReadError Json := do
  let (v, rest) ← readValue limits (2 * cs.length + 2) (skipBlank cs)
  match skipBlank rest with
  | [] => return v
  | rest => .error (.invalid rest)

def readChars (limits : Limits) (cs : List Char) : Except Fault Json :=
  (readAll limits cs).mapError (ReadError.fault cs.length)

/-- The value of a text, in which of several fields of one name the last counts. -/
def ofChars? (cs : List Char) : Except Fault Json := (readChars .general cs).map collapse

def ofText? (s : String) : Except Fault Json := ofChars? s.toList

end SessionCookies.Json
