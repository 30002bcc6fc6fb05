import SessionCookies.Text.Digits
import SessionCookies.Text.Split
import SessionCookies.Text.Utf8

/-!
# Queries

The fields in the query of a URL. A percent sign with two hexadecimal digits stands for a byte, and
runs of bytes spell characters in UTF-8; a plus sign stands for a blank.
-/

namespace SessionCookies.Query

/-- The byte that two hexadecimal digits stand for. -/
def byte? (a b : Char) : Option UInt8 := do
  let a ← Digits.hexValue? a
  let b ← Digits.hexValue? b
  return UInt8.ofNat (a * 16 + b)

/-- The characters that bytes spell; a replacement character if they are not well formed. -/
def spelled (bytes : List UInt8) : List Char :=
  ((Utf8.text? bytes).map String.toList).getD ['\ufffd']

/-- The text with its percent signs resolved, after a run of bytes read so far. -/
def unescapeAfter (run : List UInt8) : List Char → List Char
  | [] => spelled run
  | '%' :: a :: b :: rest =>
    match byte? a b with
    | some byte => unescapeAfter (run ++ [byte]) rest
    | none => unescapeAfter (run ++ [37]) (a :: b :: rest)
  | c :: rest =>
    if c.toNat < 128 then unescapeAfter (run ++ [UInt8.ofNat c.toNat]) rest
    else spelled run ++ c :: unescapeAfter [] rest

/-- The text with its percent signs resolved. -/
def unescape (cs : List Char) : List Char := unescapeAfter [] cs

/-- A name or a value of a field. -/
def fieldText (cs : List Char) : List Char := unescape (cs.map fun c => if c = '+' then ' ' else c)

/-- The fields of a query that have a value. -/
def fields (query : List Char) : List (List Char × List Char) :=
  (Split.pieces '&' query).filterMap fun piece =>
    match Split.atFirst? '=' piece with
    | some (name, value) =>
      if value.isEmpty then none else some (fieldText name, fieldText value)
    | none => none

end SessionCookies.Query
