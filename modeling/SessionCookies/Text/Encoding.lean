import SessionCookies.Text.Utf16
import SessionCookies.Text.Utf8

/-!
# Encodings of Unicode

The encodings in which a JSON text may come, the recognition of each, and the characters that bytes
spell. The first two characters of a JSON text are ASCII, so the zeros among the first four bytes
tell the width of a code unit and the order of its bytes.
-/

namespace SessionCookies

/-- The order of the bytes of a code unit. -/
inductive ByteOrder where
  | big | little
  deriving DecidableEq, Repr

inductive Encoding where
  | utf8
  | utf16 (order : ByteOrder)
  | utf32 (order : ByteOrder)
  deriving DecidableEq, Repr

/-- The number that bytes stand for in some order. -/
def ByteOrder.value (order : ByteOrder) (bytes : List UInt8) : Nat :=
  match order with
  | .big => bytes.foldl (fun n b => n * 256 + b.toNat) 0
  | .little => bytes.foldr (fun b n => n * 256 + b.toNat) 0

namespace Encoding

/-- The encoding of a JSON text. -/
def ofBytes : List UInt8 → Encoding
  | 0 :: 0 :: _ :: _ :: _ => .utf32 .big
  | 0 :: _ :: _ :: _ :: _ => .utf16 .big
  | _ :: 0 :: 0 :: 0 :: _ => .utf32 .little
  | _ :: 0 :: _ :: _ :: _ => .utf16 .little
  | [0, _] => .utf16 .big
  | [_, 0] => .utf16 .little
  | _ => .utf8

/-- The code units of two bytes each. -/
def units? (order : ByteOrder) : List UInt8 → Option Units
  | [] => some []
  | a :: b :: rest => (units? order rest).map (UInt16.ofNat (order.value [a, b]) :: ·)
  | _ => none

/-- The characters of four bytes each. -/
def wideChars? (order : ByteOrder) : List UInt8 → Option (List Char)
  | [] => some []
  | a :: b :: c :: d :: rest =>
    let n := order.value [a, b, c, d]
    if n.isValidChar then (wideChars? order rest).map (Char.ofNat n :: ·) else none
  | _ => none

/-- The characters without a byte order mark at their beginning. -/
def withoutMark : List Char → List Char
  | '\ufeff' :: rest => rest
  | cs => cs

/-- The characters that bytes spell in an encoding; a mark in front of UTF-8 is none of them. -/
def decode? (bytes : List UInt8) : Encoding → Option (List Char)
  | .utf8 => (Utf8.text? bytes).map fun text => withoutMark text.toList
  | .utf16 order => (units? order bytes).bind Units.chars?
  | .utf32 order => wideChars? order bytes

end Encoding

end SessionCookies
