import SessionCookies.Text.Digits
import SessionCookies.Text.Split

/-!
# Literal addresses

The addresses that may stand for a host in a URL. Version 4 has four numbers. Version 6 has eight
groups of hexadecimal digits, of which a gap `::` leaves out at least one, the last two perhaps in
the form of version 4, and a zone may follow. Addresses of later versions name their version.
-/

namespace SessionCookies.Address

def isHexDigit (c : Char) : Bool := (Digits.hexValue? c).isSome

/-! ### Version 4 -/

/-- Whether a text is a number up to 255 without zeros in front. -/
def isOctet (cs : List Char) : Bool :=
  !cs.isEmpty && cs.length ≤ 3 && (cs.head? ≠ some '0' || cs.length = 1) &&
    (Digits.read? cs).any (· ≤ 255)

def isVersion4 (cs : List Char) : Bool :=
  let octets := Split.pieces '.' cs
  octets.length = 4 && octets.all isOctet

/-! ### Version 6 -/

def isGroup (cs : List Char) : Bool := !cs.isEmpty && cs.length ≤ 4 && cs.all isHexDigit

/-- The number of groups in a run of them; one in the form of version 4 counts as two. -/
def groupCount? (run : List Char) : Option Nat :=
  if run.isEmpty then some 0
  else
    let groups := Split.pieces ':' run
    if groups.all isGroup then some groups.length
    else if groups.dropLast.all isGroup && (groups.getLast?.any isVersion4) then
      some (groups.length + 1)
    else none

/-- What stands before the first gap and what stands after it, if there is one. -/
def atGap? : List Char → Option (List Char × List Char)
  | ':' :: ':' :: rest => some ([], rest)
  | c :: rest => (atGap? rest).map fun (before, after) => (c :: before, after)
  | [] => none

/-- Whether a text is an address of version 6 without a zone. -/
def hasGroups (cs : List Char) : Bool :=
  match atGap? cs with
  | none => groupCount? cs = some 8
  | some (before, after) =>
    match groupCount? before, groupCount? after with
    | some m, some n => !before.contains '.' && m + n < 8
    | _, _ => false

def isVersion6 (cs : List Char) : Bool :=
  match Split.atFirst? '%' cs with
  | none => hasGroups cs
  | some (address, zone) => hasGroups address && !zone.isEmpty && !zone.contains '%'

/-! ### Later versions -/

/-- Whether a text is a `v`, a version in hexadecimal digits, a point and anything more. -/
def isLater : List Char → Bool
  | 'v' :: rest =>
    match rest.dropWhile isHexDigit with
    | '.' :: address => !(rest.takeWhile isHexDigit).isEmpty && !address.isEmpty
    | _ => false
  | _ => false

/-- Whether a text may stand between the brackets of a URL. -/
def isBracketed (cs : List Char) : Bool := isLater cs || isVersion6 cs

end SessionCookies.Address
