import SessionCookies.Text.Case.Mapping
import SessionCookies.Text.Case.Property

/-!
# Upper and lower case

A text in upper case or in lower case, letter by letter. The one letter that looks at its
neighbours is the sigma: at the end of a word its lower case is another letter.
-/

namespace SessionCookies.Case

/-- The characters that a character becomes. -/
def mapped (expansions : List (Nat × List Nat)) (runs : List Run) (c : Char) : List Char :=
  match expansions.lookup c.toNat with
  | some numbers => numbers.map Char.ofNat
  | none =>
    match runs.findSome? fun run => run.map? c.toNat with
    | some n => [Char.ofNat n]
    | none => [c]

def upperChar (c : Char) : List Char := mapped upperExpansions upperRuns c

/-- The lower case of a character that stands anywhere. -/
def lowerChar (c : Char) : List Char := mapped lowerExpansions lowerRuns c

/-- Whether the first character that is not ignorable has case. -/
def startsCased (cs : List Char) : Bool :=
  ((cs.dropWhile fun c => isInRanges ignorableRanges c.toNat).head?).any fun c =>
    isInRanges casedRanges c.toNat

/-- The lower case of a text; `before` is what stands before it, the nearest character first. -/
def lowerFrom (before : List Char) : List Char → List Char
  | [] => []
  | c :: rest =>
    (if c = 'Σ' && startsCased before && !startsCased rest then ['ς'] else lowerChar c) ++
      lowerFrom (c :: before) rest

def lowerText (s : String) : String := String.ofList (lowerFrom [] s.toList)

def upperText (s : String) : String := String.ofList (s.toList.flatMap upperChar)

end SessionCookies.Case
