/-!
# UTF-16 code units

Text as the code units of UTF-16. Unlike a `String` it can hold half of a surrogate pair alone, so
every string literal of JSON has a value. A `String` read back from its own units is the same.
-/

namespace SessionCookies

/-- A text given by its UTF-16 code units. -/
abbrev Units := List UInt16

namespace Units

/-- The one or two code units of a character. -/
def ofChar (c : Char) : Units :=
  if c.toNat < 0x10000 then [UInt16.ofNat c.toNat]
  else
    [UInt16.ofNat (0xD800 + (c.toNat - 0x10000) / 0x400),
     UInt16.ofNat (0xDC00 + (c.toNat - 0x10000) % 0x400)]

def ofChars (cs : List Char) : Units := cs.flatMap ofChar

def ofString (s : String) : Units := ofChars s.toList

def isHighSurrogate (u : UInt16) : Bool := 0xD800 ≤ u && u < 0xDC00

def isLowSurrogate (u : UInt16) : Bool := 0xDC00 ≤ u && u < 0xE000

/-- The character that a surrogate pair stands for. -/
def paired (high low : UInt16) : Char :=
  Char.ofNat (0x10000 + (high.toNat - 0xD800) * 0x400 + (low.toNat - 0xDC00))

/-- The characters of a text; a surrogate without its partner has none. -/
def chars? : Units → Option (List Char)
  | [] => some []
  | u :: rest =>
    if isHighSurrogate u then
      match rest with
      | v :: rest =>
        if isLowSurrogate v then (chars? rest).map (paired u v :: ·) else none
      | [] => none
    else if isLowSurrogate u then none
    else (chars? rest).map (Char.ofNat u.toNat :: ·)

/-- The text as a `String`; a surrogate without its partner has none. -/
def toString? (units : Units) : Option String := (chars? units).map String.ofList

@[simp] theorem ofChars_nil : ofChars [] = [] := rfl

@[simp] theorem ofChars_cons (c : Char) (cs : List Char) :
    ofChars (c :: cs) = ofChar c ++ ofChars cs := rfl

end Units

end SessionCookies
