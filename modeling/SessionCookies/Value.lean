import SessionCookies.Decimal.Shortest
import SessionCookies.Fault
import SessionCookies.Json.Printer
import SessionCookies.Json.Reader

/-!
# Values to be kept

The values that a handler may try to put into a session, and the JSON value that each becomes. Lists
and tuples become arrays. The keys of a dictionary become texts; two keys that differ may become the
same text, and then both fields are written. Some values have no JSON form, and one that is nested
too deeply to be read again has none either.
-/

namespace SessionCookies

/-- A key of a dictionary. -/
inductive DictionaryKey where
  | null
  | bool (b : Bool)
  | int (n : Int)
  | float (x : Float)
  | string (s : Units)
  /-- A key that JSON has no text for. -/
  | foreign
  deriving Inhabited

inductive Value where
  | null
  | bool (b : Bool)
  | int (n : Int)
  | float (x : Float)
  | string (s : Units)
  | list (items : List Value)
  | tuple (items : List Value)
  | dictionary (entries : List (DictionaryKey × Value))
  /-- A value that JSON has no form for. -/
  | foreign
  /-- A list that contains itself. -/
  | circular
  deriving Inhabited

/-! ### Keys -/

namespace DictionaryKey

/-- The integer that a float is equal to. -/
def wholeFloat? (x : Float) : Option Int :=
  if x.isNaN || x.isInf then none
  else
    let b := Decimal.Binary.ofFloat x
    let magnitude? : Option Nat :=
      if 0 ≤ b.exponent then some (b.mantissa * Nat.pow 2 b.exponent.toNat)
      else
        let unit := Nat.pow 2 (-b.exponent).toNat
        if b.mantissa % unit = 0 then some (b.mantissa / unit) else none
    magnitude?.map fun n => if x < 0 then -Int.ofNat n else Int.ofNat n

/-- The integer that a key is equal to, a truth value counting as 0 or 1. -/
def integer? : DictionaryKey → Option Int
  | .bool b => some (if b then 1 else 0)
  | .int n => some n
  | .float x => wholeFloat? x
  | _ => none

/-- Whether two keys are the same key of a dictionary: numbers are compared by their value. -/
def same (a b : DictionaryKey) : Bool :=
  match a.integer?, b.integer? with
  | some m, some n => m = n
  | none, none =>
    match a, b with
    | .null, .null => true
    | .float x, .float y => x == y
    | .string s, .string t => s = t
    | _, _ => false
  | _, _ => false

/-- The text of a key. -/
def text? : DictionaryKey → Except Fault Units
  | .null => .ok (Units.ofString "null")
  | .bool b => .ok (Units.ofString (if b then "true" else "false"))
  | .int n =>
    let cs := Json.writeInt n
    if (Json.writeNat n.natAbs).length ≤ Json.maxIntegerDigits then .ok (Units.ofChars cs)
    else .error .integerTooLong
  | .float x => .ok (Units.ofChars (Json.writeFloat x))
  | .string s => .ok s
  | .foreign => .error .notSerialisable

end DictionaryKey

namespace Value

/-! ### Dictionaries -/

/-- Puts a value under a key: a key that is there keeps its place and its spelling. -/
def putEntry (key : DictionaryKey) (v : Value) :
    List (DictionaryKey × Value) → List (DictionaryKey × Value)
  | [] => [(key, v)]
  | (other, old) :: rest =>
    if other.same key then (other, v) :: rest else (other, old) :: putEntry key v rest

/-- The dictionary with entries put one after another. -/
def ofEntries (entries : List (DictionaryKey × Value)) : Value :=
  .dictionary (entries.foldl (fun kept (key, v) => putEntry key v kept) [])

/-! ### The JSON value -/

/-- How deeply the parts of a list, a tuple or a dictionary may be nested, given how deeply the
whole may be. -/
def depthInside : Nat → Except Fault Nat
  | 0 => .error .nestedTooDeeply
  | depth + 1 => .ok depth

mutual
/-- The JSON value of a value in which up to `depth` lists, tuples and dictionaries that are not
empty may enclose one another, or the first reason in writing order why it has none. -/
def toJsonWithin? (depth : Nat) : Value → Except Fault Json
  | .null => .ok .null
  | .bool b => .ok (.bool b)
  | .int n =>
    if (Json.writeNat n.natAbs).length ≤ Json.maxIntegerDigits then .ok (.int n)
    else .error .integerTooLong
  | .float x => .ok (.float x)
  | .string s => .ok (.string s)
  | .list [] | .tuple [] => .ok (.array [])
  | .list items | .tuple items => do
    let depth ← depthInside depth
    return .array (← itemsToJson? depth items)
  | .dictionary [] => .ok (.object [])
  | .dictionary entries => do
    let depth ← depthInside depth
    return .object (← entriesToJson? depth entries)
  | .foreign => .error .notSerialisable
  | .circular => .error .circularValue

def itemsToJson? (depth : Nat) : List Value → Except Fault (List Json)
  | [] => .ok []
  | v :: rest => do
    let v ← v.toJsonWithin? depth
    let rest ← itemsToJson? depth rest
    return v :: rest

def entriesToJson? (depth : Nat) :
    List (DictionaryKey × Value) → Except Fault (List (Units × Json))
  | [] => .ok []
  | (key, v) :: rest => do
    let key ← key.text?
    let v ← v.toJsonWithin? depth
    let rest ← entriesToJson? depth rest
    return (key, v) :: rest
end

/-- The JSON value of a value: it is nested as deeply as a text may be that is to be read again. -/
def toJson? (v : Value) : Except Fault Json := v.toJsonWithin? Json.Limits.general.depth

/-- The JSON text of a value. -/
def toText? (v : Value) : Except Fault String := v.toJson?.map Json.toText

mutual
/-- A JSON value as a value to be kept. -/
def ofJson : Json → Value
  | .null => .null
  | .bool b => .bool b
  | .int n => .int n
  | .float x => .float x
  | .string s => .string s
  | .array items => .list (ofItems items)
  | .object fields => .dictionary (ofFields fields)

def ofItems : List Json → List Value
  | [] => []
  | v :: rest => ofJson v :: ofItems rest

def ofFields : List (Units × Json) → List (DictionaryKey × Value)
  | [] => []
  | (name, v) :: rest => (.string name, ofJson v) :: ofFields rest
end

end Value

end SessionCookies
