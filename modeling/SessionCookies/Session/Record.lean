import SessionCookies.Json.Compact
import SessionCookies.Session.Basic
import SessionCookies.Time.Reader

/-!
# Session records

A session written as a JSON object without blanks, with its id, its data and its expiry. The reader
takes more than what is written: blanks, escapes, other spellings of the expiry, fields that may be
missing or unknown. The cookie value and the marks of a session are no part of its record.
-/

namespace SessionCookies.Session

/-! ### Writing -/

/-- The fields of the data, parted by commas. -/
def writeData : List (String × String) → List Char
  | [] => []
  | [(name, raw)] => Json.compactString name ++ ':' :: Json.compactString raw
  | (name, raw) :: rest =>
    Json.compactString name ++ ':' :: Json.compactString raw ++ ',' :: writeData rest

def writeExpiry : Option Timestamp → List Char
  | none => "null".toList
  | some t => '"' :: t.rfc3339 ++ ['"']

/-- The record of a session. -/
def recordChars (s : Session) : List Char :=
  "\x7b\"id\":".toList ++ Json.compactString s.id ++ ",\"data\":\x7b".toList ++
    writeData s.data.entries ++ "\x7d,\"expiry\":".toList ++ writeExpiry s.expiry ++ ['\x7d']

def record (s : Session) : String := String.ofList s.recordChars

/-! ### Reading -/

/-- The limits for a record. -/
def recordLimits : Json.Limits := ⟨200, true⟩

mutual
/-- Whether every string of a value, names included, can be spelled in characters. -/
def isSpelled : Json → Bool
  | .string s => (Units.chars? s).isSome
  | .array items => areSpelled items
  | .object fields => fieldsAreSpelled fields
  | _ => true

def areSpelled : List Json → Bool
  | [] => true
  | v :: rest => isSpelled v && areSpelled rest

def fieldsAreSpelled : List (Units × Json) → Bool
  | [] => true
  | (name, v) :: rest => (Units.chars? name).isSome && isSpelled v && fieldsAreSpelled rest
end

/-- A string. -/
def readText? : Json → Option String
  | .string s => Units.toString? s
  | _ => none

/-- An object of strings. -/
def readData? : Json → Option (OrderedMap String String)
  | .object fields =>
    (fields.mapM fun (name, v) => do
      let name ← Units.toString? name
      let raw ← readText? v
      return (name, raw)).map OrderedMap.ofList
  | _ => none

/-- The expiry of a record; a null stands for none. -/
def readExpiry? : Json → Option (Option Timestamp)
  | .null => some none
  | v => (Timestamp.ofJson? v).map some

/-- The session of a JSON value. -/
def ofJson? (v : Json) : Option Session := do
  let id ← (v.field? "id").bind readText?
  let data ← match v.field? "data" with
    | some v => readData? v
    | none => some .empty
  let expiry ← match v.field? "expiry" with
    | some v => readExpiry? v
    | none => some none
  return { id, data, expiry }

/-- The session of a record; a record that is not well formed has none. -/
def ofRecordChars? (cs : List Char) : Option Session :=
  match Json.readChars recordLimits cs with
  | .ok v => if isSpelled v then ofJson? v else none
  | .error _ => none

def ofRecord? (record : String) : Option Session := ofRecordChars? record.toList

end SessionCookies.Session
