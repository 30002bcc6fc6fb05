import SessionCookies.Text.Utf16

/-!
# JSON values

The values of JSON, with integers apart from floats and with the fields of an object in the order in
which they were written. A field may be written more than once; `collapse` keeps the last value of
each name, at the place where the name first stood.
-/

namespace SessionCookies

inductive Json where
  | null
  | bool (b : Bool)
  | int (n : Int)
  | float (x : Float)
  | string (s : Units)
  | array (items : List Json)
  | object (fields : List (Units × Json))
  deriving Inhabited

namespace Json

/-- A string value. -/
def text (s : String) : Json := .string (Units.ofString s)

/-- An object with the given fields. -/
def record (fields : List (String × Json)) : Json :=
  .object (fields.map fun (name, value) => (Units.ofString name, value))

/-! ### Fields -/

/-- Puts a value under a name: at the place of the name if it is there, else at the end. -/
def putField (name : Units) (value : Json) : List (Units × Json) → List (Units × Json)
  | [] => [(name, value)]
  | (other, old) :: rest =>
    if other = name then (other, value) :: rest else (other, old) :: putField name value rest

/-- The fields with each name once: the last value, at the place of the first. -/
def distinct (fields : List (Units × Json)) : List (Units × Json) :=
  fields.foldl (fun kept (name, value) => putField name value kept) []

mutual
/-- The value in which no object has a name twice. -/
def collapse : Json → Json
  | .array items => .array (collapseItems items)
  | .object fields => .object (distinct (collapseFields fields))
  | v => v

def collapseItems : List Json → List Json
  | [] => []
  | v :: rest => v.collapse :: collapseItems rest

def collapseFields : List (Units × Json) → List (Units × Json)
  | [] => []
  | (name, v) :: rest => (name, v.collapse) :: collapseFields rest
end

/-- The value that an object has under a name, the last one if there are several. -/
def field? (name : String) : Json → Option Json
  | .object fields => (distinct fields).lookup (Units.ofString name)
  | _ => none

end Json

end SessionCookies
