import SessionCookies.Handler.Basic
import SessionCookies.Text.Blank
import SessionCookies.Text.Encoding
import SessionCookies.Text.Split

/-!
# Login requests

The body of a login request is a JSON object with a user name of at least one character. A body of
another media type, a text that is no JSON, and an object without such a name are refused, each with
its own complaint.
-/

namespace SessionCookies.Login

/-- What a request body comes to. -/
inductive Reading where
  | accepted (username : String)
  | refused (complaints : List Complaint)
  | failed (fault : Fault)

def complaint (kind : String) (place : List Place) : Reading := .refused [⟨kind, place⟩]

def body : Place := .field "body"

/-- The media type in front of the parameters, in lower case. -/
def mediaType (header : List Char) : List Char :=
  (Blank.strip (header.takeWhile (· ≠ ';'))).map Char.toLower

/-- Whether a media type is `application/json` or `application/…+json`. -/
def isJsonType (header : String) : Bool :=
  match Split.pieces '/' (mediaType header.toList) with
  | [main, sub] => main = "application".toList &&
      (sub = "json".toList || "+json".toList.isSuffixOf sub)
  | _ => false

mutual
/-- Whether a value can be shown to the client again: it has no float without a decimal form and no
string that cannot be spelled. -/
def isShowable : Json → Bool
  | .float x => !x.isNaN && !x.isInf
  | .string s => (Units.chars? s).isSome
  | .array items => areShowable items
  | .object fields => fieldsAreShowable fields
  | _ => true

def areShowable : List Json → Bool
  | [] => true
  | v :: rest => isShowable v && areShowable rest

def fieldsAreShowable : List (Units × Json) → Bool
  | [] => true
  | (name, v) :: rest => (Units.chars? name).isSome && isShowable v && fieldsAreShowable rest
end

/-- A complaint about a value, which is shown with it. -/
def complaintAbout (v : Json) (kind : String) (place : List Place) : Reading :=
  if isShowable v then complaint kind place else .failed .notEncodable

/-- The user name in a value. -/
def ofJson (v : Json) : Reading :=
  match v with
  | .null => complaint "missing" [body]
  | .object _ =>
    match v.field? "username" with
    | none => complaintAbout v "missing" [body, .field "username"]
    | some (.string s) =>
      match Units.toString? s with
      | none => complaintAbout (.string s) "string_unicode" [body, .field "username"]
      | some "" => complaint "string_too_short" [body, .field "username"]
      | some username => .accepted username
    | some name => complaintAbout name "string_type" [body, .field "username"]
  | v => complaintAbout v "model_attributes_type" [body]

/-- The fault of a body that cannot be taken apart. -/
def unparsable : Fault := .raised (.http 400) "There was an error parsing the body"

/-- The value of a body in any encoding of Unicode. -/
def readBody? (bytes : List UInt8) : Except Fault Json :=
  match ((Encoding.ofBytes bytes).decode? bytes).map Json.ofChars? with
  | some (.ok v) => .ok v
  | some (.error (.notJson position)) => .error (.notJson position)
  | _ => .error unparsable

/-- The user name in the body of a request. -/
def ofRequest (r : Request) : Reading :=
  if r.body.isEmpty then complaint "missing" [body]
  else if isJsonType ((r.header? "content-type").getD "") then
    match readBody? (Utf8.bytes r.body) with
    | .ok v => ofJson v
    | .error (.notJson position) => complaint "json_invalid" [body, .character position]
    | .error fault => .failed fault
  else complaint "model_attributes_type" [body]

end SessionCookies.Login
