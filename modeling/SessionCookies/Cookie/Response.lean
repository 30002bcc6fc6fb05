import SessionCookies.Cookie.Quoted
import SessionCookies.Time.HttpDate
import SessionCookies.Time.Timestamp

/-!
# Cookies of a response

What a cookie consists of, and the header that sets it: the name, the quoted value, and those
attributes that have a value, in the order of their names. A cookie is deleted by one without a
value that has expired at once. The session cookie is never shown to scripts.
-/

namespace SessionCookies

/-- When a browser sends a cookie along with requests that other sites begin. -/
inductive SameSite where
  | lax | strict | none
  deriving DecidableEq, Repr

namespace SameSite

def name : SameSite → String
  | .lax => "lax"
  | .strict => "strict"
  | .none => "none"

/-- The policy of a name, which must be spelled exactly. -/
def ofName? (name : String) : Except Fault SameSite :=
  if name = "lax" then .ok .lax
  else if name = "strict" then .ok .strict
  else if name = "none" then .ok .none
  else .error .unknownSameSite

end SameSite

namespace Cookie

/-- A cookie to be set. -/
structure Attributes where
  name : String
  value : String
  path : Option String
  domain : Option String
  sameSite : SameSite
  expires : Option Timestamp
  secure : Bool

/-- A cookie that expires some microseconds from now, or with the browser's session. -/
def Attributes.build (name value : String) (path domain : Option String) (sameSite : SameSite)
    (ttl : Option Int) (secure : Bool) (now : Int) : Except Fault Attributes := do
  let expires ← match ttl with
    | some micros => (Timestamp.ofInstant? (now + micros)).map some
    | none => .ok none
  return { name, value, path, domain, sameSite, expires, secure }

/-! ### The header -/

/-- The names of attributes, which no cookie may have, in whatever case. -/
def reservedNames : List String :=
  ["expires", "path", "comment", "domain", "max-age", "secure", "httponly", "version", "samesite"]

def isLegalName (name : String) : Bool :=
  isToken name.toList && !reservedNames.contains (String.ofList (name.toList.map Char.toLower))

/-- An attribute with its value; without one it is left out. -/
def valued (name : String) (value : List Char) : List (List Char) :=
  if value.isEmpty then [] else [name.toList ++ '=' :: value]

/-- An attribute that has no value. -/
def flag (name : String) (isSet : Bool) : List (List Char) := if isSet then [name.toList] else []

/-- The header text of a cookie: what stands in a header must not be above U+00FF. -/
def header (name value : String) (path domain : Option String) (sameSite : SameSite)
    (expires maxAge : List Char) (secure : Bool) : Except Fault String :=
  if isLegalName name then
    let parts :=
      (name.toList ++ '=' :: encode value.toList) ::
        (valued "Domain" (domain.getD "").toList ++ valued "expires" expires ++
          flag "HttpOnly" true ++ valued "Max-Age" maxAge ++
          valued "Path" (path.getD "").toList ++ valued "SameSite" sameSite.name.toList ++
          flag "Secure" secure)
    let text := List.intercalate [';', ' '] parts
    if text.all fun c => c.toNat < 256 then .ok (String.ofList text) else .error .notEncodable
  else .error .illegalCookieName

/-- The header that sets a cookie. -/
def Attributes.header (a : Attributes) : Except Fault String :=
  Cookie.header a.name a.value a.path a.domain a.sameSite
    ((a.expires.map fun t => HttpDate.ofExpiry t.wall).getD []) [] a.secure

/-- The header that makes the client forget a cookie. -/
def clearing (name : String) (path domain : Option String) (sameSite : SameSite) (secure : Bool)
    (now : Int) : Except Fault String :=
  Cookie.header name "" path domain sameSite (HttpDate.ofDeletion (now + Civil.epoch).toNat) ['0']
    secure

end Cookie

end SessionCookies
