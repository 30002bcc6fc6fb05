import SessionCookies.Fault
import SessionCookies.Http.Message
import SessionCookies.Http.UrlParts
import SessionCookies.Text.Utf8

/-!
# URLs of requests

The URL of a request, which names the host that the request names if that is a valid one, and the
quoting of URLs for the `location` header. In the URL of a request a path that is not empty begins
with a slash, and it keeps every character but the three that could end it. A request whose query is
no UTF-8 has no URL, nor has one that leaves its host to the server under a scheme without a port of
its own. There are requests whose URL cannot be taken apart: a path that begins with two slashes
stands for an authority where no host is in front of it.
-/

namespace SessionCookies

namespace Url

/-! ### Hosts -/

/-- The characters of a registered name. -/
def isNameChar (c : Char) : Bool := c.isAlphanum || "-._~!$&'()*+,;=%".toList.contains c

/-- The characters of a literal address between brackets. -/
def isAddressChar (c : Char) : Bool := c = ':' || (isNameChar c && c ≠ '%')

/-- Whether a text is empty or a colon and a port number. -/
def isPort : List Char → Bool
  | [] => true
  | ':' :: digits => (Digits.read? digits).any (· ≤ 65535) && !digits.isEmpty
  | _ => false

/-- Whether a text is a name or a bracketed address with or without a port. -/
def isHost (host : String) : Bool :=
  match host.toList with
  | '[' :: rest =>
    let address := rest.takeWhile (· ≠ ']')
    match rest.dropWhile (· ≠ ']') with
    | _ :: port => address.all isAddressChar && Address.isBracketed address && isPort port
    | [] => false
  | cs =>
    let name := cs.takeWhile (· ≠ ':')
    !name.isEmpty && name.all isNameChar && isPort (cs.dropWhile (· ≠ ':'))

/-- Whether a scheme has a port of its own. -/
def hasPort (scheme : String) : Bool := ["http", "https", "ws", "wss"].contains scheme

/-! ### Quoting -/

/-- The characters that stand for themselves in a quoted URL. -/
def isKept (c : Char) : Bool := c.isAlphanum || "_.-~:/%#?=@[]!$&'()*+,;".toList.contains c

def upperHexDigit (n : Nat) : Char := if n < 10 then Char.ofNat (n + 48) else Char.ofNat (n + 55)

/-- A byte as a percent sign and two digits. -/
def quoteByte (b : UInt8) : List Char :=
  ['%', upperHexDigit (b.toNat / 16), upperHexDigit (b.toNat % 16)]

def quoteChar (c : Char) : List Char :=
  if isKept c then [c] else (Utf8.bytes (String.singleton c)).flatMap quoteByte

/-- A URL in which every other character is given by the bytes of its UTF-8 form. -/
def quote (url : String) : String := String.ofList (url.toList.flatMap quoteChar)

/-! ### Paths -/

/-- A character of a path, quoted if it could end the path. -/
def escapePathChar (c : Char) : List Char :=
  if c = '?' then ['%', '3', 'F']
  else if c = '#' then ['%', '2', '3']
  else if c = '\\' then ['%', '5', 'C']
  else [c]

/-- A path as it stands in a URL. -/
def pathChars (path : String) : List Char :=
  match path.toList with
  | [] => []
  | '/' :: rest => '/' :: rest.flatMap escapePathChar
  | cs => '/' :: cs.flatMap escapePathChar

end Url

namespace Request

/-- The URL up to the query. The host in it is the valid one that the request names, else the
server, which the port of the scheme must be compared with; without either it is the path alone. -/
def place (r : Request) : Except Fault String :=
  let path := String.ofList (Url.pathChars r.path)
  match (r.header? "host").filter Url.isHost, r.server with
  | some host, _ => .ok (r.scheme ++ "://" ++ host ++ path)
  | none, some server =>
    if Url.hasPort r.scheme then .ok (r.scheme ++ "://" ++ server ++ path)
    else .error .unknownScheme
  | none, none => .ok path

/-- The end of the URL: a question mark and the text of the query, if there is one. -/
def queryPart (r : Request) : Except Fault String :=
  if r.query.isEmpty then .ok ""
  else
    match Utf8.text? r.query with
    | some query => .ok ("?" ++ query)
    | none => .error .queryNotUtf8

/-- The URL of a request. -/
def url (r : Request) : Except Fault String := do
  let place ← r.place
  let query ← r.queryPart
  return place ++ query

/-- The parts of the URL. -/
def urlParts (r : Request) : Except Fault UrlParts := do
  let url ← r.url
  match UrlParts.ofChars? url.toList with
  | some parts => return parts
  | none => throw .malformedUrl

/-- Whether a request came over an encrypted connection. -/
def isEncrypted (r : Request) : Except Fault Bool :=
  r.urlParts.map fun parts => parts.scheme = "https".toList || parts.scheme = "wss".toList

end Request

/-- A response that sends the client to another URL. -/
def Response.redirect (status : Nat) (url : String) : Response :=
  { status, location := some (Url.quote url) }

end SessionCookies
