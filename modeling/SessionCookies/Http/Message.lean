/-!
# Requests and responses

The parts of an HTTP request that handlers look at, and the parts of a response that they decide.
-/

namespace SessionCookies

/-- A request. The path is decoded, and the query is in bytes as it came; `server` is the name of the
server that took the request, if it has one, with the port if that is not the one of the scheme.
Names of headers are in lower case. -/
structure Request where
  method : String := "GET"
  scheme : String := "http"
  path : String := "/"
  query : List UInt8 := []
  headers : List (String × String) := []
  body : String := ""
  server : Option String := some "testserver"

/-- The value of the first header of a name. -/
def Request.header? (r : Request) (name : String) : Option String := r.headers.lookup name

/-- The values of all headers of a name. -/
def Request.headersOf (r : Request) (name : String) : List String :=
  r.headers.filterMap fun (other, value) => if other = name then some value else none

/-- A step on the way to a part of a request body: the name of a field or a place in the text. -/
inductive Place where
  | field (name : String)
  | character (n : Nat)
  deriving DecidableEq, Repr

/-- What is wrong with a request body, and where. -/
structure Complaint where
  kind : String
  place : List Place
  deriving DecidableEq, Repr

inductive Body where
  | text (s : String)
  | complaints (list : List Complaint)
  deriving DecidableEq, Repr

/-- A response; `cookies` are the texts of the headers that set cookies. -/
structure Response where
  status : Nat := 200
  body : Body := .text ""
  contentType : Option String := none
  location : Option String := none
  cookies : List String := []
  deriving DecidableEq, Repr

namespace Response

def plain (body : String) (status : Nat := 200) : Response :=
  { status, body := .text body, contentType := some "text/plain; charset=utf-8" }

def json (body : String) (status : Nat := 200) : Response :=
  { status, body := .text body, contentType := some "application/json" }

def addCookie (r : Response) (header : String) : Response :=
  { r with cookies := r.cookies ++ [header] }

end Response

end SessionCookies
