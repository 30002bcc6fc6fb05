import SessionCookies.Cookie.Request
import SessionCookies.Handler.Basic

/-!
# The journal of requests

What is written to the log about a request and its answer. The value of the session cookie is never
written, only whether it is there and how long it is.
-/

namespace SessionCookies

/-- How a truth value is written. -/
def truthText (b : Bool) : String := if b then "True" else "False"

/-- Whether a response sets the cookie of a name. -/
def Response.setsCookie (a : Response) (name : String) : Bool :=
  a.cookies.any fun header => (name ++ "=").toList.isPrefixOf header.toList

namespace Exchange

/-- Writes down a request with its URL. -/
def noteRequest (x : Exchange) (cookieName : String) (r : Request) (url : String) : Exchange :=
  let length := ((Cookie.lookup? (r.headersOf "cookie") cookieName).getD "").length
  let x := x.note .pipeline .debug ("REQUEST_DEBUG: " ++ r.method ++ " " ++ url)
  let x := x.note .pipeline .debug
    ("REQUEST_DEBUG: Session cookie present: " ++ truthText (length ≠ 0))
  if length = 0 then x
  else x.note .pipeline .debug s!"REQUEST_DEBUG: Session cookie length: {length}"

/-- Writes down a response; one that reports an error is written down twice. -/
def noteResponse (x : Exchange) (cookieName : String) (url : String) (a : Response) : Exchange :=
  let x := x.note .pipeline .debug s!"RESPONSE_DEBUG: Status {a.status}"
  let x := x.note .pipeline .debug
    ("RESPONSE_DEBUG: Sets session cookie: " ++ truthText (a.setsCookie cookieName))
  if 400 ≤ a.status then
    x.note .pipeline .error (s!"ERROR_RESPONSE_DEBUG: Status {a.status} for " ++ url)
  else x

/-- Writes down a fault, without the name of its class. -/
def noteFault (x : Exchange) : Fault → Exchange
  | .raised (.http status) text =>
    x.note .pipeline .error (s!"HTTP_EXCEPTION_DEBUG: Status {status}, Detail: " ++ text)
  | fault => x.note .pipeline .error ("UNEXPECTED_EXCEPTION_DEBUG: " ++ fault.message)

end Exchange

/-- A handler whose requests and answers are written down. Requests without a URL do not get to
it. -/
def Handler.journaled (cookieName : String) (inner : Handler) : Handler := fun r x =>
  match r.url with
  | .error fault => (.error fault, x)
  | .ok url =>
    match inner r (x.noteRequest cookieName r url) with
    | (.ok a, x) => (.ok a, x.noteResponse cookieName url a)
    | (.error fault, x) => (.error fault, x.noteFault fault)

end SessionCookies
