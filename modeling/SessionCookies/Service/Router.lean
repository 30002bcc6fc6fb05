import SessionCookies.Handler.Basic
import SessionCookies.Json.Compact

/-!
# Routing

A request goes to the route of its path and method; a line break at the end of the path does not
count. A path with the wrong method, an unknown path, and a path that differs from a known one only
in slashes at its end have answers of their own.
-/

namespace SessionCookies

/-- A handler for some methods and one path. -/
structure Route where
  methods : List String
  path : String
  handler : Handler

/-- Whether a path leads to a route. -/
def Route.isAt (route : Route) (path : String) : Bool :=
  path = route.path || path = route.path ++ "\n"

/-- An answer that names a trouble. -/
def detailResponse (status : Nat) (detail : String) : Response :=
  .json (String.ofList ("\x7b\"detail\":".toList ++ Json.compactString detail ++ ['\x7d'])) status

/-- Whether a response of this status may have a body. -/
def allowsBody (status : Nat) : Bool :=
  200 ≤ status && status ≠ 204 && status ≠ 205 && status ≠ 304

/-- The answer that a fault stands for. -/
def httpFaultResponse (status : Nat) (detail : String) : Response :=
  if allowsBody status then detailResponse status detail else { status }

/-- A handler that answers faults which stand for an answer. -/
def Handler.answering (inner : Handler) : Handler := fun r x =>
  match inner r x with
  | (.ok a, x) => (.ok a, x)
  | (.error fault, x) =>
    match fault.httpStatus? with
    | some status => (.ok (httpFaultResponse status fault.message), x)
    | none => (.error fault, x)

/-- The path with a slash more at its end, or without those that are there. -/
def otherPath (path : String) : String :=
  let reversed := path.toList.reverse
  match reversed with
  | '/' :: _ => String.ofList (reversed.dropWhile (· = '/')).reverse
  | _ => path ++ "/"

/-- Sends a request to its route. -/
def Handler.routed (routes : List Route) : Handler := fun r x =>
  match routes.find? fun route => route.isAt r.path && route.methods.contains r.method with
  | some route => route.handler r x
  | none =>
    if routes.any fun route => route.isAt r.path then
      (.ok (detailResponse 405 "Method Not Allowed"), x)
    else if r.path ≠ "/" && routes.any fun route => route.isAt (otherPath r.path) then
      ({ r with path := otherPath r.path }.url.map (.redirect 307), x)
    else (.ok (detailResponse 404 "Not Found"), x)

end SessionCookies
