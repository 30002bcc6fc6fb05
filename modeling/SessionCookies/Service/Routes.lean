import SessionCookies.Service.Login
import SessionCookies.Service.Router

/-!
# The routes of the service

Logging in and out, the home page, and two reports, on the session of the request and on the
service.
-/

namespace SessionCookies

/-- Whether a value counts as true. -/
def Json.isTruthy : Json → Bool
  | .null => false
  | .bool b => b
  | .int n => n ≠ 0
  | .float x => x != 0
  | .string s => !s.isEmpty
  | .array items => !items.isEmpty
  | .object fields => !fields.isEmpty

namespace Service

/-- A handler of the session of the request. -/
def withSession (f : Session → Exchange → Except Fault Response × Exchange) : Handler := fun _ x =>
  match x.currentSession with
  | .ok s => f s x
  | .error fault => (.error fault, x)

/-- Logs a user in: a new session takes the place of the old one and carries the name. -/
def login : Handler := fun r x =>
  match Login.ofRequest r with
  | .failed fault => (.error fault, x)
  | .refused complaints =>
    (.ok { status := 422, body := .complaints complaints,
           contentType := some "application/json" }, x)
  | .accepted username =>
    let (s, x) := x.freshSession
    let s := s.putText "username" (Json.text username).toText
    (.ok (.redirect 303 "/"),
      (x.setSession (some s)).note .routes .info "Login: new session issued")

/-- Logs a user out. -/
def logout : Handler := withSession fun s x =>
  (.ok (.redirect 303 "/"), x.setSession (some s.destroy))

/-- A body that is the text of a value; a null makes an empty one. -/
def textBody : Json → Except Fault String
  | .null => .ok ""
  | .string s =>
    match Units.toString? s with
    | some text => .ok text
    | none => .error .notEncodable
  | _ => .error .bodyNotText

/-- The name of the user, or a word for nobody. -/
def home : Handler := withSession fun s x =>
  let body := do textBody ((← s.get? "username").getD (Json.text "home"))
  (body.map fun body => .plain body, x)

/-- The JSON text of a user name. -/
def usernameText : Option Json → Except Fault (List Char)
  | none | some .null => .ok "null".toList
  | some (.string s) =>
    match Units.toString? s with
    | some name => .ok (Json.compactString name)
    | none => .error .invalidForm
  | some _ => .error .invalidForm

/-- What the client may know of a session. -/
def sessionReport (s : Session) (now : Int) : Except Fault String := do
  let username ← s.get? "username"
  let left ← s.timeLeft now
  let name ← usernameText username
  let kind := if username.any Json.isTruthy then "authenticated" else "anonymous"
  let seconds := match left with
    | some micros => Json.writeInt (Duration.secondsToward micros)
    | none => "null".toList
  return String.ofList ("\x7b\"session_type\":\"".toList ++ kind.toList ++
    "\",\"username\":".toList ++ name ++ ",\"expires_in_seconds\":".toList ++ seconds ++ ['\x7d'])

def sessionInfo : Handler := withSession fun s x =>
  ((sessionReport s x.world.now).map fun body => .json body, x)

/-- What anybody may know of the service: how it keeps sessions. -/
def status : Handler := fun _ x =>
  (.ok (.json ("\x7b\"status\":\"ok\",\"session_store\":\"" ++ x.backend.store.name ++
    "\",\"details\":\x7b\x7d\x7d")), x)

def routes : List Route := [
  ⟨["POST"], "/login", login⟩, ⟨["GET"], "/logout", logout⟩, ⟨["GET"], "/", home⟩,
  ⟨["GET"], "/session", sessionInfo⟩, ⟨["GET"], "/status", status⟩]

end Service

end SessionCookies
