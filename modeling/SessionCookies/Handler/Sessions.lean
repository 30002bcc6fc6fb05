import SessionCookies.Cookie.Request
import SessionCookies.Cookie.Response
import SessionCookies.Handler.Basic
import SessionCookies.Signing.Cookie

/-!
# Sessions around a handler

Before the handler runs, the session cookie of the request is verified and the session it leads to
is put into the slot; whatever goes wrong with it, the handler finds a new session instead. When
the handler has answered, the session is taken out of the slot again. It is destroyed and the
cookie cleared, or it is kept and the cookie set if the store gives a token, or it is left alone.
Faults of the store are logged and the answer stands. Whether the connection is encrypted is read
off the URL before any of this is done, and a request whose URL cannot be read ends there.
-/

namespace SessionCookies

/-- How sessions are carried in cookies. -/
structure SessionConfig where
  keys : KeySet
  cookieName : String := "salvo.sid"
  cookiePath : String := "/"
  cookieDomain : Option String := none
  sameSite : SameSite := .lax
  /-- The microseconds that a session lives after a request, if it does not live for ever. -/
  ttl : Option Int := some 86400000000
  /-- Whether a session is kept even if it did not change. -/
  saveUnchanged : Bool := true

namespace SessionConfig

/-- Signs with a new key from now on. -/
def rotate (c : SessionConfig) (key : Key) : SessionConfig := { c with keys := c.keys.rotate key }

/-- Adds a key to be tried last. -/
def withFallback (c : SessionConfig) (key : Key) : SessionConfig :=
  { c with keys := c.keys.withFallback key }

/-! ### Before the handler -/

/-- The value of the session cookie. -/
def presented? (c : SessionConfig) (r : Request) : Option String :=
  Cookie.lookup? (r.headersOf "cookie") c.cookieName

/-- The token that the session cookie carries; a cookie that does not verify carries none. -/
def token (c : SessionConfig) (r : Request) (x : Exchange) : Option String × Exchange :=
  match c.presented? r with
  | none => (none, x)
  | some signed =>
    match c.keys.verify signed with
    | .ok token => (some token, x)
    | .error fault =>
      (none, x.note .sessions .debug ("Rejected session cookie: " ++ fault.message))

/-- The session that the store finds by a token. -/
def lookUp (token : Option String) (x : Exchange) : Option Session × Exchange :=
  match token with
  | none => (none, x)
  | some token =>
    match x.backend.load token x.world.now with
    | (.ok found, backend) => (found, { x with backend })
    | (.error fault, backend) =>
      (none, { x with backend }.note .sessions .warning
        ("Unable to load session, starting a new one: " ++ fault.message))

/-- A session that was found, if it is still live, else a new one. -/
def liveOrFresh (found : Option Session) (x : Exchange) : Except Fault Session × Exchange :=
  let fresh : Except Fault Session × Exchange :=
    let (s, x) := x.freshSession
    (.ok s, x)
  match found with
  | none => fresh
  | some s =>
    match s.live? x.world.now with
    | .error fault => (.error fault, x)
    | .ok none => fresh
    | .ok (some s) => (.ok s, x)

/-- A session whose life begins anew with this request. -/
def prolonged (c : SessionConfig) (s : Session) (now : Int) : Except Fault Session :=
  match c.ttl with
  | none => .ok s
  | some micros => s.expireIn now micros

/-- Puts the session of a request into the slot. -/
def start (c : SessionConfig) (r : Request) (x : Exchange) : Except Fault Session × Exchange :=
  let (token, x) := c.token r x
  let (found, x) := lookUp token x
  match liveOrFresh found x with
  | (.error fault, x) => (.error fault, x)
  | (.ok s, x) =>
    match c.prolonged s x.world.now with
    | .error fault => (.error fault, x)
    | .ok s => (.ok s, x.setSession (some s))

/-! ### After the handler -/

/-- Destroys a session and clears the cookie, also if the store could not forget the session. -/
def discard (c : SessionConfig) (secure : Bool) (answer : Response) (s : Session) (x : Exchange) :
    Except Fault Response × Exchange :=
  let x := match x.backend.destroy s with
    | (.ok (), backend) => { x with backend }
    | (.error fault, backend) =>
      { x with backend }.note .sessions .error ("Unable to destroy session: " ++ fault.message)
  let header := Cookie.clearing c.cookieName (some c.cookiePath) c.cookieDomain c.sameSite secure
    x.world.now
  (header.map answer.addCookie, x)

/-- The header that gives the client a token. -/
def tokenHeader (c : SessionConfig) (secure : Bool) (token : String) (now : Int) :
    Except Fault String := do
  let cookie ← Cookie.Attributes.build c.cookieName (c.keys.primary.sign token)
    (some c.cookiePath) c.cookieDomain c.sameSite c.ttl secure now
  cookie.header

/-- Keeps a session and gives the client the store's token, if there is one. -/
def keep (c : SessionConfig) (secure : Bool) (answer : Response) (s : Session) (x : Exchange) :
    Except Fault Response × Exchange :=
  match x.backend.save s x.world.now with
  | (.error fault, _, backend) =>
    (.ok answer,
      { x with backend }.note .sessions .error ("Store session error: " ++ fault.message))
  | (.ok none, _, backend) => (.ok answer, { x with backend })
  | (.ok (some token), _, backend) =>
    ((c.tokenHeader secure token x.world.now).map answer.addCookie, { x with backend })

/-- Takes the session out of the slot and does with it what the handler decided. -/
def finish (c : SessionConfig) (r : Request) (answer : Response) (x : Exchange) :
    Except Fault Response × Exchange :=
  if x.slot.ceased then
    (.ok answer, (x.note .sessions .debug
      "Handler chain ceased, skipping session persistence").setSession none)
  else
    match x.slot.session with
    | none => (.error .sessionLost, x)
    | some s =>
      let x := x.setSession none
      match r.isEncrypted with
      | .error fault => (.error fault, x)
      | .ok secure =>
        if s.destroyed then c.discard secure answer s x
        else if c.saveUnchanged || s.changed then c.keep secure answer s x
        else (.ok answer, x.note .sessions .debug "Session unchanged, not saving")

/-- A handler with sessions. If it fails, nothing is kept. -/
def around (c : SessionConfig) (inner : Handler) : Handler := fun r x =>
  match c.start r x with
  | (.error fault, x) => (.error fault, x)
  | (.ok _, x) =>
    match inner r x with
    | (.error fault, x) => (.error fault, x)
    | (.ok answer, x) => c.finish r answer x

end SessionConfig

end SessionCookies
