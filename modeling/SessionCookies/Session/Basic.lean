import SessionCookies.Entropy
import SessionCookies.Hash.Sha256
import SessionCookies.OrderedMap
import SessionCookies.Text.Base64
import SessionCookies.Text.Utf8
import SessionCookies.Time.Timestamp
import SessionCookies.Value

/-!
# Sessions

A session has an id, data and an expiry. Its data map names to JSON texts, so that two values are
the same exactly if their texts are. A new session has the random cookie value from which its id
is derived; the value can be taken once. Operations that can fail come as a result beside the
session they leave.
-/

namespace SessionCookies

/-- The clock, in microseconds since 1970, and the random bytes to come. -/
structure World where
  now : Int
  entropy : Entropy

namespace World

/-- The next random cookie value: the base64 text of one draw. -/
def nextCookieValue (w : World) : String := Base64.text w.entropy.next

/-- The world after a draw. -/
def afterDraw (w : World) : World := { w with entropy := w.entropy.advance }

end World

/-- The id of the session that a cookie value refers to: the base64 text of its SHA-256 digest. -/
def sessionId (cookieValue : String) : String :=
  Base64.text (Sha256.digest (Utf8.bytes cookieValue))

/-- What is kept for one client. -/
structure Session where
  id : String
  data : OrderedMap String String := .empty
  expiry : Option Timestamp := none
  /-- The value for the client's cookie, until it is taken. -/
  cookieValue : Option String := none
  /-- Whether id or data changed since the session was made, read or written. -/
  changed : Bool := false
  destroyed : Bool := false

instance : Inhabited Session := ⟨{ id := "" }⟩

namespace Session

/-- A new session with the next random cookie value. -/
def fresh (w : World) : Session where
  id := sessionId w.nextCookieValue
  cookieValue := some w.nextCookieValue

/-! ### Data -/

/-- The value under a name. -/
def get? (s : Session) (name : String) : Except Fault (Option Json) :=
  match s.data.get? name with
  | none => .ok none
  | some raw => (Json.ofText? raw).map some

/-- Puts a text under a name; the session changes only if another text was there. -/
def putText (s : Session) (name raw : String) : Session :=
  if s.data.get? name = some raw then s
  else { s with data := s.data.put name raw, changed := true }

/-- Puts a value under a name. -/
def insert (s : Session) (name : String) (v : Value) : Except Fault Session :=
  v.toText?.map (s.putText name)

/-- Takes a name out. What was under it is read only afterwards, so the name is gone even if it
cannot be read. -/
def remove (s : Session) (name : String) : Except Fault (Option Json) × Session :=
  match s.data.get? name with
  | none => (.ok none, s)
  | some raw =>
    ((Json.ofText? raw).map some, { s with data := s.data.erase name, changed := true })

/-- Takes every name out. -/
def clear (s : Session) : Session :=
  { s with data := .empty, changed := s.changed || !s.data.isEmpty }

def contains (s : Session) (name : String) : Bool := s.data.contains name

def size (s : Session) : Nat := s.data.size

/-! ### Identity -/

/-- Gives the session a new id and cookie value and keeps its data. -/
def regenerate (s : Session) (w : World) : Session :=
  { s with
    id := sessionId w.nextCookieValue
    cookieValue := some w.nextCookieValue
    changed := true }

def destroy (s : Session) : Session := { s with destroyed := true }

/-- The session as it is after it was written. -/
def unchanged (s : Session) : Session := { s with changed := false }

/-- The session without its cookie value. -/
def withoutCookieValue (s : Session) : Session := { s with cookieValue := none }

/-! ### Expiry -/

/-- Lets the session expire after some microseconds from now. -/
def expireIn (s : Session) (now micros : Int) : Except Fault Session :=
  (Timestamp.ofInstant? (now + micros)).map fun t => { s with expiry := some t }

/-- Lets the session expire at a timestamp, taken as one of UTC if it has no offset. -/
def setExpiry (s : Session) (t : Timestamp) : Session := { s with expiry := some t.assumeUtc }

/-- The microseconds until the session expires. -/
def timeLeft (s : Session) (now : Int) : Except Fault (Option Int) :=
  match s.expiry with
  | none => .ok none
  | some t => (t.since now).map some

/-- Whether the session has expired; it has at the very moment of its expiry. -/
def isExpired (s : Session) (now : Int) : Except Fault Bool :=
  (s.timeLeft now).map fun left => left.any (· ≤ 0)

/-- The session, unless it has expired. -/
def live? (s : Session) (now : Int) : Except Fault (Option Session) :=
  (s.isExpired now).map fun expired => if expired then none else some s

end Session

end SessionCookies
