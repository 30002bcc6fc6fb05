import SessionCookies.Handler.Sessions
import SessionCookies.Time.DurationReader

/-!
# Settings given by hand

The session settings as a caller gives them, each as a JSON value or not at all. The secrets are
looked at first, and then the time to live; every setting must have the form it is meant to have. A
setting that is not given has its default.
-/

namespace SessionCookies

/-- Settings that are still to be checked. -/
structure GivenSettings where
  secret : List UInt8
  fallbacks : List (List UInt8) := []
  cookieName : Option Json := none
  cookiePath : Option Json := none
  cookieDomain : Option Json := none
  sameSite : Option Json := none
  /-- A time to live, as a text or in seconds. -/
  ttl : Option Json := none
  /-- A time to live in microseconds, or no end; it takes the place of `ttl`. -/
  exactTtl : Option (Option Int) := none
  saveUnchanged : Option Json := none

namespace GivenSettings

/-- A text. -/
def text? : Json → Option String
  | .string s => Units.toString? s
  | _ => none

/-- A text or nothing. -/
def optionalText? : Json → Option (Option String)
  | .null => some none
  | v => (text? v).map some

def sameSite? (v : Json) : Option SameSite :=
  (text? v).bind fun name => (SameSite.ofName? name).toOption

/-- The words for a truth value. -/
def truthOfWord? (word : String) : Option Bool :=
  if ["1", "t", "true", "y", "yes", "on"].contains word then some true
  else if ["0", "f", "false", "n", "no", "off"].contains word then some false
  else none

/-- A truth value, also as a word in any case or as the number 0 or 1. -/
def truth? : Json → Option Bool
  | .bool b => some b
  | .int n => if n = 0 then some false else if n = 1 then some true else none
  | .float x => if x == 0 then some false else if x == 1 then some true else none
  | .string s =>
    (Units.toString? s).bind fun word => truthOfWord? (String.ofList (word.toList.map Char.toLower))
  | _ => none

/-- A time to live, or nothing for no end. -/
def ttl? : Json → Except Fault (Option Int)
  | .null => .ok none
  | v => (Duration.ofJson? v).map some

/-- A setting that is given must be read by `read?`. -/
def checked {α : Type} (default : α) (read? : Json → Option α) : Option Json → Except Fault α
  | none => .ok default
  | some v =>
    match read? v with
    | some a => .ok a
    | none => .error .invalidForm

/-- A time to live in microseconds must be a duration. -/
def ranged (ttl : Option Int) : Except Fault (Option Int) :=
  if ttl.all Duration.isInRange then .ok ttl else .error .dateOutOfRange

/-- The configuration of some settings. -/
def config? (g : GivenSettings) : Except Fault SessionConfig := do
  let exact ← g.exactTtl.mapM ranged
  let keys ← KeySet.ofSecrets? g.secret g.fallbacks
  let base : SessionConfig := { keys }
  let ttl ← match exact with
    | some ttl => .ok ttl
    | none => g.ttl.elim (.ok base.ttl) ttl?
  return { base with
    cookieName := ← checked base.cookieName text? g.cookieName
    cookiePath := ← checked base.cookiePath text? g.cookiePath
    cookieDomain := ← checked base.cookieDomain optionalText? g.cookieDomain
    sameSite := ← checked base.sameSite sameSite? g.sameSite
    ttl
    saveUnchanged := ← checked base.saveUnchanged truth? g.saveUnchanged }

end GivenSettings

end SessionCookies
