import SessionCookies.Handler.Sessions
import SessionCookies.Settings.Environment
import SessionCookies.Store.RedisClients

/-!
# The variables of the service

What the variables of an environment say about sessions, stores, the redirection to HTTPS and the
log. A variable that is not set has its default. Reading them may make a Redis client, and some of
it is written to the log.
-/

namespace SessionCookies

/-- What reading the variables may change: the shared Redis clients and the log. -/
structure Setup where
  clients : RedisClients := {}
  log : List LogEntry := []

/-- Writes to the log. -/
def Setup.note (s : Setup) (logger : Logger) (level : Level) (message : String) : Setup :=
  { s with log := s.log ++ [⟨logger, level, message⟩] }

/-- The client of a Redis URL. -/
def Setup.client (s : Setup) (url : String) : Except Fault RedisClient × Setup :=
  let (client, clients, log) := s.clients.client url
  (client, ⟨clients, s.log ++ log⟩)

namespace Environment

/-! ### Sessions -/

/-- The most seconds that a duration may have. -/
def maxSeconds : Int := 86400 * 1000000000

/-- The microseconds that a session lives. One day is the default; a zero and the word `none` let it
live for ever. -/
def ttl? (e : Environment) : Except Fault (Option Int) :=
  match e.get? "SESSION_TTL_SECONDS" with
  | none => .ok (some 86400000000)
  | some value =>
    if (Blank.strip value.toList).isEmpty then .ok (some 86400000000)
    else if wordOf value = "none" then .ok none
    else do
      let seconds ← integer? value
      if seconds < 0 then throw (.negativeTtl seconds)
      else if seconds = 0 then return none
      else if seconds < maxSeconds then return some (seconds * 1000000)
      else throw .dateOutOfRange

/-- The secret that cookies are signed with. -/
def secret? (e : Environment) : Except Fault String :=
  match e.nonempty? "SESSION_SECRET_KEY" with
  | some secret => .ok secret
  | none => .error .secretMissing

/-- The secrets that cookies may also be signed with. -/
def fallbackSecrets (e : Environment) : List String := e.list "SESSION_FALLBACK_SECRET_KEYS"

/-- The URL of a Redis server: the one that is asked for, if one is, else the one that is set. -/
def redisUrl (e : Environment) (asked : String) : String :=
  if asked.isEmpty then e.text "REDIS_URL" "redis://localhost:6379" else asked

/-- The store that is named. The server behind a Redis store is not there yet. -/
def store? (e : Environment) (s : Setup) : Except Fault Store × Setup :=
  match e.word "SESSION_STORE" "memory" with
  | "memory" => (.ok (.memory .empty), s)
  | "cookie" => (.ok .cookie, s)
  | "redis" =>
    let (client, s) := s.client (e.redisUrl "")
    (client.map fun _ => .redis (e.text "SESSION_REDIS_PREFIX" "session:") .unreachable, s)
  | name => (.error (.unknownStore name), s)

/-- The SameSite policy of the session cookie. -/
def sameSite? (e : Environment) : Except Fault SameSite :=
  SameSite.ofName? (e.word "SESSION_SAME_SITE" "lax")

/-- The keys of a secret and of the fallback secrets. -/
def keys? (e : Environment) (secret : String) : Except Fault KeySet :=
  KeySet.ofSecrets? (Utf8.bytes secret) (e.fallbackSecrets.map Utf8.bytes)

/-- How a time to live is written. -/
def ttlText : Option Int → String
  | some micros => Duration.text micros
  | none => "None"

/-- What is written to the log about a configuration. -/
def configuredNote (e : Environment) (c : SessionConfig) (store : Store) : String :=
  s!"Session cookie '{c.cookieName}' configured with {store.name}, " ++
    s!"{e.fallbackSecrets.length} fallback key(s), ttl={ttlText c.ttl}"

/-- The configuration of some keys, a policy and a time to live. -/
def configWith (e : Environment) (keys : KeySet) (sameSite : SameSite) (ttl : Option Int) :
    SessionConfig :=
  let base : SessionConfig := { keys }
  { base with
    cookieName := (e.nonempty? "SESSION_COOKIE_NAME").getD base.cookieName
    cookiePath := e.text "SESSION_COOKIE_PATH" base.cookiePath
    cookieDomain := e.nonempty? "SESSION_COOKIE_DOMAIN"
    sameSite
    ttl
    saveUnchanged := e.switch "SESSION_SAVE_UNCHANGED" base.saveUnchanged }

/-- What is read before a store is looked for: the secret, the policy and the time to live. -/
def essentials? (e : Environment) : Except Fault (String × SameSite × Option Int) := do
  return (← e.secret?, ← e.sameSite?, ← e.ttl?)

/-- The store that is given, else the one that is named. -/
def storeOr? (e : Environment) (given : Option Store) (s : Setup) : Except Fault Store × Setup :=
  match given with
  | some store => (.ok store, s)
  | none => e.store? s

/-- The configuration of sessions and their store. The keys are made last. -/
def sessionConfig? (e : Environment) (given : Option Store) (s : Setup) :
    Except Fault (SessionConfig × Store) × Setup :=
  match e.essentials? with
  | .error fault => (.error fault, s)
  | .ok (secret, sameSite, ttl) =>
    match e.storeOr? given s with
    | (.error fault, s) => (.error fault, s)
    | (.ok store, s) =>
      match e.keys? secret with
      | .error fault => (.error fault, s)
      | .ok keys =>
        let config := e.configWith keys sameSite ttl
        (.ok (config, store), s.note .settings .info (e.configuredNote config store))

/-! ### Redirection to HTTPS -/

/-- Whether requests over plain HTTP are redirected, and to which port. -/
structure HttpsRedirect where
  enabled : Bool
  port : Option Int
  deriving DecidableEq, Repr

def httpsRedirect? (e : Environment) : Except Fault HttpsRedirect := do
  let enabled := e.switch "FORCE_HTTPS" false
  let port ← match e.nonempty? "HTTPS_PORT" with
    | some text => (integer? text).map some
    | none => .ok none
  return ⟨enabled, port⟩

/-! ### The log -/

/-- The levels that may be chosen, the least grave first. -/
def levels : List Level := [.debug, .info, .warning, .error, .critical]

/-- The level that is named, in any case; another name is complained about and stands for the
default. -/
def logLevel (e : Environment) (s : Setup) : Level × Setup :=
  let name := Case.upperText (e.text "LOG_LEVEL" "INFO")
  match levels.find? fun level => level.name = name with
  | some level => (level, s)
  | none =>
    (.info, s.note .settings .warning (s!"Invalid LOG_LEVEL '{name}'. Using INFO instead. " ++
      "Valid levels: " ++ ", ".intercalate (levels.map Level.name)))

end Environment

end SessionCookies
