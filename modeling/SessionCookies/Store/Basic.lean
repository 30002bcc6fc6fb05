import SessionCookies.Session.Record
import SessionCookies.Store.Redis
import SessionCookies.Time.Duration

/-!
# Session stores

Where sessions are kept between requests: in the memory of the program, in the cookie itself, or
on a Redis server. A store gives a token for the client's next cookie when it keeps a session, and
finds the session again by the token. A session that is missing, expired or unreadable is not
found; that is no fault.
-/

namespace SessionCookies

/-- A store with what it holds. -/
inductive Store where
  /-- Records under session ids. -/
  | memory (records : OrderedMap String String)
  | cookie
  /-- Records on a server, under session ids with a common beginning. -/
  | redis (keyPrefix : String) (server : RedisServer)
  /-- A store that keeps nothing and does nothing beyond what every store must do. -/
  | inert

instance : Inhabited Store := ⟨.cookie⟩

/-- The store operation in which a server's fault showed up: connections, other troubles of the
server, and everything else are told apart. -/
def Fault.during (op : StoreOperation) : Fault → Fault
  | .raised .redisConnection _ => .storeUnavailable op
  | .raised .redis _ | .raised .redisTimeout _ => .storeFailed op
  | _ => .storeFailedUnexpectedly op

/-! ### In memory -/

namespace Memory

/-- The session of a token. A record that is unreadable or expired is dropped. -/
def load (records : OrderedMap String String) (token : String) (now : Int) :
    Except Fault (Option Session) × OrderedMap String String :=
  let id := sessionId token
  match records.get? id with
  | none => (.ok none, records)
  | some record =>
    match Session.ofRecord? record with
    | none => (.ok none, records.erase id)
    | some s =>
      match s.isExpired now with
      | .error fault => (.error fault, records)
      | .ok true => (.ok none, records.erase id)
      | .ok false => (.ok (some s), records)

/-- Whether a record has expired. -/
def hasExpired (now : Int) (record : String) : Except Fault Bool :=
  match Session.ofRecord? record with
  | some s => s.isExpired now
  | none => .error .invalidForm

/-- The ids of the expired records, or the fault of the first record that cannot be judged. -/
def expiredIds (now : Int) : List (String × String) → Except Fault (List String)
  | [] => .ok []
  | (id, record) :: rest => do
    let expired ← hasExpired now record
    let ids ← expiredIds now rest
    return if expired then id :: ids else ids

/-- Drops the expired records and counts them. -/
def cleanup (records : OrderedMap String String) (now : Int) :
    Except Fault Nat × OrderedMap String String :=
  match expiredIds now records.entries with
  | .ok ids => (.ok ids.length, records.filter fun id _ => !ids.contains id)
  | .error fault => (.error fault, records)

end Memory

/-! ### In the cookie -/

namespace CookieToken

/-- The token that is a session's record. -/
def ofSession (s : Session) : String := Base64.text (Utf8.bytes s.record)

/-- The session that a token is the record of. -/
def session? (token : String) : Option Session := do
  let bytes ← Base64.bytes? token
  let record ← Utf8.text? bytes
  Session.ofRecord? record

/-- The session of a token, unless it has expired. -/
def load (token : String) (now : Int) : Except Fault (Option Session) :=
  match session? token with
  | none => .ok none
  | some s => s.live? now

end CookieToken

/-! ### On a server -/

namespace RedisServer

/-- The session of a token. A record that is unreadable or expired stays where it is. -/
def loadSession (r : RedisServer) (keyPrefix token : String) (now : Int) :
    Except Fault (Option Session) × RedisServer :=
  match r.get (keyPrefix ++ sessionId token) with
  | (.error fault, r) => (.error (fault.during .load), r)
  | (.ok none, r) => (.ok none, r)
  | (.ok (some record), r) =>
    match Session.ofRecord? record with
    | none => (.ok none, r)
    | some s => (s.live? now, r)

/-- Keeps a session for as long as it has left, rounded up to seconds; one that has expired is
deleted and gives no token. -/
def saveSession (r : RedisServer) (keyPrefix : String) (s : Session) (now : Int) :
    Except Fault (Option String) × Session × RedisServer :=
  let key := keyPrefix ++ s.id
  let keep (seconds : Option Nat) : Except Fault (Option String) × Session × RedisServer :=
    match r.set key s.record seconds with
    | (.error fault, r) => (.error (fault.during .store), s, r)
    | (.ok (), r) => (.ok s.cookieValue, s.unchanged.withoutCookieValue, r)
  match s.timeLeft now with
  | .error fault => (.error fault, s, r)
  | .ok none => keep none
  | .ok (some left) =>
    if left ≤ 0 then
      match r.delete key with
      | (.error fault, r) => (.error (fault.during .store), s, r)
      | (.ok _, r) => (.ok none, s, r)
    else keep (some (Duration.secondsUp left.toNat))

def destroySession (r : RedisServer) (keyPrefix : String) (s : Session) :
    Except Fault Unit × RedisServer :=
  match r.delete (keyPrefix ++ s.id) with
  | (.error fault, r) => (.error (fault.during .deletion), r)
  | (.ok _, r) => (.ok (), r)

/-- Deletes keys one after another until a deletion fails. -/
def deleteAll (r : RedisServer) : List String → Except Fault Unit × RedisServer
  | [] => (.ok (), r)
  | key :: rest =>
    match r.delete key with
    | (.error fault, r) => (.error fault, r)
    | (.ok _, r) => r.deleteAll rest

/-- Deletes every key that begins as the store's keys do. -/
def clearSessions (r : RedisServer) (keyPrefix : String) : Except Fault Unit × RedisServer :=
  match r.scan keyPrefix with
  | (.error fault, r) => (.error (fault.during .clear), r)
  | (.ok keys, r) =>
    let (done, r) := r.deleteAll keys
    (done.mapError (Fault.during .clear), r)

end RedisServer

/-! ### Any store -/

namespace Store

/-- The name under which a store is reported. -/
def name : Store → String
  | .memory _ => "MemoryStore"
  | .cookie => "CookieStore"
  | .redis .. => "RedisStore"
  | .inert => "MinimalStore"

/-- The session that a token leads to. -/
def load (store : Store) (token : String) (now : Int) : Except Fault (Option Session) × Store :=
  match store with
  | .memory records =>
    let (found, records) := Memory.load records token now
    (found, .memory records)
  | .cookie => (CookieToken.load token now, .cookie)
  | .redis keyPrefix server =>
    let (found, server) := server.loadSession keyPrefix token now
    (found, .redis keyPrefix server)
  | .inert => (.ok none, .inert)

/-- Keeps a session: the token for the next cookie, if there is one, and the session afterwards. -/
def save (store : Store) (s : Session) (now : Int) :
    Except Fault (Option String) × Session × Store :=
  match store with
  | .memory records =>
    (.ok s.cookieValue, s.unchanged.withoutCookieValue, .memory (records.put s.id s.record))
  | .cookie => (.ok (some (CookieToken.ofSession s)), s.unchanged, .cookie)
  | .redis keyPrefix server =>
    let (token, s, server) := server.saveSession keyPrefix s now
    (token, s, .redis keyPrefix server)
  | .inert => (.ok none, s, .inert)

/-- Forgets a session; one that is not held is forgotten already. -/
def destroy (store : Store) (s : Session) : Except Fault Unit × Store :=
  match store with
  | .memory records => (.ok (), .memory (records.erase s.id))
  | .cookie => (.ok (), .cookie)
  | .redis keyPrefix server =>
    let (done, server) := server.destroySession keyPrefix s
    (done, .redis keyPrefix server)
  | .inert => (.ok (), .inert)

/-- Forgets every session. -/
def clear : Store → Except Fault Unit × Store
  | .memory _ => (.ok (), .memory .empty)
  | .cookie => (.ok (), .cookie)
  | .redis keyPrefix server =>
    let (done, server) := server.clearSessions keyPrefix
    (done, .redis keyPrefix server)
  | .inert => (.error (.clearUnsupported "MinimalStore"), .inert)

/-- Drops expired records; only a store in memory has to. -/
def cleanup (store : Store) (now : Int) : Except Fault Nat × Store :=
  match store with
  | .memory records =>
    let (dropped, records) := Memory.cleanup records now
    (dropped, .memory records)
  | store => (.ok 0, store)

/-- What a store holds. -/
def held : Store → List (String × String)
  | .memory records => records.entries
  | .redis _ server => server.content.entries
  | _ => []

/-- Puts a record under a key of the store's own. -/
def put (key record : String) : Store → Store
  | .memory records => .memory (records.put key record)
  | .redis keyPrefix server =>
    .redis keyPrefix { server with content := server.content.put key record }
  | store => store

/-- Lets the store's server fail at calls of certain kinds. -/
def failAt (failing : RedisCommand → Option Fault) : Store → Store
  | .redis keyPrefix server =>
    .redis keyPrefix { server with failing := fun task => failing task.command }
  | store => store

end Store

end SessionCookies
