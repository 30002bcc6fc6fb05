import SessionCookies.Log
import SessionCookies.Store.Redis
import SessionCookies.Store.RedisUrl

/-!
# Shared Redis clients

There is one client for each Redis URL. It is made when it is first asked for and shared from then
on, until all clients are closed together; a client that cannot be closed properly is given up all
the same.
-/

namespace SessionCookies

/-- A client of a Redis server. -/
structure RedisClient where
  /-- How many clients were there before this one. -/
  number : Nat
  /-- What goes wrong when the client is closed. -/
  closing : Option Fault := none

/-- The clients that are shared, by URL, and how many there ever were. -/
structure RedisClients where
  shared : OrderedMap String RedisClient := .empty
  count : Nat := 0

namespace RedisClients

/-- The clients with a new one for a URL. -/
def adopt (c : RedisClients) (url : String) (closing : Option Fault) : RedisClients :=
  ⟨c.shared.put url ⟨c.count, closing⟩, c.count + 1⟩

/-- What is written to the log when a client is about to be made. -/
def creationNote : LogEntry := ⟨.redis, .info, "Creating new Redis client for session storage"⟩

/-- The client of a URL, which is made if there is none. -/
def client (c : RedisClients) (url : String) :
    Except Fault RedisClient × RedisClients × List LogEntry :=
  match c.shared.get? url with
  | some client => (.ok client, c, [])
  | none =>
    if RedisUrl.isValid url then (.ok ⟨c.count, none⟩, c.adopt url none, [creationNote])
    else (.error .badRedisUrl, c, [creationNote])

/-- What is written to the log when a client is closed. -/
def closingNotes (client : RedisClient) : List LogEntry :=
  match client.closing with
  | some fault => [⟨.redis, .warning, "Error closing Redis client: " ++ fault.message⟩]
  | none => []

/-- No clients, and what is written to the log while they are closed. -/
def closeAll (c : RedisClients) : RedisClients × List LogEntry :=
  ({ c with shared := .empty }, c.shared.entries.flatMap fun (_, client) => closingNotes client)

end RedisClients

end SessionCookies
