import SessionCookies.Fault
import SessionCookies.OrderedMap

/-!
# A Redis server

The part of a Redis server that a session store talks to: keys with values, a record of the calls it
got, and faults that it answers certain calls with. A call is recorded before it fails, and a call
that fails leaves the content alone. Lifetimes are recorded with the call and not acted on. Only
deletions come several at a time, so they are the calls that may fail for one key and not for
another.
-/

namespace SessionCookies

/-- A call that a server got. -/
inductive RedisCall where
  | get (key : String)
  | set (key value : String) (seconds : Option Nat)
  | delete (key : String)
  | scan (pattern : String)
  | close
  deriving DecidableEq

/-- The kinds of calls. -/
inductive RedisCommand where
  | get | set | delete | scan | close
  deriving DecidableEq, Repr

/-- What a server can fail at: calls of a kind, or the deletion of a key. -/
inductive RedisTask where
  | get | set | delete (key : String) | scan | close
  deriving DecidableEq, Repr

def RedisTask.command : RedisTask → RedisCommand
  | .get => .get
  | .set => .set
  | .delete _ => .delete
  | .scan => .scan
  | .close => .close

structure RedisServer where
  content : OrderedMap String String := .empty
  calls : List RedisCall := []
  failing : RedisTask → Option Fault := fun _ => none

namespace RedisServer

/-- A server that no call gets through to. -/
def unreachable : RedisServer :=
  { failing := fun _ => some (.raised .redisConnection "no connection") }

/-- The result of a call that was recorded: the fault of its task, or what `answer` gives. -/
def respond {α : Type} (r : RedisServer) (task : RedisTask) (call : RedisCall)
    (answer : RedisServer → α × RedisServer) : Except Fault α × RedisServer :=
  let r := { r with calls := r.calls ++ [call] }
  match r.failing task with
  | some fault => (.error fault, r)
  | none =>
    let (a, r) := answer r
    (.ok a, r)

def get (r : RedisServer) (key : String) : Except Fault (Option String) × RedisServer :=
  r.respond .get (.get key) fun r => (r.content.get? key, r)

/-- Puts a value under a key, to be kept for some seconds or for ever. -/
def set (r : RedisServer) (key value : String) (seconds : Option Nat) :
    Except Fault Unit × RedisServer :=
  r.respond .set (.set key value seconds) fun r =>
    ((), { r with content := r.content.put key value })

/-- Takes a key out and tells whether it was there. -/
def delete (r : RedisServer) (key : String) : Except Fault Bool × RedisServer :=
  r.respond (.delete key) (.delete key) fun r =>
    (r.content.contains key, { r with content := r.content.erase key })

/-- Whether a key begins with a text. -/
def begins (start key : String) : Bool := start.toList.isPrefixOf key.toList

/-- The keys that begin with a text, in ascending order. -/
def scan (r : RedisServer) (start : String) : Except Fault (List String) × RedisServer :=
  r.respond .scan (.scan (start ++ "*")) fun r =>
    ((r.content.keys.filter (begins start)).mergeSort fun a b => decide (¬ b < a), r)

def close (r : RedisServer) : Except Fault Unit × RedisServer :=
  r.respond .close .close fun r => ((), r)

end RedisServer

end SessionCookies
