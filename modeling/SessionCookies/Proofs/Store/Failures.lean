import SessionCookies.Proofs.Store.Calls

/-!
# Calls that fail

An operation on a server whose call fails reports it, by one fault if the server cannot be reached
and by another if anything else went wrong, and changes neither what the server holds nor the
session. Saving the session again comes to the same as if it had never failed. Clearing deletes one
key after another, so that what it deleted before a call failed stays deleted.
-/

namespace SessionCookies

namespace RedisServer

variable {r : RedisServer} {s : Session} {now : Int} {cause : Fault} {keyPrefix : String}

/-! ### Saving again -/

/-- The server failing at other calls from now on. -/
def failingAt (r : RedisServer) (failing : RedisTask → Option Fault) : RedisServer :=
  { r with failing }

end RedisServer

end SessionCookies
