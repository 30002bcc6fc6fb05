/-!
# Faults

Everything that can go wrong, one constructor for each cause. What the library itself notices comes
first; `raised` holds what a handler, a store or a server outside the library reports in its own
words. The wording of a fault is written in one place, `Fault.message`.
-/

namespace SessionCookies

/-- The kinds of fault that come from outside the library. -/
inductive Outside where
  /-- The connection to a Redis server is gone. -/
  | redisConnection
  /-- A Redis server did not answer in time. -/
  | redisTimeout
  /-- A Redis server answered with an error. -/
  | redis
  | operatingSystem
  | unspecified
  | store
  | storeUnavailable
  | sessionInvariant
  | cookieMalformed
  /-- An answer with this status, raised as a fault by a handler. -/
  | http (status : Nat)
  /-- The same, raised below the framework that handlers are written for. -/
  | bareHttp (status : Nat)
  deriving DecidableEq, Repr

/-- The operations of a store kept in Redis. -/
inductive StoreOperation where
  | load | store | deletion | clear
  deriving DecidableEq, Repr

def StoreOperation.description : StoreOperation → String
  | .load => "session load"
  | .store => "session store"
  | .deletion => "session deletion"
  | .clear => "session clear"

/-- Why an operation failed. -/
inductive Fault where
  /-- A signing secret has this many bytes, fewer than a secret must have. -/
  | secretTooShort (length : Nat)
  /-- A signed value is too short to hold a digest. -/
  | digestMissing
  /-- The text in the place of the digest is not base64. -/
  | digestNotBase64
  /-- No key gives the digest that the value carries. -/
  | signatureMismatch
  /-- A Redis server reported an error during this operation. -/
  | storeFailed (op : StoreOperation)
  /-- Something other than Redis failed during this operation. -/
  | storeFailedUnexpectedly (op : StoreOperation)
  /-- The Redis server could not be reached during this operation. -/
  | storeUnavailable (op : StoreOperation)
  /-- A store of this name does not offer `clear`. -/
  | clearUnsupported (storeName : String)
  /-- A handler asked for the session of a request that has none. -/
  | noSession
  /-- The session was gone from the request when the response was finished. -/
  | sessionLost
  /-- A text is no JSON text; it goes wrong at this character. -/
  | notJson (position : Nat)
  /-- A JSON text or a value has an integer with more digits than may be read or written. -/
  | integerTooLong
  /-- A JSON text is nested too deeply. -/
  | nestedTooDeeply
  /-- A value has a part that JSON cannot express. -/
  | notSerialisable
  /-- A value contains itself. -/
  | circularValue
  /-- A value that should be a list is none. -/
  | notAList
  /-- A moment or a duration is outside the calendar. -/
  | dateOutOfRange
  /-- An expiry without an offset was compared with the clock. -/
  | expiryWithoutOffset
  /-- A record, or a setting given by hand, does not have the form it must have. -/
  | invalidForm
  /-- A cookie was to be given a name that no cookie may have. -/
  | illegalCookieName
  /-- A header was to hold a character above U+00FF, or a body a lone surrogate. -/
  | notEncodable
  /-- A body was to be made of a value that is no text. -/
  | bodyNotText
  /-- A text names no SameSite policy. -/
  | unknownSameSite
  /-- A setting is not an integer. -/
  | notAnInteger
  /-- The signing secret is not set. -/
  | secretMissing
  /-- The time to live is set to this negative number of seconds. -/
  | negativeTtl (seconds : Int)
  /-- No store has this name. -/
  | unknownStore (name : String)
  /-- A Redis URL has an unknown scheme, or a part that is malformed. -/
  | badRedisUrl
  /-- The scheme of a request has no port of its own, which the URL of the request needs. -/
  | unknownScheme
  /-- The URL of a request cannot be taken apart. -/
  | malformedUrl
  /-- The query of a request is no UTF-8. -/
  | queryNotUtf8
  | raised (kind : Outside) (text : String)
  deriving DecidableEq, Repr

namespace Fault

/-- What a fault says of itself. The library's own faults say it in the library's words. The texts
of faults that the runtime or another package reports (those of JSON texts and values, of dates, of
numbers and of encodings, of `invalidForm`, `illegalCookieName`, `unknownSameSite` and URLs) are
short stand-ins for theirs, which say more: `notEncodable` leaves out the character and its place. -/
def message : Fault → String
  | .secretTooShort n =>
    s!"invalid key length: signing secrets must be at least 64 bytes, got {n}"
  | .digestMissing => "length of value is shorter than the digest prefix"
  | .digestNotBase64 => "bad base64 digest"
  | .signatureMismatch => "value did not verify"
  | .storeFailed op => s!"Database error during {op.description}"
  | .storeFailedUnexpectedly op => s!"Unexpected error during {op.description}"
  | .storeUnavailable op => s!"Database connection error during {op.description}"
  | .clearUnsupported name => s!"{name} does not support clear()"
  | .noSession => "no session in request state; is SessionMiddleware installed?"
  | .sessionLost => "session should exist in request state"
  | .notJson position => s!"not a JSON text (char {position})"
  | .integerTooLong => "integer with too many digits"
  | .nestedTooDeeply => "nested too deeply"
  | .notSerialisable => "value is not JSON serializable"
  | .circularValue => "circular reference"
  | .notAList => "value is not a list"
  | .dateOutOfRange => "date value out of range"
  | .expiryWithoutOffset => "an expiry without an offset cannot be compared"
  | .invalidForm => "invalid form"
  | .illegalCookieName => "illegal cookie name"
  | .notEncodable => "character cannot be encoded"
  | .bodyNotText => "value is not a text"
  | .unknownSameSite => "unknown SameSite policy"
  | .notAnInteger => "not an integer"
  | .secretMissing => "SESSION_SECRET_KEY environment variable must be set"
  | .negativeTtl n => s!"SESSION_TTL_SECONDS must not be negative, got {n}"
  | .unknownStore name =>
    s!"Unknown SESSION_STORE '{name}', must be one of memory, cookie, redis"
  | .badRedisUrl => "a Redis URL is malformed or has none of the schemes redis, rediss and unix"
  | .unknownScheme => "a scheme has no port of its own"
  | .malformedUrl => "a URL cannot be taken apart"
  | .queryNotUtf8 => "a query is no UTF-8"
  | .raised _ text => text

/-- Whether a fault says that the session of a request went missing. -/
def isSessionInvariant : Fault → Bool
  | .noSession | .sessionLost | .raised .sessionInvariant _ => true
  | _ => false

/-- Whether a fault stands for an answer of the handlers' framework. -/
def isHttp : Fault → Bool
  | .raised (.http _) _ => true
  | _ => false

/-- The status of a fault that stands for an answer. -/
def httpStatus? : Fault → Option Nat
  | .raised (.http status) _ | .raised (.bareHttp status) _ => some status
  | _ => none

end Fault

end SessionCookies
