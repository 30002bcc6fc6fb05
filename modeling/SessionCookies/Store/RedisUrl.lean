import SessionCookies.Http.Query
import SessionCookies.Http.UrlParts
import SessionCookies.Text.Numeral

/-!
# Redis URLs

The URL of a Redis server has one of three schemes. One for a network address must have a proper
port if it has any. The query holds settings of the connection; a setting of a known name must be of
the kind that the name calls for, and only the first field of a name counts.
-/

namespace SessionCookies.RedisUrl

/-! ### Settings -/

/-- The flags for the verification of certificates. -/
def verificationFlags : List String :=
  ["VERIFY_DEFAULT", "VERIFY_CRL_CHECK_LEAF", "VERIFY_CRL_CHECK_CHAIN", "VERIFY_X509_STRICT",
    "VERIFY_ALLOW_PROXY_CERTS", "VERIFY_X509_TRUSTED_FIRST", "VERIFY_X509_PARTIAL_CHAIN"]

def isInteger (value : List Char) : Bool := (Numeral.ofText? (String.ofList value)).isSome

/-- Whether a text is a count of connections. -/
def isCount (value : List Char) : Bool := (Numeral.ofText? (String.ofList value)).any (0 ≤ ·)

/-- Whether a text is a list of flags, with or without brackets. -/
def areFlags (value : List Char) : Bool :=
  (Split.pieces ',' (value.filter fun c => c ≠ '[' && c ≠ ']')).all fun flag =>
    verificationFlags.contains (String.ofList (Blank.strip flag))

/-- What the values of some settings must satisfy. -/
def settings : List (String × (List Char → Bool)) := [
  ("db", isInteger), ("protocol", isInteger), ("health_check_interval", isInteger),
  ("max_connections", isCount), ("timeout", Numeral.isDecimal),
  ("socket_timeout", Numeral.isDecimal), ("socket_connect_timeout", Numeral.isDecimal),
  ("ssl_include_verify_flags", areFlags), ("ssl_exclude_verify_flags", areFlags)]

/-- Whether every setting in a query is of the kind it must be. -/
def hasSoundSettings (query : List Char) : Bool :=
  let fields := Query.fields query
  settings.all fun (name, isSound) =>
    match fields.lookup name.toList with
    | some value => isSound (Query.unescape value)
    | none => true

/-! ### URLs -/

/-- The schemes of network addresses. -/
def networkSchemes : List (List Char) := ["redis".toList, "rediss".toList]

/-- Whether a URL has a scheme for Redis, and a proper port if it needs one. -/
def hasSoundAddress (parts : UrlParts) : Bool :=
  parts.scheme = "unix".toList ||
    (networkSchemes.contains parts.scheme &&
      UrlParts.isPortNumber (UrlParts.portOf parts.authority))

/-- Whether a text is the URL of a Redis server. -/
def isValid (url : String) : Bool :=
  (UrlParts.ofChars? url.toList).any fun parts =>
    hasSoundAddress parts && hasSoundSettings parts.query

end SessionCookies.RedisUrl
