import SessionCookies.Handler.Basic

/-!
# Redirection to HTTPS

A request over plain HTTP is sent to the same place over HTTPS, with another port if one is set. A
request that names no host cannot be, and goes on to the handler. One whose URL cannot be read goes
nowhere.
-/

namespace SessionCookies

/-- A host with another port: what stands before its first colon, and the new port. -/
def redirectHost (host : String) (port : Option Int) : String :=
  match port with
  | none => host
  | some port => String.ofList (host.toList.takeWhile (· ≠ ':')) ++ ":" ++ toString port

namespace UrlParts

/-- The path of a URL. -/
def pathText (parts : UrlParts) : String := String.ofList parts.path

/-- The query of a URL, which ends at a number sign. -/
def queryText (parts : UrlParts) : String := String.ofList parts.query

/-- The same place over HTTPS, on a host that a request names. -/
def httpsUrl (parts : UrlParts) (host : String) (port : Option Int) : String :=
  let query := if parts.queryText.isEmpty then "" else "?" ++ parts.queryText
  "https://" ++ redirectHost host port ++ parts.pathText ++ query

end UrlParts

/-- A handler to which only requests over HTTPS come, or those that are not `concerned`. -/
def Handler.overHttps (port : Option Int) (concerned : Request → Bool)
    (inner : Handler) : Handler :=
  fun r x =>
    match r.url, r.urlParts with
    | .error fault, _ | .ok _, .error fault => (.error fault, x)
    | .ok url, .ok parts =>
      if parts.scheme = "https".toList || !concerned r then inner r x
      else
        match r.header? "host" with
        | none | some "" =>
          inner r (x.note .pipeline .warning
            ("Cannot redirect " ++ parts.pathText ++ " to https: no Host header"))
        | some host =>
          let target := parts.httpsUrl host port
          (.ok (.redirect 308 target),
            x.note .pipeline .debug ("Redirecting " ++ url ++ " to " ++ target))

end SessionCookies
