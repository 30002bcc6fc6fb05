import SessionCookies.Handler.Containment
import SessionCookies.Handler.Https
import SessionCookies.Handler.Journal
import SessionCookies.Handler.Sessions
import SessionCookies.Service.Routes

/-!
# The service

The routes with sessions, inside the journal, inside the containment of faults, and if it is wanted
behind a redirection to HTTPS.
-/

namespace SessionCookies

/-- How the service is set up. -/
structure Service where
  config : SessionConfig
  forceHttps : Bool := false
  httpsPort : Option Int := none

namespace Service

/-- The handler of the service, with further routes. -/
def handler (s : Service) (further : List Route) : Handler :=
  let app := ((s.config.around (Handler.answering (.routed (routes ++ further)))).journaled
    s.config.cookieName).contained
  if s.forceHttps then app.overHttps s.httpsPort fun _ => true else app

/-- How a port is written. -/
def portText : Option Int → String
  | none => "None"
  | some port => toString port

/-- What is written to the log when the service is set up. -/
def announcement (s : Service) : List LogEntry :=
  let redirect := if s.forceHttps then
    [⟨.pipeline, .info, "HTTPS redirect enabled (port override: " ++ portText s.httpsPort ++ ")"⟩]
  else []
  redirect ++ [⟨.service, .info, "Session service application created"⟩]

end Service

end SessionCookies
