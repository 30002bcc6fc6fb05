import SessionCookies.Service.App
import SessionCookies.Settings.Variables

/-!
# Setting the service up

The service is made of what its caller gives, and of what the environment says about the rest.
-/

namespace SessionCookies

namespace Service

/-- What a caller may decide about the service. -/
structure Choices where
  sessions : Option (SessionConfig × Store) := none
  forceHttps : Option Bool := none
  httpsPort : Option Int := none

/-- The redirection that a caller chose. The environment is asked about all of it if the caller left
open whether there is one; a port that the caller chose comes first. -/
def Choices.redirect? (c : Choices) (e : Environment) : Except Fault Environment.HttpsRedirect :=
  match c.forceHttps with
  | some enabled => .ok ⟨enabled, c.httpsPort⟩
  | none => do
    let asked ← e.httpsRedirect?
    return ⟨asked.enabled, c.httpsPort.or asked.port⟩

/-- The configuration of sessions that a caller chose, else that of the environment. -/
def Choices.sessions? (c : Choices) (e : Environment) (s : Setup) :
    Except Fault (SessionConfig × Store) × Setup :=
  match c.sessions with
  | some sessions => (.ok sessions, s)
  | none => e.sessionConfig? none s

/-- The service and its store. -/
def setUp (c : Choices) (e : Environment) (s : Setup) : Except Fault (Service × Store) × Setup :=
  match c.sessions? e s with
  | (.error fault, s) => (.error fault, s)
  | (.ok (config, store), s) =>
    match c.redirect? e with
    | .error fault => (.error fault, s)
    | .ok redirect =>
      let service : Service := ⟨config, redirect.enabled, redirect.port⟩
      (.ok (service, store), { s with log := s.log ++ service.announcement })

end Service

end SessionCookies
