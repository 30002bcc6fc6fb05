import SessionCookies.Service.Setup

/-!
# Launching the service

In development the web server makes the service itself, and makes it anew whenever it changes. In
production it is handed the service and listens on all addresses.
-/

namespace SessionCookies

/-- How a web server is to run the service. -/
inductive Launch where
  | development (port : Int)
  | production (service : Service) (store : Store) (port : Int)

namespace Launch

/-- Says that the program starts, and how much it logs. -/
def greet (level : Level) (s : Setup) : Setup :=
  let s := s.note .root .info "Sigil session service starting"
  let s := s.note .root .info ("Log level: " ++ level.name)
  if level = .debug then
    s.note .root .info
      "DEBUG logging enabled - session cookie verification and store decisions are logged"
  else s

/-- The level of the log, after a greeting. -/
def begin (e : Environment) (s : Setup) : Level × Setup :=
  let (level, s) := e.logLevel s
  (level, greet level s)

/-- The port that the server listens on. -/
def port? (e : Environment) : Except Fault Int :=
  match e.get? "PORT" with
  | some text => Environment.integer? text
  | none => .ok 5000

/-- The launch that the environment asks for. -/
def prepare (e : Environment) (s : Setup) : Except Fault Launch × Setup :=
  match port? e with
  | .error fault => (.error fault, s)
  | .ok port =>
    if e.get? "MODE" = some "dev" then
      let s := s.note .root .info "Running in development mode with auto-reload"
      (.ok (.development port), s.note .root .info
        s!"Tip: check service health via `curl http://127.0.0.1:{port}/status`")
    else
      let s := s.note .root .info "Running in production mode"
      match Service.setUp {} e s with
      | (.error fault, s) => (.error fault, s)
      | (.ok (service, store), s) => (.ok (.production service store port), s)

end Launch

end SessionCookies
