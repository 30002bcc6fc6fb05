import SessionCookies.Service.Launch

/-!
# The program

Reads the environment, writes the log, and tells how the web server is to run the service.
-/

namespace SessionCookies

/-- The variables that the program looks at. -/
def variableNames : List String := [
  "LOG_LEVEL", "MODE", "PORT", "FORCE_HTTPS", "HTTPS_PORT", "REDIS_URL", "SESSION_COOKIE_DOMAIN",
  "SESSION_COOKIE_NAME", "SESSION_COOKIE_PATH", "SESSION_FALLBACK_SECRET_KEYS",
  "SESSION_REDIS_PREFIX", "SESSION_SAME_SITE", "SESSION_SAVE_UNCHANGED", "SESSION_SECRET_KEY",
  "SESSION_STORE", "SESSION_TTL_SECONDS"]

/-- The environment that the program was started in. -/
def currentEnvironment : IO Environment := do
  let found ← variableNames.mapM fun name => do
    let value ← IO.getEnv name
    return value.map fun value => (name, value)
  return ⟨found.filterMap id⟩

/-- How the web server is to be run, in words. -/
def Launch.description : Launch → String
  | .development port => s!"serve on 127.0.0.1:{port}, making the service anew on every change"
  | .production _ _ port => s!"serve on 0.0.0.0:{port}"

end SessionCookies

open SessionCookies in
/-- Prepares the launch; the exit code tells whether the service can be run. -/
def main : IO UInt32 := do
  let e ← currentEnvironment
  let (level, s) := Launch.begin e {}
  let (launch, s) := Launch.prepare e s
  for entry in s.log do
    if level.rank ≤ entry.level.rank then IO.eprintln entry.line
  match launch with
  | .ok launch =>
    IO.println launch.description
    return 0
  | .error fault =>
    IO.eprintln fault.message
    return 1
