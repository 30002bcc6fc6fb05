/-!
# Log entries

What is written to the log: who writes it, how grave it is, and the text.
-/

namespace SessionCookies

/-- The parts of the program that write to the log. -/
inductive Logger where
  | sessions | service | pipeline | settings | lifecycle | redis | routes | root
  deriving DecidableEq, Repr

def Logger.name : Logger → String
  | .sessions => "sigil.session.middleware"
  | .service => "sigil.service"
  | .pipeline => "sigil.service.middleware"
  | .settings => "sigil.service.config"
  | .lifecycle => "sigil.service.lifecycle"
  | .redis => "sigil.service.redis"
  | .routes => "sigil.service.routers.session"
  | .root => "root"

/-- How grave an entry is. -/
inductive Level where
  | debug | info | warning | error | critical
  deriving DecidableEq, Repr

def Level.name : Level → String
  | .debug => "DEBUG"
  | .info => "INFO"
  | .warning => "WARNING"
  | .error => "ERROR"
  | .critical => "CRITICAL"

/-- The levels in the order of their gravity. -/
def Level.rank : Level → Nat
  | .debug => 0
  | .info => 1
  | .warning => 2
  | .error => 3
  | .critical => 4

structure LogEntry where
  logger : Logger
  level : Level
  message : String
  deriving DecidableEq, Repr

/-- An entry as a line of text. -/
def LogEntry.line (e : LogEntry) : String := s!"{e.logger.name} - {e.level.name} - {e.message}"

end SessionCookies
