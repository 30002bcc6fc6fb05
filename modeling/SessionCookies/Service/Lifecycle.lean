import SessionCookies.Settings.Variables

/-!
# The life of the service

While the service lives, a store in memory is cleaned of expired sessions after every pause of ten
minutes; other stores see to it themselves. When the service ends, the shared Redis clients are
closed.
-/

namespace SessionCookies

namespace Lifecycle

/-- The seconds between two cleanups. -/
def pauseSeconds : Nat := 600

/-- What the service is like when a pause begins: the store, and what was written to the log since
the pause before. -/
structure Pause where
  store : Store
  log : List LogEntry

/-- Whether the service has to clean a store. -/
def isCleaned : Store → Bool
  | .memory _ => true
  | _ => false

/-- Cleans a store. Trouble with a record is written down, and the next cleanup tries again. -/
def clean (store : Store) (now : Int) : Store × LogEntry :=
  match store.cleanup now with
  | (.ok dropped, store) =>
    (store, ⟨.lifecycle, .debug,
      s!"Session cleanup completed: removed {dropped} expired sessions"⟩)
  | (.error fault, store) =>
    (store, ⟨.lifecycle, .error, "Error during session cleanup: " ++ fault.message⟩)

/-- The pauses that begin when so many of them pass, from the one that begins now. -/
def pausesFrom (now : Int) (pause : Pause) : Nat → List Pause
  | 0 => [pause]
  | passing + 1 =>
    let now := now + pauseSeconds * Civil.microsPerSecond
    let (store, entry) := clean pause.store now
    pause :: pausesFrom now ⟨store, [entry]⟩ passing

/-- The pauses in a life of the service. -/
def pauses (store : Store) (now : Int) (passing : Nat) : List Pause :=
  if isCleaned store then pausesFrom now ⟨store, []⟩ passing else []

/-- Closes the shared clients and says that the service has ended. -/
def shutDown (s : Setup) : Setup :=
  let (clients, log) := s.clients.closeAll
  Setup.note ⟨clients, s.log ++ log⟩ .lifecycle .info "Session service shut down"

end Lifecycle

end SessionCookies
