import SessionCookies.Http.Url
import SessionCookies.Log
import SessionCookies.Session.Action
import SessionCookies.Store.Basic

/-!
# Handlers

A handler answers a request or fails, and leaves an exchange: the world, the store, the log, and the
slot in which the session of the request lies. Handlers are put around one another, and every one of
them sees the same slot.
-/

namespace SessionCookies

/-! ### The store as handlers see it -/

/-- The calls that handlers make on a store. -/
inductive StoreCall where
  | load | store | destroy
  deriving DecidableEq, Repr

/-- A store, the calls that were made on it, and the calls that fail before they reach it. -/
structure Backend where
  store : Store
  calls : List StoreCall := []
  failing : StoreCall → Option Fault := fun _ => none

namespace Backend

def record (b : Backend) (call : StoreCall) : Backend := { b with calls := b.calls ++ [call] }

def load (b : Backend) (token : String) (now : Int) : Except Fault (Option Session) × Backend :=
  let b := b.record .load
  match b.failing .load with
  | some fault => (.error fault, b)
  | none =>
    let (found, store) := b.store.load token now
    (found, { b with store })

def save (b : Backend) (s : Session) (now : Int) :
    Except Fault (Option String) × Session × Backend :=
  let b := b.record .store
  match b.failing .store with
  | some fault => (.error fault, s, b)
  | none =>
    let (token, s, store) := b.store.save s now
    (token, s, { b with store })

def destroy (b : Backend) (s : Session) : Except Fault Unit × Backend :=
  let b := b.record .destroy
  match b.failing .destroy with
  | some fault => (.error fault, b)
  | none =>
    let (done, store) := b.store.destroy s
    (done, { b with store })

end Backend

/-! ### The exchange -/

/-- Where the session of a request lies while handlers run, and whether they gave up keeping it. -/
structure Slot where
  session : Option Session := none
  ceased : Bool := false

/-- What a step of a script answers. -/
inductive StepAnswer where
  | answer (a : Answer)
  | session (s : Option Session)

/-- All that answering a request may change. -/
structure Exchange where
  world : World
  backend : Backend
  log : List LogEntry := []
  slot : Slot := {}
  /-- What the steps of the script answered. -/
  results : List (Except Fault StepAnswer) := []

namespace Exchange

/-- Writes to the log. -/
def note (x : Exchange) (logger : Logger) (level : Level) (message : String) : Exchange :=
  { x with log := x.log ++ [⟨logger, level, message⟩] }

/-- Puts a session into the slot or takes it out. -/
def setSession (x : Exchange) (s : Option Session) : Exchange :=
  { x with slot := { x.slot with session := s } }

/-- A new session, and the exchange after its draw. -/
def freshSession (x : Exchange) : Session × Exchange :=
  (Session.fresh x.world, { x with world := x.world.afterDraw })

/-- The session of the request. -/
def currentSession (x : Exchange) : Except Fault Session :=
  match x.slot.session with
  | some s => .ok s
  | none => .error .noSession

end Exchange

/-- Answers a request or fails. -/
abbrev Handler := Request → Exchange → Except Fault Response × Exchange

end SessionCookies
