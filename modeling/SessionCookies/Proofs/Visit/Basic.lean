import Mathlib.Logic.Relation
import SessionCookies.Proofs.Client.Jar
import SessionCookies.Proofs.Handler.Scripted
import SessionCookies.Proofs.Handler.Sessions
import SessionCookies.Proofs.Store.Leads

/-!
# Visits

One client that sends requests to a service, one after another. Beside what the service has and what
the client has, a visit remembers the session as it was when the service last kept it: that is what
the client is entitled to find again. Between requests keys are added, time goes by, and records of
sessions that have expired get lost.
-/

namespace SessionCookies

/-! ### Handlers -/

/-- An action that leaves it to the service when the session expires and what its cookie is, and
does not set the clock back. -/
def Action.isPlain : Action → Bool
  | .takeCookieValue | .expireIn _ | .setExpiry _ => false
  | .advance micros => decide (0 ≤ micros)
  | _ => true

def Step.isPlain : Step → Bool
  | .act a => a.isPlain
  | _ => true

/-! ### Visits -/

/-- A session that a handler finds continues what its client may expect: it has the id and the data
of that session or, if there is none or it has expired, it is a new one. -/
def Session.Continues (s : Session) (view : Option Session) (w : World) : Prop :=
  (∃ kept, view = some kept ∧ kept.LivesAt w.now ∧ s.id = kept.id ∧ s.data = kept.data) ∨
    (∀ kept, view = some kept → ¬ kept.LivesAt w.now) ∧
      s.id = (Session.fresh w).id ∧ s.data = .empty

/-- A service and a client of it. -/
structure Visit where
  config : SessionConfig
  world : World
  backend : Backend
  /-- The session cookie that the client has. -/
  jar : Jar := none
  /-- The session as it was when it was last kept, unless it was destroyed since. -/
  view : Option Session := none

/-- The session that a client may expect, given the one it could expect before: the one that was
kept, none if one was destroyed, else the same. -/
def SessionConfig.Ending.viewAfter (view : Option Session) : SessionConfig.Ending → Option Session
  | .ceased | .lost | .spoilt _ | .leftAlone => view
  | .discarded _ => none
  | .kept s => some s.recorded

/-- The session that a client may expect after a request around a script. -/
def SessionConfig.viewAfter (c : SessionConfig) (r : Request) (x : Exchange) (steps : List Step)
    (answer : Except Fault Unit → Except Fault Response) (view : Option Session) :
    Option Session :=
  match c.start r x with
  | (.error _, _) => view
  | (.ok _, x) =>
    match answer (runSteps x steps).1 with
    | .error _ => view
    | .ok _ => (c.ending r (runSteps x steps).2.slot).viewAfter view

namespace Visit

/-- The exchange in which the next request is answered. -/
def exchange (v : Visit) : Exchange := { world := v.world, backend := v.backend }

/-- A visit after a request whose handler runs a script. -/
def after (v : Visit) (r : Request) (steps : List Step)
    (answer : Except Fault Unit → Except Fault Response) : Visit :=
  let (result, x) := v.config.around (.scripted steps answer) r v.exchange
  { v with
    world := x.world
    backend := x.backend
    jar := v.jar.afterAnswer v.config.cookieName result
    view := v.config.viewAfter r v.exchange steps answer v.view }

variable {v : Visit} {r : Request} {steps : List Step}
  {answer : Except Fault Unit → Except Fault Response} {s : Session} {x : Exchange}

lemma after_of_error {fault : Fault}
    (hstart : v.config.start r v.exchange = (.ok s, x))
    (hanswer : answer (runSteps x steps).1 = .error fault) :
    v.after r steps answer =
      { v with
        world := (runSteps x steps).2.world
        backend := (runSteps x steps).2.backend } := by
  simp only [after, SessionConfig.around, SessionConfig.viewAfter, hstart, Handler.scripted,
    hanswer, Jar.afterAnswer]

lemma after_of_ok {a : Response}
    (hstart : v.config.start r v.exchange = (.ok s, x))
    (hanswer : answer (runSteps x steps).1 = .ok a) :
    v.after r steps answer =
      { v with
        world := (runSteps x steps).2.world
        backend := SessionConfig.finalBackend (runSteps x steps).2
          (v.config.ending r (runSteps x steps).2.slot)
        jar := v.jar.afterAnswer v.config.cookieName (v.config.finalAnswer r a (runSteps x steps).2
          (v.config.ending r (runSteps x steps).2.slot))
        view := (v.config.ending r (runSteps x steps).2.slot).viewAfter v.view } := by
  obtain ⟨log, hfinish⟩ := v.config.finish_eq r a (runSteps x steps).2
  simp only [after, SessionConfig.around, SessionConfig.viewAfter, hstart, Handler.scripted,
    hanswer, hfinish, Exchange.setSession]

/-- A request that comes with the client's cookie and whose handler is plain and, if it answers,
gives no session cookie of its own and leaves no session to be kept that has expired. -/
structure Admits (v : Visit) (r : Request) (steps : List Step)
    (answer : Except Fault Unit → Except Fault Response) : Prop where
  sendsBack : r.SendsBack v.config.cookieName v.jar
  isPlain : ∀ step ∈ steps, step.isPlain = true
  cookies : ∀ s x a, v.config.start r v.exchange = (.ok s, x) →
    answer (runSteps x steps).1 = .ok a →
    ∀ header ∈ a.cookies, Jar.given? v.config.cookieName header = none
  livesAt : ∀ s x a, v.config.start r v.exchange = (.ok s, x) →
    answer (runSteps x steps).1 = .ok a →
    ∀ t, v.config.ending r (runSteps x steps).2.slot = .kept t →
      t.LivesAt (runSteps x steps).2.world.now

/-- What may happen in a visit. -/
inductive Event : Visit → Visit → Prop
  | request {v : Visit} {r : Request} {steps : List Step}
      {answer : Except Fault Unit → Except Fault Response} (h : v.Admits r steps answer) :
      Event v (v.after r steps answer)
  | rotate (v : Visit) (key : Key) : Event v { v with config := v.config.rotate key }
  | withFallback (v : Visit) (key : Key) : Event v { v with config := v.config.withFallback key }
  | wait (v : Visit) (micros : Nat) :
      Event v { v with world := { v.world with now := v.world.now + micros } }
  | lose {v : Visit} {id record : String} {lost : Session}
      (hheld : v.backend.store.recordOf? none id = some record)
      (hlost : Session.ofRecord? record = some lost) (hexpired : ¬ lost.LivesAt v.world.now) :
      Event v { v with backend := { v.backend with store := v.backend.store.lose id } }

/-- A visit comes to another by any number of events. -/
abbrev Reaches : Visit → Visit → Prop := Relation.ReflTransGen Event

/-- A visit before the first request, to a service whose store is one of those that come with it
and does not fail. -/
structure IsNew (v : Visit) : Prop where
  jar : v.jar = none
  view : v.view = none
  isShipped : v.backend.store.IsShipped
  failing : ∀ call, v.backend.failing call = none

/-- The next request starts, and its handler finds the session that the client may expect. -/
def Resumes (v : Visit) (r : Request) : Prop :=
  ∃ s x, v.config.start r v.exchange = (.ok s, x) ∧ x.slot.session = some s ∧
    s.Continues v.view v.world

end Visit

end SessionCookies
