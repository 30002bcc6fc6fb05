import SessionCookies.Handler.Journal
import SessionCookies.Proofs.Handler.Rejection
import SessionCookies.Proofs.Session.Alike
import SessionCookies.Proofs.Store.Frame

/-!
# Exchanges that differ in the ids of sessions

Two requests may have sessions with the same content under different ids. Their exchanges are alike
if nothing else sets them apart but the records in their stores (`Exchange.Alike`). Scripts keep
exchanges alike and answer in the same way (`Handler.treatsAlike_script`), and so does every handler
that makes no difference by the id of a session (`Handler.TreatsAlike`).
-/

namespace SessionCookies

/-! ### Stores -/

namespace Store

variable {a b : Store} {s t : Session}

/-- What goes wrong when a store is to forget the session of an id. -/
def deletionFault? : Store → String → Option Fault
  | .redis keyPrefix server => fun id => server.failing (.delete (keyPrefix ++ id))
  | _ => fun _ => none

lemma deletionFault?_congr (h : a.emptied = b.emptied) : a.deletionFault? = b.deletionFault? := by
  have hemptied (c : Store) : c.emptied.deletionFault? = c.deletionFault? := by cases c <;> rfl
  rw [← hemptied a, h, hemptied b]

lemma destroy_alike (h : s.Alike a.deletionFault? t) : (a.destroy s).1 = (a.destroy t).1 := by
  cases a with
  | redis keyPrefix server =>
    have hfault : server.failing (.delete (keyPrefix ++ s.id)) =
        server.failing (.delete (keyPrefix ++ t.id)) := h.fault
    simp only [destroy, RedisServer.destroySession, RedisServer.delete, RedisServer.respond, hfault]
    cases server.failing (.delete (keyPrefix ++ t.id)) <;> rfl
  | _ => rfl

/-- Sessions that are alike are given the same token, or each of them the text of some bytes. -/
lemma save_alike (h : s.Alike a.deletionFault? t) (now : Int) :
    (a.save s now).1 = (a.save t now).1 ∨
      ∃ bytes bytes', (a.save s now).1 = .ok (some (Base64.text bytes)) ∧
        (a.save t now).1 = .ok (some (Base64.text bytes')) := by
  cases a with
  | memory records => exact .inl (congrArg Except.ok h.cookieValue)
  | cookie => exact .inr ⟨_, _, rfl, rfl⟩
  | redis keyPrefix server =>
    left
    have hput (seconds : Option Nat) : (server.putSession keyPrefix s seconds).1 =
        (server.putSession keyPrefix t seconds).1 := by
      simp only [RedisServer.putSession, RedisServer.set, RedisServer.respond]
      cases server.failing .set with
      | some fault => rfl
      | none => exact congrArg Except.ok h.cookieValue
    have hdrop : (server.dropSession keyPrefix s).1 = (server.dropSession keyPrefix t).1 := by
      have hfault : server.failing (.delete (keyPrefix ++ s.id)) =
          server.failing (.delete (keyPrefix ++ t.id)) := h.fault
      simp only [RedisServer.dropSession, RedisServer.delete, RedisServer.respond, hfault]
      cases server.failing (.delete (keyPrefix ++ t.id)) <;> rfl
    simp only [save, RedisServer.saveSession_eq, h.timeLeft_eq]
    rcases t.timeLeft now with fault | (_ | left)
    · rfl
    · exact hput none
    · simp only
      split_ifs
      · exact hdrop
      · exact hput _
  | inert => exact .inl rfl

end Store

namespace Backend

variable {a b : Backend} {s t : Session}

lemma destroy_alike (hemptied : a.emptied = b.emptied) (h : s.Alike a.store.deletionFault? t) :
    (a.destroy s).1 = (b.destroy t).1 := by
  rw [← destroy_congr hemptied]
  simp only [destroy, record]
  cases a.failing .destroy with
  | some fault => rfl
  | none => exact Store.destroy_alike h

lemma save_alike (hemptied : a.emptied = b.emptied) (h : s.Alike a.store.deletionFault? t)
    (now : Int) :
    (a.save s now).1 = (b.save t now).1 ∨
      ∃ bytes bytes', (a.save s now).1 = .ok (some (Base64.text bytes)) ∧
        (b.save t now).1 = .ok (some (Base64.text bytes')) := by
  rw [← save_congr hemptied]
  simp only [save, record]
  cases a.failing .store with
  | some fault => exact .inl rfl
  | none => exact Store.save_alike h now

end Backend

/-! ### Exchanges -/

/-- Two exchanges with the same clock, random bytes and log, with stores that fail alike, and with
sessions in their slots that are alike. -/
structure Exchange.Alike (x y : Exchange) : Prop where
  world : x.world = y.world
  emptied : x.backend.emptied = y.backend.emptied
  log : x.log = y.log
  ceased : x.slot.ceased = y.slot.ceased
  session : Option.Rel (Session.Alike x.backend.store.deletionFault?) x.slot.session y.slot.session

/-- Two ways in which something can end: in the same fault, or in results that are related, and with
exchanges that are alike. -/
inductive EndAlike {α : Type} (R : α → α → Prop) :
    Except Fault α × Exchange → Except Fault α × Exchange → Prop
  | failed (fault : Fault) {x y : Exchange} (h : x.Alike y) :
      EndAlike R (.error fault, x) (.error fault, y)
  | done {a b : α} {x y : Exchange} (hresult : R a b) (h : x.Alike y) :
      EndAlike R (.ok a, x) (.ok b, y)

lemma EndAlike.log_eq {α : Type} {R : α → α → Prop} {o o' : Except Fault α × Exchange}
    (h : EndAlike R o o') : o.2.log = o'.2.log := by
  cases h with
  | failed fault h => exact h.log
  | done hresult h => exact h.log

/-- Two responses of which the journal tells the same, the session cookie having a name. -/
structure Response.Alike (cookieName : String) (a b : Response) : Prop where
  status : a.status = b.status
  setsCookie : a.setsCookie cookieName = b.setsCookie cookieName

/-- A handler that makes no difference between requests that differ in their cookies alone, as long
as their exchanges are alike. -/
def Handler.TreatsAlike (cookieName : String) (inner : Handler) : Prop :=
  ∀ ⦃r q : Request⦄ ⦃x y : Exchange⦄, r.SameBesideCookies q → x.Alike y →
    EndAlike (Response.Alike cookieName) (inner r x) (inner q y)

lemma Response.alike_refl (cookieName : String) (a : Response) : a.Alike cookieName a := ⟨rfl, rfl⟩

lemma Response.setsCookie_addCookie (a : Response) (header name : String) :
    (a.addCookie header).setsCookie name =
      (a.setsCookie name || (name ++ "=").toList.isPrefixOf header.toList) := by
  rw [setsCookie, setsCookie, addCookie, List.any_append, List.any_cons, List.any_nil, Bool.or_false]

namespace Exchange.Alike

variable {x y : Exchange}

lemma refl (x : Exchange) : x.Alike x := by
  refine ⟨rfl, rfl, rfl, rfl, ?_⟩
  cases x.slot.session with
  | none => exact .none
  | some s => exact .some (.refl _ s)

lemma note (h : x.Alike y) (logger : Logger) (level : Level) (message : String) :
    (x.note logger level message).Alike (y.note logger level message) :=
  { h with log := by rw [Exchange.note, Exchange.note, h.log] }

lemma setSession (h : x.Alike y) {s t : Option Session}
    (hst : Option.Rel (Session.Alike x.backend.store.deletionFault?) s t) :
    (x.setSession s).Alike (y.setSession t) := { h with session := hst }

lemma withBackend (h : x.Alike y) {a b : Backend} (ha : a.emptied = x.backend.emptied)
    (hb : b.emptied = y.backend.emptied) :
    { x with backend := a }.Alike { y with backend := b } := by
  refine { h with emptied := ha.trans (h.emptied.trans hb.symm), session := ?_ }
  rw [Store.deletionFault?_congr (congrArg Backend.store ha)]
  exact h.session

lemma freshSession (h : x.Alike y) :
    x.freshSession.1 = y.freshSession.1 ∧ x.freshSession.2.Alike y.freshSession.2 := by
  refine ⟨congrArg Session.fresh h.world, { h with world := ?_ }⟩
  exact congrArg World.afterDraw h.world

/-! ### Scripts -/

/-- No step of a script tells exchanges apart that are alike. -/
lemma run (h : x.Alike y) (step : Step) : (step.run x).2.Alike (step.run y).2 := by
  cases step with
  | act a =>
    have hsession := h.session
    simp only [Step.run, h.world]
    generalize x.slot.session = s, y.slot.session = t at hsession
    cases hsession with
    | none => exact h
    | some hst =>
      obtain ⟨hworld, halike⟩ := hst.run a y.world
      exact { h with world := hworld, session := .some halike }
  | replace =>
    obtain ⟨hfresh, halike⟩ := h.freshSession
    simp only [Step.run, hfresh]
    exact halike.setSession (.some (.refl _ _))
  | take => exact h.setSession .none
  | cease => exact { h with ceased := rfl }
  | _ => exact h

theorem runSteps (h : x.Alike y) (steps : List Step) :
    (SessionCookies.runSteps x steps).1 = (SessionCookies.runSteps y steps).1 ∧
      (SessionCookies.runSteps x steps).2.Alike (SessionCookies.runSteps y steps).2 :=
  runSteps_relates (fun step _ _ h => { h.run step with }) h steps

end Exchange.Alike

/-- Scripts treat requests alike. -/
theorem Handler.treatsAlike_script (cookieName : String) (steps : List Step) :
    (Handler.script steps).TreatsAlike cookieName := by
  intro r q x y _ h
  obtain ⟨hdone, halike⟩ := h.runSteps steps
  simp only [script, hdone]
  rcases (runSteps y steps).1 with fault | _
  · exact .failed fault halike
  · exact .done (Response.alike_refl _ _) halike

end SessionCookies
