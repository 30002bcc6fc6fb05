import Mathlib.Tactic
import SessionCookies.Session.Action

/-!
# What an action makes of a session

The ways in which an action changes a session (`Action.becomes_run`). What actions keep of a session
is proved by cases of them: most actions put a text under a name, if they change anything, and each
of the others has an operation of its own.
-/

namespace SessionCookies

/-- A session that is let expire after some time differs from what it was in its expiry alone. -/
lemma Session.expireIn_ok {s t : Session} {now micros : Int} (h : s.expireIn now micros = .ok t) :
    ∃ expiry, Timestamp.ofInstant? (now + micros) = .ok expiry ∧
      t = { s with expiry := some expiry } := by
  rw [expireIn] at h
  rcases hexpiry : Timestamp.ofInstant? (now + micros) with fault | expiry
  · rw [hexpiry] at h
    cases h
  · rw [hexpiry] at h
    cases h
    exact ⟨expiry, rfl, rfl⟩

/-- What an action may make of a session in a world. -/
inductive Session.Becomes (s : Session) (w : World) : Action → Session → Prop
  /-- The action asks for something, moves the clock or fails. -/
  | same (a : Action) : s.Becomes w a s
  | put (a : Action) (name raw : String) : s.Becomes w a (s.putText name raw)
  | removed (name : String) : s.Becomes w (.remove name) (s.remove name).2
  | cleared : s.Becomes w .clear s.clear
  | reset : s.Becomes w .reset s.unchanged
  | destroyed : s.Becomes w .destroy s.destroy
  | regenerated : s.Becomes w .regenerate (s.regenerate w)
  | taken : s.Becomes w .takeCookieValue s.withoutCookieValue
  | expiring {micros : Int} {expiry : Timestamp}
      (h : Timestamp.ofInstant? (w.now + micros) = .ok expiry) :
      s.Becomes w (.expireIn micros) { s with expiry := some expiry }
  | dated (t : Timestamp) : s.Becomes w (.setExpiry t) (s.setExpiry t)

theorem Action.becomes_run (a : Action) (s : Session) (w : World) :
    s.Becomes w a (a.run s w).session := by
  cases a with
  | insert name v =>
    simp only [run, Session.insert]
    cases v.toText? with
    | error fault => exact .same _
    | ok raw => exact .put _ name raw
  | append name v reinsert =>
    simp only [run]
    split
    · exact .same _
    · split
      · exact .same _
      · cases reinsert with
        | true => exact .put _ name _
        | false => exact .same _
  | remove name => exact .removed name
  | clear => exact .cleared
  | reset => exact .reset
  | destroy => exact .destroyed
  | regenerate => exact .regenerated
  | takeCookieValue => exact .taken
  | expireIn micros =>
    simp only [run]
    cases hexpiry : s.expireIn w.now micros with
    | error fault => exact .same _
    | ok t =>
      obtain ⟨expiry, hinstant, rfl⟩ := Session.expireIn_ok hexpiry
      exact .expiring hinstant
  | setExpiry t => exact .dated t
  | _ => exact .same _

end SessionCookies
