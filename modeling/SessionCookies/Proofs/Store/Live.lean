import Mathlib.Tactic
import SessionCookies.Handler.Basic

/-!
# Only live sessions are found

Every store judges a session by its expiry before it gives it away, so that no session which it
finds has expired at that moment.
-/

namespace SessionCookies

lemma Session.live?_eq_some {s t : Session} {now : Int} :
    s.live? now = .ok (some t) ↔ t = s ∧ s.isExpired now = .ok false := by
  simp only [live?]
  rcases s.isExpired now with fault | (_ | _) <;> simp [Except.map, eq_comm]

/-- A session that a store finds is live. -/
lemma Store.live?_of_load {a : Store} {token : String} {now : Int} {s : Session}
    (h : (a.load token now).1 = .ok (some s)) : s.live? now = .ok (some s) := by
  have of_live? : ∀ {t : Session}, t.live? now = .ok (some s) → s.live? now = .ok (some s) := by
    intro t ht
    obtain ⟨rfl, hexpired⟩ := Session.live?_eq_some.1 ht
    exact ht
  cases a with
  | memory records =>
    simp only [load, Memory.load] at h
    split at h
    · cases h
    · split at h
      · cases h
      · split at h
        · cases h
        · cases h
        · next hexpired =>
          cases h
          exact Session.live?_eq_some.2 ⟨rfl, hexpired⟩
  | cookie =>
    simp only [load, CookieToken.load] at h
    split at h
    · cases h
    · exact of_live? h
  | redis keyPrefix server =>
    simp only [load, RedisServer.loadSession] at h
    split at h
    · cases h
    · cases h
    · split at h
      · cases h
      · exact of_live? h
  | inert => cases h

lemma Backend.live?_of_load {b : Backend} {token : String} {now : Int} {s : Session}
    (h : (b.load token now).1 = .ok (some s)) : s.live? now = .ok (some s) := by
  simp only [load, record] at h
  split at h
  · cases h
  · exact Store.live?_of_load h

end SessionCookies
