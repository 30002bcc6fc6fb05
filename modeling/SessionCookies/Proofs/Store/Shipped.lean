import SessionCookies.Proofs.Session.Expiry
import SessionCookies.Proofs.Store.Frame

/-!
# Stores that do not fail

The stores that come with the service, as long as the calls on their server succeed. Whether a
session has expired can be told if its expiry has an offset from UTC, and then saving and destroying
it succeed, and what is found by its record is the session as it was saved, as long as it lives
(`foundAt_ofHeld?`).
-/

namespace SessionCookies

/-! ### Sessions that were saved -/

namespace Session

variable {s : Session} {now : Int}

lemma HasWholeOffset.ofRecord?_record (h : s.HasWholeOffset) :
    ofRecord? s.record = some s.recorded := Session.ofRecord?_record fun t ht => (h t ht).2

/-- What a store finds of a session by its record. -/
def FoundAt (s : Session) (now : Int) (found : Except Fault (Option Session)) : Prop :=
  found = .ok (some s.recorded) ∧ s.LivesAt now ∨ found = .ok none ∧ ¬ s.LivesAt now

lemma HasWholeOffset.foundAt_ofHeld? (h : s.HasWholeOffset) (now : Int) :
    s.FoundAt now (ofHeld? (some s.record) now) := by
  have hfound : ofHeld? (some s.record) now =
      (s.isExpired now).map fun expired => if expired then none else some s.recorded := by
    simp only [ofHeld?, Option.bind_some, h.ofRecord?_record]
    rfl
  rw [FoundAt, hfound]
  obtain ⟨hjudged, hlives⟩ | ⟨hjudged, hlives⟩ := h.isExpired_cases now
  · exact .inl ⟨by rw [hjudged]; rfl, hlives⟩
  · exact .inr ⟨by rw [hjudged]; rfl, hlives⟩

lemma HasWholeOffset.not_isStale (h : s.HasWholeOffset) (hlives : s.LivesAt now) :
    ¬ IsStale now s.record := by
  intro hstale
  obtain ⟨hfound, -⟩ | ⟨-, hexpired⟩ := h.foundAt_ofHeld? now
  · cases (ofHeld?_of_isStale hstale).symm.trans hfound
  · exact hexpired hlives

end Session

/-! ### Operations that succeed -/

namespace Store

variable {a b : Store} {s : Session} {now : Int}

/-- The stores that come with the service, the server's calls succeeding. -/
def IsShipped : Store → Prop
  | .memory _ | .cookie => True
  | .redis _ server => server.AllSucceed
  | .inert => False

lemma IsShipped.holdsRecords_or (ha : a.IsShipped) : a.HoldsRecords ∨ a = .cookie := by
  cases a with
  | cookie => exact .inr rfl
  | inert => cases ha
  | _ => exact .inl trivial

lemma IsShipped.of_emptied_eq (ha : a.IsShipped) (h : b.emptied = a.emptied) : b.IsShipped := by
  have hemptied (c : Store) : c.emptied.IsShipped ↔ c.IsShipped := by cases c <;> exact Iff.rfl
  rw [← hemptied, h, hemptied]
  exact ha

lemma IsShipped.readFault? (ha : a.IsShipped) : a.readFault? = none := by
  cases a with
  | redis keyPrefix server => rw [Store.readFault?, ha .get, Option.map_none]
  | _ => rfl

lemma IsShipped.load_eq (ha : a.IsShipped) (token : String) (now : Int) :
    (a.load token now).1 = Session.ofHeld? (a.recordOf? (some token) (sessionId token)) now := by
  rw [Store.load_eq, ha.readFault?]

lemma IsShipped.destroy_eq (ha : a.IsShipped) (s : Session) : (a.destroy s).1 = .ok () := by
  cases a with
  | redis keyPrefix server =>
    have hsucceed : server.AllSucceed := ha
    simp only [destroy, RedisServer.destroySession, RedisServer.delete,
      RedisServer.respond_of_allSucceed hsucceed]
  | _ => rfl

lemma IsShipped.exists_save (ha : a.IsShipped) (hs : s.HasWholeOffset) (now : Int) :
    ∃ given, (a.save s now).1 = .ok given := by
  cases a with
  | redis keyPrefix server =>
    have hsucceed : server.AllSucceed := ha
    have hput (seconds : Option Nat) :
        ∃ given, (server.putSession keyPrefix s seconds).1 = .ok given := by
      simp only [RedisServer.putSession, RedisServer.set,
        RedisServer.respond_of_allSucceed hsucceed]
      exact ⟨_, rfl⟩
    have hdrop : ∃ given, (server.dropSession keyPrefix s).1 = .ok given := by
      simp only [RedisServer.dropSession, RedisServer.delete,
        RedisServer.respond_of_allSucceed hsucceed]
      exact ⟨_, rfl⟩
    simp only [save, RedisServer.saveSession_eq]
    rcases hleft : s.timeLeft now with fault | (_ | left)
    · obtain ⟨hjudged, -⟩ | ⟨hjudged, -⟩ := hs.isExpired_cases now <;>
        rw [Session.isExpired, hleft] at hjudged <;> cases hjudged
    · exact hput none
    · simp only
      split_ifs
      · exact hdrop
      · exact hput _
  | _ => exact ⟨_, rfl⟩

lemma Lapses.not_livesAt (h : a.Lapses s now) : ¬ s.LivesAt now := by
  cases a with
  | redis keyPrefix server =>
    rw [Session.livesAt_iff_of_isExpired h]
    decide
  | _ => cases h

/-- A session that lives is put into the store, which gives the session's cookie value. -/
lemma IsShipped.save_of_livesAt (ha : a.IsShipped) (hholds : a.HoldsRecords)
    (hs : s.HasWholeOffset) (hlives : s.LivesAt now) :
    (a.save s now).1 = .ok s.cookieValue ∧
      (a.save s now).2.2.content = a.content.put (a.keyOf s.id) s.record := by
  obtain ⟨given, hgiven⟩ := ha.exists_save hs now
  obtain ⟨-, hcontent⟩ | ⟨hlapses, -⟩ := content_save_of_ok hholds hgiven
  · refine ⟨?_, hcontent⟩
    cases a with
    | memory records => rfl
    | redis keyPrefix server =>
      obtain ⟨-, rfl, -⟩ | ⟨-, -, hexpired⟩ := RedisServer.saveSession_ok hgiven
      · exact hgiven
      · cases (Session.livesAt_iff_of_isExpired hexpired).1 hlives
    | cookie => cases hholds
    | inert => cases hholds
  · exact absurd hlives hlapses.not_livesAt

/-- What is left of a store that was cleared was held there before, and under no key of an id. -/
lemma IsShipped.get?_content_clear (ha : a.IsShipped) {key record : String}
    (h : a.clear.2.content.get? key = some record) :
    a.content.get? key = some record ∧ ∀ id, key ≠ a.keyOf id := by
  cases a with
  | redis keyPrefix server =>
    obtain ⟨-, hcontent⟩ := RedisServer.clearSessions_of_allSucceed ha keyPrefix
    simp only [clear, content, hcontent key] at h
    split_ifs at h with hbegins
    refine ⟨h, ?_⟩
    rintro id rfl
    apply hbegins
    rw [RedisServer.begins, keyOf, String.toList_append, List.isPrefixOf_iff_prefix]
    exact List.prefix_append _ _
  | _ => cases h

end Store

end SessionCookies
