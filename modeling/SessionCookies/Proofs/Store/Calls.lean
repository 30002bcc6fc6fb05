import Mathlib.Data.List.TakeWhile
import SessionCookies.Proofs.Store.Loading

/-!
# The calls on a server

Looking for a session, saving it and destroying it make one call each on a server. What is called
depends on the token or on the session and the time, never on what the server holds or on which
calls fail: a session that lives is put there for the seconds it has left, one that has expired is
deleted (`savingCall`). If the call fails that is all that happens; if not, what is held afterwards
under each key is what the call puts there or takes away.
-/

namespace SessionCookies

/-- What a server fails at when a call fails. -/
def RedisCall.task : RedisCall → RedisTask
  | .get _ => .get
  | .set .. => .set
  | .delete key => .delete key
  | .scan _ => .scan
  | .close => .close

namespace Session

/-- The seconds that a session has left, if it expires. -/
def secondsLeft (s : Session) (now : Int) : Option Nat :=
  (s.expiry.bind Timestamp.instant?).map fun instant => Duration.secondsUp (instant - now).toNat

/-- The call by which a session is saved on a server. -/
def savingCall (s : Session) (keyPrefix : String) (now : Int) : RedisCall :=
  if s.LivesAt now then .set (keyPrefix ++ s.id) s.record (s.secondsLeft now)
  else .delete (keyPrefix ++ s.id)

variable {s : Session} {now : Int}

lemma savingCall_of_livesAt (h : s.LivesAt now) (keyPrefix : String) :
    s.savingCall keyPrefix now = .set (keyPrefix ++ s.id) s.record (s.secondsLeft now) := if_pos h

lemma savingCall_of_not_livesAt (h : ¬ s.LivesAt now) (keyPrefix : String) :
    s.savingCall keyPrefix now = .delete (keyPrefix ++ s.id) := if_neg h

/-- The expiry of a session, if it has one, is an instant. -/
lemma expiry_cases_of_not_isUndated (hs : ¬ s.IsUndated) :
    s.expiry = none ∨ ∃ t instant, s.expiry = some t ∧ t.instant? = some instant := by
  rcases hexpiry : s.expiry with _ | t
  · exact .inl rfl
  · rcases hoffset : t.offset with _ | micros
    · exact absurd ⟨t, hexpiry, hoffset⟩ hs
    · exact .inr ⟨t, _, rfl, by rw [Timestamp.instant?, hoffset, Option.map_some]⟩

end Session

namespace RedisServer

variable {r : RedisServer} {s : Session} {now : Int} {cause : Fault}

/-! ### Saving a session -/

/-- A session that lives is put on the server and one that has expired is taken from it. -/
lemma saveSession_of_dated (hs : ¬ s.IsUndated) (r : RedisServer) (keyPrefix : String) (now : Int) :
    r.saveSession keyPrefix s now =
      if s.LivesAt now then r.putSession keyPrefix s (s.secondsLeft now)
      else r.dropSession keyPrefix s := by
  rw [saveSession_eq]
  obtain hnone | ⟨t, instant, hexpiry, hinstant⟩ := Session.expiry_cases_of_not_isUndated hs
  · have hlives : s.LivesAt now := by simp [Session.LivesAt, hnone]
    rw [if_pos hlives]
    simp [Session.timeLeft, Session.secondsLeft, hnone]
  · have hlives : s.LivesAt now ↔ ¬ instant - now ≤ 0 := by
      simp [Session.LivesAt, hexpiry, hinstant]
    simp only [Session.timeLeft, Session.secondsLeft, hexpiry, Timestamp.since, hinstant, hlives,
      Option.bind_some, Option.map_some, Except.map, ite_not]

/-! ### Calls that are made -/

lemma calls_respond {α : Type} {task : RedisTask} {call : RedisCall}
    {answer : RedisServer → α × RedisServer} (h : ∀ s, (answer s).2.calls = s.calls) :
    (r.respond task call answer).2.calls = r.calls ++ [call] := by
  simp only [respond]
  cases r.failing task with
  | some fault => rfl
  | none => exact h _

lemma calls_loadSession (keyPrefix token : String) :
    (r.loadSession keyPrefix token now).2.calls =
      r.calls ++ [.get (keyPrefix ++ sessionId token)] := by
  have hget : (r.get (keyPrefix ++ sessionId token)).2.calls =
      r.calls ++ [.get (keyPrefix ++ sessionId token)] := calls_respond fun _ => rfl
  rw [loadSession]
  split
  · next heq => rwa [heq] at hget
  · next heq => rwa [heq] at hget
  · next heq =>
    rw [heq] at hget
    split <;> exact hget

lemma calls_destroySession (keyPrefix : String) :
    (r.destroySession keyPrefix s).2.calls = r.calls ++ [.delete (keyPrefix ++ s.id)] := by
  have hdelete : (r.delete (keyPrefix ++ s.id)).2.calls =
      r.calls ++ [.delete (keyPrefix ++ s.id)] := calls_respond fun _ => rfl
  rw [destroySession]
  split <;> next heq => rwa [heq] at hdelete

lemma calls_saveSession (hs : ¬ s.IsUndated) (keyPrefix : String) :
    (r.saveSession keyPrefix s now).2.2.calls = r.calls ++ [s.savingCall keyPrefix now] := by
  rw [saveSession_of_dated hs]
  by_cases hlives : s.LivesAt now
  · have hset : (r.set (keyPrefix ++ s.id) s.record (s.secondsLeft now)).2.calls =
        r.calls ++ [.set (keyPrefix ++ s.id) s.record (s.secondsLeft now)] :=
      calls_respond fun _ => rfl
    rw [if_pos hlives, Session.savingCall_of_livesAt hlives, putSession]
    split <;> next heq => rwa [heq] at hset
  · have hdelete : (r.delete (keyPrefix ++ s.id)).2.calls =
        r.calls ++ [.delete (keyPrefix ++ s.id)] := calls_respond fun _ => rfl
    rw [if_neg hlives, Session.savingCall_of_not_livesAt hlives, dropSession]
    split <;> next heq => rwa [heq] at hdelete

lemma calls_deleteAll (r : RedisServer) (keys : List String) :
    ∃ deleted : List String, (r.deleteAll keys).2.calls = r.calls ++ deleted.map .delete := by
  induction keys generalizing r with
  | nil => exact ⟨[], (List.append_nil _).symm⟩
  | cons first rest ih =>
    have hdelete : (r.delete first).2.calls = r.calls ++ [.delete first] :=
      calls_respond fun _ => rfl
    rw [deleteAll]
    split
    · next heq =>
      rw [heq] at hdelete
      exact ⟨[first], hdelete⟩
    · next r' heq =>
      rw [heq] at hdelete
      obtain ⟨deleted, hdeleted⟩ := ih r'
      exact ⟨first :: deleted, by rw [hdeleted, hdelete, List.append_assoc]; rfl⟩

lemma calls_clearSessions (r : RedisServer) (keyPrefix : String) :
    ∃ deleted : List String, (r.clearSessions keyPrefix).2.calls =
      r.calls ++ .scan (keyPrefix ++ "*") :: deleted.map .delete := by
  have hscan : (r.scan keyPrefix).2.calls = r.calls ++ [.scan (keyPrefix ++ "*")] :=
    calls_respond fun _ => rfl
  rw [clearSessions]
  split
  · next heq =>
    rw [heq] at hscan
    exact ⟨[], hscan⟩
  · next keys r' heq =>
    rw [heq] at hscan
    obtain ⟨deleted, hdeleted⟩ := r'.calls_deleteAll keys
    exact ⟨deleted, by rw [hdeleted, hscan, List.append_assoc, List.singleton_append]⟩

/-! ### Calls that fail -/

lemma destroySession_of_failing {keyPrefix : String}
    (h : r.failing (.delete (keyPrefix ++ s.id)) = some cause) :
    r.destroySession keyPrefix s =
      (.error (cause.during .deletion), r.called (.delete (keyPrefix ++ s.id))) := by
  simp only [destroySession, delete, respond_of_failing h]

lemma saveSession_of_failing (hs : ¬ s.IsUndated) {keyPrefix : String}
    (h : r.failing (s.savingCall keyPrefix now).task = some cause) :
    r.saveSession keyPrefix s now =
      (.error (cause.during .store), s, r.called (s.savingCall keyPrefix now)) := by
  rw [saveSession_of_dated hs]
  by_cases hlives : s.LivesAt now
  · rw [Session.savingCall_of_livesAt hlives] at h ⊢
    have hset : r.failing .set = some cause := h
    rw [if_pos hlives, putSession, set, respond_of_failing hset]
  · rw [Session.savingCall_of_not_livesAt hlives] at h ⊢
    have hdelete : r.failing (.delete (keyPrefix ++ s.id)) = some cause := h
    rw [if_neg hlives, dropSession, delete, respond_of_failing hdelete]

/-! ### What is held afterwards -/

lemma get?_content_saveSession (hs : ¬ s.IsUndated) (r : RedisServer) (keyPrefix : String)
    (now : Int) (key : String) : (r.saveSession keyPrefix s now).2.2.content.get? key =
      if key = keyPrefix ++ s.id ∧ r.failing (s.savingCall keyPrefix now).task = none then
        if s.LivesAt now then some s.record else none
      else r.content.get? key := by
  rcases hfailing : r.failing (s.savingCall keyPrefix now).task with _ | cause
  · rw [saveSession_of_dated hs]
    by_cases hlives : s.LivesAt now
    · rw [Session.savingCall_of_livesAt hlives] at hfailing
      have hset : r.failing .set = none := hfailing
      simp only [if_pos hlives, putSession, set, respond_of_succeeding hset,
        OrderedMap.get?_put, and_true]
      rfl
    · rw [Session.savingCall_of_not_livesAt hlives] at hfailing
      have hdelete : r.failing (.delete (keyPrefix ++ s.id)) = none := hfailing
      simp only [if_neg hlives, dropSession, delete, respond_of_succeeding hdelete,
        OrderedMap.get?_erase, and_true]
      rfl
  · rw [saveSession_of_failing hs hfailing, if_neg (by simp)]
    rfl

lemma get?_content_destroySession (r : RedisServer) (keyPrefix : String) (s : Session)
    (key : String) : (r.destroySession keyPrefix s).2.content.get? key =
      if key = keyPrefix ++ s.id ∧ r.failing (.delete (keyPrefix ++ s.id)) = none then none
      else r.content.get? key := by
  rcases hfailing : r.failing (.delete (keyPrefix ++ s.id)) with _ | cause
  · simp only [destroySession, delete, respond_of_succeeding hfailing, OrderedMap.get?_erase,
      and_true]
    rfl
  · rw [destroySession_of_failing hfailing, if_neg (by simp)]
    rfl

/-- The deletion of one key fails if that of any other does. -/
def EvenHanded (failing : RedisTask → Option Fault) : Prop :=
  ∀ key other, failing (.delete key) = failing (.delete other)

lemma mem_deletable_iff (h : EvenHanded r.failing) {keys : List String} {key : String} :
    key ∈ r.deletable keys ↔ key ∈ keys ∧ r.failing (.delete key) = none := by
  have hall (other : String) : r.failing (.delete other) = r.failing (.delete key) := h other key
  rw [deletable]
  simp only [hall]
  cases r.failing (.delete key) with
  | none =>
    have hself : keys.takeWhile (fun _ => true) = keys :=
      List.takeWhile_eq_self_iff.2 fun _ _ => rfl
    simp [hself]
  | some fault => cases keys <;> simp

lemma get?_content_clearSessions (h : EvenHanded r.failing) (keyPrefix key : String) :
    (r.clearSessions keyPrefix).2.content.get? key =
      if begins keyPrefix key ∧ r.failing .scan = none ∧ r.failing (.delete key) = none then none
      else r.content.get? key := by
  obtain ⟨cause, hscan, hclear⟩ | ⟨keys, hscan, -, hkeys, hcontent, -⟩ :=
    r.clearSessions_cases keyPrefix
  · rw [hclear, if_neg (by simp [hscan])]
    rfl
  · rw [hcontent key]
    simp only [mem_deletable_iff h, hkeys, hscan, true_and]
    by_cases hkey : key ∈ r.content.keys
    · simp only [hkey, true_and]
    · rw [OrderedMap.get?_eq_none_of_not_mem hkey, ite_self, ite_self]

end RedisServer

end SessionCookies
