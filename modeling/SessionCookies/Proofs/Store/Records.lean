import SessionCookies.Handler.Basic
import SessionCookies.Proofs.Session.Record
import SessionCookies.Proofs.Text.Base64

/-!
# The record of a session that was saved

Where a store keeps the record of a session, and that what it keeps after saving a session is the
record of that session.
-/

namespace SessionCookies

/-- The record in a token of a store that keeps sessions in cookies. -/
def CookieToken.record? (token : String) : Option String :=
  (Base64.bytes? token).bind Utf8.text?

lemma CookieToken.record?_ofSession (s : Session) :
    CookieToken.record? (CookieToken.ofSession s) = some s.record := by
  rw [record?, ofSession, Base64.bytes?_text, Option.bind_some, Utf8.text?_bytes]

lemma CookieToken.session?_eq (token : String) :
    CookieToken.session? token = (CookieToken.record? token).bind Session.ofRecord? := by
  rw [session?, record?, Option.bind_assoc]
  rfl

/-- The record that a store holds of the session of an id for which it gave a token. -/
def Store.recordOf? (token : Option String) (id : String) : Store → Option String
  | .memory records => records.get? id
  | .cookie => token.bind CookieToken.record?
  | .redis keyPrefix server => server.content.get? (keyPrefix ++ id)
  | .inert => none

namespace RedisServer

/-- A server on which no call fails. -/
def AllSucceed (r : RedisServer) : Prop := ∀ task, r.failing task = none

/-- A server after a call. -/
def called (r : RedisServer) (call : RedisCall) : RedisServer :=
  { r with calls := r.calls ++ [call] }

/-- A call that fails is recorded and changes nothing else. -/
lemma respond_of_failing {r : RedisServer} {α : Type} {task : RedisTask} {cause : Fault}
    (h : r.failing task = some cause) (call : RedisCall) (answer : RedisServer → α × RedisServer) :
    r.respond task call answer = (.error cause, r.called call) := by
  simp only [respond, h, called]

lemma respond_of_succeeding {r : RedisServer} {α : Type} {task : RedisTask}
    (h : r.failing task = none) (call : RedisCall) (answer : RedisServer → α × RedisServer) :
    r.respond task call answer =
      (.ok (answer (r.called call)).1, (answer (r.called call)).2) := by
  simp only [respond, h, called]

lemma respond_of_allSucceed {r : RedisServer} {α : Type} (h : r.AllSucceed) (task : RedisTask)
    (call : RedisCall) (answer : RedisServer → α × RedisServer) :
    r.respond task call answer =
      (.ok (answer (r.called call)).1, (answer (r.called call)).2) :=
  respond_of_succeeding (h task) call answer

lemma set_ok {r : RedisServer} {key value : String} {seconds : Option Nat}
    (h : (r.set key value seconds).1 = .ok ()) :
    (r.set key value seconds).2.content = r.content.put key value := by
  simp only [set, respond] at h ⊢
  cases hfailing : r.failing .set with
  | some fault => simp [hfailing] at h
  | none => rfl

lemma delete_ok {r : RedisServer} {key : String} {found : Bool}
    (h : (r.delete key).1 = .ok found) : (r.delete key).2.content = r.content.erase key := by
  simp only [delete, respond] at h ⊢
  cases hfailing : r.failing (.delete key) with
  | some fault => simp [hfailing] at h
  | none => rfl

/-- Puts the record of a session on a server, to be kept for some seconds or for ever. -/
def putSession (r : RedisServer) (keyPrefix : String) (s : Session) (seconds : Option Nat) :
    Except Fault (Option String) × Session × RedisServer :=
  match r.set (keyPrefix ++ s.id) s.record seconds with
  | (.error fault, r) => (.error (fault.during .store), s, r)
  | (.ok (), r) => (.ok s.cookieValue, s.unchanged.withoutCookieValue, r)

/-- Takes the record of a session that has expired from a server. -/
def dropSession (r : RedisServer) (keyPrefix : String) (s : Session) :
    Except Fault (Option String) × Session × RedisServer :=
  match r.delete (keyPrefix ++ s.id) with
  | (.error fault, r) => (.error (fault.during .store), s, r)
  | (.ok _, r) => (.ok none, s, r)

lemma saveSession_eq (r : RedisServer) (keyPrefix : String) (s : Session) (now : Int) :
    r.saveSession keyPrefix s now =
      match s.timeLeft now with
      | .error fault => (.error fault, s, r)
      | .ok none => r.putSession keyPrefix s none
      | .ok (some left) =>
        if left ≤ 0 then r.dropSession keyPrefix s
        else r.putSession keyPrefix s (some (Duration.secondsUp left.toNat)) := rfl

lemma putSession_ok {r : RedisServer} {keyPrefix : String} {s : Session} {seconds : Option Nat}
    {token : Option String} (h : (r.putSession keyPrefix s seconds).1 = .ok token) :
    (r.putSession keyPrefix s seconds).2.2.content = r.content.put (keyPrefix ++ s.id) s.record ∧
      token = s.cookieValue := by
  have hset : (r.set (keyPrefix ++ s.id) s.record seconds).1 = .ok () →
      (r.set (keyPrefix ++ s.id) s.record seconds).2.content =
        r.content.put (keyPrefix ++ s.id) s.record := set_ok
  rw [putSession] at h ⊢
  rcases hresult : r.set (keyPrefix ++ s.id) s.record seconds with ⟨fault | _, r'⟩
  · rw [hresult] at h
    cases h
  · rw [hresult] at h hset
    exact ⟨hset rfl, (Except.ok.inj h).symm⟩

lemma dropSession_ok {r : RedisServer} {keyPrefix : String} {s : Session} {token : Option String}
    (h : (r.dropSession keyPrefix s).1 = .ok token) :
    (r.dropSession keyPrefix s).2.2.content = r.content.erase (keyPrefix ++ s.id) ∧
      token = none := by
  have hdelete : ∀ found, (r.delete (keyPrefix ++ s.id)).1 = .ok found →
      (r.delete (keyPrefix ++ s.id)).2.content = r.content.erase (keyPrefix ++ s.id) :=
    fun _ => delete_ok
  rw [dropSession] at h ⊢
  rcases hresult : r.delete (keyPrefix ++ s.id) with ⟨fault | found, r'⟩
  · rw [hresult] at h
    cases h
  · rw [hresult] at h hdelete
    exact ⟨hdelete found rfl, (Except.ok.inj h).symm⟩

/-- A server to which a session was saved holds its record, or nothing if it has expired. -/
lemma saveSession_ok {r : RedisServer} {keyPrefix : String} {s : Session} {now : Int}
    {token : Option String} (h : (r.saveSession keyPrefix s now).1 = .ok token) :
    (r.saveSession keyPrefix s now).2.2.content = r.content.put (keyPrefix ++ s.id) s.record ∧
        token = s.cookieValue ∧ s.isExpired now = .ok false ∨
      (r.saveSession keyPrefix s now).2.2.content = r.content.erase (keyPrefix ++ s.id) ∧
        token = none ∧ s.isExpired now = .ok true := by
  rw [saveSession_eq] at h ⊢
  rw [Session.isExpired]
  rcases hleft : s.timeLeft now with fault | (_ | left)
  · rw [hleft] at h
    cases h
  · rw [hleft] at h
    obtain ⟨hcontent, htoken⟩ := putSession_ok h
    exact .inl ⟨hcontent, htoken, rfl⟩
  · rw [hleft] at h
    simp only at h ⊢
    split_ifs at h ⊢ with hexpired
    · obtain ⟨hcontent, htoken⟩ := dropSession_ok h
      exact .inr ⟨hcontent, htoken, by simp [Except.map, hexpired]⟩
    · obtain ⟨hcontent, htoken⟩ := putSession_ok h
      exact .inl ⟨hcontent, htoken, by simp [Except.map, hexpired]⟩

end RedisServer

/-- What a store holds of a session after it has saved it is the record of that session. -/
theorem Store.recordOf?_save {store : Store} {s : Session} {now : Int} {token : Option String}
    {record : String} (hsaved : (store.save s now).1 = .ok token)
    (hheld : (store.save s now).2.2.recordOf? token s.id = some record) : record = s.record := by
  cases store with
  | memory records =>
    simp only [save, recordOf?, OrderedMap.get?_put, if_true] at hheld
    exact (Option.some.inj hheld).symm
  | cookie =>
    simp only [save] at hsaved
    cases hsaved
    simp only [save, recordOf?, Option.bind_some, CookieToken.record?_ofSession] at hheld
    exact (Option.some.inj hheld).symm
  | redis keyPrefix server =>
    simp only [save] at hsaved
    simp only [save, recordOf?] at hheld
    obtain ⟨hcontent, -⟩ | ⟨hcontent, -⟩ := RedisServer.saveSession_ok hsaved
    · rw [hcontent, OrderedMap.get?_put, if_pos rfl] at hheld
      exact (Option.some.inj hheld).symm
    · rw [hcontent, OrderedMap.get?_erase, if_pos rfl] at hheld
      cases hheld
  | inert => cases hheld

lemma Backend.save_ok {b : Backend} {s : Session} {now : Int} {token : Option String}
    (h : (b.save s now).1 = .ok token) :
    (b.store.save s now).1 = .ok token ∧ (b.save s now).2.2.store = (b.store.save s now).2.2 := by
  simp only [save, record] at h ⊢
  split at h
  · cases h
  · exact ⟨h, rfl⟩

end SessionCookies
