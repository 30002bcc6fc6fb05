import SessionCookies.Proofs.Store.Content
import SessionCookies.Proofs.Store.Live

/-!
# What the operations of a store touch

Every operation on a store leaves all records but one alone: saving and destroying a session touch
the record of its id, and looking for a session drops at most the record of its token's id, if that
is of no use. What a token leads to depends on that one record alone (`Backend.load_congr`).
-/

namespace SessionCookies

/-! ### What no operation changes -/

/-- A store without what it holds and without the calls that its server got. -/
def Store.emptied : Store → Store
  | .memory _ => .memory .empty
  | .cookie => .cookie
  | .redis keyPrefix server => .redis keyPrefix { failing := server.failing }
  | .inert => .inert

lemma Store.keyOf_congr {a b : Store} (h : a.emptied = b.emptied) (id : String) :
    a.keyOf id = b.keyOf id := by
  have hemptied (c : Store) : c.emptied.keyOf id = c.keyOf id := by cases c <;> rfl
  rw [← hemptied a, h, hemptied b]

/-- A store as handlers see it without what it holds and without the calls that were made. -/
def Backend.emptied (b : Backend) : Backend := ⟨b.store.emptied, [], b.failing⟩

namespace RedisServer

variable {r : RedisServer}

lemma failing_set (key value : String) (seconds : Option Nat) :
    (r.set key value seconds).2.failing = r.failing := failing_respond fun _ => rfl

lemma failing_saveSession (keyPrefix : String) (s : Session) (now : Int) :
    (r.saveSession keyPrefix s now).2.2.failing = r.failing := by
  have hput (seconds : Option Nat) :
      (r.putSession keyPrefix s seconds).2.2.failing = r.failing := by
    have hset := failing_set (r := r) (keyPrefix ++ s.id) s.record seconds
    simp only [putSession]
    split <;> next heq => rwa [heq] at hset
  have hdrop : (r.dropSession keyPrefix s).2.2.failing = r.failing := by
    have hdelete := failing_delete (r := r) (keyPrefix ++ s.id)
    simp only [dropSession]
    split <;> next heq => rwa [heq] at hdelete
  rw [saveSession_eq]
  rcases s.timeLeft now with fault | (_ | left)
  · rfl
  · exact hput none
  · simp only
    split_ifs
    · exact hdrop
    · exact hput _

lemma failing_destroySession (keyPrefix : String) (s : Session) :
    (r.destroySession keyPrefix s).2.failing = r.failing := by
  have hdelete := failing_delete (r := r) (keyPrefix ++ s.id)
  simp only [destroySession]
  split <;> next heq => rwa [heq] at hdelete

end RedisServer

/-! ### What a token leads to -/

/-- The session of a record that may be held, unless it is unreadable or has expired. -/
def Session.ofHeld? (record : Option String) (now : Int) : Except Fault (Option Session) :=
  match record.bind Session.ofRecord? with
  | none => .ok none
  | some s => s.live? now

lemma Session.ofHeld?_of_isStale {now : Int} {record : String} (h : IsStale now record) :
    Session.ofHeld? (some record) now = .ok none := by
  obtain hread | ⟨s, hread, hexpired⟩ := h
  · simp only [ofHeld?, Option.bind_some, hread]
  · simp only [ofHeld?, Option.bind_some, hread, live?, hexpired]
    rfl

lemma Session.read_of_ofHeld? {record : Option String} {s : Session} {now : Int}
    (h : ofHeld? record now = .ok (some s)) : record.bind ofRecord? = some s := by
  rw [ofHeld?] at h
  split at h
  · cases h
  · next t hread =>
    obtain ⟨rfl, -⟩ := Session.live?_eq_some.1 h
    exact hread

namespace Store

variable {a b : Store} {s : Session} {token id : String} {now : Int}

/-- The fault of a store that cannot be asked for sessions. -/
def readFault? : Store → Option Fault
  | .redis _ server => (server.failing .get).map (Fault.during .load)
  | _ => none

/-- What a token leads to depends on the record under its id alone, if the store can be asked. -/
theorem load_eq (a : Store) (token : String) (now : Int) :
    (a.load token now).1 =
      match a.readFault? with
      | some fault => .error fault
      | none => Session.ofHeld? (a.recordOf? (some token) (sessionId token)) now := by
  cases a with
  | memory records =>
    simp only [load, Memory.load, readFault?, recordOf?, Session.ofHeld?]
    rcases records.get? (sessionId token) with _ | record
    · rfl
    · simp only [Option.bind_some]
      rcases Session.ofRecord? record with _ | s
      · rfl
      · simp only [Session.live?]
        rcases s.isExpired now with fault | (_ | _) <;> rfl
  | cookie =>
    rcases hread : (CookieToken.record? token).bind Session.ofRecord? with _ | s <;>
    simp only [load, CookieToken.load, CookieToken.session?_eq, readFault?, recordOf?,
      Session.ofHeld?, Option.bind_some, hread]
  | redis keyPrefix server =>
    simp only [load, RedisServer.loadSession, RedisServer.get, RedisServer.respond, readFault?,
      recordOf?, Session.ofHeld?]
    rcases server.failing .get with _ | fault
    · simp only [Option.map_none]
      rcases server.content.get? (keyPrefix ++ sessionId token) with _ | record
      · rfl
      · simp only [Option.bind_some]
        rcases Session.ofRecord? record with _ | s <;> rfl
    · rfl
  | inert => rfl

/-- Stores that can both be asked find the same if they hold the same for the id, or what neither of
them takes for a session. -/
lemma load_congr (hfault : a.readFault? = b.readFault?)
    (hheld : Session.ofHeld? (a.recordOf? (some token) (sessionId token)) now =
      Session.ofHeld? (b.recordOf? (some token) (sessionId token)) now) :
    (a.load token now).1 = (b.load token now).1 := by
  rw [load_eq, load_eq, hfault, hheld]

/-- A session that is found was read from a record. -/
lemma exists_ofRecord?_of_load (h : (a.load token now).1.toOption.join = some s) :
    ∃ record, Session.ofRecord? record = some s := by
  rcases hload : (a.load token now).1 with fault | found
  · rw [hload] at h
    cases h
  · rw [hload] at h
    obtain rfl : found = some s := h
    rw [load_eq] at hload
    split at hload
    · cases hload
    · obtain ⟨record, -, hread⟩ := Option.bind_eq_some_iff.1 (Session.read_of_ofHeld? hload)
      exact ⟨record, hread⟩

lemma readFault?_congr (h : a.emptied = b.emptied) : a.readFault? = b.readFault? := by
  have hemptied (c : Store) : c.emptied.readFault? = c.readFault? := by cases c <;> rfl
  rw [← hemptied a, h, hemptied b]

lemma HoldsRecords.of_emptied_eq (ha : a.HoldsRecords) (h : b.emptied = a.emptied) :
    b.HoldsRecords := by
  cases a <;> cases b <;> trivial

/-- A token has nothing to do with what is held under an id. -/
lemma HoldsRecords.recordOf?_eq (ha : a.HoldsRecords) (token : Option String) (id : String) :
    a.recordOf? token id = a.recordOf? none id := by
  cases a with
  | cookie => cases ha
  | _ => rfl

/-! ### Looking for a session -/

lemma emptied_load (a : Store) (token : String) (now : Int) :
    (a.load token now).2.emptied = a.emptied := by
  cases a with
  | redis keyPrefix server =>
    have hsame := RedisServer.SameContent.loadSession server keyPrefix token now
    simp only [load, emptied, hsame.failing]
  | _ => rfl

lemma Sheds.recordOf? {P : String → Prop} (h : a.Sheds P b) (token : Option String) (id : String) :
    b.recordOf? token id = a.recordOf? token id ∨ P id ∧ b.recordOf? token id = none := by
  match a, b with
  | .memory m, .memory n => exact h id
  | .cookie, .cookie => exact .inl rfl
  | .redis p r, .redis q s =>
    obtain ⟨rfl, hcontent, -⟩ := h
    exact .inl (by simp only [Store.recordOf?, hcontent])
  | .inert, .inert => exact .inl rfl

lemma HoldsStale.recordOf? (h : a.HoldsStale now id) (token : Option String) :
    ∃ record, a.recordOf? token id = some record ∧ IsStale now record := by
  cases a with
  | memory records => exact h
  | _ => cases h

/-- A record that is of no use is dropped when it is asked for. -/
lemma recordOf?_load_of_holdsStale (h : a.HoldsStale now (sessionId token)) :
    (a.load token now).2.recordOf? none (sessionId token) = none := by
  cases a with
  | memory records =>
    obtain ⟨record, hget, hread | ⟨s, hread, hexpired⟩⟩ := h
    · simp only [load, Memory.load, hget, hread, Store.recordOf?, OrderedMap.get?_erase, if_true]
    · simp only [load, Memory.load, hget, hread, hexpired, Store.recordOf?, OrderedMap.get?_erase,
        if_true]
  | _ => cases h

/-! ### Destroying a session -/

lemma emptied_destroy (a : Store) (s : Session) : (a.destroy s).2.emptied = a.emptied := by
  cases a with
  | redis keyPrefix server => simp only [destroy, emptied, RedisServer.failing_destroySession]
  | _ => rfl

/-- Whether a session can be destroyed has nothing to do with what a store holds. -/
lemma destroy_congr (h : a.emptied = b.emptied) (s : Session) :
    (a.destroy s).1 = (b.destroy s).1 := by
  have hemptied (c : Store) : (c.emptied.destroy s).1 = (c.destroy s).1 := by
    cases c with
    | redis keyPrefix server =>
      simp only [emptied, destroy, RedisServer.destroySession, RedisServer.delete,
        RedisServer.respond]
      cases server.failing (.delete (keyPrefix ++ s.id)) <;> rfl
    | _ => rfl
  rw [← hemptied a, h, hemptied b]

/-- Destroying a session takes away the record of its id. -/
theorem recordOf?_destroy_of_ok (h : (a.destroy s).1 = .ok ()) (id : String) :
    (a.destroy s).2.recordOf? none id = if id = s.id then none else a.recordOf? none id := by
  simp only [recordOf?_none, content_destroy_of_ok h, OrderedMap.get?_erase, keyOf_destroy,
    keyOf_inj]

lemma recordOf?_destroy_of_error {fault : Fault} (h : (a.destroy s).1 = .error fault)
    (id : String) : (a.destroy s).2.recordOf? none id = a.recordOf? none id := by
  cases a with
  | redis keyPrefix server =>
    simp only [destroy, recordOf?, RedisServer.content_destroySession_of_error h]
  | _ => cases h

/-! ### Saving a session -/

lemma emptied_save (a : Store) (s : Session) (now : Int) :
    (a.save s now).2.2.emptied = a.emptied := by
  cases a with
  | redis keyPrefix server => simp only [save, emptied, RedisServer.failing_saveSession]
  | _ => rfl

lemma Lapses.of_emptied_eq (ha : a.Lapses s now) (h : b.emptied = a.emptied) :
    b.Lapses s now := by
  cases a <;> cases b <;> first | exact ha | cases h

/-- What saving a session gives has nothing to do with what a store holds. -/
lemma save_congr (h : a.emptied = b.emptied) (s : Session) (now : Int) :
    (a.save s now).1 = (b.save s now).1 := by
  have hemptied (c : Store) : (c.emptied.save s now).1 = (c.save s now).1 := by
    cases c with
    | redis keyPrefix server =>
      simp only [emptied, save, RedisServer.saveSession, RedisServer.set, RedisServer.delete,
        RedisServer.respond]
      rcases s.timeLeft now with fault | (_ | left)
      · rfl
      · cases server.failing .set <;> rfl
      · by_cases hleft : left ≤ 0
        · simp only [hleft, if_true]
          cases server.failing (.delete (keyPrefix ++ s.id)) <;> rfl
        · simp only [hleft, if_false]
          cases server.failing .set <;> rfl
    | _ => rfl
  rw [← hemptied a, h, hemptied b]

/-- Saving a session puts its record under its id, or takes the record away that is there. -/
theorem recordOf?_save_of_ok (hholds : a.HoldsRecords) {given : Option String}
    (h : (a.save s now).1 = .ok given) :
    ¬ a.Lapses s now ∧ (∀ id, (a.save s now).2.2.recordOf? none id =
        if id = s.id then some s.record else a.recordOf? none id) ∨
      a.Lapses s now ∧ ∀ id, (a.save s now).2.2.recordOf? none id =
        if id = s.id then none else a.recordOf? none id := by
  obtain ⟨hlapses, hcontent⟩ | ⟨hlapses, hcontent⟩ := content_save_of_ok hholds h
  · refine .inl ⟨hlapses, fun id => ?_⟩
    simp only [recordOf?_none, hcontent, OrderedMap.get?_put, keyOf_save, keyOf_inj]
  · refine .inr ⟨hlapses, fun id => ?_⟩
    simp only [recordOf?_none, hcontent, OrderedMap.get?_erase, keyOf_save, keyOf_inj]

lemma recordOf?_save_of_error {fault : Fault} (h : (a.save s now).1 = .error fault) (id : String) :
    (a.save s now).2.2.recordOf? none id = a.recordOf? none id := by
  cases a with
  | redis keyPrefix server =>
    have hcontent := RedisServer.content_saveSession_of_error h
    simp only [save, recordOf?, hcontent]
  | _ => cases h

/-- Saving a session leaves what is held under other ids alone, whether it succeeds or not. -/
lemma recordOf?_save_of_ne (a : Store) (now : Int) (token : Option String) (hid : id ≠ s.id) :
    (a.save s now).2.2.recordOf? token id = a.recordOf? token id := by
  by_cases hholds : a.HoldsRecords
  · rw [(hholds.of_emptied_eq (emptied_save a s now)).recordOf?_eq, hholds.recordOf?_eq]
    rcases hsaved : (a.save s now).1 with fault | given
    · exact recordOf?_save_of_error hsaved id
    · obtain ⟨-, hrecord⟩ | ⟨-, hrecord⟩ := recordOf?_save_of_ok hholds hsaved <;>
        rw [hrecord, if_neg hid]
  · cases a with
    | memory records => exact absurd trivial hholds
    | redis keyPrefix server => exact absurd trivial hholds
    | _ => rfl

/-! ### Clearing and cleaning up -/

lemma emptied_clear (a : Store) : a.clear.2.emptied = a.emptied := by
  cases a with
  | redis keyPrefix server => simp only [clear, emptied, RedisServer.failing_clearSessions]
  | _ => rfl

lemma emptied_cleanup (a : Store) (now : Int) : (a.cleanup now).2.emptied = a.emptied := by
  cases a <;> rfl

end Store

/-! ### Stores as handlers see them -/

namespace Backend

variable {a b : Backend} {s found : Session} {token : String} {now : Int}

/-- The fault of a store that cannot be asked for sessions. -/
def readFault? (b : Backend) : Option Fault := (b.failing .load).or b.store.readFault?

lemma readFault?_congr (h : a.emptied = b.emptied) : a.readFault? = b.readFault? := by
  simp only [emptied, mk.injEq, true_and] at h
  rw [readFault?, h.2, Store.readFault?_congr h.1, readFault?]

theorem load_eq (b : Backend) (token : String) (now : Int) :
    (b.load token now).1 =
      match b.readFault? with
      | some fault => .error fault
      | none => Session.ofHeld? (b.store.recordOf? (some token) (sessionId token)) now := by
  simp only [load, record, readFault?]
  cases b.failing .load with
  | some fault => rfl
  | none => exact b.store.load_eq token now

/-- What a token leads to is the same in stores that hold the same under its id. -/
theorem load_congr (hemptied : a.emptied = b.emptied)
    (hrecord : a.store.recordOf? (some token) (sessionId token) =
      b.store.recordOf? (some token) (sessionId token)) :
    (a.load token now).1 = (b.load token now).1 := by
  rw [load_eq, load_eq, readFault?_congr hemptied, hrecord]

/-- A session that is found is that of the record under the token's id. -/
lemma ofRecord?_of_load (h : (b.load token now).1 = .ok (some found)) :
    b.readFault? = none ∧
      (b.store.recordOf? (some token) (sessionId token)).bind Session.ofRecord? = some found := by
  rw [load_eq] at h
  cases hfault : b.readFault? with
  | some fault =>
    rw [hfault] at h
    cases h
  | none =>
    rw [hfault] at h
    exact ⟨rfl, Session.read_of_ofHeld? h⟩

/-! ### Looking for a session -/

lemma emptied_load (b : Backend) (token : String) (now : Int) :
    (b.load token now).2.emptied = b.emptied := by
  simp only [load, record]
  cases hfailing : b.failing .load with
  | some fault => rfl
  | none => simp only [emptied, Store.emptied_load]

/-- Looking for a session drops at most the record under the token's id, if it is of no use. -/
lemma recordOf?_load (b : Backend) (token : String) (now : Int) (other : Option String)
    (id : String) :
    (b.load token now).2.store.recordOf? other id = b.store.recordOf? other id ∨
      b.failing .load = none ∧ id = sessionId token ∧ b.store.HoldsStale now id ∧
        (b.load token now).2.store.recordOf? other id = none := by
  simp only [load, record]
  cases hfailing : b.failing .load with
  | some fault => exact .inl rfl
  | none =>
    obtain hsame | ⟨⟨hid, hstale⟩, hnone⟩ := (b.store.sheds_load token now).recordOf? other id
    · exact .inl hsame
    · exact .inr ⟨rfl, hid, hstale, hnone⟩

lemma recordOf?_load_of_holdsStale (hfailing : b.failing .load = none)
    (hstale : b.store.HoldsStale now (sessionId token)) :
    (b.load token now).2.store.recordOf? none (sessionId token) = none := by
  simp only [load, record, hfailing]
  exact Store.recordOf?_load_of_holdsStale hstale

/-- Nothing is dropped when a session is found. -/
lemma recordOf?_load_of_found (h : (b.load token now).1 = .ok (some found)) (id : String) :
    (b.load token now).2.store.recordOf? none id = b.store.recordOf? none id := by
  obtain hsame | ⟨-, rfl, hstale, -⟩ := b.recordOf?_load token now none id
  · exact hsame
  · obtain ⟨record, hrecord, hstale⟩ := hstale.recordOf? (some token)
    have hfault := (ofRecord?_of_load h).1
    rw [load_eq, hfault, hrecord] at h
    cases (Session.ofHeld?_of_isStale hstale).symm.trans h

/-! ### Destroying a session -/

lemma emptied_destroy (b : Backend) (s : Session) : (b.destroy s).2.emptied = b.emptied := by
  simp only [destroy, record]
  cases hfailing : b.failing .destroy with
  | some fault => rfl
  | none => simp only [emptied, Store.emptied_destroy]

lemma destroy_congr (h : a.emptied = b.emptied) (s : Session) :
    (a.destroy s).1 = (b.destroy s).1 := by
  simp only [emptied, mk.injEq, true_and] at h
  simp only [destroy, record, h.2]
  cases b.failing .destroy with
  | some fault => rfl
  | none => exact Store.destroy_congr h.1 s

lemma recordOf?_destroy_of_ok (h : (b.destroy s).1 = .ok ()) (id : String) :
    (b.destroy s).2.store.recordOf? none id =
      if id = s.id then none else b.store.recordOf? none id := by
  simp only [destroy, record] at h ⊢
  split at h
  · cases h
  · exact Store.recordOf?_destroy_of_ok h id

lemma recordOf?_destroy_of_error {fault : Fault} (h : (b.destroy s).1 = .error fault)
    (id : String) : (b.destroy s).2.store.recordOf? none id = b.store.recordOf? none id := by
  simp only [destroy, record] at h ⊢
  split at h
  · rfl
  · exact Store.recordOf?_destroy_of_error h id

/-! ### Saving a session -/

lemma emptied_save (b : Backend) (s : Session) (now : Int) :
    (b.save s now).2.2.emptied = b.emptied := by
  simp only [save, record]
  cases hfailing : b.failing .store with
  | some fault => rfl
  | none => simp only [emptied, Store.emptied_save]

lemma save_congr (h : a.emptied = b.emptied) (s : Session) (now : Int) :
    (a.save s now).1 = (b.save s now).1 := by
  simp only [emptied, mk.injEq, true_and] at h
  simp only [save, record, h.2]
  cases b.failing .store with
  | some fault => rfl
  | none => exact Store.save_congr h.1 s now

lemma recordOf?_save_of_ok (hholds : b.store.HoldsRecords) {given : Option String}
    (h : (b.save s now).1 = .ok given) :
    ¬ b.store.Lapses s now ∧ (∀ id, (b.save s now).2.2.store.recordOf? none id =
        if id = s.id then some s.record else b.store.recordOf? none id) ∨
      b.store.Lapses s now ∧ ∀ id, (b.save s now).2.2.store.recordOf? none id =
        if id = s.id then none else b.store.recordOf? none id := by
  obtain ⟨hsaved, hstore⟩ := save_ok h
  rw [hstore]
  exact Store.recordOf?_save_of_ok hholds hsaved

lemma recordOf?_save_of_error {fault : Fault} (h : (b.save s now).1 = .error fault)
    (id : String) : (b.save s now).2.2.store.recordOf? none id = b.store.recordOf? none id := by
  simp only [save, record] at h ⊢
  split at h
  · rfl
  · exact Store.recordOf?_save_of_error h id

/-- Saving a session makes no other token lead elsewhere. -/
lemma load_save_of_ne (b : Backend) (now : Int) {token : String} (hid : s.id ≠ sessionId token)
    (later : Int) : ((b.save s now).2.2.load token later).1 = (b.load token later).1 := by
  apply load_congr (b.emptied_save s now)
  simp only [save, record]
  cases b.failing .store with
  | some fault => rfl
  | none => exact b.store.recordOf?_save_of_ne now (some token) hid.symm

end Backend

end SessionCookies
