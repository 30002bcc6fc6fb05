import SessionCookies.Proofs.Session.Identity
import SessionCookies.Proofs.Store.Shipped

/-!
# What looking for a session comes to

The token that a store gives for a session leads to that session (`foundAt_of_given`), and a session
that is kept in its cookie is read back from it whatever its text is made of (`load_save_cookie`).
Whatever a store holds, looking for a session finds one or none, unless the store cannot be asked or
has a record that can be read but whose expiry has no offset from UTC, which cannot be compared with
the clock (`load_succeeds_iff`). Time changes what a token leads to in one way only: the session
expires. Looking for sessions changes nothing about it (`load_load`).
-/

namespace SessionCookies

/-! ### Sessions that were saved -/

lemma Session.FoundAt.eq {s : Session} {now : Int} {found : Except Fault (Option Session)}
    (h : s.FoundAt now found) :
    found = .ok (if s.LivesAt now then
      some { id := s.id, data := s.data, expiry := s.expiry } else none) := by
  obtain ⟨hfound, hlives⟩ | ⟨hnone, hexpired⟩ := h
  · rw [hfound, if_pos hlives, Session.recorded]
  · rw [hnone, if_neg hexpired]

namespace Store

variable {a : Store} {s : Session} {token : String} {now : Int}

/-- A store that goes by ids holds a session that it gave a token for under the id of the token. -/
lemma recordOf?_of_given (hmatched : a ≠ .cookie → s.IsMatched)
    (h : (a.save s now).1 = .ok (some token)) :
    (a.save s now).2.2.recordOf? (some token) (sessionId token) = some s.record := by
  have hid (hstore : a ≠ .cookie) (hvalue : s.cookieValue = some token) :
      sessionId token = s.id := (hmatched hstore token hvalue).1.symm
  cases a with
  | memory records =>
    have hvalue : s.cookieValue = some token := Except.ok.inj h
    rw [save, recordOf?, hid (by rintro ⟨⟩) hvalue, OrderedMap.get?_put, if_pos rfl]
  | cookie =>
    obtain rfl : CookieToken.ofSession s = token := Option.some.inj (Except.ok.inj h)
    rw [save, recordOf?, Option.bind_some, CookieToken.record?_ofSession]
  | redis keyPrefix server =>
    obtain ⟨hcontent, hvalue, -⟩ | ⟨-, hnone, -⟩ := RedisServer.saveSession_ok h
    · simp only [save, recordOf?, hcontent, hid (by rintro ⟨⟩) hvalue.symm,
        OrderedMap.get?_put, if_true]
    · cases hnone
  | inert => cases h

/-- The token that a store gives for a session leads to the session as long as it lives. -/
theorem foundAt_of_given (ha : a.IsShipped) (hs : s.HasWholeOffset)
    (hmatched : a ≠ .cookie → s.IsMatched) (h : (a.save s now).1 = .ok (some token)) (later : Int) :
    s.FoundAt later ((a.save s now).2.2.load token later).1 := by
  have hshipped := ha.of_emptied_eq (a.emptied_save s now)
  rw [hshipped.load_eq, recordOf?_of_given hmatched h]
  exact hs.foundAt_ofHeld? later

end Store

/-- The same of a store as handlers see it, if it can be asked for sessions. -/
lemma Backend.foundAt_of_given {b : Backend} {s : Session} {token : String} {now : Int}
    (hreads : b.readFault? = none) (hs : s.HasWholeOffset) (hmatched : s.IsMatched)
    (h : (b.save s now).1 = .ok (some token)) (later : Int) :
    s.FoundAt later ((b.save s now).2.2.load token later).1 := by
  obtain ⟨hsaved, hstore⟩ := save_ok h
  rw [load_eq, readFault?_congr (b.emptied_save s now), hreads, hstore,
    Store.recordOf?_of_given (fun _ => hmatched) hsaved]
  exact hs.foundAt_ofHeld? later

/-! ### Sessions in cookies -/

lemma Base64.isSome_digitValue?_of_mem_encode {bytes : List UInt8} {c : Char}
    (hc : c ∈ encode bytes) : (digitValue? c).isSome ∨ c = '=' := by
  obtain ⟨digits, pads, hencode, hdigits, -⟩ := isStrict_of_decode? (decode?_encode bytes)
  rw [hencode, List.mem_append] at hc
  obtain hdigit | hpad := hc
  · exact .inl (hdigits c hdigit)
  · exact .inr (List.eq_of_mem_replicate hpad)

namespace Store

/-- Saving a session in a cookie gives a token of base64 characters. At any moment, later or
earlier, the token leads to a session with the same id, the same data in the same order and the same
expiry, without a cookie value and without marks, unless the session has expired by then. -/
theorem load_save_cookie {s : Session} (hs : s.HasWholeOffset) (now later : Int) :
    ∃ token, (Store.cookie.save s now).1 = .ok (some token) ∧
      (∀ c ∈ token.toList, (Base64.digitValue? c).isSome ∨ c = '=') ∧
      (Store.cookie.load token later).1 =
        .ok (if s.LivesAt later then some { id := s.id, data := s.data, expiry := s.expiry }
          else none) := by
  refine ⟨CookieToken.ofSession s, rfl, fun c hc => ?_, ?_⟩
  · rw [CookieToken.ofSession, Base64.text, String.toList_ofList] at hc
    exact Base64.isSome_digitValue?_of_mem_encode hc
  · exact (@foundAt_of_given .cookie s _ now trivial hs (absurd rfl) rfl later).eq

/-- A session on a clock that is behind UTC, with quotes, controls and characters of every width in
its id and data. -/
def foreign : Session where
  id := "é\"\\\n漢😀"
  data := ((OrderedMap.empty.put "" "\"\u0000\"").put "Ω" "[1, 2]").put "a\"b" "\x7b\x7d"
  expiry := some ⟨Civil.epoch + 1500000, some (-19800000000), by decide, by
    rintro micros ⟨⟩
    decide⟩
  cookieValue := some "mine"
  changed := true
  destroyed := true

lemma hasWholeOffset_foreign : foreign.HasWholeOffset := by
  intro t ht
  obtain rfl := Option.some.inj ht
  refine ⟨Option.some_ne_none _, fun micros hmicros => ?_⟩
  obtain rfl := Option.some.inj hmicros
  decide

/-- The session is read back until it expires, and not at the moment at which it does. -/
theorem load_save_cookie_foreign : foreign.HasWholeOffset ∧
    ∃ token, (Store.cookie.load token 19801499999).1 =
        .ok (some { id := foreign.id, data := foreign.data, expiry := foreign.expiry }) ∧
      (Store.cookie.load token 19801500000).1 = .ok none := by
  obtain ⟨token, hsaved, -, hload⟩ := load_save_cookie hasWholeOffset_foreign 0 19801499999
  obtain ⟨token', hsaved', -, hload'⟩ := load_save_cookie hasWholeOffset_foreign 0 19801500000
  obtain rfl : token = token' := by
    rw [hsaved] at hsaved'
    cases hsaved'
    rfl
  rw [if_pos (by decide)] at hload
  rw [if_neg (by decide)] at hload'
  exact ⟨hasWholeOffset_foreign, token, hload, hload'⟩

end Store

/-! ### Records that cannot be judged -/

namespace Session

/-- The expiry of a session has no offset from UTC. -/
def IsUndated (s : Session) : Prop := ∃ t ∈ s.expiry, t.offset = none

variable {s : Session} {now : Int} {fault : Fault}

/-- The one thing that can go wrong with telling whether a session has expired. -/
lemma isExpired_eq_error_iff :
    s.isExpired now = .error fault ↔ fault = .expiryWithoutOffset ∧ s.IsUndated := by
  rcases hexpiry : s.expiry with _ | t
  · simp [isExpired, timeLeft, IsUndated, hexpiry, Except.map]
  · rcases hoffset : t.offset with _ | micros
    · simp [isExpired, timeLeft, IsUndated, Timestamp.since, Timestamp.instant?, hexpiry, hoffset,
        Except.map, eq_comm]
    · simp [isExpired, timeLeft, IsUndated, Timestamp.since, Timestamp.instant?, hexpiry, hoffset,
        Except.map]

lemma live?_eq_error_iff :
    s.live? now = .error fault ↔ fault = .expiryWithoutOffset ∧ s.IsUndated := by
  have hjudged := @isExpired_eq_error_iff s now fault
  rw [← hjudged, live?]
  rcases s.isExpired now with fault' | expired
  · simp [Except.map]
  · simp [Except.map]

lemma ofHeld?_eq_error_iff {record : Option String} :
    ofHeld? record now = .error fault ↔
      fault = .expiryWithoutOffset ∧ ∃ s ∈ record.bind ofRecord?, s.IsUndated := by
  rw [ofHeld?]
  rcases record.bind ofRecord? with _ | s
  · simp
  · simp only [live?_eq_error_iff, Option.mem_some_iff, exists_eq_left']

end Session

namespace Store

/-- The record that a store holds for a token can be read, but its expiry has no offset. -/
def HoldsUndated (a : Store) (token : String) : Prop :=
  ∃ s ∈ (a.recordOf? (some token) (sessionId token)).bind Session.ofRecord?, s.IsUndated

variable {a : Store} {token : String} {now : Int} {fault : Fault}

/-- The two ways in which looking for a session fails. -/
lemma load_eq_error_iff : (a.load token now).1 = .error fault ↔
    a.readFault? = some fault ∨
      a.readFault? = none ∧ fault = .expiryWithoutOffset ∧ a.HoldsUndated token := by
  rw [load_eq]
  rcases a.readFault? with _ | fault'
  · simp [Session.ofHeld?_eq_error_iff, HoldsUndated]
  · simp

/-- A store that cannot find a session because of a fault holds what it held. -/
lemma content_load_of_error (h : (a.load token now).1 = .error fault) :
    (a.load token now).2.content = a.content := by
  cases a with
  | memory records =>
    obtain hsame | ⟨-, hfound, -⟩ := Memory.load_records records token now
    · exact hsame
    · cases hfound.symm.trans h
  | redis keyPrefix server =>
    exact (RedisServer.SameContent.loadSession server keyPrefix token now).content.symm
  | _ => rfl

/-- Whatever a store holds, whatever the token and the time, looking for a session gives one or none
exactly if the store can be asked and does not hold for the token a record that can be read but
whose expiry has no offset from UTC. Otherwise it fails for one of these two reasons, and the store
holds what it held. -/
theorem load_succeeds_iff (a : Store) (token : String) (now : Int) :
    ((∃ found, (a.load token now).1 = .ok found) ↔
        a.readFault? = none ∧ ¬ a.HoldsUndated token) ∧
      ∀ fault, (a.load token now).1 = .error fault →
        (a.readFault? = some fault ∨ fault = .expiryWithoutOffset) ∧
          (a.load token now).2.content = a.content := by
  refine ⟨⟨?_, ?_⟩, fun fault h => ⟨?_, content_load_of_error h⟩⟩
  · rintro ⟨found, hfound⟩
    have hnone : a.readFault? = none := by
      by_contra hfault
      obtain ⟨fault, hfault⟩ := Option.ne_none_iff_exists'.1 hfault
      cases hfound.symm.trans (load_eq_error_iff.2 (.inl hfault))
    refine ⟨hnone, fun hundated => ?_⟩
    cases hfound.symm.trans (load_eq_error_iff.2 (.inr ⟨hnone, rfl, hundated⟩))
  · rintro ⟨hnone, hdated⟩
    rcases hload : (a.load token now).1 with fault | found
    · obtain hfault | ⟨-, -, hundated⟩ := load_eq_error_iff.1 hload
      · cases hnone.symm.trans hfault
      · exact absurd hundated hdated
    · exact ⟨found, rfl⟩
  · obtain hfault | ⟨-, hfault, -⟩ := load_eq_error_iff.1 h
    · exact .inl hfault
    · exact .inr hfault

/-- A record whose expiry is the date alone. -/
def dateAlone : String := "\x7b\"id\":\"\",\"expiry\":\"2023-11-14\"\x7d"

lemma isUndated_dateAlone : ∃ s ∈ Session.ofRecord? dateAlone, s.IsUndated := by
  have hoffset : (Session.ofRecord? dateAlone).map (fun s => s.expiry.map Timestamp.offset) =
      some (some none) := by decide +kernel
  obtain ⟨s, hread, hexpiry⟩ := Option.map_eq_some_iff.1 hoffset
  exact ⟨s, hread, Option.map_eq_some_iff.1 hexpiry⟩

lemma load_of_dateAlone (hnone : a.readFault? = none)
    (hheld : a.recordOf? (some token) (sessionId token) = some dateAlone) (now : Int) :
    (a.load token now).1 = .error .expiryWithoutOffset := by
  refine load_eq_error_iff.2 (.inr ⟨hnone, rfl, ?_⟩)
  rw [HoldsUndated, hheld, Option.bind_some]
  exact isUndated_dateAlone

/-- A record whose expiry is the date alone makes every kind of store fail. -/
theorem load_fails_dateAlone :
    let memory := Store.memory (OrderedMap.empty.put (sessionId "mine") dateAlone)
    let server : RedisServer :=
      { content := OrderedMap.empty.put ("session:" ++ sessionId "mine") dateAlone }
    (memory.load "mine" 0).1 = .error .expiryWithoutOffset ∧
      (Store.cookie.load (Base64.text (Utf8.bytes dateAlone)) 0).1 = .error .expiryWithoutOffset ∧
      ((Store.redis "session:" server).load "mine" 0).1 = .error .expiryWithoutOffset := by
  intro memory server
  have hmemory : memory.recordOf? (some "mine") (sessionId "mine") = some dateAlone :=
    (OrderedMap.get?_put _ _ _ _).trans (if_pos rfl)
  have hcookie (id : String) :
      Store.cookie.recordOf? (some (Base64.text (Utf8.bytes dateAlone))) id = some dateAlone := by
    rw [recordOf?, Option.bind_some, CookieToken.record?, Base64.bytes?_text, Option.bind_some,
      Utf8.text?_bytes]
  have hredis : (Store.redis "session:" server).recordOf? (some "mine") (sessionId "mine") =
      some dateAlone := (OrderedMap.get?_put _ _ _ _).trans (if_pos rfl)
  exact ⟨load_of_dateAlone rfl hmemory 0, load_of_dateAlone rfl (hcookie _) 0,
    load_of_dateAlone rfl hredis 0⟩

end Store

/-- What a store finds has an expiry that is read back as it is. -/
lemma Backend.hasWholeOffset_of_load {b : Backend} {token : String} {now : Int} {found : Session}
    (h : (b.load token now).1 = .ok (some found)) : found.HasWholeOffset := by
  obtain ⟨record, -, hread⟩ := Option.bind_eq_some_iff.1 (ofRecord?_of_load h).2
  have hjudged := (Session.live?_eq_some.1 (live?_of_load h)).2
  intro t ht
  refine ⟨fun hundated => ?_, Session.hasWholeMinutes_of_ofRecord? hread t ht⟩
  cases hjudged.symm.trans (Session.isExpired_eq_error_iff.2 ⟨rfl, t, ht, hundated⟩)

/-! ### The same token at another time -/

namespace Session

variable {s found : Session} {now later : Int}

/-- A session that could be judged at one moment can be judged at any other. -/
lemma live?_of_live? (h : s.live? now = .ok (some found)) (later : Int) :
    s.live? later = .ok (if s.LivesAt later then some s else none) := by
  rcases hjudged : s.isExpired later with fault | expired
  · have hundated := (isExpired_eq_error_iff.1 hjudged).2
    cases h.symm.trans (live?_eq_error_iff.2 ⟨rfl, hundated⟩)
  · have hlives := livesAt_iff_of_isExpired hjudged
    rw [live?, hjudged]
    cases expired with
    | false =>
      rw [if_pos (hlives.2 rfl)]
      rfl
    | true =>
      rw [if_neg (hlives.not.2 (by decide))]
      rfl

end Session

lemma IsStale.of_le {record : String} {now later : Int} (h : IsStale now record)
    (hle : now ≤ later) : IsStale later record := by
  obtain hread | ⟨s, hread, hexpired⟩ := h
  · exact .inl hread
  · refine .inr ⟨s, hread, ?_⟩
    rcases hjudged : s.isExpired later with fault | expired
    · have hundated := (Session.isExpired_eq_error_iff.1 hjudged).2
      cases hexpired.symm.trans (Session.isExpired_eq_error_iff.2 ⟨rfl, hundated⟩)
    · cases expired with
      | true => rfl
      | false =>
        have hlives := (Session.livesAt_iff_of_isExpired hjudged).2 rfl
        cases (Session.livesAt_iff_of_isExpired hexpired).1 (hlives.of_le hle)

namespace Backend

variable {b : Backend} {found : Session} {token : String} {now later : Int}

/-- A token leads to the session that it led to as long as that lives and the store is left
alone. -/
lemma load_of_load (h : (b.load token now).1 = .ok (some found)) (later : Int) :
    (b.load token later).1 = .ok (if found.LivesAt later then some found else none) := by
  obtain ⟨hfault, hread⟩ := ofRecord?_of_load h
  rw [load_eq, hfault] at h ⊢
  simp only [Session.ofHeld?, hread] at h ⊢
  exact Session.live?_of_live? h later

/-- Looking for a session changes nothing about what any token leads to from then on. -/
theorem load_load (b : Backend) (token other : String) (hle : now ≤ later) :
    ((b.load token now).2.load other later).1 = (b.load other later).1 := by
  obtain hsame | ⟨-, -, hstale, hnone⟩ :=
    b.recordOf?_load token now (some other) (sessionId other)
  · exact load_congr (b.emptied_load token now) hsame
  · -- the record that was dropped would be of no use later either
    obtain ⟨record, hrecord, hstale⟩ := hstale.recordOf? (some other)
    rw [load_eq, load_eq, readFault?_congr (b.emptied_load token now), hnone, hrecord,
      Session.ofHeld?_of_isStale (hstale.of_le hle)]
    rfl

/-- What a token leads to at a moment, it led to before, if the store was left alone. -/
lemma load_of_le (h : (b.load token later).1 = .ok (some found)) (hle : now ≤ later) :
    (b.load token now).1 = .ok (some found) := by
  have hlives : found.LivesAt later := by
    by_contra hexpired
    have hfound := load_of_load h later
    rw [if_neg hexpired, h] at hfound
    cases hfound
  rw [load_of_load h now, if_pos (hlives.of_le hle)]

end Backend

end SessionCookies
