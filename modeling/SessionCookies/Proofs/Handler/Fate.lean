import SessionCookies.Proofs.Handler.Alike
import SessionCookies.Proofs.Handler.Protocol

/-!
# Requests whose cookies meet the same fate

What becomes of the session cookie of a request before the handler runs (`SessionConfig.fate`), and
that this is all by which the cookie has a part in what follows. Requests whose cookies meet the same
fate start alike, are finished alike, and are alike from start to finish if the handler treats them
so (`SessionConfig.around_alike`): the same is written to the log, the clock and the random bytes
are the same afterwards, and so is all that the journal tells of the answers.
-/

namespace SessionCookies

/-! ### Before the handler -/

namespace SessionConfig

/-- What becomes of the session cookie of a request. -/
inductive Fate where
  /-- There is no session cookie. -/
  | absent
  /-- The cookie does not verify. -/
  | rejected (fault : Fault)
  /-- The cookie verifies, and the store fails to look for its session. -/
  | failed (fault : Fault)
  /-- The cookie verifies, and the store finds a session or none. -/
  | led (found : Option Session)

/-- The fate of the session cookie of a request. -/
def fate (c : SessionConfig) (r : Request) (x : Exchange) : Fate :=
  match c.presented? r with
  | none => .absent
  | some signed =>
    match c.keys.verify signed with
    | .error fault => .rejected fault
    | .ok token =>
      match (x.backend.load token x.world.now).1 with
      | .error fault => .failed fault
      | .ok found => .led found

namespace Fate

/-- The session that a cookie leads to. -/
def found : Fate → Option Session
  | .led found => found
  | _ => none

/-- What is written to the log about a cookie. -/
def notes : Fate → List LogEntry
  | .rejected fault => [⟨.sessions, .debug, "Rejected session cookie: " ++ fault.message⟩]
  | .failed fault =>
    [⟨.sessions, .warning, "Unable to load session, starting a new one: " ++ fault.message⟩]
  | _ => []

/-- Two cookies meet the same fate: they go wrong for the same reason, or none of them leads to a
session, or they lead to sessions with the same content which the store can forget alike. -/
inductive Same (fault? : String → Option Fault) : Fate → Fate → Prop
  | absent : Same fault? .absent .absent
  | rejected (fault : Fault) : Same fault? (.rejected fault) (.rejected fault)
  | failed (fault : Fault) : Same fault? (.failed fault) (.failed fault)
  | missing : Same fault? (.led none) (.led none)
  | found {s t : Session} (hcontent : s.SameContent t) (hfault : fault? s.id = fault? t.id) :
      Same fault? (.led (some s)) (.led (some t))

lemma Same.notes_eq {fault? : String → Option Fault} {f g : Fate} (h : f.Same fault? g) :
    f.notes = g.notes := by
  cases h <;> rfl

end Fate

variable {c : SessionConfig} {r q : Request} {x y : Exchange} {s t : Session}

lemma fate_of_presents {token : String} (h : c.Presents r token) {found : Option Session}
    (hload : (x.backend.load token x.world.now).1 = .ok found) : c.fate r x = .led found := by
  obtain ⟨signed, hpresented, hverify⟩ := h
  simp only [fate, hpresented, hverify, hload]

/-- Cookies that verify are as long as each other if their tokens are. -/
lemma length_of_presents {token : String} (h : c.Presents r token) :
    ((c.presented? r).getD "").length = digestWidth + token.length := by
  obtain ⟨signed, hpresented, hverify⟩ := h
  obtain ⟨hlong, hvalue, -⟩ := KeySet.verify_eq_ok_iff.1 hverify
  rw [hpresented, Option.getD_some, ← String.length_toList, ← String.length_toList, hvalue,
    List.length_drop]
  omega

/-- All that looking for the session of a request comes to, but for the calls on the store and the
records that it drops, is told by the fate of the cookie. -/
lemma sought_of_fate (c : SessionConfig) (r : Request) (x : Exchange) :
    ∃ backend, backend.emptied = x.backend.emptied ∧ c.sought r x =
      ((c.fate r x).found, { x with backend, log := x.log ++ (c.fate r x).notes }) := by
  rcases hpresented : c.presented? r with _ | signed
  · refine ⟨x.backend, rfl, ?_⟩
    simp only [sought, token, fate, hpresented, lookUp, Fate.found, Fate.notes, List.append_nil]
  · rcases hverify : c.keys.verify signed with fault | token
    · refine ⟨x.backend, rfl, ?_⟩
      simp only [sought, SessionConfig.token, fate, hpresented, hverify, lookUp]
      rfl
    · refine ⟨_, x.backend.emptied_load token x.world.now, ?_⟩
      rcases hload : x.backend.load token x.world.now with ⟨fault | found, backend⟩
      · simp only [sought, SessionConfig.token, fate, hpresented, hverify, lookUp, hload]
        rfl
      · simp only [sought, SessionConfig.token, fate, hpresented, hverify, lookUp, hload,
          Fate.found, Fate.notes, List.append_nil]

/-- A session that was found has no cookie value and no marks. -/
lemma eq_recorded_of_sought (h : (c.sought r x).1 = some s) : s = s.recorded := by
  obtain ⟨token, -, hload⟩ := load_of_sought h
  obtain ⟨record, -, hread⟩ := Option.bind_eq_some_iff.1 (Backend.ofRecord?_of_load hload).2
  exact (Session.of_ofRecord? hread).1

/-- Cookies that meet the same fate lead to sessions that are alike, or both lead to none. -/
lemma sought_alike (h : x.Alike y)
    (hfate : (c.fate r x).Same x.backend.store.deletionFault? (c.fate q y)) :
    Option.Rel (Session.Alike (c.sought r x).2.backend.store.deletionFault?)
        (c.sought r x).1 (c.sought q y).1 ∧
      (c.sought r x).2.Alike (c.sought q y).2 := by
  obtain ⟨a, ha, hx⟩ := c.sought_of_fate r x
  obtain ⟨b, hb, hy⟩ := c.sought_of_fate q y
  constructor
  · have hs {s : Session} (hfound : (c.fate r x).found = some s) : s = s.recorded :=
      eq_recorded_of_sought (c := c) (r := r) (x := x) (by rw [hx, hfound])
    have ht {t : Session} (hfound : (c.fate q y).found = some t) : t = t.recorded :=
      eq_recorded_of_sought (c := c) (r := q) (x := y) (by rw [hy, hfound])
    rw [hx, hy, Store.deletionFault?_congr (congrArg Backend.store ha)]
    generalize c.fate r x = f, c.fate q y = g at hfate hs ht
    cases hfate with
    | found hcontent hfault =>
      -- a record holds no cookie value and no marks, so there is nothing else to compare
      refine .some ⟨hcontent, ?_, ?_, ?_, hfault⟩
      all_goals rw [hs rfl, ht rfl]; rfl
    | _ => exact .none
  · rw [hx, hy, hfate.notes_eq]
    exact { h.withBackend ha hb with log := by rw [h.log] }

lemma beginWith_alike (h : x.Alike y) (hst : s.Alike x.backend.store.deletionFault? t) :
    EndAlike (fun _ _ => True) (c.beginWith s x) (c.beginWith t y) := by
  rcases httl : c.ttl with _ | micros
  · simp only [beginWith, prolonged, httl]
    exact .done trivial (h.setSession (.some hst))
  · simp only [beginWith, prolonged, httl, h.world]
    obtain ⟨fault, hs, ht⟩ | ⟨s', t', hs, ht, halike⟩ := hst.expireIn_cases y.world.now micros <;>
      simp only [hs, ht]
    · exact .failed fault h
    · exact .done trivial (h.setSession (.some halike))

/-- Requests whose cookies meet the same fate start alike. -/
theorem start_alike (h : x.Alike y)
    (hfate : (c.fate r x).Same x.backend.store.deletionFault? (c.fate q y)) :
    EndAlike (fun _ _ => True) (c.start r x) (c.start q y) := by
  obtain ⟨hfound, halike⟩ := sought_alike h hfate
  rcases hr : (c.sought r x).1 with _ | s <;> rcases hq : (c.sought q y).1 with _ | t <;>
    rw [hr, hq] at hfound <;> cases hfound
  · obtain ⟨hfresh, hanew⟩ := halike.freshSession
    rw [start_of_sought_none hr, start_of_sought_none hq, startAnew, startAnew, hfresh]
    exact beginWith_alike hanew (.refl _ _)
  · next hst =>
    rw [start_of_sought_some hr, start_of_sought_some hq]
    exact beginWith_alike halike hst

/-! ### After the handler -/

/-- Whether a token can be given to a client, and what goes wrong otherwise, is not told by the token
if it is the text of bytes. -/
lemma tokenHeader_agree (c : SessionConfig) (secure : Bool) (bytes bytes' : List UInt8)
    (now : Int) :
    (∃ fault, c.tokenHeader secure (Base64.text bytes) now = .error fault ∧
        c.tokenHeader secure (Base64.text bytes') now = .error fault) ∨
      (∃ header, c.tokenHeader secure (Base64.text bytes) now = .ok header) ∧
        ∃ header, c.tokenHeader secure (Base64.text bytes') now = .ok header := by
  have hlatin (bytes : List UInt8) :
      IsLatin (c.keys.primary.sign (Base64.text bytes)).toList :=
    c.keys.primary.isLatin_sign (Base64.isLatin_text bytes)
  simp only [tokenHeader]
  rcases httl : c.ttl with _ | micros
  · exact Cookie.header_agree _ _ _ _ _ _ (hlatin bytes) (hlatin bytes')
  · rcases ht : Timestamp.ofInstant? (now + micros) with fault | t
    · simp only [Cookie.Attributes.build, ht]
      exact .inl ⟨fault, rfl, rfl⟩
    · simp only [Cookie.Attributes.build, ht]
      exact Cookie.header_agree _ _ _ _ _ _ (hlatin bytes) (hlatin bytes')

lemma setsCookie_of_tokenHeader {secure : Bool} {token header : String} {now : Int}
    (h : c.tokenHeader secure token now = .ok header) (a : Response) :
    (a.addCookie header).setsCookie c.cookieName = true := by
  rw [Response.setsCookie_addCookie, Jar.isPrefixOf_of_given? (given?_of_tokenHeader h),
    Bool.or_true]

variable {a b : Response}

/-- Clients are given tokens alike that are equal or the texts of bytes. -/
lemma giveToken_alike (secure : Bool) (hab : a.Alike c.cookieName b) (h : x.Alike y)
    {token token' : String} (htokens : token = token' ∨ ∃ bytes bytes',
      token = Base64.text bytes ∧ token' = Base64.text bytes') (now : Int) :
    EndAlike (Response.Alike c.cookieName) ((c.tokenHeader secure token now).map a.addCookie, x)
      ((c.tokenHeader secure token' now).map b.addCookie, y) := by
  have hheaders : (∃ fault, c.tokenHeader secure token now = .error fault ∧
        c.tokenHeader secure token' now = .error fault) ∨
      (∃ header, c.tokenHeader secure token now = .ok header) ∧
        ∃ header, c.tokenHeader secure token' now = .ok header := by
    obtain rfl | ⟨bytes, bytes', rfl, rfl⟩ := htokens
    · rcases c.tokenHeader secure token now with fault | header
      · exact .inl ⟨fault, rfl, rfl⟩
      · exact .inr ⟨⟨header, rfl⟩, header, rfl⟩
    · exact c.tokenHeader_agree secure bytes bytes' now
  obtain ⟨fault, hr, hq⟩ | ⟨⟨header, hr⟩, header', hq⟩ := hheaders
  · rw [hr, hq]
    exact .failed fault h
  · rw [hr, hq]
    refine .done ⟨hab.status, ?_⟩ h
    rw [setsCookie_of_tokenHeader hr, setsCookie_of_tokenHeader hq]

lemma keep_alike (secure : Bool) (hab : a.Alike c.cookieName b) (h : x.Alike y)
    (hst : s.Alike x.backend.store.deletionFault? t) :
    EndAlike (Response.Alike c.cookieName) (c.keep secure a s x) (c.keep secure b t y) := by
  obtain ⟨world, backend, log, slot, results⟩ := x
  obtain ⟨world', backend', log', slot', results'⟩ := y
  obtain rfl : world = world' := h.world
  have hsaved := Backend.save_alike h.emptied hst world.now
  have hkept := h.withBackend (backend.emptied_save s world.now)
    (backend'.emptied_save t world.now)
  simp only [keep]
  generalize backend.save s world.now = saved, backend'.save t world.now = saved' at hsaved hkept
  obtain ⟨given, s', backend⟩ := saved
  obtain ⟨given', t', backend'⟩ := saved'
  obtain hgiven | ⟨bytes, bytes', hs, ht⟩ := hsaved
  · obtain rfl : given = given' := hgiven
    rcases given with fault | (_ | token)
    · exact .done hab (hkept.note _ _ _)
    · exact .done hab hkept
    · exact giveToken_alike secure hab hkept (.inl rfl) _
  -- the tokens differ if they are the records themselves, which hold the ids
  · obtain rfl : given = .ok (some (Base64.text bytes)) := hs
    obtain rfl : given' = .ok (some (Base64.text bytes')) := ht
    exact giveToken_alike secure hab hkept (.inr ⟨bytes, bytes', rfl, rfl⟩) _

lemma discard_alike (secure : Bool) (hab : a.Alike c.cookieName b) (h : x.Alike y)
    (hst : s.Alike x.backend.store.deletionFault? t) :
    EndAlike (Response.Alike c.cookieName) (c.discard secure a s x) (c.discard secure b t y) := by
  obtain ⟨world, backend, log, slot, results⟩ := x
  obtain ⟨world', backend', log', slot', results'⟩ := y
  obtain rfl : world = world' := h.world
  have hcleared (header : Except Fault String) {x y : Exchange} (h : x.Alike y) :
      EndAlike (Response.Alike c.cookieName) (header.map a.addCookie, x)
        (header.map b.addCookie, y) := by
    rcases header with fault | header
    · exact .failed fault h
    · refine .done ⟨hab.status, ?_⟩ h
      rw [Response.setsCookie_addCookie, Response.setsCookie_addCookie, hab.setsCookie]
  have hdestroyed := Backend.destroy_alike h.emptied hst
  have hleft := h.withBackend (backend.emptied_destroy s) (backend'.emptied_destroy t)
  simp only [discard]
  generalize backend.destroy s = destroyed, backend'.destroy t = destroyed' at hdestroyed hleft
  obtain ⟨done, backend⟩ := destroyed
  obtain ⟨done', backend'⟩ := destroyed'
  obtain rfl : done = done' := hdestroyed
  rcases done with fault | _
  · exact hcleared _ (hleft.note _ _ _)
  · exact hcleared _ hleft

/-- Requests are finished alike. -/
theorem finish_alike (hencrypted : r.isEncrypted = q.isEncrypted)
    (hab : a.Alike c.cookieName b) (h : x.Alike y) :
    EndAlike (Response.Alike c.cookieName) (c.finish r a x) (c.finish q b y) := by
  have hsession := h.session
  have htaken := h.setSession .none
  simp only [finish, h.ceased]
  split_ifs
  · exact .done hab ((h.note _ _ _).setSession .none)
  · rcases hx : x.slot.session with _ | s <;> rcases hy : y.slot.session with _ | t <;>
      rw [hx, hy] at hsession <;> cases hsession
    · exact .failed _ h
    · next hst =>
      simp only [hencrypted, hst.destroyed, hst.changed]
      rcases q.isEncrypted with fault | secure
      · exact .failed fault htaken
      simp only
      split_ifs
      · exact discard_alike secure hab htaken hst
      · exact keep_alike secure hab htaken hst
      · exact .done hab (htaken.note _ _ _)

/-- A handler that treats requests alike does so also with sessions around it, if the cookies of the
requests meet the same fate. -/
theorem around_alike {inner : Handler} (hinner : inner.TreatsAlike c.cookieName)
    (hrq : r.SameBesideCookies q) (h : x.Alike y)
    (hfate : (c.fate r x).Same x.backend.store.deletionFault? (c.fate q y)) :
    EndAlike (Response.Alike c.cookieName) (c.around inner r x) (c.around inner q y) := by
  have hstart := start_alike h hfate
  simp only [around]
  generalize c.start r x = o, c.start q y = o' at hstart
  cases hstart with
  | failed fault hbegun => exact .failed fault hbegun
  | done _ hbegun =>
    have hanswered := hinner hrq hbegun
    simp only
    generalize inner r _ = o, inner q _ = o' at hanswered
    cases hanswered with
    | failed fault hleft => exact .failed fault hleft
    | done hab hleft => exact finish_alike hrq.isEncrypted_eq hab hleft

end SessionConfig

end SessionCookies
