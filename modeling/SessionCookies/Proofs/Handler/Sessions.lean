import SessionCookies.Handler.Sessions
import SessionCookies.Proofs.Store.Live

/-!
# The phases of a request

What each phase of a request with a session comes to, whatever it writes to the log: which token the
request carries, what looking for its session leaves, and how the answer and the store go on when
the session is kept or destroyed.
-/

namespace SessionCookies.SessionConfig

/-! ### Before the handler -/

/-- The session cookie of a request carries a token. -/
def Presents (c : SessionConfig) (r : Request) (token : String) : Prop :=
  ∃ signed, c.presented? r = some signed ∧ c.keys.verify signed = .ok token

lemma token_of_presents {c : SessionConfig} {r : Request} {token : String}
    (h : c.Presents r token) (x : Exchange) : c.token r x = (some token, x) := by
  obtain ⟨signed, hpresented, hverify⟩ := h
  simp only [SessionConfig.token, hpresented, hverify]

lemma token_cases (c : SessionConfig) (r : Request) (x : Exchange) :
    (∃ token, c.Presents r token ∧ c.token r x = (some token, x)) ∨
      (∀ token, ¬ c.Presents r token) ∧ ∃ log, c.token r x = (none, { x with log }) := by
  rcases hpresented : c.presented? r with _ | signed
  · refine .inr ⟨?_, x.log, by simp only [token, hpresented]⟩
    rintro t ⟨signed, h, -⟩
    rw [hpresented] at h
    cases h
  · rcases hverify : c.keys.verify signed with fault | t
    · refine .inr ⟨?_, _, by simp only [token, hpresented, hverify]; rfl⟩
      rintro t ⟨signed', h, hok⟩
      rw [hpresented] at h
      cases h
      rw [hverify] at hok
      cases hok
    · have hpresents : c.Presents r t := ⟨signed, hpresented, hverify⟩
      exact .inl ⟨t, hpresents, token_of_presents hpresents x⟩

lemma lookUp_none (x : Exchange) : lookUp none x = (none, x) := rfl

lemma lookUp_some (token : String) (x : Exchange) :
    ∃ log, lookUp (some token) x =
      ((x.backend.load token x.world.now).1.toOption.join,
        { x with backend := (x.backend.load token x.world.now).2, log }) := by
  rcases hload : x.backend.load token x.world.now with ⟨fault | found, backend⟩
  · exact ⟨_, by simp only [lookUp, hload]; rfl⟩
  · exact ⟨x.log, by simp only [lookUp, hload]; rfl⟩

/-- The session that the cookie of a request leads to, and the exchange after looking for it. -/
def sought (c : SessionConfig) (r : Request) (x : Exchange) : Option Session × Exchange :=
  lookUp (c.token r x).1 (c.token r x).2

lemma sought_cases (c : SessionConfig) (r : Request) (x : Exchange) :
    (∃ token, c.Presents r token ∧ ∃ log, c.sought r x =
      ((x.backend.load token x.world.now).1.toOption.join,
        { x with backend := (x.backend.load token x.world.now).2, log })) ∨
    (∀ token, ¬ c.Presents r token) ∧ ∃ log, c.sought r x = (none, { x with log }) := by
  rcases c.token_cases r x with ⟨token, hpresents, htoken⟩ | ⟨hnot, log, htoken⟩
  · obtain ⟨log, hlookUp⟩ := lookUp_some token x
    exact .inl ⟨token, hpresents, log, by rw [sought, htoken, hlookUp]⟩
  · exact .inr ⟨hnot, log, by rw [sought, htoken, lookUp_none]⟩

lemma world_sought (c : SessionConfig) (r : Request) (x : Exchange) :
    (c.sought r x).2.world = x.world := by
  rcases c.sought_cases r x with ⟨token, -, log, h⟩ | ⟨-, log, h⟩ <;> rw [h]

lemma load_of_sought {c : SessionConfig} {r : Request} {x : Exchange} {s : Session}
    (h : (c.sought r x).1 = some s) :
    ∃ token, c.Presents r token ∧ (x.backend.load token x.world.now).1 = .ok (some s) := by
  rcases c.sought_cases r x with ⟨token, hpresents, log, hsought⟩ | ⟨-, log, hsought⟩
  · rw [hsought] at h
    rcases hload : (x.backend.load token x.world.now).1 with fault | found
    · rw [hload] at h
      cases h
    · rw [hload] at h
      obtain rfl : found = some s := h
      exact ⟨token, hpresents, hload⟩
  · rw [hsought] at h
    cases h

lemma live?_sought {c : SessionConfig} {r : Request} {x : Exchange} {s : Session}
    (h : (c.sought r x).1 = some s) : s.live? x.world.now = .ok (some s) := by
  obtain ⟨token, -, hload⟩ := load_of_sought h
  exact Backend.live?_of_load hload

/-- Puts a session into the slot with its life begun anew. -/
def beginWith (c : SessionConfig) (s : Session) (x : Exchange) : Except Fault Session × Exchange :=
  match c.prolonged s x.world.now with
  | .error fault => (.error fault, x)
  | .ok s => (.ok s, x.setSession (some s))

/-- Starts a request with a new session. -/
def startAnew (c : SessionConfig) (x : Exchange) : Except Fault Session × Exchange :=
  c.beginWith x.freshSession.1 x.freshSession.2

lemma start_of_sought_none {c : SessionConfig} {r : Request} {x : Exchange}
    (h : (c.sought r x).1 = none) : c.start r x = c.startAnew (c.sought r x).2 := by
  rw [sought] at h
  simp only [start, h, liveOrFresh]
  rfl

lemma start_of_sought_some {c : SessionConfig} {r : Request} {x : Exchange} {s : Session}
    (h : (c.sought r x).1 = some s) : c.start r x = c.beginWith s (c.sought r x).2 := by
  have hlive := live?_sought h
  rw [← c.world_sought r x] at hlive
  rw [sought] at h hlive
  simp only [start, h, liveOrFresh, hlive]
  rfl

lemma start_of_no_cookie {c : SessionConfig} {r : Request} (h : r.headersOf "cookie" = [])
    (x : Exchange) : c.start r x = c.startAnew x := by
  have hsought : c.sought r x = (none, x) := by
    have hpresented : c.presented? r = none := by
      rw [presented?, h]
      rfl
    simp only [sought, token, hpresented, lookUp]
  rw [start_of_sought_none (by rw [hsought]), hsought]

lemma startAnew_of_ttl {c : SessionConfig} {micros : Int} (httl : c.ttl = some micros)
    {x : Exchange} {t : Timestamp} (ht : Timestamp.ofInstant? (x.world.now + micros) = .ok t) :
    c.startAnew x = (.ok { Session.fresh x.world with expiry := some t },
      { x.freshSession.2 with
        slot := ⟨some { Session.fresh x.world with expiry := some t }, x.slot.ceased⟩ }) := by
  have hprolonged : c.prolonged (Session.fresh x.world) x.world.now =
      .ok { Session.fresh x.world with expiry := some t } := by
    simp only [prolonged, httl, Session.expireIn, ht]
    rfl
  have hnow : x.freshSession.2.world.now = x.world.now := rfl
  simp only [startAnew, beginWith, hnow]
  rw [show x.freshSession.1 = Session.fresh x.world from rfl, hprolonged]
  rfl

/-! ### After the handler -/

/-- The answer that gives the client a token, if there is one. -/
def answerWith (c : SessionConfig) (secure : Bool) (answer : Response) (now : Int) :
    Option String → Except Fault Response
  | none => .ok answer
  | some token => (c.tokenHeader secure token now).map answer.addCookie

/-- Keeping a session gives the client the token that saving it gives, if it gives one. -/
lemma keep_eq (c : SessionConfig) (secure : Bool) (answer : Response) (s : Session)
    (x : Exchange) :
    ∃ log, c.keep secure answer s x =
      (c.answerWith secure answer x.world.now (x.backend.save s x.world.now).1.toOption.join,
        { x with backend := (x.backend.save s x.world.now).2.2, log }) := by
  rcases hsave : x.backend.save s x.world.now with ⟨fault | (_ | token), t, backend⟩
  · exact ⟨_, by simp only [keep, hsave]; rfl⟩
  · exact ⟨x.log, by simp only [keep, hsave]; rfl⟩
  · exact ⟨x.log, by simp only [keep, hsave]; rfl⟩

/-- Destroying a session clears the cookie, whatever the store says to it. -/
lemma discard_eq (c : SessionConfig) (secure : Bool) (answer : Response) (s : Session)
    (x : Exchange) :
    ∃ log, c.discard secure answer s x =
      ((Cookie.clearing c.cookieName (some c.cookiePath) c.cookieDomain c.sameSite secure
          x.world.now).map answer.addCookie,
        { x with backend := (x.backend.destroy s).2, log }) := by
  rcases hdestroy : x.backend.destroy s with ⟨fault | _, backend⟩
  · exact ⟨_, by simp only [discard, hdestroy]; rfl⟩
  · exact ⟨x.log, by simp only [discard, hdestroy]⟩

/-- What becomes of the session of a request. -/
inductive Ending where
  /-- The handler gave up keeping the session. -/
  | ceased
  /-- There is no session in the slot. -/
  | lost
  /-- The URL of the request cannot be read, and nothing is done with the session. -/
  | spoilt (fault : Fault)
  | discarded (s : Session)
  | kept (s : Session)
  /-- The session did not change and only sessions that did are kept. -/
  | leftAlone

/-- What becomes of the session that lies in a slot. -/
def ending (c : SessionConfig) (r : Request) (slot : Slot) : Ending :=
  if slot.ceased then .ceased
  else
    match slot.session with
    | none => .lost
    | some s =>
      match r.isEncrypted with
      | .error fault => .spoilt fault
      | .ok _ =>
        if s.destroyed then .discarded s
        else if c.saveUnchanged || s.changed then .kept s
        else .leftAlone

section Ending

variable {c : SessionConfig} {r : Request} {s : Session} {secure : Bool}

lemma ending_of_unreadable {fault : Fault} (hr : r.isEncrypted = .error fault) :
    c.ending r ⟨some s, false⟩ = .spoilt fault := by
  simp [ending, hr]

lemma ending_of_destroyed (c : SessionConfig) (hr : r.isEncrypted = .ok secure)
    (h : s.destroyed = true) : c.ending r ⟨some s, false⟩ = .discarded s := by
  simp [ending, hr, h]

lemma ending_of_kept (hr : r.isEncrypted = .ok secure) (hdestroyed : s.destroyed = false)
    (hkeep : (c.saveUnchanged || s.changed) = true) :
    c.ending r ⟨some s, false⟩ = .kept s := by
  simp [ending, hr, hdestroyed, hkeep]

lemma ending_of_leftAlone (hr : r.isEncrypted = .ok secure) (hdestroyed : s.destroyed = false)
    (hkeep : (c.saveUnchanged || s.changed) = false) :
    c.ending r ⟨some s, false⟩ = .leftAlone := by
  simp [ending, hr, hdestroyed, hkeep]

/-- A session that is destroyed or kept was in the slot, and the URL of the request can be read. -/
lemma of_ending {slot : Slot} (h : c.ending r slot = .discarded s ∨ c.ending r slot = .kept s) :
    slot.session = some s ∧ ∃ secure, r.isEncrypted = .ok secure := by
  obtain ⟨session, ceased⟩ := slot
  rcases ceased with _ | _
  · rcases session with _ | t
    · simp [ending] at h
    · rcases hencrypted : r.isEncrypted with fault | secure
      · simp [ending, hencrypted] at h
      · simp only [ending, hencrypted] at h
        refine ⟨?_, secure, rfl⟩
        split_ifs at h <;> simp_all
  · simp [ending] at h

lemma isEncrypted_of_spoilt {slot : Slot} {fault : Fault} (h : c.ending r slot = .spoilt fault) :
    r.isEncrypted = .error fault := by
  rcases hencrypted : r.isEncrypted with fault' | secure
  · simp only [ending, hencrypted] at h
    split_ifs at h
    split at h
    · cases h
    · cases h
      rfl
  · simp only [ending, hencrypted] at h
    split_ifs at h
    split at h
    · cases h
    · split_ifs at h

end Ending

/-- The answer of a request, by what becomes of its session. -/
def finalAnswer (c : SessionConfig) (r : Request) (answer : Response) (x : Exchange) :
    Ending → Except Fault Response
  | .ceased | .leftAlone => .ok answer
  | .lost => .error .sessionLost
  | .spoilt fault => .error fault
  | .discarded _ => do
    let secure ← r.isEncrypted
    let header ← Cookie.clearing c.cookieName (some c.cookiePath) c.cookieDomain c.sameSite secure
      x.world.now
    return answer.addCookie header
  | .kept s => do
    let secure ← r.isEncrypted
    c.answerWith secure answer x.world.now (x.backend.save s x.world.now).1.toOption.join

/-- A session that is destroyed has its cookie cleared. -/
lemma finalAnswer_discarded {c : SessionConfig} {r : Request} {secure : Bool}
    (h : r.isEncrypted = .ok secure) (answer : Response) (x : Exchange) (s : Session) :
    c.finalAnswer r answer x (.discarded s) =
      (Cookie.clearing c.cookieName (some c.cookiePath) c.cookieDomain c.sameSite secure
        x.world.now).map answer.addCookie := by
  rw [finalAnswer, h]
  rfl

/-- A session that is kept has its token given to the client, if there is one. -/
lemma finalAnswer_kept {c : SessionConfig} {r : Request} {secure : Bool}
    (h : r.isEncrypted = .ok secure) (answer : Response) (x : Exchange) (s : Session) :
    c.finalAnswer r answer x (.kept s) = c.answerWith secure answer x.world.now
      (x.backend.save s x.world.now).1.toOption.join := by
  rw [finalAnswer, h]
  rfl

/-- The store after a request, by what becomes of its session. -/
def finalBackend (x : Exchange) : Ending → Backend
  | .ceased | .lost | .spoilt _ | .leftAlone => x.backend
  | .discarded s => (x.backend.destroy s).2
  | .kept s => (x.backend.save s x.world.now).2.2

/-- What finishing a request comes to. -/
theorem finish_eq (c : SessionConfig) (r : Request) (answer : Response) (x : Exchange) :
    ∃ log, c.finish r answer x = (c.finalAnswer r answer x (c.ending r x.slot),
      { x.setSession none with backend := finalBackend x (c.ending r x.slot), log }) := by
  obtain ⟨world, backend, log, ⟨session, ceased⟩, results⟩ := x
  rcases ceased with _ | _
  · rcases session with _ | s
    · exact ⟨log, rfl⟩
    · rcases hencrypted : r.isEncrypted with fault | secure
      · refine ⟨log, ?_⟩
        rw [ending_of_unreadable hencrypted]
        simp only [finish, hencrypted]
        rfl
      · rcases hdestroyed : s.destroyed with _ | _
        · rcases hkeep : c.saveUnchanged || s.changed with _ | _
          · refine ⟨log ++ [⟨.sessions, .debug, "Session unchanged, not saving"⟩], ?_⟩
            rw [ending_of_leftAlone hencrypted hdestroyed hkeep]
            simp only [finish, hencrypted, hdestroyed, hkeep]
            rfl
          · obtain ⟨log, h⟩ := c.keep_eq secure answer s ⟨world, backend, log, {}, results⟩
            refine ⟨log, ?_⟩
            rw [ending_of_kept hencrypted hdestroyed hkeep, finalAnswer_kept hencrypted]
            simp only [finish, hencrypted, hdestroyed, hkeep]
            exact h
        · obtain ⟨log, h⟩ := c.discard_eq secure answer s ⟨world, backend, log, {}, results⟩
          refine ⟨log, ?_⟩
          rw [ending_of_destroyed c hencrypted hdestroyed, finalAnswer_discarded hencrypted]
          simp only [finish, hencrypted, hdestroyed]
          exact h
  · exact ⟨_, rfl⟩

end SessionCookies.SessionConfig
