import SessionCookies.Proofs.Handler.Protocol
import SessionCookies.Proofs.Store.Loading
import SessionCookies.Service.Routes

/-!
# Session fixation

Whoever knows the token with which a client came has no part in what is written for the client under
another id. When a user is logged in, or a script gives the session a new id or puts a new one in
its place, the old token goes on leading where it led, and the cookie that is set leads to what the
handler left (`load_of_writes`). Logging in is a script, too, as far as the session is concerned
(`login_of_accepted`).
-/

namespace SessionCookies

/-! ### Logging in -/

namespace Service

variable {r : Request} {username : String}

/-- The steps that logging in comes to. -/
def loggingIn (username : String) : List Step :=
  [.replace, .act (.insert "username" (.string (Units.ofString username)))]

/-- A user whose login is accepted is sent on to the home page, with a new session in the slot. -/
lemma login_of_accepted (h : Login.ofRequest r = .accepted username) (x : Exchange) :
    ∃ log, login r x = (.ok (.redirect 303 "/"),
      { (runSteps x (loggingIn username)).2 with log, results := x.results }) := by
  simp only [login, h]
  exact ⟨_, rfl⟩

lemma routed_login (further : List Route) (hmethod : r.method = "POST")
    (hpath : r.path = "/login") : Handler.routed (routes ++ further) r = login r := by
  have hfound : (routes ++ further).find?
      (fun route => route.isAt r.path && route.methods.contains r.method) =
        some ⟨["POST"], "/login", login⟩ := by
    rw [routes, List.cons_append, List.find?_cons_of_pos]
    rw [hmethod, hpath]
    rfl
  funext x
  simp only [Handler.routed, hfound]

lemma setsWholeMinutes_loggingIn (a : Action) (ha : .act a ∈ loggingIn username) :
    a.SetsWholeMinutes := by
  obtain rfl : a = .insert "username" (.string (Units.ofString username)) := by
    simpa [loggingIn] using ha
  trivial

lemma data_loggingIn {x : Exchange} {s : Session}
    (h : (runSteps x (loggingIn username)).2.slot.session = some s) :
    s.data.entries = [("username", (Json.text username).toText)] := by
  cases h
  rfl

end Service

/-! ### Handlers that write to sessions -/

namespace Handler

/-- An accepted login, among the routes of the service and any others, or a script, with the steps
that it comes to. -/
inductive Writes (r : Request) : Handler → List Step → Prop
  | login (further : List Route) {username : String} (hmethod : r.method = "POST")
      (hpath : r.path = "/login") (haccepted : Login.ofRequest r = .accepted username) :
      Writes r (.answering (.routed (Service.routes ++ further))) (Service.loggingIn username)
  | script (steps : List Step) (answer : Except Fault Unit → Except Fault Response) :
      Writes r (.scripted steps answer) steps

variable {r : Request} {inner : Handler} {steps : List Step}

/-- A login does to the session what its steps do, and neither it nor a script touches the store. -/
lemma Writes.eq_runSteps (h : inner.Writes r steps) (x : Exchange) :
    (inner r x).2.slot = (runSteps x steps).2.slot ∧ (inner r x).2.backend = x.backend := by
  cases h with
  | login further hmethod hpath haccepted =>
    obtain ⟨log, hlogin⟩ := Service.login_of_accepted haccepted x
    rw [Handler.answering, Service.routed_login further hmethod hpath, hlogin]
    exact ⟨rfl, backend_runSteps x _⟩
  | script => exact ⟨rfl, backend_runSteps x _⟩

end Handler

/-! ### What a handler leaves -/

namespace SessionConfig

variable {c : SessionConfig} {r : Request} {x y : Exchange} {s t : Session} {a : Response}
  {inner : Handler} {steps : List Step} {now : Int}

lemma hasWholeOffset_prolonged (h : c.prolonged s now = .ok t) (hs : s.HasWholeOffset) :
    t.HasWholeOffset := by
  rw [prolonged] at h
  split at h
  · cases h
    exact hs
  · exact (Session.hasUtcExpiry_of_expireIn h).hasWholeOffset

/-- Whatever a store holds, the expiry with which a request starts is read back as it is. -/
lemma hasWholeOffset_start (h : c.start r x = (.ok t, y)) : t.HasWholeOffset := by
  rcases hfound : (c.sought r x).1 with _ | f
  · rw [start_of_sought_none hfound] at h
    exact hasWholeOffset_prolonged (beginWith_ok h).1 nofun
  · rw [start_of_sought_some hfound] at h
    obtain ⟨token, -, hload⟩ := load_of_sought hfound
    exact hasWholeOffset_prolonged (beginWith_ok h).1 (Backend.hasWholeOffset_of_load hload)

/-- What a handler leaves in the slot is read back as it is. -/
lemma isRead_of_writes (hinner : inner.Writes r steps)
    (hsteps : ∀ a, .act a ∈ steps → a.SetsWholeMinutes) (hstart : c.start r x = (.ok t, y))
    (hslot : (inner r y).2.slot.session = some s) : s.IsMatched ∧ s.HasWholeOffset := by
  rw [(hinner.eq_runSteps y).1] at hslot
  constructor
  · exact isMatched_runSteps steps (isMatched_start hstart) s hslot
  · refine slot_runSteps (P := fun _ s => s.HasWholeOffset) (fun _ => nofun) ?_ false ?_ s hslot
    · intro a ha _ s w hs
      exact Action.hasWholeOffset_run (hsteps a ha) w hs
    · intro u hu
      cases (start_ok hstart).1.symm.trans hu
      exact hasWholeOffset_start hstart

/-! ### Tokens -/

/-- Looking for the session of a request changes nothing about what any token leads to from then
on. -/
lemma load_start (h : c.start r x = (.ok t, y)) (token : String) (hle : x.world.now ≤ now) :
    (y.backend.load token now).1 = (x.backend.load token now).1 := by
  rw [(start_cases h).2.1]
  obtain ⟨other, -, log, hsought⟩ | ⟨-, log, hsought⟩ := c.sought_cases r x
  · rw [hsought, Backend.load_load _ _ _ hle]
  · rw [hsought]

lemma tokenHeader_of_answerWith {secure : Bool} {given : Option String} {header : String}
    (h : c.answerWith secure a now given = .ok (a.addCookie header)) :
    ∃ token, given = some token ∧ c.tokenHeader secure token now = .ok header := by
  cases given with
  | none =>
    have hsame : a.cookies = a.cookies ++ [header] := congrArg Response.cookies (Except.ok.inj h)
    exact absurd (List.self_eq_append_right.1 hsame) (List.cons_ne_nil _ _)
  | some token =>
    rw [answerWith] at h
    rcases hgiven : c.tokenHeader secure token now with fault | other
    · rw [hgiven] at h
      cases h
    · rw [hgiven] at h
      have hsame : a.cookies ++ [other] = a.cookies ++ [header] :=
        congrArg Response.cookies (Except.ok.inj h)
      cases List.append_cancel_left hsame
      exact ⟨token, rfl, hgiven⟩

/-- A cookie that is set is that of the token that the store gave. -/
lemma save_of_finalAnswer {z : Exchange} {secure : Bool} {header : String}
    (hencrypted : r.isEncrypted = .ok secure) (h : c.finalAnswer r a z (.kept s) = .ok (a.addCookie header)) :
    ∃ token, (z.backend.save s z.world.now).1 = .ok (some token) ∧
      c.tokenHeader secure token z.world.now = .ok header := by
  rw [finalAnswer_kept hencrypted] at h
  obtain ⟨token, hgiven, hheader⟩ := tokenHeader_of_answerWith h
  rcases hsaved : (z.backend.save s z.world.now).1 with fault | given
  · rw [hsaved] at hgiven
    cases hgiven
  · rw [hsaved] at hgiven
    obtain rfl : given = some token := hgiven
    exact ⟨token, rfl, hheader⟩

/-- The session that a login or a script leaves is kept by a store that can be asked for sessions.
From the start of the request on, a token of any other id leads where it led before the request.
If a cookie is set, it carries a token that leads to the session with the data that the handler
left, until the session expires, for handlers that set no expiry with seconds in its offset. What a
login leaves is the name of the user alone. -/
theorem load_of_writes (hreads : x.backend.readFault? = none) (hinner : inner.Writes r steps)
    (hstart : c.start r x = (.ok t, y)) (hanswer : (inner r y).1 = .ok a)
    (hending : c.ending r (inner r y).2.slot = .kept s) :
    (∀ username, steps = Service.loggingIn username →
      s.data.entries = [("username", (Json.text username).toText)]) ∧
    (∀ old now, s.id ≠ sessionId old → x.world.now ≤ now →
      ((c.around inner r x).2.backend.load old now).1 = (x.backend.load old now).1) ∧
    ((∀ a, .act a ∈ steps → a.SetsWholeMinutes) →
      ∀ header, (c.around inner r x).1 = .ok (a.addCookie header) →
        ∃ token value, Jar.given? c.cookieName header = some value ∧
          (∀ next : Request, next.SendsBack c.cookieName (some value) → c.Presents next token) ∧
          ∀ now, ((c.around inner r x).2.backend.load token now).1 =
            .ok (if s.LivesAt now then some { id := s.id, data := s.data, expiry := s.expiry }
              else none)) := by
  obtain ⟨log, haround⟩ := around_of_ok inner hstart hanswer
  obtain ⟨hruns, hbackend⟩ := hinner.eq_runSteps y
  obtain ⟨hslot, secure, hencrypted⟩ := of_ending (.inr hending)
  rw [haround, hending, finalBackend, hbackend]
  refine ⟨fun username hlogin => ?_, fun old now hid hle => ?_, fun hsteps header hheader => ?_⟩
  · subst hlogin
    rw [hruns] at hslot
    exact Service.data_loggingIn hslot
  · rw [Backend.load_save_of_ne _ _ hid, load_start hstart old hle]
  · obtain ⟨hmatched, hwhole⟩ := isRead_of_writes hinner hsteps hstart hslot
    obtain ⟨token, hsaved, hgiven⟩ := save_of_finalAnswer hencrypted hheader
    rw [hbackend] at hsaved
    have hreads' : y.backend.readFault? = none := by
      rw [← hreads, ← Backend.readFault?_congr (c.emptied_start r x), hstart]
    have hname := (isWritable_of_tokenHeader hgiven).name
    refine ⟨token, _, given?_of_tokenHeader hgiven, fun next hnext => ?_, fun now => ?_⟩
    · exact presents_of_holds hname hnext (c.holds_primary token)
    · exact (Backend.foundAt_of_given hreads' hwhole hmatched hsaved now).eq

/-! ### A user who logs in -/

/-- A request to log in that comes with the cookie of a session. -/
def signingIn : Request :=
  { carrying "mine" with
    method := "POST"
    path := "/login"
    headers := ("content-type", "application/json") :: (carrying "mine").headers
    body := "\x7b\"username\":\"alice\"\x7d" }

lemma accepted_signingIn : Login.ofRequest signingIn = .accepted "alice" := by
  have hread : (match Login.ofRequest signingIn with
      | .accepted username => some username
      | _ => none) = some "alice" := by decide +kernel
  split at hread
  · cases hread
    assumption
  · cases hread

lemma isEncrypted_signingIn : signingIn.isEncrypted = .ok false := by
  rw [← isEncrypted_carrying "mine"]
  rfl

lemma presents_signingIn : hourly.Presents signingIn "mine" := by
  have hpresented : hourly.presented? signingIn = hourly.presented? (carrying "mine") := by
    rw [presented?, presented?]
    rfl
  rw [Presents, hpresented]
  exact presents_carrying "mine"

/-- The routes of the service alone. -/
def serving : Handler := .answering (.routed (Service.routes ++ []))

/-- The session of the user who logs in. -/
def alice (w : World) : Session :=
  (Session.fresh w).putText "username" (Json.text "alice").toText

lemma served_signingIn {y : Exchange} {t : Session} (hslot : y.slot = ⟨some t, false⟩) :
    (serving signingIn y).1 = .ok (.redirect 303 "/") ∧
      hourly.ending signingIn (serving signingIn y).2.slot = .kept (alice y.world) ∧
      (serving signingIn y).2.world = y.world.afterDraw ∧
      (serving signingIn y).2.backend = y.backend := by
  obtain ⟨log, hlogin⟩ := Service.login_of_accepted accepted_signingIn y
  rw [serving, Handler.answering, Service.routed_login [] rfl rfl, hlogin]
  have hran : (runSteps y (Service.loggingIn "alice")).2.slot = ⟨some (alice y.world), false⟩ := by
    simp only [Service.loggingIn, runSteps, Step.run, Exchange.freshSession, Exchange.setSession,
      hslot]
    rfl
  refine ⟨rfl, ?_, rfl, backend_runSteps y _⟩
  simp only [hran]
  exact ending_of_kept isEncrypted_signingIn rfl rfl

/-- The cookie of the session is set. -/
lemma exists_header_signingIn {y : Exchange} {t : Session}
    (hstart : hourly.start signingIn holdingMine = (.ok t, y))
    (hslot : y.slot = ⟨some t, false⟩) (hworld : y.world = holdingMine.world)
    (hguards : y.Guards "mine" mine) :
    ∃ header, (hourly.around serving signingIn holdingMine).1 =
      .ok ((Response.redirect 303 "/").addCookie header) := by
  obtain ⟨hanswer, hending, hworld', hbackend⟩ := served_signingIn hslot
  obtain ⟨log, haround⟩ := around_of_ok serving hstart hanswer
  have hdates : hourly.HasDates y.world.now := by
    rw [hworld]
    exact hasDates_hourly le_rfl (by decide)
  obtain ⟨header, hheader⟩ := tokenHeader_of_isWritable isWritable_hourly hdates false
    (Base64.isLatin_text y.world.entropy.next)
  refine ⟨header, ?_⟩
  have hsaved : (y.backend.save (alice y.world) y.world.now).1 =
      .ok (some y.world.nextCookieValue) := by
    rw [Backend.save_congr hguards.emptied]
    rfl
  rw [haround, hending, finalAnswer_kept isEncrypted_signingIn, hbackend, hworld', World.afterDraw, hsaved]
  change (hourly.tokenHeader _ _ _).map _ = _
  rw [World.nextCookieValue, hheader]
  rfl

/-- The cookie with which the user came still leads to the session without the name. The new one
leads to a session with the name. -/
theorem load_of_writes_login :
    ∃ header token, (hourly.around serving signingIn holdingMine).1 =
        .ok ((Response.redirect 303 "/").addCookie header) ∧
      ∀ now, 0 ≤ now →
        ((hourly.around serving signingIn holdingMine).2.backend.load "mine" now).1 =
          .ok (some mine) ∧
        ∃ s, ((hourly.around serving signingIn holdingMine).2.backend.load token now).1 =
          .ok (some s) ∧ s.data.entries = [("username", "\"alice\"")] := by
  obtain ⟨t, y, hstart, -, hslot, hworld, hguards, -⟩ :=
    Exchange.guards_holdingMine.start presents_signingIn
  obtain ⟨hanswer, hending, -, -⟩ := served_signingIn hslot
  have hwrites : serving.Writes signingIn (Service.loggingIn "alice") :=
    .login [] rfl rfl accepted_signingIn
  obtain ⟨hdata, hold, hnew⟩ := load_of_writes rfl hwrites hstart hanswer hending
  have hid : (alice y.world).id ≠ sessionId "mine" := by
    rw [hworld]
    change sessionId holdingMine.world.nextCookieValue ≠ sessionId "mine"
    decide +kernel
  have htext : (Json.text "alice").toText = "\"alice\"" := by decide +kernel
  obtain ⟨header, hheader⟩ := exists_header_signingIn hstart hslot hworld hguards
  obtain ⟨token, value, -, -, hload⟩ := hnew Service.setsWholeMinutes_loggingIn header hheader
  refine ⟨header, token, hheader, fun now hle => ⟨?_, ?_⟩⟩
  · have hmine := Backend.load_of_load Exchange.guards_holdingMine.load now
    rw [if_pos nofun] at hmine
    rw [hold "mine" now hid hle, hmine]
    rfl
  · have hfound := hload now
    rw [if_pos nofun] at hfound
    refine ⟨_, hfound, ?_⟩
    rw [← htext]
    exact hdata "alice" rfl

end SessionConfig

end SessionCookies
