import SessionCookies.Proofs.Handler.Fate
import SessionCookies.Proofs.Service.Anonymity

/-!
# What the log tells of a cookie

The log of a request tells whether there is a session cookie, how long its value is, and what becomes
of it, and nothing else about it. Two requests whose cookies agree in this are written down in the
same words (`logs_hide_cookie`), whatever the service does to them: its routes make no difference
between them (`treatsAlike_routes`), and the handlers around the routes write down only what is the
same for both.
-/

namespace SessionCookies

/-! ### Handlers put together -/

namespace Handler

variable {cookieName : String} {inner : Handler} {r q : Request} {x y : Exchange}

lemma TreatsAlike.answering (h : inner.TreatsAlike cookieName) :
    (Handler.answering inner).TreatsAlike cookieName := by
  intro r q x y hrq hxy
  have hinner := h hrq hxy
  simp only [Handler.answering]
  generalize inner r x = o, inner q y = o' at hinner
  cases hinner with
  | failed fault hleft =>
    simp only
    split
    · exact .done (Response.alike_refl _ _) hleft
    · exact .failed fault hleft
  | done hab hleft => exact .done hab hleft

lemma treatsAlike_routed {routes : List Route}
    (h : ∀ route ∈ routes, route.handler.TreatsAlike cookieName) :
    (Handler.routed routes).TreatsAlike cookieName := by
  intro r q x y hrq hxy
  simp only [Handler.routed, hrq.path, hrq.method]
  split
  · next route hroute => exact h route (List.mem_of_find?_eq_some hroute) hrq hxy
  · split_ifs
    · exact .done (Response.alike_refl _ _) hxy
    · have hurl := (hrq.withPath (otherPath q.path)).url_eq
      rw [hrq.method] at hurl
      rw [hurl]
      rcases Request.url { q with path := otherPath q.path } with fault | url
      · exact .failed fault hxy
      · exact .done (Response.alike_refl _ _) hxy
    · exact .done (Response.alike_refl _ _) hxy

/-! ### Handlers around the routes -/

lemma contained_alike (hurl : r.url = q.url)
    (h : EndAlike (Response.Alike cookieName) (inner r x) (inner q y)) :
    EndAlike (Response.Alike cookieName) (inner.contained r x) (inner.contained q y) := by
  simp only [contained, hurl]
  generalize inner r x = o, inner q y = o' at h
  cases h with
  | failed fault hleft =>
    rcases q.url with unreadable | url <;> simp only <;> split_ifs
    · exact .failed fault hleft
    · exact .failed unreadable hleft
    · exact .failed fault hleft
    · exact .done (Response.alike_refl _ _) (hleft.note _ _ _)
    · exact .done (Response.alike_refl _ _) (hleft.note _ _ _)
  | done hab hleft => exact .done hab hleft

/-- The redirection to HTTPS reads no cookie. A request that it lets pass may be noted before. -/
lemma overHttps_alike {port : Option Int} {concerned : Request → Bool}
    (hrq : r.SameBesideCookies q) (hconcerned : concerned r = concerned q) (hxy : x.Alike y)
    (hpasses : EndAlike (Response.Alike cookieName) (inner r x) (inner q y))
    (hnoted : ∀ message, EndAlike (Response.Alike cookieName)
      (inner r (x.note .pipeline .warning message))
      (inner q (y.note .pipeline .warning message))) :
    EndAlike (Response.Alike cookieName) (inner.overHttps port concerned r x)
      (inner.overHttps port concerned q y) := by
  simp only [overHttps, hrq.url_eq, hrq.urlParts_eq, hconcerned,
    hrq.header?_eq (show "host" ≠ "cookie" by decide)]
  rcases q.url with fault | url
  · exact .failed fault hxy
  rcases q.urlParts with fault | parts
  · exact .failed fault hxy
  simp only
  split_ifs
  · exact hpasses
  · split
    · exact hnoted _
    · exact hnoted _
    · exact .done (Response.alike_refl _ _) (hxy.note _ _ _)

end Handler

namespace Exchange.Alike

variable {x y : Exchange} {r q : Request} {c : SessionConfig}

/-- The lengths of session cookies are written down, and whether there are any. -/
lemma noteRequest (h : x.Alike y) (hmethod : r.method = q.method)
    (hlength : ((c.presented? r).getD "").length = ((c.presented? q).getD "").length)
    (url : String) :
    (x.noteRequest c.cookieName r url).Alike (y.noteRequest c.cookieName q url) := by
  simp only [SessionConfig.presented?] at hlength
  simp only [Exchange.noteRequest, hmethod, hlength]
  split_ifs
  · exact (h.note _ _ _).note _ _ _
  · exact ((h.note _ _ _).note _ _ _).note _ _ _

lemma noteResponse (h : x.Alike y) {a b : Response} {cookieName : String}
    (hab : a.Alike cookieName b) (url : String) :
    (x.noteResponse cookieName url a).Alike (y.noteResponse cookieName url b) := by
  simp only [Exchange.noteResponse, hab.status, hab.setsCookie]
  split_ifs
  · exact ((h.note _ _ _).note _ _ _).note _ _ _
  · exact (h.note _ _ _).note _ _ _

lemma noteFault (h : x.Alike y) (fault : Fault) : (x.noteFault fault).Alike (y.noteFault fault) := by
  rw [Exchange.noteFault.eq_def, Exchange.noteFault.eq_def]
  split <;> exact h.note _ _ _

end Exchange.Alike

lemma Handler.journaled_alike {c : SessionConfig} {inner : Handler} {r q : Request} {x y : Exchange}
    (hurl : r.url = q.url) (hxy : x.Alike y)
    (h : ∀ url, EndAlike (Response.Alike c.cookieName) (inner r (x.noteRequest c.cookieName r url))
      (inner q (y.noteRequest c.cookieName q url))) :
    EndAlike (Response.Alike c.cookieName) (inner.journaled c.cookieName r x)
      (inner.journaled c.cookieName q y) := by
  simp only [journaled, hurl]
  rcases q.url with fault | url
  · exact .failed fault hxy
  have hnoted := h url
  simp only
  generalize inner r (x.noteRequest c.cookieName r url) = o,
    inner q (y.noteRequest c.cookieName q url) = o' at hnoted
  cases hnoted with
  | failed fault hleft => exact .failed fault (hleft.noteFault fault)
  | done hab hleft => exact .done hab (hleft.noteResponse hab url)

@[simp] lemma SessionConfig.fate_noteRequest (c : SessionConfig) (r : Request) (x : Exchange)
    (cookieName url : String) : c.fate r (x.noteRequest cookieName r url) = c.fate r x := by
  simp only [Exchange.noteRequest]
  split_ifs <;> rfl

namespace Service

/-! ### The routes of the service -/

section Routes

variable {cookieName : String}

lemma treatsAlike_withSession {f : Session → Exchange → Except Fault Response × Exchange}
    (hf : ∀ {s t x y}, x.Alike y → s.Alike x.backend.store.deletionFault? t →
      EndAlike (Response.Alike cookieName) (f s x) (f t y)) :
    (withSession f).TreatsAlike cookieName := by
  intro r q x y _ hxy
  have hsession := hxy.session
  simp only [withSession, Exchange.currentSession]
  generalize x.slot.session = s, y.slot.session = t at hsession
  cases hsession with
  | none => exact .failed _ hxy
  | some hst => exact hf hxy hst

lemma treatsAlike_login : login.TreatsAlike cookieName := by
  intro r q x y hrq hxy
  have hread : Login.ofRequest r = Login.ofRequest q := by
    rw [Login.ofRequest, Login.ofRequest, hrq.body,
      hrq.header?_eq (show "content-type" ≠ "cookie" by decide)]
  obtain ⟨hfresh, hafter⟩ := hxy.freshSession
  simp only [login, hread]
  rcases Login.ofRequest q with username | complaints | fault
  · simp only [hfresh]
    exact .done (Response.alike_refl _ _)
      ((hafter.setSession (.some (.refl _ _))).note _ _ _)
  · exact .done (Response.alike_refl _ _) hxy
  · exact .failed fault hxy

lemma treatsAlike_logout : logout.TreatsAlike cookieName :=
  treatsAlike_withSession fun hxy hst =>
    .done (Response.alike_refl _ _) (hxy.setSession (.some { hst with destroyed := rfl }))

/-- Routes that read a session and answer by what they read, or fail. -/
lemma treatsAlike_reading {body : Session → Exchange → Except Fault String}
    {answer : String → Response}
    (hbody : ∀ {s t x y}, x.Alike y → s.Alike x.backend.store.deletionFault? t →
      body s x = body t y) :
    (withSession fun s x => ((body s x).map answer, x)).TreatsAlike cookieName := by
  refine treatsAlike_withSession fun {s t x y} hxy hst => ?_
  rw [hbody hxy hst]
  rcases body t y with fault | text
  · exact .failed fault hxy
  · exact .done (Response.alike_refl _ _) hxy

lemma treatsAlike_home : home.TreatsAlike cookieName := by
  apply treatsAlike_reading
  intro s t x y _ hst
  rw [hst.get?_eq]

lemma treatsAlike_sessionInfo : sessionInfo.TreatsAlike cookieName := by
  apply treatsAlike_reading
  intro s t x y hxy hst
  rw [sessionReport, sessionReport, hst.get?_eq, hst.timeLeft_eq, hxy.world]

lemma treatsAlike_status : status.TreatsAlike cookieName := by
  intro r q x y _ hxy
  have hname (a : Store) : a.emptied.name = a.name := by cases a <;> rfl
  have hsame : x.backend.store.name = y.backend.store.name := by
    rw [← hname x.backend.store, ← hname y.backend.store]
    exact congrArg (fun b : Backend => b.store.name) hxy.emptied
  rw [status, status, hsame]
  exact .done (Response.alike_refl _ _) hxy

/-- No route of the service makes a difference between requests that differ in their cookies. -/
theorem treatsAlike_routes : ∀ route ∈ routes, route.handler.TreatsAlike cookieName := by
  simp only [routes, List.forall_mem_cons, List.not_mem_nil, false_implies, implies_true, and_true]
  exact ⟨treatsAlike_login, treatsAlike_logout, treatsAlike_home, treatsAlike_sessionInfo,
    treatsAlike_status⟩

lemma treatsAlike_inside {further : List Route}
    (h : ∀ route ∈ further, route.handler.TreatsAlike cookieName) :
    (inside further).TreatsAlike cookieName := by
  apply Handler.TreatsAlike.answering
  apply Handler.treatsAlike_routed
  intro route hroute
  rcases List.mem_append.1 hroute with hroute | hroute
  · exact treatsAlike_routes route hroute
  · exact h route hroute

end Routes

/-! ### The service -/

variable {sv : Service} {further : List Route} {r q : Request} {x y : Exchange}

/-- Behind the redirection to HTTPS, requests go the same way that differ in their cookies. -/
lemma handled_alike (hfurther : ∀ route ∈ further, route.handler.TreatsAlike sv.config.cookieName)
    (hrq : r.SameBesideCookies q)
    (hlength : ((sv.config.presented? r).getD "").length =
      ((sv.config.presented? q).getD "").length) (hxy : x.Alike y)
    (hfate : (sv.config.fate r x).Same x.backend.store.deletionFault? (sv.config.fate q y)) :
    EndAlike (Response.Alike sv.config.cookieName)
      (((sv.config.around (inside further)).journaled sv.config.cookieName).contained r x)
      (((sv.config.around (inside further)).journaled sv.config.cookieName).contained q y) := by
  apply Handler.contained_alike hrq.url_eq
  apply Handler.journaled_alike hrq.url_eq hxy
  intro url
  apply SessionConfig.around_alike (treatsAlike_inside hfurther) hrq
    (hxy.noteRequest hrq.method hlength url)
  rwa [SessionConfig.fate_noteRequest, SessionConfig.fate_noteRequest, Exchange.backend_noteRequest]

/-- The log does not reveal the session cookie. Two requests that differ in their cookies alone are
written down in the same words, if their session cookies have values of the same length and meet the
same fate: both are missing, or rejected for the same reason, or the store fails in the same way to
look for their sessions, or finds none, or finds sessions with the same content, to forget which it
fails in the same way if it fails at all. The clock, the random bytes and the earlier log are the
same for both, and so are the faults of the store; it may hold different things, and further routes
may be of any kind that makes no difference between such requests, such as those that run scripts. -/
theorem logs_hide_cookie (sv : Service)
    (hfurther : ∀ route ∈ further, route.handler.TreatsAlike sv.config.cookieName)
    (hrq : r.SameBesideCookies q)
    (hlength : ((sv.config.presented? r).getD "").length =
      ((sv.config.presented? q).getD "").length) (hxy : x.Alike y)
    (hfate : (sv.config.fate r x).Same x.backend.store.deletionFault? (sv.config.fate q y)) :
    (sv.handler further r x).2.log = (sv.handler further q y).2.log := by
  have hend : EndAlike (Response.Alike sv.config.cookieName) (sv.handler further r x)
      (sv.handler further q y) := by
    have hhandled := handled_alike hfurther hrq hlength hxy hfate
    rw [handler]
    split_ifs
    · apply Handler.overHttps_alike hrq rfl hxy hhandled
      intro message
      exact handled_alike hfurther hrq hlength (hxy.note _ _ _) hfate
    · exact hhandled
  exact hend.log_eq

/-! ### Two clients of one user -/

open SessionConfig

/-- A session of Alice under the id of a token. -/
def ofAlice (token : String) : Session where
  id := sessionId token
  data := OrderedMap.empty.put "username" "\"alice\""

/-- The beginning of 1970 with two sessions of Alice in memory. -/
def holdingTwo : Exchange :=
  { atEpoch with
    backend := { store := .memory ((OrderedMap.empty.put (sessionId "mine")
      (ofAlice "mine").record).put (sessionId "your") (ofAlice "your").record) } }

/-- A request with the cookie of a token to the route that runs a script. -/
def runningWith (token : String) : Request := { carrying token with path := "/script" }

lemma presents_runningWith (token : String) : hourly.Presents (runningWith token) token := by
  obtain ⟨signed, hpresented, hverify⟩ := presents_carrying token
  refine ⟨signed, ?_, hverify⟩
  rw [presented?, Request.headersOf] at hpresented ⊢
  exact hpresented

lemma fate_runningWith {token : String} (hrecord : holdingTwo.backend.store.recordOf? none
    (sessionId token) = some (ofAlice token).record) :
    hourly.fate (runningWith token) holdingTwo = .led (some (ofAlice token)) := by
  have hguards : holdingTwo.Guards token (ofAlice token) := ⟨rfl, rfl, hrecord, nofun, nofun⟩
  exact fate_of_presents (presents_runningWith token) hguards.load

/-- Two sessions with the same data are given new ids and destroyed. -/
theorem logs_hide_cookie_script :
    let sv : Service := { config := hourly }
    let further := scriptRoute [.act .regenerate, .act .destroy]
    let mine := runningWith "mine"
    let your := runningWith "your"
    hourly.Presents mine "mine" ∧ hourly.Presents your "your" ∧ mine.SameBesideCookies your ∧
      ((hourly.presented? mine).getD "").length = ((hourly.presented? your).getD "").length ∧
      hourly.fate mine holdingTwo = .led (some (ofAlice "mine")) ∧
      hourly.fate your holdingTwo = .led (some (ofAlice "your")) ∧
      (sv.handler further mine holdingTwo).2.log = (sv.handler further your holdingTwo).2.log := by
  intro sv further mine your
  have hmine : hourly.Presents mine "mine" := presents_runningWith "mine"
  have hyour : hourly.Presents your "your" := presents_runningWith "your"
  have hsame (value value' : List Char) (path : String) :
      Request.SameBesideCookies { Request.ofJar hourly.cookieName (some value) with path }
        { Request.ofJar hourly.cookieName (some value') with path } :=
    ⟨rfl, rfl, rfl, rfl, rfl, rfl, rfl⟩
  have hlength : ((hourly.presented? mine).getD "").length =
      ((hourly.presented? your).getD "").length := by
    rw [length_of_presents hmine, length_of_presents hyour]
    rfl
  have hid : sessionId "mine" ≠ sessionId "your" := by decide +kernel
  have hled : hourly.fate mine holdingTwo = .led (some (ofAlice "mine")) := by
    apply fate_runningWith
    rw [holdingTwo, Store.recordOf?, OrderedMap.get?_put, if_neg hid, OrderedMap.get?_put,
      if_pos rfl]
  have hled' : hourly.fate your holdingTwo = .led (some (ofAlice "your")) := by
    apply fate_runningWith
    rw [holdingTwo, Store.recordOf?, OrderedMap.get?_put, if_pos rfl]
  have hfate : (hourly.fate mine holdingTwo).Same holdingTwo.backend.store.deletionFault?
      (hourly.fate your holdingTwo) := by
    have hcontent (token token' : String) : (ofAlice token).SameContent (ofAlice token') := by
      constructor <;> simp only [ofAlice]
    have hfault (id : String) : holdingTwo.backend.store.deletionFault? id = none := rfl
    rw [hled, hled']
    exact .found (hcontent _ _) ((hfault _).trans (hfault _).symm)
  have hfurther : ∀ route ∈ further, route.handler.TreatsAlike hourly.cookieName := by
    intro route hroute
    obtain rfl := List.mem_singleton.1 hroute
    exact Handler.treatsAlike_script hourly.cookieName [.act .regenerate, .act .destroy]
  exact ⟨hmine, hyour, hsame _ _ _, hlength, hled, hled',
    logs_hide_cookie sv hfurther (hsame _ _ _) hlength (.refl _) hfate⟩

end Service

end SessionCookies
