import SessionCookies.Proofs.Handler.Faults
import SessionCookies.Proofs.Http.Request
import SessionCookies.Service.App

/-!
# What is seen of a fault

Every request to the service that has a URL gets an answer, also when the handler or the handling of
its session ends in a fault; one without a URL, such as one whose query is no UTF-8, does not get so
far. All that the answer tells is whether the session of the request was lost
(`faults_are_anonymous`). The store is left as the handler left it, with one exception: when the
cookie turns out not to be writable, the session was stored or destroyed before. A service whose
cookie can be written never comes to that (`not_cannotWrite`).
-/

namespace SessionCookies

/-! ### Faults of the handling of sessions -/

lemma Timestamp.ofInstant?_eq_error {instant : Int} {fault : Fault}
    (h : ofInstant? instant = .error fault) : fault = .dateOutOfRange := by
  rw [ofInstant?] at h
  split at h
  · cases h
  · exact (Except.error.inj h).symm

/-- The faults of a cookie that cannot be written. -/
def Fault.IsOfCookie (fault : Fault) : Prop :=
  fault = .illegalCookieName ∨ fault = .notEncodable ∨ fault = .dateOutOfRange

namespace Cookie

variable {name value : String} {path domain : Option String} {sameSite : SameSite} {secure : Bool}
  {fault : Fault}

lemma isOfCookie_of_header {expires maxAge : List Char}
    (h : header name value path domain sameSite expires maxAge secure = .error fault) :
    fault.IsOfCookie := by
  rw [header] at h
  split_ifs at h
  · simp only at h
    split_ifs at h
    cases h
    exact .inr (.inl rfl)
  · cases h
    exact .inl rfl

lemma isOfCookie_of_build_header {ttl : Option Int} {now : Int}
    (h : (Attributes.build name value path domain sameSite ttl secure now).bind Attributes.header =
      .error fault) : fault.IsOfCookie := by
  rcases ttl with _ | micros
  · exact isOfCookie_of_header h
  · rcases ht : Timestamp.ofInstant? (now + micros) with fault' | t
    · simp only [Attributes.build, ht] at h
      obtain rfl : fault' = fault := Except.error.inj h
      exact .inr (.inr (Timestamp.ofInstant?_eq_error ht))
    · simp only [Attributes.build, ht] at h
      exact isOfCookie_of_header h

end Cookie

namespace SessionConfig

variable {c : SessionConfig} {r : Request} {x y z : Exchange} {fault : Fault} {inner : Handler}

/-- The one thing that keeps a request from being started is the calendar. -/
lemma eq_of_start_error (h : c.start r x = (.error fault, y)) : fault = .dateOutOfRange := by
  have hbegin {s : Session} {z : Exchange} (h : c.beginWith s z = (.error fault, y)) :
      fault = .dateOutOfRange := by
    rcases httl : c.ttl with _ | micros
    · simp only [beginWith, prolonged, httl] at h
      cases h
    · rcases ht : Timestamp.ofInstant? (z.world.now + micros) with fault' | t
      · simp only [beginWith, prolonged, httl, Session.expireIn, ht, Except.map] at h
        cases h
        exact Timestamp.ofInstant?_eq_error ht
      · simp only [beginWith, prolonged, httl, Session.expireIn, ht, Except.map] at h
        cases h
  rcases hfound : (c.sought r x).1 with _ | s
  · rw [start_of_sought_none hfound] at h
    exact hbegin h
  · rw [start_of_sought_some hfound] at h
    exact hbegin h

/-- The session of an exchange is to be stored or destroyed at the end of a request, and then its
cookie cannot be written. -/
def CannotWrite (c : SessionConfig) (r : Request) (z : Exchange) (fault : Fault) : Prop :=
  match c.ending r z.slot with
  | .kept s => ∃ secure token, r.isEncrypted = .ok secure ∧
      (z.backend.save s z.world.now).1 = .ok (some token) ∧
      c.tokenHeader secure token z.world.now = .error fault
  | .discarded _ => ∃ secure, r.isEncrypted = .ok secure ∧
      Cookie.clearing c.cookieName (some c.cookiePath) c.cookieDomain c.sameSite secure
        z.world.now = .error fault
  | _ => False

lemma CannotWrite.isOfCookie (h : c.CannotWrite r z fault) : fault.IsOfCookie := by
  rw [CannotWrite] at h
  split at h
  · obtain ⟨secure, token, -, -, hheader⟩ := h
    exact Cookie.isOfCookie_of_build_header hheader
  · obtain ⟨secure, -, hheader⟩ := h
    exact Cookie.isOfCookie_of_header hheader
  · cases h

/-- A service whose cookie can be written writes it, if the handler left no cookie value of its own
making. -/
theorem not_cannotWrite (hc : c.IsWritable) (hdates : c.HasDates z.world.now) (hz : z.IsDrawn) :
    ¬ c.CannotWrite r z fault := by
  intro h
  rw [CannotWrite] at h
  split at h
  · next s hending =>
    obtain ⟨secure, token, -, hsaved, hheader⟩ := h
    have hslot : z.slot.session = some s := (of_ending (.inr hending)).1
    obtain ⟨bytes, rfl⟩ := Store.isText_of_save (hz s hslot) (Backend.save_ok hsaved).1
    obtain ⟨header, hwritten⟩ :=
      tokenHeader_of_isWritable hc hdates secure (Base64.isLatin_text bytes)
    cases hwritten.symm.trans hheader
  · obtain ⟨secure, -, hheader⟩ := h
    obtain ⟨header, hwritten⟩ := clearing_of_isWritable hc secure z.world.now
    cases hwritten.symm.trans hheader
  · cases h

lemma finalAnswer_eq_error {a : Response}
    (h : c.finalAnswer r a z (c.ending r z.slot) = .error fault) :
    (fault = .sessionLost ∨ r.isEncrypted = .error fault) ∧
        finalBackend z (c.ending r z.slot) = z.backend ∨
      c.CannotWrite r z fault := by
  rw [CannotWrite]
  rcases hending : c.ending r z.slot with _ | _ | fault' | s | s | _ <;> rw [hending] at h
  · cases h
  · cases h
    exact .inl ⟨.inl rfl, rfl⟩
  · cases h
    exact .inl ⟨.inr (isEncrypted_of_spoilt hending), rfl⟩
  · right
    obtain ⟨-, secure, hencrypted⟩ := of_ending (.inl hending)
    rw [finalAnswer_discarded hencrypted] at h
    rcases hheader : Cookie.clearing c.cookieName (some c.cookiePath) c.cookieDomain c.sameSite
      secure z.world.now with fault' | header
    · rw [hheader] at h
      exact ⟨secure, hencrypted, hheader.trans (congrArg Except.error (Except.error.inj h))⟩
    · rw [hheader] at h
      cases h
  · right
    obtain ⟨-, secure, hencrypted⟩ := of_ending (.inr hending)
    rw [finalAnswer_kept hencrypted] at h
    rcases hsaved : (z.backend.save s z.world.now).1 with fault' | (_ | token)
    · simp only [hsaved] at h
      cases h
    · simp only [hsaved] at h
      cases h
    · rcases hheader : c.tokenHeader secure token z.world.now with fault' | header
      · simp only [hsaved, answerWith, Except.toOption, Option.join_some, hheader] at h
        rw [show fault' = fault from Except.error.inj h] at hheader
        exact ⟨secure, token, hencrypted, hsaved, hheader⟩
      · simp only [hsaved, answerWith, Except.toOption, Option.join_some, hheader] at h
        cases h
  · cases h

/-- Where the fault of a request comes from: from its start, from its handler, from a session that
was lost, from a URL that cannot be read, or from a cookie that cannot be written. But for the last,
the store is left as it was then. -/
lemma around_eq_error (h : (c.around inner r x).1 = .error fault) :
    fault = .dateOutOfRange ∧ (c.start r x).1 = .error fault ∧
        (c.around inner r x).2.backend = (c.start r x).2.backend ∨
      (∃ s, (c.start r x).1 = .ok s) ∧
        (((inner r (c.start r x).2).1 = .error fault ∨ fault = .sessionLost ∨
              r.isEncrypted = .error fault) ∧
            (c.around inner r x).2.backend = (inner r (c.start r x).2).2.backend ∨
          c.CannotWrite r (inner r (c.start r x).2).2 fault) := by
  rcases hstart : c.start r x with ⟨fault' | s, y⟩
  · have haround : c.around inner r x = (.error fault', y) := by simp only [around, hstart]
    rw [haround] at h ⊢
    obtain rfl : fault' = fault := Except.error.inj h
    exact .inl ⟨eq_of_start_error hstart, rfl, rfl⟩
  · refine .inr ⟨⟨s, rfl⟩, ?_⟩
    rcases hinner : (inner r y).1 with fault' | a
    · rw [around_of_error inner hstart hinner] at h ⊢
      exact .inl ⟨.inl h, rfl⟩
    · obtain ⟨log, haround⟩ := around_of_ok inner hstart hinner
      rw [haround] at h ⊢
      obtain ⟨hfault, hbackend⟩ | hcookie := finalAnswer_eq_error h
      · exact .inl ⟨.inr hfault, hbackend⟩
      · exact .inr hcookie

end SessionConfig

/-! ### The service -/

/-- The answer to a fault, which depends on whether it says that the session was lost. -/
def faultResponse (lost : Bool) : Response :=
  if lost then sessionLostResponse else unexpectedFaultResponse

lemma faultResponse_eq (lost : Bool) :
    (faultResponse lost).status = 500 ∧ (faultResponse lost).cookies = [] := by
  cases lost <;> exact ⟨rfl, rfl⟩

namespace Exchange

@[simp] lemma backend_noteRequest (x : Exchange) (cookieName : String) (r : Request)
    (url : String) : (x.noteRequest cookieName r url).backend = x.backend := by
  simp only [noteRequest]
  split_ifs <;> rfl

@[simp] lemma backend_noteFault (x : Exchange) (fault : Fault) :
    (x.noteFault fault).backend = x.backend := by
  rw [noteFault.eq_def]
  split <;> rfl

end Exchange

namespace Handler

lemma httpStatus?_of_answering {inner : Handler} {r : Request} {x : Exchange} {fault : Fault}
    (h : (inner.answering r x).1 = .error fault) : fault.httpStatus? = none := by
  rw [answering] at h
  rcases hinner : inner r x with ⟨fault' | a, y⟩
  · rw [hinner] at h
    simp only at h
    rcases hstatus : fault'.httpStatus? with _ | status
    · rw [hstatus] at h
      rwa [← show fault' = fault from Except.error.inj h]
    · rw [hstatus] at h
      cases h
  · rw [hinner] at h
    cases h

section Journaled

variable {inner : Handler} {cookieName : String} {r : Request} {x : Exchange} {url : String}

/-- A fault that stands for no answer is answered anonymously, and the store is left alone. -/
lemma contained_journaled_of_error {fault : Fault} (hurl : r.url = .ok url)
    (h : (inner r (x.noteRequest cookieName r url)).1 = .error fault)
    (hhttp : fault.isHttp = false) :
    ((inner.journaled cookieName).contained r x).1 = .ok (faultResponse fault.isSessionInvariant) ∧
      ((inner.journaled cookieName).contained r x).2.backend =
        (inner r (x.noteRequest cookieName r url)).2.backend := by
  rcases hinner : inner r (x.noteRequest cookieName r url) with ⟨result, y⟩
  rw [hinner] at h
  obtain rfl : result = .error fault := h
  simp only [contained, journaled, hurl, hinner, hhttp, faultResponse]
  cases fault.isSessionInvariant <;> exact ⟨rfl, Exchange.backend_noteFault y fault⟩

lemma contained_journaled_of_ok {a : Response} (hurl : r.url = .ok url)
    (h : (inner r (x.noteRequest cookieName r url)).1 = .ok a) :
    ((inner.journaled cookieName).contained r x).1 = .ok a := by
  rcases hinner : inner r (x.noteRequest cookieName r url) with ⟨result, y⟩
  rw [hinner] at h
  obtain rfl : result = .ok a := h
  simp only [contained, journaled, hurl, hinner]

/-- A request without a URL comes to nothing. -/
lemma contained_journaled_of_unreadable {fault : Fault} (hurl : r.url = .error fault) :
    (inner.journaled cookieName).contained r x = (.error fault, x) := by
  simp only [contained, journaled, hurl]
  split_ifs <;> rfl

end Journaled

end Handler

lemma Fault.isHttp_of_httpStatus? {fault : Fault} (h : fault.httpStatus? = none) :
    fault.isHttp = false := by
  cases fault with
  | raised kind text => cases kind <;> first | rfl | cases h
  | _ => rfl

lemma Fault.IsOfCookie.isHttp {fault : Fault} (h : fault.IsOfCookie) : fault.isHttp = false := by
  obtain rfl | rfl | rfl := h <;> rfl

namespace Service

/-- The handlers inside the handling of sessions: the routes of the service and further ones, and
what the framework makes of their faults. -/
def inside (further : List Route) : Handler := .answering (.routed (routes ++ further))

/-- What the handler of a request with a URL and the handling of its session come to. -/
def handled (sv : Service) (further : List Route) (r : Request) (url : String) (x : Exchange) :
    Except Fault Response × Exchange :=
  sv.config.around (inside further) r (x.noteRequest sv.config.cookieName r url)

variable {sv : Service} {further : List Route} {r : Request} {url : String} {x : Exchange}
  {fault : Fault}

lemma isHttp_of_handled (h : (sv.handled further r url x).1 = .error fault) :
    fault.isHttp = false := by
  obtain ⟨rfl, -⟩ | ⟨-, ⟨hhandler | rfl | hencrypted, -⟩ | hcookie⟩ :=
    SessionConfig.around_eq_error h
  · rfl
  · exact Fault.isHttp_of_httpStatus? (Handler.httpStatus?_of_answering hhandler)
  · rfl
  · obtain rfl | rfl | rfl := Request.eq_of_isEncrypted_error hencrypted <;> rfl
  · exact hcookie.isOfCookie.isHttp

lemma handler_eq (hplain : sv.forceHttps = false) (further : List Route) :
    sv.handler further =
      ((sv.config.around (inside further)).journaled sv.config.cookieName).contained := by
  simp only [handler, hplain]
  rfl

lemma keepsDrawn_inside (h : ∀ route ∈ further, route.handler.KeepsDrawn) :
    (inside further).KeepsDrawn := by
  apply Handler.KeepsDrawn.answering
  apply Handler.keepsDrawn_routed
  intro route hroute
  rcases List.mem_append.1 hroute with hroute | hroute
  · exact keepsDrawn_routes route hroute
  · exact h route hroute

/-- Before the handlers run the store is asked for a session at most. -/
lemma calls_start (c : SessionConfig) (r : Request) (x : Exchange) :
    ∃ looked, (c.start r x).2.backend.calls = x.backend.calls ++ looked ∧
      ∀ call ∈ looked, call = .load := by
  rw [SessionConfig.backend_start]
  obtain ⟨token, -, log, hsought⟩ | ⟨-, log, hsought⟩ := c.sought_cases r x
  · rw [hsought]
    exact ⟨[.load], Backend.calls_load _ _ _, by simp⟩
  · rw [hsought]
    exact ⟨[], (List.append_nil _).symm, by simp⟩

/-- Every request with a URL to a service that does not insist on HTTPS gets an answer, whatever its
handlers are and whatever state it is in; without a URL it does not get to them. If the handlers or
the handling of the session end in a fault, the status is 500, no cookie is set or cleared, and the
answer is the same as to any other fault, of any handler and in any state, that tells as much about
the session having been lost. The store is asked for the session of the request at most, and is left
as the handlers left it, if they ran. The only exception is a fault of writing the cookie of a
session that was just stored or destroyed, which does not happen if the cookie is writable, the
calendar goes on and no handler makes cookie values of its own. -/
theorem faults_are_anonymous (hplain : sv.forceHttps = false) (further : List Route) (r : Request)
    (x : Exchange) :
    (∀ fault, r.url = .error fault → sv.handler further r x = (.error fault, x)) ∧
    ∀ url, r.url = .ok url →
    (∃ a, (sv.handler further r x).1 = .ok a) ∧
    ∀ fault, (sv.handled further r url x).1 = .error fault →
      ((sv.handler further r x).1 = .ok (faultResponse fault.isSessionInvariant) ∧
        (faultResponse fault.isSessionInvariant).status = 500 ∧
        (faultResponse fault.isSessionInvariant).cookies = []) ∧
      (∀ (other : Service) (further' : List Route) (x' : Exchange) (fault' : Fault),
        other.forceHttps = false → (other.handled further' r url x').1 = .error fault' →
        fault'.isSessionInvariant = fault.isSessionInvariant →
        (other.handler further' r x').1 = (sv.handler further r x).1) ∧
      let begun := sv.config.start r (x.noteRequest sv.config.cookieName r url)
      let left := (inside further r begun.2).2
      (∃ looked, begun.2.backend.calls = x.backend.calls ++ looked ∧
        ∀ call ∈ looked, call = .load) ∧
      (begun.1 = .error fault ∧ (sv.handler further r x).2.backend = begun.2.backend ∨
        (∃ s, begun.1 = .ok s) ∧
          ((sv.handler further r x).2.backend = left.backend ∨
            sv.config.CannotWrite r left fault ∧
              ¬ (sv.config.IsWritable ∧ sv.config.HasDates left.world.now ∧
                ∀ route ∈ further, route.handler.KeepsDrawn))) := by
  refine ⟨fun fault hurl => ?_, fun url hurl => ?_⟩
  · rw [handler_eq hplain]
    exact Handler.contained_journaled_of_unreadable hurl
  have answered {other : Service} {further' : List Route} {x' : Exchange} {fault' : Fault}
      (hplain' : other.forceHttps = false)
      (h : (other.handled further' r url x').1 = .error fault') :
      (other.handler further' r x').1 = .ok (faultResponse fault'.isSessionInvariant) ∧
        (other.handler further' r x').2.backend = (other.handled further' r url x').2.backend := by
    rw [handler_eq hplain']
    exact Handler.contained_journaled_of_error hurl h (isHttp_of_handled h)
  refine ⟨?_, fun fault h => ⟨?_, ?_, ?_, ?_⟩⟩
  · rcases h : (sv.handled further r url x).1 with fault | a
    · exact ⟨_, (answered hplain h).1⟩
    · rw [handler_eq hplain]
      exact ⟨a, Handler.contained_journaled_of_ok hurl h⟩
  · exact ⟨(answered hplain h).1, faultResponse_eq _⟩
  · intro other further' x' fault' hplain' h' hsame
    rw [(answered hplain' h').1, (answered hplain h).1, hsame]
  · have hcalls := calls_start sv.config r (x.noteRequest sv.config.cookieName r url)
    rwa [Exchange.backend_noteRequest] at hcalls
  · rw [(answered hplain h).2]
    obtain ⟨-, hstart, hbackend⟩ | ⟨⟨s, hstart⟩, ⟨-, hbackend⟩ | hcookie⟩ :=
      SessionConfig.around_eq_error h
    · exact .inl ⟨hstart, hbackend⟩
    · exact .inr ⟨⟨s, hstart⟩, .inl hbackend⟩
    · refine .inr ⟨⟨s, hstart⟩, .inr ⟨hcookie, ?_⟩⟩
      rintro ⟨hc, hdates, hfurther⟩
      have hdrawn := (SessionConfig.isMatched_start (Prod.ext hstart rfl)).isDrawn
      exact SessionConfig.not_cannotWrite hc hdates (keepsDrawn_inside hfurther r _ hdrawn) hcookie

/-- A route that runs a script. -/
def scriptRoute (steps : List Step) : List Route := [⟨["GET"], "/script", .script steps⟩]

/-- A script that takes the session away and one that raises a fault of its own which says as much
are answered alike. -/
theorem faults_are_anonymous_lost :
    let sv : Service := { config := SessionConfig.hourly }
    let fault := Fault.raised .sessionInvariant "mine"
    let r : Request := { path := "/script" }
    let url := "http://testserver/script"
    sv.forceHttps = false ∧ r.url = .ok url ∧
      (sv.handled (scriptRoute [.take]) r url SessionConfig.atEpoch).1 = .error .sessionLost ∧
      (sv.handler (scriptRoute [.take]) r SessionConfig.atEpoch).1 = .ok sessionLostResponse ∧
      (sv.handler (scriptRoute [.raise fault]) r SessionConfig.atEpoch).1 =
        .ok sessionLostResponse := by
  intro sv fault r url
  have hurl : r.url = .ok url := by decide +kernel
  have htaken : (sv.handled (scriptRoute [.take]) r url SessionConfig.atEpoch).1 =
      .error .sessionLost := by decide +kernel
  have hraised : (sv.handled (scriptRoute [.raise fault]) r url SessionConfig.atEpoch).1 =
      .error fault := by decide +kernel
  obtain ⟨-, hfaults⟩ := (faults_are_anonymous (show sv.forceHttps = false from rfl)
    (scriptRoute [.take]) r SessionConfig.atEpoch).2 url hurl
  obtain ⟨⟨hanswer, -⟩, htwo, -⟩ := hfaults _ htaken
  refine ⟨rfl, hurl, htaken, hanswer, ?_⟩
  rw [htwo sv _ _ _ rfl hraised rfl, hanswer]
  rfl

/-- A session whose cookie has a name that no cookie may have is stored, and then its cookie cannot
be written. -/
theorem stored_before_fault :
    let sv : Service := { config := { SessionConfig.hourly with cookieName := "path" } }
    let further := scriptRoute [.act (.insert "seen" .null)]
    let r : Request := { path := "/script" }
    let url := "http://testserver/script"
    r.url = .ok url ∧
      (sv.handled further r url SessionConfig.atEpoch).1 = .error .illegalCookieName ∧
      (sv.handler further r SessionConfig.atEpoch).1 = .ok unexpectedFaultResponse ∧
      (sv.handler further r SessionConfig.atEpoch).2.backend.calls = [.store] ∧
      (sv.handler further r SessionConfig.atEpoch).2.backend.store.held.length = 1 := by
  decide +kernel

end Service

end SessionCookies
