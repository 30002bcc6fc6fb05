import SessionCookies.Proofs.Handler.Course
import SessionCookies.Service.Router

/-!
# The protocol of a request

Which calls a request makes on its store, and when it sets or clears the session cookie. The store
is asked for a session before the handler runs, if the request carries a token. After the handler
it gets at most one call, which depends on what the handler came to and on what lies in the slot
then (`Closes`). None of this depends on whether the calls succeed, except that a cookie is set only
for a token that the store gave. A request whose URL cannot be read ends before its session is
destroyed or kept, and its handler's answer is lost (`protocol_of_request_unreadable`).
-/

namespace SessionCookies

/-! ### Calls -/

namespace Backend

lemma calls_load (b : Backend) (token : String) (now : Int) :
    (b.load token now).2.calls = b.calls ++ [.load] := by
  simp only [load, record]
  cases b.failing .load <;> rfl

lemma calls_save (b : Backend) (s : Session) (now : Int) :
    (b.save s now).2.2.calls = b.calls ++ [.store] := by
  simp only [save, record]
  cases b.failing .store <;> rfl

lemma calls_destroy (b : Backend) (s : Session) :
    (b.destroy s).2.calls = b.calls ++ [.destroy] := by
  simp only [destroy, record]
  cases b.failing .destroy <;> rfl

end Backend

/-! ### Tokens that a store gives -/

/-- The token that a store gives for a session is the text of bytes. -/
lemma Store.isText_of_save {a : Store} {s : Session} {now : Int} {token : String}
    (hs : s.IsDrawn) (h : (a.save s now).1 = .ok (some token)) :
    ∃ bytes, token = Base64.text bytes := by
  cases a with
  | memory records =>
    have hvalue : s.cookieValue = some token := Except.ok.inj h
    exact hs token hvalue
  | cookie =>
    have htoken : some (CookieToken.ofSession s) = some token := Except.ok.inj h
    exact ⟨Utf8.bytes s.record, (Option.some.inj htoken).symm⟩
  | redis keyPrefix server =>
    obtain ⟨-, hvalue, -⟩ | ⟨-, hnone, -⟩ := RedisServer.saveSession_ok h
    · exact hs token hvalue.symm
    · cases hnone
  | inert => cases h

namespace SessionConfig

variable {c : SessionConfig} {r : Request} {x y z : Exchange} {s : Session} {steps : List Step}
  {answer : Except Fault Unit → Except Fault Response}

lemma isMatched_start (h : c.start r x = (.ok s, y)) : y.IsMatched := by
  obtain ⟨hslot, -, hsession⟩ := start_cases h
  have hmatched : s.IsMatched := by
    obtain ⟨found, hfound, hs, -⟩ | ⟨-, hs, -⟩ := hsession
    · have hvalue : s.cookieValue = found.cookieValue := by rw [hs]
      apply Session.isMatched_of_cookieValue_eq_none
      rw [hvalue]
      obtain ⟨token, -, hload⟩ := load_of_sought hfound
      obtain ⟨record, -, hread⟩ := Option.bind_eq_some_iff.1 (Backend.ofRecord?_of_load hload).2
      exact Session.cookieValue_of_ofRecord? hread
    · rw [hs]
      exact (Session.isMatched_fresh x.world).congr rfl rfl
  intro t ht
  rw [hslot] at ht
  cases ht
  exact hmatched

/-! ### How a request is closed -/

/-- How a request is closed, given what its handler came to and the exchange that it left: what the
request comes to, and the calls on the store. -/
inductive Closes (c : SessionConfig) (r : Request) (z : Exchange) :
    Except Fault Response → Except Fault Response → List StoreCall → Prop
  /-- The handler failed. -/
  | failed (fault : Fault) : c.Closes r z (.error fault) (.error fault) []
  /-- The handler gave up keeping the session. -/
  | ceased (a : Response) (hceased : z.slot.ceased = true) : c.Closes r z (.ok a) (.ok a) []
  /-- There is no session in the slot. -/
  | lost (a : Response) (hceased : z.slot.ceased = false) (hsession : z.slot.session = none) :
      c.Closes r z (.ok a) (.error .sessionLost) []
  /-- The URL of the request cannot be read: nothing is done with the session. -/
  | unreadable (a : Response) {s : Session} {fault : Fault} (hceased : z.slot.ceased = false)
      (hsession : z.slot.session = some s) (hencrypted : r.isEncrypted = .error fault) :
      c.Closes r z (.ok a) (.error fault) []
  /-- The session was destroyed: the cookie is cleared. -/
  | destroyed (a : Response) {s : Session} {secure : Bool} {header : String}
      (hceased : z.slot.ceased = false) (hsession : z.slot.session = some s)
      (hencrypted : r.isEncrypted = .ok secure) (hdestroyed : s.destroyed = true)
      (hheader : Cookie.clearing c.cookieName (some c.cookiePath) c.cookieDomain c.sameSite secure
        z.world.now = .ok header) :
      c.Closes r z (.ok a) (.ok (a.addCookie header)) [.destroy]
  /-- The session is to be kept, and the store gives a token, which the cookie is set to. -/
  | given (a : Response) {s : Session} {secure : Bool} {token header : String}
      (hceased : z.slot.ceased = false) (hsession : z.slot.session = some s)
      (hencrypted : r.isEncrypted = .ok secure) (hdestroyed : s.destroyed = false)
      (hkeep : c.saveUnchanged = true ∨ s.changed = true)
      (htoken : (z.backend.save s z.world.now).1 = .ok (some token))
      (hheader : c.tokenHeader secure token z.world.now = .ok header) :
      c.Closes r z (.ok a) (.ok (a.addCookie header)) [.store]
  /-- The session is to be kept, and the store fails or gives no token. -/
  | kept (a : Response) {s : Session} {secure : Bool} (hceased : z.slot.ceased = false)
      (hsession : z.slot.session = some s) (hencrypted : r.isEncrypted = .ok secure)
      (hdestroyed : s.destroyed = false) (hkeep : c.saveUnchanged = true ∨ s.changed = true)
      (htoken : ∀ token, (z.backend.save s z.world.now).1 ≠ .ok (some token)) :
      c.Closes r z (.ok a) (.ok a) [.store]
  /-- The session did not change and only sessions that did are kept. -/
  | leftAlone (a : Response) {s : Session} {secure : Bool} (hceased : z.slot.ceased = false)
      (hsession : z.slot.session = some s) (hencrypted : r.isEncrypted = .ok secure)
      (hdestroyed : s.destroyed = false) (hunsaved : c.saveUnchanged = false)
      (hunchanged : s.changed = false) :
      c.Closes r z (.ok a) (.ok a) []

lemma closes_kept {secure : Bool} (hc : c.IsWritable) (hdates : c.HasDates z.world.now)
    (hs : s.IsDrawn) (a : Response) (hceased : z.slot.ceased = false)
    (hsession : z.slot.session = some s) (hencrypted : r.isEncrypted = .ok secure)
    (hdestroyed : s.destroyed = false) (hkeep : c.saveUnchanged = true ∨ s.changed = true) :
    c.Closes r z (.ok a) (c.finalAnswer r a z (.kept s)) [.store] := by
  rw [finalAnswer_kept hencrypted]
  rcases hsaved : (z.backend.save s z.world.now).1 with fault | (_ | token)
  · exact .kept a hceased hsession hencrypted hdestroyed hkeep (by simp [hsaved])
  · exact .kept a hceased hsession hencrypted hdestroyed hkeep (by simp [hsaved])
  · obtain ⟨bytes, rfl⟩ := Store.isText_of_save hs (Backend.save_ok hsaved).1
    obtain ⟨header, hheader⟩ :=
      tokenHeader_of_isWritable hc hdates secure (Base64.isLatin_text bytes)
    have hanswer : c.answerWith secure a z.world.now (some (Base64.text bytes)) =
        .ok (a.addCookie header) := by
      rw [answerWith, hheader]
      rfl
    rw [show (Except.ok (some (Base64.text bytes)) : Except Fault (Option String)).toOption.join =
      some (Base64.text bytes) from rfl, hanswer]
    exact .given a hceased hsession hencrypted hdestroyed hkeep hsaved hheader

/-- A request is closed as its ending says. -/
lemma closes_ending (hc : c.IsWritable) (hdates : c.HasDates z.world.now) (hz : z.IsDrawn)
    (a : Response) :
    ∃ calls, (finalBackend z (c.ending r z.slot)).calls = z.backend.calls ++ calls ∧
      c.Closes r z (.ok a) (c.finalAnswer r a z (c.ending r z.slot)) calls := by
  rcases hslot : z.slot with ⟨session, _ | _⟩
  · have hceased : z.slot.ceased = false := by rw [hslot]
    rcases session with _ | s
    · exact ⟨[], (List.append_nil _).symm, .lost a hceased (by rw [hslot])⟩
    · have hsession : z.slot.session = some s := by rw [hslot]
      rcases hencrypted : r.isEncrypted with fault | secure
      · rw [ending_of_unreadable hencrypted]
        exact ⟨[], (List.append_nil _).symm, .unreadable a hceased hsession hencrypted⟩
      rcases hdestroyed : s.destroyed with _ | _
      · rcases hkeep : c.saveUnchanged || s.changed with _ | _
        · obtain ⟨hunsaved, hunchanged⟩ := Bool.or_eq_false_iff.1 hkeep
          rw [ending_of_leftAlone hencrypted hdestroyed hkeep]
          exact ⟨[], (List.append_nil _).symm,
            .leftAlone a hceased hsession hencrypted hdestroyed hunsaved hunchanged⟩
        · rw [ending_of_kept hencrypted hdestroyed hkeep]
          exact ⟨[.store], Backend.calls_save _ _ _, closes_kept hc hdates (hz s hsession) a hceased
            hsession hencrypted hdestroyed (Bool.or_eq_true_iff.1 hkeep)⟩
      · obtain ⟨header, hheader⟩ := clearing_of_isWritable hc secure z.world.now
        rw [ending_of_destroyed c hencrypted hdestroyed, finalAnswer_discarded hencrypted, hheader]
        exact ⟨[.destroy], Backend.calls_destroy _ _,
          .destroyed a hceased hsession hencrypted hdestroyed hheader⟩
  · have hceased : z.slot.ceased = true := by rw [hslot]
    exact ⟨[], (List.append_nil _).symm, .ceased a hceased⟩

/-- A request whose handler leaves in the slot no cookie value of its own making is closed. -/
lemma closes_of_start (inner : Handler) (hc : c.IsWritable) (hstart : c.start r x = (.ok s, y))
    (hdates : c.HasDates (inner r y).2.world.now) (hdrawn : (inner r y).2.IsDrawn) :
    ∃ closing, (c.around inner r x).2.backend.calls = (inner r y).2.backend.calls ++ closing ∧
      c.Closes r (inner r y).2 (inner r y).1 (c.around inner r x).1 closing := by
  cases hinner : (inner r y).1 with
  | error fault =>
    rw [around_of_error inner hstart hinner]
    exact ⟨[], (List.append_nil _).symm, .failed fault⟩
  | ok a =>
    obtain ⟨log, haround⟩ := around_of_ok inner hstart hinner
    obtain ⟨closing, hclosing, hcloses⟩ := closes_ending (r := r) hc hdates hdrawn a
    rw [haround]
    exact ⟨closing, hclosing, hcloses⟩

lemma closes_around (hc : c.IsWritable) (hstart : c.start r x = (.ok s, y))
    (hdates : c.HasDates (runSteps y steps).2.world.now)
    (answer : Except Fault Unit → Except Fault Response) :
    ∃ closing, (c.around (.scripted steps answer) r x).2.backend.calls =
        y.backend.calls ++ closing ∧
      c.Closes r (runSteps y steps).2 (answer (runSteps y steps).1)
        (c.around (.scripted steps answer) r x).1 closing := by
  have hdrawn := (isMatched_runSteps steps (isMatched_start hstart)).isDrawn
  obtain ⟨closing, hclosing, hcloses⟩ :=
    closes_of_start (.scripted steps answer) hc hstart hdates hdrawn
  refine ⟨closing, ?_, hcloses⟩
  rw [hclosing, Handler.scripted, backend_runSteps]

/-! ### The protocol -/

/-- What the framework makes of what a handler comes to: a fault that stands for an answer is made
one. -/
def answered : Except Fault Response → Except Fault Response
  | .ok a => .ok a
  | .error fault =>
    match fault.httpStatus? with
    | some status => .ok (httpFaultResponse status fault.message)
    | none => .error fault

lemma answering_scripted (steps : List Step)
    (answer : Except Fault Unit → Except Fault Response) :
    Handler.answering (.scripted steps answer) =
      .scripted steps fun done => answered (answer done) := by
  funext r x
  simp only [Handler.answering, Handler.scripted]
  rcases answer (runSteps x steps).1 with fault | a
  · simp only [answered]
    cases fault.httpStatus? <;> rfl
  · rfl

/-- The calls on the store that open a request. -/
def Opens (c : SessionConfig) (r : Request) (calls : List StoreCall) : Prop :=
  (∃ token, c.Presents r token) ∧ calls = [.load] ∨
    (∀ token, ¬ c.Presents r token) ∧ calls = []

lemma opens_start (h : c.start r x = (.ok s, y)) :
    ∃ calls, y.backend.calls = x.backend.calls ++ calls ∧ c.Opens r calls := by
  obtain ⟨-, hbackend, -⟩ := start_cases h
  rw [hbackend]
  obtain ⟨token, hpresents, log, hsought⟩ | ⟨hnot, log, hsought⟩ := c.sought_cases r x
  · rw [hsought]
    exact ⟨[.load], Backend.calls_load _ _ _, .inl ⟨⟨token, hpresents⟩, rfl⟩⟩
  · rw [hsought]
    exact ⟨[], (List.append_nil _).symm, .inr ⟨hnot, rfl⟩⟩

/-- A request to a service that can write its cookie starts. The store is asked for a session before
the handler runs, if the request carries a token, and when the handler has run the request is
closed. -/
theorem protocol_of_request (hc : c.IsWritable) (hdates : c.HasDates x.world.now)
    (hdates' : ∀ s y, c.start r x = (.ok s, y) → c.HasDates (runSteps y steps).2.world.now) :
    ∃ s y opening closing, c.start r x = (.ok s, y) ∧
      y.backend.calls = x.backend.calls ++ opening ∧ c.Opens r opening ∧
      (c.around (.answering (.scripted steps answer)) r x).2.backend.calls =
        y.backend.calls ++ closing ∧
      c.Closes r (runSteps y steps).2 (answered (answer (runSteps y steps).1))
        (c.around (.answering (.scripted steps answer)) r x).1 closing := by
  obtain ⟨s, y, hstart⟩ := start_of_hasDates (r := r) hdates
  obtain ⟨opening, hopening, hopens⟩ := opens_start hstart
  rw [answering_scripted]
  obtain ⟨closing, hclosing, hcloses⟩ := closes_around hc hstart (hdates' s y hstart)
    fun done => answered (answer done)
  exact ⟨s, y, opening, closing, hstart, hopening, hopens, hclosing, hcloses⟩

lemma Closes.of_destroyed {a : Response} {result : Except Fault Response} {secure : Bool}
    {calls : List StoreCall} (h : c.Closes r z (.ok a) result calls)
    (hceased : z.slot.ceased = false) (hsession : z.slot.session = some s)
    (hencrypted : r.isEncrypted = .ok secure) (hdestroyed : s.destroyed = true) :
    calls = [.destroy] ∧ ∃ header, result = .ok (a.addCookie header) ∧
      Cookie.clearing c.cookieName (some c.cookiePath) c.cookieDomain c.sameSite secure
        z.world.now = .ok header := by
  cases h with
  | ceased _ h => cases hceased.symm.trans h
  | lost _ _ h => cases hsession.symm.trans h
  | unreadable _ _ _ h => cases hencrypted.symm.trans h
  | destroyed _ _ _ h _ hheader =>
    cases hencrypted.symm.trans h
    exact ⟨rfl, _, rfl, hheader⟩
  | given _ _ h _ hkept | kept _ _ h _ hkept | leftAlone _ _ h _ hkept =>
    cases hsession.symm.trans h
    cases hdestroyed.symm.trans hkept

/-- The script that leaves takes no time. -/
lemma hasDates_leaving (h : hourly.HasDates x.world.now) (r : Request) (s : Session) (y : Exchange)
    (hstart : hourly.start r x = (.ok s, y)) :
    hourly.HasDates (runSteps y leaving).2.world.now := by
  rw [(runSteps_leaving (start_cases hstart).1).2, (start_ok hstart).2.1]
  exact h

lemma hasDates_atEpoch : hourly.HasDates atEpoch.world.now := hasDates_hourly le_rfl (by decide)

/-- A request without a cookie whose handler changes the session and destroys it makes no call but
the one that destroys it. -/
theorem protocol_of_request_leaving :
    hourly.IsWritable ∧ hourly.HasDates atEpoch.world.now ∧
      (∀ s y, hourly.start {} atEpoch = (.ok s, y) →
        hourly.HasDates (runSteps y leaving).2.world.now) ∧
      (hourly.around (.answering (.scripted leaving answerDone)) {} atEpoch).2.backend.calls =
        [.destroy] ∧
      ∃ header, (hourly.around (.answering (.scripted leaving answerDone)) {} atEpoch).1 =
        .ok ((Response.plain "done").addCookie header) := by
  have hdates := hasDates_leaving hasDates_atEpoch {}
  refine ⟨isWritable_hourly, hasDates_atEpoch, hdates, ?_⟩
  obtain ⟨s, y, opening, closing, hstart, hopening, hopens, hclosing, hcloses⟩ :=
    @protocol_of_request hourly {} atEpoch leaving answerDone isWritable_hourly hasDates_atEpoch
      hdates
  have hslot := (runSteps_leaving (start_cases hstart).1).1
  obtain ⟨rfl, header, hresult, -⟩ :=
    Closes.of_destroyed hcloses (congrArg Slot.ceased hslot) (congrArg Slot.session hslot)
      isEncrypted_empty rfl
  refine ⟨?_, header, hresult⟩
  obtain ⟨⟨token, signed, hpresented, -⟩, -⟩ | ⟨-, rfl⟩ := hopens
  · cases hpresented
  · rw [hclosing, hopening]
    rfl

/-! ### A request whose URL cannot be read -/

/-- A request that names no host, for a path that begins like an authority with a bracket that is
never closed. -/
def astray : Request := { path := "//[", server := none }

lemma isEncrypted_astray : astray.isEncrypted = .error .malformedUrl := rfl

lemma around_astray (inner : Handler) {a : Response} {t : Session}
    (hstart : hourly.start astray x = (.ok s, y)) (hinner : (inner astray y).1 = .ok a)
    (hslot : (inner astray y).2.slot = ⟨some t, false⟩) :
    (hourly.around inner astray x).1 = .error .malformedUrl ∧
      (hourly.around inner astray x).2.backend = (inner astray y).2.backend := by
  obtain ⟨log, haround⟩ := around_of_ok inner hstart hinner
  rw [haround, hslot, ending_of_unreadable isEncrypted_astray]
  exact ⟨rfl, rfl⟩

/-- A session that the handler destroyed is not forgotten and its cookie is not cleared, if the URL
of the request cannot be read. -/
theorem protocol_of_request_unreadable :
    hourly.IsWritable ∧ hourly.HasDates atEpoch.world.now ∧
      (∀ s y, hourly.start astray atEpoch = (.ok s, y) →
        hourly.HasDates (runSteps y leaving).2.world.now) ∧
      (∃ s y t, hourly.start astray atEpoch = (.ok s, y) ∧
        answered (answerDone (runSteps y leaving).1) = .ok (.plain "done") ∧
        (runSteps y leaving).2.slot = ⟨some t, false⟩ ∧ t.destroyed = true) ∧
      (hourly.around (.answering (.scripted leaving answerDone)) astray atEpoch).2.backend.calls =
        [] ∧
      (hourly.around (.answering (.scripted leaving answerDone)) astray atEpoch).1 =
        .error .malformedUrl := by
  obtain ⟨s, y, hstart⟩ := start_of_hasDates (r := astray) hasDates_atEpoch
  have hslot := (runSteps_leaving (start_cases hstart).1).1
  have hcalls : y.backend.calls = [] := by
    obtain ⟨opening, hopening, ⟨⟨token, signed, hpresented, -⟩, -⟩ | ⟨-, rfl⟩⟩ :=
      opens_start hstart
    · cases hpresented
    · exact hopening
  obtain ⟨hresult, hbackend⟩ :=
    around_astray (.answering (.scripted leaving answerDone)) hstart rfl hslot
  refine ⟨isWritable_hourly, hasDates_atEpoch, hasDates_leaving hasDates_atEpoch astray,
    ⟨s, y, _, hstart, rfl, hslot, rfl⟩, ?_, hresult⟩
  rw [hbackend, answering_scripted, Handler.scripted, backend_runSteps]
  exact hcalls

end SessionConfig

end SessionCookies
