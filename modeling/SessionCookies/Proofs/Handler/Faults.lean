import SessionCookies.Proofs.Handler.Protocol
import SessionCookies.Service.Routes

/-!
# Faults that stay inside

What goes wrong with a cookie or with a store is not seen outside. Around any handler that makes no
cookie values of its own, a request starts, whatever cookies it has and whatever the store holds,
and what the handler came to is what the request comes to, but for one header that sets or clears
the session cookie (`faults_contained`). Scripts and the routes of the service are such handlers.
The URL of the request is another matter: if it cannot be read, the answer is lost
(`faults_contained_unreadable`).
-/

namespace SessionCookies

/-! ### Handlers that make no cookie values -/

namespace Handler

/-- A handler leaves in the slot no session with a cookie value of the handler's own making: if that
of the session it finds was drawn, so was that of the session it leaves. -/
def KeepsDrawn (inner : Handler) : Prop := ∀ r x, x.IsDrawn → (inner r x).2.IsDrawn

lemma keepsDrawn_scripted (steps : List Step)
    (answer : Except Fault Unit → Except Fault Response) :
    (Handler.scripted steps answer).KeepsDrawn := fun _ _ hx => isDrawn_runSteps steps hx

lemma KeepsDrawn.answering {inner : Handler} (h : inner.KeepsDrawn) :
    (Handler.answering inner).KeepsDrawn := by
  intro r x hx
  have hinner := h r x hx
  rcases hresult : inner r x with ⟨fault | a, z⟩
  · rw [hresult] at hinner
    simp only [Handler.answering, hresult]
    cases fault.httpStatus? <;> exact hinner
  · rw [hresult] at hinner
    simp only [Handler.answering, hresult]
    exact hinner

lemma keepsDrawn_routed {routes : List Route} (h : ∀ route ∈ routes, route.handler.KeepsDrawn) :
    (Handler.routed routes).KeepsDrawn := by
  intro r x hx
  simp only [Handler.routed]
  split
  · next route hroute => exact h route (List.mem_of_find?_eq_some hroute) r x hx
  · split_ifs <;> exact hx

end Handler

namespace Service

lemma keepsDrawn_withSession {f : Session → Exchange → Except Fault Response × Exchange}
    (hf : ∀ s x, s.IsDrawn → x.IsDrawn → (f s x).2.IsDrawn) : (withSession f).KeepsDrawn := by
  intro r x hx
  rcases hslot : x.slot.session with _ | s
  · simp only [withSession, Exchange.currentSession, hslot]
    exact hx
  · simp only [withSession, Exchange.currentSession, hslot]
    exact hf s x (hx s hslot) hx

lemma keepsDrawn_login : login.KeepsDrawn := by
  intro r x hx
  simp only [login]
  split
  · exact hx
  · exact hx
  · rintro s ⟨⟩
    have hfresh : (Session.fresh x.world).IsDrawn := (Session.isMatched_fresh x.world).isDrawn
    apply hfresh.congr
    rw [Session.putText]
    split_ifs <;> rfl

/-- No route of the service makes cookie values. -/
theorem keepsDrawn_routes : ∀ route ∈ routes, route.handler.KeepsDrawn := by
  simp only [routes, List.forall_mem_cons, List.not_mem_nil, false_implies, implies_true, and_true]
  refine ⟨keepsDrawn_login, keepsDrawn_withSession ?_, keepsDrawn_withSession ?_,
    keepsDrawn_withSession ?_, fun _ _ hx => hx⟩
  · rintro s x hs - t ⟨⟩
    exact hs.congr rfl
  · exact fun _ _ _ hx => hx
  · exact fun _ _ _ hx => hx

end Service

/-! ### Requests -/

namespace SessionConfig

variable {c : SessionConfig} {r : Request} {x z : Exchange}

/-- An answer of a handler passes, with at most one header for the session cookie, unless the
session is gone from the slot or the URL cannot be read and the handler did not give up keeping the
session. -/
lemma Closes.of_answer {a : Response} {result : Except Fault Response} {calls : List StoreCall}
    (h : c.Closes r z (.ok a) result calls) :
    (z.slot.ceased = false ∧ z.slot.session = none ∧ result = .error .sessionLost) ∨
      (z.slot.ceased = false ∧ z.slot.session ≠ none ∧
        ∃ fault, r.isEncrypted = .error fault ∧ result = .error fault) ∨
      (z.slot.ceased = true ∨ z.slot.session ≠ none ∧ ∃ secure, r.isEncrypted = .ok secure) ∧
        (result = .ok a ∨ ∃ header, (Jar.given? c.cookieName header).isSome ∧
          result = .ok (a.addCookie header)) := by
  cases h with
  | ceased _ hceased => exact .inr (.inr ⟨.inl hceased, .inl rfl⟩)
  | lost _ hceased hsession => exact .inl ⟨hceased, hsession, rfl⟩
  | unreadable _ hceased hsession hencrypted =>
    exact .inr (.inl ⟨hceased, by simp [hsession], _, hencrypted, rfl⟩)
  | destroyed _ _ hsession hencrypted _ hheader =>
    refine .inr (.inr ⟨.inr ⟨by simp [hsession], _, hencrypted⟩, .inr ⟨_, ?_, rfl⟩⟩)
    rw [Jar.given?_of_header_ok hheader]
    rfl
  | given _ _ hsession hencrypted _ _ _ hheader =>
    refine .inr (.inr ⟨.inr ⟨by simp [hsession], _, hencrypted⟩, .inr ⟨_, ?_, rfl⟩⟩)
    rw [given?_of_tokenHeader hheader]
    rfl
  | kept _ _ hsession hencrypted | leftAlone _ _ hsession hencrypted =>
    exact .inr (.inr ⟨.inr ⟨by simp [hsession], _, hencrypted⟩, .inl rfl⟩)

lemma Closes.of_fault {fault : Fault} {result : Except Fault Response} {calls : List StoreCall}
    (h : c.Closes r z (.error fault) result calls) : result = .error fault := by
  cases h
  rfl

/-- Whatever cookies a request has, whatever the store holds and whichever of its calls fail, the
request starts with a session. A fault of the handler is the fault of the request. An answer of the
handler is the answer of the request, but for at most one header for the session cookie, if the
handler gave up keeping the session, or left one in the slot and the URL of the request can be read.
Else the session was lost, or what is wrong with the URL is the fault of the request. -/
theorem faults_contained {inner : Handler} (hc : c.IsWritable) (hdates : c.HasDates x.world.now)
    (hinner : inner.KeepsDrawn)
    (hdates' : ∀ s y, c.start r x = (.ok s, y) → c.HasDates (inner r y).2.world.now) :
    ∃ s y, c.start r x = (.ok s, y) ∧ y.slot.session = some s ∧
      (∀ fault, (inner r y).1 = .error fault → (c.around inner r x).1 = .error fault) ∧
      ∀ a, (inner r y).1 = .ok a →
        ((inner r y).2.slot.ceased = false → (inner r y).2.slot.session = none →
          (c.around inner r x).1 = .error .sessionLost) ∧
        ((inner r y).2.slot.ceased = false → (inner r y).2.slot.session ≠ none →
          ∀ fault, r.isEncrypted = .error fault → (c.around inner r x).1 = .error fault) ∧
        ((inner r y).2.slot.ceased = true ∨
            (inner r y).2.slot.session ≠ none ∧ (∃ secure, r.isEncrypted = .ok secure) →
          (c.around inner r x).1 = .ok a ∨ ∃ header, (Jar.given? c.cookieName header).isSome ∧
            (c.around inner r x).1 = .ok (a.addCookie header)) := by
  obtain ⟨s, y, hstart⟩ := start_of_hasDates (r := r) hdates
  have hdrawn := hinner r y (isMatched_start hstart).isDrawn
  obtain ⟨calls, -, hcloses⟩ := closes_of_start inner hc hstart (hdates' s y hstart) hdrawn
  refine ⟨s, y, hstart, by rw [(start_cases hstart).1], ?_, ?_⟩
  · intro fault hfault
    rw [hfault] at hcloses
    exact hcloses.of_fault
  · intro a ha
    rw [ha] at hcloses
    obtain ⟨hceased, hsession, hresult⟩ | ⟨hceased, hsession, fault, hfault, hresult⟩ |
      ⟨hleft, hresult⟩ := hcloses.of_answer
    · refine ⟨fun _ _ => hresult, fun _ hleft => absurd hsession hleft, ?_⟩
      rintro (hleft | ⟨hleft, -⟩)
      · cases hceased.symm.trans hleft
      · exact absurd hsession hleft
    · refine ⟨fun _ hnone => absurd hnone hsession, fun _ _ fault' hfault' => ?_, ?_⟩
      · cases hfault.symm.trans hfault'
        exact hresult
      · rintro (hleft | ⟨-, secure, hencrypted⟩)
        · cases hceased.symm.trans hleft
        · cases hfault.symm.trans hencrypted
    · refine ⟨fun hceased hnone => ?_, fun hceased _ fault hfault => ?_, fun _ => hresult⟩
      · rcases hleft with hleft | ⟨hleft, -⟩
        · cases hceased.symm.trans hleft
        · exact absurd hnone hleft
      · rcases hleft with hleft | ⟨-, secure, hencrypted⟩
        · cases hceased.symm.trans hleft
        · cases hfault.symm.trans hencrypted

/-- The beginning of 1970 with a store on a server that no call gets through to. -/
def cutOff : Exchange := { atEpoch with backend := { store := .redis "session:" .unreachable } }

/-- The routes of the service, and one that runs a script that destroys the session. -/
def routesToLeave : Handler :=
  .answering (.routed (Service.routes ++ [⟨["GET"], "/script", .script leaving⟩]))

/-- A server that cannot be reached keeps nobody from an answer: neither the session of the cookie
is found nor the new one forgotten. -/
theorem faults_contained_cutOff :
    let r : Request := { carrying "mine" with path := "/script" }
    hourly.IsWritable ∧ hourly.HasDates cutOff.world.now ∧ routesToLeave.KeepsDrawn ∧
      (∀ s y, hourly.start r cutOff = (.ok s, y) →
        hourly.HasDates (routesToLeave r y).2.world.now) ∧
      ((hourly.around routesToLeave r cutOff).1 = .ok (.plain "done") ∨
        ∃ header, (Jar.given? hourly.cookieName header).isSome ∧
          (hourly.around routesToLeave r cutOff).1 =
            .ok ((Response.plain "done").addCookie header)) := by
  intro r
  have hdates : hourly.HasDates cutOff.world.now := hasDates_atEpoch
  have hkeeps : routesToLeave.KeepsDrawn := by
    apply Handler.KeepsDrawn.answering
    apply Handler.keepsDrawn_routed
    intro route hroute
    rcases List.mem_append.1 hroute with hroute | hroute
    · exact Service.keepsDrawn_routes route hroute
    · obtain rfl := List.mem_singleton.1 hroute
      rw [script_eq_scripted]
      exact Handler.keepsDrawn_scripted _ _
  have hroute (y : Exchange) :
      routesToLeave r y = (.ok (.plain "done"), (runSteps y leaving).2) := rfl
  have hdates' : ∀ s y, hourly.start r cutOff = (.ok s, y) →
      hourly.HasDates (routesToLeave r y).2.world.now := hasDates_leaving hdates r
  refine ⟨isWritable_hourly, hdates, hkeeps, hdates', ?_⟩
  obtain ⟨s, y, hstart, -, -, hanswers⟩ :=
    faults_contained isWritable_hourly hdates hkeeps hdates'
  apply (hanswers _ (congrArg Prod.fst (hroute y))).2.2
  have hsame : r.SameBesideCookies { path := "/script" } := ⟨rfl, rfl, rfl, rfl, rfl, rfl, rfl⟩
  refine .inr ⟨?_, false, hsame.isEncrypted_eq.trans rfl⟩
  rw [hroute, (runSteps_leaving (start_cases hstart).1).1]
  exact Option.some_ne_none _

/-- The answer of a handler that leaves its session in the slot is lost, if the URL of the request
cannot be read. -/
theorem faults_contained_unreadable :
    let inner := Handler.scripted leaving answerDone
    hourly.IsWritable ∧ hourly.HasDates atEpoch.world.now ∧ inner.KeepsDrawn ∧
      (∀ s y, hourly.start astray atEpoch = (.ok s, y) →
        hourly.HasDates (inner astray y).2.world.now) ∧
      (∃ s y, hourly.start astray atEpoch = (.ok s, y) ∧
        (inner astray y).1 = .ok (.plain "done") ∧ (inner astray y).2.slot.session ≠ none) ∧
      (hourly.around inner astray atEpoch).1 = .error .malformedUrl := by
  intro inner
  obtain ⟨s, y, hstart⟩ := start_of_hasDates (r := astray) hasDates_atEpoch
  have hslot := (runSteps_leaving (start_cases hstart).1).1
  refine ⟨isWritable_hourly, hasDates_atEpoch, Handler.keepsDrawn_scripted _ _,
    hasDates_leaving hasDates_atEpoch astray, ⟨s, y, hstart, rfl, ?_⟩,
    (around_astray inner hstart rfl hslot).1⟩
  rw [show (inner astray y).2.slot = _ from hslot]
  exact Option.some_ne_none _

end SessionConfig

end SessionCookies
