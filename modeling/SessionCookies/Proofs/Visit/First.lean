import SessionCookies.Proofs.Handler.Course
import SessionCookies.Proofs.Visit.Start

/-!
# The first request of a visit

What a visit is like after a first request whose handler put something into the session: the client
may expect that session, and has a cookie for it if the service could write the cookie.
-/

namespace SessionCookies

namespace SessionConfig

variable {c : SessionConfig} {r : Request} {now : Int}

lemma livesAt_of_prolonged {s t : Session} {later : Int}
    (httl : ∀ micros ∈ c.ttl, later < now + micros) (hs : s.expiry = none)
    (h : c.prolonged s now = .ok t) : t.LivesAt later := by
  rcases hc : c.ttl with _ | micros
  · simp only [prolonged, hc] at h
    cases h
    intro t ht
    cases hs.symm.trans ht
  · obtain ⟨expiry, hexpiry, -, hinstant⟩ := expiry_prolonged hc h
    intro t' ht' instant hinstant'
    cases hexpiry.symm.trans ht'
    cases hinstant.symm.trans hinstant'
    exact httl micros hc

lemma data_of_start {s : Session} {x y : Exchange} (h : c.start {} x = (.ok s, y)) :
    s.data = .empty := by
  rw [start_of_no_cookie rfl] at h
  rw [prolonged_ok (beginWith_ok h).1]
  rfl

/-! ### A script -/

/-- A script that puts a mark into the session. -/
def marking : List Step := [.act (.insert "seen" (.bool true))]

/-- A new session with the mark. -/
def marked (w : World) (expiry : Option Timestamp) : Session :=
  { Session.fresh w with
    data := OrderedMap.empty.put "seen" "true"
    expiry
    changed := true }

lemma runSteps_marking {w : World} {x : Exchange} {expiry : Option Timestamp}
    (hslot : x.slot = ⟨some { Session.fresh w with expiry }, false⟩) :
    (runSteps x marking).2.slot = ⟨some (marked w expiry), false⟩ ∧
      (runSteps x marking).2.world = x.world := by
  obtain ⟨world, backend, log, slot, results⟩ := x
  obtain rfl : slot = _ := hslot
  have htext : (Value.bool true).toText? = .ok "true" := rfl
  have hput : Session.putText { Session.fresh w with expiry } "seen" "true" = marked w expiry := by
    rw [Session.putText, if_neg (by simp [Session.fresh])]
    rfl
  simp only [marking, runSteps, Step.run, Action.run, Session.insert, htext, Except.map, hput,
    Action.tried, Action.done, Exchange.setSession, and_self]

lemma ending_marked (c : SessionConfig) (w : World) (expiry : Option Timestamp) :
    c.ending {} ⟨some (marked w expiry), false⟩ = .kept (marked w expiry) :=
  ending_of_kept isEncrypted_empty rfl (Bool.or_true _)

end SessionConfig

namespace Visit

open SessionConfig

variable {c : SessionConfig} {w : World} {records : OrderedMap String String} {later : Int}

/-! ### Visits at their beginning -/

/-- The first visit to a service that keeps sessions in memory. -/
def first (c : SessionConfig) (w : World) (records : OrderedMap String String) : Visit :=
  { config := c, world := w, backend := { store := .memory records } }

/-- The visit after its first request put a mark into the session. -/
def second (c : SessionConfig) (w : World) (records : OrderedMap String String) : Visit :=
  (first c w records).after {} marking answerDone

lemma isNew_first (c : SessionConfig) (w : World) (records : OrderedMap String String) :
    (first c w records).IsNew := ⟨rfl, rfl, trivial, fun _ => rfl⟩

lemma start_first (hdates : c.HasDates w.now) (httl : ∀ micros ∈ c.ttl, later < w.now + micros) :
    ∃ expiry x, c.start {} (first c w records).exchange =
        (.ok { Session.fresh w with expiry }, x) ∧
      (marked w expiry).LivesAt later ∧
      (runSteps x marking).2.slot = ⟨some (marked w expiry), false⟩ ∧
      (runSteps x marking).2.world = w.afterDraw ∧
      (runSteps x marking).2.backend = (first c w records).backend := by
  have hutc : (Session.fresh w).HasUtcExpiry := by
    intro t ht
    cases ht
  obtain ⟨expiry, hbegin, -⟩ :=
    beginWith_of_hasDates (x := (first c w records).exchange.freshSession.2) hdates hutc
  have hlives : Session.LivesAt { Session.fresh w with expiry } later :=
    livesAt_of_prolonged httl rfl (beginWith_ok hbegin).1
  obtain ⟨hslot, hworld⟩ := runSteps_marking
    (x := (first c w records).exchange.freshSession.2.setSession
      (some { Session.fresh w with expiry })) rfl
  exact ⟨expiry, _, (start_of_no_cookie rfl _).trans hbegin, hlives, hslot, hworld,
    backend_runSteps _ _⟩

lemma event_second (hdates : c.HasDates w.now) (httl : ∀ micros ∈ c.ttl, 0 < micros) :
    Event (first c w records) (second c w records) := by
  have hlater : ∀ micros ∈ c.ttl, w.now < w.now + micros := by
    intro micros hmicros
    exact lt_add_of_pos_right _ (httl micros hmicros)
  obtain ⟨expiry, x, hstart, hlives, hslot, hworld, -⟩ := start_first hdates hlater
  refine .request ⟨?_, by decide, ?_, ?_⟩
  · intro piece hpiece
    cases hpiece
  · rintro s y a - ⟨⟩ header hheader
    cases hheader
  · intro s y a hstart' _ t hending
    obtain ⟨-, rfl⟩ := Prod.mk.injEq .. ▸ hstart.symm.trans hstart'
    have hkept : c.ending {} (runSteps x marking).2.slot = .kept t := hending
    rw [hslot, ending_marked] at hkept
    cases hkept
    rw [hworld]
    exact hlives

/-- After its first request a client may expect the session with the mark for as long as sessions
are to live. It has no cookie if the service cannot write it. -/
theorem second_spec (hdates : c.HasDates w.now)
    (httl : ∀ micros ∈ c.ttl, later < w.now + micros) :
    (second c w records).config = c ∧ (second c w records).world.now = w.now ∧
      (∃ expiry, (marked w expiry).LivesAt later ∧
        (second c w records).view = some (marked w expiry).recorded) ∧
      (¬ c.IsWritable → (second c w records).jar = none) := by
  obtain ⟨expiry, x, hstart, hlives, hslot, hworld, hbackend⟩ :=
    @start_first c w records later hdates httl
  have hending : c.ending {} (runSteps x marking).2.slot = .kept (marked w expiry) := by
    rw [hslot, ending_marked]
  have hanswer : answerDone (runSteps x marking).1 = .ok (.plain "done") := rfl
  have hsecond := after_of_ok (v := first c w records) hstart hanswer
  have hconfig : (first c w records).config = c := rfl
  rw [hconfig, hending] at hsecond
  rw [second, hsecond]
  refine ⟨rfl, ?_, ⟨expiry, hlives, rfl⟩, ?_⟩
  · rw [hworld]
    rfl
  · intro hc
    have hsaved (now : Int) :
        ((first c w records).backend.save (marked w expiry) now).1.toOption.join =
          some w.nextCookieValue := rfl
    rw [finalAnswer_kept isEncrypted_empty, hbackend, hsaved, answerWith]
    rcases hheader : c.tokenHeader false w.nextCookieValue (runSteps x marking).2.world.now with
      fault | header
    · rfl
    · exact absurd (isWritable_of_tokenHeader hheader) hc

end Visit

end SessionCookies
