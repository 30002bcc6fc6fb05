import SessionCookies.Proofs.Handler.Course
import SessionCookies.Proofs.Handler.Protocol
import SessionCookies.Proofs.Handler.Rejection
import SessionCookies.Proofs.Session.Changed
import SessionCookies.Proofs.Store.Loading

/-!
# Sessions that are not saved

A service may keep only sessions that changed. When it leaves a session alone, the client's cookie
still leads where it led before, and the next request starts from there (`leadsTo_of_returns`). What
the handler left was not marked, so it is what the request had started with, unless the handler put
a new session into the slot: a new session is not marked either. `data_of_returns` says when the
next request starts with the data that the handler left.
-/

namespace SessionCookies

namespace Step

/-- Whether a step takes the mark of a change off the session. -/
def resets : Step → Bool
  | .act a => a.resets
  | _ => false

end Step

/-- What a script leaves unmarked has the data that was there, or none if it is a new session. -/
lemma data_runSteps_of_unmarked {steps : List Step} (hsteps : ∀ step ∈ steps, step.resets = false)
    {x : Exchange} {s t : Session} (ht : x.slot.session = some t)
    (hs : (runSteps x steps).2.slot.session = some s) (hunmarked : s.changed = false) :
    s.data = if replacesSession steps then .empty else t.data := by
  rw [← Bool.false_or (replacesSession steps)]
  refine slot_runSteps
    (P := fun replaced u => u.changed = false → u.data = if replaced then .empty else t.data)
    (fun w _ => rfl) ?_ false ?_ s hs hunmarked
  · intro a ha replaced u w hu hunmarked
    obtain ⟨hchanged, -, hdata⟩ := Action.of_unmarked (hsteps _ ha) hunmarked
    rw [hdata, hu hchanged]
  · intro u hu _
    cases ht.symm.trans hu
    rfl

namespace SessionConfig

variable {c : SessionConfig} {r r' : Request} {x x' y : Exchange} {s t f : Session}
  {steps : List Step} {answer : Except Fault Unit → Except Fault Response} {a : Response}

/-! ### The session of a cookie -/

lemma leadsTo_iff : c.LeadsTo r x f ↔ (c.sought r x).1 = some f := by
  constructor
  · rintro ⟨token, hpresents, hload, -⟩
    obtain ⟨log, hsought⟩ := sought_of_presents hpresents x
    rw [hsought, hload]
    rfl
  · intro h
    obtain ⟨token, hpresents, hload⟩ := load_of_sought h
    exact ⟨token, hpresents, hload, Backend.live?_of_load hload⟩

lemma eq_of_leadsTo {g : Session} (hf : c.LeadsTo r x f) (hg : c.LeadsTo r x g) : f = g :=
  Option.some.inj ((leadsTo_iff.1 hf).symm.trans (leadsTo_iff.1 hg))

/-- The data with which a request starts: those of the session that the cookie leads to, or none. -/
lemma data_start (h : c.start r x = (.ok t, y)) :
    (∃ f, c.LeadsTo r x f ∧ t.data = f.data) ∨ (∀ f, ¬ c.LeadsTo r x f) ∧ t.data = .empty := by
  obtain ⟨-, -, ⟨f, hfound, ht, -⟩ | ⟨hnone, ht, -⟩⟩ := start_cases h
  · exact .inl ⟨f, leadsTo_iff.2 hfound, by rw [ht]⟩
  · refine .inr ⟨fun f hf => ?_, by rw [ht]; rfl⟩
    cases hnone.symm.trans (leadsTo_iff.1 hf)

/-! ### The next request -/

/-- A request comes with the session cookie of an earlier one, after which a store was left. What
the cookie leads to has not been touched in the meantime and has not expired, and the calendar has
the date at which a session would expire that is given a new life. -/
structure Returns (c : SessionConfig) (r : Request) (x : Exchange) (left : Backend) (r' : Request)
    (x' : Exchange) : Prop where
  presented : c.presented? r' = c.presented? r
  forward : x.world.now ≤ x'.world.now
  untouched : ∀ token, c.Presents r token →
    (x'.backend.load token x'.world.now).1 = (left.load token x'.world.now).1
  lives : ∀ f, c.LeadsTo r x f → f.LivesAt x'.world.now
  dates : c.HasDates x'.world.now

/-- If nothing but looking for its session was done in a request, the cookie still leads to the same
session in the next. -/
lemma leadsTo_of_returns (h : c.Returns r x (c.sought r x).2.backend r' x') :
    c.LeadsTo r' x' f ↔ c.LeadsTo r x f := by
  have hpresents (token : String) : c.Presents r' token ↔ c.Presents r token := by
    rw [Presents, Presents, h.presented]
  have hload (token : String) (htoken : c.Presents r token) :
      (x'.backend.load token x'.world.now).1 = (x.backend.load token x'.world.now).1 := by
    obtain ⟨log, hsought⟩ := sought_of_presents htoken x
    rw [h.untouched token htoken, hsought, Backend.load_load _ _ _ h.forward]
  constructor
  · rintro ⟨token, htoken, hfound, -⟩
    rw [hpresents] at htoken
    rw [hload token htoken] at hfound
    have hbefore := Backend.load_of_le hfound h.forward
    exact ⟨token, htoken, hbefore, Backend.live?_of_load hbefore⟩
  · rintro ⟨token, htoken, hfound, hlive⟩
    have hlater := Backend.load_of_load hfound x'.world.now
    rw [if_pos (h.lives f ⟨token, htoken, hfound, hlive⟩), ← hload token htoken] at hlater
    exact ⟨token, (hpresents token).2 htoken, hlater, Backend.live?_of_load hlater⟩

/-! ### Requests that save nothing -/

/-- A request around a script whose handler answers, leaving a session in the slot that it did not
give up, and that is answered without a call on the store when the handler is done. -/
def Skips (c : SessionConfig) (r : Request) (x : Exchange) (steps : List Step)
    (answer : Except Fault Unit → Except Fault Response) (a : Response) (s : Session) : Prop :=
  ∃ t y, c.start r x = (.ok t, y) ∧ answer (runSteps y steps).1 = .ok a ∧
    (runSteps y steps).2.slot = ⟨some s, false⟩ ∧
    (∃ b, (c.around (.scripted steps answer) r x).1 = .ok b) ∧
    (c.around (.scripted steps answer) r x).2.backend.calls = y.backend.calls

/-- A request that is answered without a call leaves an unmarked session and gives the client
nothing. -/
lemma around_of_skips (h : c.Skips r x steps answer a s) :
    s.changed = false ∧ (c.around (.scripted steps answer) r x).1 = .ok a ∧
      (c.around (.scripted steps answer) r x).2.backend = (c.sought r x).2.backend := by
  obtain ⟨t, y, hstart, hanswer, hslot, ⟨b, hanswered⟩, hcalls⟩ := h
  obtain ⟨log, haround⟩ := around_of_answer hstart hanswer
  have hending : c.ending r (runSteps y steps).2.slot = .leftAlone ∧ s.changed = false := by
    rw [haround, hslot] at hcalls hanswered
    rw [hslot]
    rcases hencrypted : r.isEncrypted with fault | secure
    · rw [ending_of_unreadable hencrypted] at hanswered
      cases hanswered
    rcases hdestroyed : s.destroyed with _ | _
    · rcases hkeep : c.saveUnchanged || s.changed with _ | _
      · exact ⟨ending_of_leftAlone hencrypted hdestroyed hkeep, (Bool.or_eq_false_iff.1 hkeep).2⟩
      · rw [ending_of_kept hencrypted hdestroyed hkeep] at hcalls
        simp [finalBackend, Backend.calls_save, backend_runSteps] at hcalls
    · rw [ending_of_destroyed c hencrypted hdestroyed] at hcalls
      simp [finalBackend, Backend.calls_destroy, backend_runSteps] at hcalls
  rw [haround, hending.1]
  refine ⟨hending.2, rfl, ?_⟩
  rw [finalBackend, backend_runSteps, (start_cases hstart).2.1]

/-- A request that is answered without a call on the store gives the client no cookie. The next request
with the cookie that the client has starts with the data that the handler left, exactly if the
handler did not put a new session into the slot or the cookie led to no data. -/
theorem data_of_returns (hsteps : ∀ step ∈ steps, step.resets = false)
    (hskips : c.Skips r x steps answer a s)
    (hreturns : c.Returns r x (c.around (.scripted steps answer) r x).2.backend r' x') :
    (c.around (.scripted steps answer) r x).1 = .ok a ∧
      ∃ s' y', c.start r' x' = (.ok s', y') ∧ y'.slot.session = some s' ∧
        (s'.data = s.data ↔
          (replacesSession steps = true → ∀ f, c.LeadsTo r x f → f.data = .empty)) := by
  obtain ⟨hunmarked, hresult, hbackend⟩ := around_of_skips hskips
  obtain ⟨s', y', hstart'⟩ := start_of_hasDates (r := r') hreturns.dates
  refine ⟨hresult, s', y', hstart', (start_ok hstart').1, ?_⟩
  rw [hbackend] at hreturns
  obtain ⟨t, y, hstart, -, hslot, -⟩ := hskips
  have hdata := data_runSteps_of_unmarked hsteps (start_ok hstart).1
    (congrArg Slot.session hslot) hunmarked
  obtain ⟨f, hf, hstarted⟩ | ⟨hnone, hstarted⟩ := data_start hstart
  · have hnext : s'.data = f.data := by
      obtain ⟨f', hf', hnext⟩ | ⟨hnone, -⟩ := data_start hstart'
      · rw [hnext, eq_of_leadsTo ((leadsTo_of_returns hreturns).1 hf') hf]
      · exact absurd ((leadsTo_of_returns hreturns).2 hf) (hnone f)
    rw [hnext, hdata, hstarted]
    cases replacesSession steps with
    | true =>
      rw [if_pos rfl]
      constructor
      · rintro hempty - g hg
        rw [eq_of_leadsTo hg hf, hempty]
      · intro hempty
        exact hempty rfl f hf
    | false =>
      rw [if_neg (by decide)]
      exact ⟨fun _ hreplaces => (nomatch hreplaces), fun _ => rfl⟩
  · have hnext : s'.data = .empty := by
      obtain ⟨f', hf', -⟩ | ⟨-, hnext⟩ := data_start hstart'
      · exact absurd ((leadsTo_of_returns hreturns).1 hf') (hnone f')
      · exact hnext
    rw [hnext, hdata, hstarted, ite_self]
    exact ⟨fun _ _ f hf => absurd hf (hnone f), fun _ => rfl⟩

/-! ### A service that saves only what changed -/

/-- Sessions that never expire and are saved only if they changed. -/
def sparing : SessionConfig := { hourly with ttl := none, saveUnchanged := false }

/-- A session with a mark. -/
def seen : Session := { mine with data := OrderedMap.empty.put "seen" "null" }

/-- The beginning of 1970 with the session in memory. -/
def holdingSeen : Exchange :=
  { atEpoch with backend := { store := .memory (OrderedMap.empty.put mine.id seen.record) } }

lemma presents_sparing : sparing.Presents (carrying "mine") "mine" := presents_carrying "mine"

lemma load_holdingSeen (now : Int) :
    (holdingSeen.backend.load "mine" now).1 = .ok (some seen) := by
  have hwhole : seen.HasWholeOffset := nofun
  have hheld : holdingSeen.backend.store.recordOf? (some "mine") (sessionId "mine") =
      some seen.record := (OrderedMap.get?_put _ _ _ _).trans (if_pos rfl)
  have hfault : holdingSeen.backend.readFault? = none := rfl
  rw [Backend.load_eq, hfault, hheld]
  exact ((hwhole.foundAt_ofHeld? now).resolve_right fun hexpired => hexpired.2 nofun).1

lemma leadsTo_seen : sparing.LeadsTo (carrying "mine") holdingSeen seen :=
  ⟨"mine", presents_sparing, load_holdingSeen _, rfl⟩

lemma start_seen : ∃ y, sparing.start (carrying "mine") holdingSeen = (.ok seen, y) ∧
    y.slot = ⟨some seen, false⟩ ∧ y.world = holdingSeen.world := by
  have hstart := start_of_sought_some (leadsTo_iff.1 leadsTo_seen)
  obtain ⟨log, hsought⟩ := sought_of_presents presents_sparing holdingSeen
  have hbegin (z : Exchange) : sparing.beginWith seen z = (.ok seen, z.setSession (some seen)) :=
    rfl
  rw [hsought, hbegin] at hstart
  exact ⟨_, hstart, rfl, rfl⟩

section Sparing

variable (hstart : sparing.start (carrying "mine") holdingSeen = (.ok t, y))

include hstart

/-- A request that leaves an unmarked session in the slot saves nothing. -/
lemma skips_sparing (hslot : (runSteps y steps).2.slot = ⟨some s, false⟩)
    (hdestroyed : s.destroyed = false) (hunmarked : s.changed = false) :
    sparing.Skips (carrying "mine") holdingSeen steps answerDone (.plain "done") s := by
  have hending : sparing.ending (carrying "mine") ⟨some s, false⟩ = .leftAlone :=
    ending_of_leftAlone (isEncrypted_carrying "mine") hdestroyed hunmarked
  obtain ⟨log, haround⟩ := around_of_ok (.scripted steps answerDone) hstart rfl
  refine ⟨t, y, hstart, rfl, hslot, ?_, ?_⟩ <;>
    rw [haround, Handler.scripted, hslot, hending]
  · exact ⟨_, rfl⟩
  · rw [finalBackend, backend_runSteps]

/-- The client sends the same cookie again at once. -/
lemma returns_sparing (hnow : (runSteps y steps).2.world.now = holdingSeen.world.now)
    (hafter : (sparing.around (.scripted steps answerDone) (carrying "mine") holdingSeen).2 = x') :
    sparing.Returns (carrying "mine") holdingSeen x'.backend (carrying "mine") x' := by
  have hanswer : answerDone (runSteps y steps).1 = .ok (.plain "done") := rfl
  have hclock : x'.world.now = holdingSeen.world.now := by
    rw [← hafter, world_around_of_answer hstart hanswer, hnow]
  refine ⟨rfl, hclock.ge, fun _ _ => rfl, fun f hf => ?_, nofun⟩
  rw [eq_of_leadsTo hf leadsTo_seen]
  exact nofun

end Sparing

/-- A handler puts a value where it is already. The next request finds it there. -/
theorem data_of_returns_same :
    let steps : List Step := [.act (.insert "seen" .null)]
    ∃ s x' s' y', sparing.Skips (carrying "mine") holdingSeen steps answerDone (.plain "done") s ∧
      (sparing.around (.scripted steps answerDone) (carrying "mine") holdingSeen).2 = x' ∧
      sparing.Returns (carrying "mine") holdingSeen x'.backend (carrying "mine") x' ∧
      sparing.start (carrying "mine") x' = (.ok s', y') ∧ s'.data = s.data := by
  intro steps
  obtain ⟨y, hstart, hslot, hworld⟩ := start_seen
  have hran : (runSteps y steps).2.slot = ⟨some seen, false⟩ ∧
      (runSteps y steps).2.world.now = holdingSeen.world.now := by
    simp only [steps, runSteps, Step.run, hslot, hworld]
    exact ⟨rfl, rfl⟩
  have hskips := skips_sparing hstart hran.1 rfl rfl
  have hreturns := returns_sparing hstart hran.2 rfl
  obtain ⟨-, s', y', hnext, -, hdata⟩ := data_of_returns (by decide) hskips hreturns
  exact ⟨seen, _, s', y', hskips, rfl, hreturns, hnext,
    hdata.2 fun hreplaces => absurd hreplaces (by decide)⟩

/-- A handler puts a new session into the slot. The next request finds what was in the old one. -/
theorem data_of_returns_replaced :
    ∃ s x' s' y',
      sparing.Skips (carrying "mine") holdingSeen [.replace] answerDone (.plain "done") s ∧
      (sparing.around (.scripted [.replace] answerDone) (carrying "mine") holdingSeen).2 = x' ∧
      sparing.Returns (carrying "mine") holdingSeen x'.backend (carrying "mine") x' ∧
      sparing.start (carrying "mine") x' = (.ok s', y') ∧
      s.data.entries = [] ∧ s'.data.entries = [("seen", "null")] := by
  obtain ⟨y, hstart, hslot, hworld⟩ := start_seen
  have hran : (runSteps y [.replace]).2.slot = ⟨some (Session.fresh holdingSeen.world), false⟩ ∧
      (runSteps y [.replace]).2.world.now = holdingSeen.world.now := by
    simp only [runSteps, Step.run, Exchange.freshSession, Exchange.setSession, World.afterDraw,
      hslot, hworld, and_self]
  have hskips := skips_sparing hstart hran.1 rfl rfl
  have hreturns := returns_sparing hstart hran.2 rfl
  obtain ⟨s', y', hnext⟩ := start_of_hasDates (r := carrying "mine") hreturns.dates
  refine ⟨_, _, s', y', hskips, rfl, hreturns, hnext, rfl, ?_⟩
  rw [(around_of_skips hskips).2.2] at hreturns
  obtain ⟨f, hf, hdata⟩ | ⟨hnone, -⟩ := data_start hnext
  · rw [hdata, eq_of_leadsTo ((leadsTo_of_returns hreturns).1 hf) leadsTo_seen]
    rfl
  · exact absurd ((leadsTo_of_returns hreturns).2 leadsTo_seen) (hnone seen)

end SessionConfig

end SessionCookies
