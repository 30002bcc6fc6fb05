import SessionCookies.Proofs.Handler.Headers
import SessionCookies.Proofs.Handler.Rejection
import SessionCookies.Proofs.Session.Identity
import SessionCookies.Proofs.Store.Frame
import SessionCookies.Proofs.Store.Leads

/-!
# The course of a request

What a request around a script does from its start to its finish: with which session it starts and
what that leaves of the store (`start_cases`), what the script does to the identity of the session,
and what is left when the request is finished (`around_of_answer`). The finish is described for
every handler (`around_of_ok`).
-/

namespace SessionCookies

/-! ### Scripts -/

namespace Step

/-- Whether a step ends the script. -/
def raises : Step → Bool
  | .raise _ => true
  | _ => false

/-- Whether a step gives the request a session with a new id. -/
def renames : Step → Bool
  | .act .regenerate | .replace => true
  | _ => false

end Step

/-- The steps of a script that are run: those before the first that raises a fault. -/
def stepsRun (steps : List Step) : List Step := steps.takeWhile fun step => !step.raises

lemma runSteps_stepsRun (x : Exchange) (steps : List Step) :
    (runSteps x (stepsRun steps)).2 = (runSteps x steps).2 := by
  induction steps generalizing x with
  | nil => rfl
  | cons step rest ih =>
    cases step with
    | raise fault => rfl
    | _ => exact ih _

namespace Exchange

/-- Every session in the slot has an id. -/
def HasId (x : Exchange) (id : String) : Prop := ∀ s, x.slot.session = some s → s.id = id

/-- Every session in the slot has the id of its cookie value, if it has one. -/
def IsMatched (x : Exchange) : Prop := ∀ s, x.slot.session = some s → s.IsMatched

/-- Every session in the slot has a cookie value that was drawn, if it has one. -/
def IsDrawn (x : Exchange) : Prop := ∀ s, x.slot.session = some s → s.IsDrawn

lemma IsMatched.isDrawn {x : Exchange} (h : x.IsMatched) : x.IsDrawn :=
  fun s hs => (h s hs).isDrawn

end Exchange

namespace Step

variable {step : Step} {x : Exchange}

/-- What a step leaves in the slot has the id of what was there, or one that was drawn. -/
lemma id_run (step : Step) {s : Session} (hs : (step.run x).2.slot.session = some s) :
    (∃ t, x.slot.session = some t ∧ s.id = t.id) ∨
      step.renames = true ∧ s.id = sessionId x.world.nextCookieValue := by
  cases step with
  | act a =>
    rcases hslot : x.slot.session with _ | t
    · simp only [run, hslot] at hs
      cases hs
    · simp only [run, hslot, Exchange.setSession] at hs
      cases hs
      obtain ⟨hid, -⟩ | ⟨-, htaken⟩ | ⟨rfl, hregenerate⟩ := a.identity_cases t x.world
      · exact .inl ⟨t, rfl, hid⟩
      · exact .inl ⟨t, rfl, by rw [htaken, Session.withoutCookieValue]⟩
      · exact .inr ⟨rfl, congrArg Session.id hregenerate⟩
  | replace =>
    cases hs
    exact .inr ⟨rfl, rfl⟩
  | take => cases hs
  | _ => exact .inl ⟨s, hs, rfl⟩

lemma hasId_run (hstep : step.renames = false) {id : String} (hx : x.HasId id) :
    (step.run x).2.HasId id := by
  intro s hs
  obtain ⟨t, ht, hid⟩ | ⟨hrenames, -⟩ := step.id_run hs
  · exact hid.trans (hx t ht)
  · cases hstep.symm.trans hrenames

end Step

section Scripts

variable {steps : List Step} {x : Exchange}

/-- A script leaves the session its id, unless a step that is run gives it a new one or puts
another session in its place. -/
theorem hasId_runSteps (hsteps : ∀ step ∈ stepsRun steps, step.renames = false) {id : String}
    (hx : x.HasId id) : (runSteps x steps).2.HasId id := by
  rw [← runSteps_stepsRun]
  apply runSteps_preserves (P := fun y => y.HasId id)
  · intro y results h
    exact h
  · intro step hstep y h
    exact Step.hasId_run (hsteps step hstep) h
  · exact hx

/-- What every new session has and every action keeps, a script keeps of the session in the slot. -/
theorem session_runSteps (steps : List Step) {P : Session → Prop}
    (hfresh : ∀ w, P (Session.fresh w)) (haction : ∀ (a : Action) s w, P s → P (a.run s w).session)
    (hx : ∀ s, x.slot.session = some s → P s) :
    ∀ s, (runSteps x steps).2.slot.session = some s → P s := by
  exact slot_runSteps (P := fun _ => P) hfresh (fun a _ _ s w => haction a s w) false hx

theorem isMatched_runSteps (steps : List Step) (hx : x.IsMatched) :
    (runSteps x steps).2.IsMatched :=
  session_runSteps steps Session.isMatched_fresh (fun a _ w h => a.isMatched_run w h) hx

theorem isDrawn_runSteps (steps : List Step) (hx : x.IsDrawn) : (runSteps x steps).2.IsDrawn :=
  session_runSteps steps (fun w => (Session.isMatched_fresh w).isDrawn)
    (fun a _ w h => a.isDrawn_run w h) hx

end Scripts

namespace SessionConfig

variable {c : SessionConfig} {r : Request} {x y : Exchange} {s t : Session}

/-! ### The start of a request -/

lemma sought_of_presents {token : String} (h : c.Presents r token) (x : Exchange) :
    ∃ log, c.sought r x = ((x.backend.load token x.world.now).1.toOption.join,
      { x with backend := (x.backend.load token x.world.now).2, log }) := by
  obtain ⟨token', hpresents, hsought⟩ | ⟨hnot, -⟩ := c.sought_cases r x
  · cases eq_of_presents h hpresents
    exact hsought
  · exact absurd h (hnot token)

/-- Before the handler runs the store is asked for a session and for nothing else. -/
lemma backend_start (c : SessionConfig) (r : Request) (x : Exchange) :
    (c.start r x).2.backend = (c.sought r x).2.backend := by
  have hbegin (s : Session) (y : Exchange) : (c.beginWith s y).2.backend = y.backend := by
    rw [beginWith]
    split <;> rfl
  rcases hfound : (c.sought r x).1 with _ | s
  · rw [start_of_sought_none hfound, startAnew, hbegin]
    rfl
  · rw [start_of_sought_some hfound, hbegin]

lemma emptied_start (c : SessionConfig) (r : Request) (x : Exchange) :
    (c.start r x).2.backend.emptied = x.backend.emptied := by
  rw [backend_start]
  obtain ⟨token, -, log, hsought⟩ | ⟨-, log, hsought⟩ := c.sought_cases r x
  · rw [hsought]
    exact Backend.emptied_load _ _ _
  · rw [hsought]

/-- A request that starts has the session in the slot that was found, or else a new one, but for the
expiry. -/
theorem start_cases (h : c.start r x = (.ok t, y)) :
    y.slot = ⟨some t, x.slot.ceased⟩ ∧ y.backend = (c.sought r x).2.backend ∧
      ((∃ s, (c.sought r x).1 = some s ∧ t = { s with expiry := t.expiry } ∧ y.world = x.world) ∨
        (c.sought r x).1 = none ∧ t = { Session.fresh x.world with expiry := t.expiry } ∧
          y.world = x.world.afterDraw) := by
  have hslot : (c.sought r x).2.slot = x.slot := by
    obtain ⟨token, -, log, hsought⟩ | ⟨-, log, hsought⟩ := c.sought_cases r x <;> rw [hsought]
  rcases hfound : (c.sought r x).1 with _ | s
  · rw [start_of_sought_none hfound] at h
    obtain ⟨hprolonged, rfl⟩ := beginWith_ok h
    have ht := prolonged_ok hprolonged
    simp only [Exchange.freshSession, c.world_sought r x] at ht
    refine ⟨?_, rfl, .inr ⟨rfl, ht, ?_⟩⟩
    · simp only [Exchange.setSession, Exchange.freshSession, hslot]
    · simp only [Exchange.setSession, Exchange.freshSession, c.world_sought r x]
  · rw [start_of_sought_some hfound] at h
    obtain ⟨hprolonged, rfl⟩ := beginWith_ok h
    refine ⟨?_, rfl, .inl ⟨s, rfl, prolonged_ok hprolonged, ?_⟩⟩
    · simp only [Exchange.setSession, hslot]
    · simp only [Exchange.setSession, c.world_sought r x]

lemma start_of_hasDates (h : c.HasDates x.world.now) :
    ∃ t y, c.start r x = (.ok t, y) := by
  have hbegin (s : Session) (y : Exchange) (hnow : y.world.now = x.world.now) :
      ∃ t z, c.beginWith s y = (.ok t, z) := by
    obtain ⟨expiry, hprolonged, -⟩ := prolonged_of_hasDates (hnow ▸ h) s
    exact ⟨{ s with expiry }, y.setSession (some { s with expiry }),
      by simp only [beginWith, hprolonged]⟩
  have hworld := c.world_sought r x
  rcases hfound : (c.sought r x).1 with _ | s
  · rw [start_of_sought_none hfound]
    exact hbegin _ _ (by rw [Exchange.freshSession, World.afterDraw, hworld])
  · rw [start_of_sought_some hfound]
    exact hbegin _ _ (by rw [hworld])

/-! ### The finish of a request -/

lemma around_of_error (inner : Handler) {fault : Fault} (hstart : c.start r x = (.ok t, y))
    (hinner : (inner r y).1 = .error fault) :
    c.around inner r x = (.error fault, (inner r y).2) := by
  rcases hresult : inner r y with ⟨result, z⟩
  rw [hresult] at hinner
  obtain rfl : result = .error fault := hinner
  simp only [around, hstart, hresult]

/-- What a request comes to when the handler answers. -/
theorem around_of_ok (inner : Handler) {a : Response} (hstart : c.start r x = (.ok t, y))
    (hinner : (inner r y).1 = .ok a) :
    ∃ log, c.around inner r x =
      (c.finalAnswer r a (inner r y).2 (c.ending r (inner r y).2.slot),
        { (inner r y).2.setSession none with
          backend := finalBackend (inner r y).2 (c.ending r (inner r y).2.slot)
          log }) := by
  rcases hresult : inner r y with ⟨result, z⟩
  rw [hresult] at hinner
  obtain rfl : result = .ok a := hinner
  obtain ⟨log, hfinish⟩ := c.finish_eq r a z
  exact ⟨log, by simp only [around, hstart, hresult, hfinish]⟩

section Scripted

variable {steps : List Step} {answer : Except Fault Unit → Except Fault Response}

lemma around_of_fault {fault : Fault} (hstart : c.start r x = (.ok t, y))
    (hanswer : answer (runSteps y steps).1 = .error fault) :
    c.around (.scripted steps answer) r x = (.error fault, (runSteps y steps).2) :=
  around_of_error (.scripted steps answer) hstart hanswer

/-- What a request around a script comes to when the handler answers. -/
theorem around_of_answer {a : Response} (hstart : c.start r x = (.ok t, y))
    (hanswer : answer (runSteps y steps).1 = .ok a) :
    ∃ log, c.around (.scripted steps answer) r x =
      (c.finalAnswer r a (runSteps y steps).2 (c.ending r (runSteps y steps).2.slot),
        { (runSteps y steps).2.setSession none with
          backend := finalBackend (runSteps y steps).2 (c.ending r (runSteps y steps).2.slot)
          log }) :=
  around_of_ok (.scripted steps answer) hstart hanswer

lemma world_around_of_answer {a : Response} (hstart : c.start r x = (.ok t, y))
    (hanswer : answer (runSteps y steps).1 = .ok a) :
    (c.around (.scripted steps answer) r x).2.world = (runSteps y steps).2.world := by
  obtain ⟨log, haround⟩ := around_of_answer hstart hanswer
  rw [haround]
  rfl

end Scripted

/-! ### Requests that can be answered -/

lemma isEncrypted_empty : ({} : Request).isEncrypted = .ok false := rfl

lemma isEncrypted_carrying (token : String) : (carrying token).isEncrypted = .ok false := by
  have hsame : (carrying token).SameBesideCookies {} := ⟨rfl, rfl, rfl, rfl, rfl, rfl, rfl⟩
  rw [hsame.isEncrypted_eq, isEncrypted_empty]

/-! ### A script that leaves -/

/-- A script that changes the session and destroys it. -/
def leaving : List Step := [.act (.insert "seen" .null), .act .destroy]

lemma runSteps_leaving {ceased : Bool} (h : x.slot = ⟨some s, ceased⟩) :
    (runSteps x leaving).2.slot = ⟨some (s.putText "seen" "null").destroy, ceased⟩ ∧
      (runSteps x leaving).2.world = x.world := by
  constructor <;>
  · simp only [leaving, runSteps, Step.run, h]
    rfl

/-! ### A session in memory -/

/-- A session that never expires. -/
def mine : Session := { id := sessionId "mine" }

/-- The beginning of 1970 with one session in memory. -/
def holdingMine : Exchange :=
  { atEpoch with backend := { store := .memory (OrderedMap.empty.put mine.id mine.record) } }

end SessionConfig

namespace Exchange

open SessionConfig

variable {x : Exchange} {s : Session} {token : String}

/-- At the beginning of 1970 a session that lives then is found by a token in a store in memory,
which does not fail. -/
structure Guards (x : Exchange) (token : String) (s : Session) : Prop where
  now : x.world.now = 0
  emptied : x.backend.emptied = atEpoch.backend.emptied
  recordOf? : x.backend.store.recordOf? none (sessionId token) = some s.record
  hasUtcExpiry : s.HasUtcExpiry
  livesAt : s.LivesAt 0

lemma Guards.holdsRecords (h : x.Guards token s) :
    x.backend.store.HoldsRecords :=
  Store.HoldsRecords.of_emptied_eq (show atEpoch.backend.store.HoldsRecords from trivial)
    (congrArg Backend.store h.emptied)

lemma Guards.load (h : x.Guards token s) :
    (x.backend.load token x.world.now).1 = .ok (some s.recorded) := by
  have hfault : x.backend.readFault? = none := Backend.readFault?_congr h.emptied
  have hfound := h.hasUtcExpiry.hasWholeOffset.foundAt_ofHeld? 0
  rw [Backend.load_eq, hfault, h.holdsRecords.recordOf?_eq, h.recordOf?, h.now]
  exact (hfound.resolve_right fun hexpired => hexpired.2 h.livesAt).1

/-- A request with the token starts with the session in its slot, given an hour to live. -/
lemma Guards.start (h : x.Guards token s) {r : Request} (hr : hourly.Presents r token) :
    ∃ t y, hourly.start r x = (.ok t, y) ∧
      (∃ expiry, t = { s.recorded with expiry := some expiry }) ∧
      y.slot = ⟨some t, x.slot.ceased⟩ ∧ y.world = x.world ∧ y.Guards token s ∧
      t.HasUtcExpiry ∧ t.LivesAt 0 := by
  have hdates : hourly.HasDates x.world.now := by
    rw [h.now]
    exact hasDates_hourly le_rfl (by decide)
  obtain ⟨t, y, hstart⟩ := start_of_hasDates (r := r) hdates
  obtain ⟨log, hsought⟩ := sought_of_presents hr x
  obtain ⟨hslot, hbackend, hsession⟩ := start_cases hstart
  have hrecord := Backend.recordOf?_load_of_found h.load (sessionId token)
  rw [hsought, h.load] at hsession
  rw [hsought] at hbackend
  obtain ⟨s', hs', ht, hworld⟩ | ⟨hnone, -⟩ := hsession
  · cases hs'
    have hguards : y.Guards token s := by
      refine ⟨hworld ▸ h.now, ?_, ?_, h.hasUtcExpiry, h.livesAt⟩
      · rw [hbackend, Backend.emptied_load, h.emptied]
      · rw [hbackend, hrecord, h.recordOf?]
    obtain ⟨s'', hprolonged⟩ := (start_ok hstart).2.2
    obtain ⟨expiry, hexpiry, hutc, hinstant⟩ :=
      expiry_prolonged (show hourly.ttl = some 3600000000 from rfl) hprolonged
    rw [hexpiry] at ht
    refine ⟨t, y, hstart, ⟨expiry, ht⟩, hslot, hworld, hguards, ?_, ?_⟩
    · intro e he
      cases hexpiry.symm.trans he
      exact hutc
    · intro e he instant hinstant'
      cases hexpiry.symm.trans he
      cases hinstant.symm.trans hinstant'
      rw [h.now]
      decide
  · cases hnone

lemma guards_holdingMine : holdingMine.Guards "mine" mine :=
  ⟨rfl, rfl, (OrderedMap.get?_put _ _ _ _).trans (if_pos rfl), nofun, nofun⟩

end Exchange

end SessionCookies
