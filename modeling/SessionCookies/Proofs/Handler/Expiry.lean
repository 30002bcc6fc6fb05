import SessionCookies.Proofs.Handler.Scripted
import SessionCookies.Proofs.Handler.Sessions
import SessionCookies.Proofs.Session.Expiry
import SessionCookies.Proofs.Store.Records

/-!
# The expiry of what is kept

A request lets its session live for a set time from the moment it starts. A script that does not
set the expiry itself keeps that, unless it puts a new session into the slot: that one never
expires, and it is kept so.
-/

namespace SessionCookies

/-! ### Steps -/

namespace Step

/-- Whether a step sets the expiry of the session. -/
def setsExpiry : Step → Bool
  | .act a => a.setsExpiry
  | _ => false

/-- Whether a step puts a new session into the slot. -/
def replaces : Step → Bool
  | .replace => true
  | _ => false

end Step

/-- Whether a script puts a new session into the slot before it raises a fault, if it does. -/
def replacesSession : List Step → Bool
  | [] | .raise _ :: _ => false
  | step :: rest => step.replaces || replacesSession rest

/-- What a step leaves in the slot is what an action made of the session that was there, unless the
step puts a new session into the slot. `P` may tell such a session from one that was there. -/
lemma Step.slot_run {P : Bool → Session → Prop} {step : Step}
    (hfresh : ∀ w, P true (Session.fresh w))
    (haction : ∀ a, step = .act a → ∀ replaced s w, P replaced s →
      P replaced (a.run s w).session)
    {x : Exchange} {replaced : Bool} (hx : ∀ s, x.slot.session = some s → P replaced s) :
    ∀ s, (step.run x).2.slot.session = some s → P (replaced || step.replaces) s := by
  cases step with
  | act a =>
    intro s hs
    simp only [replaces, Bool.or_false]
    rcases hslot : x.slot.session with _ | t
    · simp only [run, hslot] at hs
      cases hs
    · simp only [run, hslot, Exchange.setSession] at hs
      cases hs
      exact haction a rfl replaced t x.world (hx t hslot)
  | replace =>
    intro s hs
    cases hs
    rw [replaces, Bool.or_true]
    exact hfresh x.world
  | take =>
    intro s hs
    cases hs
  | _ =>
    simp only [replaces, Bool.or_false]
    exact hx

/-- What a new session has and the actions of a script keep, the session has that the script leaves
in the slot. -/
theorem slot_runSteps {P : Bool → Session → Prop} {steps : List Step}
    (hfresh : ∀ w, P true (Session.fresh w))
    (haction : ∀ a, .act a ∈ steps → ∀ replaced s w, P replaced s →
      P replaced (a.run s w).session)
    (replaced : Bool) {x : Exchange} (hx : ∀ s, x.slot.session = some s → P replaced s) :
    ∀ s, (runSteps x steps).2.slot.session = some s → P (replaced || replacesSession steps) s := by
  induction steps generalizing x replaced with
  | nil =>
    rw [replacesSession, Bool.or_false]
    exact hx
  | cons step rest ih =>
    by_cases hraise : ∃ fault, step = .raise fault
    · obtain ⟨fault, rfl⟩ := hraise
      rw [replacesSession, Bool.or_false]
      exact hx
    · have hreplaces : replacesSession (step :: rest) =
          (step.replaces || replacesSession rest) := by
        cases step with
        | raise fault => exact absurd ⟨fault, rfl⟩ hraise
        | _ => rfl
      have hrun := Step.slot_run hfresh
        (fun a ha => haction a (ha ▸ List.mem_cons_self)) hx
      rw [runSteps_cons rest (not_exists.1 hraise), hreplaces, ← Bool.or_assoc]
      exact ih (fun a ha => haction a (List.mem_cons_of_mem _ ha)) _ hrun

/-- Every session in the slot has an expiry, or none if `expiry` is none. -/
def Exchange.HasExpiry (x : Exchange) (expiry : Option Timestamp) : Prop :=
  ∀ s, x.slot.session = some s → s.expiry = expiry

/-- A script that does not set the expiry leaves it alone, or puts a session without one into the
slot. -/
theorem hasExpiry_runSteps {steps : List Step} (hsteps : ∀ step ∈ steps, step.setsExpiry = false)
    {x : Exchange} {expiry : Option Timestamp} (hx : x.HasExpiry expiry) :
    (runSteps x steps).2.HasExpiry (if replacesSession steps then none else expiry) := by
  rw [← Bool.false_or (replacesSession steps)]
  apply slot_runSteps (P := fun replaced s => s.expiry = if replaced then none else expiry)
  · intro w
    rfl
  · intro a ha replaced s w hs
    rw [Action.expiry_run (hsteps _ ha), hs]
  · exact hx

/-! ### The beginning of a request -/

namespace SessionConfig

variable {c : SessionConfig} {r : Request} {x y : Exchange} {s t : Session} {micros : Int}

lemma prolonged_ok {now : Int} (h : c.prolonged s now = .ok t) :
    t = { s with expiry := t.expiry } := by
  rw [prolonged] at h
  rcases httl : c.ttl with _ | micros
  · rw [httl] at h
    cases h
    rfl
  · rw [httl] at h
    obtain ⟨expiry, -, rfl⟩ := Session.expireIn_ok h
    rfl

lemma beginWith_ok (h : c.beginWith s x = (.ok t, y)) :
    c.prolonged s x.world.now = .ok t ∧ y = x.setSession (some t) := by
  rw [beginWith] at h
  rcases hprolonged : c.prolonged s x.world.now with fault | u
  · rw [hprolonged] at h
    cases h
  · rw [hprolonged] at h
    cases h
    exact ⟨rfl, rfl⟩

/-- A request that starts has a session in the slot that was given a new life. -/
lemma start_ok (h : c.start r x = (.ok t, y)) :
    y.slot.session = some t ∧ y.world.now = x.world.now ∧
      ∃ s, c.prolonged s x.world.now = .ok t := by
  rcases hsought : (c.sought r x).1 with _ | s
  · rw [start_of_sought_none hsought] at h
    obtain ⟨hprolonged, rfl⟩ := beginWith_ok h
    have hnow : (c.sought r x).2.freshSession.2.world.now = x.world.now := by
      rw [Exchange.freshSession, World.afterDraw, c.world_sought r x]
    rw [hnow] at hprolonged
    exact ⟨rfl, hnow, _, hprolonged⟩
  · rw [start_of_sought_some hsought] at h
    obtain ⟨hprolonged, rfl⟩ := beginWith_ok h
    rw [c.world_sought r x] at hprolonged
    exact ⟨rfl, by rw [Exchange.setSession, c.world_sought r x], s, hprolonged⟩

lemma expiry_prolonged (httl : c.ttl = some micros) {now : Int} (h : c.prolonged s now = .ok t) :
    ∃ expiry, t.expiry = some expiry ∧ expiry.offset = some 0 ∧
      expiry.instant? = some (now + micros) := by
  rw [prolonged, httl] at h
  obtain ⟨expiry, hinstant, rfl⟩ := Session.expireIn_ok h
  exact ⟨expiry, rfl, Timestamp.ofInstant?_eq_ok hinstant⟩

/-! ### The end of a request -/

/-- A request around a script ends by keeping a session at a moment, and the store takes it. -/
def Keeps (c : SessionConfig) (r : Request) (x : Exchange) (steps : List Step)
    (answer : Except Fault Unit → Except Fault Response) (s : Session) (now : Int)
    (token : Option String) : Prop :=
  ∃ t y a, c.start r x = (.ok t, y) ∧ answer (runSteps y steps).1 = .ok a ∧
    c.ending r (runSteps y steps).2.slot = .kept s ∧ (runSteps y steps).2.world.now = now ∧
    ((runSteps y steps).2.backend.save s now).1 = .ok token

lemma around_of_keeps {steps : List Step} {answer : Except Fault Unit → Except Fault Response}
    {now : Int} {token : Option String} (h : c.Keeps r x steps answer s now token) :
    ∃ t y, c.start r x = (.ok t, y) ∧ (runSteps y steps).2.world.now = now ∧
      (runSteps y steps).2.slot.session = some s ∧
      (y.backend.store.save s now).1 = .ok token ∧
      (c.around (.scripted steps answer) r x).2.backend.store =
        (y.backend.store.save s now).2.2 := by
  obtain ⟨t, y, a, hstart, hanswer, hending, hnow, hsaved⟩ := h
  rw [backend_runSteps] at hsaved
  obtain ⟨hsaved, hstore⟩ := Backend.save_ok hsaved
  refine ⟨t, y, hstart, hnow, (of_ending (.inr hending)).1, hsaved, ?_⟩
  obtain ⟨log, hfinish⟩ := c.finish_eq r a (runSteps y steps).2
  simp only [around, hstart, Handler.scripted, hanswer, hfinish, hending, finalBackend,
    backend_runSteps, hnow, hstore]

/-- What a request with a limited life keeps is a record of a session that expires, at most the set
time after it was kept, exactly if no step of the script put a new session into the slot and the
clock has not gone back since the request started. A session that was put there is kept for ever. -/
theorem expiry_of_kept {steps : List Step} {answer : Except Fault Unit → Except Fault Response}
    {now : Int} {token : Option String} {record : String} (httl : c.ttl = some micros)
    (hsteps : ∀ step ∈ steps, step.setsExpiry = false)
    (hkeeps : c.Keeps r x steps answer s now token)
    (hheld : (c.around (.scripted steps answer) r x).2.backend.store.recordOf? token s.id =
      some record) :
    ((∃ kept expiry instant, Session.ofRecord? record = some kept ∧ kept.expiry = some expiry ∧
        expiry.instant? = some instant ∧ instant ≤ now + micros) ↔
      replacesSession steps = false ∧ x.world.now ≤ now) ∧
    (replacesSession steps = true →
      ∃ kept, Session.ofRecord? record = some kept ∧ kept.expiry = none) := by
  obtain ⟨t, y, hstart, hnow, hslot, hsaved, hstore⟩ := around_of_keeps hkeeps
  rw [hstore] at hheld
  obtain rfl := Store.recordOf?_save hsaved hheld
  obtain ⟨hsession, hclock, t', hprolonged⟩ := start_ok hstart
  obtain ⟨expiry, hexpiry, hutc, hinstant⟩ := expiry_prolonged httl hprolonged
  have hbegun : y.HasExpiry (some expiry) := by
    intro u hu
    cases hsession.symm.trans hu
    exact hexpiry
  have hkept := hasExpiry_runSteps hsteps hbegun s hslot
  cases hreplaces : replacesSession steps with
  | true =>
    rw [hreplaces, if_pos rfl] at hkept
    have hread : Session.ofRecord? s.record = some s.recorded :=
      Session.ofRecord?_record (by simp [hkept])
    refine ⟨⟨?_, ?_⟩, fun _ => ⟨_, hread, hkept⟩⟩
    · rintro ⟨kept, expiry', instant, hkept', hexpiry', -, -⟩
      cases hread.symm.trans hkept'
      cases hkept.symm.trans hexpiry'
    · rintro ⟨h, -⟩
      cases h
  | false =>
    rw [hreplaces, if_neg (by decide)] at hkept
    have hread : Session.ofRecord? s.record = some s.recorded := by
      apply Session.ofRecord?_record
      intro u hu
      cases hkept.symm.trans hu
      exact Timestamp.hasWholeMinutes_of_utc hutc
    refine ⟨⟨?_, ?_⟩, fun h => by cases h⟩
    · rintro ⟨kept, expiry', instant, hkept', hexpiry', hinstant', hle⟩
      cases hread.symm.trans hkept'
      cases hkept.symm.trans hexpiry'
      cases hinstant.symm.trans hinstant'
      exact ⟨rfl, by omega⟩
    · rintro ⟨-, hforward⟩
      exact ⟨_, expiry, _, hread, hkept, hinstant, by omega⟩

/-! ### Two requests -/

/-- Sessions that live for an hour. -/
def hourly : SessionConfig :=
  { keys := ⟨⟨List.replicate keyLength 7, List.length_replicate⟩, []⟩, ttl := some 3600000000 }

/-- The beginning of 1970 with an empty store in memory. -/
def atEpoch : Exchange := { world := ⟨0, .ofSeed 1⟩, backend := { store := .memory .empty } }

/-- A handler's answer however its script ended. -/
def answerDone : Except Fault Unit → Except Fault Response := fun _ => .ok (.plain "done")

lemma start_hourly : ∃ t, hourly.start {} atEpoch =
    (.ok { Session.fresh atEpoch.world with expiry := some t },
      { atEpoch.freshSession.2 with
        slot := ⟨some { Session.fresh atEpoch.world with expiry := some t }, false⟩ }) := by
  obtain ⟨t, ht⟩ : ∃ t, Timestamp.ofInstant? (atEpoch.world.now + 3600000000) = .ok t := ⟨_, rfl⟩
  exact ⟨t, (start_of_no_cookie rfl atEpoch).trans (startAnew_of_ttl rfl ht)⟩

lemma held_of_keeps_hourly {steps : List Step} {now : Int} {token : Option String}
    (h : hourly.Keeps {} atEpoch steps answerDone s now token) :
    (hourly.around (.scripted steps answerDone) {} atEpoch).2.backend.store.recordOf? token s.id =
      some s.record := by
  obtain ⟨t, hstart⟩ := start_hourly
  obtain ⟨t', y, hstart', -, -, -, hstore⟩ := around_of_keeps h
  rw [hstart, Prod.mk.injEq] at hstart'
  obtain ⟨-, rfl⟩ := hstart'
  rw [hstore]
  exact (OrderedMap.get?_put _ _ _ _).trans (if_pos rfl)

/-- A session is kept a minute after its request started and expires 59 minutes later. -/
theorem expiry_of_kept_hourly :
    ∃ s token record, hourly.Keeps {} atEpoch [.act (.advance 60000000)] answerDone s 60000000
        token ∧
      (hourly.around (.scripted [.act (.advance 60000000)] answerDone) {}
        atEpoch).2.backend.store.recordOf? token s.id = some record ∧
      ∃ kept expiry instant, Session.ofRecord? record = some kept ∧ kept.expiry = some expiry ∧
        expiry.instant? = some instant ∧ instant ≤ 60000000 + 3600000000 := by
  obtain ⟨t, hstart⟩ := start_hourly
  have hkeeps : hourly.Keeps {} atEpoch [.act (.advance 60000000)] answerDone
      { Session.fresh atEpoch.world with expiry := some t } 60000000
      (some atEpoch.world.nextCookieValue) := ⟨_, _, _, hstart, rfl, rfl, rfl, rfl⟩
  have hheld := held_of_keeps_hourly hkeeps
  exact ⟨_, _, _, hkeeps, hheld,
    (expiry_of_kept (show hourly.ttl = some 3600000000 from rfl) (by decide) hkeeps hheld).1.2
      ⟨rfl, by decide⟩⟩

/-- A handler that puts a new session into the slot has it kept for ever, though sessions are to
live for an hour. -/
theorem replaced_kept_for_ever :
    hourly.ttl = some 3600000000 ∧
      ∃ s token record, hourly.Keeps {} atEpoch [.replace] answerDone s 0 token ∧
        (hourly.around (.scripted [.replace] answerDone) {} atEpoch).2.backend.store.recordOf? token
          s.id = some record ∧
        ∃ kept, Session.ofRecord? record = some kept ∧ kept.expiry = none := by
  obtain ⟨t, hstart⟩ := start_hourly
  have hkeeps : hourly.Keeps {} atEpoch [.replace] answerDone
      (Session.fresh atEpoch.world.afterDraw) 0 (some atEpoch.world.afterDraw.nextCookieValue) :=
    ⟨_, _, _, hstart, rfl, rfl, rfl, rfl⟩
  have hread : Session.ofRecord? (Session.fresh atEpoch.world.afterDraw).record =
      some (Session.fresh atEpoch.world.afterDraw).recorded := by
    apply Session.ofRecord?_record
    intro t ht
    cases ht
  exact ⟨rfl, _, _, _, hkeeps, held_of_keeps_hourly hkeeps, _, hread, rfl⟩

end SessionConfig

end SessionCookies
