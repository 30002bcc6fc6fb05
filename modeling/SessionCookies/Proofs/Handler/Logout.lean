import SessionCookies.Proofs.Handler.Course

/-!
# Logging out

What the token of a request leads to after the handler destroyed the session and the store forgot
it. The store forgets the session under the id that it has in the end, so the token leads nowhere
exactly if that is still the id that the token stands for. A session that was given a new id before
it was destroyed is still found by the token.
-/

namespace SessionCookies.SessionConfig

variable {c : SessionConfig} {r : Request} {x : Exchange} {steps : List Step}
  {answer : Except Fault Unit → Except Fault Response} {found s : Session} {token : String}

/-- A request around a script ends by destroying a session, and the store forgets it. -/
def Destroys (c : SessionConfig) (r : Request) (x : Exchange) (steps : List Step)
    (answer : Except Fault Unit → Except Fault Response) (s : Session) : Prop :=
  ∃ t y a, c.start r x = (.ok t, y) ∧ answer (runSteps y steps).1 = .ok a ∧
    c.ending r (runSteps y steps).2.slot = .discarded s ∧
    ((runSteps y steps).2.backend.destroy s).1 = .ok ()

/-- A request that found a session and destroyed one leaves the store as it was, but for the record
of the session that was destroyed. -/
lemma around_of_destroys (hpresents : c.Presents r token)
    (hfound : (x.backend.load token x.world.now).1 = .ok (some found))
    (hdestroys : c.Destroys r x steps answer s) :
    let b := (c.around (.scripted steps answer) r x).2.backend
    b.emptied = x.backend.emptied ∧
      ∀ id, b.store.recordOf? none id =
        if id = s.id then none else x.backend.store.recordOf? none id := by
  obtain ⟨t, y, a, hstart, hanswer, hending, hdone⟩ := hdestroys
  obtain ⟨log, haround⟩ := around_of_answer hstart hanswer
  obtain ⟨-, hbackend, -⟩ := start_cases hstart
  obtain ⟨log', hsought⟩ := sought_of_presents hpresents x
  rw [hsought] at hbackend
  rw [backend_runSteps, hbackend] at hdone
  simp only [haround, hending, finalBackend, backend_runSteps, hbackend]
  constructor
  · rw [Backend.emptied_destroy, Backend.emptied_load]
  · intro id
    rw [Backend.recordOf?_destroy_of_ok hdone, Backend.recordOf?_load_of_found hfound]

lemma load_around_of_destroys (hstore : x.backend.store.HoldsRecords)
    (hpresents : c.Presents r token)
    (hfound : (x.backend.load token x.world.now).1 = .ok (some found))
    (hdestroys : c.Destroys r x steps answer s) (now : Int) :
    ((c.around (.scripted steps answer) r x).2.backend.load token now).1 =
      if s.id = sessionId token then .ok none else found.live? now := by
  obtain ⟨hemptied, hrecords⟩ := around_of_destroys hpresents hfound hdestroys
  obtain ⟨hfault, hread⟩ := Backend.ofRecord?_of_load hfound
  have hholds := hstore.of_emptied_eq (congrArg Backend.store hemptied)
  rw [Backend.load_eq, Backend.readFault?_congr hemptied, hfault, hholds.recordOf?_eq, hrecords]
  rw [hstore.recordOf?_eq] at hread
  by_cases hid : s.id = sessionId token
  · simp only [hid, if_true]
    rfl
  · simp only [hid, Ne.symm hid, if_false, Session.ofHeld?, hread]

lemma id_of_destroys (hpresents : c.Presents r token)
    (hfound : (x.backend.load token x.world.now).1 = .ok (some found))
    (hdestroys : c.Destroys r x steps answer s)
    (hsteps : ∀ step ∈ stepsRun steps, step.renames = false) : s.id = found.id := by
  obtain ⟨t, y, a, hstart, -, hending, -⟩ := hdestroys
  obtain ⟨log, hsought⟩ := sought_of_presents hpresents x
  rw [hfound] at hsought
  obtain ⟨hslot, -, ⟨s', hs', ht, -⟩ | ⟨hnone, -⟩⟩ := start_cases hstart
  · rw [hsought] at hs'
    cases hs'
    apply hasId_runSteps hsteps _ s (of_ending (.inl hending)).1
    intro u hu
    rw [hslot] at hu
    cases hu
    rw [ht]
  · rw [hsought] at hnone
    cases hnone

/-- After a request that found a session by its token and destroyed one, the token leads nowhere if
the session that was destroyed has the id of the token, and else to the session that was found, as
long as that lives. The id is that of the session that was found, unless a step of the script gave
it a new one or put another session in its place. -/
theorem load_of_destroys (hstore : x.backend.store.HoldsRecords)
    (hpresents : c.Presents r token)
    (hfound : (x.backend.load token x.world.now).1 = .ok (some found))
    (hdestroys : c.Destroys r x steps answer s) :
    (∀ now, ((c.around (.scripted steps answer) r x).2.backend.load token now).1 =
        if s.id = sessionId token then .ok none else found.live? now) ∧
      ((∀ step ∈ stepsRun steps, step.renames = false) → s.id = found.id) :=
  ⟨load_around_of_destroys hstore hpresents hfound hdestroys,
    id_of_destroys hpresents hfound hdestroys⟩

/-! ### Two ways to log out -/

lemma destroys_of_guards {t : Session} {y : Exchange}
    (hstart : hourly.start (carrying token) x = (.ok t, y)) (hguards : y.Guards token found)
    (hslot : (runSteps y steps).2.slot = ⟨some s, false⟩) (hdestroyed : s.destroyed = true) :
    hourly.Destroys (carrying token) x steps answerDone s := by
  refine ⟨t, y, _, hstart, rfl, ?_, ?_⟩
  · rw [hslot]
    exact ending_of_destroyed hourly (isEncrypted_carrying token) hdestroyed
  · rw [backend_runSteps, Backend.destroy_congr hguards.emptied]
    rfl

/-- A session that is changed and destroyed is not found again. -/
theorem load_of_destroys_leaving :
    ∃ s, hourly.Destroys (carrying "mine") holdingMine leaving answerDone s ∧
      ∀ now, ((hourly.around (.scripted leaving answerDone) (carrying "mine")
        holdingMine).2.backend.load "mine" now).1 = .ok none := by
  obtain ⟨t, y, hstart, -, hslot, -, hguards, -⟩ :=
    Exchange.guards_holdingMine.start (presents_carrying "mine")
  have hdestroys := destroys_of_guards hstart hguards (runSteps_leaving hslot).1 rfl
  obtain ⟨hload, hid⟩ := load_of_destroys Exchange.guards_holdingMine.holdsRecords
    (presents_carrying "mine") Exchange.guards_holdingMine.load hdestroys
  have hsame : (t.putText "seen" "null").destroy.id = sessionId "mine" := hid (by decide)
  refine ⟨_, hdestroys, fun now => ?_⟩
  rw [hload now, if_pos hsame]

/-- A session that is given a new id and destroyed is found by the token that it had before. -/
theorem load_of_destroys_regenerated :
    hourly.Presents (carrying "mine") "mine" ∧
      (holdingMine.backend.load "mine" holdingMine.world.now).1 = .ok (some mine) ∧
      (∃ s, hourly.Destroys (carrying "mine") holdingMine [.act .regenerate, .act .destroy]
        answerDone s) ∧
      ∀ now, ((hourly.around (.scripted [.act .regenerate, .act .destroy] answerDone)
        (carrying "mine") holdingMine).2.backend.load "mine" now).1 = .ok (some mine) := by
  obtain ⟨t, y, hstart, -, hslot, hworld, hguards, -⟩ :=
    Exchange.guards_holdingMine.start (presents_carrying "mine")
  have hfinal : (runSteps y [.act .regenerate, .act .destroy]).2.slot =
      ⟨some (t.regenerate holdingMine.world).destroy, false⟩ := by
    simp only [runSteps, Step.run, hslot, hworld]
    rfl
  have hdestroys := destroys_of_guards hstart hguards hfinal rfl
  have hid : (t.regenerate holdingMine.world).destroy.id ≠ sessionId "mine" := by
    change sessionId holdingMine.world.nextCookieValue ≠ sessionId "mine"
    decide +kernel
  refine ⟨presents_carrying "mine", Exchange.guards_holdingMine.load, ⟨_, hdestroys⟩, fun now => ?_⟩
  rw [load_around_of_destroys Exchange.guards_holdingMine.holdsRecords (presents_carrying "mine")
    Exchange.guards_holdingMine.load hdestroys, if_neg hid]
  rfl

end SessionCookies.SessionConfig
