import SessionCookies.Proofs.Traffic.Isolation

/-!
# Sessions that come back

After a session was destroyed under the id of a token, requests that come with the token start with
new sessions (`not_revived`), until a request that had come before the session was destroyed stores
it again: nothing keeps a request that is being answered from storing its session later, and the
last call on the store decides.
-/

namespace SessionCookies.Traffic

open SessionConfig

variable {t : Traffic} {e : Event} {events : List Event} {id token : String} {bound : Nat}
  {s : Session}

/-! ### Numbers -/

/-- Requests that are being answered have numbers below that of the next one. -/
def IsNumbered (t : Traffic) : Prop := ∀ n p, t.pending.get? n = some p → n < t.begun

lemma begun_le_step (t : Traffic) (e : Event) : t.begun ≤ (t.step e).begun := by
  cases e with
  | start r =>
    simp only [step]
    split <;> exact Nat.le_succ _
  | act n step =>
    simp only [Traffic.step]
    split <;> exact le_rfl
  | finish n answer =>
    simp only [step]
    split <;> exact le_rfl
  | fail n => exact le_rfl
  | wait micros => exact le_rfl

/-- A request that is being answered after an event was being answered before, or has just come, or
a step has changed what lies in its slot. -/
lemma pending_step {n : Nat} {p : Pending} (h : (t.step e).pending.get? n = some p) :
    t.pending.get? n = some p ∨
      (∃ r s x, e = .start r ∧ n = t.begun ∧ t.begun < (t.step e).begun ∧
        t.config.start r (t.exchange {}) = (.ok s, x) ∧ p = ⟨r, x.slot⟩) ∨
      ∃ step old, e = .act n step ∧ t.pending.get? n = some old ∧
        p = { old with slot := (step.run (t.exchange old.slot)).2.slot } := by
  cases e with
  | start r =>
    rcases hstart : t.config.start r (t.exchange {}) with ⟨fault | s, x⟩
    · rw [pending_start_of_error hstart] at h
      exact .inl h
    · rw [pending_start hstart] at h
      split_ifs at h with hn
      · cases h
        refine .inr (.inl ⟨r, s, x, rfl, hn, ?_, hstart, rfl⟩)
        rw [step_start_of_ok hstart]
        exact Nat.lt_succ_self _
      · exact .inl h
  | act m step =>
    rcases hm : t.pending.get? m with _ | old
    · simp only [Traffic.step, hm] at h
      exact .inl h
    · rw [pending_act hm] at h
      split_ifs at h with hn
      · cases h
        subst hn
        exact .inr (.inr ⟨step, old, rfl, hm, rfl⟩)
      · exact .inl h
  | finish m answer =>
    rw [pending_finish] at h
    split_ifs at h
    exact .inl h
  | fail m =>
    rw [pending_fail] at h
    split_ifs at h
    exact .inl h
  | wait micros => exact .inl h

lemma isNumbered_run (h : t.IsNumbered) (events : List Event) : (t.run events).IsNumbered := by
  induction events generalizing t with
  | nil => exact h
  | cons e rest ih =>
    apply ih
    intro n p hn
    obtain hold | ⟨r, s, x, -, rfl, hlt, -⟩ | ⟨step, old, -, hold, -⟩ := pending_step hn
    · exact (h n p hold).trans_le (t.begun_le_step e)
    · exact hlt
    · exact (h n old hold).trans_le (t.begun_le_step e)

/-! ### Sessions that are gone -/

/-- An event that draws a random cookie value. -/
def Event.draws : Event → Bool
  | .start _ => true
  | .act _ step => step.renames
  | _ => false

/-- No session of an id is in the store, and none is in the slot of a request, but of those that had
come before some number. -/
structure Lacks (t : Traffic) (id : String) (bound : Nat) : Prop where
  recordOf? : t.recordOf? id = none
  lt_bound : ∀ n p s, t.pending.get? n = some p → p.slot.session = some s → s.id = id → n < bound

/-- A request that had come before some number is finished and stores a session under an id. -/
def Revives (t : Traffic) (id : String) (bound : Nat) (e : Event) : Prop :=
  ∃ n answer p s given, e = .finish n answer ∧ n < bound ∧ t.pending.get? n = some p ∧
    t.config.ending p.request p.slot = .kept s ∧ s.id = id ∧
    (t.backend.save s t.world.now).1 = .ok given

lemma sought_of_recordOf?_none (hstore : t.backend.store.HoldsRecords)
    (h : t.recordOf? (sessionId token) = none) {r : Request}
    (hpresents : t.config.Presents r token) : (t.config.sought r (t.exchange {})).1 = none := by
  obtain ⟨log, hsought⟩ := sought_of_presents hpresents (t.exchange {})
  have hload : (t.backend.load token t.world.now).1.toOption.join = none := by
    rw [Backend.load_eq, hstore.recordOf?_eq]
    rw [recordOf?] at h
    rw [h]
    cases t.backend.readFault? <;> rfl
  rw [hsought]
  exact hload

lemma revives_of_changes {record : Option String} (h : t.Changes id e record)
    (hrecord : record ≠ none) (hlt : ∀ n p s, t.pending.get? n = some p →
      p.slot.session = some s → s.id = id → n < bound) : t.Revives id bound e := by
  cases h with
  | stored answer hn hending hid hsaved =>
    have hbound := hlt _ _ _ hn (of_ending (.inr hending)).1 hid
    exact ⟨_, answer, _, _, _, rfl, hbound, hn, hending, hid, hsaved⟩
  | _ => exact absurd rfl hrecord

/-- A session that is gone does not come back by an event, unless an earlier request stores it. -/
lemma lacks_step (hstore : t.backend.store.HoldsRecords) (h : t.Lacks (sessionId token) bound)
    (hdraws : e.draws = true → sessionId t.world.nextCookieValue ≠ sessionId token)
    (hcookie : ∀ r, e = .start r → t.config.Presents r token) :
    (t.step e).Lacks (sessionId token) bound ∨ t.Revives (sessionId token) bound e := by
  have hslots : ∀ n p s, (t.step e).pending.get? n = some p → p.slot.session = some s →
      s.id = sessionId token → n < bound := by
    intro n p s hn hs hid
    obtain hold | ⟨r, s', x, rfl, -, -, hstart, rfl⟩ | ⟨step, old, rfl, hold, rfl⟩ :=
      pending_step hn
    · exact h.lt_bound n p s hold hs hid
    · have hnone := sought_of_recordOf?_none hstore h.recordOf? (hcookie r rfl)
      obtain ⟨hx, -, ⟨found, hfound, -⟩ | ⟨-, hfresh, -⟩⟩ := start_cases hstart
      · cases hnone.symm.trans hfound
      · simp only [hx] at hs
        cases hs
        exact absurd ((congrArg Session.id hfresh).symm.trans hid) (hdraws rfl)
    · obtain ⟨s', hs', hsame⟩ | ⟨hrenames, hdrawn⟩ := step.id_run hs
      · exact h.lt_bound n old s' hold hs' (hsame.symm.trans hid)
      · exact absurd (hdrawn.symm.trans hid) (hdraws hrenames)
  obtain hsame | hchanges := recordOf?_step hstore e (sessionId token)
  · exact .inl ⟨hsame.trans h.recordOf?, hslots⟩
  · by_cases hrecord : (t.step e).recordOf? (sessionId token) = none
    · exact .inl ⟨hrecord, hslots⟩
    · exact .inr (revives_of_changes hchanges hrecord h.lt_bound)

lemma lacks_run (hstore : t.backend.store.HoldsRecords) (h : t.Lacks (sessionId token) bound)
    (hdraws : t.Along (fun u e => e.draws = true →
      sessionId u.world.nextCookieValue ≠ sessionId token) events)
    (hcookie : ∀ r, .start r ∈ events → t.config.Presents r token) :
    (t.run events).Lacks (sessionId token) bound ∨
      ∃ before e after, events = before ++ e :: after ∧
        (t.run before).Revives (sessionId token) bound e := by
  induction events generalizing t with
  | nil => exact .inl h
  | cons e rest ih =>
    have hstart : ∀ r, e = .start r → t.config.Presents r token := by
      rintro r rfl
      exact hcookie r List.mem_cons_self
    obtain hlacks | hrevives := lacks_step hstore h hdraws.1 hstart
    · have hrest : ∀ r, .start r ∈ rest → (t.step e).config.Presents r token := by
        intro r hr
        rw [config_step]
        exact hcookie r (List.mem_cons_of_mem _ hr)
      obtain hlacks' | ⟨before, e', after, rfl, hrevives⟩ :=
        ih (holdsRecords_run hstore [e]) hlacks hdraws.2 hrest
      · exact .inl hlacks'
      · exact .inr ⟨e :: before, e', after, rfl, hrevives⟩
    · exact .inr ⟨[], e, rest, rfl, hrevives⟩

section Destroyed

variable {before : List Event} {n : Nat} {p : Pending}

/-- A session is gone when it has been destroyed, but for the requests that had come before. -/
lemma lacks_of_destroyed (hstore : t.backend.store.HoldsRecords) (ht : t.IsNumbered)
    (hn : t.pending.get? n = some p)
    (hending : t.config.ending p.request p.slot = .discarded s) (hid : s.id = id)
    (hdone : (t.backend.destroy s).1 = .ok ()) (answer : Response) :
    (t.step (.finish n answer)).Lacks id t.begun := by
  refine ⟨recordOf?_of_changes hstore (.destroyed answer hn hending hid hdone), ?_⟩
  intro m p' s' hm _ _
  rw [pending_finish] at hm
  split_ifs at hm
  exact ht m p' hm

/-- A request that comes with the token of a session that was destroyed, however many others came
between and in whatever order they went on, starts with a new session, unless a request that had
come before the session was destroyed has stored it since. -/
theorem not_revived {answer : Response} {after : List Event} {r : Request}
    (hstore : t.backend.store.HoldsRecords) (hnew : t.pending = .empty)
    (hn : (t.run before).pending.get? n = some p)
    (hending : t.config.ending p.request p.slot = .discarded s)
    (hid : s.id = sessionId token) (hdone : ((t.run before).backend.destroy s).1 = .ok ())
    (hcookie : ∀ r, .start r ∈ after → t.config.Presents r token)
    (hdraws : ((t.run before).step (.finish n answer)).Along (fun u e => e.draws = true →
      sessionId u.world.nextCookieValue ≠ sessionId token) after)
    (hr : t.config.Presents r token) :
    (∃ y, y.world = (t.run (before ++ .finish n answer :: after)).world ∧
        t.config.start r ((t.run (before ++ .finish n answer :: after)).exchange {}) =
          t.config.startAnew y) ∨
      ∃ between e rest, after = between ++ e :: rest ∧
        (t.run (before ++ .finish n answer :: between)).Revives (sessionId token)
          (t.run before).begun e := by
  have hnumbered : t.IsNumbered := by
    intro m p' hm
    rw [hnew] at hm
    cases hm
  have hlacks := lacks_of_destroyed (holdsRecords_run hstore before)
    (isNumbered_run hnumbered before) hn (config_run t before ▸ hending) hid hdone answer
  have hstore' : ((t.run before).step (.finish n answer)).backend.store.HoldsRecords :=
    holdsRecords_run (holdsRecords_run hstore before) [.finish n answer]
  have hconfig : ((t.run before).step (.finish n answer)).config = t.config := by
    rw [config_step, config_run]
  simp only [run_append, run_cons]
  obtain hlacks' | hrevives := lacks_run hstore' hlacks hdraws (hconfig ▸ hcookie)
  · have hconfig' := (config_run ((t.run before).step (.finish n answer)) after).trans hconfig
    have hnone := sought_of_recordOf?_none (holdsRecords_run hstore' after) hlacks'.recordOf?
      (hconfig' ▸ hr)
    rw [hconfig'] at hnone
    exact .inl ⟨_, world_sought _ _ _, start_of_sought_none hnone⟩
  · exact .inr hrevives

end Destroyed

/-! ### Two requests at the same time -/

/-- Two requests come with the token of a session, and the handler of the first destroys it. -/
def overlapping : List Event :=
  [.start (carrying "mine"), .start (carrying "mine"), .act 0 (.act .destroy)]

lemma world_destroy (t : Traffic) (n : Nat) :
    (t.step (.act n (.act .destroy))).world = t.world := by
  rcases hn : t.pending.get? n with _ | p
  · simp only [step, hn]
  · rw [step_act hn]
    simp only [Step.run]
    cases (t.exchange p.slot).slot.session <;> rfl

/-- The second request still has the session when the first has destroyed it. -/
lemma run_overlapping :
    ((guarding.run overlapping).exchange {}).Guards "mine" mine ∧
      (guarding.run overlapping).world = guarding.world ∧
      ∃ first second, Session.HasUtcExpiry { mine with expiry := some second } ∧
        Session.LivesAt { mine with expiry := some second } 0 ∧
        (guarding.run overlapping).pending.get? 0 = some ⟨carrying "mine",
          ⟨some { mine with expiry := some first, destroyed := true }, false⟩⟩ ∧
        (guarding.run overlapping).pending.get? 1 = some ⟨carrying "mine",
          ⟨some { mine with expiry := some second }, false⟩⟩ := by
  obtain ⟨hguards, hworld, hbegun, first, -, -, hpendings⟩ :=
    step_start_of_guards (t := guarding) rfl Exchange.guards_holdingMine
  obtain ⟨hguards', hworld', -, second, hutc, hlives, hpendings'⟩ :=
    step_start_of_guards (config_step guarding _) hguards
  rw [hbegun] at hpendings'
  rw [overlapping, run_cons, run_cons, run_cons, run_nil]
  generalize (guarding.step (.start (carrying "mine"))).step (.start (carrying "mine")) = u
    at hguards' hworld' hpendings' ⊢
  have hfirst : u.pending.get? 0 =
      some ⟨carrying "mine", ⟨some { mine with expiry := some first }, false⟩⟩ := by
    rw [hpendings', if_neg (show ¬ 0 = guarding.begun + 1 by decide), hpendings,
      if_pos (show 0 = guarding.begun from rfl)]
    rfl
  have hsecond : u.pending.get? 1 =
      some ⟨carrying "mine", ⟨some { mine with expiry := some second }, false⟩⟩ := by
    rw [hpendings', if_pos (show 1 = guarding.begun + 1 from rfl)]
    rfl
  refine ⟨?_, ?_, first, second, hutc, hlives, ?_, ?_⟩
  · rw [exchange, world_destroy, backend_act]
    exact hguards'
  · rw [world_destroy, hworld', hworld]
  · rw [pending_act hfirst]
    rfl
  · rw [pending_act hfirst]
    exact hsecond

lemma destroy_of_guards (h : (t.exchange {}).Guards token s) (gone : Session) :
    (t.backend.destroy gone).1 = .ok () :=
  Backend.destroy_congr h.emptied gone

/-- The first request ends by destroying the session, and the store forgets it. -/
lemma discarded_overlapping :
    ∃ p s, (guarding.run overlapping).pending.get? 0 = some p ∧
      guarding.config.ending p.request p.slot = .discarded s ∧ s.id = sessionId "mine" ∧
      ((guarding.run overlapping).backend.destroy s).1 = .ok () := by
  obtain ⟨hguards, -, first, -, -, -, hfirst, -⟩ := run_overlapping
  exact ⟨_, _, hfirst, ending_of_destroyed _ (isEncrypted_carrying "mine") rfl, rfl,
    destroy_of_guards hguards _⟩

/-- A request that comes when the session is gone starts with a new one, also if another has come
before it. -/
theorem not_revived_overlapping :
    ∃ y, hourly.start (carrying "mine") ((guarding.run (overlapping ++
      [.finish 0 (.plain "done"), .start (carrying "mine")])).exchange {}) =
        hourly.startAnew y := by
  obtain ⟨p, s, hn, hending, hid, hdone⟩ := discarded_overlapping
  have hstore : guarding.backend.store.HoldsRecords := trivial
  have hpresents : guarding.config.Presents (carrying "mine") "mine" := presents_carrying "mine"
  have hcookie : ∀ r, Event.start r ∈ [Event.start (carrying "mine")] →
      guarding.config.Presents r "mine" := by
    intro r hr
    cases List.mem_singleton.1 hr
    exact hpresents
  have hdraws : ((guarding.run overlapping).step (.finish 0 (.plain "done"))).Along
      (fun u e => e.draws = true → sessionId u.world.nextCookieValue ≠ sessionId "mine")
      [.start (carrying "mine")] := by
    refine ⟨fun _ => ?_, trivial⟩
    rw [world_finish, run_overlapping.2.1]
    change sessionId holdingMine.world.nextCookieValue ≠ sessionId "mine"
    decide +kernel
  obtain ⟨y, -, hstart⟩ | ⟨between, e, rest, hafter, n, answer, _, _, _, rfl, -⟩ :=
    not_revived hstore rfl hn hending hid hdone hcookie hdraws hpresents
  · exact ⟨y, hstart⟩
  · have hfinish : Event.finish n answer ∈ [Event.start (carrying "mine")] := by
      rw [hafter]
      exact List.mem_append_right _ List.mem_cons_self
    cases List.mem_singleton.1 hfinish

/-- A request that comes when another has stored a session has that session. -/
lemma start_of_stored {gone : Session} (hconfig : t.config = hourly)
    (hguards : (t.exchange {}).Guards token gone)
    (hn : t.pending.get? 1 = some ⟨carrying token, ⟨some s, false⟩⟩) (hdestroyed : s.destroyed = false) (hid : s.id = sessionId token) (hutc : s.HasUtcExpiry)
    (hlives : s.LivesAt 0) :
    ∃ expiry y, hourly.start (carrying token) (((t.step (.finish 0 (.plain "done"))).step
      (.finish 1 (.plain "done"))).exchange {}) =
        (.ok { s.recorded with expiry := some expiry }, y) := by
  have hn' : (t.step (.finish 0 (.plain "done"))).pending.get? 1 =
      some ⟨carrying token, ⟨some s, false⟩⟩ := by
    rw [pending_finish, if_neg (by decide), hn]
  have hemptied : (t.step (.finish 0 (.plain "done"))).backend.emptied =
      atEpoch.backend.emptied := (emptied_step _ _).trans hguards.emptied
  have hstore : (t.step (.finish 0 (.plain "done"))).backend.store.HoldsRecords :=
    holdsRecords_run hguards.holdsRecords [.finish 0 (.plain "done")]
  have hchanges := changes_finish ((config_step _ _).trans hconfig) hemptied hn' hdestroyed
    (.plain "done")
  have hguards' : (((t.step (.finish 0 (.plain "done"))).step
      (.finish 1 (.plain "done"))).exchange {}).Guards token s := by
    refine ⟨?_, (emptied_step _ _).trans hemptied, ?_, hutc, hlives⟩
    · rw [exchange, world_finish, world_finish]
      exact hguards.now
    · rw [← hid]
      exact recordOf?_of_changes hstore hchanges
  obtain ⟨found, y, hstart, ⟨expiry, rfl⟩, -⟩ :=
    hguards'.start (presents_carrying token)
  exact ⟨expiry, y, hstart⟩

/-- The second request stores the session when the first has destroyed it, and requests that come
later have it again. -/
theorem revived_overlapping :
    (∃ p s, (guarding.run overlapping).pending.get? 0 = some p ∧
      guarding.config.ending p.request p.slot = .discarded s ∧ s.id = sessionId "mine" ∧
      ((guarding.run overlapping).backend.destroy s).1 = .ok ()) ∧
    ∃ expiry y, hourly.start (carrying "mine") ((guarding.run (overlapping ++
      [.finish 0 (.plain "done"), .finish 1 (.plain "done")])).exchange {}) =
        (.ok { mine with expiry := some expiry }, y) := by
  refine ⟨discarded_overlapping, ?_⟩
  obtain ⟨hguards, -, -, second, hutc, hlives, -, hsecond⟩ := run_overlapping
  have hconfig := config_run guarding overlapping
  rw [run_append, run_cons, run_cons, run_nil]
  exact start_of_stored hconfig hguards hsecond rfl rfl hutc hlives

end SessionCookies.Traffic
