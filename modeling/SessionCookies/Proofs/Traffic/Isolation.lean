import SessionCookies.Proofs.Traffic.Basic

/-!
# Isolation

The record under an id changes only when a request is finished whose session has that id then, or
when a request comes with a token of that id and the record is of no use (`Changes`). So requests
on other ids do not change what a token leads to, and of several requests on one id the last one to
change the record decides what it is.
-/

namespace SessionCookies.Traffic

open SessionConfig

variable {t : Traffic} {e : Event} {events : List Event} {id token : String}

/-! ### Stores -/

lemma emptied_step (t : Traffic) (e : Event) : (t.step e).backend.emptied = t.backend.emptied := by
  cases e with
  | start r =>
    have hemptied := t.config.emptied_start r (t.exchange {})
    simp only [step]
    rcases hstart : t.config.start r (t.exchange {}) with ⟨fault | s, x⟩ <;>
    · rw [hstart] at hemptied
      exact hemptied
  | act n step => rw [backend_act]
  | finish n answer =>
    rcases hn : t.pending.get? n with _ | p
    · simp only [step, hn]
    · rw [step_finish hn]
      cases t.config.ending p.request p.slot with
      | discarded s => exact Backend.emptied_destroy _ s
      | kept s => exact Backend.emptied_save _ s _
      | _ => rfl
  | fail n => rfl
  | wait micros => rfl

lemma emptied_run (t : Traffic) (events : List Event) :
    (t.run events).backend.emptied = t.backend.emptied := by
  induction events generalizing t with
  | nil => rfl
  | cons e rest ih => exact (ih (t.step e)).trans (t.emptied_step e)

lemma holdsRecords_run (h : t.backend.store.HoldsRecords) (events : List Event) :
    (t.run events).backend.store.HoldsRecords :=
  h.of_emptied_eq (congrArg Backend.store (t.emptied_run events))

/-! ### What changes a record -/

/-- What an event makes of the record under an id, if the event changes it. -/
inductive Changes (t : Traffic) (id : String) : Event → Option String → Prop
  /-- A request is finished, and its session is stored under its id. -/
  | stored {n : Nat} {p : Pending} {s : Session} {given : Option String} (answer : Response)
      (hn : t.pending.get? n = some p) (hending : t.config.ending p.request p.slot = .kept s)
      (hid : s.id = id)
      (hsaved : (t.backend.save s t.world.now).1 = .ok given)
      (hlives : ¬ t.backend.store.Lapses s t.world.now) :
      t.Changes id (.finish n answer) (some s.record)
  /-- A request is finished, and its session has expired. -/
  | lapsed {n : Nat} {p : Pending} {s : Session} {given : Option String} (answer : Response)
      (hn : t.pending.get? n = some p) (hending : t.config.ending p.request p.slot = .kept s)
      (hid : s.id = id)
      (hsaved : (t.backend.save s t.world.now).1 = .ok given)
      (hlapses : t.backend.store.Lapses s t.world.now) :
      t.Changes id (.finish n answer) none
  /-- A request is finished, and its session is destroyed. -/
  | destroyed {n : Nat} {p : Pending} {s : Session} (answer : Response)
      (hn : t.pending.get? n = some p) (hending : t.config.ending p.request p.slot = .discarded s)
      (hid : s.id = id) (hdone : (t.backend.destroy s).1 = .ok ()) :
      t.Changes id (.finish n answer) none
  /-- A request comes with a token of the id, and the record in memory is of no use. -/
  | dropped {r : Request} {token : String} (hpresents : t.config.Presents r token)
      (hid : sessionId token = id) (hasked : t.backend.failing .load = none)
      (hstale : t.backend.store.HoldsStale t.world.now id) :
      t.Changes id (.start r) none

lemma recordOf?_start (t : Traffic) (r : Request) (id : String) :
    (t.step (.start r)).recordOf? id =
      (t.config.sought r (t.exchange {})).2.backend.store.recordOf? none id := by
  have hbackend := t.config.backend_start r (t.exchange {})
  simp only [recordOf?, step]
  rcases hstart : t.config.start r (t.exchange {}) with ⟨fault | s, x⟩ <;>
  · rw [hstart] at hbackend
    rw [← hbackend]

/-- What an event changes, it changes so. -/
theorem recordOf?_of_changes (hstore : t.backend.store.HoldsRecords) {record : Option String}
    (h : t.Changes id e record) : (t.step e).recordOf? id = record := by
  cases h with
  | stored answer hn hending hid hsaved hlives =>
    obtain ⟨-, hrecord⟩ | ⟨hlapses, -⟩ := Backend.recordOf?_save_of_ok hstore hsaved
    · rw [step_finish hn, hending]
      exact (hrecord id).trans (if_pos hid.symm)
    · exact absurd hlapses hlives
  | lapsed answer hn hending hid hsaved hlapses =>
    obtain ⟨hlives, -⟩ | ⟨-, hrecord⟩ := Backend.recordOf?_save_of_ok hstore hsaved
    · exact absurd hlapses hlives
    · rw [step_finish hn, hending]
      exact (hrecord id).trans (if_pos hid.symm)
  | destroyed answer hn hending hid hdone =>
    rw [step_finish hn, hending]
    exact (Backend.recordOf?_destroy_of_ok hdone id).trans (if_pos hid.symm)
  | dropped hpresents hid hasked hstale =>
    obtain ⟨log, hsought⟩ := sought_of_presents hpresents (t.exchange {})
    rw [recordOf?_start, hsought]
    subst hid
    exact Backend.recordOf?_load_of_holdsStale hasked hstale

section Finish

variable {n : Nat} {p : Pending} {s : Session}

lemma recordOf?_discarded (hn : t.pending.get? n = some p)
    (hending : t.config.ending p.request p.slot = .discarded s) (answer : Response) :
    (t.backend.destroy s).2.store.recordOf? none id = t.recordOf? id ∨
      t.Changes id (.finish n answer) ((t.backend.destroy s).2.store.recordOf? none id) := by
  rcases hdone : (t.backend.destroy s).1 with fault | _
  · exact .inl (Backend.recordOf?_destroy_of_error hdone id)
  · rw [Backend.recordOf?_destroy_of_ok hdone]
    split_ifs with hid
    · exact .inr (.destroyed answer hn hending hid.symm hdone)
    · exact .inl rfl

lemma recordOf?_kept (hstore : t.backend.store.HoldsRecords) (hn : t.pending.get? n = some p)
    (hending : t.config.ending p.request p.slot = .kept s) (answer : Response) :
    (t.backend.save s t.world.now).2.2.store.recordOf? none id = t.recordOf? id ∨
      t.Changes id (.finish n answer)
        ((t.backend.save s t.world.now).2.2.store.recordOf? none id) := by
  rcases hsaved : (t.backend.save s t.world.now).1 with fault | given
  · exact .inl (Backend.recordOf?_save_of_error hsaved id)
  · obtain ⟨hlives, hrecord⟩ | ⟨hlapses, hrecord⟩ := Backend.recordOf?_save_of_ok hstore hsaved
    · rw [hrecord]
      split_ifs with hid
      · exact .inr (.stored answer hn hending hid.symm hsaved hlives)
      · exact .inl rfl
    · rw [hrecord]
      split_ifs with hid
      · exact .inr (.lapsed answer hn hending hid.symm hsaved hlapses)
      · exact .inl rfl

end Finish

/-- The record under an id is changed by no other events. -/
theorem recordOf?_step (hstore : t.backend.store.HoldsRecords) (e : Event) (id : String) :
    (t.step e).recordOf? id = t.recordOf? id ∨ t.Changes id e ((t.step e).recordOf? id) := by
  cases e with
  | start r =>
    rw [recordOf?_start]
    obtain ⟨token, hpresents, log, hsought⟩ | ⟨-, log, hsought⟩ :=
      t.config.sought_cases r (t.exchange {})
    · rw [hsought]
      obtain hsame | ⟨hasked, hid, hstale, hnone⟩ :=
        t.backend.recordOf?_load token t.world.now none id
      · exact .inl hsame
      · right
        change t.Changes id _ ((t.backend.load token t.world.now).2.store.recordOf? none id)
        rw [hnone]
        exact .dropped hpresents hid.symm hasked hstale
    · rw [hsought]
      exact .inl rfl
  | act n step =>
    left
    rw [recordOf?, backend_act, recordOf?]
  | finish n answer =>
    rcases hn : t.pending.get? n with _ | p
    · left
      simp only [step, hn]
    · have hrecord : (t.step (.finish n answer)).recordOf? id =
          (finalBackend (t.exchange p.slot)
            (t.config.ending p.request p.slot)).store.recordOf? none id := by
        rw [step_finish hn]
        rfl
      rw [hrecord]
      cases hending : t.config.ending p.request p.slot with
      | discarded s => exact recordOf?_discarded hn hending answer
      | kept s => exact recordOf?_kept hstore hn hending answer
      | _ => exact .inl rfl
  | fail n => exact .inl rfl
  | wait micros => exact .inl rfl

/-! ### Runs -/

/-- An event that has to do with an id: a request comes with a token of the id, or one is finished
whose session has the id. -/
def Concerns (t : Traffic) (id : String) : Event → Prop
  | .start r => ∃ token, t.config.Presents r token ∧ sessionId token = id
  | .finish n _ => ∃ p s, t.pending.get? n = some p ∧ p.slot.session = some s ∧ s.id = id
  | _ => False

/-- An event that does not change the record under an id. -/
def Spares (id : String) (t : Traffic) (e : Event) : Prop := ∀ record, ¬ t.Changes id e record

lemma concerns_of_changes {record : Option String} (h : t.Changes id e record) :
    t.Concerns id e := by
  cases h with
  | stored _ hn hending hid | lapsed _ hn hending hid =>
    exact ⟨_, _, hn, (of_ending (.inr hending)).1, hid⟩
  | destroyed _ hn hending hid => exact ⟨_, _, hn, (of_ending (.inl hending)).1, hid⟩
  | dropped hpresents hid => exact ⟨_, hpresents, hid⟩

lemma recordOf?_run_of_spares (hstore : t.backend.store.HoldsRecords)
    (h : t.Along (Spares id) events) : (t.run events).recordOf? id = t.recordOf? id := by
  induction events generalizing t with
  | nil => rfl
  | cons e rest ih =>
    have hstep : (t.step e).recordOf? id = t.recordOf? id :=
      (recordOf?_step hstore e id).resolve_right (h.1 _)
    exact (ih (holdsRecords_run hstore [e]) h.2).trans hstep

/-- Events that have to do with other ids do not change what a token leads to. -/
lemma load_run_of_not_concerns (hstore : t.backend.store.HoldsRecords)
    (h : t.Along (fun u e => ¬ u.Concerns (sessionId token) e) events) (now : Int) :
    ((t.run events).backend.load token now).1 = (t.backend.load token now).1 := by
  have hspares : t.Along (Spares (sessionId token)) events := by
    apply h.mono
    intro u e hconcerns record hchanges
    exact hconcerns (concerns_of_changes hchanges)
  apply Backend.load_congr (t.emptied_run events)
  rw [(holdsRecords_run hstore events).recordOf?_eq, hstore.recordOf?_eq]
  exact recordOf?_run_of_spares hstore hspares

/-- After events the record under an id is what the last event that changed it has made of it. -/
lemma recordOf?_run (hstore : t.backend.store.HoldsRecords) (events : List Event) (id : String) :
    t.Along (Spares id) events ∨
      ∃ before e after record, events = before ++ e :: after ∧
        (t.run before).Changes id e record ∧ (t.run (before ++ [e])).Along (Spares id) after ∧
        (t.run events).recordOf? id = record := by
  induction events generalizing t with
  | nil => exact .inl trivial
  | cons e rest ih =>
    have hstore' : (t.step e).backend.store.HoldsRecords := holdsRecords_run hstore [e]
    obtain hspares | ⟨before, e', after, record, rfl, hchanges, hspares, hrecord⟩ := ih hstore'
    · by_cases hchanges : ∃ record, t.Changes id e record
      · obtain ⟨record, hchanges⟩ := hchanges
        refine .inr ⟨[], e, rest, record, rfl, hchanges, hspares, ?_⟩
        exact (recordOf?_run_of_spares hstore' hspares).trans
          (recordOf?_of_changes hstore hchanges)
      · exact .inl ⟨not_exists.1 hchanges, hspares⟩
    · exact .inr ⟨e :: before, e', after, record, rfl, hchanges, hspares, hrecord⟩

/-- Whatever requests a service is answering, in whatever order, each event leaves the record under
an id as it is or makes of it what `Changes` says. Requests on other ids do not change what a token
leads to. After all events the record is what it was, if none of them changed it, and otherwise what
the last one to change it has made of it. -/
theorem isolation (hstore : t.backend.store.HoldsRecords) (events : List Event) :
    (∀ e id, ((t.run events).step e).recordOf? id = (t.run events).recordOf? id ∨
        (t.run events).Changes id e (((t.run events).step e).recordOf? id)) ∧
      (∀ e id record, (t.run events).Changes id e record →
        ((t.run events).step e).recordOf? id = record) ∧
      (∀ token, t.Along (fun u e => ¬ u.Concerns (sessionId token) e) events →
        ∀ now, ((t.run events).backend.load token now).1 = (t.backend.load token now).1) ∧
      ∀ id, t.Along (Spares id) events ∧ (t.run events).recordOf? id = t.recordOf? id ∨
        ∃ before e after record, events = before ++ e :: after ∧
          (t.run before).Changes id e record ∧ (t.run (before ++ [e])).Along (Spares id) after ∧
          (t.run events).recordOf? id = record := by
  have hstore' := holdsRecords_run hstore events
  refine ⟨recordOf?_step hstore', fun e id record => recordOf?_of_changes hstore',
    fun token => load_run_of_not_concerns hstore, fun id => ?_⟩
  obtain hspares | hlast := recordOf?_run hstore events id
  · exact .inl ⟨hspares, recordOf?_run_of_spares hstore hspares⟩
  · exact .inr hlast

/-! ### A service with one session -/

/-- The service that holds one session in memory. -/
def guarding : Traffic :=
  { config := hourly, world := holdingMine.world, backend := holdingMine.backend }

/-- A request with the token of a session that is held comes to have it in its slot. -/
lemma step_start_of_guards {s : Session} (hconfig : t.config = hourly)
    (h : (t.exchange {}).Guards token s) :
    ((t.step (.start (carrying token))).exchange {}).Guards token s ∧
      (t.step (.start (carrying token))).world = t.world ∧
      (t.step (.start (carrying token))).begun = t.begun + 1 ∧
      ∃ expiry, Session.HasUtcExpiry { s.recorded with expiry := some expiry } ∧
        Session.LivesAt { s.recorded with expiry := some expiry } 0 ∧
        ∀ n, (t.step (.start (carrying token))).pending.get? n = if n = t.begun then
          some ⟨carrying token, ⟨some { s.recorded with expiry := some expiry }, false⟩⟩
          else t.pending.get? n := by
  obtain ⟨s', x, hstart, ⟨expiry, rfl⟩, hslot, hworld, hguards, hutc, hlives⟩ :=
    h.start (presents_carrying token)
  rw [← hconfig] at hstart
  refine ⟨?_, ?_, by rw [step_start_of_ok hstart], expiry, hutc, hlives, fun n => ?_⟩
  · rw [step_start_of_ok hstart]
    exact ⟨hguards.now, hguards.emptied, hguards.recordOf?, hguards.hasUtcExpiry, hguards.livesAt⟩
  · rw [step_start_of_ok hstart]
    exact hworld
  · rw [pending_start hstart, hslot]
    rfl

/-- A service in memory that does not fail stores the session of a request that is finished. -/
lemma changes_finish {n : Nat} {s : Session} (hconfig : t.config = hourly)
    (hemptied : t.backend.emptied = atEpoch.backend.emptied)
    (hn : t.pending.get? n = some ⟨carrying token, ⟨some s, false⟩⟩)
    (hdestroyed : s.destroyed = false) (answer : Response) :
    t.Changes s.id (.finish n answer) (some s.record) := by
  have hending : t.config.ending (carrying token) ⟨some s, false⟩ = .kept s := by
    rw [hconfig]
    exact ending_of_kept (isEncrypted_carrying token) hdestroyed rfl
  have hsaved : (t.backend.save s t.world.now).1 = .ok s.cookieValue :=
    Backend.save_congr hemptied s t.world.now
  refine .stored answer hn hending rfl hsaved fun hlapses => ?_
  have hnever : atEpoch.backend.store.Lapses s t.world.now :=
    hlapses.of_emptied_eq (congrArg Backend.store hemptied.symm)
  exact hnever

/-- A request on one session stores it with an hour to live, and another token leads where it
led. -/
theorem isolation_guarding :
    guarding.backend.store.HoldsRecords ∧
      (∃ expiry, (guarding.run [.start (carrying "mine"), .finish 0 (.plain "done")]).recordOf?
        (sessionId "mine") = some { mine with expiry := some expiry }.record) ∧
      ∀ now, ((guarding.run [.start (carrying "mine"),
        .finish 0 (.plain "done")]).backend.load "yours" now).1 =
          (guarding.backend.load "yours" now).1 := by
  have hstore : guarding.backend.store.HoldsRecords := trivial
  have hids : sessionId "mine" ≠ sessionId "yours" := by decide +kernel
  obtain ⟨-, -, -, expiry, -, -, hpendings⟩ :=
    step_start_of_guards (t := guarding) rfl Exchange.guards_holdingMine
  have hpending : (guarding.step (.start (carrying "mine"))).pending.get? 0 =
      some ⟨carrying "mine", ⟨some { mine with expiry := some expiry }, false⟩⟩ := hpendings 0
  refine ⟨hstore, ⟨expiry, ?_⟩, ?_⟩
  · have hrecord := (isolation hstore [.start (carrying "mine")]).2.1 (.finish 0 (.plain "done"))
    rw [run_cons, run_nil] at hrecord
    rw [run_cons, run_cons, run_nil]
    apply hrecord
    exact changes_finish (config_step _ _) (emptied_step _ _) hpending rfl _
  · apply (isolation hstore _).2.2.1 "yours"
    refine ⟨?_, ?_, trivial⟩
    · rintro ⟨token, hpresents, hid⟩
      cases eq_of_presents hpresents (presents_carrying "mine")
      exact hids hid
    · rintro ⟨p, s, hn, hs, hid⟩
      cases hpending.symm.trans hn
      cases hs
      exact hids hid

end SessionCookies.Traffic
