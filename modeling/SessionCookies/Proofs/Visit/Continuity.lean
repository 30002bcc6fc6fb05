import SessionCookies.Proofs.Visit.Finish
import SessionCookies.Proofs.Visit.First

/-!
# Continuity of sessions

Whatever happens in a visit, the next request finds the session that the client may expect
(`resumes_of_reaches`), if the service can write the cookie: its name is legal, nothing in it is
above U+00FF, and the calendar has the moments at which sessions are to expire. Where one of these
fails a session that was kept is not found again, or a request does not even start.
-/

namespace SessionCookies

/-! ### Dates -/

lemma SessionConfig.HasDates.of_between {c d : SessionConfig} {first last now : Int}
    (hfirst : c.HasDates first) (hlast : d.HasDates last) (httl : d.ttl = c.ttl)
    (hle : first ≤ now) (hle' : now ≤ last) : c.HasDates now := by
  intro micros hmicros
  have h := Timestamp.ofInstant?_ok_iff.1 (hfirst micros hmicros)
  have h' := Timestamp.ofInstant?_ok_iff.1 (hlast micros (httl ▸ hmicros))
  rw [Timestamp.ofInstant?_ok_iff]
  omega

lemma SessionConfig.now_start (c : SessionConfig) (r : Request) (x : Exchange) :
    (c.start r x).2.world.now = x.world.now := by
  have hbegin (s : Session) (y : Exchange) : (c.beginWith s y).2.world = y.world := by
    rw [beginWith]
    split <;> rfl
  rcases hsought : (c.sought r x).1 with _ | s
  · rw [start_of_sought_none hsought, startAnew, hbegin]
    simp only [Exchange.freshSession, World.afterDraw, c.world_sought r x]
  · rw [start_of_sought_some hsought, hbegin, c.world_sought r x]

namespace Visit

open SessionConfig

variable {v w : Visit} {r : Request} {steps : List Step}
  {answer : Except Fault Unit → Except Fault Response}

/-! ### One event -/

/-- The clock of the service does not go back in a plain request. -/
lemma now_after (hsteps : ∀ step ∈ steps, step.isPlain = true) :
    v.world.now ≤ (v.after r steps answer).world.now := by
  have hnow := v.config.now_start r v.exchange
  rcases hstart : v.config.start r v.exchange with ⟨fault | s, y⟩
  · rw [hstart] at hnow
    simp only [after, SessionConfig.around, hstart]
    exact hnow.ge
  · rw [hstart] at hnow
    have hforward := hnow.ge.trans (now_runSteps hsteps (x := y))
    cases hanswer : answer (runSteps y steps).1 with
    | error fault =>
      rw [after_of_error hstart hanswer]
      exact hforward
    | ok a =>
      rw [after_of_ok hstart hanswer]
      exact hforward

/-- A visit in which nothing has gone wrong: the service can write its cookie, its store does not
fail, and what the client has recalls the session that it may expect. -/
structure IsSound (v : Visit) : Prop where
  isWritable : v.config.IsWritable
  backend : v.backend.IsSound
  recalls : v.config.Recalls v.backend.store v.world.now v.jar v.view

theorem isSound_after (hv : v.IsSound) (hdates : v.config.HasDates v.world.now)
    (h : v.Admits r steps answer)
    (hdates' : v.config.HasDates (v.after r steps answer).world.now) :
    (v.after r steps answer).IsSound := by
  obtain ⟨s, y, hstart, hstarted⟩ := SessionConfig.start_of_recalls hv.isWritable.name hdates
    (show v.exchange.backend.IsSound from hv.backend) hv.recalls h.sendsBack
  obtain ⟨old, haccepts, hold⟩ := hstarted.accepts
  have hbackend := backend_runSteps y steps
  have hsound : (runSteps y steps).2.backend.IsSound := by
    rw [hbackend]
    exact hstarted.isSound
  have hrecalls : v.config.Recalls (runSteps y steps).2.backend.store
      (runSteps y steps).2.world.now v.jar v.view := by
    -- the script has not touched the store, and time only makes records lapse
    rw [hbackend]
    exact hstarted.recalls.of_le (hstarted.now.ge.trans (now_runSteps h.isPlain))
  cases hanswer : answer (runSteps y steps).1 with
  | error fault =>
    rw [after_of_error hstart hanswer]
    exact ⟨hv.isWritable, hsound, hrecalls⟩
  | ok a =>
    rw [after_of_ok hstart hanswer] at hdates' ⊢
    have haccepted : (runSteps y steps).2.IsAccepted (runSteps y steps).2.backend.store old := by
      rw [hbackend]
      apply isAccepted_runSteps h.isPlain
      intro t ht
      cases hstarted.session.symm.trans ht
      exact haccepts
    obtain ⟨hsound', hrecalls'⟩ := SessionConfig.recalls_finish hv.isWritable hdates' hsound
      hrecalls (fun t => hasUtcExpiry_runSteps h.isPlain hstarted.session hstarted.hasUtcExpiry)
      haccepted hold (h.cookies s y a hstart hanswer) (h.livesAt s y a hstart hanswer)
    exact ⟨hv.isWritable, hsound', hrecalls'⟩

lemma recalls_of_keys {c d : SessionConfig} {store : Store} {now : Int} {jar : Jar}
    {view : Option Session} (hkeys : ∀ key ∈ c.keys.toList, key ∈ d.keys.toList)
    (h : c.Recalls store now jar view) : d.Recalls store now jar view := by
  cases h with
  | nothing => exact .nothing
  | kept hjar hutc hleads =>
    obtain ⟨key, hkey, hjar⟩ := hjar
    exact .kept ⟨key, hkeys key hkey, hjar⟩ hutc hleads

lemma recalls_lose {c : SessionConfig} {store : Store} {now : Int} {jar : Jar}
    {view : Option Session} {id record : String} {lost : Session}
    (hheld : store.recordOf? none id = some record) (hlost : Session.ofRecord? record = some lost)
    (hexpired : ¬ lost.LivesAt now) (h : c.Recalls store now jar view) :
    c.Recalls (store.lose id) now jar view := by
  cases h with
  | nothing => exact .nothing
  | kept hjar hutc hleads => exact .kept hjar hutc (hleads.lose hutc hheld hlost hexpired)

/-- An event changes of the configuration the keys alone, and the clock does not go back. -/
lemma Event.advances (h : Event v w) : w.config.ttl = v.config.ttl ∧ v.world.now ≤ w.world.now := by
  cases h with
  | request hadmits => exact ⟨rfl, now_after hadmits.isPlain⟩
  | rotate key => exact ⟨rfl, le_rfl⟩
  | withFallback key => exact ⟨rfl, le_rfl⟩
  | wait micros => exact ⟨rfl, Int.le_add_of_nonneg_right (Int.natCast_nonneg micros)⟩
  | lose hheld hlost hexpired => exact ⟨rfl, le_rfl⟩

/-- Nothing goes wrong in an event between moments for which the calendar has dates. -/
theorem Event.isSound (h : Event v w) (hv : v.IsSound) (hdates : v.config.HasDates v.world.now)
    (hdates' : w.config.HasDates w.world.now) : w.IsSound := by
  obtain ⟨⟨hname, hpath, hdomain⟩, hsound, hrecalls⟩ := hv
  cases h with
  | request hadmits =>
    exact isSound_after ⟨⟨hname, hpath, hdomain⟩, hsound, hrecalls⟩ hdates hadmits hdates'
  | rotate key =>
    refine ⟨⟨hname, hpath, hdomain⟩, hsound, recalls_of_keys ?_ hrecalls⟩
    intro other hother
    exact List.mem_cons_of_mem key hother
  | withFallback key =>
    refine ⟨⟨hname, hpath, hdomain⟩, hsound, recalls_of_keys ?_ hrecalls⟩
    intro other hother
    exact KeySet.toList_withFallback v.config.keys key ▸ List.mem_append_left _ hother
  | wait micros =>
    exact ⟨⟨hname, hpath, hdomain⟩, hsound,
      hrecalls.of_le (Int.le_add_of_nonneg_right (Int.natCast_nonneg micros))⟩
  | lose hheld hlost hexpired =>
    exact ⟨⟨hname, hpath, hdomain⟩, ⟨Store.isShipped_lose hsound.isShipped _, hsound.failing⟩,
      recalls_lose hheld hlost hexpired hrecalls⟩

/-! ### Any number of events -/

lemma Reaches.advances (h : Reaches v w) :
    w.config.ttl = v.config.ttl ∧ v.world.now ≤ w.world.now := by
  induction h with
  | refl => exact ⟨rfl, le_rfl⟩
  | tail _ hevent ih =>
    obtain ⟨httl, hle⟩ := hevent.advances
    exact ⟨httl.trans ih.1, ih.2.trans hle⟩

lemma IsNew.isSound (hnew : v.IsNew) (hc : v.config.IsWritable) : v.IsSound := by
  refine ⟨hc, ⟨hnew.isShipped, hnew.failing⟩, ?_⟩
  rw [hnew.jar, hnew.view]
  exact .nothing

/-- Nothing goes wrong in a visit between moments for which the calendar has dates. -/
theorem Reaches.isSound (h : Reaches v w) (hv : v.IsSound)
    (hdates : v.config.HasDates v.world.now) (hdates' : w.config.HasDates w.world.now) :
    w.IsSound := by
  induction h with
  | refl => exact hv
  | @tail u w hreaches hevent ih =>
    -- the calendar has no gaps, and the clock stands between its two ends
    obtain ⟨httl, hle⟩ := Reaches.advances hreaches
    obtain ⟨httl', hle'⟩ := hevent.advances
    have hbetween : u.config.HasDates u.world.now := by
      intro micros hmicros
      exact hdates.of_between hdates' (httl'.trans httl) hle hle' micros (httl ▸ hmicros)
    exact hevent.isSound (ih hbetween) hbetween hdates'

lemma IsSound.exists_sendsBack (hw : w.IsSound) :
    ∃ r : Request, r.SendsBack w.config.cookieName w.jar :=
  ⟨.ofJar w.config.cookieName w.jar, Request.sendsBack_ofJar
    (Cookie.isToken_of_isLegalName hw.isWritable.name) hw.recalls.not_mem_jar⟩

/-- Whatever has happened in a visit, a request that comes with the client's cookie starts, and its
handler finds the session that was last kept, with its id and its data in order, unless that was
destroyed or has expired; then it finds a new one. -/
theorem resumes_of_reaches (hnew : v.IsNew) (hc : v.config.IsWritable)
    (hdates : v.config.HasDates v.world.now) (hreaches : Reaches v w)
    (hdates' : w.config.HasDates w.world.now) (hr : r.SendsBack w.config.cookieName w.jar) :
    w.Resumes r := by
  have hw : w.IsSound := Reaches.isSound hreaches (hnew.isSound hc) hdates hdates'
  obtain ⟨s, x, hstart, hstarted⟩ := SessionConfig.start_of_recalls hw.isWritable.name hdates'
    (show w.exchange.backend.IsSound from hw.backend) hw.recalls hr
  exact ⟨s, x, hstart, hstarted.session, hstarted.continues⟩

/-- Half an hour after the first request, and after a rotation of the keys, the second request finds
the session with the mark. -/
theorem resumes_hourly :
    ∃ w r, Reaches (first hourly atEpoch.world .empty) w ∧ r.SendsBack w.config.cookieName w.jar ∧
      (∃ kept, w.view = some kept ∧ kept.LivesAt w.world.now ∧
        kept.data.get? "seen" = some "true") ∧
      w.Resumes r := by
  have hdates : hourly.HasDates 0 := hasDates_hourly le_rfl (by decide)
  have httl : ∀ micros ∈ hourly.ttl, 1800000000 < atEpoch.world.now + micros := by decide
  have hsecond := @event_second hourly atEpoch.world .empty hdates (by decide)
  obtain ⟨hconfig, hnow, ⟨expiry, hlives, hview⟩, -⟩ :=
    @second_spec hourly atEpoch.world .empty 1800000000 hdates httl
  generalize second hourly atEpoch.world .empty = u at hsecond hconfig hnow hview
  let key : Key := ⟨List.replicate keyLength 8, List.length_replicate⟩
  let w : Visit :=
    { u with
      config := u.config.rotate key
      world := { u.world with now := u.world.now + 1800000000 } }
  have hreaches : Reaches (first hourly atEpoch.world .empty) w :=
    ((Relation.ReflTransGen.single hsecond).tail (.rotate _ key)).tail (.wait _ 1800000000)
  have hlater : w.world.now = 1800000000 := by
    change u.world.now + 1800000000 = _
    rw [hnow]
    rfl
  have hdates' : w.config.HasDates w.world.now := by
    rw [hlater]
    change (u.config.rotate key).HasDates 1800000000
    rw [hconfig]
    exact hasDates_hourly (by decide) (by decide)
  have hnew := isNew_first hourly atEpoch.world .empty
  obtain ⟨r, hr⟩ :=
    (Reaches.isSound hreaches (hnew.isSound isWritable_hourly) hdates hdates').exists_sendsBack
  refine ⟨w, r, hreaches, hr, ⟨_, hview, by rw [hlater]; exact hlives, ?_⟩,
    resumes_of_reaches hnew isWritable_hourly hdates hreaches hdates' hr⟩
  exact (OrderedMap.get?_put _ _ _ _).trans (if_pos rfl)

/-! ### Where continuity ends -/

lemma hasDates_of_resumes (h : v.Resumes r) : v.config.HasDates v.world.now := by
  obtain ⟨s, x, hstart, -⟩ := h
  exact SessionConfig.hasDates_of_start hstart

/-- A service that cannot write its cookie keeps a session for a client that is not given it, and
does not find it in the next request. -/
theorem not_resumes_second {c : SessionConfig} {u : World} {records : OrderedMap String String}
    (hdates : c.HasDates u.now) (httl : ∀ micros ∈ c.ttl, 0 < micros) (hc : ¬ c.IsWritable) :
    ({} : Request).SendsBack c.cookieName (second c u records).jar ∧
      ¬ (second c u records).Resumes {} := by
  have hlater : ∀ micros ∈ c.ttl, u.now < u.now + micros := by
    intro micros hmicros
    exact lt_add_of_pos_right _ (httl micros hmicros)
  obtain ⟨-, hnow, ⟨expiry, hlives, hview⟩, hjar⟩ := @second_spec c u records u.now hdates hlater
  constructor
  · rw [hjar hc]
    intro piece hpiece
    cases hpiece
  · rintro ⟨s, x, hstart, -, ⟨kept, hkept, -, -, hdata⟩ | ⟨hexpired, -⟩⟩
    · rw [hview] at hkept
      cases hkept
      rw [SessionConfig.data_of_start hstart] at hdata
      have hmark : (marked u expiry).recorded.data.get? "seen" = some "true" :=
        (OrderedMap.get?_put _ _ _ _).trans (if_pos rfl)
      rw [← hdata] at hmark
      cases hmark
    · rw [hnow] at hexpired
      exact hexpired _ hview hlives

/-- A service whose cookie has the name of an attribute, so that it cannot be written. -/
def misnamed : SessionConfig := { hourly with cookieName := "path" }

/-- A service whose cookie has a path that cannot stand in a header. -/
def misplaced : SessionConfig := { hourly with cookiePath := "/\u0101" }

/-- A service whose sessions are to live for more years than the calendar has. -/
def ageless : SessionConfig := { hourly with ttl := some 1000000000000000000 }

/-- A service with an empty memory keeps a session in the first request of a client, and the second
request does not find it. -/
def Forgets (c : SessionConfig) : Prop :=
  (first c atEpoch.world .empty).IsNew ∧
    Reaches (first c atEpoch.world .empty) (second c atEpoch.world .empty) ∧
    ({} : Request).SendsBack c.cookieName (second c atEpoch.world .empty).jar ∧
    ¬ (second c atEpoch.world .empty).Resumes {}

/-- Not every visit goes on with the session that the client may expect: a session is lost where the
cookie has an illegal name or path, and no request starts where the calendar ends too early. -/
theorem not_always_resumes :
    Forgets misnamed ∧ Forgets misplaced ∧
      (first ageless atEpoch.world .empty).IsNew ∧
      ¬ (first ageless atEpoch.world .empty).Resumes {} := by
  have hforgets {c : SessionConfig} (httl : c.ttl = hourly.ttl) (hc : ¬ c.IsWritable) :
      Forgets c := by
    have hdates : c.HasDates atEpoch.world.now := by
      rw [HasDates, httl]
      exact hasDates_hourly le_rfl (by decide)
    have hpositive : ∀ micros ∈ c.ttl, 0 < micros := by
      rw [httl]
      decide
    exact ⟨isNew_first c _ _, .single (event_second hdates hpositive),
      not_resumes_second hdates hpositive hc⟩
  refine ⟨hforgets rfl ?_, hforgets rfl ?_, isNew_first ageless _ _, ?_⟩
  · rintro ⟨hname, -, -⟩
    revert hname
    decide
  · rintro ⟨-, hpath, -⟩
    revert hpath
    decide
  · intro hresumes
    obtain ⟨t, ht⟩ := hasDates_of_resumes hresumes 1000000000000000000 rfl
    have hlimit := (Timestamp.ofInstant?_ok_iff.1 ⟨t, ht⟩).2
    revert hlimit
    decide

end Visit

end SessionCookies
