import SessionCookies.Proofs.Handler.Headers
import SessionCookies.Proofs.Visit.Basic

/-!
# The start of a request in a visit

When a client's cookie recalls the session that the client may expect, and that a request which
comes with such a cookie starts with that session in the slot (`start_of_recalls`).
-/

namespace SessionCookies

/-! ### Stores that do not fail -/

namespace Backend

/-- A store that comes with the service and does not fail. -/
structure IsSound (b : Backend) : Prop where
  isShipped : b.store.IsShipped
  failing : ∀ call, b.failing call = none

variable {b : Backend}

lemma load_of_isSound (h : b.IsSound) (token : String) (now : Int) :
    b.load token now = ((b.store.load token now).1,
      { b.record .load with store := (b.store.load token now).2 }) := by
  have hfailing : (b.record .load).failing .load = none := h.failing .load
  simp only [load, hfailing]
  rfl

lemma save_of_isSound (h : b.IsSound) (s : Session) (now : Int) :
    b.save s now = ((b.store.save s now).1, (b.store.save s now).2.1,
      { b.record .store with store := (b.store.save s now).2.2 }) := by
  have hfailing : (b.record .store).failing .store = none := h.failing .store
  simp only [save, hfailing]
  rfl

lemma destroy_of_isSound (h : b.IsSound) (s : Session) :
    b.destroy s = ((b.store.destroy s).1,
      { b.record .destroy with store := (b.store.destroy s).2 }) := by
  have hfailing : (b.record .destroy).failing .destroy = none := h.failing .destroy
  simp only [destroy, hfailing]
  rfl

end Backend

namespace SessionConfig

variable {c : SessionConfig} {r : Request} {x : Exchange} {s : Session} {now : Int}

/-! ### Cookies that recall sessions -/

/-- What a client has recalls the session that it may expect, if any: its cookie is that of a token
which leads to the session. -/
inductive Recalls (c : SessionConfig) (store : Store) (now : Int) : Jar → Option Session → Prop
  | nothing : Recalls c store now none none
  | kept {jar : Jar} {token : String} {s : Session} (hjar : c.Holds jar token)
      (hutc : s.HasUtcExpiry) (hleads : store.Leads token s now) :
      Recalls c store now jar (some s.recorded)

lemma Recalls.of_le {store : Store} {later : Int} {jar : Jar} {view : Option Session}
    (h : c.Recalls store now jar view) (hle : now ≤ later) : c.Recalls store later jar view := by
  cases h with
  | nothing => exact .nothing
  | kept hjar hutc hleads => exact .kept hjar hutc (hleads.of_le hle)

lemma Recalls.not_mem_jar {store : Store} {jar : Jar} {view : Option Session}
    (h : c.Recalls store now jar view) : ∀ value ∈ jar, ';' ∉ value := by
  cases h with
  | nothing => simp
  | kept hjar hutc hleads =>
    obtain ⟨key, -, rfl⟩ := hjar
    rintro value ⟨⟩
    exact Cookie.not_mem_encode _

/-! ### The beginning of a request -/

/-- A session whose life begins anew differs from what it was in its expiry alone. -/
lemma beginWith_of_hasDates (hdates : c.HasDates x.world.now) (hutc : s.HasUtcExpiry) :
    ∃ expiry, c.beginWith s x =
        (.ok { s with expiry }, x.setSession (some { s with expiry })) ∧
      ∀ t ∈ expiry, t.offset = some 0 := by
  obtain ⟨expiry, hprolonged, hexpiry⟩ := prolonged_of_hasDates hdates s
  refine ⟨expiry, by simp only [beginWith, hprolonged], ?_⟩
  obtain rfl | hexpiry := hexpiry
  · exact hutc
  · exact hexpiry

/-- A request that started with a session in the slot, where the client can be given or has a token
for the session, and what the client has still recalls what it did. -/
structure Started (c : SessionConfig) (x y : Exchange) (jar : Jar) (view : Option Session)
    (s : Session) : Prop where
  session : y.slot.session = some s
  now : y.world.now = x.world.now
  isSound : y.backend.IsSound
  hasUtcExpiry : s.HasUtcExpiry
  recalls : c.Recalls y.backend.store x.world.now jar view
  accepts : ∃ old, y.backend.store.Accepts old s ∧ ∀ token ∈ old, c.Holds jar token
  continues : s.Continues view x.world

lemma startAnew_of_hasDates {y : Exchange} {jar : Jar} {view : Option Session}
    (hdates : c.HasDates x.world.now) (hworld : y.world = x.world) (hsound : y.backend.IsSound)
    (hrecalls : c.Recalls y.backend.store x.world.now jar view)
    (hview : ∀ kept, view = some kept → ¬ kept.LivesAt x.world.now) :
    ∃ s z, c.startAnew y = (.ok s, z) ∧ c.Started x z jar view s := by
  have hdates' : c.HasDates y.freshSession.2.world.now := by
    rw [← hworld] at hdates
    exact hdates
  have hutc : y.freshSession.1.HasUtcExpiry := by
    intro t ht
    cases ht
  obtain ⟨expiry, hbegin, hutc'⟩ := beginWith_of_hasDates hdates' hutc
  refine ⟨_, _, hbegin, ?_⟩
  constructor
  · rfl
  · rw [← hworld]
    rfl
  · exact hsound
  · exact hutc'
  · exact hrecalls
  · refine ⟨none, ⟨?_, ?_⟩, ?_⟩
    · rintro value ⟨⟩
      exact ⟨rfl, _, rfl⟩
    · intro hvalue
      cases hvalue
    · intro token htoken
      cases htoken
  · refine .inr ⟨hview, ?_, rfl⟩
    rw [← hworld]
    rfl

lemma beginWith_of_found {y : Exchange} {jar : Jar} {token : String}
    (hdates : c.HasDates x.world.now) (hworld : y.world = x.world) (hsound : y.backend.IsSound)
    (hjar : c.Holds jar token) (hutc : s.HasUtcExpiry) (hlives : s.LivesAt x.world.now)
    (hleads : y.backend.store.Leads token s x.world.now) :
    ∃ t z, c.beginWith s.recorded y = (.ok t, z) ∧ c.Started x z jar (some s.recorded) t := by
  have hdates' : c.HasDates y.world.now := by
    rwa [hworld]
  have hrecorded : s.recorded.HasUtcExpiry := hutc
  obtain ⟨expiry, hbegin, hutc'⟩ := beginWith_of_hasDates hdates' hrecorded
  refine ⟨_, _, hbegin, ?_⟩
  constructor
  · rfl
  · rw [Exchange.setSession, hworld]
  · exact hsound
  · exact hutc'
  · exact .kept hjar hutc hleads
  · refine ⟨some token, ⟨?_, ?_⟩, ?_⟩
    · intro value hvalue
      cases hvalue
    · intro _ hstore
      exact ⟨token, rfl, hleads.id_eq hstore⟩
    · rintro token ⟨⟩
      exact hjar
  · exact .inl ⟨_, rfl, hlives, rfl, rfl⟩

/-- A request that comes with the client's cookie starts, and its handler finds the session that the
client may expect. -/
theorem start_of_recalls {jar : Jar} {view : Option Session}
    (hname : Cookie.isLegalName c.cookieName = true) (hdates : c.HasDates x.world.now)
    (hsound : x.backend.IsSound) (hrecalls : c.Recalls x.backend.store x.world.now jar view)
    (hr : r.SendsBack c.cookieName jar) :
    ∃ s y, c.start r x = (.ok s, y) ∧ c.Started x y jar view s := by
  cases hrecalls with
  | nothing =>
    obtain ⟨token, hpresents, -⟩ | ⟨-, log, hsought⟩ := c.sought_cases r x
    · exact absurd hpresents (not_presents_of_sendsBack_none hr token)
    · rw [start_of_sought_none (by rw [hsought]), hsought]
      refine startAnew_of_hasDates hdates rfl hsound .nothing ?_
      intro kept hkept
      cases hkept
  | @kept jar token s hjar hutc hleads =>
    have hpresents := presents_of_holds hname hr hjar
    obtain ⟨token', hpresents', log, hsought⟩ | ⟨hnot, -⟩ := c.sought_cases r x
    · obtain rfl := eq_of_presents hpresents hpresents'
      -- the token still leads to the session after the store has been asked, found or not
      obtain ⟨hfound, hshipped, hleads'⟩ := Store.load_of_leads hsound.isShipped hutc hleads
      rw [Backend.load_of_isSound hsound] at hsought
      obtain ⟨hload, hlives⟩ | ⟨hload, hlives⟩ := hfound
      · rw [hload] at hsought
        rw [start_of_sought_some (by rw [hsought]; rfl), hsought]
        exact beginWith_of_found hdates rfl ⟨hshipped, hsound.failing⟩ hjar hutc hlives hleads'
      · rw [hload] at hsought
        rw [start_of_sought_none (by rw [hsought]; rfl), hsought]
        refine startAnew_of_hasDates hdates rfl ⟨hshipped, hsound.failing⟩
          (.kept hjar hutc hleads') ?_
        rintro kept ⟨⟩
        exact hlives
    · exact absurd hpresents (hnot token)

end SessionConfig

end SessionCookies
