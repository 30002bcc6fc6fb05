import SessionCookies.Proofs.Session.Identity
import SessionCookies.Proofs.Visit.Start

/-!
# The finish of a request in a visit

What a plain script leaves in the slot can be kept under a token that the client is given or has
(`isAccepted_runSteps`), and what the client has when the request is finished recalls the session
that it may expect then (`recalls_finish`).
-/

namespace SessionCookies

/-! ### Scripts -/

namespace Action

variable {a : Action}

lemma setsExpiry_of_isPlain (ha : a.isPlain = true) : a.setsExpiry = false := by
  cases a with
  | expireIn micros => cases ha
  | setExpiry t => cases ha
  | _ => rfl

lemma now_run (ha : a.isPlain = true) (s : Session) (w : World) :
    w.now ≤ (a.run s w).world.now := by
  cases a with
  | advance micros =>
    have hforward : 0 ≤ micros := of_decide_eq_true ha
    simp only [run]
    omega
  | insert name v =>
    simp only [run, Session.insert]
    cases v.toText? <;> exact le_rfl
  | append name v reinsert =>
    simp only [run]
    split
    · exact le_rfl
    · split <;> exact le_rfl
  | expireIn micros => cases ha
  | _ => exact le_rfl

/-- A plain action gives the session a new id and cookie value or leaves both alone. -/
lemma identity_run (ha : a.isPlain = true) (s : Session) (w : World) :
    ((a.run s w).session.id = s.id ∧ (a.run s w).session.cookieValue = s.cookieValue) ∨
      (a.run s w).session = s.regenerate w := by
  obtain hsame | ⟨rfl, -⟩ | ⟨-, hregenerate⟩ := a.identity_cases s w
  · exact .inl hsame
  · cases ha
  · exact .inr hregenerate

end Action

namespace Store

variable {store : Store} {old : Option String} {s t : Session}

lemma accepts_of_drawn {w : World} (hid : s.id = sessionId w.nextCookieValue)
    (hvalue : s.cookieValue = some w.nextCookieValue) : store.Accepts old s := by
  constructor
  · intro value h
    cases hvalue.symm.trans h
    exact ⟨hid, _, rfl⟩
  · intro h
    cases hvalue.symm.trans h

lemma Accepts.congr (h : store.Accepts old s) (hid : t.id = s.id)
    (hvalue : t.cookieValue = s.cookieValue) : store.Accepts old t := by
  constructor
  · rw [hid, hvalue]
    exact h.given
  · rw [hid, hvalue]
    exact h.known

end Store

/-- Every session in the slot can be kept under a token that a store gives or under an old one. -/
def Exchange.IsAccepted (x : Exchange) (store : Store) (old : Option String) : Prop :=
  ∀ s, x.slot.session = some s → store.Accepts old s

lemma Step.isAccepted_run {step : Step} (hstep : step.isPlain = true) {x : Exchange}
    {store : Store} {old : Option String} (hx : x.IsAccepted store old) :
    (step.run x).2.IsAccepted store old := by
  cases step with
  | act a =>
    intro s hs
    rcases hslot : x.slot.session with _ | t
    · simp only [run, hslot] at hs
      cases hs
    · simp only [run, hslot, Exchange.setSession] at hs
      cases hs
      obtain ⟨hid, hvalue⟩ | hregenerate := a.identity_run hstep t x.world
      · exact (hx t hslot).congr hid hvalue
      · rw [hregenerate]
        exact Store.accepts_of_drawn rfl rfl
  | replace =>
    intro s hs
    cases hs
    exact Store.accepts_of_drawn rfl rfl
  | take =>
    intro s hs
    cases hs
  | _ => exact hx

lemma Step.now_run {step : Step} (hstep : step.isPlain = true) (x : Exchange) :
    x.world.now ≤ (step.run x).2.world.now := by
  cases step with
  | act a =>
    simp only [run]
    split
    · exact le_rfl
    · exact a.now_run hstep _ _
  | _ => exact le_rfl

section Scripts

variable {steps : List Step} {x : Exchange}

lemma now_runSteps (hsteps : ∀ step ∈ steps, step.isPlain = true) :
    x.world.now ≤ (runSteps x steps).2.world.now := by
  apply runSteps_preserves (P := fun y => x.world.now ≤ y.world.now)
  · intro y results h
    exact h
  · intro step hstep y h
    exact h.trans (step.now_run (hsteps step hstep) y)
  · exact le_rfl

theorem isAccepted_runSteps (hsteps : ∀ step ∈ steps, step.isPlain = true) {store : Store}
    {old : Option String} (hx : x.IsAccepted store old) :
    (runSteps x steps).2.IsAccepted store old := by
  apply runSteps_preserves (P := fun y => y.IsAccepted store old)
  · intro y results h
    exact h
  · intro step hstep y h
    exact step.isAccepted_run (hsteps step hstep) h
  · exact hx

lemma hasUtcExpiry_runSteps (hsteps : ∀ step ∈ steps, step.isPlain = true)
    {s t : Session} (hx : x.slot.session = some s) (hs : s.HasUtcExpiry)
    (ht : (runSteps x steps).2.slot.session = some t) : t.HasUtcExpiry := by
  have hexpiry : x.HasExpiry s.expiry := by
    intro u hu
    cases hx.symm.trans hu
    rfl
  have hsets : ∀ step ∈ steps, step.setsExpiry = false := by
    intro step hstep
    cases step with
    | act a => exact Action.setsExpiry_of_isPlain (hsteps _ hstep)
    | _ => rfl
  rw [Session.HasUtcExpiry, hasExpiry_runSteps hsets hexpiry t ht]
  split_ifs
  · rintro u ⟨⟩
  · exact hs

end Scripts

/-! ### What the client may expect -/

namespace SessionConfig

variable {c : SessionConfig} {r : Request}

lemma afterAnswer_of_cookies {a : Response} (jar : Jar)
    (h : ∀ header ∈ a.cookies, Jar.given? c.cookieName header = none) :
    jar.afterAnswer c.cookieName (.ok a) = jar := Jar.foldl_receive c.cookieName jar h

section Finish

variable {z : Exchange} {jar : Jar} {view : Option Session} {a : Response} {s : Session}

lemma recalls_discarded {secure : Bool} (hencrypted : r.isEncrypted = .ok secure)
    (hc : c.IsWritable) (hsound : z.backend.IsSound)
    (hcookies : ∀ header ∈ a.cookies, Jar.given? c.cookieName header = none) :
    (finalBackend z (.discarded s)).IsSound ∧
      c.Recalls (finalBackend z (.discarded s)).store z.world.now
        (jar.afterAnswer c.cookieName (c.finalAnswer r a z (.discarded s))) none := by
  obtain ⟨header, hheader⟩ := clearing_of_isWritable hc secure z.world.now
  have hjar : jar.afterAnswer c.cookieName (c.finalAnswer r a z (.discarded s)) = none := by
    simp only [finalAnswer_discarded hencrypted, hheader, Except.map]
    rw [Jar.afterAnswer_addCookie c.cookieName jar header hcookies, receive_of_clearing hheader]
  rw [hjar]
  refine ⟨?_, .nothing⟩
  rw [finalBackend, Backend.destroy_of_isSound hsound]
  exact ⟨hsound.isShipped.of_emptied_eq (Store.emptied_destroy _ s), hsound.failing⟩

lemma recalls_kept {secure : Bool} (hencrypted : r.isEncrypted = .ok secure)
    (hc : c.IsWritable) (hdates : c.HasDates z.world.now) (hsound : z.backend.IsSound)
    (hutc : s.HasUtcExpiry) (hlives : s.LivesAt z.world.now) {old : Option String}
    (haccepts : z.backend.store.Accepts old s) (hold : ∀ token ∈ old, c.Holds jar token)
    (hcookies : ∀ header ∈ a.cookies, Jar.given? c.cookieName header = none) :
    (finalBackend z (.kept s)).IsSound ∧
      c.Recalls (finalBackend z (.kept s)).store z.world.now
        (jar.afterAnswer c.cookieName (c.finalAnswer r a z (.kept s))) (some s.recorded) := by
  obtain ⟨given, token, hsave, hgives, hshipped, hleads⟩ :=
    Store.save_of_accepts hsound.isShipped hutc haccepts hlives
  have hbackend : finalBackend z (.kept s) =
      { z.backend.record .store with store := (z.backend.store.save s z.world.now).2.2 } := by
    rw [finalBackend, Backend.save_of_isSound hsound]
  have hanswer : c.finalAnswer r a z (.kept s) = c.answerWith secure a z.world.now given := by
    rw [finalAnswer_kept hencrypted, Backend.save_of_isSound hsound, hsave]
    rfl
  rw [hbackend, hanswer]
  refine ⟨⟨hshipped, hsound.failing⟩, .kept ?_ hutc hleads⟩
  -- a store that gives no token has kept the session under the one that the client has
  obtain ⟨rfl, bytes, rfl⟩ | ⟨rfl, rfl⟩ := hgives
  · obtain ⟨header, hheader⟩ := tokenHeader_of_isWritable hc hdates secure (Base64.isLatin_text bytes)
    refine ⟨c.keys.primary, List.mem_cons_self, ?_⟩
    simp only [answerWith, hheader, Except.map]
    rw [Jar.afterAnswer_addCookie c.cookieName jar header hcookies, receive_of_tokenHeader hheader]
  · rw [answerWith, afterAnswer_of_cookies jar hcookies]
    exact hold token rfl

/-- What the client has when a request is finished recalls the session that it may expect then. -/
theorem recalls_finish (hc : c.IsWritable) (hdates : c.HasDates z.world.now)
    (hsound : z.backend.IsSound) (hrecalls : c.Recalls z.backend.store z.world.now jar view)
    (hutc : ∀ s, z.slot.session = some s → s.HasUtcExpiry) {old : Option String}
    (haccepted : z.IsAccepted z.backend.store old) (hold : ∀ token ∈ old, c.Holds jar token)
    (hcookies : ∀ header ∈ a.cookies, Jar.given? c.cookieName header = none)
    (hlives : ∀ s, c.ending r z.slot = .kept s → s.LivesAt z.world.now) :
    (finalBackend z (c.ending r z.slot)).IsSound ∧
      c.Recalls (finalBackend z (c.ending r z.slot)).store z.world.now
        (jar.afterAnswer c.cookieName (c.finalAnswer r a z (c.ending r z.slot)))
        ((c.ending r z.slot).viewAfter view) := by
  have hsame : jar.afterAnswer c.cookieName (.ok a) = jar := afterAnswer_of_cookies jar hcookies
  cases hending : c.ending r z.slot with
  | ceased =>
    rw [finalAnswer, hsame]
    exact ⟨hsound, hrecalls⟩
  | lost => exact ⟨hsound, hrecalls⟩
  | spoilt fault => exact ⟨hsound, hrecalls⟩
  | leftAlone =>
    rw [finalAnswer, hsame]
    exact ⟨hsound, hrecalls⟩
  | discarded s =>
    obtain ⟨-, secure, hencrypted⟩ := of_ending (.inl hending)
    exact recalls_discarded hencrypted hc hsound hcookies
  | kept s =>
    obtain ⟨hslot, secure, hencrypted⟩ := of_ending (.inr hending)
    exact recalls_kept hencrypted hc hdates hsound (hutc s hslot) (hlives s hending) (haccepted s hslot) hold
      hcookies

end Finish

end SessionConfig

end SessionCookies
