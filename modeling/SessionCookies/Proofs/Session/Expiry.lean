import SessionCookies.Proofs.Session.Becomes
import SessionCookies.Proofs.Time.Rfc3339

/-!
# The expiry of a session

The expiry of a session is changed by the two actions that set it and by no other. A session that is
let expire after some time expires at that instant of UTC. One whose expiry has an offset from UTC
can be judged at any moment (`HasWholeOffset.isExpired_cases`).
-/

namespace SessionCookies

namespace Timestamp

lemma ofInstant?_eq_ok {instant : Int} {t : Timestamp} (h : ofInstant? instant = .ok t) :
    t.offset = some 0 ∧ t.instant? = some instant := by
  simp only [ofInstant?, ofWall?] at h
  split_ifs at h with hwall hoffset
  · cases h
    refine ⟨rfl, ?_⟩
    have hwhole : ((instant + Civil.epoch).toNat : Int) = instant + Civil.epoch :=
      Int.toNat_of_nonneg hwall.1
    simp only [instant?, Option.map_some, Int.ofNat_eq_natCast, hwhole]
    congr 1
    omega

end Timestamp

namespace Session

/-! ### Living -/

/-- The expiry of a session is an instant of UTC, if it has one. -/
def HasUtcExpiry (s : Session) : Prop := ∀ t ∈ s.expiry, t.offset = some 0

/-- The expiry of a session has an offset of whole minutes from UTC, if the session has one. -/
def HasWholeOffset (s : Session) : Prop := ∀ t ∈ s.expiry, t.offset ≠ none ∧ t.HasWholeMinutes

/-- The expiry of a session is later than a moment, if it has one. -/
def LivesAt (s : Session) (now : Int) : Prop :=
  ∀ t ∈ s.expiry, ∀ instant ∈ t.instant?, now < instant

variable {s : Session} {now : Int}

lemma LivesAt.of_le {later : Int} (h : s.LivesAt later) (hle : now ≤ later) : s.LivesAt now := by
  intro t ht instant hinstant
  exact lt_of_le_of_lt hle (h t ht instant hinstant)

instance (s : Session) (now : Int) : Decidable (s.LivesAt now) :=
  inferInstanceAs (Decidable (∀ t ∈ s.expiry, ∀ instant ∈ t.instant?, now < instant))

lemma HasUtcExpiry.hasWholeOffset (h : s.HasUtcExpiry) : s.HasWholeOffset := by
  intro t ht
  exact ⟨by rw [h t ht]; exact Option.some_ne_none 0, Timestamp.hasWholeMinutes_of_utc (h t ht)⟩

lemma livesAt_iff_of_isExpired {expired : Bool} (h : s.isExpired now = .ok expired) :
    s.LivesAt now ↔ expired = false := by
  rcases hexpiry : s.expiry with _ | t
  · simp only [isExpired, timeLeft, hexpiry, Except.map] at h
    cases h
    simp [LivesAt, hexpiry]
  · rcases hinstant : t.instant? with _ | instant
    · simp only [isExpired, timeLeft, hexpiry, Timestamp.since, hinstant] at h
      cases h
    · simp only [isExpired, timeLeft, hexpiry, Timestamp.since, hinstant] at h
      obtain rfl : decide (instant - now ≤ 0) = expired := Except.ok.inj h
      have hlives : s.LivesAt now ↔ now < instant := by
        simp [LivesAt, hexpiry, hinstant]
      rw [hlives, decide_eq_false_iff_not]
      omega

/-- Whether a session whose expiry has an offset has expired can be told at any moment. -/
lemma HasWholeOffset.isExpired_cases (h : s.HasWholeOffset) (now : Int) :
    s.isExpired now = .ok false ∧ s.LivesAt now ∨ s.isExpired now = .ok true ∧ ¬ s.LivesAt now := by
  obtain ⟨expired, hexpired⟩ : ∃ expired, s.isExpired now = .ok expired := by
    rcases hexpiry : s.expiry with _ | t
    · exact ⟨false, by simp only [isExpired, timeLeft, hexpiry]; rfl⟩
    · obtain ⟨micros, hoffset⟩ := Option.ne_none_iff_exists'.1 (h t hexpiry).1
      simp only [isExpired, timeLeft, hexpiry, Timestamp.since, Timestamp.instant?, hoffset]
      exact ⟨_, rfl⟩
  have hlives := livesAt_iff_of_isExpired hexpired
  cases expired with
  | false => exact .inl ⟨hexpired, hlives.2 rfl⟩
  | true => exact .inr ⟨hexpired, fun hlater => Bool.noConfusion (hlives.1 hlater)⟩

lemma HasUtcExpiry.isExpired_cases (hutc : s.HasUtcExpiry) (now : Int) :
    s.isExpired now = .ok false ∧ s.LivesAt now ∨ s.isExpired now = .ok true ∧ ¬ s.LivesAt now :=
  hutc.hasWholeOffset.isExpired_cases now

/-- A session that is let expire after some time expires at an instant of UTC. -/
lemma hasUtcExpiry_of_expireIn {micros : Int} {t : Session} (h : s.expireIn now micros = .ok t) :
    t.HasUtcExpiry := by
  obtain ⟨expiry, hexpiry, rfl⟩ := expireIn_ok h
  rintro t ⟨⟩
  exact (Timestamp.ofInstant?_eq_ok hexpiry).1

lemma hasWholeOffset_setExpiry (s : Session) {t : Timestamp} (ht : t.HasWholeMinutes) :
    (s.setExpiry t).HasWholeOffset := by
  rintro t' ⟨⟩
  refine ⟨Option.some_ne_none _, ?_⟩
  rintro micros ⟨⟩
  rcases hoffset : t.offset with _ | micros
  · exact dvd_zero _
  · exact ht micros hoffset

/-! ### Actions -/

lemma expiry_putText (s : Session) (name raw : String) :
    (s.putText name raw).expiry = s.expiry := by
  rw [putText]
  split_ifs <;> rfl

lemma expiry_remove (s : Session) (name : String) : (s.remove name).2.expiry = s.expiry := by
  rw [remove]
  split <;> rfl

end Session

namespace Action

/-- Whether an action sets the expiry of the session. -/
def setsExpiry : Action → Bool
  | .expireIn _ | .setExpiry _ => true
  | _ => false

/-- An action that does not set the expiry leaves it alone. -/
theorem expiry_run {a : Action} (ha : a.setsExpiry = false) (s : Session) (w : World) :
    (a.run s w).session.expiry = s.expiry := by
  have hbecomes := a.becomes_run s w
  generalize (a.run s w).session = t at hbecomes ⊢
  cases hbecomes with
  | put _ name raw => exact s.expiry_putText name raw
  | removed name => exact s.expiry_remove name
  | expiring => cases ha
  | dated => cases ha
  | _ => rfl

/-- An action that sets the expiry to a timestamp takes one of UTC or of a clock whose offset is of
whole minutes. -/
def SetsWholeMinutes : Action → Prop
  | .setExpiry t => t.HasWholeMinutes
  | _ => True

theorem hasWholeOffset_run {a : Action} (ha : a.SetsWholeMinutes) {s : Session} (w : World)
    (hs : s.HasWholeOffset) : (a.run s w).session.HasWholeOffset := by
  have hbecomes := a.becomes_run s w
  generalize (a.run s w).session = t at hbecomes ⊢
  cases hbecomes with
  | put _ name raw =>
    rw [Session.HasWholeOffset, s.expiry_putText]
    exact hs
  | removed name =>
    rw [Session.HasWholeOffset, s.expiry_remove]
    exact hs
  | expiring h =>
    apply Session.HasUtcExpiry.hasWholeOffset
    rintro t ⟨⟩
    exact (Timestamp.ofInstant?_eq_ok h).1
  | dated t => exact s.hasWholeOffset_setExpiry ha
  | _ => exact hs

end Action

end SessionCookies
