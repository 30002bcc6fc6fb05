import SessionCookies.Proofs.Session.Becomes

/-!
# The identity of a session

An action gives a session a new id and the cookie value of that id, or takes the cookie value away,
or leaves both alone (`Action.identity_cases`). So the cookie value of a session, as long as it has
one, is the one from which its id was derived (`Action.isMatched_run`).
-/

namespace SessionCookies

/-- The cookie value of a session, if it has one, is the text of bytes from which its id was
derived. -/
def Session.IsMatched (s : Session) : Prop :=
  ∀ value ∈ s.cookieValue, s.id = sessionId value ∧ ∃ bytes, value = Base64.text bytes

/-- The cookie value of a session, if it has one, is the text of bytes. -/
def Session.IsDrawn (s : Session) : Prop :=
  ∀ value ∈ s.cookieValue, ∃ bytes, value = Base64.text bytes

namespace Session

variable {s : Session}

lemma IsMatched.isDrawn (h : s.IsMatched) : s.IsDrawn := fun value hvalue => (h value hvalue).2

lemma isMatched_of_cookieValue_eq_none (h : s.cookieValue = none) : s.IsMatched := by
  intro value hvalue
  cases h.symm.trans hvalue

lemma IsDrawn.congr {t : Session} (h : s.IsDrawn) (hvalue : t.cookieValue = s.cookieValue) :
    t.IsDrawn := by
  rw [IsDrawn, hvalue]
  exact h

lemma isMatched_fresh (w : World) : (fresh w).IsMatched := by
  rintro value ⟨⟩
  exact ⟨rfl, _, rfl⟩

lemma isMatched_regenerate (s : Session) (w : World) : (s.regenerate w).IsMatched := by
  rintro value ⟨⟩
  exact ⟨rfl, _, rfl⟩

lemma IsMatched.congr {t : Session} (h : s.IsMatched) (hid : t.id = s.id)
    (hvalue : t.cookieValue = s.cookieValue) : t.IsMatched := by
  rw [IsMatched, hid, hvalue]
  exact h

end Session

namespace Action

/-- What an action does to the id and the cookie value of a session. -/
theorem identity_cases (a : Action) (s : Session) (w : World) :
    ((a.run s w).session.id = s.id ∧ (a.run s w).session.cookieValue = s.cookieValue) ∨
      a = .takeCookieValue ∧ (a.run s w).session = s.withoutCookieValue ∨
      a = .regenerate ∧ (a.run s w).session = s.regenerate w := by
  have hbecomes := a.becomes_run s w
  generalize (a.run s w).session = t at hbecomes ⊢
  cases hbecomes with
  | put _ name raw =>
    left
    rw [Session.putText]
    split_ifs <;> exact ⟨rfl, rfl⟩
  | removed name =>
    left
    rw [Session.remove]
    split <;> exact ⟨rfl, rfl⟩
  | taken => exact .inr (.inl ⟨rfl, rfl⟩)
  | regenerated => exact .inr (.inr ⟨rfl, rfl⟩)
  | _ => exact .inl ⟨rfl, rfl⟩

theorem isMatched_run (a : Action) {s : Session} (w : World) (h : s.IsMatched) :
    (a.run s w).session.IsMatched := by
  obtain ⟨hid, hvalue⟩ | ⟨-, htaken⟩ | ⟨-, hregenerate⟩ := a.identity_cases s w
  · exact h.congr hid hvalue
  · rw [htaken]
    exact Session.isMatched_of_cookieValue_eq_none rfl
  · rw [hregenerate]
    exact s.isMatched_regenerate w

theorem isDrawn_run (a : Action) {s : Session} (w : World) (h : s.IsDrawn) :
    (a.run s w).session.IsDrawn := by
  obtain ⟨-, hvalue⟩ | ⟨-, htaken⟩ | ⟨-, hregenerate⟩ := a.identity_cases s w
  · exact h.congr hvalue
  · rw [htaken]
    exact (Session.isMatched_of_cookieValue_eq_none rfl).isDrawn
  · rw [hregenerate]
    exact (s.isMatched_regenerate w).isDrawn

end Action

end SessionCookies
