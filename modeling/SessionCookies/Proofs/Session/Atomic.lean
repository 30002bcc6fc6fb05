import SessionCookies.Proofs.Session.Changed

/-!
# Actions that fail

An action that fails leaves the session and the world as they were, and so it may as well be left
out of a run (`Session.after_succeeding`). The one exception is the removal of a name whose text
cannot be read: the name is gone and the session is marked when the text turns out to be broken
(`Action.run_of_error`).
-/

namespace SessionCookies

namespace Action

variable {a : Action} {s : Session} {w : World} {fault : Fault}

lemma asked_of_error {answer : Except Fault Answer} (h : (asked s w answer).answer = .error fault) :
    asked s w answer = ⟨.error fault, s, w⟩ := by
  rw [asked] at h ⊢
  rw [show answer = .error fault from h]

lemma tried_of_error {tried? : Except Fault Session}
    (h : (tried s w tried?).answer = .error fault) :
    tried s w tried? = ⟨.error fault, s, w⟩ := by
  cases tried? with
  | ok t => cases h
  | error other =>
    cases h
    rfl

/-- What an action that fails leaves. -/
theorem run_of_error (h : (a.run s w).answer = .error fault) :
    (∀ name, a ≠ .remove name) ∧ a.run s w = ⟨.error fault, s, w⟩ ∨
      ∃ name raw, a = .remove name ∧ s.data.get? name = some raw ∧
        Json.ofText? raw = .error fault ∧
        a.run s w = ⟨.error fault, { s with data := s.data.erase name, changed := true }, w⟩ := by
  cases a with
  | insert name v | expireIn micros => exact .inl ⟨nofun, tried_of_error h⟩
  | get name default | timeLeft | isExpired | isLive => exact .inl ⟨nofun, asked_of_error h⟩
  | append name v reinsert =>
    refine .inl ⟨nofun, ?_⟩
    rw [run] at h ⊢
    split at h
    · exact asked_of_error h
    · split at h
      · exact asked_of_error h
      · cases h
  | remove name =>
    right
    rw [run, Session.remove] at h ⊢
    cases hfound : s.data.get? name with
    | none =>
      rw [hfound] at h
      cases h
    | some raw =>
      rw [hfound] at h
      cases hread : Json.ofText? raw with
      | ok found =>
        simp only [hread] at h
        cases h
      | error other =>
        simp only [hread] at h
        cases h
        refine ⟨name, raw, rfl, hfound, hread, ?_⟩
        simp only [hread]
        rfl
  | _ => cases h

/-- A name that is there is not there any more without it. -/
lemma erase_ne_of_get? {name raw : String} (h : s.data.get? name = some raw) :
    s.data.erase name ≠ s.data := by
  intro hsame
  rw [← hsame, OrderedMap.get?_erase, if_pos rfl] at h
  cases h

/-- An action that fails leaves the clock and the random bytes as they were. It leaves the session
as it was exactly if it is no removal. A removal fails if the text under the name cannot be read,
and then the name is gone all the same and the session is marked. -/
theorem failure_is_atomic_iff (a : Action) (s : Session) (w : World) (fault : Fault)
    (h : (a.run s w).answer = .error fault) :
    (a.run s w).world = w ∧ ((a.run s w).session = s ↔ ∀ name, a ≠ .remove name) ∧
      ∀ name, a = .remove name →
        (∃ raw, s.data.get? name = some raw ∧ Json.ofText? raw = .error fault) ∧
          (a.run s w).session = { s with data := s.data.erase name, changed := true } := by
  obtain ⟨hno, hrun⟩ | ⟨name, raw, rfl, hfound, hread, hrun⟩ := run_of_error h
  · rw [hrun]
    exact ⟨rfl, ⟨fun _ => hno, fun _ => rfl⟩, fun name hremove => absurd hremove (hno name)⟩
  · rw [hrun]
    refine ⟨rfl, ?_, ?_⟩
    · constructor
      · intro hsame
        exact absurd (congrArg Session.data hsame) (erase_ne_of_get? hfound)
      · intro hno
        exact absurd rfl (hno name)
    · rintro other ⟨⟩
      exact ⟨⟨raw, hfound, hread⟩, rfl⟩

/-- A session that is to expire after the last day of the calendar keeps its old expiry. -/
theorem failure_is_atomic_iff_dated :
    let s : Session := {
      id := ""
      data := .ofList [("cart", "[")]
      expiry := (Timestamp.ofInstant? 0).toOption }
    let a : Action := .expireIn 1000000000000000000
    (a.run s ⟨0, .ofSeed 0⟩).answer = .error .dateOutOfRange ∧
      (a.run s ⟨0, .ofSeed 0⟩).session = s := by
  intro s a
  have hanswer : (a.run s ⟨0, .ofSeed 0⟩).answer = .error .dateOutOfRange := rfl
  exact ⟨hanswer, (failure_is_atomic_iff a s _ _ hanswer).2.1.2 nofun⟩

/-- A name with a broken text is gone after its removal failed. -/
theorem failure_of_removal :
    let s : Session := { id := "", data := .ofList [("cart", "[")] }
    let o := Action.run s ⟨0, .ofSeed 0⟩ (.remove "cart")
    o.answer.isOk = false ∧ s.data.size = 1 ∧ s.changed = false ∧
      o.session.data.size = 0 ∧ o.session.changed = true := by
  decide +kernel

end Action

namespace Session

/-- The actions of a run that do not fail in it. -/
def succeeding (s : Session) (w : World) : List Action → List Action
  | [] => []
  | a :: rest =>
    let more := (a.run s w).session.succeeding (a.run s w).world rest
    match (a.run s w).answer with
    | .ok _ => a :: more
    | .error _ => more

/-- Actions that fail, if they are no removals, can be left out. -/
theorem after_succeeding {actions : List Action} (h : ∀ a ∈ actions, ∀ name, a ≠ .remove name)
    (s : Session) (w : World) : s.after w (s.succeeding w actions) = s.after w actions := by
  induction actions generalizing s w with
  | nil => rfl
  | cons a rest ih =>
    rw [List.forall_mem_cons] at h
    rw [succeeding, after]
    cases hanswer : (a.run s w).answer with
    | ok answer => exact ih h.2 _ _
    | error fault =>
      obtain ⟨-, hrun⟩ | ⟨name, -, rfl, -⟩ := Action.run_of_error hanswer
      · rw [hrun]
        exact ih h.2 s w
      · exact absurd rfl (h.1 name)

end Session

end SessionCookies
