import SessionCookies.Proofs.Session.Becomes

/-!
# The mark of a change

A session is marked when its id or its data change. An action that leaves a session unmarked, other
than the one that takes the mark off, found it unmarked and left id and data alone
(`Action.of_unmarked`), and so did a run of such actions (`Session.of_unmarked_after`). An action
that leaves both alone does not mark a session either, unless it draws the id that the session has
(`Action.marked_iff`).
-/

namespace SessionCookies

lemma OrderedMap.eq_empty_of_isEmpty {κ ν : Type} {m : OrderedMap κ ν} (h : m.isEmpty = true) :
    m = .empty :=
  OrderedMap.ext (List.isEmpty_iff.1 h)

namespace Session

variable {s : Session}

lemma putText_of_unmarked {name raw : String} (h : (s.putText name raw).changed = false) :
    s.putText name raw = s := by
  rw [putText] at h ⊢
  split_ifs at h ⊢
  rfl

/-- A text is put under a name where another was, or none. -/
lemma putText_of_data_eq {name raw : String} (h : (s.putText name raw).data = s.data) :
    s.putText name raw = s := by
  rw [putText] at h ⊢
  split_ifs at h ⊢ with hsame
  · rfl
  · rw [← h] at hsame
    exact absurd (by rw [OrderedMap.get?_put, if_pos rfl]) hsame

lemma remove_of_unmarked {name : String} (h : (s.remove name).2.changed = false) :
    (s.remove name).2 = s := by
  rw [remove] at h ⊢
  split at h
  · rfl
  · cases h

/-- Taking out a name that is there changes what is under it. -/
lemma remove_of_data_eq {name : String} (h : (s.remove name).2.data = s.data) :
    (s.remove name).2 = s := by
  rw [remove] at h ⊢
  cases hfound : s.data.get? name with
  | none => rfl
  | some raw =>
    simp only [hfound] at h
    rw [← h, OrderedMap.get?_erase, if_pos rfl] at hfound
    cases hfound

lemma clear_of_unmarked (h : s.clear.changed = false) :
    s.changed = false ∧ s.clear.data = s.data := by
  obtain ⟨hchanged, hempty⟩ := Bool.or_eq_false_iff.1 h
  rw [Bool.not_eq_false'] at hempty
  exact ⟨hchanged, (OrderedMap.eq_empty_of_isEmpty hempty).symm⟩

end Session

namespace Action

/-- Whether an action takes the mark of a change off. -/
def resets : Action → Bool
  | .reset => true
  | _ => false

/-- An action that leaves a session unmarked found it so, with the id and the data that it has. -/
theorem of_unmarked {a : Action} (ha : a.resets = false) {s : Session} {w : World}
    (h : (a.run s w).session.changed = false) :
    s.changed = false ∧ (a.run s w).session.id = s.id ∧ (a.run s w).session.data = s.data := by
  have hbecomes := a.becomes_run s w
  generalize (a.run s w).session = t at hbecomes h ⊢
  cases hbecomes with
  | put _ name raw =>
    have hsame := Session.putText_of_unmarked h
    rw [hsame] at h ⊢
    exact ⟨h, rfl, rfl⟩
  | removed name =>
    have hsame := Session.remove_of_unmarked h
    rw [hsame] at h ⊢
    exact ⟨h, rfl, rfl⟩
  | cleared =>
    obtain ⟨hchanged, hdata⟩ := Session.clear_of_unmarked h
    exact ⟨hchanged, rfl, hdata⟩
  | reset => cases ha
  | regenerated => cases h
  | _ => exact ⟨h, rfl, rfl⟩

/-- An action that leaves id and data of an unmarked session alone does not mark it, unless it
happens to draw the id that the session has. -/
lemma unmarked_of_same {a : Action} {s : Session} {w : World}
    (hnew : a = .regenerate → sessionId w.nextCookieValue ≠ s.id) (hs : s.changed = false)
    (hid : (a.run s w).session.id = s.id) (hdata : (a.run s w).session.data = s.data) :
    (a.run s w).session.changed = false := by
  have hbecomes := a.becomes_run s w
  generalize (a.run s w).session = t at hbecomes hid hdata ⊢
  cases hbecomes with
  | put _ name raw => rw [Session.putText_of_data_eq hdata, hs]
  | removed name => rw [Session.remove_of_data_eq hdata, hs]
  | cleared =>
    rw [Session.clear, hs, Bool.false_or, Bool.not_eq_false', ← hdata]
    rfl
  | reset => rfl
  | regenerated => exact absurd hid (hnew rfl)
  | _ => exact hs

/-- A session is marked after an action exactly if it was so before or the action changed its id or
its data. -/
theorem marked_iff {a : Action} (ha : a.resets = false) {s : Session} {w : World}
    (hnew : a = .regenerate → sessionId w.nextCookieValue ≠ s.id) :
    (a.run s w).session.changed = true ↔
      s.changed = true ∨ (a.run s w).session.id ≠ s.id ∨ (a.run s w).session.data ≠ s.data := by
  rw [← not_iff_not, not_or, not_or, not_not, not_not, Bool.not_eq_true, Bool.not_eq_true]
  constructor
  · exact of_unmarked ha
  · rintro ⟨hs, hid, hdata⟩
    exact unmarked_of_same hnew hs hid hdata

/-- Whether an action has nothing to change in id and data: it asks, marks or dates a session, moves
the clock, puts in what is there or cannot be kept, or takes out what is not there. -/
def IsIdle (s : Session) (w : World) : Action → Prop
  | .insert name v => ∀ raw, v.toText? = .ok raw → s.data.get? name = some raw
  | .append name v reinsert =>
    reinsert = true → ∃ fault, (run s w (.append name v reinsert)).answer = .error fault
  | .remove name => s.data.get? name = none
  | .clear => s.data.isEmpty = true
  | .reset | .regenerate => False
  | _ => True

/-- An action with nothing to change leaves id, data and mark alone. -/
lemma same_of_isIdle {a : Action} {s : Session} {w : World} (h : a.IsIdle s w) :
    (a.run s w).session.id = s.id ∧ (a.run s w).session.data = s.data ∧
      (a.run s w).session.changed = s.changed := by
  cases a with
  | insert name v =>
    rw [run, Session.insert]
    cases htext : v.toText? with
    | error fault => exact ⟨rfl, rfl, rfl⟩
    | ok raw =>
      have hsame : s.putText name raw = s := by rw [Session.putText, if_pos (h raw htext)]
      rw [Except.map, hsame]
      exact ⟨rfl, rfl, rfl⟩
  | append name v reinsert =>
    cases reinsert with
    | false =>
      rw [run]
      split
      · exact ⟨rfl, rfl, rfl⟩
      · split <;> exact ⟨rfl, rfl, rfl⟩
    | true =>
      obtain ⟨fault, hfault⟩ := h rfl
      rw [run] at hfault ⊢
      split at hfault
      · exact ⟨rfl, rfl, rfl⟩
      · split at hfault
        · exact ⟨rfl, rfl, rfl⟩
        · cases hfault
  | remove name =>
    have hsame : (s.remove name).2 = s := by
      rw [Session.remove, show s.data.get? name = none from h]
    change (s.remove name).2.id = s.id ∧ (s.remove name).2.data = s.data ∧
      (s.remove name).2.changed = s.changed
    rw [hsame]
    exact ⟨rfl, rfl, rfl⟩
  | clear =>
    have hempty : s.data.isEmpty = true := h
    refine ⟨rfl, (OrderedMap.eq_empty_of_isEmpty hempty).symm, ?_⟩
    change (s.changed || !s.data.isEmpty) = s.changed
    rw [hempty, Bool.not_true, Bool.or_false]
  | expireIn micros =>
    rw [run]
    cases hexpiry : s.expireIn w.now micros with
    | error fault => exact ⟨rfl, rfl, rfl⟩
    | ok t =>
      obtain ⟨expiry, -, rfl⟩ := Session.expireIn_ok hexpiry
      exact ⟨rfl, rfl, rfl⟩
  | reset | regenerate => cases h
  | _ => exact ⟨rfl, rfl, rfl⟩

end Action

namespace Session

/-- The session and the world after actions; one that fails does not keep later ones from being
run. -/
def after (s : Session) (w : World) : List Action → Session × World
  | [] => (s, w)
  | a :: rest => (a.run s w).session.after (a.run s w).world rest

/-- A session that is unmarked after actions was never marked, and has the id and the data that it
had before them. -/
theorem of_unmarked_after {actions : List Action} (hresets : ∀ a ∈ actions, a.resets = false)
    {s : Session} {w : World} (h : (s.after w actions).1.changed = false) :
    s.changed = false ∧ (s.after w actions).1.id = s.id ∧
      (s.after w actions).1.data = s.data := by
  induction actions generalizing s w with
  | nil => exact ⟨h, rfl, rfl⟩
  | cons a rest ih =>
    rw [List.forall_mem_cons] at hresets
    rw [after] at h ⊢
    obtain ⟨hmark, hid, hdata⟩ := ih hresets.2 h
    obtain ⟨hs, hidStep, hdataStep⟩ := Action.of_unmarked hresets.1 hmark
    exact ⟨hs, hid.trans hidStep, hdata.trans hdataStep⟩

/-- A session that is unmarked after actions that do not take the mark off was unmarked before them
and has the same id and the same data. One action marks it exactly if it changes one of the two (a
new id being another than the one that the session has). So actions that have nothing to change do
not. -/
theorem mark_is_exact (s : Session) (w : World) :
    (∀ actions : List Action, (∀ a ∈ actions, a.resets = false) →
      (s.after w actions).1.changed = false →
        s.changed = false ∧ (s.after w actions).1.id = s.id ∧
          (s.after w actions).1.data = s.data) ∧
    (∀ a : Action, a.resets = false →
      (a = .regenerate → sessionId w.nextCookieValue ≠ s.id) →
        ((a.run s w).session.changed = true ↔
          s.changed = true ∨ (a.run s w).session.id ≠ s.id ∨
            (a.run s w).session.data ≠ s.data)) ∧
    ∀ a : Action, a.IsIdle s w →
      (a.run s w).session.id = s.id ∧ (a.run s w).session.data = s.data ∧
        (a.run s w).session.changed = s.changed := by
  refine ⟨?_, ?_, ?_⟩
  · exact fun actions hresets => of_unmarked_after hresets
  · exact fun a ha hnew => Action.marked_iff ha hnew
  · exact fun a hidle => Action.same_of_isIdle hidle

/-- An equal value, one that cannot be kept, a name that is not there, an expiry and the cookie
value leave a session unmarked; a name that is there marks it when it is taken out. -/
theorem mark_is_exact_visited :
    let s : Session := { id := "", data := .ofList [("seen", "null")], cookieValue := some "mine" }
    let actions : List Action := [.insert "seen" .null, .insert "cart" .foreign,
      .remove "cart", .get "seen" .null, .expireIn 5, .takeCookieValue, .destroy]
    (∀ a ∈ actions, a.resets = false) ∧ (s.after ⟨0, .ofSeed 0⟩ actions).1.changed = false ∧
      (s.after ⟨0, .ofSeed 0⟩ actions).1.data = s.data ∧
      (Action.run s ⟨0, .ofSeed 0⟩ (.remove "seen")).session.changed = true := by
  intro s actions
  have hresets : ∀ a ∈ actions, a.resets = false := by decide
  have hunmarked : (s.after ⟨0, .ofSeed 0⟩ actions).1.changed = false := by decide +kernel
  obtain ⟨hafter, hmark, -⟩ := mark_is_exact s ⟨0, .ofSeed 0⟩
  refine ⟨hresets, hunmarked, (hafter actions hresets hunmarked).2.2, ?_⟩
  rw [hmark (.remove "seen") rfl nofun]
  exact .inr (.inr fun h => absurd (congrArg OrderedMap.isEmpty h) (by decide))

end Session

end SessionCookies
