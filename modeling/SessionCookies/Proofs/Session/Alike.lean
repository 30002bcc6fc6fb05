import SessionCookies.Proofs.OrderedMap
import SessionCookies.Session.Action

/-!
# Sessions with the same content

Two sessions can hold the same under different ids. They are alike in all that a handler may decide
by, their ids and records apart, and whatever is done to both of them keeps them alike
(`Session.Alike.run`).
-/

namespace SessionCookies

namespace Session

/-- Two sessions with equal data, in whatever order their names came in, that expire at the same
instant, whatever the offset with which it is written. -/
structure SameContent (s t : Session) : Prop where
  data : s.data.get? = t.data.get?
  expiry : s.expiry.map Timestamp.instant? = t.expiry.map Timestamp.instant?

/-- Two sessions with the same content, cookie value and marks, whose ids make no difference to what
goes wrong by an id. -/
structure Alike (fault? : String → Option Fault) (s t : Session) : Prop
    extends s.SameContent t where
  cookieValue : s.cookieValue = t.cookieValue
  changed : s.changed = t.changed
  destroyed : s.destroyed = t.destroyed
  fault : fault? s.id = fault? t.id

variable {s t : Session} {fault? : String → Option Fault}

/-! ### What is asked of them -/

namespace SameContent

lemma get?_eq (h : s.SameContent t) (name : String) : s.get? name = t.get? name := by
  rw [Session.get?, Session.get?, h.data]

lemma timeLeft_eq (h : s.SameContent t) (now : Int) : s.timeLeft now = t.timeLeft now := by
  have hexpiry := h.expiry
  rcases hs : s.expiry with _ | e <;> rcases ht : t.expiry with _ | e' <;> rw [hs, ht] at hexpiry
  · simp only [timeLeft, hs, ht]
  · cases hexpiry
  · cases hexpiry
  · have hinstant : e.instant? = e'.instant? := Option.some.inj hexpiry
    simp only [timeLeft, hs, ht, Timestamp.since, hinstant]

lemma appended_eq (h : s.SameContent t) (name : String) (v : Value) :
    Action.appended s name v = Action.appended t name v := by
  rw [Action.appended, Action.appended, h.get?_eq]

end SameContent

/-! ### What is done to them -/

namespace Alike

lemma refl (fault? : String → Option Fault) (s : Session) : s.Alike fault? s :=
  ⟨⟨rfl, rfl⟩, rfl, rfl, rfl, rfl⟩

lemma putText (h : s.Alike fault? t) (name raw : String) :
    (s.putText name raw).Alike fault? (t.putText name raw) := by
  rw [Session.putText, Session.putText, h.data]
  split_ifs
  · exact h
  · refine { h with data := ?_, changed := rfl }
    funext other
    rw [OrderedMap.get?_put, OrderedMap.get?_put, h.data]

lemma remove (h : s.Alike fault? t) (name : String) :
    (s.remove name).2.Alike fault? (t.remove name).2 := by
  simp only [Session.remove, h.data]
  split
  · exact h
  · refine { h with data := ?_, changed := rfl }
    funext other
    rw [OrderedMap.get?_erase, OrderedMap.get?_erase, h.data]

lemma clear (h : s.Alike fault? t) : s.clear.Alike fault? t.clear := by
  have hempty : s.data.isEmpty = t.data.isEmpty := by
    rw [Bool.eq_iff_iff, OrderedMap.isEmpty_iff, OrderedMap.isEmpty_iff, h.data]
  exact { h with data := rfl, changed := by rw [Session.clear, Session.clear, h.changed, hempty] }

/-- Sessions that are let expire at the same moment stay alike, or neither of them can be. -/
lemma expireIn_cases (h : s.Alike fault? t) (now micros : Int) :
    (∃ fault, s.expireIn now micros = .error fault ∧ t.expireIn now micros = .error fault) ∨
      ∃ s' t', s.expireIn now micros = .ok s' ∧ t.expireIn now micros = .ok t' ∧
        s'.Alike fault? t' := by
  rw [expireIn, expireIn]
  rcases Timestamp.ofInstant? (now + micros) with fault | expiry
  · exact .inl ⟨fault, rfl, rfl⟩
  · exact .inr ⟨_, _, rfl, rfl, { h with expiry := rfl }⟩

/-- Actions keep sessions alike and do the same to the world. -/
theorem run (h : s.Alike fault? t) (a : Action) (w : World) :
    (a.run s w).world = (a.run t w).world ∧
      (a.run s w).session.Alike fault? (a.run t w).session := by
  cases a with
  | insert name v =>
    simp only [Action.run, Session.insert]
    rcases v.toText? with fault | raw
    · exact ⟨rfl, h⟩
    · exact ⟨rfl, h.putText name raw⟩
  | append name v reinsert =>
    simp only [Action.run, h.appended_eq]
    split
    · exact ⟨rfl, h⟩
    · split
      · exact ⟨rfl, h⟩
      · cases reinsert with
        | true => exact ⟨rfl, h.putText name _⟩
        | false => exact ⟨rfl, h⟩
  | remove name => exact ⟨rfl, h.remove name⟩
  | clear => exact ⟨rfl, h.clear⟩
  | reset => exact ⟨rfl, { h with changed := rfl }⟩
  | destroy => exact ⟨rfl, { h with destroyed := rfl }⟩
  | regenerate => exact ⟨rfl, { h with cookieValue := rfl, changed := rfl, fault := rfl }⟩
  | takeCookieValue => exact ⟨rfl, { h with cookieValue := rfl }⟩
  | expireIn micros =>
    simp only [Action.run]
    obtain ⟨fault, hs, ht⟩ | ⟨s', t', hs, ht, halike⟩ := h.expireIn_cases w.now micros <;>
      rw [hs, ht]
    · exact ⟨rfl, h⟩
    · exact ⟨rfl, halike⟩
  | setExpiry e => exact ⟨rfl, { h with expiry := rfl }⟩
  | _ => exact ⟨rfl, h⟩

end Alike

end Session

end SessionCookies
