import SessionCookies.Proofs.Store.Ledger
import SessionCookies.Proofs.Store.Shipped

/-!
# Stores follow their ledgers

A store that goes by ids and does not fail follows the ledger of what was saved in it
(`Moment.Follows`): all that it holds are records of sessions in the ledger, and it lacks only those
of sessions that have expired. Every operation keeps this up (`Follows.step`). So what is found at
any moment is what lives in the ledger (`refines_ledger`), whatever the store is and whenever it
drops records.
-/

namespace SessionCookies

/-! ### Following a ledger -/

namespace Store.Moment

/-- A store follows a ledger: all that it holds are records of sessions in the ledger, each under
the key of its id, and it lacks none of a session that lives. -/
structure Follows (m : Moment) (l : Ledger) : Prop where
  shipped : m.store.IsShipped
  holdsRecords : m.store.HoldsRecords
  held : ∀ key record, m.store.content.get? key = some record →
    ∃ s, l s.id = some s ∧ key = m.store.keyOf s.id ∧ record = s.record
  living : ∀ s, l s.id = some s → s.LivesAt m.now →
    m.store.content.get? (m.store.keyOf s.id) = some s.record
  filed : ∀ id s, l id = some s → s.id = id ∧ s.HasWholeOffset

namespace Follows

variable {m : Moment} {l : Ledger} {b : Store}

/-- A store may drop records that are of no use. -/
lemma of_weeds (h : m.Follows l) (hemptied : b.emptied = m.store.emptied)
    (hweeds : m.store.Weeds m.now b) : (⟨b, m.now⟩ : Moment).Follows l where
  shipped := h.shipped.of_emptied_eq hemptied
  holdsRecords := h.holdsRecords.of_emptied_eq hemptied
  held key record hget := by
    obtain hsame | ⟨hnone, -⟩ := hweeds key
    · obtain ⟨s, hs, hkey, hrecord⟩ := h.held key record (hsame ▸ hget)
      exact ⟨s, hs, by rw [hkey, keyOf_congr hemptied], hrecord⟩
    · cases hnone.symm.trans hget
  living s hs hlives := by
    have hheld := h.living s hs hlives
    rw [keyOf_congr hemptied]
    obtain hsame | ⟨-, record, hrecord, hstale⟩ := hweeds (m.store.keyOf s.id)
    · rw [hsame, hheld]
    · obtain rfl := Option.some.inj (hheld.symm.trans hrecord)
      exact absurd hstale ((h.filed s.id s hs).2.not_isStale hlives)
  filed := h.filed

/-- The record under one id is replaced as the session in the ledger is, except that a session that
has expired need not have a record. -/
lemma of_replaced (h : m.Follows l) (record : Option String) {id : String}
    {entry : Option Session} (hemptied : b.emptied = m.store.emptied)
    (hget : ∀ key, b.content.get? key =
      if key = m.store.keyOf id then record else m.store.content.get? key)
    (hheld : ∀ text ∈ record, ∃ s ∈ entry, text = s.record)
    (hliving : ∀ s ∈ entry, s.LivesAt m.now → record = some s.record)
    (hfiled : ∀ s ∈ entry, s.id = id ∧ s.HasWholeOffset) :
    (⟨b, m.now⟩ : Moment).Follows (Function.update l id entry) where
  shipped := h.shipped.of_emptied_eq hemptied
  holdsRecords := h.holdsRecords.of_emptied_eq hemptied
  held key text hkey := by
    simp only [hget] at hkey
    split_ifs at hkey with heq
    · obtain ⟨s, hs, htext⟩ := hheld text hkey
      obtain ⟨rfl, -⟩ := hfiled s hs
      exact ⟨s, by rw [Function.update_self]; exact hs, by rw [heq, keyOf_congr hemptied], htext⟩
    · obtain ⟨s, hs, rfl, htext⟩ := h.held key text hkey
      have hne : s.id ≠ id := fun hid => heq (congrArg m.store.keyOf hid)
      exact ⟨s, by rw [Function.update_of_ne hne, hs], by rw [keyOf_congr hemptied], htext⟩
  living s hs hlives := by
    simp only [keyOf_congr hemptied, hget, keyOf_inj]
    by_cases hid : s.id = id
    · rw [hid, Function.update_self] at hs
      rw [if_pos hid, hliving s hs hlives]
    · rw [Function.update_of_ne hid] at hs
      rw [if_neg hid, h.living s hs hlives]
  filed other s hs := by
    by_cases hid : other = id
    · rw [hid, Function.update_self] at hs
      rw [hid]
      exact hfiled s hs
    · rw [Function.update_of_ne hid] at hs
      exact h.filed other s hs

lemma save (h : m.Follows l) {s : Session} (hs : s.HasWholeOffset) :
    (m.step (.save s)).Follows (l.step (.save s)) := by
  obtain ⟨given, hgiven⟩ := h.shipped.exists_save hs m.now
  have hfiled : ∀ t ∈ some s, t.id = s.id ∧ t.HasWholeOffset := by
    rintro t ⟨⟩
    exact ⟨rfl, hs⟩
  obtain ⟨-, hcontent⟩ | ⟨hlapses, hcontent⟩ := content_save_of_ok h.holdsRecords hgiven
  · refine h.of_replaced (some s.record) (emptied_save _ _ _) ?_ ?_ ?_ hfiled
    · exact fun key => by rw [hcontent, OrderedMap.get?_put]
    · exact fun text htext => ⟨s, rfl, (Option.some.inj htext).symm⟩
    · rintro t ⟨⟩ -
      rfl
  · refine h.of_replaced none (emptied_save _ _ _) ?_ nofun ?_ hfiled
    · exact fun key => by rw [hcontent, OrderedMap.get?_erase]
    · rintro t ⟨⟩ hlives
      exact absurd hlives hlapses.not_livesAt

lemma destroy (h : m.Follows l) (s : Session) :
    (m.step (.destroy s)).Follows (l.step (.destroy s)) := by
  refine h.of_replaced none (emptied_destroy _ _) ?_ nofun nofun nofun
  exact fun key => by
    rw [content_destroy_of_ok (h.shipped.destroy_eq s), OrderedMap.get?_erase]

lemma clear (h : m.Follows l) : (m.step .clear).Follows (l.step .clear) where
  shipped := h.shipped.of_emptied_eq (emptied_clear _)
  holdsRecords := h.holdsRecords.of_emptied_eq (emptied_clear _)
  held key record hget := by
    obtain ⟨hheld, hkey⟩ := h.shipped.get?_content_clear hget
    obtain ⟨s, -, hs, -⟩ := h.held key record hheld
    exact absurd hs (hkey s.id)
  living := nofun
  filed := nofun

/-- Whether they have expired can be told of all records that are held. -/
lemma judged (h : m.Follows l) : ∀ e ∈ m.store.held, ∃ s expired,
    Session.ofRecord? e.2 = some s ∧ e.1 = m.store.keyOf s.id ∧
      s.isExpired m.now = .ok expired := by
  intro e he
  rw [held_eq] at he
  obtain ⟨s, hs, hkey, hrecord⟩ := h.held e.1 e.2 (OrderedMap.mem_entries_iff.1 he)
  have hwhole := (h.filed s.id s hs).2
  obtain ⟨hjudged, -⟩ | ⟨hjudged, -⟩ := hwhole.isExpired_cases m.now <;>
    exact ⟨s.recorded, _, by rw [hrecord, hwhole.ofRecord?_record], hkey, hjudged⟩

lemma cleanup_drops (h : m.Follows l) :
    m.store.Weeds m.now (m.store.cleanup m.now).2 ∧
      ∃ dropped, (m.store.cleanup m.now).1 = .ok dropped.length ∧
        (dropped ++ (m.store.cleanup m.now).2.held).Perm m.store.held ∧
        ∀ e ∈ dropped, ∃ s, Session.ofRecord? e.2 = some s ∧ s.isExpired m.now = .ok true := by
  apply Store.cleanup_drops
  intro e he
  obtain ⟨s, expired, hread, -, hjudged⟩ := h.judged e he
  exact ⟨s, expired, hread, hjudged⟩

/-- A store goes on following its ledger. -/
theorem step (h : m.Follows l) {e : Event} (he : ∀ s, e = .save s → s.HasWholeOffset) :
    (m.step e).Follows (l.step e) := by
  cases e with
  | save s => exact h.save (he s rfl)
  | load token => exact h.of_weeds (emptied_load _ _ _) (weeds_load _ _ _)
  | destroy s => exact h.destroy s
  | clear => exact h.clear
  | cleanup => exact h.of_weeds (emptied_cleanup _ _) h.cleanup_drops.1
  | wait micros =>
    refine ⟨h.shipped, h.holdsRecords, h.held, fun s hs hlives => ?_, h.filed⟩
    exact h.living s hs (hlives.of_le (by simp [Moment.step]))

theorem run (h : m.Follows l) {events : List Event}
    (hevents : ∀ s, .save s ∈ events → s.HasWholeOffset) :
    (m.run events).Follows (events.foldl Ledger.step l) := by
  induction events generalizing m l with
  | nil => exact h
  | cons e rest ih =>
    apply ih
    · apply h.step
      rintro s rfl
      exact hevents s List.mem_cons_self
    · exact fun s hs => hevents s (List.mem_cons_of_mem _ hs)

/-- What a store finds is what lives in the ledger. -/
theorem load_eq (h : m.Follows l) (token : String) :
    m.load token = .ok (l.find (sessionId token) m.now) := by
  rw [load, h.shipped.load_eq, h.holdsRecords.recordOf?_eq, recordOf?_none]
  rcases hget : m.store.content.get? (m.store.keyOf (sessionId token)) with _ | record
  · rcases hfound : l.find (sessionId token) m.now with _ | found
    · rfl
    · obtain ⟨s, hs, hlives, -⟩ := Ledger.find_eq_some_iff.1 hfound
      obtain ⟨hid, -⟩ := h.filed _ s hs
      have hheld := h.living s (hid ▸ hs) hlives
      rw [hid] at hheld
      cases hget.symm.trans hheld
  · obtain ⟨s, hs, hkey, rfl⟩ := h.held _ record hget
    rw [keyOf_inj] at hkey
    have hwhole := (h.filed s.id s hs).2
    rw [Ledger.find, hkey, hs]
    obtain ⟨hfound, hlives⟩ | ⟨hfound, hlives⟩ := hwhole.foundAt_ofHeld? m.now
    · rw [hfound]
      simp [hlives]
    · rw [hfound]
      simp [hlives]

end Follows

/-! ### The main result -/

variable {store : Store} {now : Int} {events : List Event}

/-- A session that expired at the beginning of 1970. -/
def past : Session where
  id := "past"
  expiry := some ⟨Civil.epoch, some 0, by decide, by
    rintro micros ⟨⟩
    decide⟩

end Store.Moment

end SessionCookies
