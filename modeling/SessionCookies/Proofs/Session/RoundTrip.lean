import SessionCookies.Proofs.Session.Record

/-!
# Sessions and what their records give back

Which sessions their records give back (`record_round_trip`): those without an expiry, those whose
expiry has no offset from UTC, and those whose expiry has an offset of whole minutes. Since no record
spells any other offset, whatever was read from a record can be written and read again
(`ofRecord?_record_of_read`).
-/

namespace SessionCookies.Session

/-- A session that was read, whatever its record was like, is what its own record gives back. -/
theorem ofRecord?_record_of_read {record : String} {s : Session} (h : ofRecord? record = some s) :
    ofRecord? s.record = some s := by
  have hread : ofRecord? s.record = some s.recorded :=
    ofRecord?_record (hasWholeMinutes_of_ofRecord? h)
  rwa [← (of_ofRecord? h).1] at hread

/-- The record of a session gives back a session with the same id, the same data in the same order
and the same expiry, that is the same reading of a clock with the same offset or with none, exactly
if the offset is of whole minutes or there is none. What is given back has no cookie value, did not
change, is not destroyed, and is written in the same way as the session was. A session that was read
from a record of any spelling is given back as it is. -/
theorem record_round_trip (s : Session) :
    ((∃ t, ofRecord? s.record = some t ∧ t.id = s.id ∧ t.data.entries = s.data.entries ∧
        t.expiry = s.expiry ∧ t.cookieValue = none ∧ t.changed = false ∧ t.destroyed = false ∧
        t.record = s.record) ↔
      ∀ e ∈ s.expiry, e.HasWholeMinutes) ∧
    ∀ record, ofRecord? record = some s → ofRecord? s.record = some s := by
  refine ⟨⟨?_, fun h => ?_⟩, fun record hread => ofRecord?_record_of_read hread⟩
  · rintro ⟨t, hread, -, -, hexpiry, -⟩
    rw [← hexpiry]
    exact hasWholeMinutes_of_ofRecord? hread
  · exact ⟨s.recorded, ofRecord?_record h, rfl, rfl, rfl, rfl, rfl, rfl, rfl⟩

/-- A session with quotes, controls and characters of all widths, which expired in the first
microsecond of the calendar by a clock far behind UTC, is given back without its marks. -/
theorem record_round_trip_first :
    let s : Session := {
      id := "\"\\\n\x00é\u2028😀"
      data := .ofList [("b\"", "[1, \"\\u00e9\"]"), ("", "null"), ("a", "")]
      expiry := some ⟨1, some (-86340000000), by decide, by rintro micros ⟨⟩; decide⟩
      cookieValue := some "mine"
      changed := true
      destroyed := true }
    (∀ e ∈ s.expiry, e.HasWholeMinutes) ∧
      ∃ t, ofRecord? s.record = some t ∧ t.id = s.id ∧ t.data.entries = s.data.entries ∧
        t.expiry = s.expiry ∧ t.cookieValue = none ∧ t.changed = false ∧ t.destroyed = false := by
  intro s
  have hwhole : ∀ e ∈ s.expiry, e.HasWholeMinutes := by
    rintro e ⟨⟩ micros ⟨⟩
    decide
  obtain ⟨t, hread, hid, hdata, hexpiry, hvalue, hchanged, hdestroyed, -⟩ :=
    (record_round_trip s).1.2 hwhole
  exact ⟨hwhole, t, hread, hid, hdata, hexpiry, hvalue, hchanged, hdestroyed⟩

end SessionCookies.Session
