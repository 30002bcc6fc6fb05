import SessionCookies.Proofs.Value.Stored
import SessionCookies.Session.Basic

/-!
# Values that were put into a session

What is found under a name after a value was put there is the value in the form in which it is kept.
Putting that again changes nothing, or at most the text, the first time, if two keys of a dictionary
have one text.
-/

namespace SessionCookies.Session

/-- Puts what is found under a name there again. -/
def reinsert (s : Session) (name : String) : Except Fault Session := do
  match ← s.get? name with
  | some j => s.insert name (.ofJson j)
  | none => return s

variable {s : Session} {name raw : String} {v : Value} {j : Json}

lemma get?_data_putText : (s.putText name raw).data.get? name = some raw := by
  rw [putText]
  split_ifs with hsame
  · exact hsame
  · rw [OrderedMap.get?_put, if_pos rfl]

/-- A text that is under a name already changes nothing. -/
lemma putText_of_get? (h : s.data.get? name = some raw) : s.putText name raw = s := by
  rw [putText, if_pos h]

lemma get?_of_data {found : Json} (h : s.data.get? name = some raw)
    (hfound : Json.ofText? raw = .ok found) : s.get? name = .ok (some found) := by
  rw [get?, h]
  simp only [hfound]
  rfl

lemma insert_of_toJson? (h : v.toJson? = .ok j) :
    s.insert name v = .ok (s.putText name j.toText) := by
  rw [insert, Value.toText?, h]
  rfl

/-- Just the values that can be kept are put into a session. -/
lemma exists_insert_iff : (∃ t, s.insert name v = .ok t) ↔ v.IsStorable := by
  constructor
  · rintro ⟨t, ht⟩
    obtain ⟨raw, hraw, -⟩ := Fault.map_eq_ok.1 ht
    obtain ⟨j, hj, -⟩ := Fault.map_eq_ok.1 hraw
    exact (Value.toJsonWithin?_eq_ok.1 hj).1
  · intro h
    exact ⟨_, insert_of_toJson? (Value.toJsonWithin?_eq_ok.2 ⟨h, rfl⟩)⟩

/-- Putting in again what is found gives the text of what is found. -/
lemma reinsert_of_get? (h : s.get? name = .ok (some j))
    (hj : j.IsLegible Json.Limits.general.depth) :
    s.reinsert name = .ok (s.putText name j.toText) := by
  rw [reinsert, h]
  exact insert_of_toJson? (Value.toJsonWithin?_ofJson hj)

/-- Just the values that can be kept are put in. What is found then is the value in the form in
which it is kept, and putting that in changes nothing if no dictionary of the value has two keys of
one text. Whatever the value, putting back what is found changes nothing from the second time on. -/
theorem insertions_read_back (s : Session) (name : String) (v : Value)
    (hfloats : ∀ x, .float x ∈ v.parts → x.isFinite = true → Json.IsExact x) :
    ((∃ t, s.insert name v = .ok t) ↔ v.IsStorable) ∧
      ∀ t, s.insert name v = .ok t →
        t.get? name = .ok (some v.norm) ∧
        ((∀ entries, .dictionary entries ∈ v.parts →
            (entries.map fun entry => entry.1.text).Nodup) →
          t.insert name (.ofJson v.norm) = .ok t) ∧
        ∃ u, t.reinsert name = .ok u ∧ u.get? name = .ok (some v.norm) ∧
          u.reinsert name = .ok u := by
  refine ⟨exists_insert_iff, fun t ht => ?_⟩
  have hstorable : v.IsStorable := exists_insert_iff.1 ⟨t, ht⟩
  rw [insert_of_toJson? (Value.toJsonWithin?_eq_ok.2 ⟨hstorable, rfl⟩), Except.ok.injEq] at ht
  have hlegible := Value.isLegible_written hstorable hfloats
  have hnorm : v.norm.IsLegible Json.Limits.general.depth := v.collapse_written ▸ hlegible.collapse
  have htext : t.data.get? name = some v.written.toText := ht ▸ get?_data_putText
  have hread : Json.ofText? v.written.toText = .ok v.norm := by
    rw [Json.ofText?_toText hlegible, v.collapse_written]
  have hreread : Json.ofText? v.norm.toText = .ok v.norm := by
    rw [Json.ofText?_toText hnorm, ← v.collapse_written,
      (Json.namesDiffer_collapse v.written).collapse_eq]
  have hfound := get?_of_data htext hread
  refine ⟨hfound, fun hkeys => ?_, t.putText name v.norm.toText, reinsert_of_get? hfound hnorm,
    get?_of_data get?_data_putText hreread, ?_⟩
  · have hsame : v.written = v.norm := by
      rw [← v.collapse_written, (Value.namesDiffer_written hkeys).collapse_eq]
    rw [insert_of_toJson? (Value.toJsonWithin?_ofJson hnorm), putText_of_get? (hsame ▸ htext)]
  · rw [reinsert_of_get? (get?_of_data get?_data_putText hreread) hnorm,
      putText_of_get? get?_data_putText]

/-- A dictionary with two keys of one text, half a surrogate pair for a key, and a tuple. -/
theorem insertions_read_back_colliding :
    ∃ t u, insert { id := "" } "a" (.dictionary [(.int 1, .null),
        (.string [0xD83D], .tuple [.float 0.5, .int (-7)]), (.string [0x31], .list [.bool true])]) =
          .ok t ∧
      t.get? "a" = .ok (some (.object [([0x31], .array [.bool true]),
        ([0xD83D], .array [.float 0.5, .int (-7)])])) ∧
      t.reinsert "a" = .ok u ∧ u.reinsert "a" = .ok u := by
  have hhalf : Json.IsExact 0.5 := by
    have htext : Json.writeFloat 0.5 = ['0', '.', '5'] := by decide +kernel
    refine ⟨⟨false, ['0'], ['5'], none⟩, ?_, rfl, Json.eq_of_toBits_eq (by decide +kernel)⟩
    rw [htext]
    rfl
  obtain ⟨haccepts, hread⟩ := insertions_read_back { id := "" } "a" (.dictionary [(.int 1, .null),
    (.string [0xD83D], .tuple [.float 0.5, .int (-7)]), (.string [0x31], .list [.bool true])])
    fun x hx _ => by
      simp only [Value.parts, Value.partsOfItems, Value.partsOfEntries, List.mem_cons,
        List.mem_append, List.not_mem_nil, reduceCtorEq, Value.float.injEq, or_false,
        false_or] at hx
      exact hx ▸ hhalf
  obtain ⟨t, ht⟩ := haccepts.2 ⟨by decide, by decide⟩
  obtain ⟨hfound, -, u, hu, -, hagain⟩ := hread t ht
  exact ⟨t, u, ht, hfound, hu, hagain⟩

end SessionCookies.Session
