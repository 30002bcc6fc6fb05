import Mathlib.Tactic
import SessionCookies.OrderedMap

/-!
# Entries, keys and values of ordered maps

The entries of a map are what `get?` finds under its keys. A map made from a list of entries has
their keys in the order in which they first came, each with the value that came last.
-/

namespace SessionCookies.OrderedMap

variable {κ ν : Type} [DecidableEq κ]

lemma mem_entries_iff {m : OrderedMap κ ν} {k : κ} {v : ν} :
    (k, v) ∈ m.entries ↔ m.get? k = some v := by
  rw [get?, List.lookup_eq_some_iff]
  constructor
  · intro hmem
    obtain ⟨before, after, hentries⟩ := List.append_of_mem hmem
    refine ⟨before, after, hentries, fun e he => ?_⟩
    have hnodup := m.nodup_keys
    rw [hentries, List.map_append, List.map_cons, List.nodup_append] at hnodup
    rw [bne_iff_ne]
    exact (hnodup.2.2 e.1 (List.mem_map_of_mem he) k List.mem_cons_self).symm
  · rintro ⟨before, after, hentries, -⟩
    rw [hentries]
    exact List.mem_append_right _ List.mem_cons_self

lemma get?_eq_none_of_not_mem {m : OrderedMap κ ν} {k : κ} (h : k ∉ m.keys) :
    m.get? k = none := by
  rw [get?, List.lookup_eq_none_iff]
  intro e he
  rw [bne_iff_ne]
  rintro rfl
  exact h (List.mem_map_of_mem he)

lemma isEmpty_iff {m : OrderedMap κ ν} : m.isEmpty = true ↔ ∀ k, m.get? k = none := by
  rw [isEmpty, List.isEmpty_iff, List.eq_nil_iff_forall_not_mem]
  constructor
  · intro h k
    exact Option.eq_none_iff_forall_ne_some.2 fun v hv => h (k, v) (mem_entries_iff.2 hv)
  · rintro h ⟨k, v⟩ hmem
    cases (h k).symm.trans (mem_entries_iff.1 hmem)

lemma get?_filter_eq_some {m : OrderedMap κ ν} {p : κ → ν → Bool} {k : κ} {v : ν} :
    (m.filter p).get? k = some v ↔ m.get? k = some v ∧ p k v = true := by
  rw [← mem_entries_iff, filter, List.mem_filter, mem_entries_iff]

/-- A map is its keys, each with the value under it. -/
lemma entries_eq_map (m : OrderedMap κ ν) (unused : ν) :
    m.entries = m.keys.map fun k => (k, (m.get? k).getD unused) := by
  rw [keys, List.map_map]
  nth_rewrite 1 [← List.map_id m.entries]
  refine List.map_congr_left fun e he => ?_
  rw [Function.comp_apply, mem_entries_iff.1 he, Option.getD_some]
  rfl

/-! ### Maps from lists of entries -/

lemma ofList_concat (entries : List (κ × ν)) (k : κ) (v : ν) :
    ofList (entries ++ [(k, v)]) = (ofList entries).put k v := by
  simp only [ofList, List.foldl_append, List.foldl_cons, List.foldl_nil]

lemma keys_put (m : OrderedMap κ ν) (k : κ) (v : ν) :
    (m.put k v).keys = if k ∈ m.keys then m.keys else m.keys ++ [k] := by
  have hput (entries : List (κ × ν)) : (putEntry k v entries).map Prod.fst =
      if k ∈ entries.map Prod.fst then entries.map Prod.fst
      else entries.map Prod.fst ++ [k] := by
    induction entries with
    | nil => rfl
    | cons e rest ih =>
      obtain ⟨other, old⟩ := e
      by_cases h : other = k
      · simp [putEntry, h]
      · simp only [putEntry, h, if_false, List.map_cons, ih, List.mem_cons, Ne.symm h, false_or]
        split_ifs <;> rfl
  exact hput m.entries

/-- The keys of a map stand in the order in which they first came. -/
lemma keys_ofList (entries : List (κ × ν)) :
    (ofList entries).keys = (entries.map Prod.fst).eraseDups := by
  induction entries using List.reverseRecOn with
  | nil => rfl
  | append_singleton entries e ih =>
    obtain ⟨k, v⟩ := e
    rw [ofList_concat, keys_put, ih, List.map_append, List.eraseDups_append]
    by_cases hk : k ∈ entries.map Prod.fst
    · simp [hk, List.removeAll]
    · simp [hk, List.removeAll, List.eraseDups_cons]

/-- Of several values under one key the last counts. -/
lemma get?_ofList (entries : List (κ × ν)) (k : κ) :
    (ofList entries).get? k = entries.reverse.lookup k := by
  induction entries using List.reverseRecOn with
  | nil => rfl
  | append_singleton entries e ih =>
    obtain ⟨other, v⟩ := e
    rw [ofList_concat, get?_put, ih, List.reverse_append, List.reverse_singleton,
      List.singleton_append, List.lookup_cons]
    by_cases h : k = other
    · simp [h]
    · simp [h, beq_eq_false_iff_ne.2 h]

/-- Every entry of a map made from a list is one of the list. -/
lemma mem_of_mem_ofList {e : κ × ν} {entries : List (κ × ν)} (h : e ∈ (ofList entries).entries) :
    e ∈ entries := by
  rw [mem_entries_iff, get?_ofList, List.lookup_eq_some_iff] at h
  obtain ⟨before, after, hentries, -⟩ := h
  rw [← List.mem_reverse, hentries]
  exact List.mem_append_right _ List.mem_cons_self

end SessionCookies.OrderedMap
