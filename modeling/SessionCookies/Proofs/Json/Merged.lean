import SessionCookies.Proofs.Json.RoundTrip

/-!
# Objects with each name once

Collapsing an object leaves each name at the place where it first stood, with the value that it had
last (`distinct_eq_merged`). A value that is collapsed is as legible as before, and collapsing it
again changes nothing.
-/

namespace SessionCookies.Json

/-! ### Each name once -/

/-- The fields with each name once: at the place where the name first stands, with the value that
it has last. -/
def merged (fields : List (Units × Json)) : List (Units × Json) :=
  (fields.map Prod.fst).eraseDups.map fun name =>
    (name, (fields.reverse.lookup name).getD .null)

/-- Putting the fields one after another leaves each name once. -/
theorem distinct_eq_merged (fields : List (Units × Json)) : distinct fields = merged fields := by
  rw [distinct_eq_entries, OrderedMap.entries_eq_map _ .null, OrderedMap.keys_ofList]
  simp only [OrderedMap.get?_ofList, merged]
  congr! -- the names are compared by two instances of one equality

lemma nodup_names_distinct (fields : List (Units × Json)) :
    ((distinct fields).map Prod.fst).Nodup := by
  rw [distinct_eq_entries]
  exact (OrderedMap.ofList fields).nodup_keys

lemma mem_of_mem_distinct {field : Units × Json} {fields : List (Units × Json)}
    (h : field ∈ distinct fields) : field ∈ fields := by
  rw [distinct_eq_entries] at h
  exact OrderedMap.mem_of_mem_ofList h

/-! ### Collapsed values -/

lemma collapseItems_eq_map (items : List Json) : collapseItems items = items.map collapse := by
  induction items with
  | nil => rfl
  | cons v items ih => rw [collapseItems, ih, List.map_cons]

lemma collapseFields_eq_map (fields : List (Units × Json)) :
    collapseFields fields = fields.map fun field => (field.1, field.2.collapse) := by
  induction fields with
  | nil => rfl
  | cons field fields ih => rw [collapseFields, ih, List.map_cons]

/-- A value in which no object has a name twice. -/
inductive NamesDiffer : Json → Prop
  | null : NamesDiffer .null
  | bool (b : Bool) : NamesDiffer (.bool b)
  | int (n : Int) : NamesDiffer (.int n)
  | float (x : Float) : NamesDiffer (.float x)
  | string (s : Units) : NamesDiffer (.string s)
  | array {items : List Json} (hitems : ∀ v ∈ items, NamesDiffer v) : NamesDiffer (.array items)
  | object {fields : List (Units × Json)} (nodup : (fields.map Prod.fst).Nodup)
      (hfields : ∀ field ∈ fields, NamesDiffer field.2) : NamesDiffer (.object fields)

mutual
lemma namesDiffer_collapse (v : Json) : v.collapse.NamesDiffer := by
  match v with
  | .null => exact .null
  | .bool b => exact .bool b
  | .int n => exact .int n
  | .float x => exact .float x
  | .string s => exact .string s
  | .array items => exact .array (namesDiffer_collapseItems items)
  | .object fields =>
    exact .object (nodup_names_distinct _) fun field hfield =>
      namesDiffer_collapseFields fields field (mem_of_mem_distinct hfield)

lemma namesDiffer_collapseItems (items : List Json) :
    ∀ v ∈ collapseItems items, v.NamesDiffer := by
  match items with
  | [] => simp [collapseItems]
  | v :: items =>
    simp only [collapseItems, List.mem_cons, forall_eq_or_imp]
    exact ⟨namesDiffer_collapse v, namesDiffer_collapseItems items⟩

lemma namesDiffer_collapseFields (fields : List (Units × Json)) :
    ∀ field ∈ collapseFields fields, field.2.NamesDiffer := by
  match fields with
  | [] => simp [collapseFields]
  | (name, v) :: fields =>
    simp only [collapseFields, List.mem_cons, forall_eq_or_imp]
    exact ⟨namesDiffer_collapse v, namesDiffer_collapseFields fields⟩
end

lemma NamesDiffer.collapse_eq {v : Json} (h : v.NamesDiffer) : v.collapse = v := by
  induction h with
  | null | bool | int | float | string => rfl
  | @array items _ ih =>
    rw [collapse, collapseItems_eq_map, List.map_congr_left ih, List.map_id']
  | @object fields nodup _ ih =>
    have hfields : ∀ field ∈ fields, (field.1, field.2.collapse) = field := fun field hfield =>
      Prod.ext rfl (ih field hfield)
    rw [collapse, collapseFields_eq_map, List.map_congr_left hfields, List.map_id',
      distinct_of_nodup nodup]

lemma IsLegible.collapse {depth : Nat} {v : Json} (h : v.IsLegible depth) :
    v.collapse.IsLegible depth := by
  induction h with
  | null => exact .null
  | bool b => exact .bool b
  | int hn => exact .int hn
  | float hx => exact .float hx
  | string s => exact .string s
  | emptyArray => exact .emptyArray
  | array _ ih =>
    rw [Json.collapse, collapseItems_eq_map]
    exact .array (by simpa using ih)
  | emptyObject => exact .emptyObject
  | object _ ih =>
    rw [Json.collapse, collapseFields_eq_map]
    refine .object fun field hfield => ?_
    obtain ⟨written, hwritten, rfl⟩ := List.mem_map.1 (mem_of_mem_distinct hfield)
    exact ih written hwritten

end SessionCookies.Json
