import SessionCookies.Proofs.Json.Merged
import SessionCookies.Value

/-!
# The form in which a value is kept

Which values can be kept at all (`Value.IsStorable`), and what is found again of one that was
(`Value.norm`): tuples have become lists, keys their texts, and of keys with one text the last value
stands at the place of the first.
-/

namespace SessionCookies

/-! ### Results -/

namespace Fault

lemma bind_eq_ok {α β : Type} {x : Except Fault α} {f : α → Except Fault β} {b : β} :
    (x >>= f) = .ok b ↔ ∃ a, x = .ok a ∧ f a = .ok b := by
  cases x <;> simp [bind, Except.bind]

lemma map_eq_ok {α β : Type} {x : Except Fault α} {f : α → β} {b : β} :
    x.map f = .ok b ↔ ∃ a, x = .ok a ∧ f a = b := by
  cases x <;> simp [Except.map]

end Fault

/-! ### Keys -/

namespace DictionaryKey

/-- Whether a key has a text. -/
def hasText : DictionaryKey → Bool
  | .int n => (Json.writeNat n.natAbs).length ≤ Json.maxIntegerDigits
  | .foreign => false
  | _ => true

/-- The text of a key that has one. -/
def text (key : DictionaryKey) : Units := key.text?.toOption.getD []

lemma text?_eq_ok {key : DictionaryKey} {s : Units} :
    key.text? = .ok s ↔ key.hasText = true ∧ key.text = s := by
  cases key with
  | int n =>
    simp only [hasText, text, text?]
    split_ifs with hn <;> simp [hn, Except.toOption]
  | foreign => simp [hasText, text?]
  | null | bool | float | string => simp [hasText, text, text?, Except.toOption]

end DictionaryKey

namespace Value

/-! ### Inside a value -/

mutual
/-- A value and all that is inside it, but for the keys of dictionaries. -/
def parts : Value → List Value
  | .list items => .list items :: partsOfItems items
  | .tuple items => .tuple items :: partsOfItems items
  | .dictionary entries => .dictionary entries :: partsOfEntries entries
  | v => [v]

def partsOfItems : List Value → List Value
  | [] => []
  | v :: rest => v.parts ++ partsOfItems rest

def partsOfEntries : List (DictionaryKey × Value) → List Value
  | [] => []
  | (_, v) :: rest => v.parts ++ partsOfEntries rest
end

mutual
/-- How many lists, tuples and dictionaries that are not empty enclose one another, at most. -/
def nesting : Value → Nat
  | .list items | .tuple items => nestingOfItems items
  | .dictionary entries => nestingOfEntries entries
  | _ => 0

def nestingOfItems : List Value → Nat
  | [] => 0
  | v :: rest => max (v.nesting + 1) (nestingOfItems rest)

def nestingOfEntries : List (DictionaryKey × Value) → Nat
  | [] => 0
  | (_, v) :: rest => max (v.nesting + 1) (nestingOfEntries rest)
end

/-- Whether a value, what is inside it apart, has a JSON form. -/
def hasForm : Value → Bool
  | .int n => (Json.writeNat n.natAbs).length ≤ Json.maxIntegerDigits
  | .dictionary entries => entries.all fun entry => entry.1.hasText
  | .foreign | .circular => false
  | _ => true

/-- A value of which each part has a JSON form and that is nested at most `depth` levels deep. -/
def FitsIn (depth : Nat) (v : Value) : Prop :=
  (∀ part ∈ v.parts, part.hasForm = true) ∧ v.nesting ≤ depth

/-- A value that can be kept: it fits into a text that is to be read again. -/
def IsStorable (v : Value) : Prop := v.FitsIn Json.Limits.general.depth

/-! ### The form -/

mutual
/-- The JSON value of a value, after `arrange` was applied to the fields of every object. -/
def formWith (arrange : List (Units × Json) → List (Units × Json)) : Value → Json
  | .null => .null
  | .bool b => .bool b
  | .int n => .int n
  | .float x => .float x
  | .string s => .string s
  | .list items | .tuple items => .array (itemsWith arrange items)
  | .dictionary entries => .object (arrange (fieldsWith arrange entries))
  | .foreign | .circular => .null

def itemsWith (arrange : List (Units × Json) → List (Units × Json)) : List Value → List Json
  | [] => []
  | v :: rest => v.formWith arrange :: itemsWith arrange rest

def fieldsWith (arrange : List (Units × Json) → List (Units × Json)) :
    List (DictionaryKey × Value) → List (Units × Json)
  | [] => []
  | (key, v) :: rest => (key.text, v.formWith arrange) :: fieldsWith arrange rest
end

/-- The form in which a value is written: every entry of a dictionary is a field. -/
def written (v : Value) : Json := v.formWith id

/-- The form in which a value is found again: of several entries with one text the last value stands
at the place of the first. -/
def norm (v : Value) : Json := v.formWith Json.merged

/-- Induction over a value and what is inside it. -/
theorem induction {P : Value → Prop} (null : P .null) (bool : ∀ b, P (.bool b))
    (int : ∀ n, P (.int n)) (float : ∀ x, P (.float x)) (string : ∀ s, P (.string s))
    (list : ∀ items, (∀ v ∈ items, P v) → P (.list items))
    (tuple : ∀ items, (∀ v ∈ items, P v) → P (.tuple items))
    (dictionary : ∀ entries, (∀ entry ∈ entries, P entry.2) → P (.dictionary entries))
    (foreign : P .foreign) (circular : P .circular) (v : Value) : P v := by
  match v with
  | .null => exact null
  | .bool b => exact bool b
  | .int n => exact int n
  | .float x => exact float x
  | .string s => exact string s
  | .list items =>
    exact list items fun v _ =>
      induction null bool int float string list tuple dictionary foreign circular v
  | .tuple items =>
    exact tuple items fun v _ =>
      induction null bool int float string list tuple dictionary foreign circular v
  | .dictionary entries =>
    exact dictionary entries fun entry _ =>
      induction null bool int float string list tuple dictionary foreign circular entry.2
  | .foreign => exact foreign
  | .circular => exact circular
termination_by sizeOf v
decreasing_by
  · have := List.sizeOf_lt_of_mem ‹v ∈ items›
    simp only [Value.list.sizeOf_spec]
    omega
  · have := List.sizeOf_lt_of_mem ‹v ∈ items›
    simp only [Value.tuple.sizeOf_spec]
    omega
  · have := List.sizeOf_lt_of_mem ‹entry ∈ entries›
    obtain ⟨key, v⟩ := entry
    simp only [Value.dictionary.sizeOf_spec, Prod.mk.sizeOf_spec] at this ⊢
    omega

variable {arrange : List (Units × Json) → List (Units × Json)} {part : Value} {depth : Nat}
  {items : List Value} {entries : List (DictionaryKey × Value)}

@[simp] lemma mem_partsOfItems : part ∈ partsOfItems items ↔ ∃ v ∈ items, part ∈ v.parts := by
  induction items with
  | nil => simp [partsOfItems]
  | cons v items ih => simp [partsOfItems, ih]

@[simp] lemma mem_partsOfEntries :
    part ∈ partsOfEntries entries ↔ ∃ entry ∈ entries, part ∈ entry.2.parts := by
  induction entries with
  | nil => simp [partsOfEntries]
  | cons entry entries ih => simp [partsOfEntries, ih]

@[simp] lemma nestingOfItems_le :
    nestingOfItems items ≤ depth ↔ ∀ v ∈ items, v.nesting < depth := by
  induction items with
  | nil => simp [nestingOfItems]
  | cons v items ih => simp [nestingOfItems, ih]

@[simp] lemma nestingOfEntries_le :
    nestingOfEntries entries ≤ depth ↔ ∀ entry ∈ entries, entry.2.nesting < depth := by
  induction entries with
  | nil => simp [nestingOfEntries]
  | cons entry entries ih => simp [nestingOfEntries, ih]

@[simp] lemma itemsWith_eq_map : itemsWith arrange items = items.map (formWith arrange) := by
  induction items with
  | nil => rfl
  | cons v items ih => rw [itemsWith, ih, List.map_cons]

@[simp] lemma fieldsWith_eq_map :
    fieldsWith arrange entries =
      entries.map fun entry => (entry.1.text, entry.2.formWith arrange) := by
  induction entries with
  | nil => rfl
  | cons entry entries ih => rw [fieldsWith, ih, List.map_cons]

/-! ### Writing -/

lemma fitsIn_list_succ : (list items).FitsIn (depth + 1) ↔ ∀ v ∈ items, v.FitsIn depth := by
  simp only [FitsIn, parts, nesting, nestingOfItems_le, List.forall_mem_cons, mem_partsOfItems,
    Nat.lt_succ_iff, hasForm, forall_and, forall_exists_index, and_imp, true_and]
  exact and_congr_left fun _ => ⟨fun h v hv part => h part v hv, fun h part v hv => h v hv part⟩

lemma fitsIn_list_zero : (list items).FitsIn 0 ↔ items = [] := by
  constructor
  · rintro ⟨-, h⟩
    rw [nesting, nestingOfItems_le] at h
    exact List.eq_nil_iff_forall_not_mem.2 fun v hv => Nat.not_lt_zero _ (h v hv)
  · rintro rfl
    simp [FitsIn, parts, partsOfItems, hasForm, nesting, nestingOfItems]

lemma fitsIn_tuple : (tuple items).FitsIn depth ↔ (list items).FitsIn depth := by
  simp only [FitsIn, parts, nesting, List.forall_mem_cons, hasForm]

lemma fitsIn_dictionary_succ : (dictionary entries).FitsIn (depth + 1) ↔
    ∀ entry ∈ entries, entry.1.hasText = true ∧ entry.2.FitsIn depth := by
  simp only [FitsIn, parts, nesting, nestingOfEntries_le, List.forall_mem_cons,
    mem_partsOfEntries, Nat.lt_succ_iff, hasForm, List.all_eq_true, forall_and,
    forall_exists_index, and_imp, and_assoc]
  exact and_congr_right fun _ => and_congr_left fun _ =>
    ⟨fun h entry hentry part => h part entry hentry, fun h part entry hentry => h entry hentry part⟩

lemma fitsIn_dictionary_zero : (dictionary entries).FitsIn 0 ↔ entries = [] := by
  constructor
  · rintro ⟨-, h⟩
    rw [nesting, nestingOfEntries_le] at h
    exact List.eq_nil_iff_forall_not_mem.2 fun entry hentry => Nat.not_lt_zero _ (h entry hentry)
  · rintro rfl
    simp [FitsIn, parts, partsOfEntries, hasForm, nesting, nestingOfEntries]

lemma itemsToJson?_eq_ok {js : List Json}
    (hitems : ∀ v ∈ items, ∀ j, v.toJsonWithin? depth = .ok j ↔ v.FitsIn depth ∧ v.written = j) :
    itemsToJson? depth items = .ok js ↔
      (∀ v ∈ items, v.FitsIn depth) ∧ items.map written = js := by
  induction items generalizing js with
  | nil => simp [itemsToJson?]
  | cons v items ih =>
    rw [List.forall_mem_cons] at hitems
    simp only [itemsToJson?, Fault.bind_eq_ok, hitems.1, ih hitems.2, List.forall_mem_cons,
      List.map_cons, pure, Except.pure, Except.ok.injEq]
    constructor
    · rintro ⟨j, ⟨hv, rfl⟩, js, ⟨hrest, rfl⟩, rfl⟩
      exact ⟨⟨hv, hrest⟩, rfl⟩
    · rintro ⟨⟨hv, hrest⟩, rfl⟩
      exact ⟨_, ⟨hv, rfl⟩, _, ⟨hrest, rfl⟩, rfl⟩

lemma entriesToJson?_eq_ok {fields : List (Units × Json)}
    (hentries : ∀ entry ∈ entries, ∀ j,
      entry.2.toJsonWithin? depth = .ok j ↔ entry.2.FitsIn depth ∧ entry.2.written = j) :
    entriesToJson? depth entries = .ok fields ↔
      (∀ entry ∈ entries, entry.1.hasText = true ∧ entry.2.FitsIn depth) ∧
        entries.map (fun entry => (entry.1.text, entry.2.written)) = fields := by
  induction entries generalizing fields with
  | nil => simp [entriesToJson?]
  | cons entry entries ih =>
    obtain ⟨key, v⟩ := entry
    rw [List.forall_mem_cons] at hentries
    simp only [entriesToJson?, Fault.bind_eq_ok, DictionaryKey.text?_eq_ok, hentries.1,
      ih hentries.2, List.forall_mem_cons, List.map_cons, pure, Except.pure, Except.ok.injEq]
    constructor
    · rintro ⟨text, ⟨hkey, rfl⟩, j, ⟨hv, rfl⟩, fields, ⟨hrest, rfl⟩, rfl⟩
      exact ⟨⟨⟨hkey, hv⟩, hrest⟩, rfl⟩
    · rintro ⟨⟨⟨hkey, hv⟩, hrest⟩, rfl⟩
      exact ⟨_, ⟨hkey, rfl⟩, _, ⟨hv, rfl⟩, _, ⟨hrest, rfl⟩, rfl⟩

lemma toJsonWithin?_list_succ : (list items).toJsonWithin? (depth + 1) =
    (itemsToJson? depth items).map .array := by
  cases items with
  | nil => rfl
  | cons v items =>
    simp only [toJsonWithin?, depthInside, bind, Except.bind]
    cases itemsToJson? depth (v :: items) <;> rfl

lemma toJsonWithin?_dictionary_succ : (dictionary entries).toJsonWithin? (depth + 1) =
    (entriesToJson? depth entries).map .object := by
  cases entries with
  | nil => rfl
  | cons entry entries =>
    simp only [toJsonWithin?, depthInside, bind, Except.bind]
    cases entriesToJson? depth (entry :: entries) <;> rfl

lemma toJsonWithin?_tuple :
    (tuple items).toJsonWithin? depth = (list items).toJsonWithin? depth := by
  cases items <;> rfl

lemma written_list : (list items).written = .array (items.map written) := by
  rw [written, formWith, itemsWith_eq_map]
  rfl

lemma written_dictionary : (dictionary entries).written =
    .object (entries.map fun entry => (entry.1.text, entry.2.written)) := by
  rw [written, formWith, fieldsWith_eq_map]
  rfl

lemma toJsonWithin?_list_eq_ok {j : Json} (ih : ∀ v ∈ items, ∀ {depth j},
      v.toJsonWithin? depth = .ok j ↔ v.FitsIn depth ∧ v.written = j) :
    (list items).toJsonWithin? depth = .ok j ↔
      (list items).FitsIn depth ∧ (list items).written = j := by
  cases depth with
  | zero =>
    rw [fitsIn_list_zero]
    cases items <;> simp [toJsonWithin?, depthInside, bind, Except.bind, written, formWith]
  | succ depth =>
    simp only [toJsonWithin?_list_succ, Fault.map_eq_ok, fitsIn_list_succ, written_list,
      itemsToJson?_eq_ok fun v hv j => ih v hv]
    constructor
    · rintro ⟨js, ⟨hitems, rfl⟩, rfl⟩
      exact ⟨hitems, rfl⟩
    · rintro ⟨hitems, rfl⟩
      exact ⟨_, ⟨hitems, rfl⟩, rfl⟩

lemma toJsonWithin?_dictionary_eq_ok {j : Json} (ih : ∀ entry ∈ entries, ∀ {depth j},
      entry.2.toJsonWithin? depth = .ok j ↔ entry.2.FitsIn depth ∧ entry.2.written = j) :
    (dictionary entries).toJsonWithin? depth = .ok j ↔
      (dictionary entries).FitsIn depth ∧ (dictionary entries).written = j := by
  cases depth with
  | zero =>
    rw [fitsIn_dictionary_zero]
    cases entries <;> simp [toJsonWithin?, depthInside, bind, Except.bind, written, formWith]
  | succ depth =>
    simp only [toJsonWithin?_dictionary_succ, Fault.map_eq_ok, fitsIn_dictionary_succ,
      written_dictionary, entriesToJson?_eq_ok fun entry hentry j => ih entry hentry]
    constructor
    · rintro ⟨fields, ⟨hentries, rfl⟩, rfl⟩
      exact ⟨hentries, rfl⟩
    · rintro ⟨hentries, rfl⟩
      exact ⟨_, ⟨hentries, rfl⟩, rfl⟩

/-- A value has a JSON value exactly if it fits, namely the one in which it is written. -/
theorem toJsonWithin?_eq_ok {v : Value} {j : Json} :
    v.toJsonWithin? depth = .ok j ↔ v.FitsIn depth ∧ v.written = j := by
  induction v using Value.induction generalizing depth j with
  | null | bool | float | string | foreign | circular =>
    simp [toJsonWithin?, FitsIn, parts, hasForm, nesting, written, formWith]
  | int n =>
    simp only [toJsonWithin?, FitsIn, parts, hasForm, nesting, written, formWith]
    split_ifs with hn <;> simp [hn]
  | list items ih => exact toJsonWithin?_list_eq_ok ih
  | tuple items ih =>
    rw [toJsonWithin?_tuple, fitsIn_tuple]
    exact toJsonWithin?_list_eq_ok ih
  | dictionary entries ih => exact toJsonWithin?_dictionary_eq_ok ih

/-! ### Finding again -/

/-- What is found again is what was written, with each name of an object once. -/
theorem collapse_written (v : Value) : v.written.collapse = v.norm := by
  induction v using Value.induction with
  | null | bool | int | float | string | foreign | circular => rfl
  | list items ih | tuple items ih =>
    simp only [written, norm, formWith, itemsWith_eq_map, Json.collapse,
      Json.collapseItems_eq_map, List.map_map, Json.array.injEq] at ih ⊢
    exact List.map_congr_left ih
  | dictionary entries ih =>
    simp only [written, norm, formWith, fieldsWith_eq_map, Json.collapse,
      Json.collapseFields_eq_map, List.map_map, Json.object.injEq, Json.distinct_eq_merged,
      id_eq] at ih ⊢
    congr 1
    exact List.map_congr_left fun entry hentry => Prod.ext rfl (ih entry hentry)

/-- A value that fits is written as one that the reader puts up with, if its floats are exact. -/
lemma isLegible_written {v : Value} (hfits : v.FitsIn depth)
    (hfloats : ∀ x, float x ∈ v.parts → x.isFinite = true → Json.IsExact x) :
    v.written.IsLegible depth := by
  induction v using Value.induction generalizing depth with
  | null | foreign | circular => exact .null
  | bool b => exact .bool b
  | int n => exact .int (of_decide_eq_true (hfits.1 (int n) (by simp [parts])))
  | float x => exact .float (hfloats x (by simp [parts]))
  | string s => exact .string s
  | list items ih | tuple items ih =>
    have hfits : (list items).FitsIn depth := by simpa only [fitsIn_tuple] using hfits
    change (list items).written.IsLegible depth
    cases depth with
    | zero =>
      obtain rfl := fitsIn_list_zero.1 hfits
      exact .emptyArray
    | succ depth =>
      rw [fitsIn_list_succ] at hfits
      rw [written_list]
      refine .array fun j hj => ?_
      obtain ⟨v, hv, rfl⟩ := List.mem_map.1 hj
      exact ih v hv (hfits v hv) fun x hx => hfloats x (by simpa [parts] using ⟨v, hv, hx⟩)
  | dictionary entries ih =>
    cases depth with
    | zero =>
      obtain rfl := fitsIn_dictionary_zero.1 hfits
      exact .emptyObject
    | succ depth =>
      rw [fitsIn_dictionary_succ] at hfits
      rw [written_dictionary]
      refine .object fun field hfield => ?_
      obtain ⟨entry, hentry, rfl⟩ := List.mem_map.1 hfield
      refine ih entry hentry (hfits entry hentry).2 fun x hx => hfloats x ?_
      rw [parts, List.mem_cons, mem_partsOfEntries]
      exact .inr ⟨entry, hentry, hx⟩

/-- If no dictionary has two keys of one text, no object that is written has a name twice. -/
lemma namesDiffer_written {v : Value} (hkeys : ∀ entries, dictionary entries ∈ v.parts →
    (entries.map fun entry => entry.1.text).Nodup) : v.written.NamesDiffer := by
  induction v using Value.induction with
  | null | foreign | circular => exact .null
  | bool b => exact .bool b
  | int n => exact .int n
  | float x => exact .float x
  | string s => exact .string s
  | list items ih | tuple items ih =>
    change (list items).written.NamesDiffer
    rw [written_list]
    refine .array fun j hj => ?_
    obtain ⟨v, hv, rfl⟩ := List.mem_map.1 hj
    exact ih v hv fun entries hentries => hkeys entries (by simpa [parts] using ⟨v, hv, hentries⟩)
  | dictionary entries ih =>
    have hnames := hkeys entries (by simp [parts])
    rw [written_dictionary]
    refine .object (by rwa [List.map_map]) fun field hfield => ?_
    obtain ⟨entry, hentry, rfl⟩ := List.mem_map.1 hfield
    refine ih entry hentry fun inner hinner => hkeys inner ?_
    rw [parts, List.mem_cons, mem_partsOfEntries]
    exact .inr ⟨entry, hentry, hinner⟩

/-! ### Keeping again what was found -/

lemma ofItems_eq_map (js : List Json) : ofItems js = js.map ofJson := by
  induction js with
  | nil => rfl
  | cons j js ih => rw [ofItems, ih, List.map_cons]

lemma ofFields_eq_map (fields : List (Units × Json)) :
    ofFields fields = fields.map fun field => (.string field.1, ofJson field.2) := by
  induction fields with
  | nil => rfl
  | cons field fields ih => rw [ofFields, ih, List.map_cons]

/-- What the reader puts up with can be written again, and is written as it was. -/
theorem toJsonWithin?_ofJson {j : Json} (h : j.IsLegible depth) :
    (ofJson j).toJsonWithin? depth = .ok j := by
  induction h with
  | null | bool | float | string | emptyArray | emptyObject => rfl
  | int hn => rw [ofJson, toJsonWithin?, if_pos hn]
  | @array depth js _ ih =>
    simp only [toJsonWithin?_eq_ok] at ih ⊢
    have hsame : js.map (written ∘ ofJson) = js.map id :=
      List.map_congr_left fun j hj => (ih j hj).2
    rw [ofJson, ofItems_eq_map, fitsIn_list_succ, written_list, List.map_map, hsame, List.map_id]
    refine ⟨fun v hv => ?_, rfl⟩
    obtain ⟨j, hj, rfl⟩ := List.mem_map.1 hv
    exact (ih j hj).1
  | @object depth fields _ ih =>
    simp only [toJsonWithin?_eq_ok] at ih ⊢
    have hsame : fields.map (fun field =>
        ((DictionaryKey.string field.1).text, (ofJson field.2).written)) = fields.map id :=
      List.map_congr_left fun field hfield => congrArg (Prod.mk field.1) (ih field hfield).2
    rw [List.map_id] at hsame
    rw [ofJson, ofFields_eq_map, fitsIn_dictionary_succ, written_dictionary, List.map_map]
    refine ⟨fun entry hentry => ?_, congrArg Json.object hsame⟩
    obtain ⟨field, hfield, rfl⟩ := List.mem_map.1 hentry
    exact ⟨rfl, (ih field hfield).1⟩

end Value

end SessionCookies
