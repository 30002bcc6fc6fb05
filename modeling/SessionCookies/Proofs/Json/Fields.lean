import SessionCookies.Proofs.Json.Strings
import SessionCookies.Proofs.OrderedMap

/-!
# Reading arrays and objects

How the reader goes through the items of an array and the fields of an object whose names are given
as string literals of some kind. What a value is made of is left to its own lemma.
-/

namespace SessionCookies.Json

/-- A text before which the reader skips nothing. -/
def IsTight (cs : List Char) : Prop := skipBlank cs = cs

lemma isTight_cons {c : Char} (hc : isBlank c = false) (cs : List Char) : IsTight (c :: cs) := by
  rw [IsTight, skipBlank, List.dropWhile_cons_of_neg (by rw [hc]; decide)]

lemma isTight_compactString (s : String) (rest : List Char) :
    IsTight (compactString s ++ rest) := isTight_cons (by decide) _

/-- A string literal of a text: the reader takes the text off, whatever follows. -/
def IsLiteral (literal : List Char) (s : Units) : Prop :=
  ∃ body, literal = '"' :: body ∧ ∀ start rest, stringBody start (body ++ rest) = .ok (s, rest)

lemma isLiteral_compactString (s : String) : IsLiteral (compactString s) (Units.ofString s) := by
  refine ⟨s.toList.flatMap compactChar ++ ['"'], rfl, fun start rest => ?_⟩
  rw [List.append_assoc, List.singleton_append, stringBody_compact]
  rfl

lemma isLiteral_writeString (s : Units) : IsLiteral (writeString s) s := by
  refine ⟨s.flatMap writeUnit ++ ['"'], rfl, fun start rest => ?_⟩
  rw [List.append_assoc, List.singleton_append, stringBody_writeUnits]

variable {limits inside : Limits} {fuel : Nat} {v : Json} {name : Units}
  {literal gap gap' cs cs' rest : List Char}

lemma readValue_literal (limits : Limits) (fuel : Nat) {s : Units} (hs : IsLiteral literal s)
    (rest : List Char) :
    readValue limits (fuel + 1) (literal ++ rest) = .ok (.string s, rest) := by
  obtain ⟨body, rfl, hbody⟩ := hs
  simp only [List.cons_append, readValue, hbody]
  rfl

lemma readValue_compactString (limits : Limits) (fuel : Nat) (s : String) (rest : List Char) :
    readValue limits (fuel + 1) (compactString s ++ rest) = .ok (.text s, rest) :=
  readValue_literal limits fuel (isLiteral_compactString s) rest

/-! ### Objects -/

/-- The last field of an object. -/
lemma readFields_last (hname : IsLiteral literal name) (hgap : skipBlank gap = cs)
    (hv : readValue limits fuel cs = .ok (v, '\x7d' :: rest)) :
    readFields limits (fuel + 1) (literal ++ ':' :: gap) = .ok ([(name, v)], rest) := by
  obtain ⟨body, rfl, hbody⟩ := hname
  have hcolon := isTight_cons (c := ':') (by decide) gap
  have hbrace := isTight_cons (c := '\x7d') (by decide) rest
  rw [IsTight] at hcolon hbrace
  simp only [List.cons_append, readFields, hbody, hcolon, hgap, hv, bind, Except.bind, hbrace]
  rfl

/-- A field of an object before others. -/
lemma readFields_cons {fields : List (Units × Json)} (hname : IsLiteral literal name)
    (hgap : skipBlank gap = cs) (hv : readValue limits fuel cs = .ok (v, ',' :: gap'))
    (hgap' : skipBlank gap' = cs') (hfields : readFields limits fuel cs' = .ok (fields, rest)) :
    readFields limits (fuel + 1) (literal ++ ':' :: gap) = .ok ((name, v) :: fields, rest) := by
  obtain ⟨body, rfl, hbody⟩ := hname
  have hcolon := isTight_cons (c := ':') (by decide) gap
  have hcomma := isTight_cons (c := ',') (by decide) gap'
  rw [IsTight] at hcolon hcomma
  simp only [List.cons_append, readFields, hbody, hcolon, hgap, hv, bind, Except.bind, hcomma,
    hgap', hfields]
  rfl

/-- An object that begins with a field. -/
lemma readValue_object {fields : List (Units × Json)} (hname : IsLiteral literal name)
    (hinside : limits.inside = .ok inside)
    (hfields : readFields inside fuel (literal ++ cs) = .ok (fields, rest)) :
    readValue limits (fuel + 1) ('\x7b' :: literal ++ cs) = .ok (.object fields, rest) := by
  obtain ⟨body, rfl, -⟩ := hname
  have hquote := isTight_cons (c := '"') (by decide) (body ++ cs)
  rw [IsTight] at hquote
  simp only [List.cons_append] at hfields ⊢
  simp only [readValue, hquote, hinside, bind, Except.bind]
  split
  · next heq => cases heq
  · rw [hfields]
    rfl

/-- An object without fields. -/
lemma readValue_emptyObject (limits : Limits) (fuel : Nat) (rest : List Char) :
    readValue limits (fuel + 1) ('\x7b' :: '\x7d' :: rest) = .ok (.object [], rest) := by
  have hbrace := isTight_cons (c := '\x7d') (by decide) rest
  rw [IsTight] at hbrace
  simp only [readValue, hbrace]

/-! ### Arrays -/

/-- The last item of an array. -/
lemma readItems_last (hv : readValue limits fuel cs = .ok (v, ']' :: rest)) :
    readItems limits (fuel + 1) cs = .ok ([v], rest) := by
  have hbracket := isTight_cons (c := ']') (by decide) rest
  rw [IsTight] at hbracket
  simp only [readItems, hv, bind, Except.bind, hbracket]
  rfl

/-- An item of an array before others. -/
lemma readItems_cons {items : List Json} (hv : readValue limits fuel cs = .ok (v, ',' :: gap))
    (hgap : skipBlank gap = cs') (hitems : readItems limits fuel cs' = .ok (items, rest)) :
    readItems limits (fuel + 1) cs = .ok (v :: items, rest) := by
  have hcomma := isTight_cons (c := ',') (by decide) gap
  rw [IsTight] at hcomma
  simp only [readItems, hv, bind, Except.bind, hcomma, hgap, hitems]
  rfl

/-- No value begins with a blank or with what closes an array. -/
lemma exists_cons_of_readValue (hv : readValue limits fuel cs = .ok (v, rest)) :
    ∃ c cs', cs = c :: cs' ∧ isBlank c = false ∧ c ≠ ']' := by
  cases fuel with
  | zero => cases hv
  | succ fuel =>
    cases cs with
    | nil => cases hv
    | cons c cs =>
      have hstray : c ∉ [' ', '\t', '\n', '\r', ']'] := by
        intro hc
        simp only [List.mem_cons, List.not_mem_nil, or_false] at hc
        rcases hc with rfl | rfl | rfl | rfl | rfl <;> cases hv
      refine ⟨c, cs, rfl, ?_, ?_⟩ <;> simp_all [isBlank]

lemma isTight_of_readValue (hv : readValue limits fuel cs = .ok (v, rest)) : IsTight cs := by
  obtain ⟨c, cs, rfl, hblank, -⟩ := exists_cons_of_readValue hv
  exact isTight_cons hblank cs

lemma exists_cons_of_readItems {items : List Json}
    (hitems : readItems limits fuel cs = .ok (items, rest)) :
    ∃ c cs', cs = c :: cs' ∧ isBlank c = false ∧ c ≠ ']' := by
  cases fuel with
  | zero => cases hitems
  | succ fuel =>
    cases hv : readValue limits fuel cs with
    | error e => simp [readItems, hv, bind, Except.bind] at hitems
    | ok first => exact exists_cons_of_readValue hv

lemma isTight_of_readItems {items : List Json}
    (hitems : readItems limits fuel cs = .ok (items, rest)) : IsTight cs := by
  obtain ⟨c, cs, rfl, hblank, -⟩ := exists_cons_of_readItems hitems
  exact isTight_cons hblank cs

/-- An array that begins with an item. -/
lemma readValue_array {items : List Json} (hinside : limits.inside = .ok inside)
    (hitems : readItems inside fuel cs = .ok (items, rest)) :
    readValue limits (fuel + 1) ('[' :: cs) = .ok (.array items, rest) := by
  have htight := isTight_of_readItems hitems
  obtain ⟨c, cs, rfl, -, hbracket⟩ := exists_cons_of_readItems hitems
  rw [IsTight] at htight
  simp only [readValue, htight, hinside, bind, Except.bind]
  split
  · next heq => exact absurd (List.cons.inj heq).1 hbracket
  · rw [hitems]
    rfl

/-- An array without items. -/
lemma readValue_emptyArray (limits : Limits) (fuel : Nat) (rest : List Char) :
    readValue limits (fuel + 1) ('[' :: ']' :: rest) = .ok (.array [], rest) := by
  have hbracket := isTight_cons (c := ']') (by decide) rest
  rw [IsTight] at hbracket
  simp only [readValue, hbracket]

/-! ### Whole texts -/

/-- A whole text that is one value. -/
lemma readChars_of_readValue (htight : IsTight cs)
    (hv : readValue limits (2 * cs.length + 2) cs = .ok (v, [])) : readChars limits cs = .ok v := by
  rw [IsTight] at htight
  simp only [readChars, readAll, htight, hv, bind, Except.bind]
  rfl

/-! ### Fields by name -/

lemma putField_eq_putEntry (name : Units) (v : Json) (fields : List (Units × Json)) :
    putField name v fields = OrderedMap.putEntry name v fields := by
  induction fields with
  | nil => rfl
  | cons field rest ih =>
    obtain ⟨other, old⟩ := field
    by_cases h : other = name
    · simp [putField, OrderedMap.putEntry, h]
    · simp [putField, OrderedMap.putEntry, h, ih]

lemma distinct_eq_entries (fields : List (Units × Json)) :
    distinct fields = (OrderedMap.ofList fields).entries := by
  induction fields using List.reverseRecOn with
  | nil => rfl
  | append_singleton fields field ih =>
    rw [OrderedMap.ofList_concat]
    simp only [distinct, List.foldl_append, List.foldl_cons, List.foldl_nil] at ih ⊢
    rw [ih, putField_eq_putEntry]
    rfl

lemma distinct_of_nodup {fields : List (Units × Json)} (nodup : (fields.map Prod.fst).Nodup) :
    distinct fields = fields := by
  rw [distinct_eq_entries]
  exact congrArg OrderedMap.entries (OrderedMap.ofList_entries ⟨fields, nodup⟩)

lemma lookup_map_ofString (name : String) (fields : List (String × Json)) :
    (fields.map fun (name, v) => (Units.ofString name, v)).lookup (Units.ofString name) =
      fields.lookup name := by
  induction fields with
  | nil => rfl
  | cons field rest ih =>
    obtain ⟨other, v⟩ := field
    have hbeq : (Units.ofString name == Units.ofString other) = (name == other) := by
      rw [Bool.eq_iff_iff, beq_iff_eq, beq_iff_eq, Units.ofString_injective.eq_iff]
    simp only [List.map_cons, List.lookup_cons, hbeq, ih]

/-- An object whose names differ has its fields under their names. -/
theorem field?_record {fields : List (String × Json)} (nodup : (fields.map Prod.fst).Nodup)
    (name : String) : (record fields).field? name = fields.lookup name := by
  have hnames : ((fields.map fun (name, v) => (Units.ofString name, v)).map Prod.fst).Nodup := by
    have hmap : ((fields.map fun (name, v) => (Units.ofString name, v)).map Prod.fst) =
        (fields.map Prod.fst).map Units.ofString := by
      rw [List.map_map, List.map_map]
      rfl
    rw [hmap]
    exact nodup.map Units.ofString_injective
  rw [record, field?, distinct_of_nodup hnames, lookup_map_ofString]

end SessionCookies.Json
