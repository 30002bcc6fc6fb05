import SessionCookies.Proofs.Json.Numbers

/-!
# Values are read back from their texts

The text of a value reads back as the value, each name of an object once. The value has to be one
that the reader puts up with (`IsLegible`); every string is, half a surrogate pair included.
-/

namespace SessionCookies.Json

/-- A value that the reader puts up with: its integers are not too long, its finite floats are
exact, and at most `depth` arrays and objects that are not empty enclose one another. -/
inductive IsLegible : Nat → Json → Prop
  | null {depth : Nat} : IsLegible depth .null
  | bool {depth : Nat} (b : Bool) : IsLegible depth (.bool b)
  | int {depth : Nat} {n : Int} (hn : (writeNat n.natAbs).length ≤ maxIntegerDigits) :
      IsLegible depth (.int n)
  | float {depth : Nat} {x : Float} (hx : x.isFinite = true → IsExact x) :
      IsLegible depth (.float x)
  | string {depth : Nat} (s : Units) : IsLegible depth (.string s)
  | emptyArray {depth : Nat} : IsLegible depth (.array [])
  | array {depth : Nat} {items : List Json} (hitems : ∀ v ∈ items, IsLegible depth v) :
      IsLegible (depth + 1) (.array items)
  | emptyObject {depth : Nat} : IsLegible depth (.object [])
  | object {depth : Nat} {fields : List (Units × Json)}
      (hfields : ∀ field ∈ fields, IsLegible depth field.2) : IsLegible (depth + 1) (.object fields)

/-- A value is read off the front of a text in which something closes it. -/
def IsReadBack (depth : Nat) (v : Json) : Prop :=
  ∀ (fuel : Nat) (rest : List Char), Closes rest → 2 * v.writeChars.length ≤ fuel →
    readValue ⟨depth, false⟩ (fuel + 1) (v.writeChars ++ rest) = .ok (v, rest)

variable {depth fuel : Nat}

lemma IsTight.skipBlank_cons {cs : List Char} (h : IsTight cs) : skipBlank (' ' :: cs) = cs := h

lemma readItems_writeItems (v : Json) (items : List Json)
    (hitems : ∀ w ∈ v :: items, IsReadBack depth w)
    (hfuel : 2 * (writeItems (v :: items)).length ≤ fuel) (rest : List Char) :
    readItems ⟨depth, false⟩ fuel (writeItems (v :: items) ++ rest) = .ok (v :: items, rest) := by
  have hv := hitems v List.mem_cons_self
  induction items generalizing v fuel with
  | nil =>
    simp only [writeItems, List.length_append, List.length_singleton] at hfuel
    obtain ⟨fuel, rfl⟩ := Nat.exists_eq_add_of_le' (show 2 ≤ fuel by omega)
    rw [writeItems, List.append_assoc]
    exact readItems_last (hv fuel _ (.bracket rest) (by omega))
  | cons w items ih =>
    simp only [writeItems, List.length_append, List.length_cons] at hfuel
    obtain ⟨fuel, rfl⟩ := Nat.exists_eq_add_of_le' (show 2 ≤ fuel by omega)
    have hrest := ih w (fun u hu => hitems u (List.mem_cons_of_mem v hu))
      (show _ ≤ fuel + 1 by omega) (hitems w (by simp))
    simp only [writeItems, List.append_assoc, List.cons_append]
    exact readItems_cons (hv fuel _ (.comma _) (by omega))
      (isTight_of_readItems hrest).skipBlank_cons hrest

lemma readFields_writeFields (name : Units) (v : Json) (fields : List (Units × Json))
    (hfields : ∀ field ∈ (name, v) :: fields, IsReadBack depth field.2)
    (hfuel : 2 * (writeFields ((name, v) :: fields)).length ≤ fuel) (rest : List Char) :
    readFields ⟨depth, false⟩ fuel (writeFields ((name, v) :: fields) ++ rest) =
      .ok ((name, v) :: fields, rest) := by
  have hv : IsReadBack depth v := hfields (name, v) List.mem_cons_self
  have hname := isLiteral_writeString name
  induction fields generalizing name v fuel with
  | nil =>
    simp only [writeFields, List.length_append, List.length_cons] at hfuel
    obtain ⟨fuel, rfl⟩ := Nat.exists_eq_add_of_le' (show 2 ≤ fuel by omega)
    have hlast := hv fuel _ (.brace rest) (by omega)
    simp only [writeFields, List.append_assoc, List.cons_append, List.nil_append]
    exact readFields_last hname (isTight_of_readValue hlast).skipBlank_cons hlast
  | cons second fields ih =>
    obtain ⟨name', v'⟩ := second
    simp only [writeFields, List.length_append, List.length_cons] at hfuel
    obtain ⟨fuel, rfl⟩ := Nat.exists_eq_add_of_le' (show 2 ≤ fuel by omega)
    have hfirst := hv fuel
      (',' :: ' ' :: (writeFields ((name', v') :: fields) ++ rest)) (.comma _) (by omega)
    have hrest := ih name' v' (fun field hfield => hfields field (List.mem_cons_of_mem _ hfield))
      (show _ ≤ fuel + 1 by omega) (hfields (name', v') (by simp)) (isLiteral_writeString name')
    have htight : IsTight (writeFields ((name', v') :: fields) ++ rest) := by
      cases fields <;> exact isTight_cons (by decide) _
    simp only [writeFields, List.append_assoc, List.cons_append]
    exact readFields_cons hname (isTight_of_readValue hfirst).skipBlank_cons hfirst
      htight.skipBlank_cons hrest

lemma writeFields_cons (name : Units) (v : Json) (fields : List (Units × Json)) :
    ∃ cs, writeFields ((name, v) :: fields) = writeString name ++ cs := by
  cases fields <;>
    · simp only [writeFields, List.append_assoc]
      exact ⟨_, rfl⟩

/-- A value that the reader puts up with is read off the front of a text. -/
lemma IsLegible.isReadBack {v : Json} (h : v.IsLegible depth) : v.IsReadBack depth := by
  intro fuel rest hrest hfuel
  induction h generalizing fuel rest with
  | null => rfl
  | bool b => cases b <;> rfl
  | int hn => exact readValue_writeInt hn hrest _ fuel
  | float hx => exact readValue_writeFloat hx hrest _ fuel
  | string s => exact readValue_literal _ fuel (isLiteral_writeString s) rest
  | emptyArray => exact readValue_emptyArray _ fuel rest
  | @array depth items _ ih =>
    cases items with
    | nil => exact readValue_emptyArray _ fuel rest
    | cons v items =>
      simp only [writeChars, List.length_cons] at hfuel
      exact readValue_array rfl (readItems_writeItems v items ih (by omega) rest)
  | emptyObject => exact readValue_emptyObject _ fuel rest
  | @object depth fields _ ih =>
    cases fields with
    | nil => exact readValue_emptyObject _ fuel rest
    | cons field fields =>
      obtain ⟨name, v⟩ := field
      simp only [writeChars, List.length_cons] at hfuel
      have hread := readFields_writeFields name v fields ih (show _ ≤ fuel by omega) rest
      obtain ⟨cs, hcs⟩ := writeFields_cons name v fields
      rw [hcs, List.append_assoc] at hread
      rw [writeChars, hcs, List.cons_append, List.append_assoc]
      exact readValue_object (isLiteral_writeString name) rfl hread

/-- The text of a value gives back the value, with each name of an object once. -/
theorem ofText?_toText {v : Json} (h : v.IsLegible Limits.general.depth) :
    ofText? v.toText = .ok v.collapse := by
  have hread := h.isReadBack (2 * v.writeChars.length + 1) [] .nil (by omega)
  rw [List.append_nil] at hread
  have hchars : readChars .general v.writeChars = .ok v :=
    readChars_of_readValue (isTight_of_readValue hread) hread
  rw [ofText?, toText, String.toList_ofList, ofChars?, hchars]
  rfl

end SessionCookies.Json
