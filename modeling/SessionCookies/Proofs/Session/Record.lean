import SessionCookies.Proofs.Json.Fields
import SessionCookies.Proofs.Time.Rfc3339
import SessionCookies.Session.Record

/-!
# A session is read back from its record

The record of a session gives back its id, its data in order, and its expiry; the cookie value and
the marks of the session are no part of it. What a record of any kind gives has none of these
either, and no expiry by a clock whose offset from UTC is not of whole minutes
(`hasWholeMinutes_of_ofRecord?`).
-/

namespace SessionCookies

/-! ### Expiries -/

namespace Timestamp

/-- The characters of the written forms of timestamps. -/
def isTimeChar (c : Char) : Bool := c.isDigit || "-:T.Z+".toList.contains c

lemma all_isTimeChar_fixed (width n : Nat) : (Digits.fixed width n).all isTimeChar = true := by
  rw [List.all_eq_true]
  intro c hc
  rw [isTimeChar, isDigit_of_mem_fixed hc, Bool.true_or]

lemma all_isTimeChar_rfc3339 (t : Timestamp) : t.rfc3339.all isTimeChar = true := by
  have hmark : ∀ c ∈ "-:T.Z+".toList, isTimeChar c = true := List.all_eq_true.1 (by decide)
  have hcivil : (civilChars (Civil.ofWall t.wall)).all isTimeChar = true := by
    simp only [civilChars, List.all_append, List.all_cons, all_isTimeChar_fixed, Bool.and_true,
      Bool.true_and, hmark '-' (by decide), hmark ':' (by decide), hmark 'T' (by decide)]
    split_ifs
    · rfl
    · rw [List.all_cons, hmark '.' (by decide), all_isTimeChar_fixed, Bool.and_true]
  rw [rfc3339_eq, writeWall_eq, List.all_append, hcivil, Bool.true_and]
  cases t.offset with
  | none => rfl
  | some micros =>
    simp only [offsetChars]
    split_ifs
    · rfl
    · simp only [writeOffset, List.all_cons, List.all_append, all_isTimeChar_fixed, Bool.and_true,
        hmark ':' (by decide)]
      split_ifs
      · exact hmark '-' (by decide)
      · exact hmark '+' (by decide)

lemma compactChar_of_isTimeChar {c : Char} (hc : isTimeChar c = true) :
    Json.compactChar c = [c] := by
  apply Json.compactChar_of_plain
  · rintro rfl
    cases hc
  · rintro rfl
    cases hc
  · rw [isTimeChar, Bool.or_eq_true] at hc
    rcases hc with hdigit | hmark
    · exact le_trans (by decide) (Char.isDigit_iff_toNat.1 hdigit).1
    · have hge : ∀ c ∈ "-:T.Z+".toList, decide (0x20 ≤ c.toNat) = true :=
        List.all_eq_true.1 (by decide)
      exact of_decide_eq_true (hge c (List.contains_iff_mem.1 hmark))

/-- The written form of a timestamp needs no escapes in a string literal. -/
lemma flatMap_compactChar_rfc3339 (t : Timestamp) :
    t.rfc3339.flatMap Json.compactChar = t.rfc3339 := by
  have hplain : ∀ cs : List Char, cs.all isTimeChar = true →
      cs.flatMap Json.compactChar = cs := by
    intro cs hcs
    induction cs with
    | nil => rfl
    | cons c cs ih =>
      rw [List.all_cons, Bool.and_eq_true] at hcs
      rw [List.flatMap_cons, compactChar_of_isTimeChar hcs.1, ih hcs.2, List.singleton_append]
  exact hplain _ t.all_isTimeChar_rfc3339

end Timestamp

namespace Session

/-- A session as its record has it: without the cookie value and the marks. -/
def recorded (s : Session) : Session := { id := s.id, data := s.data, expiry := s.expiry }

open Json

/-- The JSON value of an expiry. -/
def expiryValue : Option Timestamp → Json
  | none => .null
  | some t => .string (Units.ofChars t.rfc3339)

lemma writeExpiry_some (t : Timestamp) :
    writeExpiry (some t) = compactString (String.ofList t.rfc3339) := by
  rw [writeExpiry, compactString, String.toList_ofList, t.flatMap_compactChar_rfc3339]

lemma readValue_writeExpiry (limits : Limits) (fuel : Nat) (expiry : Option Timestamp)
    (rest : List Char) :
    readValue limits (fuel + 1) (writeExpiry expiry ++ rest) = .ok (expiryValue expiry, rest) := by
  cases expiry with
  | none => rfl
  | some t =>
    rw [writeExpiry_some, readValue_compactString, Json.text, Units.ofString, String.toList_ofList]
    rfl

lemma isTight_writeExpiry (expiry : Option Timestamp) (rest : List Char) :
    IsTight (writeExpiry expiry ++ rest) := by
  cases expiry with
  | none => exact isTight_cons (by decide) _
  | some t => exact isTight_cons (by decide) _

lemma readExpiry?_expiryValue {expiry : Option Timestamp}
    (h : ∀ t ∈ expiry, t.HasWholeMinutes) : readExpiry? (expiryValue expiry) = some expiry := by
  cases expiry with
  | none => rfl
  | some t =>
    have hread : Timestamp.ofJson? (.string (Units.ofChars t.rfc3339)) = some t := by
      rw [Timestamp.ofJson?, Units.chars?_ofChars, Option.bind_some,
        Timestamp.ofText?_rfc3339 (h t rfl)]
    simp only [expiryValue, readExpiry?, hread]
    rfl

/-! ### Data -/

/-- The fields of the data as JSON values. -/
def dataFields (entries : List (String × String)) : List (Units × Json) :=
  entries.map fun (name, raw) => (Units.ofString name, .text raw)

lemma readFields_writeData (limits : Limits) (first : String × String)
    (entries : List (String × String)) (fuel : Nat) (hfuel : entries.length + 2 ≤ fuel)
    (rest : List Char) :
    readFields limits fuel (writeData (first :: entries) ++ '\x7d' :: rest) =
      .ok (dataFields (first :: entries), rest) := by
  induction entries generalizing first fuel with
  | nil =>
    obtain ⟨name, raw⟩ := first
    obtain ⟨fuel, rfl⟩ := Nat.exists_eq_add_of_le' hfuel
    rw [writeData, List.append_assoc, List.cons_append]
    exact readFields_last (isLiteral_compactString name) (isTight_compactString raw _)
      (readValue_compactString limits _ raw _)
  | cons second entries ih =>
    obtain ⟨name, raw⟩ := first
    obtain ⟨fuel, rfl⟩ := Nat.exists_eq_add_of_le' hfuel
    have hrest := ih second (fuel + (second :: entries).length + 1)
      (by simp only [List.length_cons]; omega)
    have htight : IsTight (writeData (second :: entries) ++ '\x7d' :: rest) := by
      obtain ⟨name, raw⟩ := second
      cases entries <;> exact isTight_cons (by decide) _
    simp only [writeData, List.append_assoc, List.cons_append]
    exact readFields_cons (isLiteral_compactString name) (isTight_compactString raw _)
      (readValue_compactString limits _ raw _) htight hrest

lemma writeData_cons (name raw : String) (entries : List (String × String)) :
    ∃ cs, writeData ((name, raw) :: entries) = compactString name ++ ':' :: cs := by
  cases entries with
  | nil => exact ⟨_, rfl⟩
  | cons second entries => exact ⟨_, by simp only [writeData, List.append_assoc]; rfl⟩

lemma readValue_writeData {limits inside : Limits} (hinside : limits.inside = .ok inside)
    (entries : List (String × String)) {fuel : Nat} (hfuel : entries.length + 2 ≤ fuel)
    (rest : List Char) :
    readValue limits fuel ('\x7b' :: writeData entries ++ '\x7d' :: rest) =
      .ok (.object (dataFields entries), rest) := by
  obtain ⟨fuel, rfl⟩ := Nat.exists_eq_add_of_le' hfuel
  cases entries with
  | nil => exact readValue_emptyObject limits _ rest
  | cons first entries =>
    obtain ⟨cs, hcs⟩ := writeData_cons first.1 first.2 entries
    have hfields := readFields_writeData inside first entries
      (fuel + (first :: entries).length + 1) (by simp only [List.length_cons]; omega) rest
    rw [hcs, List.append_assoc] at hfields
    rw [hcs, ← List.cons_append, List.append_assoc]
    exact readValue_object (isLiteral_compactString _) hinside hfields

lemma readData?_dataFields (m : OrderedMap String String) :
    readData? (.object (dataFields m.entries)) = some m := by
  obtain ⟨f, hread, hf⟩ : ∃ f : Units × Json → Option (String × String),
      (∀ fields, readData? (.object fields) = (fields.mapM f).map OrderedMap.ofList) ∧
        ∀ name raw, f (Units.ofString name, .text raw) = some (name, raw) := by
    refine ⟨_, fun _ => rfl, fun name raw => ?_⟩
    simp [readText?, Json.text]
  have hfields : ∀ entries : List (String × String),
      (dataFields entries).mapM f = some entries := by
    intro entries
    induction entries with
    | nil => rfl
    | cons first entries ih =>
      rw [dataFields, List.map_cons, ← dataFields, List.mapM_cons, ih, hf]
      rfl
  rw [hread, hfields, Option.map_some, OrderedMap.ofList_entries]

lemma fieldsAreSpelled_dataFields (entries : List (String × String)) :
    fieldsAreSpelled (dataFields entries) = true := by
  induction entries with
  | nil => rfl
  | cons first entries ih =>
    rw [dataFields, List.map_cons, ← dataFields]
    simp [fieldsAreSpelled, ih, isSpelled, Json.text, Units.ofString]

/-! ### Records -/

/-- The fields of a record as JSON values. -/
def recordFields (s : Session) : List (String × Json) :=
  [("id", .text s.id), ("data", .object (dataFields s.data.entries)),
    ("expiry", expiryValue s.expiry)]

lemma recordChars_eq (s : Session) :
    s.recordChars = '\x7b' :: compactString "id" ++ ':' :: (compactString s.id ++ ',' ::
      (compactString "data" ++ ':' :: ('\x7b' :: writeData s.data.entries ++ '\x7d' :: ',' ::
        (compactString "expiry" ++ ':' :: (writeExpiry s.expiry ++ ['\x7d']))))) := by
  have hid : "\x7b\"id\":".toList = '\x7b' :: compactString "id" ++ [':'] := by decide
  have hdata : ",\"data\":\x7b".toList = ',' :: compactString "data" ++ [':', '\x7b'] := by decide
  have hexpiry : "\x7d,\"expiry\":".toList = '\x7d' :: ',' :: compactString "expiry" ++ [':'] := by
    decide
  delta recordChars
  simp only [hid, hdata, hexpiry, List.append_assoc, List.cons_append, List.nil_append]

lemma length_entries_le (entries : List (String × String)) :
    entries.length ≤ (writeData entries).length := by
  induction entries with
  | nil => exact Nat.zero_le _
  | cons first entries ih =>
    cases entries with
    | nil => simp [writeData, compactString]
    | cons second entries =>
      simp only [writeData, List.length_append, List.length_cons] at ih ⊢
      omega

/-- The reader takes a record apart into its fields. -/
lemma readChars_recordChars (s : Session) :
    readChars recordLimits s.recordChars = .ok (.record s.recordFields) := by
  have hlength : s.data.entries.length + 10 ≤ s.recordChars.length := by
    have hle := length_entries_le s.data.entries
    rw [recordChars_eq]
    simp only [List.length_append, List.length_cons, compactString]
    omega
  obtain ⟨fuel, hfuel⟩ := Nat.exists_eq_add_of_le' (show 5 ≤ 2 * s.recordChars.length + 2 by omega)
  have henough : s.data.entries.length + 2 ≤ fuel + 2 := by omega
  apply readChars_of_readValue
  · rw [recordChars_eq]
    exact isTight_cons (by decide) _
  · rw [hfuel, recordChars_eq]
    have hinside : recordLimits.inside = .ok ⟨199, true⟩ := rfl
    have hinside' : (⟨199, true⟩ : Limits).inside = .ok ⟨198, true⟩ := rfl
    refine readValue_object (isLiteral_compactString _) hinside ?_
    refine readFields_cons (isLiteral_compactString _) (isTight_compactString s.id _)
      (readValue_compactString _ _ s.id _) (isTight_compactString "data" _) ?_
    refine readFields_cons (isLiteral_compactString _) (isTight_cons (by decide) _)
      (readValue_writeData hinside' _ henough _) (isTight_compactString "expiry" _) ?_
    exact readFields_last (isLiteral_compactString _) (isTight_writeExpiry _ _)
      (readValue_writeExpiry _ _ _ _)

/-- What a record gives back of a session: its id, its data and what its expiry is read as. -/
theorem ofRecord?_record_eq (s : Session) : ofRecord? s.record =
    (readExpiry? (expiryValue s.expiry)).map fun expiry =>
      { id := s.id, data := s.data, expiry } := by
  have hspelled : isSpelled (.record s.recordFields) = true := by
    cases hexpiry : s.expiry <;>
      simp [Json.record, recordFields, isSpelled, fieldsAreSpelled, fieldsAreSpelled_dataFields,
        Json.text, expiryValue, hexpiry]
  have hnames : (s.recordFields.map Prod.fst).Nodup := by
    change ["id", "data", "expiry"].Nodup
    decide
  have hid : (Json.record s.recordFields).field? "id" = some (.text s.id) := field?_record hnames _
  have hdata : (Json.record s.recordFields).field? "data" =
      some (.object (dataFields s.data.entries)) := field?_record hnames _
  have hexpiry : (Json.record s.recordFields).field? "expiry" = some (expiryValue s.expiry) :=
    field?_record hnames _
  rw [ofRecord?, record, String.toList_ofList, ofRecordChars?, readChars_recordChars]
  simp only [hspelled, if_true, ofJson?, hid, hdata, hexpiry, readData?_dataFields]
  cases readExpiry? (expiryValue s.expiry) <;> simp [readText?, Json.text]

/-- A session is read back from its record, without the cookie value and the marks. -/
theorem ofRecord?_record {s : Session} (h : ∀ t ∈ s.expiry, t.HasWholeMinutes) :
    ofRecord? s.record = some s.recorded := by
  rw [ofRecord?_record_eq, readExpiry?_expiryValue h, Option.map_some, recorded]

/-! ### Sessions that are read -/

/-- A session that is read has no cookie value and no marks, and an expiry only if its record spells
one. -/
lemma of_ofRecord? {record : String} {s : Session} (h : ofRecord? record = some s) :
    s = s.recorded ∧ ∀ t ∈ s.expiry, ∃ v, Timestamp.ofJson? v = some t := by
  have hexpiry {v : Json} {expiry : Option Timestamp} (h : readExpiry? v = some expiry) :
      ∀ t ∈ expiry, ∃ v, Timestamp.ofJson? v = some t := by
    rintro t rfl
    rw [readExpiry?.eq_def] at h
    split at h
    · cases h
    · obtain ⟨t', ht, h⟩ := Option.map_eq_some_iff.1 h
      cases h
      exact ⟨_, ht⟩
  have hjson {v : Json} (h : ofJson? v = some s) :
      s = s.recorded ∧ ∀ t ∈ s.expiry, ∃ v, Timestamp.ofJson? v = some t := by
    simp only [ofJson?, Option.bind_eq_bind] at h
    obtain ⟨id, -, h⟩ := Option.bind_eq_some_iff.1 h
    split at h
    all_goals
      obtain ⟨data, -, h⟩ := Option.bind_eq_some_iff.1 h
      split at h
      · obtain ⟨expiry, hread, h⟩ := Option.bind_eq_some_iff.1 h
        cases h
        exact ⟨rfl, hexpiry hread⟩
      · cases h
        exact ⟨rfl, nofun⟩
  simp only [ofRecord?, ofRecordChars?] at h
  split at h
  · split_ifs at h
    exact hjson h
  · cases h

lemma cookieValue_of_ofRecord? {record : String} {s : Session} (h : ofRecord? record = some s) :
    s.cookieValue = none := by
  rw [(of_ofRecord? h).1, recorded]

/-- Whatever a record is, the expiry of its session has an offset of whole minutes, if it has an
offset. -/
theorem hasWholeMinutes_of_ofRecord? {record : String} {s : Session}
    (h : ofRecord? record = some s) : ∀ t ∈ s.expiry, t.HasWholeMinutes := by
  intro t ht
  obtain ⟨v, hv⟩ := (of_ofRecord? h).2 t ht
  exact Timestamp.hasWholeMinutes_of_ofJson? hv

end Session

end SessionCookies
