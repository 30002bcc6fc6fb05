import Mathlib.Tactic
import SessionCookies.Json.Compact
import SessionCookies.Json.Reader

/-!
# String literals

Reading a string literal gives back the text that was written, whatever follows it; a compact one
holds the characters of a text, one in printable ASCII any code units. The code units of a text
spell the text again.
-/

namespace SessionCookies

/-! ### Code units -/

namespace Units

/-- A character is no half of a surrogate pair. -/
lemma toNat_valid (c : Char) : c.toNat < 0xD800 ∨ 0xDFFF < c.toNat ∧ c.toNat < 0x110000 :=
  c.valid

lemma isHighSurrogate_iff (u : UInt16) :
    isHighSurrogate u = true ↔ 0xD800 ≤ u.toNat ∧ u.toNat < 0xDC00 := by
  simp only [isHighSurrogate, Bool.and_eq_true, decide_eq_true_eq]
  exact Iff.rfl

lemma isLowSurrogate_iff (u : UInt16) :
    isLowSurrogate u = true ↔ 0xDC00 ≤ u.toNat ∧ u.toNat < 0xE000 := by
  simp only [isLowSurrogate, Bool.and_eq_true, decide_eq_true_eq]
  exact Iff.rfl

lemma chars?_of_basic {u : UInt16} (hu : u.toNat < 0xD800 ∨ 0xDFFF < u.toNat) (us : Units) :
    chars? (u :: us) = (chars? us).map (Char.ofNat u.toNat :: ·) := by
  have hhigh : ¬ isHighSurrogate u = true := by
    rw [isHighSurrogate_iff]
    omega
  have hlow : ¬ isLowSurrogate u = true := by
    rw [isLowSurrogate_iff]
    omega
  cases us <;> simp only [chars?, if_neg hhigh, if_neg hlow]

lemma chars?_of_pair {u v : UInt16} (hu : 0xD800 ≤ u.toNat ∧ u.toNat < 0xDC00)
    (hv : 0xDC00 ≤ v.toNat ∧ v.toNat < 0xE000) (us : Units) :
    chars? (u :: v :: us) = (chars? us).map (paired u v :: ·) := by
  rw [← isHighSurrogate_iff] at hu
  rw [← isLowSurrogate_iff] at hv
  simp only [chars?, if_pos hu, if_pos hv]

lemma chars?_ofChar (c : Char) (us : Units) :
    chars? (ofChar c ++ us) = (chars? us).map (c :: ·) := by
  have hvalid := toNat_valid c
  by_cases hbasic : c.toNat < 0x10000
  · have hunit : (UInt16.ofNat c.toNat).toNat = c.toNat := by
      rw [UInt16.toNat_ofNat']
      omega
    rw [ofChar, if_pos hbasic, List.singleton_append, chars?_of_basic (by omega), hunit,
      Char.ofNat_toNat]
  · have hhigh : (UInt16.ofNat (0xD800 + (c.toNat - 0x10000) / 0x400)).toNat =
        0xD800 + (c.toNat - 0x10000) / 0x400 := by
      rw [UInt16.toNat_ofNat']
      omega
    have hlow : (UInt16.ofNat (0xDC00 + (c.toNat - 0x10000) % 0x400)).toNat =
        0xDC00 + (c.toNat - 0x10000) % 0x400 := by
      rw [UInt16.toNat_ofNat']
      omega
    have hpaired : 0x10000 + (0xD800 + (c.toNat - 0x10000) / 0x400 - 0xD800) * 0x400 +
        (0xDC00 + (c.toNat - 0x10000) % 0x400 - 0xDC00) = c.toNat := by omega
    rw [ofChar, if_neg hbasic, List.cons_append, List.singleton_append,
      chars?_of_pair (by omega) (by omega), paired, hhigh, hlow, hpaired, Char.ofNat_toNat]

@[simp] theorem chars?_ofChars (cs : List Char) : chars? (ofChars cs) = some cs := by
  induction cs with
  | nil => rfl
  | cons c cs ih => rw [ofChars_cons, chars?_ofChar, ih, Option.map_some]

@[simp] theorem chars?_ofString (s : String) : chars? (ofString s) = some s.toList :=
  chars?_ofChars s.toList

@[simp] theorem toString?_ofString (s : String) : toString? (ofString s) = some s := by
  rw [toString?, ofString, chars?_ofChars, Option.map_some, String.ofList_toList]

theorem ofString_injective : Function.Injective ofString := by
  intro s t h
  have hread := toString?_ofString s
  rw [h, toString?_ofString] at hread
  exact (Option.some.inj hread).symm

end Units

/-! ### Literals -/

namespace Json

lemma hexValue?_hexDigit : ∀ n < 16, Digits.hexValue? (hexDigit n) = some n := by decide

/-- A character is written as an escape of one letter, as one of four digits, or as itself. -/
lemma compactChar_cases (c : Char) :
    (∃ e, e ≠ 'u' ∧ compactChar c = ['\\', e] ∧ escaped? e = some (UInt16.ofNat c.toNat) ∧
      c.toNat < 0x80) ∨
    (c.toNat < 0x20 ∧ compactChar c =
      ['\\', 'u', '0', '0', hexDigit (c.toNat / 16), hexDigit (c.toNat % 16)]) ∨
    (compactChar c = [c] ∧ c ≠ '"' ∧ c ≠ '\\' ∧ 0x20 ≤ c.toNat) := by
  by_cases hletter :
      c ∈ ['"', '\\', Char.ofNat 8, '\t', '\n', Char.ofNat 12, '\r']
  · left
    simp only [List.mem_cons, List.not_mem_nil, or_false] at hletter
    rcases hletter with rfl | rfl | rfl | rfl | rfl | rfl | rfl
    · exact ⟨'"', by decide⟩
    · exact ⟨'\\', by decide⟩
    · exact ⟨'b', by decide⟩
    · exact ⟨'t', by decide⟩
    · exact ⟨'n', by decide⟩
    · exact ⟨'f', by decide⟩
    · exact ⟨'r', by decide⟩
  · right
    simp only [List.mem_cons, List.not_mem_nil, or_false, not_or] at hletter
    obtain ⟨hquote, hslash, h8, h9, h10, h12, h13⟩ := hletter
    simp only [compactChar, if_neg hquote, if_neg hslash, if_neg h8, if_neg h9, if_neg h10,
      if_neg h12, if_neg h13]
    split_ifs with hcontrol
    · exact .inl ⟨hcontrol, rfl⟩
    · exact .inr ⟨rfl, hquote, hslash, by omega⟩

lemma compactChar_of_plain {c : Char} (hquote : c ≠ '"') (hslash : c ≠ '\\')
    (hge : 0x20 ≤ c.toNat) : compactChar c = [c] := by
  have hne : ∀ d : Char, d.toNat < 0x20 → c ≠ d := by
    rintro d hd rfl
    omega
  rw [compactChar, if_neg hquote, if_neg hslash, if_neg (hne _ (by decide)),
    if_neg (hne _ (by decide)), if_neg (hne _ (by decide)), if_neg (hne _ (by decide)),
    if_neg (hne _ (by decide)), if_neg (by omega)]

lemma ofChar_of_lt {c : Char} (hc : c.toNat < 0x80) : Units.ofChar c = [UInt16.ofNat c.toNat] := by
  rw [Units.ofChar, if_pos (by omega)]

section StringBody

variable (start rest : List Char)

/-- An escape of one letter. -/
lemma stringBody_letter {e : Char} {u : UInt16} (he : e ≠ 'u') (hu : escaped? e = some u) :
    stringBody start ('\\' :: e :: rest) =
      (stringBody start rest).map fun (us, rest) => (u :: us, rest) := by
  rw [stringBody.eq_def]
  split <;> grind

/-- An escape of four digits. What follows matters: the reader wants a character after it. -/
lemma stringBody_hex {a b c d : Char} {u : UInt16} (hu : hexUnit? a b c d = some u)
    (hrest : rest ≠ []) :
    stringBody start ('\\' :: 'u' :: a :: b :: c :: d :: rest) =
      (stringBody start rest).map fun (us, rest) => (u :: us, rest) := by
  obtain ⟨e, rest, rfl⟩ := List.exists_cons_of_ne_nil hrest
  simp only [stringBody, hu]

/-- A character that stands for itself. -/
lemma stringBody_plain {c : Char} (hquote : c ≠ '"') (hslash : c ≠ '\\') (hge : 0x20 ≤ c.toNat) :
    stringBody start (c :: rest) =
      (stringBody start rest).map fun (us, rest) => (Units.ofChar c ++ us, rest) := by
  rw [stringBody.eq_def]
  split <;> simp_all

end StringBody

/-- The four digits of a code unit stand for it. -/
lemma hexUnit?_hexDigits (u : UInt16) :
    hexUnit? (hexDigit (u.toNat / 4096)) (hexDigit (u.toNat / 256 % 16))
      (hexDigit (u.toNat / 16 % 16)) (hexDigit (u.toNat % 16)) = some u := by
  have hlt := u.toNat_lt
  have hvalue : ((u.toNat / 4096 * 16 + u.toNat / 256 % 16) * 16 + u.toNat / 16 % 16) * 16 +
      u.toNat % 16 = u.toNat := by omega
  simp only [hexUnit?, hexValue?_hexDigit _ (show u.toNat / 4096 < 16 by omega),
    hexValue?_hexDigit _ (Nat.mod_lt _ (show 0 < 16 by decide)), Option.bind_eq_bind,
    Option.bind_some, hvalue, UInt16.ofNat_toNat]
  rfl

/-- Reading takes a written character off the front of a literal. -/
lemma stringBody_compactChar (start : List Char) (c : Char) {rest : List Char} (hrest : rest ≠ []) :
    stringBody start (compactChar c ++ rest) =
      (stringBody start rest).map fun (us, rest) => (Units.ofChar c ++ us, rest) := by
  obtain ⟨letter, hu, hc, hletter, hlt⟩ | ⟨hlt, hc⟩ | ⟨hc, hquote, hslash, hge⟩ :=
    compactChar_cases c
  · rw [hc, ofChar_of_lt hlt]
    exact stringBody_letter start rest hu hletter
  · have hunit := hexUnit?_hexDigits (UInt16.ofNat c.toNat)
    have hnat : (UInt16.ofNat c.toNat).toNat = c.toNat := by
      rw [UInt16.toNat_ofNat']
      omega
    rw [hnat, Nat.div_eq_of_lt (show c.toNat < 4096 by omega),
      Nat.div_eq_of_lt (show c.toNat < 256 by omega),
      Nat.mod_eq_of_lt (show c.toNat / 16 < 16 by omega)] at hunit
    rw [hc, ofChar_of_lt (by omega)]
    exact stringBody_hex start rest hunit hrest
  · rw [hc]
    exact stringBody_plain start rest hquote hslash hge

/-- Reading a written text gives its code units, and what follows the closing quote. -/
theorem stringBody_compact (start : List Char) (cs rest : List Char) :
    stringBody start (cs.flatMap compactChar ++ '"' :: rest) = .ok (Units.ofChars cs, rest) := by
  induction cs with
  | nil => simp [stringBody]
  | cons c cs ih =>
    rw [List.flatMap_cons, List.append_assoc, stringBody_compactChar start c (by simp), ih]
    rfl

/-! ### Literals in printable ASCII -/

/-- A code unit is written as an escape of one letter, as one of four digits, or as the character
that it is. -/
lemma writeUnit_cases (u : UInt16) :
    (∃ e, e ≠ 'u' ∧ writeUnit u = ['\\', e] ∧ escaped? e = some u) ∨
    writeUnit u = '\\' :: 'u' :: hexDigits u ∨
    (writeUnit u = [Char.ofNat u.toNat] ∧ u ≠ 0x22 ∧ u ≠ 0x5C ∧ 0x20 ≤ u ∧ u ≤ 0x7E) := by
  by_cases hletter : u ∈ ([0x22, 0x5C, 0x08, 0x09, 0x0A, 0x0C, 0x0D] : List UInt16)
  · left
    simp only [List.mem_cons, List.not_mem_nil, or_false] at hletter
    rcases hletter with rfl | rfl | rfl | rfl | rfl | rfl | rfl
    · exact ⟨'"', by decide⟩
    · exact ⟨'\\', by decide⟩
    · exact ⟨'b', by decide⟩
    · exact ⟨'t', by decide⟩
    · exact ⟨'n', by decide⟩
    · exact ⟨'f', by decide⟩
    · exact ⟨'r', by decide⟩
  · right
    simp only [List.mem_cons, List.not_mem_nil, or_false, not_or] at hletter
    obtain ⟨hquote, hslash, h8, h9, h10, h12, h13⟩ := hletter
    simp only [writeUnit, if_neg hquote, if_neg hslash, if_neg h8, if_neg h9, if_neg h10,
      if_neg h12, if_neg h13]
    split_ifs with hplain
    · exact .inr ⟨rfl, hquote, hslash, hplain⟩
    · exact .inl rfl

/-- Reading takes a written code unit off the front of a literal. -/
lemma stringBody_writeUnit (start : List Char) (u : UInt16) {rest : List Char} (hrest : rest ≠ []) :
    stringBody start (writeUnit u ++ rest) =
      (stringBody start rest).map fun (us, rest) => (u :: us, rest) := by
  obtain ⟨letter, hu, hc, hletter⟩ | hc | ⟨hc, hquote, hslash, hge, hle⟩ := writeUnit_cases u
  · rw [hc]
    exact stringBody_letter start rest hu hletter
  · rw [hc]
    exact stringBody_hex start rest (hexUnit?_hexDigits u) hrest
  · have hge : 0x20 ≤ u.toNat := UInt16.le_iff_toNat_le.1 hge
    have hle : u.toNat ≤ 0x7E := UInt16.le_iff_toNat_le.1 hle
    have hascii : ∀ n < 0x7F, (Char.ofNat n).toNat = n := by decide
    have hnat := hascii u.toNat (by omega)
    have hne (d : Char) (hd : u ≠ UInt16.ofNat d.toNat) : Char.ofNat u.toNat ≠ d := by
      rintro rfl
      rw [hnat, UInt16.ofNat_toNat] at hd
      exact hd rfl
    have hunits : Units.ofChar (Char.ofNat u.toNat) = [u] := by
      rw [ofChar_of_lt (by omega), hnat, UInt16.ofNat_toNat]
    rw [hc, List.singleton_append,
      stringBody_plain start rest (hne _ hquote) (hne _ hslash) (by omega), hunits]
    rfl

/-- Reading a written text gives the text, and what follows the closing quote. -/
theorem stringBody_writeUnits (start : List Char) (s : Units) (rest : List Char) :
    stringBody start (s.flatMap writeUnit ++ '"' :: rest) = .ok (s, rest) := by
  induction s with
  | nil => simp [stringBody]
  | cons u s ih =>
    rw [List.flatMap_cons, List.append_assoc, stringBody_writeUnit start u (by simp), ih]
    rfl

end Json

end SessionCookies
