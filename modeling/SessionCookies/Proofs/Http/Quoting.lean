import SessionCookies.Http.Query
import SessionCookies.Http.Url
import SessionCookies.Proofs.Text.Ascii
import SessionCookies.Proofs.Text.Utf8

/-!
# What a quoted URL stands for

Quoting a text leaves what it stands for when it is unquoted (`Url.unquote_quoted`), because a
percent sign is left as it is. So a text that is quoted and unquoted comes back exactly if it held
no percent sign that has two hexadecimal digits behind it (`Url.unquote_eq_iff`).
-/

namespace SessionCookies.Url

/-! ### Unquoting -/

/-- The bytes that a text of a URL stands for: a percent sign with two hexadecimal digits is the
byte of the digits, and any other character has its own bytes. -/
def unquote : List Char → List UInt8
  | '%' :: a :: b :: rest =>
    match Query.byte? a b with
    | some byte => byte :: unquote rest
    | none => String.utf8EncodeChar '%' ++ unquote (a :: b :: rest)
  | c :: rest => String.utf8EncodeChar c ++ unquote rest
  | [] => []

/-- Whether a text begins with the two digits of a byte. -/
def StartsWithByte (cs : List Char) : Prop :=
  ∃ a b rest byte, cs = a :: b :: rest ∧ Query.byte? a b = some byte

/-- Whether no percent sign of a text has two hexadecimal digits behind it. -/
def IsLiteral (cs : List Char) : Prop :=
  ∀ a b, ['%', a, b] <:+: cs → Query.byte? a b = none

variable {c a b : Char} {cs rest : List Char} {byte : UInt8}

lemma not_startsWithByte_of_eq_none (h : Query.byte? a b = none) :
    ¬ StartsWithByte (a :: b :: rest) := by
  rintro ⟨a', b', rest', byte, hcs, hbyte⟩
  cases hcs
  cases h.symm.trans hbyte

lemma unquote_of_byte (h : Query.byte? a b = some byte) :
    unquote ('%' :: a :: b :: rest) = byte :: unquote rest := by
  rw [unquote, h]

lemma unquote_cons (h : c = '%' → ¬ StartsWithByte rest) :
    unquote (c :: rest) = String.utf8EncodeChar c ++ unquote rest := by
  by_cases hc : c = '%'
  · subst hc
    match rest, h rfl with
    | [], _ => rfl
    | [a], _ => rfl
    | a :: b :: rest, hbyte =>
      rw [unquote]
      cases hread : Query.byte? a b with
      | none => rfl
      | some byte => exact absurd ⟨a, b, rest, byte, rfl, hread⟩ hbyte
  · rw [unquote]
    rintro a b more rfl
    exact absurd rfl hc

/-- A text is empty, begins with a percent sign and the digits of a byte, or begins with a character
that stands for itself. -/
@[elab_as_elim]
theorem unquote_induction {motive : List Char → Prop} (nil : motive [])
    (byte : ∀ a b rest byte, Query.byte? a b = some byte → motive rest →
      motive ('%' :: a :: b :: rest))
    (char : ∀ c rest, (c = '%' → ¬ StartsWithByte rest) → motive rest → motive (c :: rest))
    (cs : List Char) : motive cs := by
  induction cs using unquote.induct with
  | case1 a b rest value hvalue ih => exact byte a b rest value hvalue ih
  | case2 a b rest hnone ih =>
    exact char '%' _ (fun _ => not_startsWithByte_of_eq_none hnone) ih
  | case3 c rest hno ih =>
    refine char c rest ?_ ih
    rintro hc ⟨a, b, more, value, rfl, -⟩
    exact hno a b more hc rfl
  | case4 => exact nil

lemma isLiteral_cons_iff :
    IsLiteral (c :: rest) ↔ (c = '%' → ¬ StartsWithByte rest) ∧ IsLiteral rest := by
  simp only [IsLiteral, List.infix_cons_iff, List.cons_prefix_cons]
  constructor
  · intro h
    refine ⟨?_, fun a b hin => h a b (.inr hin)⟩
    rintro rfl ⟨a, b, more, byte, rfl, hbyte⟩
    have hnone := h a b (.inl ⟨rfl, more, rfl⟩)
    cases hnone.symm.trans hbyte
  · rintro ⟨hc, hrest⟩ a b (⟨rfl, hprefix⟩ | hin)
    · obtain ⟨more, rfl⟩ := hprefix
      rw [Option.eq_none_iff_forall_ne_some]
      exact fun byte hbyte => hc rfl ⟨a, b, more, byte, rfl, hbyte⟩
    · exact hrest a b hin

lemma isHexDigit_of_byte (h : Query.byte? a b = some byte) :
    Address.isHexDigit a = true ∧ Address.isHexDigit b = true := by
  obtain ⟨m, hm, h⟩ := Option.bind_eq_some_iff.1 h
  obtain ⟨n, hn, -⟩ := Option.bind_eq_some_iff.1 h
  exact ⟨Option.isSome_of_eq_some hm, Option.isSome_of_eq_some hn⟩

/-- A byte that is read from digits is shorter than the three characters. -/
lemma length_unquote_le (cs : List Char) :
    (unquote cs).length ≤ (cs.flatMap String.utf8EncodeChar).length := by
  induction cs using unquote_induction with
  | nil => rfl
  | byte a b rest byte hbyte ih =>
    rw [unquote_of_byte hbyte]
    have := Utf8.length_encodeChar_pos '%'
    simp only [List.length_cons, List.flatMap_cons, List.length_append]
    omega
  | char c rest hc ih =>
    rw [unquote_cons hc, List.flatMap_cons, List.length_append, List.length_append]
    omega

/-- A text stands for its own bytes exactly if it holds no byte in digits. -/
theorem unquote_eq_iff (cs : List Char) :
    unquote cs = cs.flatMap String.utf8EncodeChar ↔ IsLiteral cs := by
  induction cs using unquote_induction with
  | nil => simp [unquote, IsLiteral, List.infix_nil]
  | byte a b rest byte hbyte ih =>
    rw [isLiteral_cons_iff, unquote_of_byte hbyte]
    constructor
    · intro h
      have hlength := congrArg List.length h
      have hshort := length_unquote_le rest
      have hpercent := Utf8.length_encodeChar_pos '%'
      have ha := Utf8.length_encodeChar_pos a
      simp only [List.length_cons, List.flatMap_cons, List.length_append] at hlength
      omega
    · rintro ⟨hno, -⟩
      exact absurd ⟨a, b, rest, byte, rfl, hbyte⟩ (hno rfl)
  | char c rest hc ih =>
    rw [unquote_cons hc, List.flatMap_cons, List.append_cancel_left_eq, ih, isLiteral_cons_iff,
      and_iff_right hc]

instance : Decidable (IsLiteral cs) := decidable_of_iff _ (unquote_eq_iff cs)

/-! ### Quoting -/

/-- A text in which every character that is not kept is given by its bytes. -/
def quoted (kept : Char → Bool) (cs : List Char) : List Char :=
  cs.flatMap fun c => if kept c then [c] else (String.utf8EncodeChar c).flatMap quoteByte

/-- The characters in which bytes are given are kept, so that a quoted text can be quoted again. -/
structure KeepsQuotes (kept : Char → Bool) : Prop where
  percent : kept '%' = true
  digits : ∀ c, Address.isHexDigit c = true → kept c = true

variable {kept : Char → Bool}

lemma quoted_cons_of_pos (h : kept c = true) :
    quoted kept (c :: rest) = c :: quoted kept rest := by
  rw [quoted, List.flatMap_cons, if_pos h, List.singleton_append, ← quoted]

lemma quoted_cons_of_neg (h : ¬ kept c = true) :
    quoted kept (c :: rest) =
      (String.utf8EncodeChar c).flatMap quoteByte ++ quoted kept rest := by
  rw [quoted, List.flatMap_cons, if_neg h, ← quoted]

lemma quoted_append (kept : Char → Bool) (cs ds : List Char) :
    quoted kept (cs ++ ds) = quoted kept cs ++ quoted kept ds :=
  List.flatMap_append

lemma quoted_of_forall (h : ∀ c ∈ cs, kept c = true) : quoted kept cs = cs := by
  induction cs with
  | nil => rfl
  | cons c rest ih =>
    rw [List.forall_mem_cons] at h
    rw [quoted_cons_of_pos h.1, ih h.2]

lemma quoted_ne_nil (h : cs ≠ []) : quoted kept cs ≠ [] := by
  obtain ⟨c, rest, rfl⟩ := List.exists_cons_of_ne_nil h
  by_cases hkept : kept c = true
  · rw [quoted_cons_of_pos hkept]
    exact List.cons_ne_nil _ _
  · obtain ⟨byte, more, hbytes⟩ := List.exists_cons_of_length_pos (Utf8.length_encodeChar_pos c)
    rw [quoted_cons_of_neg hkept, hbytes, List.flatMap_cons, quoteByte]
    exact List.cons_ne_nil _ _

lemma hexValue?_upperHexDigit : ∀ n < 16, Digits.hexValue? (upperHexDigit n) = some n := by decide

lemma byte?_upperHexDigit (byte : UInt8) :
    Query.byte? (upperHexDigit (byte.toNat / 16)) (upperHexDigit (byte.toNat % 16)) =
      some byte := by
  have hbyte := byte.toNat_lt
  rw [Query.byte?, hexValue?_upperHexDigit _ (by omega), hexValue?_upperHexDigit _ (by omega)]
  have hsum : byte.toNat / 16 * 16 + byte.toNat % 16 = byte.toNat := by omega
  simp only [Option.bind_eq_bind, Option.bind_some, hsum, UInt8.ofNat_toNat]
  rfl

/-- Quoting brings in percent signs and digits. -/
lemma mem_of_mem_quoted (h : c ∈ quoted kept cs) :
    (c ∈ cs ∧ kept c = true) ∨ c = '%' ∨ Address.isHexDigit c = true := by
  obtain ⟨d, hd, hc⟩ := List.mem_flatMap.1 h
  split_ifs at hc with hkept
  · obtain rfl := List.mem_singleton.1 hc
    exact .inl ⟨hd, hkept⟩
  · obtain ⟨byte, -, hc⟩ := List.mem_flatMap.1 hc
    obtain ⟨hhigh, hlow⟩ := isHexDigit_of_byte (byte?_upperHexDigit byte)
    rw [quoteByte] at hc
    simp only [List.mem_cons, List.not_mem_nil, or_false] at hc
    rcases hc with rfl | rfl | rfl
    · exact .inr (.inl rfl)
    · exact .inr (.inr hhigh)
    · exact .inr (.inr hlow)

lemma KeepsQuotes.of_mem_quoted (hkept : KeepsQuotes kept) (h : c ∈ quoted kept cs) :
    kept c = true := by
  rcases mem_of_mem_quoted h with ⟨-, hc⟩ | rfl | hc
  · exact hc
  · exact hkept.percent
  · exact hkept.digits c hc

/-- Quoted bytes stand for the bytes. -/
lemma unquote_quoteBytes (bytes : List UInt8) (rest : List Char) :
    unquote (bytes.flatMap quoteByte ++ rest) = bytes ++ unquote rest := by
  induction bytes with
  | nil => rfl
  | cons byte more ih =>
    rw [List.flatMap_cons, List.append_assoc, quoteByte, List.cons_append, List.cons_append,
      List.singleton_append, unquote_of_byte (byte?_upperHexDigit byte), ih, List.cons_append]

/-- A digit that a quoted text begins with was kept. -/
lemma head_of_quoted (ha : Address.isHexDigit a = true) (h : quoted kept cs = a :: rest) :
    ∃ more, cs = a :: more ∧ quoted kept more = rest := by
  cases cs with
  | nil => cases h
  | cons c cs =>
    by_cases hkept : kept c = true
    · rw [quoted_cons_of_pos hkept, List.cons.injEq] at h
      exact ⟨cs, by rw [h.1], h.2⟩
    · obtain ⟨byte, more, hbytes⟩ := List.exists_cons_of_length_pos (Utf8.length_encodeChar_pos c)
      rw [quoted_cons_of_neg hkept, hbytes, List.flatMap_cons, quoteByte] at h
      cases h
      cases ha

/-- Quoting a text makes no new digits for a percent sign in front of it. -/
lemma startsWithByte_of_quoted (h : StartsWithByte (quoted kept cs)) : StartsWithByte cs := by
  obtain ⟨a, b, rest, byte, hquoted, hbyte⟩ := h
  obtain ⟨ha, hb⟩ := isHexDigit_of_byte hbyte
  obtain ⟨more, rfl, hmore⟩ := head_of_quoted ha hquoted
  obtain ⟨more, rfl, -⟩ := head_of_quoted hb hmore
  exact ⟨a, b, more, byte, rfl, hbyte⟩

/-- Quoting a text does not change what it stands for. -/
theorem unquote_quoted (hkept : KeepsQuotes kept) (cs : List Char) :
    unquote (quoted kept cs) = unquote cs := by
  induction cs using unquote_induction with
  | nil => rfl
  | byte a b rest byte hbyte ih =>
    obtain ⟨ha, hb⟩ := isHexDigit_of_byte hbyte
    rw [quoted_cons_of_pos hkept.percent, quoted_cons_of_pos (hkept.digits a ha),
      quoted_cons_of_pos (hkept.digits b hb), unquote_of_byte hbyte, unquote_of_byte hbyte, ih]
  | char c rest hc ih =>
    rw [unquote_cons hc]
    by_cases hkeep : kept c = true
    · rw [quoted_cons_of_pos hkeep, unquote_cons, ih]
      exact fun h hstarts => hc h (startsWithByte_of_quoted hstarts)
    · rw [quoted_cons_of_neg hkeep, unquote_quoteBytes, ih]

/-! ### Quoted URLs -/

lemma toNat_lt_of_isHexDigit (h : Address.isHexDigit c = true) : c.toNat < 128 := by
  rw [Address.isHexDigit, Digits.hexValue?] at h
  split_ifs at h with hdigit hlower hupper
  · apply Ascii.toNat_lt_of_isAlphanum
    rw [Char.isAlphanum, hdigit, Bool.or_true]
  · exact lt_of_le_of_lt hlower.2 (by decide)
  · exact lt_of_le_of_lt hupper.2 (by decide)
  · cases h

lemma toNat_lt_of_isKept (h : isKept c = true) : c.toNat < 128 :=
  Ascii.toNat_lt_of_marks (by decide) h

theorem keepsQuotes_isKept : KeepsQuotes isKept where
  percent := by decide
  digits := Ascii.forall_of_range (fun _ => toNat_lt_of_isHexDigit) (by decide +kernel)

lemma toList_quote (url : String) : (quote url).toList = quoted isKept url.toList := by
  have hchar : quoteChar = fun c => if isKept c then [c] else
      (String.utf8EncodeChar c).flatMap quoteByte := by
    funext c
    rw [quoteChar, Utf8.bytes_singleton]
  rw [quote, String.toList_ofList, quoted, hchar]

lemma quote_append (s t : String) : quote (s ++ t) = quote s ++ quote t := by
  rw [quote, String.toList_append, List.flatMap_append, String.ofList_append, ← quote, ← quote]

lemma isEmpty_quote (s : String) : (quote s).isEmpty = s.isEmpty := by
  rw [Bool.eq_iff_iff, String.isEmpty_iff, String.isEmpty_iff, ← String.toList_eq_nil_iff,
    ← String.toList_eq_nil_iff, toList_quote]
  constructor
  · exact not_imp_not.1 quoted_ne_nil
  · intro h
    rw [h]
    rfl

lemma quote_of_forall {s : String} (h : ∀ c ∈ s.toList, isKept c = true) : quote s = s := by
  rw [← String.toList_inj, toList_quote, quoted_of_forall h]

/-! ### Quoted paths -/

/-- The characters of a path that stand for themselves in a quoted URL. -/
def isKeptInPath (c : Char) : Bool := isKept c && c ≠ '?' && c ≠ '#'

theorem keepsQuotes_isKeptInPath : KeepsQuotes isKeptInPath where
  percent := by decide
  digits := Ascii.forall_of_range (fun _ => toNat_lt_of_isHexDigit) (by decide +kernel)

lemma quoted_escapePathChar (c : Char) :
    quoted isKept (escapePathChar c) = quoted isKeptInPath [c] := by
  rw [escapePathChar]
  split_ifs with hquestion hnumber hbackslash
  · subst hquestion
    decide +kernel
  · subst hnumber
    decide +kernel
  · subst hbackslash
    decide +kernel
  · have hkept : isKeptInPath c = isKept c := by simp [isKeptInPath, hquestion, hnumber]
    simp only [quoted, List.flatMap_singleton, hkept]

/-- What could end a path is quoted at once, and the rest with the URL. -/
lemma quoted_flatMap_escapePathChar (cs : List Char) :
    quoted isKept (cs.flatMap escapePathChar) = quoted isKeptInPath cs := by
  induction cs with
  | nil => rfl
  | cons c rest ih =>
    rw [← List.singleton_append, quoted_append isKeptInPath, ← ih, ← quoted_escapePathChar,
      List.flatMap_append, quoted_append, List.flatMap_singleton]

end SessionCookies.Url
