import Mathlib.Tactic
import SessionCookies.Cookie.Quoted
import SessionCookies.Proofs.Text.Ascii
import SessionCookies.Text.Blank

/-!
# A cookie value survives its quoting

The reader takes off exactly what the writer put on, whatever the characters of the value are. A
written value holds no semicolon, and stripping blanks does nothing to it, so that it is found
whole among the pieces of a header.
-/

namespace SessionCookies.Cookie

/-! ### Characters -/

lemma octalValue?_octalDigit (n : Nat) : octalValue? (octalDigit n) = some (n % 8) := by
  have h : ∀ k < 8, octalValue? (Char.ofNat (k % 8 + 48)) = some k := by decide
  have hn := h (n % 8) (Nat.mod_lt _ (by decide))
  rwa [Nat.mod_mod] at hn

lemma octalDigit_ne_semicolon (n : Nat) : octalDigit n ≠ ';' := by
  intro h
  have hvalue := octalValue?_octalDigit n
  rw [h] at hvalue
  cases hvalue

lemma octalChar?_octalDigit {n : Nat} (hn : n < 256) :
    octalChar? (octalDigit (n / 64)) (octalDigit (n / 8)) (octalDigit n) = some (Char.ofNat n) := by
  have hfirst : n / 64 % 8 < 4 := by omega
  have hsum : n / 64 % 8 * 64 + n / 8 % 8 * 8 + n % 8 = n := by omega
  simp only [octalChar?, octalValue?_octalDigit, Option.bind_eq_bind, Option.bind_some,
    if_pos hfirst, hsum]
  rfl

/-- A character is written as itself, behind a backslash, or as three octal digits behind one. -/
lemma writeChar_cases (c : Char) :
    (writeChar c = [c] ∧ c ≠ '\\' ∧ c ≠ ';' ∧ (isPlainChar c = true ∨ 256 ≤ c.toNat)) ∨
    (writeChar c = ['\\', c] ∧ (c = '"' ∨ c = '\\')) ∨
    (writeChar c =
      ['\\', octalDigit (c.toNat / 64), octalDigit (c.toNat / 8), octalDigit c.toNat] ∧
      c.toNat < 256) := by
  rw [writeChar]
  split_ifs with hplain hquoted hlatin
  · left
    refine ⟨rfl, ?_, ?_, .inl hplain⟩ <;> rintro rfl <;> cases hplain
  · exact .inr (.inl ⟨rfl, hquoted⟩)
  · exact .inr (.inr ⟨rfl, hlatin⟩)
  · left
    refine ⟨rfl, ?_, ?_, .inr (Nat.le_of_not_lt hlatin)⟩ <;> rintro rfl <;>
      exact hlatin (by decide)

/-- The reader takes a written character off the front of a value. -/
lemma unescape_writeChar (c : Char) (rest : List Char) :
    unescape (writeChar c ++ rest) = c :: unescape rest := by
  obtain ⟨h, hslash, -⟩ | ⟨h, hquoted⟩ | ⟨h, hlatin⟩ := writeChar_cases c
  · rw [h, List.singleton_append, unescape.eq_def]
    split <;> simp_all
  · have hdigit : octalValue? c = none := by
      rcases hquoted with rfl | rfl <;> decide
    have hline : c ≠ '\n' := by
      rcases hquoted with rfl | rfl <;> decide
    have hoctal : ∀ b d, octalChar? c b d = none := by
      intro b d
      simp only [octalChar?, hdigit]
      rfl
    rw [h, List.cons_append, List.singleton_append]
    match rest with
    | [] => simp only [unescape, if_neg hline]
    | [b] => simp only [unescape, if_neg hline]
    | b :: d :: rest => simp only [unescape, hoctal, if_neg hline]
  · rw [h]
    simp only [List.cons_append, List.nil_append, unescape, octalChar?_octalDigit hlatin,
      Char.ofNat_toNat]

/-! ### Values -/

lemma unescape_flatMap_writeChar (cs : List Char) : unescape (cs.flatMap writeChar) = cs := by
  induction cs with
  | nil => rfl
  | cons c cs ih => rw [List.flatMap_cons, unescape_writeChar, ih]

lemma decode_of_head_ne {cs : List Char} (h : cs.head? ≠ some '"') : decode cs = cs := by
  rw [decode.eq_def]
  split
  · exact absurd rfl h
  · rfl

lemma decode_quoted (cs : List Char) : decode ('"' :: cs ++ ['"']) = unescape cs := by
  simp only [List.cons_append, decode, List.reverse_append, List.reverse_cons, List.reverse_nil,
    List.nil_append, List.reverse_reverse]

/-- The value that was written is read. -/
theorem decode_encode (cs : List Char) : decode (encode cs) = cs := by
  rw [encode]
  split_ifs with htoken
  · apply decode_of_head_ne
    rw [isToken, Bool.and_eq_true, List.all_eq_true] at htoken
    intro hhead
    cases htoken.2 '"' (List.mem_of_mem_head? hhead)
  · rw [decode_quoted, unescape_flatMap_writeChar]

lemma not_mem_writeChar (c : Char) : ';' ∉ writeChar c := by
  obtain ⟨h, -, hne, -⟩ | ⟨h, rfl | rfl⟩ | ⟨h, -⟩ := writeChar_cases c
  · rw [h, List.mem_singleton]
    exact Ne.symm hne
  · rw [h]
    decide
  · rw [h]
    decide
  · rw [h]
    simp only [List.mem_cons, List.not_mem_nil, or_false, not_or]
    exact ⟨by decide, (octalDigit_ne_semicolon _).symm, (octalDigit_ne_semicolon _).symm,
      (octalDigit_ne_semicolon _).symm⟩

/-- No written value holds what ends the pieces of a header. -/
theorem not_mem_encode (cs : List Char) : ';' ∉ encode cs := by
  rw [encode]
  split_ifs with htoken
  · rw [isToken, Bool.and_eq_true, List.all_eq_true] at htoken
    intro hmem
    cases htoken.2 ';' hmem
  · rw [List.cons_append, List.mem_cons, List.mem_append, List.mem_flatMap, List.mem_singleton]
    rintro (h | ⟨c, -, hc⟩ | h)
    · cases h
    · exact not_mem_writeChar c hc
    · cases h

/-! ### Blanks -/

lemma range_of_isTokenChar {c : Char} (hc : isTokenChar c = true) :
    0x21 ≤ c.toNat ∧ c.toNat ≤ 0x7E := by
  rw [isTokenChar, Bool.or_eq_true] at hc
  rcases hc with halphanum | hmark
  · have hrange := Ascii.range_of_isAlphanum halphanum
    omega
  · have hmarks : ∀ c ∈ "!#$%&'*+-.^_`|~:".toList,
        decide (0x21 ≤ c.toNat ∧ c.toNat ≤ 0x7E) = true := List.all_eq_true.1 (by decide)
    exact of_decide_eq_true (hmarks c (List.contains_iff_mem.1 hmark))

lemma isBlank_of_isTokenChar {c : Char} (hc : isTokenChar c = true) :
    Blank.isBlank c = false := by
  have hrange := range_of_isTokenChar hc
  simp only [Blank.isBlank, Bool.or_eq_false_iff, Bool.and_eq_false_iff, decide_eq_false_iff_not]
  omega

lemma strip_eq_self {cs : List Char} (hhead : ∀ c ∈ cs.head?, Blank.isBlank c = false)
    (hlast : ∀ c ∈ cs.getLast?, Blank.isBlank c = false) : Blank.strip cs = cs := by
  have hdrop : ∀ cs : List Char, (∀ c ∈ cs.head?, Blank.isBlank c = false) →
      cs.dropWhile Blank.isBlank = cs := by
    intro cs hcs
    cases cs with
    | nil => rfl
    | cons c cs => rw [List.dropWhile_cons_of_neg (by rw [hcs c rfl]; decide)]
  rw [Blank.strip, hdrop cs hhead, hdrop _ (by rwa [List.head?_reverse]), List.reverse_reverse]

/-- A written value has no blanks at its ends. -/
theorem strip_encode (cs : List Char) : Blank.strip (encode cs) = encode cs := by
  rw [encode]
  split_ifs with htoken
  · rw [isToken, Bool.and_eq_true, List.all_eq_true] at htoken
    apply strip_eq_self
    · intro c hc
      exact isBlank_of_isTokenChar (htoken.2 c (List.mem_of_mem_head? hc))
    · intro c hc
      exact isBlank_of_isTokenChar (htoken.2 c (List.mem_of_mem_getLast? hc))
  · apply strip_eq_self
    · intro c hc
      cases hc
      decide
    · intro c hc
      rw [List.getLast?_append] at hc
      cases hc
      decide

end SessionCookies.Cookie
