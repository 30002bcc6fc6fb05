import SessionCookies.Cookie.Response
import SessionCookies.Proofs.Cookie.Quoted
import SessionCookies.Proofs.Time.Rfc3339

/-!
# Headers that set cookies

When a header that sets a cookie can be written (`header_ok`, `of_header_ok`), and that it begins
with the name and the written value of the cookie, up to its first semicolon. A value that can be
written is written in printable ASCII (`isPrintable_encode`).
-/

namespace SessionCookies

/-! ### Characters of headers -/

/-- A text whose characters can stand in a header. -/
def IsLatin (cs : List Char) : Prop := ∀ c ∈ cs, c.toNat < 256

instance (cs : List Char) : Decidable (IsLatin cs) :=
  List.decidableBAll (fun c : Char => c.toNat < 256) cs

@[simp] lemma isLatin_nil : IsLatin [] := by
  intro c hc
  cases hc

@[simp] lemma isLatin_cons {c : Char} {cs : List Char} :
    IsLatin (c :: cs) ↔ c.toNat < 256 ∧ IsLatin cs := List.forall_mem_cons

@[simp] lemma isLatin_append {cs ds : List Char} :
    IsLatin (cs ++ ds) ↔ IsLatin cs ∧ IsLatin ds := List.forall_mem_append

/-- A text of printable ASCII. -/
def IsPrintable (cs : List Char) : Prop := ∀ c ∈ cs, 0x20 ≤ c.toNat ∧ c.toNat ≤ 0x7E

instance (cs : List Char) : Decidable (IsPrintable cs) :=
  List.decidableBAll (fun c : Char => 0x20 ≤ c.toNat ∧ c.toNat ≤ 0x7E) cs

@[simp] lemma isPrintable_cons {c : Char} {cs : List Char} :
    IsPrintable (c :: cs) ↔ (0x20 ≤ c.toNat ∧ c.toNat ≤ 0x7E) ∧ IsPrintable cs :=
  List.forall_mem_cons

lemma IsPrintable.isLatin {cs : List Char} (h : IsPrintable cs) : IsLatin cs := by
  intro c hc
  exact lt_of_le_of_lt (h c hc).2 (by decide)

namespace IsLatin

lemma of_all_isDigit {cs : List Char} (h : ∀ c ∈ cs, c.isDigit = true) : IsLatin cs := by
  intro c hc
  exact lt_of_le_of_lt (Char.isDigit_iff_toNat.1 (h c hc)).2 (by decide)

lemma fixed (width n : Nat) : IsLatin (Digits.fixed width n) :=
  of_all_isDigit fun _ hc => Timestamp.isDigit_of_mem_fixed hc

/-- The text at a place in a table, or none, is like the texts of the table. -/
lemma getD {table : List String} (h : ∀ s ∈ table, IsLatin s.toList) (n : Nat) :
    IsLatin (table.getD n "").toList := by
  rw [List.getD_eq_getElem?_getD]
  rcases hget : table[n]? with _ | s
  · exact isLatin_nil
  · exact h s (List.mem_of_getElem? hget)

end IsLatin

lemma isLatin_intercalate {parts : List (List Char)} :
    IsLatin (List.intercalate [';', ' '] parts) ↔ ∀ part ∈ parts, IsLatin part := by
  induction parts with
  | nil => simp
  | cons part rest ih =>
    cases rest with
    | nil => simp
    | cons next rest =>
      have hmarks : IsLatin [';', ' '] := by decide
      rw [List.intercalate_cons_cons, isLatin_append, isLatin_append, ih,
        List.forall_mem_cons (l := next :: rest)]
      simp only [hmarks, and_true]

/-! ### Dates -/

lemma HttpDate.isLatin_write {year : Nat → List Char} (hyear : ∀ n, IsLatin (year n)) (wall : Nat) :
    IsLatin (HttpDate.write year wall) := by
  have hweekdays : ∀ s ∈ weekdayNames, IsLatin s.toList := by decide
  have hmonths : ∀ s ∈ monthNames, IsLatin s.toList := by decide
  have hzone : IsLatin " GMT".toList := by decide
  have hmarks : IsLatin [',', ' ', ':'] := by decide
  simp only [write, isLatin_append, isLatin_cons, IsLatin.getD hweekdays, IsLatin.getD hmonths,
    IsLatin.fixed, hyear, hzone, hmarks ',' (by decide), hmarks ' ' (by decide),
    hmarks ':' (by decide), and_self]

lemma HttpDate.isLatin_ofExpiry (wall : Nat) : IsLatin (HttpDate.ofExpiry wall) :=
  isLatin_write (fun n => IsLatin.fixed 4 n) wall

lemma HttpDate.isLatin_ofDeletion (wall : Nat) : IsLatin (HttpDate.ofDeletion wall) := by
  apply isLatin_write
  intro n
  rw [shortYear, isLatin_append]
  refine ⟨?_, IsLatin.of_all_isDigit ?_⟩
  · intro c hc
    rw [List.eq_of_mem_replicate hc]
    decide
  · intro c hc
    exact Nat.isDigit_of_mem_toDigits (by decide) (by decide) hc

/-! ### Headers -/

namespace Cookie

lemma isPrintable_of_isToken {cs : List Char} (h : isToken cs = true) : IsPrintable cs := by
  rw [isToken, Bool.and_eq_true, List.all_eq_true] at h
  intro c hc
  have hrange := range_of_isTokenChar (h.2 c hc)
  omega

lemma range_of_isPlainChar {c : Char} (hc : isPlainChar c = true) :
    0x20 ≤ c.toNat ∧ c.toNat ≤ 0x7E := by
  rw [isPlainChar, Bool.or_eq_true] at hc
  rcases hc with htoken | hmark
  · have hrange := range_of_isTokenChar htoken
    omega
  · have hmarks : ∀ c ∈ " ()/<=>?@[]\x7b\x7d".toList,
        decide (0x20 ≤ c.toNat ∧ c.toNat ≤ 0x7E) = true := List.all_eq_true.1 (by decide)
    exact of_decide_eq_true (hmarks c (List.contains_iff_mem.1 hmark))

lemma isPrintable_writeChar {c : Char} (hc : c.toNat < 256) : IsPrintable (writeChar c) := by
  have hdigit (n : Nat) : 0x20 ≤ (octalDigit n).toNat ∧ (octalDigit n).toNat ≤ 0x7E := by
    have hdigits : ∀ k < 8, 0x20 ≤ (Char.ofNat (k + 48)).toNat ∧
        (Char.ofNat (k + 48)).toNat ≤ 0x7E := by decide
    exact hdigits _ (Nat.mod_lt _ (by decide))
  obtain ⟨hw, -, -, hplain⟩ | ⟨hw, rfl | rfl⟩ | ⟨hw, -⟩ := writeChar_cases c <;> rw [hw]
  · exact List.forall_mem_singleton.2 (range_of_isPlainChar (hplain.resolve_right (by omega)))
  · decide
  · decide
  · simp only [isPrintable_cons, hdigit, true_and]
    decide

/-- A value without characters above U+00FF is written in printable ASCII, whatever controls, quotes
and semicolons it holds. -/
theorem isPrintable_encode {cs : List Char} (h : IsLatin cs) : IsPrintable (encode cs) := by
  rw [encode]
  split_ifs with htoken
  · exact isPrintable_of_isToken htoken
  · intro c hc
    rw [List.cons_append, List.mem_cons, List.mem_append, List.mem_flatMap,
      List.mem_singleton] at hc
    rcases hc with rfl | ⟨d, hd, hc⟩ | rfl
    · decide
    · exact isPrintable_writeChar (h d hd) c hc
    · decide

lemma isToken_of_isLegalName {name : String} (h : isLegalName name = true) :
    isToken name.toList = true := by
  rw [isLegalName, Bool.and_eq_true] at h
  exact h.1

lemma intercalate_cons (part : List Char) (rest : List (List Char)) :
    ∃ more, List.intercalate [';', ' '] (part :: rest) = part ++ more ∧
      ∀ c ∈ more.head?, c = ';' := by
  cases rest with
  | nil => exact ⟨[], by rw [List.intercalate_singleton, List.append_nil], by simp⟩
  | cons next rest =>
    refine ⟨[';', ' '] ++ List.intercalate [';', ' '] (next :: rest), ?_, by simp⟩
    rw [List.intercalate_cons_cons, List.append_assoc]

lemma isLatin_valued {name : String} {value : List Char} (hname : IsLatin name.toList)
    (hvalue : IsLatin value) : ∀ part ∈ valued name value, IsLatin part := by
  intro part hpart
  rw [valued] at hpart
  split_ifs at hpart
  · cases hpart
  · rw [List.mem_singleton.1 hpart, isLatin_append, isLatin_cons]
    exact ⟨hname, by decide, hvalue⟩

lemma isLatin_flag {name : String} (hname : IsLatin name.toList) (isSet : Bool) :
    ∀ part ∈ flag name isSet, IsLatin part := by
  intro part hpart
  rw [flag] at hpart
  split_ifs at hpart
  · rw [List.mem_singleton.1 hpart]
    exact hname
  · cases hpart

/-- A cookie with a legal name and nothing above U+00FF in it can be set. -/
theorem header_ok {name value : String} {path domain : Option String} (sameSite : SameSite)
    {expires maxAge : List Char} (secure : Bool) (hname : isLegalName name = true)
    (hvalue : IsLatin value.toList) (hpath : IsLatin (path.getD "").toList)
    (hdomain : IsLatin (domain.getD "").toList) (hexpires : IsLatin expires)
    (hage : IsLatin maxAge) :
    ∃ text, header name value path domain sameSite expires maxAge secure = .ok text := by
  have hsite : IsLatin sameSite.name.toList := by
    cases sameSite <;> decide
  have hlatin : IsLatin (List.intercalate [';', ' '] ((name.toList ++ '=' :: encode value.toList) ::
      (valued "Domain" (domain.getD "").toList ++ valued "expires" expires ++
        flag "HttpOnly" true ++ valued "Max-Age" maxAge ++ valued "Path" (path.getD "").toList ++
        valued "SameSite" sameSite.name.toList ++ flag "Secure" secure))) := by
    rw [isLatin_intercalate]
    simp only [List.forall_mem_cons, List.forall_mem_append, isLatin_append, isLatin_cons]
    exact ⟨⟨(isPrintable_of_isToken (isToken_of_isLegalName hname)).isLatin, by decide,
        (isPrintable_encode hvalue).isLatin⟩,
      ⟨⟨⟨⟨⟨isLatin_valued (by decide) hdomain, isLatin_valued (by decide) hexpires⟩,
        isLatin_flag (by decide) _⟩, isLatin_valued (by decide) hage⟩,
        isLatin_valued (by decide) hpath⟩, isLatin_valued (by decide) hsite⟩,
      isLatin_flag (by decide) _⟩
  rw [header, if_pos hname]
  exact ⟨_, if_pos (List.all_eq_true.2 fun c hc => decide_eq_true (hlatin c hc))⟩

/-- Whether a cookie can be set, and what goes wrong with it otherwise, is not told by its value if
there is nothing above U+00FF in it. -/
lemma header_agree {name value value' : String} (path domain : Option String) (sameSite : SameSite)
    (expires maxAge : List Char) (secure : Bool) (hvalue : IsLatin value.toList)
    (hvalue' : IsLatin value'.toList) :
    (∃ fault, header name value path domain sameSite expires maxAge secure = .error fault ∧
        header name value' path domain sameSite expires maxAge secure = .error fault) ∨
      (∃ text, header name value path domain sameSite expires maxAge secure = .ok text) ∧
        ∃ text, header name value' path domain sameSite expires maxAge secure = .ok text := by
  by_cases hname : isLegalName name = true
  · have hlatin {value : String} (hvalue : IsLatin value.toList) (rest : List (List Char)) :
        ((List.intercalate [';', ' '] ((name.toList ++ '=' :: encode value.toList) :: rest)).all
          fun c => c.toNat < 256) = true ↔ ∀ part ∈ rest, IsLatin part := by
      have hpart : IsLatin (name.toList ++ '=' :: encode value.toList) := by
        rw [isLatin_append, isLatin_cons]
        exact ⟨(isPrintable_of_isToken (isToken_of_isLegalName hname)).isLatin, by decide,
          (isPrintable_encode hvalue).isLatin⟩
      simp only [List.all_eq_true, decide_eq_true_eq]
      exact isLatin_intercalate.trans (List.forall_mem_cons.trans (and_iff_right hpart))
    simp only [header, if_pos hname, hlatin hvalue, hlatin hvalue']
    split_ifs
    · exact .inr ⟨⟨_, rfl⟩, _, rfl⟩
    · exact .inl ⟨_, rfl, rfl⟩
  · simp only [header, if_neg hname]
    exact .inl ⟨_, rfl, rfl⟩

/-- The header that sets a cookie begins with the name and the written value of the cookie, up to
the first semicolon. -/
theorem text_of_header_ok {name value text : String} {path domain : Option String}
    {sameSite : SameSite} {expires maxAge : List Char} {secure : Bool}
    (h : header name value path domain sameSite expires maxAge secure = .ok text) :
    ∃ more, text = String.ofList (name.toList ++ '=' :: encode value.toList ++ more) ∧
      ∀ c ∈ more.head?, c = ';' := by
  simp only [header] at h
  split_ifs at h with hname hlatin
  obtain ⟨more, hmore, hhead⟩ := intercalate_cons (name.toList ++ '=' :: encode value.toList)
    (valued "Domain" (domain.getD "").toList ++ valued "expires" expires ++
      flag "HttpOnly" true ++ valued "Max-Age" maxAge ++ valued "Path" (path.getD "").toList ++
      valued "SameSite" sameSite.name.toList ++ flag "Secure" secure)
  rw [hmore, Except.ok.injEq] at h
  exact ⟨more, h.symm, hhead⟩

lemma isLatin_of_valued {name : String} {value : List Char}
    (h : ∀ part ∈ valued name value, IsLatin part) : IsLatin value := by
  rw [valued] at h
  split_ifs at h with hempty
  · rw [List.isEmpty_iff.1 hempty]
    exact isLatin_nil
  · have hpart := h _ List.mem_cons_self
    rw [isLatin_append, isLatin_cons] at hpart
    exact hpart.2.2

/-- A cookie that can be set has a legal name and nothing above U+00FF in its path and domain. -/
theorem of_header_ok {name value text : String} {path domain : Option String}
    {sameSite : SameSite} {expires maxAge : List Char} {secure : Bool}
    (h : header name value path domain sameSite expires maxAge secure = .ok text) :
    isLegalName name = true ∧ IsLatin (path.getD "").toList ∧
      IsLatin (domain.getD "").toList := by
  simp only [header] at h
  split_ifs at h with hname hlatin
  have hparts := isLatin_intercalate.1 fun c hc =>
    of_decide_eq_true (List.all_eq_true.1 hlatin c hc)
  simp only [List.forall_mem_cons, List.forall_mem_append] at hparts
  exact ⟨hname, isLatin_of_valued hparts.2.1.1.2, isLatin_of_valued hparts.2.1.1.1.1.1.1⟩

end Cookie

end SessionCookies
