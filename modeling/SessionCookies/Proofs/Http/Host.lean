import SessionCookies.Http.Url
import SessionCookies.Proofs.Http.Parts

/-!
# Valid hosts

A valid host has no brackets, or is an address between brackets with or without a port
(`Url.isHost_cases`). None of its characters ends an authority, vanishes or is quoted
(`Url.of_isHostChar`), and it is a sound authority (`Url.isSoundAuthority_of_isHost`).
-/

namespace SessionCookies

lemma Digits.isDigit_of_read? {cs : List Char} {n : Nat} (h : read? cs = some n) :
    ∀ c ∈ cs, c.isDigit = true := by
  have hfrom (m : Nat) (cs : List Char) (h : readFrom? m cs = some n) :
      ∀ c ∈ cs, c.isDigit = true := by
    induction cs generalizing m with
    | nil => exact nofun
    | cons c rest ih =>
      obtain ⟨d, hd, hrest⟩ := Option.bind_eq_some_iff.1 h
      rw [List.forall_mem_cons]
      refine ⟨?_, ih _ hrest⟩
      rw [value?] at hd
      split_ifs at hd with hdigit
      exact hdigit
  exact hfrom 0 cs h

namespace Url

/-- The characters of a valid host. -/
def isHostChar (c : Char) : Bool := isNameChar c || c = ':' || c = '[' || c = ']'

variable {host : String} {port : List Char} {c : Char}

lemma isNameChar_of_isDigit (h : c.isDigit = true) : isNameChar c = true := by
  rw [isNameChar, Char.isAlphanum, h, Bool.or_true, Bool.true_or]

lemma toNat_lt_of_isNameChar (h : isNameChar c = true) : c.toNat < 128 :=
  Ascii.toNat_lt_of_marks (by decide) h

lemma isHostChar_of_isNameChar (h : isNameChar c = true) : isHostChar c = true := by
  simp [isHostChar, h]

lemma toNat_lt_of_isHostChar (h : isHostChar c = true) : c.toNat < 128 := by
  simp only [isHostChar, Bool.or_eq_true, decide_eq_true_eq] at h
  rcases h with ((h | rfl) | rfl) | rfl
  · exact toNat_lt_of_isNameChar h
  all_goals decide

lemma ne_bracket_of_isNameChar (h : isNameChar c = true) : c ≠ '[' ∧ c ≠ ']' := by
  constructor <;> rintro rfl <;> exact absurd h (by decide)

/-- No character of a host ends it, vanishes or is quoted. -/
lemma of_isHostChar (h : isHostChar c = true) :
    (UrlParts.stays c = true ∧ c ≠ '/' ∧ c ≠ '?' ∧ c ≠ '#') ∧ c ≠ '@' ∧ isKept c = true ∧
      UrlParts.disguised.contains c.toNat = false := by
  have hclass := Ascii.forall_of_range (q := fun c => UrlParts.stays c && c ≠ '/' && c ≠ '?' &&
    c ≠ '#' && c ≠ '@' && isKept c && !UrlParts.disguised.contains c.toNat)
    (fun _ => toNat_lt_of_isHostChar) (by decide +kernel) c h
  simpa [and_assoc] using hclass

lemma isPort_cases (h : isPort port = true) :
    port = [] ∨ ∃ digits, port = ':' :: digits ∧ ∀ c ∈ digits, c.isDigit = true := by
  rw [isPort.eq_def] at h
  split at h
  · exact .inl rfl
  · next digits =>
    rw [Bool.and_eq_true, Option.any_eq_true] at h
    obtain ⟨⟨n, hread, -⟩, -⟩ := h
    exact .inr ⟨digits, rfl, Digits.isDigit_of_read? hread⟩
  · cases h

lemma isHostChar_of_isPort (h : isPort port = true) (hc : c ∈ port) :
    isHostChar c = true ∧ c ≠ '[' ∧ c ≠ ']' := by
  obtain rfl | ⟨digits, rfl, hdigits⟩ := isPort_cases h
  · cases hc
  · obtain rfl | hc := List.mem_cons.1 hc
    · decide
    · have hname := isNameChar_of_isDigit (hdigits c hc)
      exact ⟨isHostChar_of_isNameChar hname, ne_bracket_of_isNameChar hname⟩

/-- A valid host has no brackets, or is an address between brackets with or without a port. -/
theorem isHost_cases (h : isHost host = true) :
    (∀ c ∈ host.toList, isHostChar c = true ∧ c ≠ '[' ∧ c ≠ ']') ∨
      ∃ address port, host.toList = '[' :: (address ++ ']' :: port) ∧
        (∀ c ∈ address, isAddressChar c = true) ∧ ']' ∉ address ∧
        Address.isBracketed address = true ∧ isPort port = true := by
  rw [isHost] at h
  split at h
  · next rest hhost =>
    right
    dsimp only at h
    split at h
    · next c port hport =>
      have hbracket : c = ']' := by
        have hhead := List.head?_dropWhile_not (fun c => decide (c ≠ ']')) rest
        rw [hport, List.head?_cons] at hhead
        simpa using hhead
      subst hbracket
      rw [Bool.and_eq_true, Bool.and_eq_true, List.all_eq_true] at h
      refine ⟨_, port, ?_, h.1.1, fun hmem => ?_, h.1.2, h.2⟩
      · rw [hhost, ← hport, List.takeWhile_append_dropWhile]
      · exact absurd (List.mem_takeWhile_imp hmem) (by decide)
    · cases h
  · left
    rw [Bool.and_eq_true, Bool.and_eq_true, List.all_eq_true] at h
    intro c hc
    rw [← List.takeWhile_append_dropWhile (p := fun c => decide (c ≠ ':')) (l := host.toList),
      List.mem_append] at hc
    rcases hc with hc | hc
    · have hname := h.1.2 c hc
      exact ⟨isHostChar_of_isNameChar hname, ne_bracket_of_isNameChar hname⟩
    · exact isHostChar_of_isPort h.2 hc

lemma isHostChar_of_isAddressChar (h : isAddressChar c = true) : isHostChar c = true := by
  rw [isAddressChar, Bool.or_eq_true, decide_eq_true_eq, Bool.and_eq_true] at h
  rcases h with rfl | h
  · decide
  · exact isHostChar_of_isNameChar h.1

lemma isHostChar_of_isHost (h : isHost host = true) (hc : c ∈ host.toList) :
    isHostChar c = true := by
  obtain hname | ⟨address, port, hhost, haddress, -, -, hport⟩ := isHost_cases h
  · exact (hname c hc).1
  · rw [hhost, List.mem_cons, List.mem_append, List.mem_cons] at hc
    rcases hc with rfl | hc | rfl | hc
    · decide
    · exact isHostChar_of_isAddressChar (haddress c hc)
    · decide
    · exact (isHostChar_of_isPort hport hc).1

/-- A host that does not begin with a bracket has none. -/
lemma ne_bracket_of_isHost (h : isHost host = true) (hstart : host.toList.head? ≠ some '[')
    (hc : c ∈ host.toList) : c ≠ '[' ∧ c ≠ ']' := by
  obtain hname | ⟨address, port, hhost, -⟩ := isHost_cases h
  · exact (hname c hc).2
  · exact absurd (by rw [hhost, List.head?_cons]) hstart

lemma isSoundAuthority_of_hasSoundBrackets {authority : List Char}
    (hbrackets : UrlParts.hasSoundBrackets authority = true)
    (h : ∀ c ∈ authority, isHostChar c = true) : UrlParts.isSoundAuthority authority = true := by
  rw [UrlParts.isSoundAuthority, hbrackets, Bool.true_and, List.all_eq_true]
  intro c hc
  rw [(of_isHostChar (h c hc)).2.2.2]
  rfl

/-- An authority of a host's characters without brackets is sound. -/
lemma isSoundAuthority_of_ne_bracket {authority : List Char}
    (h : ∀ c ∈ authority, isHostChar c = true ∧ c ≠ '[' ∧ c ≠ ']') :
    UrlParts.isSoundAuthority authority = true := by
  have hopen : authority.contains '[' = false := by
    simpa using fun hmem : '[' ∈ authority => (h _ hmem).2.1 rfl
  have hclose : authority.contains ']' = false := by
    simpa using fun hmem : ']' ∈ authority => (h _ hmem).2.2 rfl
  refine isSoundAuthority_of_hasSoundBrackets ?_ fun c hc => (h c hc).1
  rw [UrlParts.hasSoundBrackets, hopen, hclose]
  rfl

lemma hostAndPort_of_forall {authority : List Char} (h : ∀ c ∈ authority, c ≠ '@') :
    UrlParts.hostAndPort authority = authority := by
  have hall : ∀ c ∈ authority.reverse, decide (c ≠ '@') = true := fun c hc =>
    decide_eq_true (h c (List.mem_reverse.1 hc))
  rw [UrlParts.hostAndPort, List.takeWhile_eq_self_iff.2 hall, List.reverse_reverse]

lemma hasSoundBrackets_of_isBracketed {address : List Char}
    (hno : ∀ c ∈ '[' :: (address ++ ']' :: port), c ≠ '@') (haddress : ']' ∉ address)
    (hsound : Address.isBracketed address = true) (hport : isPort port = true) :
    UrlParts.hasSoundBrackets ('[' :: (address ++ ']' :: port)) = true := by
  have hcontains : (('[' :: (address ++ ']' :: port)).contains '[' &&
      ('[' :: (address ++ ']' :: port)).contains ']') = true := by simp
  have hopenCut : UrlParts.cutAt (· = '[') ('[' :: (address ++ ']' :: port)) =
      ([], '[' :: (address ++ ']' :: port)) :=
    UrlParts.cutAt_append (List.forall_mem_nil _) rfl
  have hcloseCut : UrlParts.cutAt (· = ']') (address ++ ']' :: port) = (address, ']' :: port) := by
    refine UrlParts.cutAt_append (fun c hc => decide_eq_false ?_) rfl
    rintro rfl
    exact haddress hc
  have hbehind : (port.isEmpty || port.head? = some ':') = true := by
    obtain rfl | ⟨digits, rfl, -⟩ := isPort_cases hport <;> rfl
  rw [UrlParts.hasSoundBrackets, if_pos hcontains, hostAndPort_of_forall hno, hopenCut]
  simp only [hcloseCut, List.drop_one, List.tail_cons, hbehind, hsound]
  rfl

/-- A valid host is a sound authority. -/
theorem isSoundAuthority_of_isHost (h : isHost host = true) :
    UrlParts.isSoundAuthority host.toList = true := by
  have hchar : ∀ c ∈ host.toList, isHostChar c = true := fun c hc => isHostChar_of_isHost h hc
  obtain hname | ⟨address, port, hhost, -, haddress, hsound, hport⟩ := isHost_cases h
  · exact isSoundAuthority_of_ne_bracket hname
  · refine isSoundAuthority_of_hasSoundBrackets ?_ hchar
    rw [hhost] at hchar ⊢
    exact hasSoundBrackets_of_isBracketed (fun c hc => (of_isHostChar (hchar c hc)).2.1) haddress
      hsound hport

end Url

end SessionCookies
