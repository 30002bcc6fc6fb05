import SessionCookies.Proofs.Http.Host
import SessionCookies.Proofs.Text.Split

/-!
# What addresses are made of

An address of version 4 is made of digits and points, so that it is a registered name as well
(`Address.isNameChar_of_isVersion4`). An address of version 6 has a colon
(`Address.colon_mem_of_isVersion6`): without one it would have a single run of digits, or one address
of version 4, which is too few groups.
-/

namespace SessionCookies

namespace Address

variable {cs address before after : List Char} {c : Char}

/-! ### Version 4 -/

lemma isDigit_of_isOctet (h : isOctet cs = true) (hc : c ∈ cs) : c.isDigit = true := by
  simp only [isOctet, Bool.and_eq_true, Option.any_eq_true] at h
  obtain ⟨-, n, hread, -⟩ := h
  exact Digits.isDigit_of_read? hread c hc

/-- An address of version 4 is a registered name. -/
theorem isNameChar_of_isVersion4 (h : isVersion4 cs = true) (hc : c ∈ cs) :
    Url.isNameChar c = true := by
  simp only [isVersion4, Bool.and_eq_true, List.all_eq_true] at h
  obtain rfl | ⟨octet, hoctet, hmem⟩ := Split.eq_or_exists_mem_pieces '.' hc
  · decide
  · exact Url.isNameChar_of_isDigit (isDigit_of_isOctet (h.2 octet hoctet) hmem)

/-! ### Version 6 -/

lemma colon_mem_of_atGap? (h : atGap? cs = some (before, after)) : ':' ∈ cs := by
  induction cs generalizing before with
  | nil => cases h
  | cons c rest ih =>
    rw [atGap?.eq_def] at h
    split at h
    · next heq =>
      rw [heq]
      exact List.mem_cons_self
    · next heq =>
      cases heq
      obtain ⟨⟨before', after'⟩, hrest, hparts⟩ := Option.map_eq_some_iff.1 h
      cases hparts
      exact List.mem_cons_of_mem _ (ih hrest)
    · cases h

/-- Without a colon there are two groups at most. -/
lemma groupCount?_le (h : ':' ∉ cs) {n : Nat} (hcount : groupCount? cs = some n) : n ≤ 2 := by
  simp only [groupCount?, Split.pieces_of_not_mem h] at hcount
  split_ifs at hcount <;> cases hcount <;> simp

lemma colon_mem_of_hasGroups (h : hasGroups address = true) : ':' ∈ address := by
  rw [hasGroups] at h
  split at h
  · by_contra hcolon
    rw [decide_eq_true_eq] at h
    have hfew := groupCount?_le hcolon h
    omega
  · next hgap => exact colon_mem_of_atGap? hgap

/-- An address of version 6 has a colon. -/
theorem colon_mem_of_isVersion6 (h : isVersion6 address = true) : ':' ∈ address := by
  rw [isVersion6] at h
  split at h
  · exact colon_mem_of_hasGroups h
  · next groups zone hzone =>
    simp only [Bool.and_eq_true] at h
    exact Split.mem_of_atFirst? hzone (colon_mem_of_hasGroups h.1.1)

end Address

end SessionCookies
