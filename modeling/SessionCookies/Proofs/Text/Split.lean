import Mathlib.Data.List.DropRight
import Mathlib.Tactic
import SessionCookies.Text.Blank
import SessionCookies.Text.Split

/-!
# Pieces of a text

What stands before and after a separator, the first of the pieces between separators
(`Split.exists_pieces_eq`), and what stripping leaves of a text: a beginning of it, if it has no
blank in front (`Blank.strip_cons_isPrefix`). So it is with the first of stripped pieces
(`Split.exists_mem_pieces_isPrefix`).
-/

namespace SessionCookies

namespace Split

variable {separator : Char} {cs piece : List Char}

lemma atFirst?_append (h : separator ∉ cs) (rest : List Char) :
    atFirst? separator (cs ++ separator :: rest) = some (cs, rest) := by
  induction cs with
  | nil => simp [atFirst?]
  | cons c cs ih =>
    rw [List.mem_cons, not_or] at h
    rw [List.cons_append, atFirst?, if_neg (Ne.symm h.1), ih h.2]
    rfl

lemma mem_of_atFirst? {before after : List Char} (h : atFirst? separator cs = some (before, after))
    {c : Char} (hc : c ∈ before) : c ∈ cs := by
  induction cs generalizing before with
  | nil => cases h
  | cons d rest ih =>
    rw [atFirst?] at h
    split_ifs at h
    · cases h
      cases hc
    · obtain ⟨⟨before', after'⟩, hrest, hparts⟩ := Option.map_eq_some_iff.1 h
      cases hparts
      obtain rfl | hc := List.mem_cons.1 hc
      · exact List.mem_cons_self
      · exact List.mem_cons_of_mem _ (ih hrest hc)

/-- The first piece is what stands before the first separator. -/
lemma exists_pieces_eq (separator : Char) (cs : List Char) :
    ∃ more, pieces separator cs = (cs.takeWhile fun c => c ≠ separator) :: more := by
  induction cs with
  | nil => exact ⟨[], rfl⟩
  | cons c rest ih =>
    obtain ⟨more, hmore⟩ := ih
    by_cases h : c = separator
    · exact ⟨pieces separator rest, by simp [pieces, h]⟩
    · exact ⟨more, by simp [pieces, h, hmore]⟩

lemma not_mem_of_mem_pieces (h : piece ∈ pieces separator cs) : separator ∉ piece := by
  induction cs generalizing piece with
  | nil =>
    obtain rfl := List.mem_singleton.1 h
    exact List.not_mem_nil
  | cons c rest ih =>
    obtain ⟨first, more, hpieces⟩ := List.exists_cons_of_ne_nil (pieces_ne_nil separator rest)
    rw [pieces] at h
    split_ifs at h with hc
    · obtain rfl | h := List.mem_cons.1 h
      · exact List.not_mem_nil
      · exact ih h
    · rw [hpieces] at h ih
      obtain rfl | h := List.mem_cons.1 h
      · rw [List.mem_cons, not_or]
        exact ⟨Ne.symm hc, ih List.mem_cons_self⟩
      · exact ih (List.mem_cons_of_mem _ h)

/-- Nothing but the separators is lost. -/
lemma eq_or_exists_mem_pieces (separator : Char) {c : Char} (h : c ∈ cs) :
    c = separator ∨ ∃ piece ∈ pieces separator cs, c ∈ piece := by
  by_cases hc : c = separator
  · exact .inl hc
  right
  induction cs with
  | nil => cases h
  | cons d rest ih =>
    obtain ⟨first, more, hpieces⟩ := List.exists_cons_of_ne_nil (pieces_ne_nil separator rest)
    rw [pieces]
    split_ifs with hd
    · obtain ⟨piece, hpiece, hmem⟩ := ih ((List.mem_cons.1 h).resolve_left (hd ▸ hc))
      exact ⟨piece, List.mem_cons_of_mem _ hpiece, hmem⟩
    · rw [hpieces] at ih ⊢
      obtain rfl | h := List.mem_cons.1 h
      · exact ⟨c :: first, List.mem_cons_self, List.mem_cons_self⟩
      · obtain ⟨piece, hpiece, hmem⟩ := ih h
        obtain rfl | hpiece := List.mem_cons.1 hpiece
        · exact ⟨d :: piece, List.mem_cons_self, List.mem_cons_of_mem _ hmem⟩
        · exact ⟨piece, List.mem_cons_of_mem _ hpiece, hmem⟩

end Split

namespace Blank

variable {cs : List Char}

lemma strip_isPrefix_dropWhile (cs : List Char) : strip cs <+: cs.dropWhile isBlank :=
  List.rdropWhile_prefix isBlank _

/-- What is left has no blank in front. -/
lemma isBlank_of_mem_head?_strip {c : Char} (h : c ∈ (strip cs).head?) : isBlank c = false := by
  obtain ⟨rest, hstrip⟩ := List.head?_eq_some_iff.1 h
  obtain ⟨tail, htail⟩ := strip_isPrefix_dropWhile cs
  have hhead := List.head?_dropWhile_not isBlank cs
  rwa [← htail, hstrip, List.cons_append, List.head?_cons] at hhead

lemma strip_subset (cs : List Char) : strip cs ⊆ cs := fun _ hc =>
  (List.dropWhile_suffix isBlank).subset ((strip_isPrefix_dropWhile cs).subset hc)

/-- Of a text without a blank in front only blanks at its end are taken off. -/
lemma strip_cons_isPrefix {c : Char} (h : isBlank c = false) (rest : List Char) :
    strip (c :: rest) <+: c :: rest := by
  have hstrip := strip_isPrefix_dropWhile (c :: rest)
  rwa [List.dropWhile_cons_of_neg (by simp [h])] at hstrip

lemma strip_cons_ne_nil {c : Char} (h : isBlank c = false) (rest : List Char) :
    strip (c :: rest) ≠ [] := by
  intro hstrip
  rw [strip, List.dropWhile_cons_of_neg (by simp [h])] at hstrip
  exact absurd (List.rdropWhile_eq_nil_iff.1 hstrip c List.mem_cons_self) (by simp [h])

end Blank

/-! ### Stripped pieces -/

namespace Split

variable {separator c : Char} {cs piece : List Char}

/-- Of a text that begins plainly the first piece, with the blanks at its end taken off, is a
beginning. -/
lemma exists_mem_pieces_isPrefix (hne : c ≠ separator) (hblank : Blank.isBlank c = false)
    (rest : List Char) : ∃ piece ∈ pieces separator (c :: rest),
      Blank.strip piece ≠ [] ∧ Blank.strip piece <+: c :: rest := by
  obtain ⟨more, hpieces⟩ := exists_pieces_eq separator (c :: rest)
  rw [List.takeWhile_cons_of_pos (by simpa using hne)] at hpieces
  refine ⟨c :: rest.takeWhile fun c => c ≠ separator, ?_, ?_, ?_⟩
  · rw [hpieces]
    exact List.mem_cons_self
  · exact Blank.strip_cons_ne_nil hblank _
  · exact (Blank.strip_cons_isPrefix hblank _).trans
      (List.prefix_cons_inj c |>.2 (List.takeWhile_prefix _))

/-- What is left of a piece begins plainly. -/
lemma ne_of_mem_head?_strip (hpiece : piece ∈ pieces separator cs)
    (hc : c ∈ (Blank.strip piece).head?) : c ≠ separator ∧ Blank.isBlank c = false := by
  refine ⟨?_, Blank.isBlank_of_mem_head?_strip hc⟩
  rintro rfl
  exact not_mem_of_mem_pieces hpiece (Blank.strip_subset piece (List.mem_of_mem_head? hc))

end Split

end SessionCookies
