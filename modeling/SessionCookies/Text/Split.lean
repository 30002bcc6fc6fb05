/-!
# Splitting

A text cut at every place, or at the first place, where a given character stands.
-/

namespace SessionCookies.Split

/-- The pieces between the separators; there is always at least one. -/
def pieces (separator : Char) : List Char → List (List Char)
  | [] => [[]]
  | c :: rest =>
    if c = separator then [] :: pieces separator rest
    else
      match pieces separator rest with
      | piece :: more => (c :: piece) :: more
      | [] => [[c]]

/-- What stands before the first separator and what stands after it, if there is one. -/
def atFirst? (separator : Char) : List Char → Option (List Char × List Char)
  | [] => none
  | c :: rest =>
    if c = separator then some ([], rest)
    else (atFirst? separator rest).map fun (before, after) => (c :: before, after)

theorem pieces_ne_nil (separator : Char) (cs : List Char) : pieces separator cs ≠ [] := by
  cases cs with
  | nil => simp [pieces]
  | cons c rest =>
    simp only [pieces]
    split
    · simp
    · split <;> simp

/-- A text without separators is one piece. -/
theorem pieces_of_not_mem {separator : Char} {cs : List Char} (h : separator ∉ cs) :
    pieces separator cs = [cs] := by
  induction cs with
  | nil => rfl
  | cons c rest ih =>
    rw [List.mem_cons, not_or] at h
    rw [pieces, if_neg (Ne.symm h.1), ih h.2]

/-- The pieces on both sides of a separator are the pieces of what stands on each side. -/
theorem pieces_append (separator : Char) (cs rest : List Char) :
    pieces separator (cs ++ separator :: rest) = pieces separator cs ++ pieces separator rest := by
  induction cs with
  | nil => simp [pieces]
  | cons c more ih =>
    by_cases h : c = separator
    · simp only [List.cons_append, pieces, if_pos h, ih]
    · obtain ⟨piece, others, hpieces⟩ :=
        List.exists_cons_of_ne_nil (pieces_ne_nil separator more)
      simp only [List.cons_append, pieces, if_neg h, ih, hpieces]

end SessionCookies.Split
