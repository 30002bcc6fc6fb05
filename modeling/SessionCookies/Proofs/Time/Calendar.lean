import Mathlib.Tactic
import SessionCookies.Time.Civil

/-!
# The calendar counts every day once

A moment of a wall clock is taken apart into a date that the calendar has and a time of day, and
these count up to the same moment again.
-/

namespace SessionCookies.Civil

/-! ### Years -/

def yearLength (leap : Bool) : Nat := if leap then 366 else 365

lemma isLeap_iff (year : Nat) :
    isLeap year = true ↔ year % 4 = 0 ∧ (year % 100 ≠ 0 ∨ year % 400 = 0) := by
  simp [isLeap]

/-- The day number that four centuries, centuries, four years and single years come to. -/
lemma daysBeforeYear_eq (q c f o : Nat) (hc : c ≤ 3) (hf : f ≤ 24) (ho : o ≤ 3) :
    daysBeforeYear (q * 400 + c * 100 + f * 4 + o + 1) =
      q * 146097 + c * 36524 + f * 1461 + o * 365 := by
  simp only [daysBeforeYear]
  omega

lemma isLeap_eq_true_iff (q c f o : Nat) (hc : c ≤ 3) (hf : f ≤ 24) (ho : o ≤ 3) :
    isLeap (q * 400 + c * 100 + f * 4 + o + 1) = true ↔ o = 3 ∧ (f ≠ 24 ∨ c = 3) := by
  rw [isLeap_iff]
  omega

/-- The year of a day begins before the day and ends after it. -/
lemma yearOfDay_spec (n : Nat) :
    1 ≤ (yearOfDay n).1 ∧ daysBeforeYear (yearOfDay n).1 + (yearOfDay n).2 = n ∧
      (yearOfDay n).2 < yearLength (isLeap (yearOfDay n).1) := by
  simp only [yearOfDay]
  set rest := n % 146097 with hrest
  set c := min 3 (rest / 36524) with hc
  set four := (rest - c * 36524) / 1461 with hfour
  set within := (rest - c * 36524) % 1461 with hwithin
  set o := min 3 (within / 365) with ho
  have hc3 : c ≤ 3 := by omega
  have hf24 : four ≤ 24 := by omega
  have ho3 : o ≤ 3 := by omega
  refine ⟨by omega, ?_, ?_⟩
  · rw [daysBeforeYear_eq _ _ _ _ hc3 hf24 ho3]
    omega
  · have hleap := isLeap_eq_true_iff (n / 146097) c four o hc3 hf24 ho3
    rw [yearLength]
    split_ifs with h
    · omega
    · rw [hleap] at h
      omega

/-- The days before year 10000 are days of years up to 9999. -/
lemma yearOfDay_le {n : Nat} (hn : n < daysBeforeYear 10000) : (yearOfDay n).1 ≤ 9999 := by
  obtain ⟨-, hsum, -⟩ := yearOfDay_spec n
  simp only [daysBeforeYear] at hsum hn
  omega

/-! ### Months -/

lemma monthOfDay_spec (lengths : List Nat) {d : Nat} (hd : d < lengths.sum) :
    1 ≤ (monthOfDay lengths d).1 ∧ (monthOfDay lengths d).1 ≤ lengths.length ∧
      1 ≤ (monthOfDay lengths d).2 ∧
      (monthOfDay lengths d).2 ≤ lengths.getD ((monthOfDay lengths d).1 - 1) 0 ∧
      (lengths.take ((monthOfDay lengths d).1 - 1)).sum + ((monthOfDay lengths d).2 - 1) = d := by
  induction lengths generalizing d with
  | nil => simp at hd
  | cons length rest ih =>
    rw [List.sum_cons] at hd
    by_cases hfirst : d < length
    · simp only [monthOfDay, if_pos hfirst]
      refine ⟨by omega, by simp, by omega, ?_, by simp⟩
      simp only [Nat.sub_self, List.getD_cons_zero]
      omega
    · obtain ⟨hmonth, hle, hday, hlength, hsum⟩ := ih (d := d - length) (by omega)
      simp only [monthOfDay, if_neg hfirst]
      obtain ⟨month, hm⟩ := Nat.exists_eq_add_of_le' hmonth
      rw [hm, Nat.add_sub_cancel] at hlength hsum
      refine ⟨by omega, by simpa using hle, hday, ?_, ?_⟩
      · rw [hm, Nat.add_sub_cancel, List.getD_cons_succ]
        exact hlength
      · rw [hm, Nat.add_sub_cancel, List.take_succ_cons, List.sum_cons]
        omega

lemma sum_monthLengths (leap : Bool) : (monthLengths leap).sum = yearLength leap := by
  cases leap <;> rfl

lemma length_monthLengths (leap : Bool) : (monthLengths leap).length = 12 := rfl

lemma daysBeforeMonth_eq_sum (leap : Bool) (month : Nat) :
    daysBeforeMonth leap month = ((monthLengths leap).take (month - 1)).sum := by
  rw [daysBeforeMonth, List.sum_eq_foldl]
  rfl

/-! ### Moments -/

variable {wall : Nat}

lemma ofWall_eq (wall : Nat) :
    ofWall wall =
      let year := yearOfDay (wall / microsPerSecond / 86400)
      let month := monthOfDay (monthLengths (isLeap year.1)) year.2
      ⟨year.1, month.1, month.2, wall / microsPerSecond / 3600 % 24,
        wall / microsPerSecond / 60 % 60, wall / microsPerSecond % 60, wall % microsPerSecond⟩ := by
  simp only [ofWall]

lemma isValid_iff (c : Civil) : c.isValid = true ↔
    1 ≤ c.year ∧ c.year ≤ 9999 ∧ 1 ≤ c.month ∧ c.month ≤ 12 ∧ 1 ≤ c.day ∧
      c.day ≤ (monthLengths (isLeap c.year)).getD (c.month - 1) 0 ∧
      c.hour < 24 ∧ c.minute < 60 ∧ c.second < 60 ∧ c.micro < microsPerSecond := by
  simp only [isValid, Bool.and_eq_true, decide_eq_true_eq, and_assoc]

/-- The date of a moment is one of the calendar, and the time one of the clock. -/
theorem isValid_ofWall (hwall : wall < wallLimit) : (ofWall wall).isValid = true := by
  have hday : wall / microsPerSecond / 86400 < daysBeforeYear 10000 := by
    rw [Nat.div_div_eq_div_mul, Nat.div_lt_iff_lt_mul (by decide), Nat.mul_comm microsPerSecond]
    exact hwall
  obtain ⟨hyear, -, hwithin⟩ := yearOfDay_spec (wall / microsPerSecond / 86400)
  have hle := yearOfDay_le hday
  rw [← sum_monthLengths] at hwithin
  obtain ⟨hmonth, htwelve, hdom, hlength, -⟩ := monthOfDay_spec _ hwithin
  rw [length_monthLengths] at htwelve
  rw [isValid_iff, ofWall_eq]
  refine ⟨hyear, hle, hmonth, htwelve, hdom, hlength, ?_, ?_, ?_, ?_⟩ <;>
    simp only [microsPerSecond] <;> omega

/-- The date and the time of a moment count up to the moment. -/
theorem toWall_ofWall (wall : Nat) : (ofWall wall).toWall = wall := by
  obtain ⟨-, hdays, hwithin⟩ := yearOfDay_spec (wall / microsPerSecond / 86400)
  rw [← sum_monthLengths] at hwithin
  obtain ⟨-, -, -, -, hsum⟩ := monthOfDay_spec _ hwithin
  have hnumber : (ofWall wall).dayNumber = wall / microsPerSecond / 86400 := by
    simp only [dayNumber, ofWall, daysBeforeMonth_eq_sum]
    omega
  rw [toWall, hnumber]
  simp only [ofWall, microsPerSecond]
  omega

end SessionCookies.Civil
