import Mathlib.Tactic
import SessionCookies.Time.Duration

/-!
# Whole seconds of a duration

A duration of less than 2^33 seconds keeps its microseconds when it is brought to 53 binary digits,
since a second then has more units than microseconds. So what it takes in whole seconds is exact: it
is as long as the duration, and less than a second longer (`secondsUp_bounds`).
-/

namespace SessionCookies.Duration

/-- The seconds for which whole seconds are exact. -/
def exactSeconds : Nat := 2 ^ 33

/-- The nearest quotient is the quotient or the next number, and the quotient if nothing is left. -/
lemma nearestQuotient_cases (n d : Nat) :
    nearestQuotient n d = n / d ∨ nearestQuotient n d = n / d + 1 ∧ n % d ≠ 0 := by
  rw [nearestQuotient]
  split_ifs with h
  · exact .inl rfl
  · refine .inr ⟨rfl, fun hzero => h ?_⟩
    rw [hzero]
    rcases Nat.eq_zero_or_pos d with rfl | hd
    · have hn : n = 0 := by rwa [Nat.mod_zero] at hzero
      exact .inr ⟨rfl, by rw [hn]⟩
    · exact .inl hd

/-- A quotient that is rounded to the nearest lies between the same multiples of a number that is
not smaller than the divisor. -/
lemma nearestQuotient_mul_bounds {m u d k : Nat} (hd : 0 < d) (hu : d < u) (hlow : k * d < m)
    (hhigh : m ≤ (k + 1) * d) :
    k * u < nearestQuotient (m * u) d ∧ nearestQuotient (m * u) d ≤ (k + 1) * u := by
  have hdiv := Nat.div_add_mod (m * u) d
  have hmod := Nat.mod_lt (m * u) hd
  constructor
  · have hquotient : k * u < m * u / d := by
      rw [Nat.lt_iff_add_one_le, Nat.le_div_iff_mul_le hd]
      have hmul := Nat.mul_le_mul_right u (Nat.succ_le_of_lt hlow)
      nlinarith
    obtain h | ⟨h, -⟩ := nearestQuotient_cases (m * u) d <;> rw [h] <;> omega
  · obtain h | ⟨h, hrest⟩ := nearestQuotient_cases (m * u) d <;> rw [h]
    · have hmul := Nat.mul_le_mul_right u hhigh
      exact Nat.div_le_of_le_mul (by nlinarith)
    · -- something is left, so that the multiple above is not reached
      have hne : m ≠ (k + 1) * d := by
        rintro rfl
        apply hrest
        rw [Nat.mul_right_comm, Nat.mul_mod_left]
      have hmul := Nat.mul_le_mul_right u (Nat.succ_le_of_lt (lt_of_le_of_ne hhigh hne))
      rw [Nat.succ_le_iff, Nat.div_lt_iff_lt_mul hd]
      nlinarith

lemma microsPerSecond_lt_units {micros : Nat} (h : micros < exactSeconds * Civil.microsPerSecond) :
    Civil.microsPerSecond < units micros := by
  have hseconds : micros / Civil.microsPerSecond < 2 ^ 33 := by
    rw [Nat.div_lt_iff_lt_mul (by decide)]
    exact h
  have hlog : Nat.log2 (micros / Civil.microsPerSecond) ≤ 32 := by
    rcases Nat.eq_zero_or_pos (micros / Civil.microsPerSecond) with hzero | hpos
    · rw [hzero]
      decide
    · exact Nat.le_of_lt_succ ((Nat.log2_lt hpos.ne').2 hseconds)
  calc Civil.microsPerSecond < 2 ^ 20 := by decide
    _ ≤ 2 ^ places micros := Nat.pow_le_pow_right (by decide) (by rw [places]; omega)

/-- The whole seconds that a duration takes. -/
lemma secondsUp_eq {micros k : Nat} (h : micros < exactSeconds * Civil.microsPerSecond)
    (hlow : k * Civil.microsPerSecond < micros) (hhigh : micros ≤ (k + 1) * Civil.microsPerSecond) :
    secondsUp micros = k + 1 := by
  have hpos : micros ≠ 0 := by omega
  have hunits := microsPerSecond_lt_units h
  rw [secondsUp, if_neg hpos]
  split_ifs with hsmall
  · rcases Nat.eq_zero_or_pos k with rfl | hk
    · rfl
    · have hle := Nat.mul_le_mul_right Civil.microsPerSecond hk
      omega
  · obtain ⟨hscaled, hscaled'⟩ := nearestQuotient_mul_bounds (by decide) hunits hlow hhigh
    rw [← scaledSeconds] at hscaled hscaled'
    have hpos' : 0 < units micros := by omega
    apply le_antisymm
    · rw [← Nat.lt_succ_iff, Nat.div_lt_iff_lt_mul hpos', Nat.succ_mul]
      omega
    · rw [Nat.le_div_iff_mul_le hpos', Nat.add_mul, Nat.one_mul]
      omega

/-- A duration takes at least one second, as many as it is long, and less than a second more. -/
theorem secondsUp_bounds {micros : Nat} (hpos : 0 < micros)
    (h : micros < exactSeconds * Civil.microsPerSecond) :
    1 ≤ secondsUp micros ∧ micros ≤ secondsUp micros * Civil.microsPerSecond ∧
      secondsUp micros * Civil.microsPerSecond < micros + Civil.microsPerSecond := by
  have hk : ∃ k, k * Civil.microsPerSecond < micros ∧ micros ≤ (k + 1) * Civil.microsPerSecond := by
    refine ⟨(micros - 1) / Civil.microsPerSecond, ?_, ?_⟩ <;>
      simp only [Civil.microsPerSecond] <;> omega
  obtain ⟨k, hlow, hhigh⟩ := hk
  rw [secondsUp_eq h hlow hhigh]
  refine ⟨Nat.le_add_left 1 k, hhigh, ?_⟩
  rw [Nat.add_mul, Nat.one_mul]
  omega

end SessionCookies.Duration
