import Mathlib.Tactic

/-!
# Classes of ASCII characters

The places of letters and digits, and the comparison of two classes of characters, of which the
first lies within ASCII, by looking at all of its characters.
-/

namespace SessionCookies.Ascii

lemma range_of_isAlphanum {c : Char} (hc : c.isAlphanum = true) :
    ((65 ≤ c.toNat ∧ c.toNat ≤ 90) ∨ (97 ≤ c.toNat ∧ c.toNat ≤ 122)) ∨
      (48 ≤ c.toNat ∧ c.toNat ≤ 57) := by
  have hranges : (decide ('A'.val ≤ c.val ∧ c.val ≤ 'Z'.val) ||
      decide ('a'.val ≤ c.val) && decide (c.val ≤ 'z'.val) ||
      decide ('0'.val ≤ c.val) && decide (c.val ≤ '9'.val)) = true := hc
  simp only [Bool.or_eq_true, Bool.and_eq_true, decide_eq_true_eq,
    UInt32.le_iff_toNat_le] at hranges
  exact hranges

lemma toNat_lt_of_isAlphanum {c : Char} (hc : c.isAlphanum = true) : c.toNat < 128 := by
  have hrange := range_of_isAlphanum hc
  omega

/-- Letters, digits and some marks of ASCII lie within ASCII. -/
lemma toNat_lt_of_marks {marks : List Char} (hmarks : (marks.all fun c => c.toNat < 128) = true)
    {c : Char} (hc : (c.isAlphanum || marks.contains c) = true) : c.toNat < 128 := by
  rw [Bool.or_eq_true] at hc
  rcases hc with hc | hc
  · exact toNat_lt_of_isAlphanum hc
  · exact of_decide_eq_true (List.all_eq_true.1 hmarks c (List.contains_iff_mem.1 hc))

/-- A class within ASCII is part of another if all its characters are. -/
theorem forall_of_range {p q : Char → Bool} (hp : ∀ c, p c = true → c.toNat < 128)
    (hq : ∀ n < 128, p (Char.ofNat n) = true → q (Char.ofNat n) = true) (c : Char)
    (hc : p c = true) : q c = true := by
  have h := hq c.toNat (hp c hc)
  rw [Char.ofNat_toNat] at h
  exact h hc

end SessionCookies.Ascii
