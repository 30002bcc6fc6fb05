import Mathlib
import SessionCookies.Json.Printer
import SessionCookies.Proofs.Json.Fields

/-!
# Numbers

A number that the reader finds at the front of a text is the same whatever stands after it, as long
as that closes an item, a field or the whole text. So the text of an integer reads back as the
integer, and the texts of the infinities and of what is no number as these. Whether the digits of a
finite float are enough to tell it from its neighbours is a property of the digits alone, stated by
`IsExact`.
-/

namespace SessionCookies.Json

/-! ### What may stand after a number -/

/-- A text that closes the value before it: nothing, or the next token of an array or an object. -/
inductive Closes : List Char → Prop
  | nil : Closes []
  | comma (cs : List Char) : Closes (',' :: cs)
  | bracket (cs : List Char) : Closes (']' :: cs)
  | brace (cs : List Char) : Closes ('\x7d' :: cs)

section Append

variable {rest : List Char} (hrest : Closes rest) (cs : List Char)
include hrest

lemma takeWhile_isDigit_append :
    (cs ++ rest).takeWhile Char.isDigit = cs.takeWhile Char.isDigit := by
  induction cs with
  | nil => cases hrest <;> rfl
  | cons c cs ih => simp only [List.cons_append, List.takeWhile_cons, ih]

lemma dropWhile_isDigit_append :
    (cs ++ rest).dropWhile Char.isDigit = cs.dropWhile Char.isDigit ++ rest := by
  induction cs with
  | nil => cases hrest <;> rfl
  | cons c cs ih =>
    simp only [List.cons_append, List.dropWhile_cons, ih]
    split <;> rfl

lemma wholeDigits?_append :
    wholeDigits? (cs ++ rest) = (wholeDigits? cs).map (Prod.map id (· ++ rest)) := by
  match cs with
  | [] => cases hrest <;> rfl
  | '0' :: cs => rfl
  | c :: cs =>
    by_cases hzero : c = '0'
    · subst hzero
      rfl
    · simp only [List.cons_append, wholeDigits?, takeWhile_isDigit_append hrest,
        dropWhile_isDigit_append hrest]
      split <;> rfl

lemma fractionDigits_append :
    fractionDigits (cs ++ rest) = (fractionDigits cs).map id (· ++ rest) := by
  match cs with
  | [] => cases hrest <;> rfl
  | c :: cs =>
    by_cases hpoint : c = '.'
    · subst hpoint
      simp only [List.cons_append, fractionDigits, takeWhile_isDigit_append hrest,
        dropWhile_isDigit_append hrest]
      split <;> rfl
    · simp [fractionDigits, hpoint]

lemma exponentSign_append :
    exponentSign (cs ++ rest) = (exponentSign cs).map id (· ++ rest) := by
  match cs with
  | [] => cases hrest <;> rfl
  | c :: cs =>
    simp only [List.cons_append, exponentSign]
    split <;> simp_all

lemma signedDigits?_append :
    signedDigits? (cs ++ rest) = (signedDigits? cs).map (Prod.map id (· ++ rest)) := by
  simp only [signedDigits?, exponentSign_append hrest, Prod.map_fst, Prod.map_snd, id_eq,
    takeWhile_isDigit_append hrest, dropWhile_isDigit_append hrest]
  split <;> rfl

lemma exponentPart_append :
    exponentPart (cs ++ rest) = (exponentPart cs).map id (· ++ rest) := by
  match cs with
  | [] => cases hrest <;> rfl
  | c :: cs =>
    simp only [List.cons_append, exponentPart, signedDigits?_append hrest]
    split_ifs
    · cases signedDigits? cs <;> rfl
    · rfl

lemma numberSign_append : numberSign (cs ++ rest) = (numberSign cs).map id (· ++ rest) := by
  match cs with
  | [] => cases hrest <;> rfl
  | c :: cs =>
    simp only [List.cons_append, numberSign]
    split <;> simp_all

/-- What closes a number does not change it. -/
lemma numeral?_append : numeral? (cs ++ rest) = (numeral? cs).map (Prod.map id (· ++ rest)) := by
  simp only [numeral?, numberSign_append hrest, Prod.map_fst, Prod.map_snd, id_eq,
    wholeDigits?_append hrest]
  cases wholeDigits? (numberSign cs).2 with
  | none => rfl
  | some whole =>
    simp [fractionDigits_append hrest, exponentPart_append hrest]

end Append

/-- A number at the front of a text is read as one: no other value begins as a number does. -/
lemma readValue_of_numeral? {limits : Limits} {n : Numeral} {cs rest : List Char} (fuel : Nat)
    (h : numeral? cs = some (n, rest)) :
    readValue limits (fuel + 1) cs = (n.value limits).map fun v => (v, rest) := by
  rw [readValue.eq_def]
  dsimp only
  split
  -- every branch but the last begins with a character that no number begins with
  all_goals first
    | simp [numeral?, numberSign, wholeDigits?] at h; done
    | rw [h]

/-! ### Integers -/

lemma head?_writeNat {n : Nat} (hn : 0 < n) : (writeNat n).head? ≠ some '0' := by
  induction n using Nat.strong_induction_on with
  | _ n ih =>
    rw [writeNat, Nat.toDigits_eq_if (by decide)]
    split_ifs with hlt
    · have hdigit : ∀ n < 10, 0 < n → [n.digitChar].head? ≠ some '0' := by decide
      exact hdigit n hlt hn
    · rw [List.head?_append_of_ne_nil _ Nat.toDigits_ne_nil]
      exact ih (n / 10) (by omega) (by omega)

lemma isDigit_of_mem_writeNat {n : Nat} {c : Char} (hc : c ∈ writeNat n) : c.isDigit = true :=
  Nat.isDigit_of_mem_toDigits (by decide) (by decide) hc

lemma wholeDigits?_writeNat (n : Nat) : wholeDigits? (writeNat n) = some (writeNat n, []) := by
  obtain rfl | hn := n.eq_zero_or_pos
  · rfl
  · obtain ⟨c, cs, hcs⟩ := List.exists_cons_of_ne_nil (l := writeNat n) Nat.toDigits_ne_nil
    have hhead := head?_writeNat hn
    have hdigits : ∀ d ∈ c :: cs, d.isDigit = true := fun d hd =>
      isDigit_of_mem_writeNat (hcs ▸ hd)
    rw [hcs] at hhead ⊢
    have hzero : c ≠ '0' := by simpa using hhead
    have htail : ∀ d ∈ cs, d.isDigit = true := fun d hd => hdigits d (List.mem_cons_of_mem c hd)
    simp [wholeDigits?, hdigits, List.takeWhile_eq_self_iff.2 htail,
      List.dropWhile_eq_nil_iff.2 htail]

lemma digitsValue_writeNat (n : Nat) : digitsValue (writeNat n) = n := by
  have h := Nat.ofDigitChars_ten_toDigits (n := n)
  simp only [Nat.ofDigitChars_eq_foldl, Nat.mul_comm 10] at h
  exact h

lemma numeral?_writeInt (n : Int) :
    numeral? (writeInt n) = some (⟨n < 0, writeNat n.natAbs, [], none⟩, []) := by
  cases n with
  | ofNat n =>
    obtain ⟨c, cs, hcs⟩ := List.exists_cons_of_ne_nil (l := writeNat n) Nat.toDigits_ne_nil
    have hminus : c ≠ '-' := by
      rintro rfl
      have := isDigit_of_mem_writeNat (hcs ▸ List.mem_cons_self : '-' ∈ writeNat n)
      cases this
    have hsign : numberSign (writeNat n) = (false, writeNat n) := by
      rw [hcs]
      simp [numberSign, hminus]
    simp [writeInt, numeral?, hsign, wholeDigits?_writeNat, fractionDigits, exponentPart]
  | negSucc n =>
    simp [writeInt, numeral?, numberSign, wholeDigits?_writeNat, fractionDigits, exponentPart]

lemma value_writeInt {n : Int} (hn : (writeNat n.natAbs).length ≤ maxIntegerDigits)
    (depth : Nat) :
    Numeral.value ⟨depth, false⟩ ⟨n < 0, writeNat n.natAbs, [], none⟩ = .ok (.int n) := by
  have hsign : (if n < 0 then -|n| else |n|) = n := by
    split_ifs with hnegative
    · rw [abs_of_neg hnegative, neg_neg]
    · rw [abs_of_nonneg (not_lt.1 hnegative)]
  simp [Numeral.value, Numeral.isWithin, Numeral.isInteger, hn, digitsValue_writeNat, hsign]

lemma readValue_writeInt {n : Int} (hn : (writeNat n.natAbs).length ≤ maxIntegerDigits)
    {rest : List Char} (hrest : Closes rest) (depth fuel : Nat) :
    readValue ⟨depth, false⟩ (fuel + 1) (writeInt n ++ rest) = .ok (.int n, rest) := by
  have hnumeral := numeral?_append hrest (writeInt n)
  rw [numeral?_writeInt, Option.map_some] at hnumeral
  rw [readValue_of_numeral? fuel hnumeral, id, value_writeInt hn]
  rfl

/-! ### Floats -/

lemma eq_of_toBits_eq {x y : Float} (h : x.toBits = y.toBits) : x = y := by
  obtain ⟨⟨a, ha⟩⟩ := x
  obtain ⟨⟨b, hb⟩⟩ := y
  obtain rfl : a = b := h
  rfl

/-- There is one float that is no number, and two that are infinite. -/
lemma eq_of_not_isFinite {x : Float} (hx : x.isFinite = false) :
    x = notANumber ∨ x = positiveInfinity ∨ x = -positiveInfinity := by
  simp only [Float.isFinite, Float.Model.isFinite, Float.Model.unpack,
    Float.Model.UnpackedFloat.unpack] at hx
  split_ifs at hx with hexponent hmantissa
  · right
    have hexponent := congrArg BitVec.toNat hexponent
    have hmantissa := congrArg BitVec.toNat hmantissa
    simp only [Float.Model.UnpackedFloat.unpackExponent, Float.Model.UnpackedFloat.unpackMantissa,
      BitVec.cast_eq, BitVec.extractLsb_toNat, Nat.shiftRight_eq_div_pow, pow_zero,
      Nat.div_one] at hexponent hmantissa
    have hlt := x.toBits.toNat_lt
    change x.toBits.toNat / 4503599627370496 % 2048 = 2047 at hexponent
    change x.toBits.toNat % 4503599627370496 = 0 at hmantissa
    have hplus : positiveInfinity.toBits.toNat = 0x7FF0000000000000 := by decide +kernel
    have hminus : (-positiveInfinity).toBits.toNat = 0xFFF0000000000000 := by decide +kernel
    obtain hbits | hbits : x.toBits.toNat = 0x7FF0000000000000 ∨
        x.toBits.toNat = 0xFFF0000000000000 := by omega
    · exact .inl (eq_of_toBits_eq (UInt64.toNat_inj.1 (hbits.trans hplus.symm)))
    · exact .inr (eq_of_toBits_eq (UInt64.toNat_inj.1 (hbits.trans hminus.symm)))
  · left
    apply eq_of_toBits_eq
    have hcanonical : notANumber.toBits.toBitVec =
        Float.Model.UnpackedFloat.packedNaN Float.Model.Format.binary64 := by decide +kernel
    exact UInt64.toBitVec_inj.1
      ((x.toModel.valid.eq_packedNaN hexponent hmantissa).trans hcanonical.symm)
  all_goals simp [Float.Model.UnpackedFloat.isFinite] at hx

/-- A float whose text is a number that reads back as the same float. -/
def IsExact (x : Float) : Prop :=
  ∃ n, numeral? (writeFloat x) = some (n, []) ∧ n.isInteger = false ∧ n.toFloat = x

lemma readValue_writeFloat {x : Float} (hx : x.isFinite = true → IsExact x) {rest : List Char}
    (hrest : Closes rest) (depth fuel : Nat) :
    readValue ⟨depth, false⟩ (fuel + 1) (writeFloat x ++ rest) = .ok (.float x, rest) := by
  cases hfinite : x.isFinite with
  | true =>
    obtain ⟨n, hn, hinteger, hvalue⟩ := hx hfinite
    have hnumeral := numeral?_append hrest (writeFloat x)
    rw [hn, Option.map_some] at hnumeral
    have hfloat : n.value ⟨depth, false⟩ = .ok (.float x) := by
      simp [Numeral.value, Numeral.isWithin, hinteger, hvalue]
    rw [readValue_of_numeral? fuel hnumeral, id, hfloat]
    rfl
  | false =>
    obtain rfl | rfl | rfl := eq_of_not_isFinite hfinite
    · have htext : writeFloat notANumber = ['N', 'a', 'N'] := by decide +kernel
      rw [htext]
      rfl
    · have htext : writeFloat positiveInfinity = "Infinity".toList := by decide +kernel
      rw [htext]
      rfl
    · have htext : writeFloat (-positiveInfinity) = "-Infinity".toList := by decide +kernel
      rw [htext]
      rfl

end SessionCookies.Json
