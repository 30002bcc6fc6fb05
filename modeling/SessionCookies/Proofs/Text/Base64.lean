import Mathlib.Data.Set.Card
import Mathlib.Tactic
import SessionCookies.Text.Base64

/-!
# Base64 texts and the bytes they stand for

Reading a text that was written gives the bytes back (`decode?_encode`). A text can be read exactly
if it has the strict form (`isSome_decode?_iff`). Of bytes whose last group is short by one, two
texts that can be read differ in nothing but the low bits of the last digit
(`decode?_eq_some_iff`).
-/

namespace SessionCookies.Base64

/-! ### Digits -/

lemma digit_of_digitValue? {c : Char} {n : Nat} (h : digitValue? c = some n) :
    n < 64 ∧ c = digit n := by
  have hc := Char.ofNat_toNat c
  simp only [digitValue?] at h
  split_ifs at h with h₁ h₂ h₃ h₄ h₅ <;> cases h
  · refine ⟨by omega, ?_⟩
    rw [digit, if_pos (by omega), Nat.sub_add_cancel h₁.1, hc]
  · refine ⟨by omega, ?_⟩
    rw [digit, if_neg (by omega), if_pos (by omega), Nat.sub_add_cancel (by omega), hc]
  · refine ⟨by omega, ?_⟩
    rw [digit, if_neg (by omega), if_neg (by omega), if_pos (by omega), Nat.add_sub_cancel, hc]
  · exact ⟨by decide, h₄⟩
  · exact ⟨by decide, h₅⟩

lemma digitValue?_eq_some_iff {c : Char} {n : Nat} :
    digitValue? c = some n ↔ n < 64 ∧ c = digit n := by
  constructor
  · exact digit_of_digitValue?
  · rintro ⟨hn, rfl⟩
    exact digitValue?_digit n hn

lemma digit_inj {m n : Nat} (hm : m < 64) (hn : n < 64) : digit m = digit n ↔ m = n := by
  constructor
  · intro h
    have hvalue := digitValue?_digit m hm
    rw [h, digitValue?_digit n hn, Option.some.injEq] at hvalue
    exact hvalue.symm
  · exact congrArg digit

lemma digitValue?_padding : digitValue? '=' = none := by decide

lemma digit_ne_padding {n : Nat} (hn : n < 64) : digit n ≠ '=' := by
  intro h
  have := digitValue?_digit n hn
  rw [h, digitValue?_padding] at this
  cases this

/-! ### Bytes -/

lemma toNat_joined {high low : Nat} (h : high + low < 256) :
    (joined high low).toNat = high + low := by
  rw [joined, UInt8.toNat_ofNat', Nat.mod_eq_of_lt h]

lemma toNat_of_eq_joined {high low : Nat} {a : UInt8} (h : high + low < 256)
    (ha : a = joined high low) : a.toNat = high + low := by
  rw [ha, toNat_joined h]

lemma joined_eq {high low : Nat} {a : UInt8} (h : high + low = a.toNat) : joined high low = a := by
  rw [← UInt8.toNat_inj, toNat_joined (h ▸ a.toNat_lt), h]

/-! ### Reading what was written -/

lemma decode?_group {p q r s : Nat} (hp : p < 64) (hq : q < 64) (hr : r < 64) (hs : s < 64)
    (rest : List Char) :
    decode? (digit p :: digit q :: digit r :: digit s :: rest) =
      (if rest.all (· = '=') then some [] else decode? rest).map fun more =>
        joined (p * 4) (q / 16) :: joined (q % 16 * 16) (r / 4) ::
          joined (r % 4 * 64) s :: more := by
  have hpad := digit_ne_padding hs
  rw [decode?]
  · simp only [digitValue?_digit _ hp, digitValue?_digit _ hq, digitValue?_digit _ hr,
      digitValue?_digit _ hs]
    split <;> simp [Option.map]
    cases decode? rest <;> rfl
  · intro _ h
    exact absurd h hpad
  · intro h
    exact absurd h hpad

lemma decode?_one {p q : Nat} (hp : p < 64) (hq : q < 64) :
    decode? [digit p, digit q, '=', '='] = some [joined (p * 4) (q / 16)] := by
  rw [decode?, digitValue?_digit p hp, digitValue?_digit q hq]
  rfl

lemma decode?_two {p q r : Nat} (hp : p < 64) (hq : q < 64) (hr : r < 64) :
    decode? [digit p, digit q, digit r, '='] =
      some [joined (p * 4) (q / 16), joined (q % 16 * 16) (r / 4)] := by
  rw [decode?]
  · rw [digitValue?_digit p hp, digitValue?_digit q hq, digitValue?_digit r hr]
    rfl
  · exact digit_ne_padding hr

lemma all_padding_encode {bytes : List UInt8} (h : (encode bytes).all (· = '=')) : bytes = [] := by
  have hdigit : ∀ a : UInt8, digit (a.toNat / 4) ≠ '=' := by
    intro a
    have := a.toNat_lt
    exact digit_ne_padding (by omega)
  fun_cases encode bytes <;> simp_all [encode]

theorem decode?_encode (bytes : List UInt8) : decode? (encode bytes) = some bytes := by
  fun_induction encode bytes with
  | case1 => rfl
  | case2 a =>
    have ha := a.toNat_lt
    rw [decode?_one (by omega) (by omega), joined_eq (a := a) (by omega)]
  | case3 a b =>
    have ha := a.toNat_lt
    have hb := b.toNat_lt
    rw [decode?_two (by omega) (by omega) (by omega), joined_eq (a := a) (by omega),
      joined_eq (a := b) (by omega)]
  | case4 a b c rest ih =>
    have ha := a.toNat_lt
    have hb := b.toNat_lt
    have hc := c.toNat_lt
    have hrest : (if (encode rest).all (· = '=') then some [] else decode? (encode rest))
        = some rest := by
      split_ifs with hpad
      · rw [all_padding_encode hpad]
      · exact ih
    rw [decode?_group (by omega) (by omega) (by omega) (by omega), hrest,
      joined_eq (a := a) (by omega), joined_eq (a := b) (by omega), joined_eq (a := c) (by omega)]
    rfl

theorem bytes?_text (bytes : List UInt8) : bytes? (text bytes) = some bytes := by
  rw [bytes?, text, String.toList_ofList, decode?_encode]

/-! ### The texts that can be read -/

/-- What a text that can be read consists of, and the bytes it stands for. -/
lemma decode?_cases {cs : List Char} {bytes : List UInt8} (h : decode? cs = some bytes) :
    (cs = [] ∧ bytes = []) ∨
    (∃ p q, p < 64 ∧ q < 64 ∧ cs = [digit p, digit q, '=', '='] ∧
      bytes = [joined (p * 4) (q / 16)]) ∨
    (∃ p q r, p < 64 ∧ q < 64 ∧ r < 64 ∧ cs = [digit p, digit q, digit r, '='] ∧
      bytes = [joined (p * 4) (q / 16), joined (q % 16 * 16) (r / 4)]) ∨
    ∃ p q r s rest more, p < 64 ∧ q < 64 ∧ r < 64 ∧ s < 64 ∧
      cs = digit p :: digit q :: digit r :: digit s :: rest ∧
      (if rest.all (· = '=') then some [] else decode? rest) = some more ∧
      bytes = joined (p * 4) (q / 16) :: joined (q % 16 * 16) (r / 4) ::
        joined (r % 4 * 64) s :: more := by
  unfold decode? at h
  split at h
  · exact .inl ⟨rfl, (Option.some.inj h).symm⟩
  · simp only [Option.bind_eq_bind, Option.bind_eq_some_iff, Option.pure_def,
      Option.some.injEq, digitValue?_eq_some_iff] at h
    obtain ⟨m, ⟨hm, rfl⟩, n, ⟨hn, rfl⟩, rfl⟩ := h
    exact .inr (.inl ⟨m, n, hm, hn, rfl, rfl⟩)
  · simp only [Option.bind_eq_bind, Option.bind_eq_some_iff, Option.pure_def,
      Option.some.injEq, digitValue?_eq_some_iff] at h
    obtain ⟨m, ⟨hm, rfl⟩, n, ⟨hn, rfl⟩, k, ⟨hk, rfl⟩, rfl⟩ := h
    exact .inr (.inr (.inl ⟨m, n, k, hm, hn, hk, rfl, rfl⟩))
  · next rest _ _ =>
    simp only [Option.bind_eq_bind, Option.bind_eq_some_iff, digitValue?_eq_some_iff] at h
    obtain ⟨m, ⟨hm, rfl⟩, n, ⟨hn, rfl⟩, k, ⟨hk, rfl⟩, l, ⟨hl, rfl⟩, h⟩ := h
    refine .inr (.inr (.inr ⟨m, n, k, l, rest, ?_⟩))
    split_ifs at h ⊢ with hpad
    · exact ⟨[], hm, hn, hk, hl, rfl, rfl, (Option.some.inj h).symm⟩
    · obtain ⟨more, hmore, h⟩ := Option.bind_eq_some_iff.1 h
      exact ⟨more, hm, hn, hk, hl, rfl, hmore, (Option.some.inj h).symm⟩
  · cases h

lemma eq_nil_of_all_padding {cs : List Char} {bytes : List UInt8} (hcs : cs.all (· = '='))
    (h : decode? cs = some bytes) : bytes = [] := by
  obtain ⟨-, rfl⟩ | ⟨p, q, hp, -, rfl, -⟩ | ⟨p, q, r, hp, -, -, rfl, -⟩ |
    ⟨p, q, r, s, rest, more, hp, -, -, -, rfl, -, -⟩ := decode?_cases h
  · rfl
  all_goals simp [digit_ne_padding hp] at hcs

/-- Two texts that end in a digit and a padding sign and differ at most in the two low bits of that
digit, which belong to no byte. -/
def SameButUnused (cs ds : List Char) : Prop :=
  ∃ start m n, m < 64 ∧ n < 64 ∧ m / 4 = n / 4 ∧
    cs = start ++ [digit m, '='] ∧ ds = start ++ [digit n, '=']

lemma sameButUnused_cons {c : Char} {cs ds : List Char} (hds : 2 ≤ ds.length) :
    SameButUnused cs (c :: ds) ↔ ∃ cs', cs = c :: cs' ∧ SameButUnused cs' ds := by
  constructor
  · rintro ⟨start, m, n, hm, hn, hmn, rfl, h⟩
    cases start with
    | nil =>
      simp only [List.nil_append, List.cons.injEq] at h
      simp [h.2] at hds
    | cons c' start =>
      simp only [List.cons_append, List.cons.injEq] at h
      obtain ⟨rfl, rfl⟩ := h
      exact ⟨_, rfl, start, m, n, hm, hn, hmn, rfl, rfl⟩
  · rintro ⟨_, rfl, start, m, n, hm, hn, hmn, rfl, rfl⟩
    exact ⟨c :: start, m, n, hm, hn, hmn, rfl, rfl⟩

lemma sameButUnused_pair {cs : List Char} {n : Nat} (hn : n < 64) :
    SameButUnused cs [digit n, '='] ↔ ∃ m < 64, m / 4 = n / 4 ∧ cs = [digit m, '='] := by
  constructor
  · rintro ⟨start, m, n', hm, hn', hmn, rfl, h⟩
    cases start with
    | nil =>
      obtain rfl : n = n' := (digit_inj hn hn').1 (by simpa using h)
      exact ⟨m, hm, hmn, rfl⟩
    | cons c start =>
      have := congrArg List.length h
      simp at this
  · rintro ⟨m, hm, hmn, rfl⟩
    exact ⟨[], m, n, hm, hn, hmn, rfl, rfl⟩

/-- The texts that stand for bytes whose last group is short by one. -/
theorem decode?_eq_some_iff {cs : List Char} {bytes : List UInt8} (hbytes : bytes.length % 3 = 2) :
    decode? cs = some bytes ↔ SameButUnused cs (encode bytes) := by
  fun_induction encode bytes generalizing cs with
  | case1 => simp at hbytes
  | case2 a => simp at hbytes
  | case3 a b =>
    have ha := a.toNat_lt
    have hb := b.toNat_lt
    simp only [sameButUnused_cons, List.length_cons, List.length_nil, Nat.reduceAdd,
      Nat.reduceLeDiff, sameButUnused_pair (show b.toNat % 16 * 4 < 64 by omega)]
    constructor
    · intro hcs
      obtain ⟨-, h⟩ | ⟨p, q, hp, hq, rfl, h⟩ | ⟨p, q, r, hp, hq, hr, rfl, h⟩ |
        ⟨p, q, r, s, rest, more, hp, hq, hr, hs, rfl, hmore, h⟩ := decode?_cases hcs
      · cases h
      · cases h
      · simp only [List.cons.injEq, and_true] at h
        have hpa := toNat_of_eq_joined (by omega) h.1
        have hqb := toNat_of_eq_joined (by omega) h.2
        exact ⟨_, by rw [show a.toNat / 4 = p by omega], _,
          by rw [show a.toNat % 4 * 16 + b.toNat / 16 = q by omega], r, hr, by omega, rfl⟩
      · cases h
    · rintro ⟨_, rfl, _, rfl, m, hm, hmn, rfl⟩
      rw [decode?_two (by omega) (by omega) hm, joined_eq (a := a) (by omega),
        joined_eq (a := b) (by omega)]
  | case4 a b c rest ih =>
    have ha := a.toNat_lt
    have hb := b.toNat_lt
    have hc := c.toNat_lt
    have hrest : rest.length % 3 = 2 := by
      simp only [List.length_cons] at hbytes
      omega
    have hlength : 4 ≤ (encode rest).length := by
      rw [length_encode]
      omega
    simp only [sameButUnused_cons (show 2 ≤ (_ :: _ :: _ :: encode rest).length by simp),
      sameButUnused_cons (show 2 ≤ (_ :: _ :: encode rest).length by simp),
      sameButUnused_cons (show 2 ≤ (_ :: encode rest).length by simp; omega),
      sameButUnused_cons (show 2 ≤ (encode rest).length by omega), ← ih hrest]
    constructor
    · intro hcs
      obtain ⟨-, h⟩ | ⟨p, q, hp, hq, rfl, h⟩ | ⟨p, q, r, hp, hq, hr, rfl, h⟩ |
        ⟨p, q, r, s, rest', more, hp, hq, hr, hs, rfl, hmore, h⟩ := decode?_cases hcs
      · cases h
      · cases h
      · simp only [List.cons.injEq] at h
        exact absurd h.2.2 (List.cons_ne_nil c rest)
      · simp only [List.cons.injEq] at h
        obtain ⟨hpa, hqb, hrc, rfl⟩ := h
        have hpa := toNat_of_eq_joined (by omega) hpa
        have hqb := toNat_of_eq_joined (by omega) hqb
        have hrc := toNat_of_eq_joined (by omega) hrc
        refine ⟨_, by rw [show a.toNat / 4 = p by omega], _,
          by rw [show a.toNat % 4 * 16 + b.toNat / 16 = q by omega], _,
          by rw [show b.toNat % 16 * 4 + c.toNat / 64 = r by omega], _,
          by rw [show c.toNat % 64 = s by omega], ?_⟩
        split_ifs at hmore
        · simp [← Option.some.inj hmore] at hrest
        · exact hmore
    · rintro ⟨_, rfl, _, rfl, _, rfl, rest', rfl, h⟩
      have hpad : ¬ rest'.all (· = '=') := by
        intro hpad
        simp [eq_nil_of_all_padding hpad h] at hrest
      rw [decode?_group (by omega) (by omega) (by omega) (by omega), if_neg hpad, h,
        joined_eq (a := a) (by omega), joined_eq (a := b) (by omega), joined_eq (a := c) (by omega)]
      rfl

lemma sameButUnused_encode {bytes : List UInt8} (hbytes : bytes.length % 3 = 2) :
    SameButUnused (encode bytes) (encode bytes) :=
  (decode?_eq_some_iff hbytes).1 (decode?_encode bytes)

/-- Two unused bits make four texts for the same bytes. -/
theorem ncard_sameButUnused {bytes : List UInt8} (hbytes : bytes.length % 3 = 2) :
    {cs | SameButUnused cs (encode bytes)}.ncard = 4 := by
  obtain ⟨start, n, -, hn, -, -, hstart, -⟩ := sameButUnused_encode hbytes
  let text (k : Nat) : List Char := start ++ [digit (n / 4 * 4 + k), '=']
  have hset : {cs | SameButUnused cs (encode bytes)} = (Finset.range 4).image text := by
    ext cs
    simp only [Set.mem_ofPred_eq, Finset.coe_image, Finset.coe_range, Set.mem_image, Set.mem_Iio]
    constructor
    · rintro ⟨start', m, n', hm, hn', hmn, rfl, hds⟩
      obtain ⟨rfl, hdigit⟩ := List.append_inj' (hstart.symm.trans hds) rfl
      obtain rfl : n = n' := (digit_inj hn hn').1 (List.cons.inj hdigit).1
      exact ⟨m % 4, by omega, by simp only [text]; rw [show n / 4 * 4 + m % 4 = m by omega]⟩
    · rintro ⟨k, hk, rfl⟩
      exact ⟨start, n / 4 * 4 + k, n, by omega, hn, by omega, rfl, hstart⟩
  have hinj : Set.InjOn text (Finset.range 4) := by
    intro k hk l hl h
    simp only [Finset.coe_range, Set.mem_Iio] at hk hl
    have := (digit_inj (by omega) (by omega)).1 (List.cons.inj (List.append_cancel_left h)).1
    omega
  rw [hset, Set.ncard_coe_finset, Finset.card_image_of_injOn hinj, Finset.card_range]

/-- The form of a text that can be read: digits in groups of four, the last group filled up by
padding signs; after whole groups, of which there is one at least, any number of padding signs. -/
def IsStrict (cs : List Char) : Prop :=
  ∃ digits pads, cs = digits ++ List.replicate pads '=' ∧ (∀ c ∈ digits, (digitValue? c).isSome) ∧
    (digits.length % 4 = 0 ∧ (digits = [] → pads = 0) ∨ digits.length % 4 = 2 ∧ pads = 2 ∨
      digits.length % 4 = 3 ∧ pads = 1)

lemma isStrict_of_decode? {cs : List Char} {bytes : List UInt8} (h : decode? cs = some bytes) :
    IsStrict cs := by
  obtain ⟨rfl, -⟩ | ⟨p, q, hp, hq, rfl, -⟩ | ⟨p, q, r, hp, hq, hr, rfl, -⟩ |
    ⟨p, q, r, s, rest, more, hp, hq, hr, hs, rfl, hmore, rfl⟩ := decode?_cases h
  · exact ⟨[], 0, rfl, by simp, .inl ⟨rfl, fun _ => rfl⟩⟩
  · exact ⟨[digit p, digit q], 2, rfl, by simp [digitValue?_digit, hp, hq], .inr (.inl ⟨rfl, rfl⟩)⟩
  · exact ⟨[digit p, digit q, digit r], 1, rfl, by simp [digitValue?_digit, hp, hq, hr],
      .inr (.inr ⟨rfl, rfl⟩)⟩
  · have hgroup (digits : List Char) (h : ∀ c ∈ digits, (digitValue? c).isSome) :
        ∀ c ∈ digit p :: digit q :: digit r :: digit s :: digits, (digitValue? c).isSome := by
      simpa [digitValue?_digit, hp, hq, hr, hs] using h
    split_ifs at hmore with hpad
    · have hrest : rest = List.replicate rest.length '=' :=
        List.eq_replicate_of_mem (by simpa using hpad)
      refine ⟨[digit p, digit q, digit r, digit s], rest.length, ?_, hgroup [] (by simp), .inl ?_⟩
      · exact congrArg (digit p :: digit q :: digit r :: digit s :: ·) hrest
      · exact ⟨by simp, fun h => absurd h (List.cons_ne_nil _ _)⟩
    · obtain ⟨digits, pads, rfl, hdigits, hform⟩ := isStrict_of_decode? hmore
      refine ⟨digit p :: digit q :: digit r :: digit s :: digits, pads, rfl,
        hgroup digits hdigits, ?_⟩
      simp only [List.length_cons, reduceCtorEq, false_implies, and_true]
      omega
termination_by bytes.length

lemma isSome_decode?_append {digits : List Char} {pads : Nat}
    (hdigits : ∀ c ∈ digits, (digitValue? c).isSome)
    (hform : digits.length % 4 = 0 ∧ (digits = [] → pads = 0) ∨
      digits.length % 4 = 2 ∧ pads = 2 ∨ digits.length % 4 = 3 ∧ pads = 1) :
    (decode? (digits ++ List.replicate pads '=')).isSome := by
  have hvalue : ∀ c ∈ digits, ∃ n < 64, c = digit n := by
    intro c hc
    obtain ⟨n, hn⟩ := Option.isSome_iff_exists.1 (hdigits c hc)
    exact ⟨n, digit_of_digitValue? hn⟩
  match digits with
  | [] =>
    obtain rfl : pads = 0 := by simpa using hform
    rfl
  | [_] => simp at hform
  | [p, q] =>
    obtain rfl : pads = 2 := by simpa using hform
    obtain ⟨m, hm, rfl⟩ := hvalue p (by simp)
    obtain ⟨n, hn, rfl⟩ := hvalue q (by simp)
    exact Option.isSome_of_eq_some (decode?_one hm hn)
  | [p, q, r] =>
    obtain rfl : pads = 1 := by simpa using hform
    obtain ⟨m, hm, rfl⟩ := hvalue p (by simp)
    obtain ⟨n, hn, rfl⟩ := hvalue q (by simp)
    obtain ⟨k, hk, rfl⟩ := hvalue r (by simp)
    exact Option.isSome_of_eq_some (decode?_two hm hn hk)
  | p :: q :: r :: s :: rest =>
    obtain ⟨m, hm, rfl⟩ := hvalue p (by simp)
    obtain ⟨n, hn, rfl⟩ := hvalue q (by simp)
    obtain ⟨k, hk, rfl⟩ := hvalue r (by simp)
    obtain ⟨l, hl, rfl⟩ := hvalue s (by simp)
    simp only [List.cons_append, decode?_group hm hn hk hl, Option.isSome_map]
    split_ifs with hpad
    · rfl
    · have hrest : rest ≠ [] := by
        rintro rfl
        simp at hpad
      apply isSome_decode?_append fun c hc => hdigits c (by simp [hc])
      simp only [List.length_cons, reduceCtorEq, false_implies, and_true] at hform
      simp only [hrest, false_implies, and_true]
      omega

theorem isSome_decode?_iff (cs : List Char) : (decode? cs).isSome ↔ IsStrict cs := by
  constructor
  · intro h
    obtain ⟨bytes, hbytes⟩ := Option.isSome_iff_exists.1 h
    exact isStrict_of_decode? hbytes
  · rintro ⟨digits, pads, rfl, hdigits, hform⟩
    exact isSome_decode?_append hdigits hform

end SessionCookies.Base64
