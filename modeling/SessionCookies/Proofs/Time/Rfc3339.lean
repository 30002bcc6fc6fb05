import SessionCookies.Proofs.Time.Calendar
import SessionCookies.Time.Reader

/-!
# The written form of a timestamp is read back

A timestamp without an offset, or with one of whole minutes, is read back from its form of RFC 3339.
The date is read first, then the time of day with its fraction, then the offset. However a timestamp
is spelled, what is read has no offset or one of whole minutes (`hasWholeMinutes_of_ofText?`).
-/

namespace SessionCookies.Timestamp

open Digits

/-! ### Digits -/

lemma fixed_two (n : Nat) : fixed 2 n = [ofNat (n / 10), ofNat n] := rfl

lemma fixed_four (n : Nat) :
    fixed 4 n = [ofNat (n / 10 / 10 / 10), ofNat (n / 10 / 10), ofNat (n / 10), ofNat n] := rfl

lemma isDigit_ofNat (n : Nat) : (ofNat n).isDigit = true := by
  have h : ∀ k < 10, (Char.ofNat (k + 48)).isDigit = true := by decide
  exact h _ (Nat.mod_lt _ (by decide))

lemma isDigit_of_mem_fixed {width n : Nat} {c : Char} (hc : c ∈ fixed width n) :
    c.isDigit = true := by
  induction width generalizing n with
  | zero => cases hc
  | succ width ih =>
    rcases List.mem_append.1 hc with h | h
    · exact ih h
    · rw [List.mem_singleton.1 h]
      exact isDigit_ofNat n

lemma two?_ofNat {n : Nat} (hn : n < 100) : two? (ofNat (n / 10)) (ofNat n) = some n :=
  read?_fixed 2 n hn

/-! ### Dates and times -/

lemma readDate?_append {year month day : Nat} (hyear : year < 10000) (hmonth : month < 100)
    (hday : day < 100) (rest : List Char) :
    readDate? (fixed 4 year ++ '-' :: fixed 2 month ++ '-' :: fixed 2 day ++ rest) =
      some (⟨year, month, day, 0, 0, 0, 0⟩, rest) := by
  have hread := read?_fixed 4 year hyear
  rw [fixed_four] at hread
  simp only [fixed_four, fixed_two, List.cons_append, List.nil_append, readDate?, hread,
    two?_ofNat hmonth, two?_ofNat hday]
  rfl

/-- What stands after a time: no digit, point or comma. -/
def EndsTime (rest : List Char) : Prop :=
  ∀ c ∈ rest.head?, c.isDigit = false ∧ c ≠ '.' ∧ c ≠ ','

lemma readFraction?_nil {rest : List Char} (hrest : EndsTime rest) :
    readFraction? rest = some (0, rest) := by
  cases rest with
  | nil => rfl
  | cons c rest =>
    obtain ⟨-, hpoint, hcomma⟩ := hrest c rfl
    simp only [readFraction?, hpoint, hcomma, or_self, if_false]

lemma readFraction?_fixed {micro : Nat} (hmicro : micro < Civil.microsPerSecond) {rest : List Char}
    (hrest : EndsTime rest) :
    readFraction? ('.' :: fixed 6 micro ++ rest) = some (micro, rest) := by
  have hdigits : ∀ c ∈ fixed 6 micro, c.isDigit = true := fun c hc => isDigit_of_mem_fixed hc
  have hrest' : rest.takeWhile Char.isDigit = [] ∧ rest.dropWhile Char.isDigit = rest := by
    cases rest with
    | nil => exact ⟨rfl, rfl⟩
    | cons c rest =>
      obtain ⟨hc, -⟩ := hrest c rfl
      simp [hc]
  have htake : (fixed 6 micro ++ rest).takeWhile Char.isDigit = fixed 6 micro := by
    rw [List.takeWhile_append_of_pos hdigits, hrest'.1, List.append_nil]
  have hdrop : (fixed 6 micro ++ rest).dropWhile Char.isDigit = rest := by
    rw [List.dropWhile_append_of_pos hdigits, hrest'.2]
  have hmicros : fractionMicros (fixed 6 micro) = micro := by
    have hsix : (fixed 6 micro ++ List.replicate 6 '0').take 6 = fixed 6 micro := by
      rw [List.take_left' (length_fixed 6 micro)]
    rw [fractionMicros, hsix, read?_fixed 6 micro hmicro]
    rfl
  simp only [List.cons_append, readFraction?, true_or, if_true, htake, hdrop]
  split
  · next hnil =>
    have hlength := length_fixed 6 micro
    rw [hnil] at hlength
    cases hlength
  · rw [hmicros]

lemma readTime?_append (date : Civil) {hour minute second micro : Nat} (hhour : hour < 100)
    (hminute : minute < 100) (hsecond : second < 100) (hmicro : micro < Civil.microsPerSecond)
    {rest : List Char} (hrest : EndsTime rest) :
    readTime? date (fixed 2 hour ++ ':' :: fixed 2 minute ++ ':' :: fixed 2 second ++
      ((if micro = 0 then [] else '.' :: fixed 6 micro) ++ rest)) =
      some ({ date with hour, minute, second, micro }, rest) := by
  have hfraction : readFraction? ((if micro = 0 then [] else '.' :: fixed 6 micro) ++ rest) =
      some (micro, rest) := by
    split_ifs with hzero
    · rw [List.nil_append, readFraction?_nil hrest, hzero]
    · exact readFraction?_fixed hmicro hrest
  simp only [fixed_two, List.cons_append, List.nil_append, readTime?, two?_ofNat hhour,
    two?_ofNat hminute, two?_ofNat hsecond, hfraction]
  rfl

/-! ### Offsets -/

/-- The microseconds of a minute. -/
def microsPerMinute : Nat := 60 * Civil.microsPerSecond

/-- The offset, if there is one, is of whole minutes. -/
def HasWholeMinutes (t : Timestamp) : Prop :=
  ∀ micros ∈ t.offset, (microsPerMinute : Int) ∣ micros

/-- The offset as it stands in the form of RFC 3339. -/
def offsetChars : Option Int → List Char
  | none => []
  | some micros =>
    let seconds := Int.fdiv micros Civil.microsPerSecond
    if seconds = 0 then ['Z'] else writeOffset (seconds < 0) seconds.natAbs

lemma rfc3339_eq (t : Timestamp) : t.rfc3339 = writeWall t.wall ++ offsetChars t.offset := by
  rw [rfc3339]
  cases t.offset <;> rfl

lemma offsetMicros?_some (negative : Bool) (hours : Nat) {minutes : Nat} (hminutes : minutes < 60) :
    offsetMicros? negative (some hours) (some minutes) =
      some (if negative then -((hours * 60 + minutes) * microsPerMinute : Int)
        else (hours * 60 + minutes) * microsPerMinute) := by
  have hmicros : Int.ofNat ((hours * 3600 + minutes * 60) * Civil.microsPerSecond) =
      (hours * 60 + minutes) * microsPerMinute := by
    simp only [microsPerMinute, Civil.microsPerSecond, Int.ofNat_eq_natCast]
    push_cast
    ring
  simp only [offsetMicros?, Option.bind_eq_bind, Option.bind_some, if_pos hminutes, hmicros]
  rfl

lemma readOffset?_writeOffset (negative : Bool) {seconds : Nat} (hseconds : seconds < 86400) :
    readOffset? (writeOffset negative seconds) =
      some (some (if negative then -((seconds / 60 : Nat) * microsPerMinute : Int)
        else (seconds / 60 : Nat) * microsPerMinute)) := by
  have hhours : seconds / 3600 < 100 := by omega
  have hminutes : seconds / 60 % 60 < 60 := Nat.mod_lt _ (by decide)
  have hsign : negativeSign? (if negative then '-' else '+') = some negative := by
    cases negative <;> rfl
  have hsum : ((seconds / 3600 : Nat) * 60 + (seconds / 60 % 60 : Nat) : Int) =
      (seconds / 60 : Nat) := by omega
  simp only [writeOffset, fixed_two, List.cons_append, List.nil_append, readOffset?, hsign]
  rw [two?_ofNat hhours, two?_ofNat (by omega)]
  simp only [Option.bind_eq_bind, Option.bind_some, offsetMicros?_some negative _ hminutes, hsum]
  rfl

lemma readOffset?_offsetChars {t : Timestamp} (ht : t.HasWholeMinutes) :
    readOffset? (offsetChars t.offset) = some t.offset := by
  rcases hoffset : t.offset with _ | micros
  · rfl
  obtain ⟨minutes, rfl⟩ := ht micros hoffset
  have hlt := t.offset_lt _ hoffset
  have hseconds : Int.fdiv (microsPerMinute * minutes) Civil.microsPerSecond = minutes * 60 := by
    rw [microsPerMinute, Int.fdiv_eq_ediv_of_nonneg _ (by decide)]
    simp only [Civil.microsPerSecond]
    omega
  have habs : (minutes * 60).natAbs < 86400 := by
    simp only [microsPerMinute, Civil.microsPerDay, Civil.microsPerSecond] at hlt
    omega
  have hminutes : (((minutes * 60).natAbs / 60 : Nat) : Int) = |minutes| := by
    rw [Int.abs_eq_natAbs]
    omega
  simp only [offsetChars, hseconds]
  by_cases hzero : minutes = 0
  · subst hzero
    rfl
  · rw [if_neg (by omega), readOffset?_writeOffset _ habs, hminutes]
    congr 2
    by_cases hneg : minutes < 0
    · rw [if_pos (by rw [decide_eq_true_eq]; omega), abs_of_neg hneg]
      ring
    · rw [if_neg (by rw [decide_eq_true_eq]; omega), abs_of_nonneg (by omega)]
      ring

lemma endsTime_offsetChars (offset : Option Int) : EndsTime (offsetChars offset) := by
  intro c hc
  cases offset with
  | none => cases hc
  | some micros =>
    simp only [offsetChars] at hc
    split_ifs at hc with hzero
    · cases hc
      decide
    · cases hnegative : decide (Int.fdiv micros Civil.microsPerSecond < 0) <;>
        simp only [writeOffset, hnegative] at hc <;> cases hc <;> decide

/-! ### Timestamps -/

/-- A date and a time of day as they stand in the form of RFC 3339. -/
def civilChars (c : Civil) : List Char :=
  (fixed 4 c.year ++ '-' :: fixed 2 c.month ++ '-' :: fixed 2 c.day) ++
    'T' :: (fixed 2 c.hour ++ ':' :: fixed 2 c.minute ++ ':' :: fixed 2 c.second ++
      if c.micro = 0 then [] else '.' :: fixed 6 c.micro)

lemma writeWall_eq (wall : Nat) : writeWall wall = civilChars (Civil.ofWall wall) := by
  simp [writeWall, civilChars]

lemma day_lt_of_isValid {c : Civil} (hc : c.isValid = true) : c.day < 100 := by
  obtain ⟨-, -, -, -, -, hday, -⟩ := (Civil.isValid_iff c).1 hc
  have hlengths : ∀ leap, ∀ length ∈ Civil.monthLengths leap, length < 100 := by decide
  refine lt_of_le_of_lt hday ?_
  rw [List.getD_eq_getElem?_getD]
  rcases hget : (Civil.monthLengths (Civil.isLeap c.year))[c.month - 1]? with _ | length
  · decide
  · exact hlengths _ _ (List.mem_of_getElem? hget)

lemma ofDateTime?_append {c : Civil} (hc : c.isValid = true) {rest : List Char}
    (hrest : EndsTime rest) {offset : Option Int} (hoffset : readOffset? rest = some offset) :
    ofDateTime? (civilChars c ++ rest) = ofCivil? c offset := by
  obtain ⟨-, hyear, -, hmonth, -, -, hhour, hminute, hsecond, hmicro⟩ := (Civil.isValid_iff c).1 hc
  have hdate := readDate?_append (show c.year < 10000 by omega) (show c.month < 100 by omega)
    (day_lt_of_isValid hc)
  have htime := readTime?_append ⟨c.year, c.month, c.day, 0, 0, 0, 0⟩ (show c.hour < 100 by omega)
    (show c.minute < 100 by omega) (show c.second < 100 by omega) hmicro hrest
  rw [civilChars, List.append_assoc, ofDateTime?, hdate]
  simp only [Option.bind_eq_bind, Option.bind_some, List.cons_append, isSeparator, decide_true,
    Bool.true_or, if_true]
  rw [List.append_assoc, htime]
  simp only [Option.bind_some, hoffset]

/-- A timestamp is read back from its form of RFC 3339. -/
theorem ofText?_rfc3339 {t : Timestamp} (ht : t.HasWholeMinutes) : ofText? t.rfc3339 = some t := by
  have hvalid := Civil.isValid_ofWall t.wall_lt
  have hwall : ofWall? t.wall t.offset = some t := by
    obtain ⟨wall, offset, hlt, hoffset⟩ := t
    cases offset with
    | none => simp [ofWall?, hlt]
    | some micros => simpa [ofWall?, hlt] using hoffset micros rfl
  have hread : ofDateTime? t.rfc3339 = some t := by
    rw [rfc3339_eq, writeWall_eq, ofDateTime?_append hvalid (endsTime_offsetChars t.offset)
      (readOffset?_offsetChars ht), ofCivil?, if_pos hvalid, Civil.toWall_ofWall, hwall]
  rw [ofText?, hread]
  rfl

/-! ### Offsets of timestamps that are read -/

lemma offset_of_ofWall? {wall : Int} {offset : Option Int} {t : Timestamp}
    (h : ofWall? wall offset = some t) : t.offset = offset := by
  rw [ofWall?] at h
  split_ifs at h
  cases offset with
  | none =>
    cases h
    rfl
  | some micros =>
    simp only at h
    split_ifs at h
    cases h
    rfl

lemma hasWholeMinutes_of_utc {t : Timestamp} (h : t.offset = some 0) : t.HasWholeMinutes := by
  intro micros hmicros
  cases h.symm.trans hmicros
  exact dvd_zero _

lemma dvd_of_offsetMicros? {negative : Bool} {hours minutes : Option Nat} {micros : Int}
    (h : offsetMicros? negative hours minutes = some micros) :
    (microsPerMinute : Int) ∣ micros := by
  rcases hours with _ | hours
  · cases h
  rcases minutes with _ | minutes
  · cases h
  by_cases hminutes : minutes < 60
  · rw [offsetMicros?_some negative hours hminutes] at h
    cases h
    split_ifs
    · exact (dvd_mul_left _ _).neg_right
    · exact dvd_mul_left _ _
  · simp [offsetMicros?, hminutes] at h

/-- An offset is given in hours and minutes. -/
lemma dvd_of_readOffset? {cs : List Char} {offset : Option Int} (h : readOffset? cs = some offset) :
    ∀ micros ∈ offset, (microsPerMinute : Int) ∣ micros := by
  rintro micros rfl
  have hsigned {sign : Option Bool} {hours minutes : Option Nat}
      (h : (do
        let negative ← sign
        let micros ← offsetMicros? negative hours minutes
        return some micros) = some (some micros)) : (microsPerMinute : Int) ∣ micros := by
    obtain ⟨negative, -, h⟩ := Option.bind_eq_some_iff.1 h
    obtain ⟨micros', hmicros, h⟩ := Option.bind_eq_some_iff.1 h
    cases h
    exact dvd_of_offsetMicros? hmicros
  rw [readOffset?.eq_def] at h
  split at h
  · cases h
  · split_ifs at h
    cases h
    exact dvd_zero _
  · exact hsigned h
  · exact hsigned h
  · cases h

lemma hasWholeMinutes_of_ofCivil? {c : Civil} {offset : Option Int} {t : Timestamp}
    (h : ofCivil? c offset = some t)
    (hoffset : ∀ micros ∈ offset, (microsPerMinute : Int) ∣ micros) : t.HasWholeMinutes := by
  rw [ofCivil?] at h
  split_ifs at h
  rw [HasWholeMinutes, offset_of_ofWall? h]
  exact hoffset

lemma hasWholeMinutes_of_ofDateTime? {cs : List Char} {t : Timestamp}
    (h : ofDateTime? cs = some t) : t.HasWholeMinutes := by
  rw [ofDateTime?] at h
  obtain ⟨⟨date, rest⟩, -, h⟩ := Option.bind_eq_some_iff.1 h
  cases rest with
  | nil => cases h
  | cons c rest =>
    simp only at h
    split_ifs at h
    obtain ⟨⟨civil, rest⟩, -, h⟩ := Option.bind_eq_some_iff.1 h
    obtain ⟨offset, hoffset, h⟩ := Option.bind_eq_some_iff.1 h
    exact hasWholeMinutes_of_ofCivil? h (dvd_of_readOffset? hoffset)

lemma hasWholeMinutes_of_ofDate? {cs : List Char} {t : Timestamp} (h : ofDate? cs = some t) :
    t.HasWholeMinutes := by
  rw [ofDate?] at h
  obtain ⟨⟨date, rest⟩, -, h⟩ := Option.bind_eq_some_iff.1 h
  simp only at h
  split_ifs at h
  exact hasWholeMinutes_of_ofCivil? h nofun

lemma offset_of_ofNumber? {number : Int} {t : Timestamp} (h : ofNumber? number = some t) :
    t.offset = some 0 := offset_of_ofWall? h

lemma offset_of_ofSeconds? {seconds : Float} {t : Timestamp} (h : ofSeconds? seconds = some t) :
    t.offset = some 0 := by
  rw [ofSeconds?] at h
  split_ifs at h
  exact offset_of_ofWall? h

lemma offset_of_ofFloat? {x : Float} {t : Timestamp} (h : ofFloat? x = some t) :
    t.offset = some 0 := offset_of_ofSeconds? h

lemma offset_of_ofNumeral? {cs : List Char} {t : Timestamp} (h : ofNumeral? cs = some t) :
    t.offset = some 0 := by
  rw [ofNumeral?.eq_def] at h
  simp only at h
  split at h
  · obtain ⟨-, h⟩ := Option.ite_none_left_eq_some.1 h
    obtain ⟨n, -, h⟩ := Option.bind_eq_some_iff.1 h
    exact offset_of_ofNumber? h
  · obtain ⟨-, h⟩ := Option.ite_none_right_eq_some.1 h
    exact offset_of_ofFloat? h
  · cases h

/-- Whatever spells a timestamp, its offset is of whole minutes. -/
theorem hasWholeMinutes_of_ofText? {cs : List Char} {t : Timestamp} (h : ofText? cs = some t) :
    t.HasWholeMinutes := by
  rw [ofText?, Option.orElse_eq_some, Option.orElse_eq_some] at h
  obtain h | ⟨-, h | ⟨-, h⟩⟩ := h
  · exact hasWholeMinutes_of_ofDateTime? h
  · exact hasWholeMinutes_of_utc (offset_of_ofNumeral? h)
  · exact hasWholeMinutes_of_ofDate? h

lemma hasWholeMinutes_of_ofJson? {v : Json} {t : Timestamp} (h : ofJson? v = some t) :
    t.HasWholeMinutes := by
  cases v with
  | string units =>
    obtain ⟨cs, -, h⟩ := Option.bind_eq_some_iff.1 h
    exact hasWholeMinutes_of_ofText? h
  | int n => exact hasWholeMinutes_of_utc (offset_of_ofNumber? h)
  | float x => exact hasWholeMinutes_of_utc (offset_of_ofFloat? h)
  | _ => cases h

end SessionCookies.Timestamp
