import Mathlib.Tactic
import SessionCookies.Text.Utf8

/-!
# Bytes of characters

The bytes of a text are those of its characters, one after another (`bytes_ofList`). No character
has bytes with which those of another begin (`encodeChar_append_inj`).
-/

namespace SessionCookies.Utf8

/-- The bytes of a text, character by character. -/
theorem bytes_ofList (cs : List Char) :
    bytes (String.ofList cs) = cs.flatMap String.utf8EncodeChar := by
  rw [bytes, String.toUTF8, String.toByteArray_ofList, List.utf8Encode]
  simp

lemma bytes_eq_flatMap (s : String) : bytes s = s.toList.flatMap String.utf8EncodeChar := by
  rw [← bytes_ofList, String.ofList_toList]

@[simp] lemma bytes_singleton (c : Char) :
    bytes (String.singleton c) = String.utf8EncodeChar c := by
  rw [bytes_eq_flatMap, String.toList_singleton, List.flatMap_singleton]

lemma length_encodeChar_pos (c : Char) : 0 < (String.utf8EncodeChar c).length := by
  rw [String.length_utf8EncodeChar]
  exact c.utf8Size_pos

lemma length_encodeChar_le (c : Char) : (String.utf8EncodeChar c).length ≤ 4 := by
  rw [String.length_utf8EncodeChar]
  exact c.utf8Size_le_four

lemma length_filter_le (p : Char → Bool) (cs : List Char) :
    ((cs.filter p).flatMap String.utf8EncodeChar).length ≤
      (cs.flatMap String.utf8EncodeChar).length := by
  induction cs with
  | nil => rfl
  | cons c rest ih =>
    rw [List.filter_cons]
    split_ifs <;> simp only [List.flatMap_cons, List.length_append] <;> omega

/-- A text whose bytes do not become fewer loses no character. -/
lemma forall_of_length_filter {p : Char → Bool} {cs : List Char}
    (h : (cs.flatMap String.utf8EncodeChar).length ≤
      ((cs.filter p).flatMap String.utf8EncodeChar).length) : ∀ c ∈ cs, p c = true := by
  induction cs with
  | nil => exact nofun
  | cons c rest ih =>
    have hpos := length_encodeChar_pos c
    have hle := length_filter_le p rest
    rw [List.filter_cons] at h
    split_ifs at h with hc
    · simp only [List.flatMap_cons, List.length_append] at h
      exact List.forall_mem_cons.2 ⟨hc, ih (by omega)⟩
    · rw [List.flatMap_cons, List.length_append] at h
      omega

/-- The bytes of a character tell where they end. -/
lemma encodeChar_append_inj {c d : Char} {xs ys : List UInt8}
    (h : String.utf8EncodeChar c ++ xs = String.utf8EncodeChar d ++ ys) : c = d := by
  have hdecode (a : Char) (rest : List UInt8) :
      (String.utf8EncodeChar a ++ rest).toByteArray.utf8DecodeChar? 0 = some a := by
    rw [List.toByteArray_append]
    exact ByteArray.utf8DecodeChar?_utf8EncodeChar_append
  have hfirst := hdecode c xs
  rw [h, hdecode] at hfirst
  exact (Option.some.inj hfirst).symm

end SessionCookies.Utf8
