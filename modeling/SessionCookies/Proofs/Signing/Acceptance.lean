import SessionCookies.Proofs.Text.Base64
import SessionCookies.Signing.Cookie

/-!
# Which signed values are accepted

A set of keys accepts a text exactly if the text begins with the digest of the rest under one of the
keys, spelled in one of four ways (`verify_acceptance`). A text that is too short or does not
begin with strict base64 is told apart from one whose digest is wrong, and no key has a say in that.
-/

namespace SessionCookies

namespace Key

@[simp] lemma length_digest (key : Key) (value : String) : (key.digest value).length = 32 :=
  Hmac.length_digest _ _

@[simp] lemma toList_sign (key : Key) (value : String) :
    (key.sign value).toList = Base64.encode (key.digest value) ++ value.toList := by
  rw [sign, String.toList_append, Base64.text, String.toList_ofList]

end Key

namespace KeySet

/-- Whether a text is refused for its form, whatever the keys may be. -/
def FindsMalformed (keys : KeySet) (signed : String) : Prop :=
  keys.verify signed = .error .digestMissing ∨ keys.verify signed = .error .digestNotBase64

lemma verify_of_short {signed : String} (keys : KeySet) (h : signed.toList.length < digestWidth) :
    keys.verify signed = .error .digestMissing := by
  rw [verify, if_pos h]

lemma verify_of_none {signed : String} (keys : KeySet) (h : digestWidth ≤ signed.toList.length)
    (hdigest : Base64.decode? (signed.toList.take digestWidth) = none) :
    keys.verify signed = .error .digestNotBase64 := by
  rw [verify, if_neg (Nat.not_lt.2 h), hdigest]

lemma verify_of_some {signed : String} {digest : List UInt8} (keys : KeySet)
    (h : digestWidth ≤ signed.toList.length)
    (hdigest : Base64.decode? (signed.toList.take digestWidth) = some digest) :
    keys.verify signed =
      if ∃ key ∈ keys.toList, key.digest (String.ofList (signed.toList.drop digestWidth)) = digest
      then .ok (String.ofList (signed.toList.drop digestWidth)) else .error .signatureMismatch := by
  rw [verify, if_neg (Nat.not_lt.2 h), hdigest]
  simp only [List.any_eq_true, decide_eq_true_eq]

/-- Every text is refused for its form, accepted, or refused for its digest. -/
lemma verify_cases (keys : KeySet) (signed : String) :
    (signed.toList.length < digestWidth ∧ keys.verify signed = .error .digestMissing) ∨
    (digestWidth ≤ signed.toList.length ∧
      Base64.decode? (signed.toList.take digestWidth) = none ∧
      keys.verify signed = .error .digestNotBase64) ∨
    ∃ digest, digestWidth ≤ signed.toList.length ∧
      Base64.decode? (signed.toList.take digestWidth) = some digest ∧
      ((∃ key ∈ keys.toList,
          key.digest (String.ofList (signed.toList.drop digestWidth)) = digest) ∧
        keys.verify signed = .ok (String.ofList (signed.toList.drop digestWidth)) ∨
      (¬ ∃ key ∈ keys.toList,
          key.digest (String.ofList (signed.toList.drop digestWidth)) = digest) ∧
        keys.verify signed = .error .signatureMismatch) := by
  rcases Nat.lt_or_ge signed.toList.length digestWidth with hshort | hlong
  · exact .inl ⟨hshort, verify_of_short keys hshort⟩
  · cases hdigest : Base64.decode? (signed.toList.take digestWidth) with
    | none => exact .inr (.inl ⟨hlong, rfl, verify_of_none keys hlong hdigest⟩)
    | some digest =>
      refine .inr (.inr ⟨digest, hlong, rfl, ?_⟩)
      rw [verify_of_some keys hlong hdigest]
      split_ifs with hkey
      · exact .inl ⟨hkey, rfl⟩
      · exact .inr ⟨hkey, rfl⟩

lemma verify_eq_ok_iff {keys : KeySet} {signed value : String} :
    keys.verify signed = .ok value ↔
      digestWidth ≤ signed.toList.length ∧ value.toList = signed.toList.drop digestWidth ∧
        ∃ key ∈ keys.toList,
          Base64.decode? (signed.toList.take digestWidth) = some (key.digest value) := by
  constructor
  · intro h
    obtain ⟨-, hv⟩ | ⟨-, -, hv⟩ | ⟨digest, hlong, hdigest, ⟨hkey, hv⟩ | ⟨-, hv⟩⟩ :=
      verify_cases keys signed
    · cases h.symm.trans hv
    · cases h.symm.trans hv
    · obtain rfl : value = _ := Except.ok.inj (h.symm.trans hv)
      obtain ⟨key, hmem, rfl⟩ := hkey
      exact ⟨hlong, String.toList_ofList, key, hmem, hdigest⟩
    · cases h.symm.trans hv
  · rintro ⟨hlong, hvalue, key, hmem, hdigest⟩
    have hvalue : String.ofList (signed.toList.drop digestWidth) = value := by
      rw [← hvalue, String.ofList_toList]
    rw [verify_of_some keys hlong hdigest, hvalue, if_pos ⟨key, hmem, rfl⟩]

theorem findsMalformed_iff {keys : KeySet} {signed : String} :
    keys.FindsMalformed signed ↔
      signed.toList.length < digestWidth ∨
        ¬ Base64.IsStrict (signed.toList.take digestWidth) := by
  rw [FindsMalformed, ← Base64.isSome_decode?_iff, Bool.not_eq_true, Option.isSome_eq_false_iff,
    Option.isNone_iff_eq_none]
  obtain ⟨hshort, hv⟩ | ⟨-, hdigest, hv⟩ | ⟨digest, hlong, hdigest, ⟨-, hv⟩ | ⟨-, hv⟩⟩ :=
    verify_cases keys signed
  · simp [hshort, hv]
  · simp [hdigest, hv]
  · simp [Nat.not_lt.2 hlong, hdigest, hv]
  · simp [Nat.not_lt.2 hlong, hdigest, hv]

lemma verify_sign {keys : KeySet} {key : Key} (hkey : key ∈ keys.toList) (value : String) :
    keys.verify (key.sign value) = .ok value := by
  have hwidth := key.length_encode_digest value
  rw [verify_eq_ok_iff, Key.toList_sign]
  refine ⟨?_, ?_, key, hkey, ?_⟩
  · rw [List.length_append, hwidth]
    omega
  · rw [List.drop_left' hwidth]
  · rw [List.take_left' hwidth, Base64.decode?_encode]

/-- The texts that a set of keys accepts, each with the value it carries, and the two ways in which
it refuses all others. -/
theorem verify_acceptance (keys : KeySet) (signed : String) :
    (∀ value, keys.verify signed = .ok value ↔
      digestWidth ≤ signed.length ∧ value.toList = signed.toList.drop digestWidth ∧
        ∃ key ∈ keys.toList, Base64.SameButUnused (signed.toList.take digestWidth)
          (Base64.encode (key.digest value))) ∧
    (∀ (key : Key) (value : String),
      {start | Base64.SameButUnused start (Base64.encode (key.digest value))}.ncard = 4 ∧
        ∃ start, Base64.SameButUnused start (Base64.encode (key.digest value)) ∧
          (key.sign value).toList = start ++ value.toList) ∧
    (∀ key ∈ keys.toList, ∀ value, keys.verify (key.sign value) = .ok value) ∧
    (keys.FindsMalformed signed ↔
      signed.length < digestWidth ∨ ¬ Base64.IsStrict (signed.toList.take digestWidth)) ∧
    (keys.verify signed = .error .signatureMismatch ↔
      ¬ keys.FindsMalformed signed ∧ ∀ value, keys.verify signed ≠ .ok value) ∧
    ∀ other : KeySet, keys.FindsMalformed signed ↔ other.FindsMalformed signed := by
  have hthird (key : Key) (value : String) : (key.digest value).length % 3 = 2 := by
    rw [Key.length_digest]
  refine ⟨?_, ?_, ?_, ?_, ?_, ?_⟩
  · intro value
    rw [verify_eq_ok_iff, String.length_toList]
    simp only [Base64.decode?_eq_some_iff (hthird _ _)]
  · intro key value
    constructor
    · exact Base64.ncard_sameButUnused (hthird key value)
    · exact ⟨_, Base64.sameButUnused_encode (hthird key value), key.toList_sign value⟩
  · intro key hkey value
    exact verify_sign hkey value
  · rw [findsMalformed_iff, String.length_toList]
  · obtain ⟨-, hv⟩ | ⟨-, -, hv⟩ | ⟨digest, -, -, ⟨-, hv⟩ | ⟨-, hv⟩⟩ := verify_cases keys signed <;>
      simp [FindsMalformed, hv]
  · intro other
    rw [findsMalformed_iff, findsMalformed_iff]

end KeySet

end SessionCookies
