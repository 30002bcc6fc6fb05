import SessionCookies.Hash.Hmac
import SessionCookies.Signing.Key
import SessionCookies.Text.Base64
import SessionCookies.Text.Utf8

/-!
# Signed values

A signed value is the base64 text of a digest followed by the value itself. A digest has 32 bytes,
so its text always has 44 characters and nothing need stand between the two.
-/

namespace SessionCookies

/-- The number of characters in front of a signed value. -/
def digestWidth : Nat := 44

namespace Key

/-- The digest of a text under a key. -/
def digest (key : Key) (value : String) : List UInt8 := Hmac.digest key.bytes (Utf8.bytes value)

/-- The value with its digest in front. -/
def sign (key : Key) (value : String) : String := Base64.text (key.digest value) ++ value

theorem length_encode_digest (key : Key) (value : String) :
    (Base64.encode (key.digest value)).length = digestWidth := by
  simp [digest, Base64.length_encode, digestWidth]

end Key

namespace KeySet

/-- The value that a signed text carries, if one of the keys gives its digest. -/
def verify (keys : KeySet) (signed : String) : Except Fault String :=
  let cs := signed.toList
  if cs.length < digestWidth then .error .digestMissing
  else
    match Base64.decode? (cs.take digestWidth) with
    | none => .error .digestNotBase64
    | some digest =>
      let value := String.ofList (cs.drop digestWidth)
      if keys.toList.any fun key => key.digest value = digest then .ok value
      else .error .signatureMismatch

end KeySet

end SessionCookies
