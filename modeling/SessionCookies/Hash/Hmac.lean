import SessionCookies.Hash.Sha256

/-!
# HMAC-SHA256

The keyed hash of RFC 2104 over SHA-256. A digest always has 32 bytes.
-/

namespace SessionCookies.Hmac

/-- The key as one block of 64 bytes: a longer key is hashed first, a shorter one is filled with
zeros. -/
def keyBlock (key : List UInt8) : List UInt8 :=
  let short := if key.length ≤ 64 then key else Sha256.digest key
  short ++ List.replicate (64 - short.length) 0

/-- The digest of a message under a key. -/
def digest (key message : List UInt8) : List UInt8 :=
  let inner := Sha256.digest ((keyBlock key).map (· ^^^ 0x36) ++ message)
  Sha256.digest ((keyBlock key).map (· ^^^ 0x5c) ++ inner)

@[simp] theorem length_digest (key message : List UInt8) : (digest key message).length = 32 :=
  Sha256.length_digest _

end SessionCookies.Hmac
