import SessionCookies.Fault

/-!
# Signing keys

A key is the beginning of a secret that is long enough. A set of keys has one that signs, and keys
that are only tried when a signature is verified: those that signed before, the latest first, and
after them any that were added.
-/

namespace SessionCookies

/-! ### One key -/

/-- The least number of bytes of a secret. -/
def secretLength : Nat := 64

/-- The number of bytes of a key. -/
def keyLength : Nat := 32

/-- A key for signing. -/
structure Key where
  bytes : List UInt8
  length_bytes : bytes.length = keyLength
  deriving DecidableEq

namespace Key

/-- The first bytes of a secret, which must be long enough. -/
def ofSecret? (secret : List UInt8) : Except Fault Key :=
  if h : secretLength ≤ secret.length then
    .ok ⟨secret.take keyLength, by
      simp only [secretLength, keyLength, List.length_take] at *
      omega⟩
  else .error (.secretTooShort secret.length)

/-- How a key is shown: its bytes stay hidden. -/
def description (_ : Key) : String := "SigningKey(..)"

end Key

/-! ### Sets of keys -/

/-- The key that signs, and keys that are tried after it when a signature is verified. -/
structure KeySet where
  primary : Key
  fallbacks : List Key
  deriving DecidableEq

namespace KeySet

/-- The set of a signing secret and further secrets, the first one too short being reported. -/
def ofSecrets? (primary : List UInt8) (fallbacks : List (List UInt8)) : Except Fault KeySet := do
  let primary ← Key.ofSecret? primary
  let fallbacks ← fallbacks.mapM Key.ofSecret?
  return ⟨primary, fallbacks⟩

/-- All keys, in the order in which they are tried. -/
def toList (keys : KeySet) : List Key := keys.primary :: keys.fallbacks

def size (keys : KeySet) : Nat := keys.toList.length

/-- Signs with a new key from now on; the key that signed before is tried next. -/
def rotate (keys : KeySet) (key : Key) : KeySet := ⟨key, keys.toList⟩

/-- Adds a key to be tried last. -/
def withFallback (keys : KeySet) (key : Key) : KeySet :=
  { keys with fallbacks := keys.fallbacks ++ [key] }

/-- How a set is shown: only the number of its further keys. -/
def description (keys : KeySet) : String :=
  s!"SigningKeySet(primary=.., fallbacks={keys.fallbacks.length})"

@[simp] theorem toList_rotate (keys : KeySet) (key : Key) :
    (keys.rotate key).toList = key :: keys.toList := rfl

@[simp] theorem toList_withFallback (keys : KeySet) (key : Key) :
    (keys.withFallback key).toList = keys.toList ++ [key] := rfl

end KeySet

end SessionCookies
