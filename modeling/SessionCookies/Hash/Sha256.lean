/-!
# SHA-256

The hash function of FIPS 180-4 over lists of bytes. A digest always has 32 bytes.
-/

namespace SessionCookies.Sha256

/-! ### Words -/

/-- Sixty-four words: the first 32 bits of the fractional parts of the cube roots of the first
primes. -/
def roundConstants : List UInt32 := [
  0x428a2f98, 0x71374491, 0xb5c0fbcf, 0xe9b5dba5, 0x3956c25b, 0x59f111f1, 0x923f82a4, 0xab1c5ed5,
  0xd807aa98, 0x12835b01, 0x243185be, 0x550c7dc3, 0x72be5d74, 0x80deb1fe, 0x9bdc06a7, 0xc19bf174,
  0xe49b69c1, 0xefbe4786, 0x0fc19dc6, 0x240ca1cc, 0x2de92c6f, 0x4a7484aa, 0x5cb0a9dc, 0x76f988da,
  0x983e5152, 0xa831c66d, 0xb00327c8, 0xbf597fc7, 0xc6e00bf3, 0xd5a79147, 0x06ca6351, 0x14292967,
  0x27b70a85, 0x2e1b2138, 0x4d2c6dfc, 0x53380d13, 0x650a7354, 0x766a0abb, 0x81c2c92e, 0x92722c85,
  0xa2bfe8a1, 0xa81a664b, 0xc24b8b70, 0xc76c51a3, 0xd192e819, 0xd6990624, 0xf40e3585, 0x106aa070,
  0x19a4c116, 0x1e376c08, 0x2748774c, 0x34b0bcb5, 0x391c0cb3, 0x4ed8aa4a, 0x5b9cca4f, 0x682e6ff3,
  0x748f82ee, 0x78a5636f, 0x84c87814, 0x8cc70208, 0x90befffa, 0xa4506ceb, 0xbef9a3f7, 0xc67178f2]

/-- Rotation of a word to the right by `n` places, for `n` from 1 to 31. -/
def rotateRight (x : UInt32) (n : UInt32) : UInt32 := (x >>> n) ||| (x <<< (32 - n))

/-- The four bytes of a word, the most significant first. -/
def bytesOfWord (w : UInt32) : List UInt8 :=
  [(w >>> 24).toUInt8, (w >>> 16).toUInt8, (w >>> 8).toUInt8, w.toUInt8]

/-- The words that bytes spell, four bytes each; bytes left over at the end are dropped. -/
def wordsOfBytes : List UInt8 → List UInt32
  | a :: b :: c :: d :: rest =>
    (a.toUInt32 <<< 24 ||| b.toUInt32 <<< 16 ||| c.toUInt32 <<< 8 ||| d.toUInt32)
      :: wordsOfBytes rest
  | _ => []

/-! ### Compression -/

/-- The eight words that are carried from block to block. -/
structure Chain where
  (a b c d e f g h : UInt32)

/-- The first 32 bits of the fractional parts of the square roots of the first eight primes. -/
def Chain.start : Chain :=
  ⟨0x6a09e667, 0xbb67ae85, 0x3c6ef372, 0xa54ff53a, 0x510e527f, 0x9b05688c, 0x1f83d9ab, 0x5be0cd19⟩

/-- One round, with the sum of its round constant and its schedule word. -/
def Chain.round (s : Chain) (word : UInt32) : Chain :=
  let choice := (s.e &&& s.f) ^^^ (~~~s.e &&& s.g)
  let majority := (s.a &&& s.b) ^^^ (s.a &&& s.c) ^^^ (s.b &&& s.c)
  let high := rotateRight s.a 2 ^^^ rotateRight s.a 13 ^^^ rotateRight s.a 22
  let low := rotateRight s.e 6 ^^^ rotateRight s.e 11 ^^^ rotateRight s.e 25
  let t := s.h + low + choice + word
  ⟨t + high + majority, s.a, s.b, s.c, s.d + t, s.e, s.f, s.g⟩

def Chain.add (s t : Chain) : Chain :=
  ⟨s.a + t.a, s.b + t.b, s.c + t.c, s.d + t.d, s.e + t.e, s.f + t.f, s.g + t.g, s.h + t.h⟩

def Chain.bytes (s : Chain) : List UInt8 :=
  bytesOfWord s.a ++ bytesOfWord s.b ++ bytesOfWord s.c ++ bytesOfWord s.d ++
    bytesOfWord s.e ++ bytesOfWord s.f ++ bytesOfWord s.g ++ bytesOfWord s.h

@[simp] theorem Chain.length_bytes (s : Chain) : s.bytes.length = 32 := rfl

/-- Extends a schedule, the latest word first, by `n` words of the recurrence. -/
def extend : Nat → List UInt32 → List UInt32
  | 0, latest => latest
  | n + 1, latest =>
    let w2 := latest.getD 1 0
    let w15 := latest.getD 14 0
    let s0 := rotateRight w15 7 ^^^ rotateRight w15 18 ^^^ (w15 >>> 3)
    let s1 := rotateRight w2 17 ^^^ rotateRight w2 19 ^^^ (w2 >>> 10)
    extend n ((s1 + latest.getD 6 0 + s0 + latest.getD 15 0) :: latest)

/-- The sixty-four schedule words of a block of sixteen words. -/
def schedule (block : List UInt32) : List UInt32 := (extend 48 block.reverse).reverse

/-- Sixty-four rounds over the schedule, added to the chain they began with. -/
def compress (s : Chain) (block : List UInt32) : Chain :=
  s.add ((List.zipWith (· + ·) roundConstants (schedule block)).foldl Chain.round s)

/-- Compresses words sixteen at a time. -/
def absorb (s : Chain) (words : List UInt32) : Chain :=
  match words with
  | [] => s
  | w :: rest => absorb (compress s ((w :: rest).take 16)) (rest.drop 15)
termination_by words.length
decreasing_by simp only [List.length_drop, List.length_cons]; omega

/-! ### Messages -/

/-- The byte of a number that so many less significant ones follow. -/
def byteAt (n place : Nat) : UInt8 := UInt8.ofNat (n.shiftRight (8 * place))

/-- A one bit, zeros up to eight bytes short of a whole block of 64, and the length in bits. -/
def padding (length : Nat) : List UInt8 :=
  0x80 :: List.replicate ((119 - length % 64) % 64) 0 ++
    (List.range 8).reverse.map (byteAt (length * 8))

/-- The SHA-256 digest of a message. -/
def digest (message : List UInt8) : List UInt8 :=
  (absorb .start (wordsOfBytes (message ++ padding message.length))).bytes

@[simp] theorem length_digest (message : List UInt8) : (digest message).length = 32 :=
  Chain.length_bytes _

end SessionCookies.Sha256
