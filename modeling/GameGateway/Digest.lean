import GameGateway.Bytes

/-!
# Digests and their uses

SHA-256 stands behind three things that the gateway needs: the fingerprint of a
certificate, the tag by which a message is known to come from someone with the secret, and
values that nobody else can foresee.
-/

namespace GameGateway

/-! ## SHA-256

The digest of a byte string.  The message is padded to whole blocks of 64 bytes;
each block is stretched to 64 words, which 64 rounds mix into the eight words of
the state.  All arithmetic is on 32-bit words and wraps. -/

namespace Sha256

/-- The first 32 bits of the fractional parts of the cube roots of the first 64 primes. -/
def roundConstants : List UInt32 :=
  [ 0x428a2f98, 0x71374491, 0xb5c0fbcf, 0xe9b5dba5, 0x3956c25b, 0x59f111f1,
    0x923f82a4, 0xab1c5ed5, 0xd807aa98, 0x12835b01, 0x243185be, 0x550c7dc3,
    0x72be5d74, 0x80deb1fe, 0x9bdc06a7, 0xc19bf174, 0xe49b69c1, 0xefbe4786,
    0x0fc19dc6, 0x240ca1cc, 0x2de92c6f, 0x4a7484aa, 0x5cb0a9dc, 0x76f988da,
    0x983e5152, 0xa831c66d, 0xb00327c8, 0xbf597fc7, 0xc6e00bf3, 0xd5a79147,
    0x06ca6351, 0x14292967, 0x27b70a85, 0x2e1b2138, 0x4d2c6dfc, 0x53380d13,
    0x650a7354, 0x766a0abb, 0x81c2c92e, 0x92722c85, 0xa2bfe8a1, 0xa81a664b,
    0xc24b8b70, 0xc76c51a3, 0xd192e819, 0xd6990624, 0xf40e3585, 0x106aa070,
    0x19a4c116, 0x1e376c08, 0x2748774c, 0x34b0bcb5, 0x391c0cb3, 0x4ed8aa4a,
    0x5b9cca4f, 0x682e6ff3, 0x748f82ee, 0x78a5636f, 0x84c87814, 0x8cc70208,
    0x90befffa, 0xa4506ceb, 0xbef9a3f7, 0xc67178f2]

/-- The eight words that are carried from block to block. -/
structure State where
  a : UInt32
  b : UInt32
  c : UInt32
  d : UInt32
  e : UInt32
  f : UInt32
  g : UInt32
  h : UInt32
deriving DecidableEq

/-- The first 32 bits of the fractional parts of the square roots of the first eight primes. -/
def initial : State where
  a := 0x6a09e667
  b := 0xbb67ae85
  c := 0x3c6ef372
  d := 0xa54ff53a
  e := 0x510e527f
  f := 0x9b05688c
  g := 0x1f83d9ab
  h := 0x5be0cd19

/-- Rotation to the right, for amounts between 1 and 31. -/
def rotateRight (x : UInt32) (amount : UInt32) : UInt32 :=
  (x >>> amount) ||| (x <<< (32 - amount))

/-- The four bytes of a word, most significant first, as the word. -/
def wordOfBytes (bytes : Bytes) : UInt32 :=
  UInt32.ofNat (Bytes.ofBigEndian bytes)

/-- The words of a byte string, four bytes each; `count` of them. -/
def words : (count : Nat) → Bytes → List UInt32
  | 0, _ => []
  | count + 1, bytes => wordOfBytes (bytes.take 4) :: words count (bytes.drop 4)

/-- The word that follows the given ones in the schedule; they stand newest first. -/
def nextWord (newestFirst : List UInt32) : UInt32 :=
  let w2 := newestFirst.getD 1 0
  let w15 := newestFirst.getD 14 0
  let s0 := rotateRight w15 7 ^^^ rotateRight w15 18 ^^^ (w15 >>> 3)
  let s1 := rotateRight w2 17 ^^^ rotateRight w2 19 ^^^ (w2 >>> 10)
  newestFirst.getD 15 0 + s0 + newestFirst.getD 6 0 + s1

/-- Adds `count` words to a schedule that stands newest first. -/
def extend : (count : Nat) → List UInt32 → List UInt32
  | 0, newestFirst => newestFirst
  | count + 1, newestFirst => extend count (nextWord newestFirst :: newestFirst)

/-- The 64 words of a block. -/
def schedule (block : Bytes) : List UInt32 :=
  (extend 48 (words 16 block).reverse).reverse

/-- One round with its constant and its word. -/
def round (s : State) (constant word : UInt32) : State :=
  let s1 := rotateRight s.e 6 ^^^ rotateRight s.e 11 ^^^ rotateRight s.e 25
  let choice := (s.e &&& s.f) ^^^ (~~~s.e &&& s.g)
  let t1 := s.h + s1 + choice + constant + word
  let s0 := rotateRight s.a 2 ^^^ rotateRight s.a 13 ^^^ rotateRight s.a 22
  let majority := (s.a &&& s.b) ^^^ (s.a &&& s.c) ^^^ (s.b &&& s.c)
  ⟨t1 + (s0 + majority), s.a, s.b, s.c, s.d + t1, s.e, s.f, s.g⟩

/-- The state after one more block. -/
def compress (s : State) (block : Bytes) : State :=
  let t := (roundConstants.zip (schedule block)).foldl (fun t (k, w) => round t k w) s
  ⟨s.a + t.a, s.b + t.b, s.c + t.c, s.d + t.d, s.e + t.e, s.f + t.f, s.g + t.g, s.h + t.h⟩

/-- The state after the first `count` blocks of a message. -/
def blocks : (count : Nat) → State → Bytes → State
  | 0, s, _ => s
  | count + 1, s, bytes => blocks count (compress s (bytes.take 64)) (bytes.drop 64)

/-- What follows a message of the given length: one set bit, zeros up to the last
eight bytes of a block, and the length in bits. -/
def padding (length : Nat) : Bytes :=
  0x80 :: (List.replicate ((119 - length % 64) % 64) 0 ++ Bytes.bigEndian 8 (8 * length))

/-- The bytes of a state. -/
def State.bytes (s : State) : Bytes :=
  [s.a, s.b, s.c, s.d, s.e, s.f, s.g, s.h].flatMap fun word => Bytes.bigEndian 4 word.toNat

/-- The digest of a message. -/
def digest (message : Bytes) : Block 32 where
  bytes :=
    let padded := message ++ padding message.length
    (blocks (padded.length / 64) initial padded).bytes
  length_eq := by simp [State.bytes]

end Sha256

/-! ## Message authentication

`Hmac.sign` is the keyed digest of a message.  A message may be given in parts;
only the bytes of the parts together count.  `verify` compares a tag with the
right one and never accepts the empty tag. -/

namespace Hmac

/-- The 64 bytes that stand for a secret: the secret with zeros behind it, or the
digest of a longer one. -/
def key (secret : Bytes) : Bytes :=
  let short := if secret.length ≤ 64 then secret else (Sha256.digest secret).bytes
  short ++ List.replicate (64 - short.length) 0

/-- The tag of a message under a secret. -/
def sign (secret message : Bytes) : Block 32 :=
  let k := key secret
  let inner := Sha256.digest (k.map (· ^^^ 0x36) ++ message)
  Sha256.digest (k.map (· ^^^ 0x5c) ++ inner.bytes)

/-- Do two byte strings hold the same bytes? -/
def equal (a b : Bytes) : Bool := a = b

/-- Is `expected` the tag of the message under the secret? -/
def verify (secret message expected : Bytes) : Bool :=
  !expected.isEmpty && equal (sign secret message).bytes expected

theorem verify_eq_true_iff {secret message expected : Bytes} :
    verify secret message expected = true ↔ expected = (sign secret message).bytes := by
  have hlength := (sign secret message).length_eq
  simp only [verify, equal, Bool.and_eq_true, Bool.not_eq_true', decide_eq_true_eq]
  constructor
  · exact fun h => h.2.symm
  · rintro rfl
    refine ⟨?_, rfl⟩
    cases hbytes : (sign secret message).bytes with
    | nil => simp [hbytes] at hlength
    | cons => rfl

end Hmac

/-! ## Fresh values

Nonces and identifiers have to differ from all earlier ones and to be hard to
guess by the other side of a wire.  Here they are drawn from the digests of a
counter, so that a run can be repeated. -/

/-- The values drawn so far, latest first. -/
structure Draws where
  drawn : List (Block 16) := []
deriving DecidableEq

/-- The `n`-th value. -/
def Draws.value (n : Nat) : Block 16 where
  bytes := (Sha256.digest (Bytes.bigEndian 8 n)).bytes.take 16
  length_eq := by simp [(Sha256.digest (Bytes.bigEndian 8 n)).length_eq]

/-- The next value and what is left to draw. -/
def Draws.next (draws : Draws) : Block 16 × Draws :=
  let fresh := value draws.drawn.length
  (fresh, ⟨fresh :: draws.drawn⟩)

end GameGateway
