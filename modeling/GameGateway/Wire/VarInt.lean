import GameGateway.Wire.Reader

/-!
# Variable-length numbers

A 32-bit number is written in groups of seven bits, least significant group
first; every byte but the last has its topmost bit set.  Five bytes are the most,
and of the fifth only the low four bits fit.  The writer gives the fewest bytes,
while the reader also takes spellings with leading zero groups.

`blob` and `text` are byte strings and texts behind such a number.
-/

namespace GameGateway.VarInt

/-- The groups of `n`, at most `more + 1` of them; the last one takes what is left. -/
def groups : (more : Nat) → (n : Nat) → Bytes
  | 0, n => [UInt8.ofNat n]
  | more + 1, n =>
      if n < 128 then [UInt8.ofNat n]
      else UInt8.ofNat (n % 128 + 128) :: groups more (n / 128)

/-- The shortest spelling of a number. -/
def write (n : UInt32) : Bytes := groups 4 n.toNat

/-- How many bytes the shortest spelling takes. -/
def size (n : UInt32) : Nat :=
  if n < 0x80 then 1
  else if n < 0x4000 then 2
  else if n < 0x200000 then 3
  else if n < 0x10000000 then 4
  else 5

/-- The number at the front of a byte string and the rest, when `more` groups may
follow the first one.  A group that none may follow holds four bits. -/
def scan : (more : Nat) → Bytes → Option (Nat × Bytes)
  | _, [] => none
  -- Four groups of seven bits leave four of the thirty-two.
  | 0, byte :: rest => if byte < 16 then some (byte.toNat, rest) else none
  | more + 1, byte :: rest =>
      if byte < 128 then some (byte.toNat, rest)
      else (scan more rest).map fun (n, rest) => (byte.toNat - 128 + 128 * n, rest)

/-- Takes a number off the front. -/
def read : Reader UInt32 := fun bytes =>
  (scan 4 bytes).map fun (n, rest) => (UInt32.ofNat n, rest)

/-- The number at the front, leaving the bytes alone. -/
def peek (bytes : Bytes) : Option UInt32 :=
  (read bytes).map Prod.fst

/-- How many bytes the number at the front takes. -/
def length (bytes : Bytes) : Option Nat :=
  (read bytes).map fun (_, rest) => bytes.length - rest.length

/-- A blob behind its length, refused when that exceeds `max`. -/
def blob (max : Nat) : Reader Bytes := do
  let n ← read
  Reader.require (n.toNat ≤ max)
  Reader.take n.toNat

/-- A text behind its length in bytes, refused when that exceeds `max`. -/
def text (max : Nat) : Reader String := do
  let bytes ← blob max
  Reader.lift (Utf8.decode bytes)

/-- A blob behind its length. -/
def writeBlob (bytes : Bytes) : Bytes := write (UInt32.ofNat bytes.length) ++ bytes

/-- A text behind its length in bytes. -/
def writeText (text : String) : Bytes := writeBlob (Utf8.encode text)

end GameGateway.VarInt
