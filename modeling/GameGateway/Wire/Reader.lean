import GameGateway.Text.Utf8
import GameGateway.Uuid

/-!
# Readers

A reader takes a value off the front of a byte string and returns it together
with the rest; it fails on a byte string that does not start with such a value.
Readers compose by `do` notation, and `Reader.whole` runs one on a byte string
that must hold the value and nothing else.

The writers of the same shapes stand beside their readers: a blob or text behind
a four-byte length, most significant byte first.
-/

namespace GameGateway

/-- The largest length a four-byte length field can state. -/
def Bytes.maxSized : Nat := 0x7fffffff

/-- Takes a value off the front of a byte string. -/
abbrev Reader (α : Type) := StateT Bytes Option α

namespace Reader

variable {α β : Type}

/-- Runs the second reader on what the first one leaves. -/
theorem bind_eq_some_iff {first : Reader α} {next : α → Reader β} {bytes rest : Bytes} {b : β} :
    (first >>= next) bytes = some (b, rest) ↔
      ∃ a between, first bytes = some (a, between) ∧ next a between = some (b, rest) := by
  cases h : first bytes with
  | none => simp [bind, StateT.bind, h]
  | some result =>
      obtain ⟨a, between⟩ := result
      simp only [bind, StateT.bind, h, Option.bind_some, Option.some.injEq, Prod.mk.injEq]
      exact ⟨fun hnext => ⟨a, between, ⟨rfl, rfl⟩, hnext⟩,
        fun ⟨_, _, ⟨ha, hbetween⟩, hnext⟩ => ha ▸ hbetween ▸ hnext⟩

/-- The value of a byte string that holds it and nothing else. -/
def whole (reader : Reader α) (bytes : Bytes) : Option α :=
  match reader bytes with
  | some (value, []) => some value
  | _ => none

theorem whole_eq_some_iff {reader : Reader α} {bytes : Bytes} {value : α} :
    reader.whole bytes = some value ↔ reader bytes = some (value, []) := by
  unfold whole
  split
  · simp_all
  · rename_i hother
    constructor
    · intro h; cases h
    · intro h; exact absurd h (by simpa using hother value)

/-- A reader that takes nothing and succeeds exactly under a condition. -/
def require (condition : Bool) : Reader Unit := fun bytes =>
  if condition then some ((), bytes) else none

/-- The value of an option, taking no bytes; fails on `none`. -/
def lift (value : Option α) : Reader α := fun bytes =>
  value.map fun a => (a, bytes)

/-- The first `n` bytes. -/
def take (n : Nat) : Reader Bytes := fun bytes =>
  if n ≤ bytes.length then some (bytes.take n, bytes.drop n) else none

/-- The first `n` bytes, as a block. -/
def block (n : Nat) : Reader (Block n) := fun bytes =>
  if h : n ≤ bytes.length then some (⟨bytes.take n, by simp [h]⟩, bytes.drop n) else none

/-- One byte. -/
def byte : Reader UInt8 := fun bytes =>
  match bytes with
  | [] => none
  | first :: rest => some (first, rest)

/-- Exactly the given bytes. -/
def exactly (expected : Bytes) : Reader Unit := do
  let bytes ← take expected.length
  require (bytes = expected)

/-- A 16-bit number, least significant byte first. -/
def uint16 : Reader UInt16 := do
  let bytes ← take 2
  return UInt16.ofNat (Bytes.ofLittleEndian bytes)

/-- A 32-bit number, least significant byte first. -/
def uint32 : Reader UInt32 := do
  let bytes ← take 4
  return UInt32.ofNat (Bytes.ofLittleEndian bytes)

/-- A signed 64-bit number, most significant byte first. -/
def int64 : Reader Int64 := do
  let bytes ← take 8
  return (UInt64.ofNat (Bytes.ofBigEndian bytes)).toInt64

/-- A four-byte length, most significant byte first.  The topmost bit is the sign
of the field, so it must be clear. -/
def length : Reader Nat := do
  let bytes ← take 4
  let n := Bytes.ofBigEndian bytes
  require (n ≤ Bytes.maxSized)
  return n

/-- A blob behind its four-byte length. -/
def sizedBytes : Reader Bytes := do
  let n ← length
  take n

/-- A text behind its four-byte length. -/
def sizedText : Reader String := do
  let bytes ← sizedBytes
  lift (Utf8.decode bytes)

/-- An identifier. -/
def uuid : Reader Uuid := do
  let octets ← block 16
  return ⟨octets⟩

end Reader

namespace Bytes

/-- A 16-bit number, least significant byte first. -/
def ofUInt16 (n : UInt16) : Bytes := littleEndian 2 n.toNat

/-- A 32-bit number, least significant byte first. -/
def ofUInt32 (n : UInt32) : Bytes := littleEndian 4 n.toNat

/-- A signed 64-bit number, most significant byte first. -/
def ofInt64 (n : Int64) : Bytes := bigEndian 8 n.toUInt64.toNat

/-- A blob behind its four-byte length. -/
def sized (bytes : Bytes) : Bytes := bigEndian 4 bytes.length ++ bytes

end Bytes

/-! ## What cannot be written

The causes for which a frame has no encoding. -/

/-- Why a frame cannot be written. -/
inductive WireError where
  /-- A text or blob is longer than its limit. -/
  | fieldTooLong (field : String) (length max : Nat)
  /-- A required identifier is blank. -/
  | blankField (field : String)
  /-- The frame as a whole is longer than its limit. -/
  | frameTooLarge (size max : Nat)
  /-- A channel id is empty or too long. -/
  | invalidChannel (length : Nat)
deriving DecidableEq

/-- The sentence shown to people. -/
def WireError.message : WireError → String
  | fieldTooLong field length max => s!"{field} is {length} bytes, limit is {max}"
  | blankField field => s!"{field} must not be blank"
  | frameTooLarge size max => s!"frame is {size} bytes, limit is {max}"
  | invalidChannel length => s!"invalid channel id length {length}"

end GameGateway
