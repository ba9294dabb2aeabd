import GameGateway.Bytes

/-!
# Hexadecimal text

Two digits per byte, most significant digit first.  Digits are written in lower
case and read in either case; `decode_encode` says that what is written reads
back.
-/

namespace GameGateway.Hex

/-- The digit of a number below sixteen. -/
def digit (n : Nat) : Char :=
  if n < 10 then Char.ofNat (48 + n) else Char.ofNat (87 + n)

/-- The number a hexadecimal digit stands for. -/
def value? (c : Char) : Option Nat :=
  if '0' ≤ c ∧ c ≤ '9' then some (c.toNat - 48)
  else if 'a' ≤ c ∧ c ≤ 'f' then some (c.toNat - 87)
  else if 'A' ≤ c ∧ c ≤ 'F' then some (c.toNat - 55)
  else none

/-- The two digits of a byte. -/
def ofByte (byte : UInt8) : List Char :=
  [digit (byte.toNat / 16), digit (byte.toNat % 16)]

/-- The digits of a byte string. -/
def encode (bytes : Bytes) : List Char :=
  bytes.flatMap ofByte

/-- The byte string the digits stand for, or `none` if a character is no digit
or one digit is left over. -/
def decode : List Char → Option Bytes
  | [] => some []
  | [_] => none
  | high :: low :: rest => do
      let h ← value? high
      let l ← value? low
      let bytes ← decode rest
      some (UInt8.ofNat (16 * h + l) :: bytes)

theorem value?_digit {n : Nat} (h : n < 16) : value? (digit n) = some n := by
  have : ∀ n < 16, value? (digit n) = some n := by decide
  exact this n h

theorem decode_encode (bytes : Bytes) : decode (encode bytes) = some bytes := by
  induction bytes with
  | nil => rfl
  | cons byte rest ih =>
      have hbyte := byte.toNat_lt
      have hhigh : byte.toNat / 16 < 16 := by omega
      have hlow : byte.toNat % 16 < 16 := by omega
      have hsum : 16 * (byte.toNat / 16) + byte.toNat % 16 = byte.toNat := by omega
      have ih' : decode (rest.flatMap ofByte) = some rest := ih
      simp only [encode, ofByte, List.flatMap_cons, List.cons_append, List.nil_append, decode,
        value?_digit hhigh, value?_digit hlow, ih', hsum, Option.bind_eq_bind, Option.bind_some,
        UInt8.ofNat_toNat]

theorem length_encode (bytes : Bytes) : (encode bytes).length = 2 * bytes.length := by
  induction bytes with
  | nil => rfl
  | cons byte rest ih =>
      rw [encode, List.flatMap_cons, List.length_append, List.length_cons]
      have hrest : (rest.flatMap ofByte).length = 2 * rest.length := ih
      have hbyte : (ofByte byte).length = 2 := rfl
      omega

end GameGateway.Hex
