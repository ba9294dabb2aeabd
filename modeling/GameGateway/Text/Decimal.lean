import GameGateway.Clock

/-!
# Decimal numbers in texts

Numbers are written without leading zeros.  The readers take at least one ASCII
digit, leading zeros included, behind an optional sign: `+` for a number without a
sign of its own, `+` or `-` for a signed one.  A number that does not fit its type
is refused.
-/

namespace GameGateway.Decimal

/-- The number that a sequence of digits continues, when `n` was read before it. -/
def continueWith (n : Nat) : List Char → Option Nat
  | [] => some n
  | c :: rest => if c.isDigit then continueWith (10 * n + (c.toNat - 48)) rest else none

/-- The number of a non-empty sequence of digits. -/
def digits? : List Char → Option Nat
  | [] => none
  | cs => continueWith 0 cs

/-- The signed number behind an optional sign. -/
def signed? : List Char → Option Int
  | '+' :: rest => (digits? rest).map Int.ofNat
  | '-' :: rest => (digits? rest).map fun n => -Int.ofNat n
  | cs => (digits? cs).map Int.ofNat

/-- The 32-bit number that the characters spell. -/
def uint32? (cs : List Char) : Option UInt32 := do
  let n ← match cs with
    | '+' :: rest => digits? rest
    | _ => digits? cs
  if n < UInt32.size then some (UInt32.ofNat n) else none

/-- The instant or span that the characters spell. -/
def millis? (cs : List Char) : Option Millis := do
  let n ← signed? cs
  if Int64.minValue.toInt ≤ n ∧ n ≤ Int64.maxValue.toInt then some (Int64.ofInt n) else none

/-- The spelling of a 32-bit number. -/
def ofUInt32 (n : UInt32) : List Char := Nat.toDigits 10 n.toNat

/-- The spelling of an instant or a span. -/
def ofMillis (t : Millis) : List Char :=
  match t.toInt with
  | .ofNat n => Nat.toDigits 10 n
  | .negSucc n => '-' :: Nat.toDigits 10 (n + 1)

end GameGateway.Decimal
