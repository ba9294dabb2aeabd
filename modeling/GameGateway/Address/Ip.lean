import GameGateway.Text.Decimal
import GameGateway.Text.Fields
import GameGateway.Text.Hex

/-!
# Internet addresses

A short address is four bytes, written as decimal numbers with points between them.  A
long address is eight groups of sixteen bits, written as hexadecimal numbers with
colons between them.  The first of its longest runs of zero groups, if that has two or
more of them, is left out and leaves a double colon.  A long address that stands for a
short one ends in the spelling of the short one.

The readers take an address at the front of a text and answer with what follows it.
They take each short address in one spelling only, but many spellings of a long one: a
double colon may stand for any run of zero groups, groups may have leading zeros up to
four digits, and the last two groups may be spelled as a short address.
-/

namespace GameGateway

/-- An address of four bytes. -/
structure Ipv4Address where
  first : UInt8
  second : UInt8
  third : UInt8
  fourth : UInt8
deriving DecidableEq

/-- An address of eight groups. -/
structure Ipv6Address where
  groups : List UInt16
  length_eq : groups.length = 8
deriving DecidableEq

/-- An internet address. -/
inductive IpAddress where
  | v4 (address : Ipv4Address)
  | v6 (address : Ipv6Address)
deriving DecidableEq

/-- What follows a character at the front of a text, if it stands there. -/
def skipChar (c : Char) : List Char → Option (List Char)
  | [] => none
  | x :: rest => if x = c then some rest else none

namespace Ipv4Address

/-- The spelling of an address. -/
def toChars (address : Ipv4Address) : List Char :=
  Fields.join '.' ([address.first, address.second, address.third, address.fourth].map fun octet =>
    Nat.toDigits 10 octet.toNat)

/-- The two groups that an address takes in a long one. -/
def groups (address : Ipv4Address) : List UInt16 :=
  [UInt16.ofNat (256 * address.first.toNat + address.second.toNat),
    UInt16.ofNat (256 * address.third.toNat + address.fourth.toNat)]

/-- The address whose bytes are those of two groups. -/
def ofGroups (high low : UInt16) : Ipv4Address where
  first := UInt8.ofNat (high.toNat / 256)
  second := UInt8.ofNat high.toNat
  third := UInt8.ofNat (low.toNat / 256)
  fourth := UInt8.ofNat low.toNat

/-- Reads a byte without leading zeros. -/
def readOctet (cs : List Char) : Option (UInt8 × List Char) := do
  let (digits, rest) := cs.span Char.isDigit
  let n ← Decimal.digits? digits
  if n < UInt8.size ∧ digits = Nat.toDigits 10 n then some (UInt8.ofNat n, rest) else none

/-- Reads an address. -/
def read (cs : List Char) : Option (Ipv4Address × List Char) := do
  let (first, cs) ← readOctet cs
  let (second, cs) ← readOctet (← skipChar '.' cs)
  let (third, cs) ← readOctet (← skipChar '.' cs)
  let (fourth, cs) ← readOctet (← skipChar '.' cs)
  return (⟨first, second, third, fourth⟩, cs)

end Ipv4Address

namespace Ipv6Address

/-! ## Writing -/

/-- The groups with colons between them. -/
def groupChars (groups : List UInt16) : List Char :=
  Fields.join ':' (groups.map fun group => Nat.toDigits 16 group.toNat)

/-- Where the first of the longest runs of zero groups begins, and how long it is. -/
def longestZeros (groups : List UInt16) : Nat × Nat :=
  (List.range groups.length).foldl (fun best start =>
    let length := ((groups.drop start).takeWhile (· = 0)).length
    if best.2 < length then (start, length) else best) (0, 0)

/-- The short address that a long one stands for, if it begins with five zero groups and
a group of ones. -/
def mapped? (address : Ipv6Address) : Option Ipv4Address :=
  match address.groups with
  | [0, 0, 0, 0, 0, 0xffff, high, low] => some (.ofGroups high low)
  | _ => none

/-- The spelling of an address. -/
def toChars (address : Ipv6Address) : List Char :=
  match address.mapped? with
  | some short => "::ffff:".toList ++ short.toChars
  | none =>
      let (start, length) := longestZeros address.groups
      if length < 2 then groupChars address.groups
      else
        groupChars (address.groups.take start) ++ "::".toList ++
          groupChars (address.groups.drop (start + length))

/-! ## Reading -/

/-- The address that begins and ends with the given groups and has zeros between them;
what is more than eight groups is cut off. -/
def fill (head tail : List UInt16) : Ipv6Address where
  groups := (head ++ List.replicate (8 - head.length - tail.length) 0 ++ tail).take 8
  length_eq := by simp; omega

/-- Reads a group of up to four digits, in either case. -/
def readGroup (cs : List Char) : Option (UInt16 × List Char) :=
  let (digits, rest) := cs.span fun c => (Hex.value? c).isSome
  if digits = [] ∨ 4 < digits.length then none
  else
    let number := (digits.filterMap Hex.value?).foldl (fun n digit => 16 * n + digit) 0
    some (UInt16.ofNat number, rest)

/-- Reads groups with colons between them, as many as there are but no more than `most`;
before all but the first of an address there is a colon.  The last two may be spelled as
a short address; the answer says whether they are. -/
def readGroups : (most : Nat) → (isFirst : Bool) → List Char → List UInt16 × Bool × List Char
  | 0, _, cs => ([], false, cs)
  | most + 1, isFirst, cs =>
      match if isFirst then some cs else skipChar ':' cs with
      | none => ([], false, cs)
      | some rest =>
          match if most = 0 then none else Ipv4Address.read rest with
          | some (short, rest) => (short.groups, true, rest)
          | none =>
              match readGroup rest with
              -- The colon may be the first half of a double one, and is left there.
              | none => ([], false, cs)
              | some (group, rest) =>
                  let (groups, endsShort, rest) := readGroups most false rest
                  (group :: groups, endsShort, rest)

/-- Reads an address. -/
def read (cs : List Char) : Option (Ipv6Address × List Char) :=
  let (head, endsShort, rest) := readGroups 8 true cs
  if head.length = 8 then some (fill head [], rest)
  else if endsShort then none
  else do
    let rest ← skipChar ':' (← skipChar ':' rest)
    let (tail, _, rest) := readGroups (7 - head.length) true rest
    return (fill head tail, rest)

end Ipv6Address

/-- The spelling of an address. -/
def IpAddress.text : IpAddress → String
  | v4 address => String.ofList address.toChars
  | v6 address => String.ofList address.toChars

end GameGateway
