import GameGateway.Address.Ip

/-!
# Addresses of clients

Behind the address of a client there is the number of its port.  A long address may be
one of many networks that the host is on, each with the same addresses; a scope other
than zero tells which.  For limits on addresses neither port nor scope counts.
-/

namespace GameGateway

/-- Where a client comes from. -/
inductive ClientAddress where
  | v4 (address : Ipv4Address) (port : UInt16)
  | v6 (address : Ipv6Address) (scope : UInt32) (port : UInt16)
deriving DecidableEq

namespace ClientAddress

/-- The address without scope and port. -/
def ip : ClientAddress → IpAddress
  | v4 address _ => .v4 address
  | v6 address _ _ => .v6 address

/-- The address as it is shown: a long one stands in brackets, with its scope, if it has
one, behind a percent sign. -/
def text : ClientAddress → String
  | v4 address port => String.ofList (address.toChars ++ ':' :: Nat.toDigits 10 port.toNat)
  | v6 address scope port =>
      let scope := if scope = 0 then [] else '%' :: Nat.toDigits 10 scope.toNat
      String.ofList ('[' :: address.toChars ++ scope ++ "]:".toList ++ Nat.toDigits 10 port.toNat)

/-- Reads a number below the bound; leading zeros do not matter. -/
def readNumber (bound : Nat) (cs : List Char) : Option (Nat × List Char) := do
  let (digits, rest) := cs.span Char.isDigit
  let n ← Decimal.digits? digits
  if n < bound then some (n, rest) else none

/-- The port that stands at the end of a text, behind a colon. -/
def port? (cs : List Char) : Option UInt16 := do
  let (port, rest) ← readNumber UInt16.size (← skipChar ':' cs)
  if rest.isEmpty then some (UInt16.ofNat port) else none

/-- Reads the scope behind a percent sign; without one the scope is zero. -/
def readScope (cs : List Char) : UInt32 × List Char :=
  match (skipChar '%' cs).bind (readNumber UInt32.size) with
  | some (scope, rest) => (UInt32.ofNat scope, rest)
  | none => (0, cs)

/-- The short address with a port that the characters spell. -/
def ofCharsV4? (cs : List Char) : Option ClientAddress := do
  let (address, rest) ← Ipv4Address.read cs
  return .v4 address (← port? rest)

/-- The long address with a port that the characters spell. -/
def ofCharsV6? (cs : List Char) : Option ClientAddress := do
  let (address, rest) ← Ipv6Address.read (← skipChar '[' cs)
  let (scope, rest) := readScope rest
  return .v6 address scope (← port? (← skipChar ']' rest))

/-- The address that a text spells. -/
def parse? (text : String) : Option ClientAddress :=
  ofCharsV4? text.toList <|> ofCharsV6? text.toList

end ClientAddress

end GameGateway
