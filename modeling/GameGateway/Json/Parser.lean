import GameGateway.Json.Basic
import GameGateway.Text.Hex

/-!
# Reading JSON

`Json.parse?` takes one value with blanks around it and nothing else.  Blanks are
the space, the tab, the line feed and the carriage return.  Strings admit no
control characters; numbers have no leading zeros.
-/

namespace GameGateway.Json

/-- Drops the blanks in front. -/
private def skipBlanks (cs : List Char) : List Char :=
  cs.dropWhile fun c => c = ' ' ∨ c = '\t' ∨ c = '\n' ∨ c = '\x0d'

/-! ## Strings -/

/-- What one element of a string literal stands for: a character, or half of one
that is written as two escapes. -/
private inductive Piece where
  | char (c : Char)
  | surrogate (unit : Nat)

/-- The piece that a four-digit escape stands for. -/
private def pieceOfUnit (unit : Nat) : Piece :=
  if 0xD800 ≤ unit ∧ unit < 0xE000 then .surrogate unit else .char (Char.ofNat unit)

/-- The number of four hexadecimal digits. -/
private def unit? (a b c d : Char) : Option Nat := do
  let a ← Hex.value? a
  let b ← Hex.value? b
  let c ← Hex.value? c
  let d ← Hex.value? d
  some (((a * 16 + b) * 16 + c) * 16 + d)

/-- The character that a one-letter escape stands for. -/
private def escaped? : Char → Option Char
  | '"' => some '"'
  | '\\' => some '\\'
  | '/' => some '/'
  | 'b' => some '\x08'
  | 'f' => some '\x0c'
  | 'n' => some '\n'
  | 'r' => some '\x0d'
  | 't' => some '\t'
  | _ => none

/-- The pieces up to the closing quote and what follows it. -/
private def pieces : List Char → Option (List Piece × List Char)
  | [] => none
  | '"' :: rest => some ([], rest)
  | '\\' :: 'u' :: a :: b :: c :: d :: rest => do
      let unit ← unit? a b c d
      let (tail, rest) ← pieces rest
      some (pieceOfUnit unit :: tail, rest)
  | '\\' :: letter :: rest => do
      let c ← escaped? letter
      let (tail, rest) ← pieces rest
      some (.char c :: tail, rest)
  | c :: rest =>
      if c.toNat < 0x20 ∨ c = '\\' then none
      else do
        let (tail, rest) ← pieces rest
        some (.char c :: tail, rest)

/-- The characters of a string literal; surrogates must come in pairs, high one first. -/
private def join : List Piece → Option (List Char)
  | [] => some []
  | .char c :: rest => (join rest).map (c :: ·)
  | .surrogate high :: .surrogate low :: rest =>
      if high < 0xDC00 ∧ 0xDC00 ≤ low then
        (join rest).map (Char.ofNat (0x10000 + (high - 0xD800) * 0x400 + (low - 0xDC00)) :: ·)
      else none
  | .surrogate _ :: _ => none

/-- The text behind an opening quote, if it is one, and what follows the closing quote. -/
private def literal (cs : List Char) : Option (Option String × List Char) := do
  let (parts, rest) ← pieces cs
  some ((join parts).map String.ofList, rest)

/-! ## Numbers -/

/-- At least one digit off the front. -/
private def digits1 (cs : List Char) : Option (List Char × List Char) :=
  match cs.takeWhile Char.isDigit with
  | [] => none
  | digits => some (digits, cs.dropWhile Char.isDigit)

/-- The digits before the point: a zero stands alone. -/
private def whole (cs : List Char) : Option (List Char × List Char) := do
  let (digits, rest) ← digits1 cs
  if digits.head? = some '0' ∧ digits.length ≠ 1 then none else some (digits, rest)

/-- A point with digits, or nothing. -/
private def fraction : List Char → Option (List Char × List Char)
  | '.' :: rest => do
      let (digits, rest) ← digits1 rest
      some ('.' :: digits, rest)
  | cs => some ([], cs)

/-- An exponent with its sign and digits, or nothing. -/
private def exponent (cs : List Char) : Option (List Char × List Char) :=
  match cs with
  | e :: rest =>
      if e = 'e' ∨ e = 'E' then
        match rest with
        | '+' :: rest => (digits1 rest).map fun (digits, rest) => (e :: '+' :: digits, rest)
        | '-' :: rest => (digits1 rest).map fun (digits, rest) => (e :: '-' :: digits, rest)
        | rest => (digits1 rest).map fun (digits, rest) => (e :: digits, rest)
      else some ([], cs)
  | [] => some ([], [])

/-- The number that decimal digits stand for. -/
private def natOfDigits (digits : List Char) : Nat :=
  digits.foldl (fun n c => 10 * n + (c.toNat - 48)) 0

/-- A number. -/
private def numeral (cs : List Char) : Option (Json × List Char) := do
  let (sign, unsigned) := match cs with
    | '-' :: rest => (['-'], rest)
    | _ => ([], cs)
  let (digits, rest) ← whole unsigned
  let (places, rest) ← fraction rest
  let (power, rest) ← exponent rest
  let n := natOfDigits digits
  let negative := !sign.isEmpty
  if places.isEmpty ∧ power.isEmpty ∧ ¬(negative ∧ n = 0) then
    some (.integer (if negative then -(n : Int) else n), rest)
  else some (.real (String.ofList (sign ++ digits ++ places ++ power)), rest)

/-! ## Values -/

/-- The rest behind a given word. -/
private def word (expected : String) (cs : List Char) : Option (List Char) :=
  if expected.toList.isPrefixOf cs then some (cs.drop expected.length) else none

mutual

/-- A value off the front; `fuel` bounds the nesting and the number of items. -/
private def value (fuel : Nat) (cs : List Char) : Option (Json × List Char) :=
  match fuel with
  | 0 => none
  | fuel + 1 =>
      match skipBlanks cs with
      | '"' :: rest => (literal rest).map fun (text, rest) => (.string text, rest)
      | '[' :: rest =>
          match skipBlanks rest with
          | ']' :: rest => some (.array [], rest)
          | rest => (arrayItems fuel rest).map fun (items, rest) => (.array items, rest)
      | '\x7b' :: rest =>
          match skipBlanks rest with
          | '\x7d' :: rest => some (.object [], rest)
          | rest => (members fuel rest).map fun (members, rest) => (.object members, rest)
      | 'n' :: rest => (word "ull" rest).map fun rest => (.null, rest)
      | 't' :: rest => (word "rue" rest).map fun rest => (.bool true, rest)
      | 'f' :: rest => (word "alse" rest).map fun rest => (.bool false, rest)
      | rest => numeral rest

/-- The items of an array up to its closing bracket. -/
private def arrayItems (fuel : Nat) (cs : List Char) : Option (List Json × List Char) :=
  match fuel with
  | 0 => none
  | fuel + 1 => do
      let (first, rest) ← value fuel cs
      match skipBlanks rest with
      | ']' :: rest => some ([first], rest)
      | ',' :: rest =>
          let (others, rest) ← arrayItems fuel rest
          some (first :: others, rest)
      | _ => none

/-- The members of an object up to its closing brace. -/
private def members (fuel : Nat) (cs : List Char) :
    Option (List (Option String × Json) × List Char) :=
  match fuel with
  | 0 => none
  | fuel + 1 =>
      match skipBlanks cs with
      | '"' :: rest => do
          let (name, rest) ← literal rest
          match skipBlanks rest with
          | ':' :: rest =>
              let (first, rest) ← value fuel rest
              match skipBlanks rest with
              | '\x7d' :: rest => some ([(name, first)], rest)
              | ',' :: rest =>
                  let (others, rest) ← members fuel rest
                  some ((name, first) :: others, rest)
              | _ => none
          | _ => none
      | _ => none

end

/-- The value that a text spells.  Every call of the readers above that is open at
the same time has taken a character of its own, so twice the length is enough. -/
def parse? (text : String) : Option Json := do
  let cs := text.toList
  let (json, rest) ← value (2 * cs.length + 2) cs
  if (skipBlanks rest).isEmpty then some json else none

end GameGateway.Json
