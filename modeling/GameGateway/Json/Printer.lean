import GameGateway.Json.Basic
import GameGateway.Text.Hex

/-!
# Writing JSON

A value is written without blanks.  In strings the quote, the backslash and the
control characters below the space are escaped, and nothing else is.
-/

namespace GameGateway.Json

/-- A character as it stands in a string literal. -/
def escape (c : Char) : String :=
  if c = '"' then "\\\""
  else if c = '\\' then "\\\\"
  else if c.toNat < 0x20 then "\\u00" ++ String.ofList (Hex.ofByte (UInt8.ofNat c.toNat))
  else c.toString

/-- A string literal behind what has been written; the literal of a string without
text holds one half of a pair of surrogates. -/
def writeText (written : String) : Option String → String
  | none => written ++ "\"\\ud800\""
  | some text => text.toList.foldl (fun written c => written ++ escape c) (written ++ "\"") ++ "\""

mutual

/-- A value behind what has been written. -/
def write (written : String) : Json → String
  | null => written ++ "null"
  | bool value => written ++ (if value then "true" else "false")
  | integer value => written ++ toString value
  | real text => written ++ text
  | string text => writeText written text
  | array [] => written ++ "[]"
  | array (first :: rest) => writeItems (write (written ++ "[") first) rest ++ "]"
  | object [] => written ++ "\x7b\x7d"
  | object ((name, value) :: rest) =>
      writeMembers (write (writeText (written ++ "\x7b") name ++ ":") value) rest ++ "\x7d"

/-- The items of an array behind the first one. -/
def writeItems (written : String) : List Json → String
  | [] => written
  | item :: rest => writeItems (write (written ++ ",") item) rest

/-- The members of an object behind the first one. -/
def writeMembers (written : String) : List (Option String × Json) → String
  | [] => written
  | (name, value) :: rest =>
      writeMembers (write (writeText (written ++ ",") name ++ ":") value) rest

end

/-- The text of a value. -/
def render (json : Json) : String := write "" json

end GameGateway.Json
