import GameGateway.Clock
import GameGateway.Json.Basic
import GameGateway.Text.Hex
import GameGateway.Uuid

/-!
# Plain values in JSON

Reports are made of plain values in JSON, and scripts are read as such.
-/

namespace GameGateway

/-! ## Writing

Byte strings are written as hexadecimal digits, identifiers in their usual
spelling, instants as numbers of milliseconds. -/

namespace Json

/-- A text. -/
def ofText (text : String) : Json := string (some text)

/-- A number. -/
def ofNat (n : Nat) : Json := integer n

/-- An instant or a span. -/
def ofMillis (t : Millis) : Json := integer t.toInt

/-- A byte string. -/
def ofBytes (bytes : Bytes) : Json := ofText (String.ofList (Hex.encode bytes))

/-- An identifier. -/
def ofUuid (id : Uuid) : Json := ofText id.text

/-- A value that may be absent. -/
def ofOption {α : Type} (f : α → Json) : Option α → Json
  | none => null
  | some value => f value

/-- A text that may be absent. -/
def ofOptionalText : Option String → Json := ofOption ofText

/-- An object with the given members. -/
def record (members : List (String × Json)) : Json :=
  object (members.map fun (name, value) => (some name, value))

/-- An object with further members behind its own. -/
def extend (json : Json) (more : List (String × Json)) : Json :=
  match json with
  | object members => object (members ++ more.map fun (name, value) => (some name, value))
  | other => other

/-- The first member of that name; `null` if there is none. -/
def member (json : Json) (name : String) : Json :=
  match json with
  | object members => (members.lookup (some name)).getD null
  | _ => null

/-! ## Lenient reading

Scripts of rehearsals are written by hand, so what they leave out has a value all the
same: the empty text, zero, the empty byte string, or none.  Configurations are read
strictly instead, as `Json.fields?` says. -/

/-- Is there a member of that name? -/
def has (json : Json) (name : String) : Bool :=
  match json with
  | object members => members.any fun entry => entry.1 = some name
  | _ => false

/-- The items of an array. -/
def items : Json → List Json
  | array items => items
  | _ => []

/-- A text. -/
def asText (json : Json) : String := json.text?.getD ""

/-- A number without a sign. -/
def asNat : Json → Nat
  | integer n => n.toNat
  | _ => 0

/-- An instant or a span. -/
def asMillis : Json → Millis
  | integer n => Int64.ofInt n
  | _ => 0

/-- A byte string in hexadecimal digits. -/
def asBytes (json : Json) : Bytes := (Hex.decode json.asText.toList).getD []

/-- Sixteen bytes in hexadecimal digits. -/
def asBlock (json : Json) : Block 16 :=
  (Block.ofBytes? 16 json.asBytes).getD ⟨List.replicate 16 0, by simp⟩

/-- An identifier. -/
def asUuid (json : Json) : Uuid := (Uuid.parse? json.asText).getD (Uuid.ofNat 0)

/-- A truth value. -/
def asBool (json : Json) : Bool := json.bool?.getD false

/-- `none` for `null`. -/
def unlessNull {α : Type} (read : Json → α) : Json → Option α
  | null => none
  | json => some (read json)

/-- A member that may be left out. -/
def find? {α : Type} (json : Json) (name : String) (read : Json → α) : Option α :=
  (json.member name).unlessNull read

/-- A member with a value of its own when it is left out. -/
def findD {α : Type} (json : Json) (name : String) (read : Json → α) (usual : α) : α :=
  (json.find? name read).getD usual

/-- The text of a member. -/
def text (json : Json) (name : String) : String := (json.member name).asText

/-- The number of a member. -/
def nat (json : Json) (name : String) : Nat := (json.member name).asNat

/-- The instant or the span of a member. -/
def millis (json : Json) (name : String) : Millis := (json.member name).asMillis

/-- The byte string of a member. -/
def bytes (json : Json) (name : String) : Bytes := (json.member name).asBytes

/-- The identifier of a member. -/
def uuid (json : Json) (name : String) : Uuid := (json.member name).asUuid

/-- The truth value of a member. -/
def flag (json : Json) (name : String) : Bool := (json.member name).asBool

/-- The items of a member. -/
def list (json : Json) (name : String) : List Json := (json.member name).items

end Json

end GameGateway
