/-!
# JSON values

Configuration is read from JSON.  A value keeps what a configuration type may ask
about: whether a number is written as an integer, whether a string spells a text
at all, and the order of the members of an object with all their repetitions.

`Json.fields` is the rule by which a record is read: from an object, whose unknown
members are ignored and whose known ones may stand only once, or from an array
with the fields in order.
-/

namespace GameGateway

/-- A JSON value. -/
inductive Json where
  | null
  | bool (value : Bool)
  /-- A number written without fraction and exponent.  `-0` is no integer. -/
  | integer (value : Int)
  /-- Any other number, as it is written. -/
  | real (text : String)
  /-- A string, or `none` if its escapes hold an unpaired surrogate. -/
  | string (text : Option String)
  | array (items : List Json)
  /-- An object; a name is `none` if its escapes hold an unpaired surrogate. -/
  | object (members : List (Option String × Json))
deriving Inhabited

namespace Json

/-- The truth value. -/
def bool? : Json → Option Bool
  | bool value => some value
  | _ => none

/-- The text of a string. -/
def text? : Json → Option String
  | string text => text
  | _ => none

/-- An integer between the two bounds, both included. -/
def integer? (least greatest : Int) : Json → Option Int
  | integer value => if least ≤ value ∧ value ≤ greatest then some value else none
  | _ => none

/-- A signed 64-bit integer. -/
def int64? (json : Json) : Option Int64 :=
  (json.integer? Int64.minValue.toInt Int64.maxValue.toInt).map Int64.ofInt

/-- A count: an integer that fits 64 bits without a sign. -/
def count? (json : Json) : Option Nat :=
  (json.integer? 0 (UInt64.size - 1)).map Int.toNat

/-- An unsigned 32-bit integer. -/
def uint32? (json : Json) : Option UInt32 :=
  (json.integer? 0 (UInt32.size - 1)).map fun n => UInt32.ofNat n.toNat

/-- An unsigned 16-bit integer. -/
def uint16? (json : Json) : Option UInt16 :=
  (json.integer? 0 (UInt16.size - 1)).map fun n => UInt16.ofNat n.toNat

/-- `null` for the absent value, else what `decode` reads. -/
def optional? {α : Type} (decode : Json → Option α) : Json → Option (Option α)
  | null => some none
  | json => (decode json).map some

/-- A list whose items `decode` reads. -/
def list? {α : Type} (decode : Json → Option α) : Json → Option (List α)
  | array items => items.mapM decode
  | _ => none

/-- The fields of a record that were given, each at most once. -/
abbrev Fields := List (String × Json)

/-- The members whose names are known; fails on a repeated known name and on a
name that is no text. -/
private def known? (names : List String) : List (Option String × Json) → Option Fields
  | [] => some []
  | (none, _) :: _ => none
  | (some name, value) :: rest => do
      let fields ← known? names rest
      if name ∈ names then
        if (fields.lookup name).isSome then none else some ((name, value) :: fields)
      else some fields

/-- The fields of a record with the given field names: the known members of an
object, or the items of an array that is no longer than the record. -/
def fields? (names : List String) : Json → Option Fields
  | object members => known? names members
  | array items => if items.length ≤ names.length then some (names.zip items) else none
  | _ => none

namespace Fields

variable {α : Type}

/-- A field that must be given. -/
def required (fields : Fields) (name : String) (decode : Json → Option α) : Option α :=
  (fields.lookup name).bind decode

/-- A field that has the given value when it is left out. -/
def withDefault (fields : Fields) (name : String) (decode : Json → Option α) (value : α) :
    Option α :=
  match fields.lookup name with
  | none => some value
  | some json => decode json

end Fields

end Json

end GameGateway
