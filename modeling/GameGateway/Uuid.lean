import GameGateway.Text.Hex

/-!
# Identifiers of players and transfers

A `Uuid` is sixteen bytes.  Its text has 36 characters, the hexadecimal digits of
the bytes in groups of 8, 4, 4, 4 and 12.  Besides that spelling the reader takes
the digits without hyphens, the hyphenated text in braces, and the hyphenated
text behind `urn:uuid:`; letters may be in either case.
-/

namespace GameGateway

/-- A 128-bit identifier. -/
structure Uuid where
  octets : Block 16
deriving DecidableEq

namespace Uuid

/-- The bytes of an identifier, most significant first. -/
def bytes (id : Uuid) : Bytes := id.octets.bytes

@[simp] theorem length_bytes (id : Uuid) : id.bytes.length = 16 := id.octets.length_eq

/-- The identifier made of sixteen bytes. -/
def ofBytes? (bytes : Bytes) : Option Uuid := (Block.ofBytes? 16 bytes).map Uuid.mk

theorem ofBytes?_bytes (id : Uuid) : ofBytes? id.bytes = some id := by
  simp [ofBytes?, Block.ofBytes?, bytes, id.octets.length_eq]

/-- The characters of the hyphenated spelling. -/
def toChars (id : Uuid) : List Char :=
  let digits := Hex.encode id.bytes
  digits.take 8 ++ '-' :: (digits.drop 8).take 4 ++ '-' :: (digits.drop 12).take 4 ++
    '-' :: (digits.drop 16).take 4 ++ '-' :: digits.drop 20

/-- The hyphenated spelling, in lower case. -/
def text (id : Uuid) : String := String.ofList id.toChars

/-- The digits of a hyphenated spelling: hyphens stand at 8, 13, 18 and 23. -/
private def withoutHyphens? (cs : List Char) : Option (List Char) :=
  if cs.length = 36 ∧ [8, 13, 18, 23].all (fun i => cs[i]? = some '-') then
    some (cs.take 8 ++ (cs.drop 9).take 4 ++ (cs.drop 14).take 4 ++ (cs.drop 19).take 4 ++
      cs.drop 24)
  else none

/-- What stands for the digits in one of the accepted spellings, hyphens removed. -/
private def digits? (cs : List Char) : Option (List Char) :=
  if cs.length = 32 then some cs
  else if cs.length = 38 ∧ cs.head? = some '\x7b' ∧ cs.getLast? = some '\x7d' then
    withoutHyphens? cs.tail.dropLast
  else if cs.length = 45 ∧ (cs.take 9).map Char.toLower = "urn:uuid:".toList then
    withoutHyphens? (cs.drop 9)
  else withoutHyphens? cs

/-- The identifier that the characters spell. -/
def ofChars? (cs : List Char) : Option Uuid := do
  let digits ← digits? cs
  let bytes ← Hex.decode digits
  ofBytes? bytes

private theorem withoutHyphens?_groups {a b c d e : List Char} (ha : a.length = 8)
    (hb : b.length = 4) (hc : c.length = 4) (hd : d.length = 4) (he : e.length = 12) :
    withoutHyphens? (a ++ '-' :: b ++ '-' :: c ++ '-' :: d ++ '-' :: e) =
      some (a ++ b ++ c ++ d ++ e) := by
  simp [withoutHyphens?, ha, hb, hc, hd, he, List.drop_append,
    List.getElem?_append, List.drop_eq_nil_of_le]

/-- The hyphenated spelling reads back. -/
theorem ofChars?_toChars (id : Uuid) : ofChars? id.toChars = some id := by
  have hlength : (Hex.encode id.bytes).length = 32 := by
    rw [Hex.length_encode, length_bytes]
  have hcut : ∀ m n, ((Hex.encode id.bytes).drop m).take n ++ (Hex.encode id.bytes).drop (m + n) =
      (Hex.encode id.bytes).drop m := fun m n => by
    rw [← List.drop_drop, List.take_append_drop]
  have hgroups : withoutHyphens? id.toChars = some (Hex.encode id.bytes) := by
    rw [toChars, withoutHyphens?_groups (by simp [hlength]) (by simp [hlength])
      (by simp [hlength]) (by simp [hlength]) (by simp [hlength]), List.append_assoc, hcut 16 4,
      List.append_assoc, hcut 12 4, List.append_assoc, hcut 8 4, List.take_append_drop]
  have hchars : id.toChars.length = 36 := by
    simp [toChars, hlength]
  have hdigits : digits? id.toChars = some (Hex.encode id.bytes) := by
    unfold digits?
    rw [hchars, hgroups]
    rfl
  rw [ofChars?, hdigits, Option.bind_eq_bind, Option.bind_some, Hex.decode_encode,
    Option.bind_eq_bind, Option.bind_some, ofBytes?_bytes]

/-- The identifier that a text spells. -/
def parse? (text : String) : Option Uuid := ofChars? text.toList

/-- The identifier whose bytes are the 16 base-256 digits of `n`. -/
def ofNat (n : Nat) : Uuid := ⟨⟨Bytes.bigEndian 16 n, by simp⟩⟩

end Uuid

end GameGateway
