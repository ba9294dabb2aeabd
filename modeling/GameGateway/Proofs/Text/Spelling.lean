import GameGateway.Text.Base64Url
import GameGateway.Text.CharSet
import GameGateway.Text.Decimal
import GameGateway.Text.Utf8
import GameGateway.Uuid
import Mathlib.Data.List.TakeWhile

/-!
# Spellings read back

What tokens are made of is spelled in digits: byte strings in those of base64,
numbers in decimal ones.  This file proves that both kinds of spelling read back, and
says which characters they are made of.  The second half matters as much as the first:
a spelling can stand between delimiters, and be found again behind blanks, only
because neither a delimiter nor a blank is a digit.  In base64 the spelling is also the
only one that is read (`Base64Url.decodeChars_eq_some_iff`).

All these characters are ASCII, so in UTF-8 each is one byte (`Utf8.mem_encode`).
-/

namespace GameGateway

/-! ## Base64 -/

namespace Base64Url

/-- The values of the digits of a byte string. -/
def values : Bytes → List Nat
  | [] => []
  | [a] => [a.toNat / 4, a.toNat % 4 * 16]
  | [a, b] => [a.toNat / 4, a.toNat % 4 * 16 + b.toNat / 16, b.toNat % 16 * 4]
  | a :: b :: c :: rest =>
      a.toNat / 4 :: (a.toNat % 4 * 16 + b.toNat / 16) ::
        (b.toNat % 16 * 4 + c.toNat / 64) :: c.toNat % 64 :: values rest

theorem encodeChars_eq_map (bytes : Bytes) : encodeChars bytes = (values bytes).map digit := by
  induction bytes using values.induct with
  | case1 => rfl
  | case2 a => rfl
  | case3 a b => rfl
  | case4 a b c rest ih => simp [encodeChars, values, ih]

theorem lt_of_mem_values {bytes : Bytes} {n : Nat} (h : n ∈ values bytes) : n < 64 := by
  induction bytes using values.induct with
  | case1 => cases h
  | case2 a =>
      have ha := a.toNat_lt
      simp only [values, List.mem_cons, List.not_mem_nil, or_false] at h
      omega
  | case3 a b =>
      have ha := a.toNat_lt
      have hb := b.toNat_lt
      simp only [values, List.mem_cons, List.not_mem_nil, or_false] at h
      omega
  | case4 a b c rest ih =>
      have ha := a.toNat_lt
      have hb := b.toNat_lt
      have hc := c.toNat_lt
      simp only [values, List.mem_cons] at h
      rcases h with h | h | h | h | h
      · omega
      · omega
      · omega
      · omega
      · exact ih h

private theorem ofNat_eq {n : Nat} {byte : UInt8} (h : n = byte.toNat) : UInt8.ofNat n = byte := by
  rw [h, UInt8.ofNat_toNat]

theorem ofValues_values (bytes : Bytes) : ofValues (values bytes) = some bytes := by
  induction bytes using values.induct with
  | case1 => rfl
  | case2 a =>
      have hfirst : UInt8.ofNat (a.toNat / 4 * 4 + a.toNat % 4 * 16 / 16) = a :=
        ofNat_eq (by omega)
      have hrest : a.toNat % 4 * 16 % 16 = 0 := by omega
      rw [values, ofValues, if_pos hrest, hfirst]
  | case3 a b =>
      have hb := b.toNat_lt
      have hfirst : UInt8.ofNat
          (a.toNat / 4 * 4 + (a.toNat % 4 * 16 + b.toNat / 16) / 16) = a := ofNat_eq (by omega)
      have hsecond : UInt8.ofNat ((a.toNat % 4 * 16 + b.toNat / 16) % 16 * 16 +
          b.toNat % 16 * 4 / 4) = b := ofNat_eq (by omega)
      have hrest : b.toNat % 16 * 4 % 4 = 0 := by omega
      rw [values, ofValues, if_pos hrest, hfirst, hsecond]
  | case4 a b c rest ih =>
      have hb := b.toNat_lt
      have hc := c.toNat_lt
      have hfirst : UInt8.ofNat
          (a.toNat / 4 * 4 + (a.toNat % 4 * 16 + b.toNat / 16) / 16) = a := ofNat_eq (by omega)
      have hsecond : UInt8.ofNat ((a.toNat % 4 * 16 + b.toNat / 16) % 16 * 16 +
          (b.toNat % 16 * 4 + c.toNat / 64) / 4) = b := ofNat_eq (by omega)
      have hthird : UInt8.ofNat ((b.toNat % 16 * 4 + c.toNat / 64) % 4 * 64 + c.toNat % 64) = c :=
        ofNat_eq (by omega)
      rw [values, ofValues, ih, Option.map_some, hfirst, hsecond, hthird]

private theorem mapM_value?_digit {ns : List Nat} (h : ∀ n ∈ ns, n < 64) :
    (ns.map digit).mapM value? = some ns := by
  induction ns with
  | nil => rfl
  | cons n rest ih =>
      have hn := h n (List.mem_cons_self ..)
      have hrest := ih fun m hm => h m (List.mem_cons_of_mem _ hm)
      rw [List.map_cons, List.mapM_cons, value?_digit hn, hrest]
      rfl

theorem decodeChars_encodeChars (bytes : Bytes) :
    decodeChars (encodeChars bytes) = some bytes := by
  unfold decodeChars
  rw [encodeChars_eq_map, mapM_value?_digit fun n => lt_of_mem_values]
  exact ofValues_values bytes

/-! No other characters are read.  Where bits are left over, the reader takes them only if
they are zero, and zeros are what the writer puts there. -/

theorem eq_digit_of_value? {c : Char} {n : Nat} (h : value? c = some n) : n < 64 ∧ c = digit n := by
  unfold value? at h
  split at h
  · rename_i hupper
    obtain ⟨hlow, hhigh⟩ := hupper
    have hlow : 65 ≤ c.toNat := hlow
    have hhigh : c.toNat ≤ 90 := hhigh
    cases h
    refine ⟨by omega, ?_⟩
    rw [digit, if_pos (by omega), show 65 + (c.toNat - 65) = c.toNat by omega, Char.ofNat_toNat]
  split at h
  · rename_i hlower
    obtain ⟨hlow, hhigh⟩ := hlower
    have hlow : 97 ≤ c.toNat := hlow
    have hhigh : c.toNat ≤ 122 := hhigh
    cases h
    refine ⟨by omega, ?_⟩
    rw [digit, if_neg (by omega), if_pos (by omega),
      show 71 + (c.toNat - 71) = c.toNat by omega, Char.ofNat_toNat]
  split at h
  · rename_i hdecimal
    obtain ⟨hlow, hhigh⟩ := hdecimal
    have hlow : 48 ≤ c.toNat := hlow
    have hhigh : c.toNat ≤ 57 := hhigh
    cases h
    refine ⟨by omega, ?_⟩
    rw [digit, if_neg (by omega), if_neg (by omega), if_pos (by omega),
      show c.toNat + 4 - 4 = c.toNat by omega, Char.ofNat_toNat]
  split at h
  · rename_i hhyphen
    cases h
    exact ⟨by omega, hhyphen⟩
  split at h
  · rename_i hunder
    cases h
    exact ⟨by omega, hunder⟩
  · cases h

theorem eq_map_digit_of_mapM {cs : List Char} {ns : List Nat} (h : cs.mapM value? = some ns) :
    (∀ n ∈ ns, n < 64) ∧ cs = ns.map digit := by
  induction cs generalizing ns with
  | nil =>
      cases h
      simp
  | cons c rest ih =>
      rw [List.mapM_cons] at h
      obtain ⟨n, hn, h⟩ := Option.bind_eq_some_iff.mp h
      obtain ⟨others, hothers, h⟩ := Option.bind_eq_some_iff.mp h
      cases h
      obtain ⟨hlt, hdigit⟩ := eq_digit_of_value? hn
      obtain ⟨hall, hrest⟩ := ih hothers
      refine ⟨List.forall_mem_cons.mpr ⟨hlt, hall⟩, ?_⟩
      rw [List.map_cons, ← hdigit, ← hrest]

theorem eq_values_of_ofValues {ns : List Nat} {bytes : Bytes} (hns : ∀ n ∈ ns, n < 64)
    (h : ofValues ns = some bytes) : ns = values bytes := by
  induction ns using ofValues.induct generalizing bytes with
  | case1 =>
      cases h
      rfl
  | case2 p => cases h
  | case3 p q hrest =>
      simp only [List.forall_mem_cons] at hns
      rw [ofValues, if_pos hrest] at h
      cases h
      simp only [values, UInt8.toNat_ofNat', List.cons.injEq, and_true]
      omega
  | case4 p q hrest =>
      rw [ofValues, if_neg hrest] at h
      cases h
  | case5 p q r hrest =>
      simp only [List.forall_mem_cons] at hns
      rw [ofValues, if_pos hrest] at h
      cases h
      simp only [values, UInt8.toNat_ofNat', List.cons.injEq, and_true]
      omega
  | case6 p q r hrest =>
      rw [ofValues, if_neg hrest] at h
      cases h
  | case7 p q r s rest ih =>
      simp only [List.forall_mem_cons] at hns
      obtain ⟨hp, hq, hr, hs, hothers⟩ := hns
      rw [ofValues] at h
      obtain ⟨others, hread, rfl⟩ := Option.map_eq_some_iff.mp h
      rw [values, ← ih hothers hread]
      simp only [UInt8.toNat_ofNat', List.cons.injEq, and_true]
      omega

theorem decodeChars_eq_some_iff {cs : List Char} {bytes : Bytes} :
    decodeChars cs = some bytes ↔ cs = encodeChars bytes := by
  constructor
  · intro h
    obtain ⟨ns, hns, hbytes⟩ := Option.bind_eq_some_iff.mp h
    obtain ⟨hlt, hcs⟩ := eq_map_digit_of_mapM hns
    rw [hcs, eq_values_of_ofValues hlt hbytes, encodeChars_eq_map]
  · rintro rfl
    exact decodeChars_encodeChars bytes

theorem encode_ne_empty {bytes : Bytes} (h : bytes ≠ []) : encode bytes ≠ "" := by
  intro hempty
  have hchars : encodeChars bytes = [] := by
    rw [← String.toList_ofList (l := encodeChars bytes)]
    exact congrArg String.toList hempty
  have hread := decodeChars_encodeChars bytes
  rw [hchars] at hread
  cases hread
  exact h rfl

/-- What is not true of a digit is not true of a character of a spelling. -/
theorem forall_mem_encodeChars {P : Char → Prop} (h : ∀ n < 64, P (digit n)) (bytes : Bytes) :
    ∀ c ∈ encodeChars bytes, P c := by
  intro c hc
  rw [encodeChars_eq_map] at hc
  obtain ⟨n, hn, rfl⟩ := List.mem_map.mp hc
  exact h n (lt_of_mem_values hn)

end Base64Url

/-! ## Decimal numbers -/

namespace Decimal

theorem continueWith_eq {cs : List Char} (h : ∀ c ∈ cs, c.isDigit = true) (n : Nat) :
    continueWith n cs = some (Nat.ofDigitChars 10 cs n) := by
  induction cs generalizing n with
  | nil => simp [continueWith]
  | cons c rest ih =>
      have hrest := ih fun d hd => h d (List.mem_cons_of_mem _ hd)
      rw [continueWith, if_pos (h c (List.mem_cons_self ..)), hrest, Nat.ofDigitChars_cons]
      rfl

theorem isDigit_of_mem_toDigits {n : Nat} {c : Char} (h : c ∈ Nat.toDigits 10 n) :
    c.isDigit = true :=
  Nat.isDigit_of_mem_toDigits (by decide) (by decide) h

theorem digits?_toDigits (n : Nat) : digits? (Nat.toDigits 10 n) = some n := by
  unfold digits?
  split
  · rename_i hnil
    exact absurd hnil Nat.toDigits_ne_nil
  · rw [continueWith_eq fun c => isDigit_of_mem_toDigits, Nat.ofDigitChars_ten_toDigits]

theorem uint32?_ofUInt32 (n : UInt32) : uint32? (ofUInt32 n) = some n := by
  unfold uint32? ofUInt32
  split
  · rename_i rest hsign
    have hdigit : '+'.isDigit = true := isDigit_of_mem_toDigits (n := n.toNat) (by simp [hsign])
    cases hdigit
  · rw [digits?_toDigits]
    have hlt := n.toNat_lt_size
    simp [hlt]

theorem signed?_toDigits (n : Nat) : signed? (Nat.toDigits 10 n) = some n := by
  unfold signed?
  split
  · rename_i rest hsign
    have hdigit : '+'.isDigit = true := isDigit_of_mem_toDigits (n := n) (by simp [hsign])
    cases hdigit
  · rename_i rest hsign
    have hdigit : '-'.isDigit = true := isDigit_of_mem_toDigits (n := n) (by simp [hsign])
    cases hdigit
  · rw [digits?_toDigits]
    rfl

theorem millis?_ofMillis (t : Millis) : millis? (ofMillis t) = some t := by
  have hsigned : signed? (ofMillis t) = some t.toInt := by
    unfold ofMillis
    split
    · rename_i n hn
      rw [signed?_toDigits, hn]
      rfl
    · rename_i n hn
      rw [signed?, digits?_toDigits, hn]
      rfl
  have hmin : Int64.minValue.toInt ≤ t.toInt := Int64.toInt_minValue ▸ Int64.le_toInt t
  have hmax : t.toInt ≤ Int64.maxValue.toInt := Int64.toInt_maxValue ▸ Int64.toInt_le t
  unfold millis?
  rw [hsigned, Option.bind_eq_bind, Option.bind_some, if_pos ⟨hmin, hmax⟩, Int64.ofInt_toInt]

/-- A number is spelled in digits and perhaps a minus sign. -/
theorem forall_mem_ofMillis {P : Char → Prop} (hdigit : ∀ c : Char, c.isDigit = true → P c)
    (hminus : P '-') (t : Millis) : ∀ c ∈ ofMillis t, P c := by
  intro c hc
  unfold ofMillis at hc
  split at hc
  · exact hdigit c (isDigit_of_mem_toDigits hc)
  · rcases List.mem_cons.mp hc with rfl | hc
    · exact hminus
    · exact hdigit c (isDigit_of_mem_toDigits hc)

end Decimal

/-! ## Identifiers -/

/-- An identifier is spelled in hexadecimal digits and hyphens. -/
theorem Uuid.forall_mem_toChars {P : Char → Prop} (hdigit : ∀ n < 16, P (Hex.digit n))
    (hhyphen : P '-') (id : Uuid) : ∀ c ∈ id.toChars, P c := by
  have hhex : ∀ c ∈ Hex.encode id.bytes, P c := by
    intro c hc
    obtain ⟨byte, -, hmem⟩ := List.mem_flatMap.mp hc
    have hbyte := byte.toNat_lt
    simp only [Hex.ofByte, List.mem_cons, List.not_mem_nil, or_false] at hmem
    rcases hmem with rfl | rfl
    · exact hdigit _ (by omega)
    · exact hdigit _ (by omega)
  intro c hc
  simp only [toChars, List.mem_append, List.mem_cons, or_assoc] at hc
  rcases hc with hc | rfl | hc | rfl | hc | rfl | hc | rfl | hc
  · exact hhex c (List.mem_of_mem_take hc)
  · exact hhyphen
  · exact hhex c (List.mem_of_mem_drop (List.mem_of_mem_take hc))
  · exact hhyphen
  · exact hhex c (List.mem_of_mem_drop (List.mem_of_mem_take hc))
  · exact hhyphen
  · exact hhex c (List.mem_of_mem_drop (List.mem_of_mem_take hc))
  · exact hhyphen
  · exact hhex c (List.mem_of_mem_drop hc)

/-! ## Trimming -/

namespace Text

variable {α : Type} {drop : α → Bool} {items before after : List α}

theorem dropWhile_append_of_kept (hne : items ≠ []) (h : ∀ a ∈ items, drop a = false)
    (rest : List α) : (items ++ rest).dropWhile drop = items ++ rest := by
  cases items with
  | nil => exact absurd rfl hne
  | cons a items =>
      rw [List.cons_append, List.dropWhile_cons, h a (List.mem_cons_self ..), if_neg (by simp)]

theorem trimWhere_eq_nil_iff : trimWhere drop items = [] ↔ ∀ a ∈ items, drop a = true := by
  rw [trimWhere, List.reverse_eq_nil_iff, List.dropWhile_eq_nil_iff]
  constructor
  · intro h a ha
    rw [← List.takeWhile_append_dropWhile (p := drop) (l := items)] at ha
    rcases List.mem_append.mp ha with htaken | hleft
    · exact List.mem_takeWhile_imp htaken
    · exact h a (List.mem_reverse.mpr hleft)
  · intro h a ha
    exact h a ((List.dropWhile_sublist drop).mem (List.mem_reverse.mp ha))

/-- What is to be dropped around the items is all that is dropped. -/
theorem trimWhere_append (hbefore : ∀ a ∈ before, drop a = true)
    (hitems : ∀ a ∈ items, drop a = false) (hafter : ∀ a ∈ after, drop a = true) :
    trimWhere drop (before ++ items ++ after) = items := by
  by_cases hne : items = []
  · subst hne
    rw [trimWhere_eq_nil_iff, List.append_nil]
    intro a ha
    exact (List.mem_append.mp ha).elim (hbefore a) (hafter a)
  · have hreverse : (items.reverse ++ []).dropWhile drop = items.reverse ++ [] :=
      dropWhile_append_of_kept (by simpa using hne)
        (fun a ha => hitems a (List.mem_reverse.mp ha)) []
    rw [List.append_nil] at hreverse
    rw [trimWhere, List.append_assoc, List.dropWhile_append_of_pos hbefore,
      dropWhile_append_of_kept hne hitems, List.reverse_append,
      List.dropWhile_append_of_pos fun a ha => hafter a (List.mem_reverse.mp ha), hreverse,
      List.reverse_reverse]

theorem trimWhere_eq_self (h : ∀ a ∈ items, drop a = false) : trimWhere drop items = items := by
  have hnone : ∀ a ∈ ([] : List α), drop a = true := nofun
  have htrim := trimWhere_append hnone h hnone
  rwa [List.nil_append, List.append_nil] at htrim

end Text

/-! ## ASCII as bytes -/

namespace Utf8

theorem encode_ofList (cs : List Char) :
    encode (String.ofList cs) = cs.flatMap String.utf8EncodeChar := by
  rw [encode, String.toByteArray_ofList, List.utf8Encode, List.data_toByteArray]

/-- In UTF-8 an ASCII character is one byte. -/
theorem utf8EncodeChar_eq {c : Char} (h : c.toNat < 128) :
    String.utf8EncodeChar c = [UInt8.ofNat c.toNat] := by
  have hsize : c.utf8Size = 1 := by
    rw [Char.utf8Size_eq_one_iff, UInt32.le_iff_toNat_le]
    exact Nat.le_of_lt_succ h
  rw [String.utf8EncodeChar_eq_singleton hsize]
  rfl

theorem encode_append (a b : String) : encode (a ++ b) = encode a ++ encode b := by
  rw [encode, String.toByteArray_append, ByteArray.data_append, Array.toList_append]
  rfl

/-- The characters of ASCII bytes. -/
def ofAscii (bytes : Bytes) : String := String.ofList (bytes.map fun byte => Char.ofNat byte.toNat)

theorem toNat_ofNat_of_lt {n : Nat} (h : n < 128) : (Char.ofNat n).toNat = n := by
  have hvalid : n.isValidChar := .inl (by omega)
  rw [Char.ofNat, dif_pos hvalid]
  exact UInt32.toNat_ofNatLT ..

theorem encode_ofAscii {bytes : Bytes} (h : ∀ byte ∈ bytes, byte < 128) :
    encode (ofAscii bytes) = bytes := by
  rw [ofAscii, encode_ofList, List.flatMap_map]
  induction bytes with
  | nil => rfl
  | cons byte rest ih =>
      obtain ⟨hbyte, hrest⟩ := List.forall_mem_cons.mp h
      have hchar := toNat_ofNat_of_lt (UInt8.lt_iff_toNat_lt.mp hbyte)
      rw [List.flatMap_cons, ih hrest, utf8EncodeChar_eq (by rw [hchar]; exact hbyte), hchar,
        UInt8.ofNat_toNat]
      rfl

theorem mem_encode_ofList {cs : List Char} (h : ∀ c ∈ cs, c.toNat < 128) {byte : UInt8}
    (hbyte : byte ∈ encode (String.ofList cs)) : ∃ c ∈ cs, byte = UInt8.ofNat c.toNat := by
  rw [encode_ofList] at hbyte
  obtain ⟨c, hc, hmem⟩ := List.mem_flatMap.mp hbyte
  rw [utf8EncodeChar_eq (h c hc)] at hmem
  exact ⟨c, hc, List.mem_singleton.mp hmem⟩

end Utf8

end GameGateway
