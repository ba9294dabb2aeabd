import GameGateway.Proofs.Wire.Delimited
import Mathlib.Data.Nat.Bitwise
import Mathlib.Order.Bounds.Basic

/-!
# Numbers in groups of seven bits

A byte string begins with a number if its first bytes say so: each but the last of them has its
topmost bit set, there are five at most, and a fifth has room for four bits (`VarInt.Opens`).  The
number is then what these bytes alone make, seven bits from each (`VarInt.value`), and what comes
behind them has no say.

A scan goes through the groups from the first to the last, so it is set against a spelling that
is cut before its last byte (`VarInt.Spelling`): it finds a number exactly where there is such a
spelling, and leaves what comes behind (`VarInt.scan_eq_some_iff`).  The same number has longer
spellings, with leading zero groups; the one that is written has as many bytes as `size` says,
and no other has fewer.
-/

namespace GameGateway.VarInt

variable {bytes rest front : Bytes} {more n : Nat} {last : UInt8}

/-! ## The bits of a byte -/

/-- Does the byte say that another one follows? -/
def goesOn (byte : UInt8) : Bool := byte &&& 0x80 ≠ 0

theorem goesOn_eq_false_iff {byte : UInt8} : goesOn byte = false ↔ byte < 128 := by
  have hbit : (byte &&& 0x80).toNat = (byte.toNat.testBit 7).toNat * 2 ^ 7 := by
    rw [UInt8.toNat_and]
    exact Nat.and_two_pow byte.toNat 7
  have hbyte := byte.toNat_lt
  rw [goesOn, decide_eq_false_iff_not, not_not, ← UInt8.toNat_inj, hbit, UInt8.lt_iff_toNat_lt,
    Nat.testBit_eq_decide_div_mod_eq]
  change _ = 0 ↔ byte.toNat < 128
  by_cases hhigh : byte.toNat / 2 ^ 7 % 2 = 1
  · simp only [hhigh, decide_true, Bool.toNat_true]
    omega
  · simp only [hhigh, decide_false, Bool.toNat_false]
    omega

theorem goesOn_eq_true_iff {byte : UInt8} : goesOn byte = true ↔ ¬ byte < 128 := by
  rw [← goesOn_eq_false_iff, Bool.not_eq_false]

theorem toNat_and_low (byte : UInt8) : (byte &&& 0x7f).toNat = byte.toNat % 128 := by
  rw [UInt8.toNat_and]
  exact Nat.and_two_pow_sub_one_eq_mod byte.toNat 7

/-! ## Spellings -/

/-- The number that some bytes make, seven bits from each, the least significant ones first. -/
def value : Bytes → Nat
  | [] => 0
  | byte :: rest => (byte &&& 0x7f).toNat + 128 * value rest

/-- A spelling, cut before its last byte, when `more` groups may follow the first one. -/
structure Spelling (more : Nat) (front : Bytes) (last : UInt8) : Prop where
  length_le : front.length ≤ more
  goOn : ∀ byte ∈ front, goesOn byte = true
  ends : goesOn last = false
  /-- Four groups of seven bits leave four of the thirty-two. -/
  fits : front.length = more → last ≤ 0x0f

theorem value_of_last (h : goesOn last = false) : value [last] = last.toNat := by
  have hlast : last.toNat < 128 := UInt8.lt_iff_toNat_lt.mp (goesOn_eq_false_iff.mp h)
  rw [value, toNat_and_low, value]
  omega

theorem value_of_goesOn {byte : UInt8} (h : goesOn byte = true) (rest : Bytes) :
    value (byte :: rest) = byte.toNat - 128 + 128 * value rest := by
  have hhigh : ¬ byte < 128 := goesOn_eq_true_iff.mp h
  rw [UInt8.lt_iff_toNat_lt] at hhigh
  have hhigh : ¬ byte.toNat < 128 := hhigh
  have hbyte := byte.toNat_lt
  rw [value, toNat_and_low]
  omega

theorem Spelling.cons {byte : UInt8} (h : Spelling more front last) (hbyte : goesOn byte = true) :
    Spelling (more + 1) (byte :: front) last where
  length_le := Nat.succ_le_succ h.length_le
  goOn := List.forall_mem_cons.mpr ⟨hbyte, h.goOn⟩
  ends := h.ends
  fits hlength := h.fits (Nat.succ.inj hlength)

/-- What a scan makes of a spelling, whatever comes behind it. -/
theorem scan_spelling (h : Spelling more front last) (rest : Bytes) :
    scan more (front ++ last :: rest) = some (value (front ++ [last]), rest) := by
  induction front generalizing more with
  | nil =>
      have hlow := goesOn_eq_false_iff.mp h.ends
      rw [List.nil_append, List.nil_append, value_of_last h.ends]
      cases more with
      | zero =>
          have hfits : last < 16 := by
            have hle := UInt8.le_iff_toNat_le.mp (h.fits rfl)
            rw [UInt8.lt_iff_toNat_lt]
            exact Nat.lt_succ_of_le hle
          rw [scan, if_pos hfits]
      | succ more => rw [scan, if_pos hlow]
  | cons byte front ih =>
      cases more with
      | zero => exact absurd h.length_le (by simp)
      | succ more =>
          have hbyte : goesOn byte = true := h.goOn byte List.mem_cons_self
          have hrest : Spelling more front last :=
            ⟨Nat.le_of_succ_le_succ h.length_le,
              fun b hb => h.goOn b (List.mem_cons_of_mem byte hb), h.ends,
              fun hlength => h.fits (congrArg Nat.succ hlength)⟩
          rw [List.cons_append, scan, if_neg (goesOn_eq_true_iff.mp hbyte), ih hrest,
            Option.map_some, List.cons_append, value_of_goesOn hbyte]

/-- A number that is found was spelled, in the bytes that were taken. -/
theorem spelling_of_scan (h : scan more bytes = some (n, rest)) :
    ∃ front last, Spelling more front last ∧ bytes = front ++ last :: rest := by
  induction more generalizing bytes n with
  | zero =>
      cases bytes with
      | nil => cases h
      | cons byte tail =>
          rw [scan] at h
          split at h
          · rename_i hlow
            cases h
            rw [UInt8.lt_iff_toNat_lt] at hlow
            have hlow : byte.toNat < 16 := hlow
            have hends : goesOn byte = false := by
              rw [goesOn_eq_false_iff, UInt8.lt_iff_toNat_lt]
              exact hlow.trans (by decide)
            have hfits : byte ≤ 0x0f := UInt8.le_iff_toNat_le.mpr (Nat.le_of_lt_succ hlow)
            exact ⟨[], byte, ⟨Nat.le_refl 0, by simp, hends, fun _ => hfits⟩, rfl⟩
          · cases h
  | succ more ih =>
      cases bytes with
      | nil => cases h
      | cons byte tail =>
          rw [scan] at h
          split at h
          · rename_i hlast
            cases h
            exact ⟨[], byte, ⟨Nat.zero_le _, by simp, goesOn_eq_false_iff.mpr hlast, by simp⟩, rfl⟩
          · rename_i hmore
            obtain ⟨⟨high, after⟩, hscan, hresult⟩ := Option.map_eq_some_iff.mp h
            cases hresult
            obtain ⟨front, last, hspelling, rfl⟩ := ih hscan
            exact ⟨byte :: front, last, hspelling.cons (goesOn_eq_true_iff.mpr hmore), rfl⟩

theorem scan_eq_some_iff : scan more bytes = some (n, rest) ↔
    ∃ front last, Spelling more front last ∧ bytes = front ++ last :: rest ∧
      n = value (front ++ [last]) := by
  constructor
  · intro h
    obtain ⟨front, last, hspelling, rfl⟩ := spelling_of_scan h
    rw [scan_spelling hspelling] at h
    cases h
    exact ⟨front, last, hspelling, rfl, rfl⟩
  · rintro ⟨front, last, hspelling, rfl, rfl⟩
    exact scan_spelling hspelling rest

/-! ## The front of a byte string -/

/-- The first `n` bytes are the spelling of a number. -/
structure Opens (bytes : Bytes) (n : Nat) : Prop where
  one_le : 1 ≤ n
  le_five : n ≤ 5
  goOn : ∀ byte ∈ bytes.take (n - 1), goesOn byte = true
  ends : ∃ last, bytes[n - 1]? = some last ∧ goesOn last = false ∧ (n = 5 → last ≤ 0x0f)

theorem opens_iff : Opens bytes n ↔ ∃ front last rest, Spelling 4 front last ∧
    bytes = front ++ last :: rest ∧ n = front.length + 1 := by
  constructor
  · rintro ⟨hone, hfive, hgoOn, last, hlast, hends, hfits⟩
    obtain ⟨hlt, hget⟩ := List.getElem?_eq_some_iff.mp hlast
    have hlength : (bytes.take (n - 1)).length = n - 1 := List.length_take_of_le hlt.le
    have hsplit : bytes = bytes.take (n - 1) ++ last :: bytes.drop (n - 1 + 1) := by
      rw [← hget, ← List.drop_eq_getElem_cons hlt, List.take_append_drop]
    refine ⟨bytes.take (n - 1), last, bytes.drop (n - 1 + 1), ?_, hsplit, by omega⟩
    exact ⟨by omega, hgoOn, hends, fun hfour => hfits (by omega)⟩
  · rintro ⟨front, last, rest, hspelling, rfl, rfl⟩
    have hfront := hspelling.length_le
    refine ⟨by omega, by omega, ?_, last, ?_, hspelling.ends, fun hfive => ?_⟩
    · rw [Nat.add_sub_cancel, List.take_left]
      exact hspelling.goOn
    · rw [Nat.add_sub_cancel, List.getElem?_append_right (Nat.le_refl _), Nat.sub_self]
      rfl
    · exact hspelling.fits (Nat.succ.inj hfive)

/-- A read on a cursor: the number, if there is one, and what the cursor stands before then. -/
def consume (bytes : Bytes) : Option UInt32 × Bytes :=
  match read bytes with
  | some (v, rest) => (some v, rest)
  | none => (none, bytes)

theorem answers_of_read {v : UInt32} (h : read (front ++ rest) = some (v, rest)) :
    length (front ++ rest) = some front.length ∧ peek (front ++ rest) = some v ∧
      consume (front ++ rest) = (some v, rest) := by
  refine ⟨?_, ?_, ?_⟩
  · rw [length, h, Option.map_some, List.length_append]
    exact congrArg some (Nat.add_sub_cancel ..)
  · rw [peek, h, Option.map_some]
  · rw [consume, h]

theorem answers_of_none (h : read bytes = none) :
    length bytes = none ∧ peek bytes = none ∧ consume bytes = (none, bytes) := by
  refine ⟨?_, ?_, ?_⟩
  · rw [length, h, Option.map_none]
  · rw [peek, h, Option.map_none]
  · rw [consume, h]

theorem read_of_opens (h : Opens bytes n) : ∃ v : UInt32, v.toNat = value (bytes.take n) ∧
    ∀ rest, read (bytes.take n ++ rest) = some (v, rest) := by
  obtain ⟨front, last, rest, hspelling, rfl, rfl⟩ := opens_iff.mp h
  have htake : (front ++ last :: rest).take (front.length + 1) = front ++ [last] := by
    rw [List.append_cons, List.take_left' (by simp)]
  have hscan : ∀ behind, scan 4 (front ++ [last] ++ behind) =
      some (value (front ++ [last]), behind) := by
    intro behind
    rw [List.append_assoc, List.singleton_append]
    exact scan_eq_some_iff.mpr ⟨front, last, hspelling, rfl, rfl⟩
  obtain ⟨hfits, -⟩ := scan_eq_some (hscan [])
  rw [htake]
  refine ⟨UInt32.ofNat (value (front ++ [last])), UInt32.toNat_ofNat_of_lt' hfits, ?_⟩
  intro behind
  rw [read, hscan behind, Option.map_some]

theorem opens_of_read {v : UInt32} (h : read bytes = some (v, rest)) : ∃ n, Opens bytes n := by
  obtain ⟨⟨high, after⟩, hscan, -⟩ := Option.map_eq_some_iff.mp h
  obtain ⟨front, last, hspelling, hbytes, -⟩ := scan_eq_some_iff.mp hscan
  exact ⟨front.length + 1, opens_iff.mpr ⟨front, last, after, hspelling, hbytes, rfl⟩⟩

theorem read_eq_none_iff : read bytes = none ↔ ∀ n, ¬ Opens bytes n := by
  constructor
  · intro h n hopens
    obtain ⟨v, -, hread⟩ := read_of_opens hopens
    have hfront := hread (bytes.drop n)
    rw [List.take_append_drop, h] at hfront
    cases hfront
  · intro h
    refine Option.eq_none_iff_forall_ne_some.mpr ?_
    rintro ⟨v, rest⟩ hread
    obtain ⟨n, hopens⟩ := opens_of_read hread
    exact h n hopens

theorem Opens.le_length (h : Opens bytes n) : n ≤ bytes.length := by
  obtain ⟨front, last, rest, -, rfl, rfl⟩ := opens_iff.mp h
  simp

theorem length_of_opens (h : Opens bytes n) : length bytes = some n := by
  obtain ⟨v, -, hread⟩ := read_of_opens h
  obtain ⟨hlength, -⟩ := answers_of_read (hread (bytes.drop n))
  rwa [List.take_append_drop, List.length_take_of_le h.le_length] at hlength

theorem length_eq_some_iff : length bytes = some n ↔ Opens bytes n := by
  constructor
  · intro h
    obtain ⟨⟨v, rest⟩, hread, -⟩ := Option.map_eq_some_iff.mp h
    obtain ⟨k, hopens⟩ := opens_of_read hread
    rw [length_of_opens hopens] at h
    cases h
    exact hopens
  · exact length_of_opens

/-! ## The shortest spelling -/

theorem length_write (v : UInt32) : (write v).length = size v := by
  have hlt := v.toNat_lt
  simp only [write, groups, size, UInt32.lt_iff_toNat_lt, UInt32.reduceToNat]
  split_ifs <;> simp <;> omega

theorem read_write (v : UInt32) (suffix : Bytes) : read (write v ++ suffix) = some (v, suffix) :=
  takes_read v suffix

/-- A spelling that is cut short spells nothing. -/
theorem read_of_prefix_write {v : UInt32} (hcut : front <+: write v)
    (hproper : front ≠ write v) : read front = none := by
  obtain ⟨more, hmore⟩ := hcut
  refine Option.eq_none_iff_forall_ne_some.mpr ?_
  rintro ⟨w, rest⟩ hread
  obtain ⟨taken, rfl, htaken⟩ := definite_read hread
  have hwhole := read_write v []
  rw [List.append_nil, ← hmore, List.append_assoc, htaken (rest ++ more)] at hwhole
  have hnil : rest ++ more = [] := congrArg Prod.snd (Option.some.inj hwhole)
  refine hproper ?_
  rw [← hmore, (List.append_eq_nil_iff.mp hnil).2, List.append_nil]

theorem size_isLeast (v : UInt32) :
    IsLeast {n | ∃ spelled : Bytes, spelled.length = n ∧ peek spelled = some v} (size v) := by
  constructor
  · have hread := read_write v []
    rw [List.append_nil] at hread
    exact ⟨write v, length_write v, by rw [peek, hread, Option.map_some]⟩
  · rintro n ⟨spelled, rfl, hpeek⟩
    obtain ⟨⟨w, rest⟩, hread, rfl⟩ := Option.map_eq_some_iff.mp hpeek
    calc size w = (write w).length := (length_write w).symm
      _ ≤ (write w).length + rest.length := Nat.le_add_right ..
      _ ≤ spelled.length := read_eq_some hread

/-- **Numbers are read exactly where they are spelled.**  Bytes begin with a number of `n` bytes
exactly if those say so; then it is the number that they make, reading it takes them and no
others, and it is the same before any other bytes.  Where no number begins, nothing is taken.
What is written is read back before anything else, takes `size` bytes and cannot be cut short;
no spelling of the number is shorter. -/
theorem prefix_decoding_exact :
    (∀ (bytes : Bytes) (n : Nat), length bytes = some n ↔ Opens bytes n) ∧
    (∀ (bytes : Bytes) (n : Nat), Opens bytes n →
      ∃ v : UInt32, v.toNat = value (bytes.take n) ∧
        peek bytes = some v ∧ consume bytes = (some v, bytes.drop n) ∧
        ∀ rest, length (bytes.take n ++ rest) = some n ∧ peek (bytes.take n ++ rest) = some v ∧
          consume (bytes.take n ++ rest) = (some v, rest)) ∧
    (∀ bytes : Bytes, (∀ n, ¬ Opens bytes n) →
      length bytes = none ∧ peek bytes = none ∧ consume bytes = (none, bytes)) ∧
    ∀ v : UInt32,
      (∀ suffix, consume (write v ++ suffix) = (some v, suffix)) ∧
      (write v).length = size v ∧
      (∀ front, front <+: write v → front ≠ write v →
        length front = none ∧ peek front = none ∧ consume front = (none, front)) ∧
      IsLeast {n | ∃ spelled : Bytes, spelled.length = n ∧ peek spelled = some v} (size v) := by
  refine ⟨fun bytes n => length_eq_some_iff, ?_, ?_, ?_⟩
  · intro bytes n hopens
    obtain ⟨v, hvalue, hread⟩ := read_of_opens hopens
    have hanswers : ∀ rest, length (bytes.take n ++ rest) = some n ∧
        peek (bytes.take n ++ rest) = some v ∧
        consume (bytes.take n ++ rest) = (some v, rest) := by
      intro rest
      have h := answers_of_read (hread rest)
      rwa [List.length_take_of_le hopens.le_length] at h
    obtain ⟨-, hpeek, hconsume⟩ := hanswers (bytes.drop n)
    rw [List.take_append_drop] at hpeek hconsume
    exact ⟨v, hvalue, hpeek, hconsume, hanswers⟩
  · intro bytes hnone
    exact answers_of_none (read_eq_none_iff.mpr hnone)
  · intro v
    refine ⟨?_, length_write v, ?_, size_isLeast v⟩
    · intro suffix
      obtain ⟨-, -, hconsume⟩ := answers_of_read (read_write v suffix)
      exact hconsume
    · intro front hcut hproper
      exact answers_of_none (read_of_prefix_write hcut hproper)

/-- The number 300 with a leading zero group, before a byte that does not belong to it: the
spelling takes three bytes, where two would do, and one that goes on after five is none. -/
theorem prefix_decoding_padded : Opens [0xac, 0x82, 0x00, 0xff] 3 ∧
    consume [0xac, 0x82, 0x00, 0xff] = (some 300, [0xff]) ∧ size 300 = 2 ∧
    consume [0xff, 0xff, 0xff, 0xff, 0x8f, 0x00] =
      (none, [0xff, 0xff, 0xff, 0xff, 0x8f, 0x00]) := by
  obtain ⟨hlength, hopened, hnone, -⟩ := prefix_decoding_exact
  have hopens : Opens [0xac, 0x82, 0x00, 0xff] 3 := (hlength _ _).mp (by decide)
  obtain ⟨v, hvalue, -, hconsume, -⟩ := hopened _ _ hopens
  have hv : v = 300 := UInt32.toNat_inj.mp (hvalue.trans (by decide))
  have hclosed : ∀ n, ¬ Opens [0xff, 0xff, 0xff, 0xff, 0x8f, 0x00] n := by
    intro n hopens
    cases (hlength _ n).mpr hopens
  exact ⟨hopens, hv ▸ hconsume, by decide, (hnone _ hclosed).2.2⟩

end GameGateway.VarInt
