import GameGateway.Wire.Reader

/-!
# What readers have taken

A reader that gives a value has taken some bytes off the front, and the value says which:
numbers, identifiers and sized blobs have one spelling each, so the bytes that were taken are
the ones their writers give.  Each lemma here inverts one reader in this way; a composed
reader is inverted step by step with `bind_eq_some_iff`.
-/

namespace GameGateway.Reader

variable {α : Type} {bytes rest : Bytes}

theorem pure_eq_some_iff {a b : α} :
    (pure a : Reader α) bytes = some (b, rest) ↔ a = b ∧ bytes = rest := by
  constructor
  · intro h
    cases h
    exact ⟨rfl, rfl⟩
  · rintro ⟨rfl, rfl⟩
    rfl

theorem require_eq_some_iff {condition : Bool} {u : Unit} :
    require condition bytes = some (u, rest) ↔ condition = true ∧ bytes = rest := by
  cases condition <;> simp [require]

theorem lift_eq_some_iff {value : Option α} {a : α} :
    lift value bytes = some (a, rest) ↔ value = some a ∧ bytes = rest := by
  cases value <;> simp [lift]

theorem byte_eq_some_iff {b : UInt8} : byte bytes = some (b, rest) ↔ bytes = b :: rest := by
  cases bytes <;> simp [byte]

theorem take_eq_some_iff {n : Nat} {taken : Bytes} :
    take n bytes = some (taken, rest) ↔ bytes = taken ++ rest ∧ taken.length = n := by
  unfold take
  constructor
  · intro h
    split at h
    · rename_i hlength
      cases h
      exact ⟨(List.take_append_drop n bytes).symm, List.length_take_of_le hlength⟩
    · cases h
  · rintro ⟨rfl, rfl⟩
    simp

theorem block_eq_some {n : Nat} {block : Block n} (h : Reader.block n bytes = some (block, rest)) :
    bytes = block.bytes ++ rest := by
  unfold Reader.block at h
  split at h
  · cases h
    exact (List.take_append_drop n bytes).symm
  · cases h

theorem uuid_eq_some {id : Uuid} (h : uuid bytes = some (id, rest)) : bytes = id.bytes ++ rest := by
  obtain ⟨octets, between, hblock, hpure⟩ := bind_eq_some_iff.mp h
  obtain ⟨rfl, rfl⟩ := pure_eq_some_iff.mp hpure
  exact block_eq_some hblock

/-! ## Numbers -/

theorem take_bigEndian {width : Nat} {taken : Bytes} (h : take width bytes = some (taken, rest)) :
    bytes = Bytes.bigEndian width (Bytes.ofBigEndian taken) ++ rest ∧
      Bytes.ofBigEndian taken < Nat.pow 256 width := by
  obtain ⟨rfl, rfl⟩ := take_eq_some_iff.mp h
  exact ⟨by rw [Bytes.bigEndian_ofBigEndian], Bytes.ofBigEndian_lt taken⟩

/-- What is made of a number of a fixed width was spelled by that number. -/
theorem littleEndian_eq_some {α : Type} {width : Nat} {f : Nat → α} {a : α}
    (h : (take width >>= fun taken => Pure.pure (f (Bytes.ofLittleEndian taken))) bytes =
      some (a, rest)) :
    ∃ n, n < Nat.pow 256 width ∧ f n = a ∧ bytes = Bytes.littleEndian width n ++ rest := by
  obtain ⟨taken, between, htake, hpure⟩ := bind_eq_some_iff.mp h
  obtain ⟨hvalue, rfl⟩ := pure_eq_some_iff.mp hpure
  obtain ⟨rfl, rfl⟩ := take_eq_some_iff.mp htake
  refine ⟨Bytes.ofLittleEndian taken, Bytes.ofLittleEndian_lt taken, hvalue, ?_⟩
  rw [Bytes.littleEndian_ofLittleEndian]

theorem uint16_eq_some {n : UInt16} (h : uint16 bytes = some (n, rest)) :
    bytes = Bytes.ofUInt16 n ++ rest := by
  obtain ⟨number, hlt, rfl, rfl⟩ := littleEndian_eq_some h
  rw [Bytes.ofUInt16, UInt16.toNat_ofNat', Nat.mod_eq_of_lt hlt]

theorem uint32_eq_some {n : UInt32} (h : uint32 bytes = some (n, rest)) :
    bytes = Bytes.ofUInt32 n ++ rest := by
  obtain ⟨number, hlt, rfl, rfl⟩ := littleEndian_eq_some h
  rw [Bytes.ofUInt32, UInt32.toNat_ofNat', Nat.mod_eq_of_lt hlt]

theorem int64_eq_some {n : Int64} (h : int64 bytes = some (n, rest)) :
    bytes = Bytes.ofInt64 n ++ rest := by
  obtain ⟨taken, between, htake, hpure⟩ := bind_eq_some_iff.mp h
  obtain ⟨rfl, rfl⟩ := pure_eq_some_iff.mp hpure
  obtain ⟨hbytes, hlt⟩ := take_bigEndian htake
  have hvalue : (UInt64.ofNat (Bytes.ofBigEndian taken)).toInt64.toUInt64.toNat =
      Bytes.ofBigEndian taken := UInt64.toNat_ofNat_of_lt' hlt
  rw [Bytes.ofInt64, hvalue]
  exact hbytes

/-! ## Blobs -/

theorem exactly_eq_some {expected : Bytes} {u : Unit}
    (h : exactly expected bytes = some (u, rest)) : bytes = expected ++ rest := by
  obtain ⟨taken, between, htake, hrequire⟩ := bind_eq_some_iff.mp h
  obtain ⟨hsame, rfl⟩ := require_eq_some_iff.mp hrequire
  obtain ⟨rfl, -⟩ := take_eq_some_iff.mp htake
  rw [of_decide_eq_true hsame]

/-- A blob behind its length was spelled by the four bytes of its length and itself. -/
theorem sizedBytes_eq_some {blob : Bytes} (h : sizedBytes bytes = some (blob, rest)) :
    bytes = Bytes.sized blob ++ rest := by
  obtain ⟨n, between, hlength, htake⟩ := bind_eq_some_iff.mp h
  obtain ⟨digits, after, hdigits, hchecked⟩ := bind_eq_some_iff.mp hlength
  obtain ⟨u, same, hrequire, hpure⟩ := bind_eq_some_iff.mp hchecked
  obtain ⟨rfl, rfl⟩ := pure_eq_some_iff.mp hpure
  obtain ⟨-, rfl⟩ := require_eq_some_iff.mp hrequire
  obtain ⟨rfl, -⟩ := take_bigEndian hdigits
  obtain ⟨rfl, hsize⟩ := take_eq_some_iff.mp htake
  rw [Bytes.sized, hsize, List.append_assoc]

theorem length_le_of_sizedBytes {blob : Bytes} (h : sizedBytes bytes = some (blob, rest)) :
    blob.length ≤ Bytes.maxSized := by
  obtain ⟨n, between, hlength, htake⟩ := bind_eq_some_iff.mp h
  obtain ⟨digits, after, -, hchecked⟩ := bind_eq_some_iff.mp hlength
  obtain ⟨u, same, hrequire, hpure⟩ := bind_eq_some_iff.mp hchecked
  obtain ⟨rfl, -⟩ := pure_eq_some_iff.mp hpure
  obtain ⟨-, hsize⟩ := take_eq_some_iff.mp htake
  rw [hsize]
  exact of_decide_eq_true (require_eq_some_iff.mp hrequire).1

end GameGateway.Reader
