import GameGateway.Clock

/-!
# Saturating sums of instants

A sum that would leave the range of instants stops at its end.  Comparisons with
such sums behave like comparisons of integers as long as the sum stays in range,
and adding one span to two instants keeps their order even where it does not.
-/

namespace GameGateway.Millis

theorem toInt_le_max (a : Millis) : a.toInt ≤ Int64.maxValue.toInt := by
  rw [Int64.toInt_maxValue]
  exact Int64.toInt_le a

theorem min_le_toInt (a : Millis) : Int64.minValue.toInt ≤ a.toInt := by
  rw [Int64.toInt_minValue]
  exact Int64.le_toInt a

theorem le_max_left (a b : Millis) : a ≤ max a b := by
  show a ≤ if a ≤ b then b else a
  split
  · rename_i hle
    exact hle
  · exact Int64.le_refl a

theorem le_max_right (a b : Millis) : b ≤ max a b := by
  show b ≤ if a ≤ b then b else a
  split
  · exact Int64.le_refl b
  · rename_i hle
    exact Int64.le_of_lt (Int64.not_le.mp hle)

theorem saturatingAdd_mono {a b span longer : Millis} (h : a ≤ b) (hspan : span ≤ longer) :
    a.saturatingAdd span ≤ b.saturatingAdd longer := by
  rw [Int64.le_iff_toInt_le] at h hspan ⊢
  rw [toInt_saturatingAdd, toInt_saturatingAdd]
  omega

theorem le_saturatingAdd (a : Millis) {span : Millis} (h : 0 ≤ span) :
    a ≤ a.saturatingAdd span := by
  rw [Int64.le_iff_toInt_le, Int64.toInt_zero] at h
  rw [Int64.le_iff_toInt_le, toInt_saturatingAdd]
  have hmax := toInt_le_max a
  omega

theorem saturatingSub_le (a : Millis) {span : Millis} (h : 0 ≤ span) :
    a.saturatingSub span ≤ a := by
  rw [Int64.le_iff_toInt_le, Int64.toInt_zero] at h
  rw [Int64.le_iff_toInt_le, toInt_saturatingSub]
  have hmin := min_le_toInt a
  omega

/-- No instant tells a saturating sum from the exact one. -/
theorem le_saturatingAdd_iff {a b span : Millis} (hspan : 0 ≤ span) :
    b ≤ a.saturatingAdd span ↔ b.toInt ≤ a.toInt + span.toInt := by
  rw [Int64.le_iff_toInt_le, Int64.toInt_zero] at hspan
  rw [Int64.le_iff_toInt_le, toInt_saturatingAdd]
  have hmin := min_le_toInt a
  have hmax := toInt_le_max b
  omega

/-- No instant tells a saturating difference from the exact one. -/
theorem saturatingSub_le_iff {a b span : Millis} (hspan : 0 ≤ span) :
    a.saturatingSub span ≤ b ↔ a.toInt - span.toInt ≤ b.toInt := by
  rw [Int64.le_iff_toInt_le, Int64.toInt_zero] at hspan
  rw [Int64.le_iff_toInt_le, toInt_saturatingSub]
  have hmax := toInt_le_max a
  have hmin := min_le_toInt b
  omega

/-- In range, the sum is the exact one. -/
theorem toInt_saturatingAdd_of_le {a span : Millis} (hspan : 0 ≤ span)
    (hrange : a.toInt + span.toInt ≤ Int64.maxValue.toInt) :
    (a.saturatingAdd span).toInt = a.toInt + span.toInt := by
  rw [Int64.le_iff_toInt_le, Int64.toInt_zero] at hspan
  rw [toInt_saturatingAdd]
  have hmin := min_le_toInt a
  omega

/-- Nor does any instant tell a sum of two saturating steps from the exact one. -/
theorem le_saturatingAdd_saturatingAdd_iff {a b first second : Millis} (hfirst : 0 ≤ first)
    (hsecond : 0 ≤ second) :
    b ≤ (a.saturatingAdd first).saturatingAdd second ↔
      b.toInt ≤ a.toInt + first.toInt + second.toInt := by
  rw [le_saturatingAdd_iff hsecond]
  by_cases hfits : a.toInt + first.toInt ≤ Int64.maxValue.toInt
  · rw [toInt_saturatingAdd_of_le hfirst hfits]
  · -- The first step is cut off, and then neither sum is below any instant.
    have hcut : (a.saturatingAdd first).toInt = Int64.maxValue.toInt := by
      have hmin : Int64.minValue.toInt ≤ Int64.maxValue.toInt := min_le_toInt Int64.maxValue
      rw [toInt_saturatingAdd]
      omega
    have hlast : b.toInt ≤ Int64.maxValue.toInt := toInt_le_max b
    rw [Int64.le_iff_toInt_le, Int64.toInt_zero] at hsecond
    rw [hcut]
    constructor
    · intro _
      omega
    · intro _
      omega

/-- The two instants have a sum: it does not leave the range of instants. -/
def HaveSum (a b : Millis) : Prop :=
  Int64.minValue.toInt ≤ a.toInt + b.toInt ∧ a.toInt + b.toInt ≤ Int64.maxValue.toInt

instance (a b : Millis) : Decidable (HaveSum a b) :=
  inferInstanceAs (Decidable (_ ∧ _))

/-- A plain sum that stays in range is the exact one as well. -/
theorem HaveSum.toInt_add {a b : Millis} (h : HaveSum a b) : (a + b).toInt = a.toInt + b.toInt := by
  obtain ⟨hlow, hhigh⟩ := h
  rw [Int64.toInt_minValue] at hlow
  rw [Int64.toInt_maxValue] at hhigh
  rw [Int64.toInt_add]
  exact Int.bmod_eq_of_le (by omega) (by omega)

theorem HaveSum.lt_add_iff {a b now : Millis} (h : HaveSum a b) :
    now < a + b ↔ now.toInt < a.toInt + b.toInt := by
  rw [Int64.lt_iff_toInt_lt, h.toInt_add]

end GameGateway.Millis
