/-!
# Instants

Instants and spans of time are counted in milliseconds, as signed 64-bit numbers.
Where a sum can leave that range an operation says what becomes of it: the
saturating ones stop at the ends of the range, the plain ones wrap around.
-/

namespace GameGateway

/-- An instant or a span, in milliseconds. -/
abbrev Millis := Int64

namespace Millis

/-- The sum, or the nearest end of the range. -/
def saturatingAdd (a b : Millis) : Millis := Int64.ofIntClamp (a.toInt + b.toInt)

/-- The difference, or the nearest end of the range. -/
def saturatingSub (a b : Millis) : Millis := Int64.ofIntClamp (a.toInt - b.toInt)

/-- The product, or the nearest end of the range. -/
def saturatingMul (a b : Millis) : Millis := Int64.ofIntClamp (a.toInt * b.toInt)

/-- The decimal spelling. -/
def text (a : Millis) : String := toString a.toInt

private theorem toInt_ofIntClamp (n : Int) :
    (Int64.ofIntClamp n).toInt = max Int64.minValue.toInt (min n Int64.maxValue.toInt) := by
  unfold Int64.ofIntClamp
  split
  · split
    · rw [Int64.toInt_ofIntLE]
      have := ‹Int64.minValue.toInt ≤ n›
      have := ‹n ≤ Int64.maxValue.toInt›
      simp only [Int64.toInt_minValue, Int64.toInt_maxValue] at *
      omega
    · have := ‹¬n ≤ Int64.maxValue.toInt›
      simp only [Int64.toInt_minValue, Int64.toInt_maxValue] at *
      omega
  · have := ‹¬Int64.minValue.toInt ≤ n›
    simp only [Int64.toInt_minValue, Int64.toInt_maxValue] at *
    omega

theorem toInt_saturatingAdd (a b : Millis) :
    (saturatingAdd a b).toInt =
      max Int64.minValue.toInt (min (a.toInt + b.toInt) Int64.maxValue.toInt) :=
  toInt_ofIntClamp _

theorem toInt_saturatingSub (a b : Millis) :
    (saturatingSub a b).toInt =
      max Int64.minValue.toInt (min (a.toInt - b.toInt) Int64.maxValue.toInt) :=
  toInt_ofIntClamp _

theorem toInt_saturatingMul (a b : Millis) :
    (saturatingMul a b).toInt =
      max Int64.minValue.toInt (min (a.toInt * b.toInt) Int64.maxValue.toInt) :=
  toInt_ofIntClamp _

end Millis

end GameGateway
