import Frac64.Error

/-!
# The signed 64-bit range

Fractions keep their numerator and denominator in the signed 64-bit range
`[-2^63, 2^63 - 1]`. Integer results are computed exactly and then checked: a
result outside the range is refused with `Error.overflow`, which carries it.

* `wordMin`, `wordMax`, `InWordRange` — the range.
* `checked` — an integer, or the overflow error when it leaves the range.
-/

namespace Frac64

/-- The least signed 64-bit integer, `-2^63`. -/
def wordMin : Int := -9223372036854775808

/-- The greatest signed 64-bit integer, `2^63 - 1`. -/
def wordMax : Int := 9223372036854775807

/-- An integer lies in the signed 64-bit range. -/
def InWordRange (n : Int) : Prop := wordMin ≤ n ∧ n ≤ wordMax

instance (n : Int) : Decidable (InWordRange n) :=
  inferInstanceAs (Decidable (_ ∧ _))

/-- An integer result, refused with an overflow error when it leaves the signed 64-bit
range. -/
def checked (n : Int) : Except Error Int :=
  if InWordRange n then .ok n else .error (.overflow n)

theorem checked_of_inWordRange {n : Int} (h : InWordRange n) : checked n = .ok n := by
  simp [checked, h]

theorem checked_of_not_inWordRange {n : Int} (h : ¬ InWordRange n) :
    checked n = .error (.overflow n) := by
  simp [checked, h]

end Frac64
