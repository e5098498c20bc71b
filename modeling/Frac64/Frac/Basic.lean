import Frac64.Word

/-!
# Fractions of 64-bit integers

A fraction is a numerator and a denominator, both in the signed 64-bit range. It is
stored as computed, not in lowest terms: arithmetic combines the parts by
cross-multiplication, and `Frac.reduce` divides out common factors when the caller
asks for it. Every integer formed on the way is checked (`checked`), so an
operation either gives the exact result or fails with `Error.overflow`, carrying
the first integer that left the range, in the order the parts are computed.

A zero denominator marks an undefined value. The constructor `Frac.make` keeps one
rule: a negative denominator moves its sign into the numerator, and zero over a
nonzero denominator is stored as `0/1`.

* `Frac` — the stored pair.
* `Frac.make` — the checked constructor.
* `Frac.add`, `Frac.sub`, `Frac.mul`, `Frac.div`, `Frac.neg`, `Frac.inv`, `Frac.abs` —
  checked arithmetic, not reduced.
* `Frac.reduce` — lowest terms.
* `Frac.isNaN`, `Frac.isZero`, `Frac.same` — tests; `same` compares lowest terms.
* `Frac.value`, `Frac.Stored` — the rational a fraction stands for, and the invariant
  the constructor establishes (`stored_of_make`).
-/

namespace Frac64

/-- A fraction of two signed 64-bit integers, stored as computed. -/
structure Frac where
  /-- The numerator. -/
  num : Int
  /-- The denominator; zero marks an undefined value. -/
  den : Int
  deriving DecidableEq, Repr, Inhabited

namespace Frac

/-- The fraction `0/1`. -/
def zero : Frac := ⟨0, 1⟩

/-- The fraction `1/1`. -/
def one : Frac := ⟨1, 1⟩

/-- The fraction `n / d`. Both parts are checked; a negative denominator moves its
sign into the numerator, the two negations checked in turn; zero over a nonzero
denominator becomes `0/1`. -/
def make (n d : Int) : Except Error Frac := do
  let n ← checked n
  let d ← checked d
  let (n, d) ← if d < 0 then do
      let n' ← checked (-n)
      let d' ← checked (-d)
      pure (n', d')
    else pure (n, d)
  pure (if n = 0 ∧ d ≠ 0 then zero else ⟨n, d⟩)

/-- The integer `n` as the fraction `n/1`. -/
def ofInt (n : Int) : Except Error Frac := make n 1

/-- The sum by cross-multiplication: `(a.num * b.den + a.den * b.num) / (a.den * b.den)`,
the products, the sum and the denominator checked in that order. -/
def add (a b : Frac) : Except Error Frac := do
  let x ← checked (a.num * b.den)
  let y ← checked (a.den * b.num)
  let n ← checked (x + y)
  let d ← checked (a.den * b.den)
  make n d

/-- The difference by cross-multiplication, checked like `add`. -/
def sub (a b : Frac) : Except Error Frac := do
  let x ← checked (a.num * b.den)
  let y ← checked (a.den * b.num)
  let n ← checked (x + -y)
  let d ← checked (a.den * b.den)
  make n d

/-- The product of numerators over the product of denominators. -/
def mul (a b : Frac) : Except Error Frac := do
  let n ← checked (a.num * b.num)
  let d ← checked (a.den * b.den)
  make n d

/-- The quotient `(a.num * b.den) / (a.den * b.num)`; dividing by zero gives a zero
denominator, not an error. -/
def div (a b : Frac) : Except Error Frac := do
  let n ← checked (a.num * b.den)
  let d ← checked (a.den * b.num)
  make n d

/-- The negation; only the numerator `-2^63` cannot be negated. -/
def neg (a : Frac) : Except Error Frac := do
  let n ← checked (-a.num)
  make n a.den

/-- Numerator and denominator exchanged; the inverse of zero has denominator zero. -/
def inv (a : Frac) : Except Error Frac := make a.den a.num

/-- The absolute value: the negation of a negative numerator, else the fraction. -/
def abs (a : Frac) : Except Error Frac := if a.num < 0 then a.neg else pure a

/-- The fraction in lowest terms: both parts divided by the greatest common divisor
of their absolute values. Any zero numerator gives `0/1`, and `n/0` gives `±1/0`. -/
def reduce (a : Frac) : Frac :=
  if a.num = 0 then zero
  else
    let g : Int := Int.gcd a.num a.den
    ⟨a.num / g, a.den / g⟩

/-- Whether the denominator is zero. -/
def isNaN (a : Frac) : Bool := a.den == 0

/-- Whether the lowest terms are `0/1`; `0/0` is zero too. -/
def isZero (a : Frac) : Bool := a.reduce == zero

/-- Whether two fractions have the same lowest terms. -/
def same (a b : Frac) : Bool := a.reduce == b.reduce

/-- The rational number a fraction stands for, `num / den`. A zero denominator gives
`0` by the convention of division, so statements about values assume a nonzero
denominator. -/
def value (a : Frac) : Rat := (a.num : Rat) / (a.den : Rat)

/-- The invariant of stored fractions: both parts in the 64-bit range, a denominator that
is not negative, and zero over a nonzero denominator only as `0/1`. -/
def Stored (a : Frac) : Prop :=
  InWordRange a.num ∧ InWordRange a.den ∧ 0 ≤ a.den ∧ (a.num = 0 → a.den ≠ 0 → a.den = 1)

/-- Every fraction the constructor gives is stored in canonical form. -/
theorem stored_of_make {n d : Int} {a : Frac} (h : make n d = .ok a) : a.Stored := by
  simp only [make, checked, bind, Except.bind, pure, Except.pure] at h
  by_cases hn : InWordRange n <;> simp only [hn, if_true, if_false, reduceCtorEq] at h
  by_cases hd : InWordRange d <;> simp only [hd, if_true, if_false, reduceCtorEq] at h
  by_cases hneg : d < 0
  · simp only [hneg, if_true] at h
    by_cases hn' : InWordRange (-n) <;> simp only [hn', if_true, if_false, reduceCtorEq] at h
    by_cases hd' : InWordRange (-d) <;> simp only [hd', if_true, if_false, reduceCtorEq] at h
    simp only [Except.ok.injEq] at h
    subst h
    split <;> simp_all [Stored, zero, InWordRange, wordMin, wordMax]
    omega
  · simp only [hneg, if_false, Except.ok.injEq] at h
    subst h
    split <;> simp_all [Stored, zero, InWordRange, wordMin, wordMax]

@[simp] theorem reduce_zero_num {a : Frac} (h : a.num = 0) : a.reduce = zero := by
  simp [reduce, h]

theorem isZero_iff_num_eq_zero (a : Frac) : a.isZero = true ↔ a.num = 0 := by
  constructor
  · intro h
    by_cases hn : a.num = 0
    · exact hn
    · have hg : (Int.gcd a.num a.den : Int) ∣ a.num := Int.gcd_dvd_left ..
      simp only [isZero, reduce, hn, if_false, beq_iff_eq, zero, Frac.mk.injEq] at h
      exact Int.eq_zero_of_ediv_eq_zero hg h.1
  · intro h
    simp [isZero, h]

end Frac

end Frac64
