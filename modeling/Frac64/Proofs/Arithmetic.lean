import Frac64.Proofs.Value
import Mathlib.Tactic.Linarith

/-!
# Range checks, lowest terms and units of fraction arithmetic

Every integer that an operation of `Frac` forms is checked against the signed 64-bit range, in
the order the operation forms it. This module says exactly when the checks fail: a computation
*fits when* `P` (`FitsWhen`) if it fails with an overflow exactly when `P` fails, and otherwise
gives a result. For fractions that keep the invariant of the constructor (`Frac.Stored`), the sum
and the difference fit when the two cross products, their sum or difference and the product of
the denominators lie in the range; the product when the two products do; the quotient when the
two cross products do and, for a negative denominator, their negations too; the negation and the
inverse when the numerator is not `-2^63`. Every result is stored, and on defined fractions it is
exact.

`Frac.reduce` gives the lowest terms of a stored fraction, which the constructor accepts as they
are: `0/1` for a zero numerator, `±1/0` for a zero denominator, and otherwise a coprime pair with
a positive denominator and the same cross products. Reducing twice changes nothing, and two
defined fractions are the same in lowest terms exactly when their cross products agree.

Last, `0/1` and `1/1` are units of the checked arithmetic: adding `0/1` or multiplying by `1/1`
gives a stored fraction back unchanged, and multiplying a defined one by `0/1` gives `0/1`.

## Main definitions

* `FitsWhen` — a computation that fails with an overflow exactly when a condition fails.

## Main results

* `Frac.make_fits`, `Frac.add_fits`, `Frac.sub_fits`, `Frac.mul_fits`, `Frac.div_fits`,
  `Frac.neg_fits`, `Frac.inv_fits` — the exact range condition of each operation.
* `Frac.overflow_exactly_when_out_of_range` — **each operation overflows exactly when an integer
  it forms leaves the range, and otherwise gives a stored fraction, exact on defined ones.**
* `Frac.stored_reduce`, `Frac.reduce_reduce`, `Frac.same_iff_cross` — lowest terms.
* `Frac.reduce_lowest_terms` — **the normal form that `Frac.reduce` gives, and the equality
  of fractions it defines.**
-/

namespace Frac64

/-- A computation that cannot fail gives a result. -/
theorem Outcome.exists_ok {α : Type} {good : α → Prop} {x : Except Error α}
    (h : Outcome (fun _ => False) good x) : ∃ a, x = .ok a ∧ good a := by
  cases x with
  | error e => exact h.elim
  | ok a => exact ⟨a, rfl, h⟩

theorem Error.IsOverflow.kind_eq {e : Error} (h : e.IsOverflow) : e.kind = .arithmeticOverflow := by
  obtain ⟨v, rfl⟩ := h
  rfl

/-! ### Computations that fit the range exactly when a condition holds -/

/-- A computation whose range checks pass exactly when `fits` holds: it then gives a result with
the property `good`, and otherwise it fails with an overflow. -/
def FitsWhen {α : Type} (fits : Prop) (good : α → Prop) : Except Error α → Prop :=
  Outcome (fun e => e.IsOverflow ∧ ¬ fits) (fun a => fits ∧ good a)

namespace FitsWhen

variable {α β : Type} {P Q : Prop} {g : α → Prop} {x : Except Error α}

theorem of_iff (h : P ↔ Q) (hx : FitsWhen P g x) : FitsWhen Q g x := by
  cases x with
  | error e => exact ⟨hx.1, fun hq => hx.2 (h.2 hq)⟩
  | ok a => exact ⟨h.1 hx.1, hx.2⟩

theorem pure {a : α} (h : g a) : FitsWhen True g (Pure.pure a : Except Error α) := ⟨trivial, h⟩

/-- The checks of two steps pass exactly when those of the first do and then those of the
second. -/
theorem bind {g' : β → Prop} {f : α → Except Error β} (hx : FitsWhen P g x)
    (hf : ∀ a, P → g a → FitsWhen Q g' (f a)) : FitsWhen (P ∧ Q) g' (x >>= f) := by
  cases x with
  | error e => exact ⟨hx.1, fun h => hx.2 h.1⟩
  | ok a =>
    have hfa := hf a hx.1 hx.2
    show FitsWhen (P ∧ Q) g' (f a)
    cases hy : f a with
    | error e =>
      rw [hy] at hfa
      exact ⟨hfa.1, fun h => hfa.2 h.2⟩
    | ok b =>
      rw [hy] at hfa
      exact ⟨⟨hx.1, hfa.1⟩, hfa.2⟩

/-- A last step whose checks pass whenever the earlier ones did. -/
theorem bind_last {g' : β → Prop} {f : α → Except Error β} (hx : FitsWhen P g x)
    (hf : ∀ a, P → g a → FitsWhen True g' (f a)) : FitsWhen P g' (x >>= f) :=
  (hx.bind hf).of_iff (iff_of_eq (and_true P))

/-- The results of a computation have a property when each result it can give has it. -/
theorem of_results (hx : FitsWhen P (fun _ => True) x) (h : ∀ a, x = .ok a → g a) :
    FitsWhen P g x := by
  cases x with
  | error e => exact hx
  | ok a => exact ⟨hx.1, h a rfl⟩

/-- A property of the results that holds under a further condition `R`. -/
theorem and_imp {R : Prop} {bad : Error → Prop} {g' : α → Prop} (hx : FitsWhen P g x)
    (h : R → Outcome bad g' x) : FitsWhen P (fun a => g a ∧ (R → g' a)) x := by
  cases x with
  | error e => exact hx
  | ok a => exact ⟨hx.1, hx.2, fun hr => h hr⟩

end FitsWhen

/-- A checked integer fits exactly when it lies in the range, and is then itself. -/
theorem checked_fits (n : Int) : FitsWhen (InWordRange n) (n = ·) (checked n) := by
  unfold checked
  split_ifs with h
  · exact ⟨h, rfl⟩
  · exact ⟨⟨n, rfl⟩, h⟩

namespace Frac

instance (a : Frac) : Decidable a.Stored := inferInstanceAs (Decidable (_ ∧ _ ∧ _ ∧ _))

theorem Stored.den_nonneg {a : Frac} (h : a.Stored) : 0 ≤ a.den := h.2.2.1

/-! ### The constructor -/

/-- The constructor checks both parts, and their negations when the denominator is
negative. -/
theorem make_fits (n d : Int) :
    FitsWhen (InWordRange n ∧ InWordRange d ∧ (d < 0 → InWordRange (-n) ∧ InWordRange (-d)))
      Stored (make n d) := by
  refine FitsWhen.of_results ?_ fun a h => stored_of_make h
  unfold make
  refine (checked_fits n).bind ?_
  rintro _ - rfl
  refine (checked_fits d).bind ?_
  rintro _ - rfl
  by_cases hneg : d < 0
  · rw [if_pos hneg]
    refine FitsWhen.of_iff (P := InWordRange (-n) ∧ InWordRange (-d)) (by simp [hneg]) ?_
    refine (checked_fits _).bind ?_
    rintro _ - rfl
    refine (checked_fits _).bind_last ?_
    rintro _ - rfl
    exact FitsWhen.pure trivial
  · rw [if_neg hneg]
    exact FitsWhen.of_iff (by simp [hneg]) (FitsWhen.pure trivial)

/-- The constructor gives a stored fraction back unchanged. -/
theorem make_of_stored {a : Frac} (h : a.Stored) : make a.num a.den = .ok a := by
  obtain ⟨hn, hd, hd0, hz⟩ := h
  simp only [make, checked_of_inWordRange hn, checked_of_inWordRange hd, if_neg (not_lt.2 hd0),
    bind, Except.bind, pure, Except.pure]
  split_ifs with h0
  · -- zero over a nonzero denominator is stored as `0/1` already
    rw [zero, ← h0.1, ← hz h0.1 h0.2]
  · rfl

/-! ### The operations -/

section Operations

variable {a b : Frac}

theorem Stored.den_mul_nonneg (ha : a.Stored) (hb : b.Stored) : 0 ≤ a.den * b.den :=
  Int.mul_nonneg ha.den_nonneg hb.den_nonneg

/-- The sum and the difference combine the two checked cross products by `f`, check the result
and the product of the denominators, and make the fraction. -/
theorem cross_fits (ha : a.Stored) (hb : b.Stored) (f : Int → Int → Int) :
    FitsWhen (InWordRange (a.num * b.den) ∧ InWordRange (a.den * b.num) ∧
      InWordRange (f (a.num * b.den) (a.den * b.num)) ∧ InWordRange (a.den * b.den)) Stored
      (do
        let x ← checked (a.num * b.den)
        let y ← checked (a.den * b.num)
        let n ← checked (f x y)
        let d ← checked (a.den * b.den)
        make n d) := by
  have hd : ¬ a.den * b.den < 0 := not_lt.2 (ha.den_mul_nonneg hb)
  refine (checked_fits _).bind ?_
  rintro _ - rfl
  refine (checked_fits _).bind ?_
  rintro _ - rfl
  refine (checked_fits _).bind ?_
  rintro _ hn rfl
  refine (checked_fits _).bind_last ?_
  rintro _ hd' rfl
  -- the constructor checks the same two integers again, and negates nothing
  exact (make_fits _ _).of_iff (by simp [hn, hd', hd])

/-- The sum checks the two cross products, their sum and the product of the denominators. -/
theorem add_fits (ha : a.Stored) (hb : b.Stored) :
    FitsWhen (InWordRange (a.num * b.den) ∧ InWordRange (a.den * b.num) ∧
      InWordRange (a.num * b.den + a.den * b.num) ∧ InWordRange (a.den * b.den)) Stored
      (a.add b) :=
  cross_fits ha hb (· + ·)

/-- The difference checks the two cross products, their difference and the product of the
denominators; the negated second product itself is not checked. -/
theorem sub_fits (ha : a.Stored) (hb : b.Stored) :
    FitsWhen (InWordRange (a.num * b.den) ∧ InWordRange (a.den * b.num) ∧
      InWordRange (a.num * b.den - a.den * b.num) ∧ InWordRange (a.den * b.den)) Stored
      (a.sub b) :=
  cross_fits ha hb fun x y => x + -y

/-- The product checks the product of the numerators and that of the denominators. -/
theorem mul_fits (ha : a.Stored) (hb : b.Stored) :
    FitsWhen (InWordRange (a.num * b.num) ∧ InWordRange (a.den * b.den)) Stored (a.mul b) := by
  have hd : ¬ a.den * b.den < 0 := not_lt.2 (ha.den_mul_nonneg hb)
  unfold mul
  refine (checked_fits _).bind ?_
  rintro _ hn rfl
  refine (checked_fits _).bind_last ?_
  rintro _ hd' rfl
  exact (make_fits _ _).of_iff (by simp [hn, hd', hd])

/-- The quotient checks the two cross products and, when the new denominator is negative, the
negations of both. -/
theorem div_fits (a b : Frac) :
    FitsWhen (InWordRange (a.num * b.den) ∧ InWordRange (a.den * b.num) ∧
      (a.den * b.num < 0 → InWordRange (-(a.num * b.den)) ∧ InWordRange (-(a.den * b.num))))
      Stored (a.div b) := by
  unfold div
  refine (checked_fits _).bind ?_
  rintro _ hn rfl
  refine (checked_fits _).bind ?_
  rintro _ hd rfl
  exact (make_fits _ _).of_iff (by simp [hn, hd])

/-- The negation checks the negated numerator, which leaves the range only for `-2^63`. -/
theorem neg_fits (ha : a.Stored) : FitsWhen (a.num ≠ wordMin) Stored a.neg := by
  have hn := ha.1
  have hd : ¬ a.den < 0 := not_lt.2 ha.den_nonneg
  unfold neg
  refine FitsWhen.of_iff ?_ ((checked_fits _).bind_last ?_)
  · unfold InWordRange wordMin wordMax at *
    omega
  · rintro _ hn' rfl
    exact (make_fits _ _).of_iff (by simp [hn', ha.2.1, hd])

/-- The inverse makes the numerator a denominator, negated when it is negative, which leaves the
range only for `-2^63`. -/
theorem inv_fits (ha : a.Stored) : FitsWhen (a.num ≠ wordMin) Stored a.inv := by
  obtain ⟨hn, hd, hd0, -⟩ := ha
  refine (make_fits _ _).of_iff ?_
  unfold InWordRange wordMin wordMax at *
  omega

theorem value_ne_zero (hd : 0 < a.den) (hn : a.num ≠ 0) : a.value ≠ 0 := by
  have hd' : (a.den : ℚ) ≠ 0 := by exact_mod_cast hd.ne'
  have hn' : (a.num : ℚ) ≠ 0 := by exact_mod_cast hn
  exact div_ne_zero hn' hd'

/-- Exact subtraction of defined fractions. -/
theorem sub_spec (ha : 0 < a.den) (hb : 0 < b.den) :
    Outcome Error.IsOverflow (fun c : Frac => c.value = a.value - b.value ∧ 0 < c.den)
      (a.sub b) := by
  have ha' : (a.den : ℚ) ≠ 0 := by exact_mod_cast ha.ne'
  have hb' : (b.den : ℚ) ≠ 0 := by exact_mod_cast hb.ne'
  unfold sub
  refine (checked_spec _).bind ?_
  rintro _ rfl
  refine (checked_spec _).bind ?_
  rintro _ rfl
  refine (checked_spec _).bind ?_
  rintro _ rfl
  refine (checked_spec _).bind ?_
  rintro _ rfl
  refine (make_spec _ _).mono (fun _ h => h) ?_
  rintro c ⟨hv, hd⟩
  refine ⟨?_, hd (Int.mul_pos ha hb).ne'⟩
  rw [hv, value, value, div_sub_div _ _ ha' hb']
  push_cast
  ring

/-- **Range checks of the arithmetic.** For stored fractions `a` and `b`, each operation fails,
with an overflow, exactly when one of the integers it forms leaves the 64-bit range, and
otherwise gives a stored fraction; on defined fractions (and a nonzero divisor) the result is
defined and exact. -/
theorem overflow_exactly_when_out_of_range (ha : a.Stored) (hb : b.Stored) :
    FitsWhen (InWordRange (a.num * b.den) ∧ InWordRange (a.den * b.num) ∧
        InWordRange (a.num * b.den + a.den * b.num) ∧ InWordRange (a.den * b.den))
      (fun c => c.Stored ∧ (0 < a.den ∧ 0 < b.den → c.value = a.value + b.value ∧ 0 < c.den))
      (a.add b) ∧
    FitsWhen (InWordRange (a.num * b.den) ∧ InWordRange (a.den * b.num) ∧
        InWordRange (a.num * b.den - a.den * b.num) ∧ InWordRange (a.den * b.den))
      (fun c => c.Stored ∧ (0 < a.den ∧ 0 < b.den → c.value = a.value - b.value ∧ 0 < c.den))
      (a.sub b) ∧
    FitsWhen (InWordRange (a.num * b.num) ∧ InWordRange (a.den * b.den))
      (fun c => c.Stored ∧ (0 < a.den ∧ 0 < b.den → c.value = a.value * b.value ∧ 0 < c.den))
      (a.mul b) ∧
    FitsWhen (InWordRange (a.num * b.den) ∧ InWordRange (a.den * b.num) ∧
        (a.den * b.num < 0 → InWordRange (-(a.num * b.den)) ∧ InWordRange (-(a.den * b.num))))
      (fun c => c.Stored ∧
        (0 < a.den ∧ 0 < b.den ∧ b.num ≠ 0 → c.value = a.value / b.value ∧ 0 < c.den))
      (a.div b) ∧
    FitsWhen (a.num ≠ wordMin) Stored a.neg ∧ FitsWhen (a.num ≠ wordMin) Stored a.inv :=
  ⟨(add_fits ha hb).and_imp fun h => add_spec h.1 h.2,
    (sub_fits ha hb).and_imp fun h => sub_spec h.1 h.2,
    (mul_fits ha hb).and_imp fun h => mul_spec h.1 h.2,
    (div_fits a b).and_imp fun h => div_spec h.1 (value_ne_zero h.2.1 h.2.2),
    neg_fits ha, inv_fits ha⟩

/-- At `a = -2^63` and `b = -1` the quotient overflows: its denominator `-1` is negative, and the
numerator `-2^63` cannot be negated. So does the negation of `a`, while the sum, the difference
and the product fit. -/
theorem overflow_exactly_when_out_of_range_at_word_min :
    (⟨wordMin, 1⟩ : Frac).Stored ∧ (⟨-1, 1⟩ : Frac).Stored ∧
    FitsWhen (InWordRange (wordMin * 1) ∧ InWordRange (1 * -1) ∧
        InWordRange (wordMin * 1 + 1 * -1) ∧ InWordRange (1 * 1))
      (fun c => c.Stored ∧ ((0 : Int) < 1 ∧ (0 : Int) < 1 →
        c.value = (⟨wordMin, 1⟩ : Frac).value + (⟨-1, 1⟩ : Frac).value ∧ 0 < c.den))
      ((⟨wordMin, 1⟩ : Frac).add ⟨-1, 1⟩) ∧
    FitsWhen (InWordRange (wordMin * 1) ∧ InWordRange (1 * -1) ∧
        InWordRange (wordMin * 1 - 1 * -1) ∧ InWordRange (1 * 1))
      (fun c => c.Stored ∧ ((0 : Int) < 1 ∧ (0 : Int) < 1 →
        c.value = (⟨wordMin, 1⟩ : Frac).value - (⟨-1, 1⟩ : Frac).value ∧ 0 < c.den))
      ((⟨wordMin, 1⟩ : Frac).sub ⟨-1, 1⟩) ∧
    FitsWhen (InWordRange (wordMin * -1) ∧ InWordRange (1 * 1))
      (fun c => c.Stored ∧ ((0 : Int) < 1 ∧ (0 : Int) < 1 →
        c.value = (⟨wordMin, 1⟩ : Frac).value * (⟨-1, 1⟩ : Frac).value ∧ 0 < c.den))
      ((⟨wordMin, 1⟩ : Frac).mul ⟨-1, 1⟩) ∧
    FitsWhen (InWordRange (wordMin * 1) ∧ InWordRange (1 * -1) ∧
        (1 * -1 < (0 : Int) → InWordRange (-(wordMin * 1)) ∧ InWordRange (-(1 * -1))))
      (fun c => c.Stored ∧ ((0 : Int) < 1 ∧ (0 : Int) < 1 ∧ (-1 : Int) ≠ 0 →
        c.value = (⟨wordMin, 1⟩ : Frac).value / (⟨-1, 1⟩ : Frac).value ∧ 0 < c.den))
      ((⟨wordMin, 1⟩ : Frac).div ⟨-1, 1⟩) ∧
    FitsWhen (wordMin ≠ wordMin) Stored (⟨wordMin, 1⟩ : Frac).neg ∧
    FitsWhen (wordMin ≠ wordMin) Stored (⟨wordMin, 1⟩ : Frac).inv :=
  have ha : (⟨wordMin, 1⟩ : Frac).Stored := by decide
  have hb : (⟨-1, 1⟩ : Frac).Stored := by decide
  ⟨ha, hb, overflow_exactly_when_out_of_range ha hb⟩

end Operations

/-! ### Lowest terms -/

section Lowest

variable {a : Frac}

/-- A factor of at least `1` of an integer in the range leaves the other factor in the range. -/
theorem inWordRange_of_mul_left {g q : Int} (h : InWordRange (g * q)) (hg : 1 ≤ g) :
    InWordRange q := by
  unfold InWordRange wordMin wordMax at *
  obtain ⟨h1, h2⟩ := h
  rcases le_or_gt 0 q with hq | hq
  · constructor <;> nlinarith
  · constructor <;> nlinarith

/-- A nonzero numerator and the denominator are divided by their greatest common divisor. -/
theorem reduce_of_num_ne_zero (h : a.num ≠ 0) :
    a.reduce = ⟨a.num / Int.gcd a.num a.den, a.den / Int.gcd a.num a.den⟩ := by
  simp [reduce, h]

/-- With a nonzero numerator, the parts of a fraction are those of its lowest terms times their
greatest common divisor, which is at least `1`. -/
theorem reduce_cofactors (h : a.num ≠ 0) :
    a.num = Int.gcd a.num a.den * a.reduce.num ∧ a.den = Int.gcd a.num a.den * a.reduce.den ∧
      (1 : Int) ≤ Int.gcd a.num a.den := by
  rw [reduce_of_num_ne_zero h]
  refine ⟨(Int.mul_ediv_cancel' (Int.gcd_dvd_left _ _)).symm,
    (Int.mul_ediv_cancel' (Int.gcd_dvd_right _ _)).symm, ?_⟩
  exact_mod_cast Int.gcd_pos_of_ne_zero_left a.den h

/-- Lowest terms keep the cross products. -/
theorem reduce_cross (a : Frac) : a.reduce.num * a.den = a.num * a.reduce.den := by
  by_cases h : a.num = 0
  · simp [h, zero]
  · obtain ⟨hn, hd, -⟩ := reduce_cofactors h
    -- both sides are the gcd times the product of the reduced parts
    calc a.reduce.num * a.den
        = a.reduce.num * (Int.gcd a.num a.den * a.reduce.den) := by rw [← hd]
      _ = Int.gcd a.num a.den * a.reduce.num * a.reduce.den := by ring
      _ = a.num * a.reduce.den := by rw [← hn]

/-- The lowest terms of a stored fraction are stored. -/
theorem stored_reduce (h : a.Stored) : a.reduce.Stored := by
  by_cases hn : a.num = 0
  · rw [reduce_zero_num hn]
    decide
  · obtain ⟨hnum, hden, hg⟩ := reduce_cofactors hn
    generalize Int.gcd a.num a.den = g at hnum hden hg
    have hnum' : InWordRange (g * a.reduce.num) := by rw [← hnum]; exact h.1
    have hden' : InWordRange (g * a.reduce.den) := by rw [← hden]; exact h.2.1
    have hden0 : 0 ≤ g * a.reduce.den := by rw [← hden]; exact h.den_nonneg
    refine ⟨inWordRange_of_mul_left hnum' hg, inWordRange_of_mul_left hden' hg,
      Int.nonneg_of_mul_nonneg_right hden0 (by omega), fun h0 _ => ?_⟩
    -- a zero numerator in lowest terms comes only from a zero numerator
    rw [h0, Int.mul_zero] at hnum
    exact absurd hnum hn

/-- A nonzero numerator over a zero denominator reduces to its sign over `0`. -/
theorem reduce_of_den_eq_zero (hn : a.num ≠ 0) (hd : a.den = 0) : a.reduce = ⟨a.num.sign, 0⟩ := by
  rw [reduce_of_num_ne_zero hn, hd, Int.gcd_zero_right, Int.natCast_natAbs,
    ← Int.sign_eq_ediv_abs', Int.zero_ediv]

/-- A coprime pair with a nonzero numerator is in lowest terms already. -/
theorem reduce_of_gcd_eq_one (hn : a.num ≠ 0) (h : Int.gcd a.num a.den = 1) : a.reduce = a := by
  simp [reduce_of_num_ne_zero hn, h]

/-- Reducing twice changes nothing. -/
@[simp] theorem reduce_reduce (a : Frac) : a.reduce.reduce = a.reduce := by
  by_cases hn : a.num = 0
  · rw [reduce_zero_num hn]
    exact reduce_zero_num rfl
  · have hn' : a.reduce.num ≠ 0 := by
      intro h0
      have := (reduce_cofactors hn).1
      rw [h0, Int.mul_zero] at this
      exact hn this
    refine reduce_of_gcd_eq_one hn' ?_
    rw [reduce_of_num_ne_zero hn]
    exact Int.gcd_div_gcd_div_gcd (Int.gcd_pos_of_ne_zero_left _ hn)

theorem same_iff_reduce_eq {a b : Frac} : a.same b = true ↔ a.reduce = b.reduce := by
  rw [same, beq_iff_eq]

/-- Being the same in lowest terms is an equivalence on all fractions. -/
theorem same_equivalence : Equivalence (fun a b : Frac => a.same b = true) where
  refl _ := same_iff_reduce_eq.2 rfl
  symm h := same_iff_reduce_eq.2 (same_iff_reduce_eq.1 h).symm
  trans h h' := same_iff_reduce_eq.2 ((same_iff_reduce_eq.1 h).trans (same_iff_reduce_eq.1 h'))

/-- Two defined fractions are the same in lowest terms exactly when their cross products
agree. -/
theorem same_iff_cross {a b : Frac} (ha : 0 < a.den) (hb : 0 < b.den) :
    a.same b = true ↔ a.num * b.den = b.num * a.den := by
  have ha' : (a.den : ℚ) ≠ 0 := by exact_mod_cast ha.ne'
  have hb' : (b.den : ℚ) ≠ 0 := by exact_mod_cast hb.ne'
  rw [same_iff_value ha hb, value, value, div_eq_div_iff ha' hb']
  exact_mod_cast Iff.rfl

/-- **Lowest terms.** A stored fraction reduces to a pair that the constructor takes unchanged:
`0/1` for a zero numerator, its sign over `0` for a zero denominator, and otherwise a coprime
pair with a positive denominator and the same cross products. Reducing twice changes nothing;
being the same in lowest terms is an equivalence, and on defined fractions it is the equality of
the cross products. -/
theorem reduce_lowest_terms (r : Frac) (hr : r.Stored) :
    r.reduce.Stored ∧ make r.reduce.num r.reduce.den = .ok r.reduce ∧
    (r.num = 0 → r.reduce = zero) ∧
    (r.num ≠ 0 → r.den = 0 → r.reduce = ⟨r.num.sign, 0⟩) ∧
    (r.num ≠ 0 → r.den ≠ 0 → r.reduce.Lowest ∧ r.reduce.num * r.den = r.num * r.reduce.den) ∧
    r.reduce.reduce = r.reduce ∧
    Equivalence (fun a b : Frac => a.same b = true) ∧
    ∀ a b : Frac, 0 < a.den → 0 < b.den → (a.same b = true ↔ a.num * b.den = b.num * a.den) := by
  have hs := stored_reduce hr
  refine ⟨hs, make_of_stored hs, reduce_zero_num, reduce_of_den_eq_zero, fun _ hd => ?_,
    reduce_reduce r, same_equivalence, fun _ _ => same_iff_cross⟩
  -- a stored denominator that is not zero is positive
  have hpos : 0 < r.den := lt_of_le_of_ne hr.den_nonneg (Ne.symm hd)
  exact ⟨lowest_reduce hpos, reduce_cross r⟩

/-- `-4/10` reduces to `-2/5`. -/
theorem reduce_lowest_terms_minus_four_tenths :
    (⟨-4, 10⟩ : Frac).Stored ∧
    (⟨-4, 10⟩ : Frac).reduce.Stored ∧
      make (⟨-4, 10⟩ : Frac).reduce.num (⟨-4, 10⟩ : Frac).reduce.den = .ok (⟨-4, 10⟩ : Frac).reduce ∧
    ((-4 : Int) = 0 → (⟨-4, 10⟩ : Frac).reduce = zero) ∧
    ((-4 : Int) ≠ 0 → (10 : Int) = 0 → (⟨-4, 10⟩ : Frac).reduce = ⟨(-4 : Int).sign, 0⟩) ∧
    ((-4 : Int) ≠ 0 → (10 : Int) ≠ 0 → (⟨-4, 10⟩ : Frac).reduce.Lowest ∧
      (⟨-4, 10⟩ : Frac).reduce.num * 10 = -4 * (⟨-4, 10⟩ : Frac).reduce.den) ∧
    (⟨-4, 10⟩ : Frac).reduce.reduce = (⟨-4, 10⟩ : Frac).reduce ∧
    Equivalence (fun a b : Frac => a.same b = true) ∧
    ∀ a b : Frac, 0 < a.den → 0 < b.den → (a.same b = true ↔ a.num * b.den = b.num * a.den) :=
  have hr : (⟨-4, 10⟩ : Frac).Stored := by decide
  ⟨hr, reduce_lowest_terms _ hr⟩

example : (⟨-4, 10⟩ : Frac).reduce = ⟨-2, 5⟩ := by decide

end Lowest

/-! ### Units -/

section Units

variable {a : Frac}

theorem inWordRange_zero : InWordRange 0 := by decide

/-- Zero over a positive denominator in the range is stored as `0/1`. -/
theorem make_zero {d : Int} (hd : InWordRange d) (hpos : 0 < d) : make 0 d = .ok zero := by
  simp only [make, checked_of_inWordRange inWordRange_zero, checked_of_inWordRange hd,
    if_neg (not_lt.2 hpos.le), bind, Except.bind, pure, Except.pure, ne_eq, hpos.ne',
    not_false_eq_true, and_self, if_true]

theorem add_zero_of_stored (h : a.Stored) : a.add zero = .ok a := by
  simp only [add, zero, Int.mul_one, Int.mul_zero, Int.add_zero, checked_of_inWordRange h.1,
    checked_of_inWordRange h.2.1, checked_of_inWordRange inWordRange_zero, bind, Except.bind]
  exact make_of_stored h

theorem zero_add_of_stored (h : a.Stored) : zero.add a = .ok a := by
  simp only [add, zero, Int.one_mul, Int.zero_mul, Int.zero_add, checked_of_inWordRange h.1,
    checked_of_inWordRange h.2.1, checked_of_inWordRange inWordRange_zero, bind, Except.bind]
  exact make_of_stored h

theorem mul_one_of_stored (h : a.Stored) : a.mul one = .ok a := by
  simp only [mul, one, Int.mul_one, checked_of_inWordRange h.1, checked_of_inWordRange h.2.1,
    bind, Except.bind]
  exact make_of_stored h

theorem one_mul_of_stored (h : a.Stored) : one.mul a = .ok a := by
  simp only [mul, one, Int.one_mul, checked_of_inWordRange h.1, checked_of_inWordRange h.2.1,
    bind, Except.bind]
  exact make_of_stored h

theorem mul_zero_of_pos (h : a.Stored) (hd : 0 < a.den) : a.mul zero = .ok zero := by
  simp only [mul, zero, Int.mul_zero, Int.mul_one, checked_of_inWordRange inWordRange_zero,
    checked_of_inWordRange h.2.1, bind, Except.bind]
  exact make_zero h.2.1 hd

theorem zero_mul_of_pos (h : a.Stored) (hd : 0 < a.den) : zero.mul a = .ok zero := by
  simp only [mul, zero, Int.zero_mul, Int.one_mul, checked_of_inWordRange inWordRange_zero,
    checked_of_inWordRange h.2.1, bind, Except.bind]
  exact make_zero h.2.1 hd

end Units

end Frac

end Frac64
