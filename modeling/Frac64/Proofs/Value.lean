import Frac64.Frac.Basic
import Mathlib.Data.Rat.Lemmas
import Mathlib.Algebra.Order.Field.Basic
import Mathlib.Data.Int.Cast.Field
import Mathlib.Tactic.Ring
import Mathlib.Tactic.Positivity

/-!
# The values of fractions

A fraction stands for the rational `num / den` (`Frac.value`). The checked arithmetic of
`Frac` is exact: when an operation does not overflow, its result stands for the sum,
product or quotient of the values it was given, and positive denominators stay positive
as long as nothing is divided by zero. `Frac.reduce` keeps the value and gives lowest
terms, and two fractions in lowest terms with one value are the same pair.

Every failure of this arithmetic is an overflow. A computation built from it is described
by an `Outcome`: a property of the result it gives, or of the error it stops with.

## Main definitions

* `Frac.Lowest` — lowest terms: a positive denominator, coprime to the numerator.
* `Error.IsOverflow` — the error of an integer leaving the 64-bit range.
* `Outcome` — what a computation in `Except Error` gives.

## Main results

* `Frac.add_spec`, `Frac.mul_spec`, `Frac.div_spec` — the arithmetic is exact.
* `Frac.lowest_reduce`, `Frac.eq_of_lowest` — lowest terms, and their uniqueness.
* `Outcome.bind` — outcomes compose along a computation.
-/

namespace Frac64

/-- The error of an integer result outside the signed 64-bit range. -/
def Error.IsOverflow (e : Error) : Prop := ∃ v, e = .overflow v

@[simp] theorem Error.isOverflow_overflow (v : Int) : (Error.overflow v).IsOverflow := ⟨v, rfl⟩

/-! ### Outcomes -/

/-- What a computation that may fail gives: a result with the property `good`, or an error
with the property `bad`. -/
def Outcome {α : Type} (bad : Error → Prop) (good : α → Prop) : Except Error α → Prop
  | .ok a => good a
  | .error e => bad e

namespace Outcome

variable {α β : Type} {bad : Error → Prop}

@[simp] theorem ok_iff {good : α → Prop} {a : α} : Outcome bad good (.ok a) ↔ good a := Iff.rfl

@[simp] theorem error_iff {good : α → Prop} {e : Error} :
    Outcome bad good (.error e : Except Error α) ↔ bad e := Iff.rfl

theorem of_ok {good : α → Prop} {x : Except Error α} {a : α} (h : Outcome bad good x)
    (hx : x = .ok a) : good a := by
  subst hx
  exact h

theorem of_error {good : α → Prop} {x : Except Error α} {e : Error} (h : Outcome bad good x)
    (hx : x = .error e) : bad e := by
  subst hx
  exact h

theorem mono {good good' : α → Prop} {bad' : Error → Prop} {x : Except Error α}
    (h : Outcome bad good x) (hb : ∀ e, bad e → bad' e) (hg : ∀ a, good a → good' a) :
    Outcome bad' good' x := by
  cases x with
  | error e => exact hb e h
  | ok a => exact hg a h

/-- An outcome of each step of a computation gives an outcome of the whole. -/
theorem bind {good : α → Prop} {good' : β → Prop} {x : Except Error α}
    {f : α → Except Error β} (hx : Outcome bad good x) (hf : ∀ a, good a → Outcome bad good' (f a)) :
    Outcome bad good' (x >>= f) := by
  cases x with
  | error e => exact hx
  | ok a => exact hf a hx

theorem pure {good : α → Prop} {a : α} (h : good a) :
    Outcome bad good (Pure.pure a : Except Error α) := h

@[simp] theorem ok_bind {good : β → Prop} {a : α} {f : α → Except Error β} :
    Outcome bad good (Except.ok a >>= f) ↔ Outcome bad good (f a) := Iff.rfl

theorem map {good : α → Prop} {good' : β → Prop} {x : Except Error α} {f : α → β}
    (hx : Outcome bad good x) (hf : ∀ a, good a → good' (f a)) : Outcome bad good' (f <$> x) := by
  cases x with
  | error e => exact hx
  | ok a => exact hf a hx

/-- A computation with no good result fails, with an error of the stated kind. -/
theorem exists_error {x : Except Error α} (h : Outcome bad (fun _ => False) x) :
    ∃ e, x = .error e ∧ bad e := by
  cases x with
  | error e => exact ⟨e, rfl, h⟩
  | ok a => exact h.elim

/-- A map over a list whose every call has an outcome relating it to its argument gives the
list of results, related element by element. -/
theorem mapM {R : α → β → Prop} {f : α → Except Error β} :
    ∀ l : List α, (∀ x ∈ l, Outcome bad (R x) (f x)) → Outcome bad (List.Forall₂ R l) (l.mapM f)
  | [], _ => Outcome.pure List.Forall₂.nil
  | x :: l, h => by
    rw [List.mapM_cons]
    refine (h x (by simp)).bind fun y hy => ?_
    refine (mapM l fun z hz => h z (by simp [hz])).bind fun ys hys => ?_
    exact Outcome.pure (List.Forall₂.cons hy hys)

/-- A loop over `start, …, start + len - 1` keeps an invariant indexed by the step it is at,
when each step does. -/
theorem foldlM_range' {f : α → ℕ → Except Error α} {I : ℕ → α → Prop} :
    ∀ (len start : ℕ) (x : α), I start x →
      (∀ r y, start ≤ r → r < start + len → I r y → Outcome bad (I (r + 1)) (f y r)) →
      Outcome bad (I (start + len)) ((List.range' start len).foldlM f x) := by
  intro len
  induction len with
  | zero =>
    intro start x hx _
    simpa using (Outcome.pure hx : Outcome bad (I start) (Pure.pure x))
  | succ len ih =>
    intro start x hx hstep
    rw [List.range'_succ, List.foldlM_cons]
    refine (hstep start x le_rfl (by omega) hx).bind fun y hy => ?_
    have := ih (start + 1) y hy fun r z h1 h2 => hstep r z (by omega) (by omega)
    rwa [show start + 1 + len = start + (len + 1) by omega] at this

/-- A loop over `0, …, k - 1` keeps an invariant indexed by the step it is at, when each step
does. -/
theorem foldlM_range {f : α → ℕ → Except Error α} {I : ℕ → α → Prop} (k : ℕ) (x : α)
    (hx : I 0 x) (hstep : ∀ r y, r < k → I r y → Outcome bad (I (r + 1)) (f y r)) :
    Outcome bad (I k) ((List.range k).foldlM f x) := by
  rw [List.range_eq_range']
  simpa using foldlM_range' k 0 x hx fun r y _ h => hstep r y (by omega)

/-- A loop over `k - 1, …, 0` keeps an invariant indexed by the step it is at, counting
down, when each step does. -/
theorem foldlM_range_reverse {f : α → ℕ → Except Error α} {I : ℕ → α → Prop} :
    ∀ (k : ℕ) (x : α), I k x → (∀ r y, r < k → I (r + 1) y → Outcome bad (I r) (f y r)) →
      Outcome bad (I 0) ((List.range k).reverse.foldlM f x) := by
  intro k
  induction k with
  | zero =>
    intro x hx _
    simpa using (Outcome.pure hx : Outcome bad (I 0) (Pure.pure x))
  | succ k ih =>
    intro x hx hstep
    rw [List.range_succ, List.reverse_append, List.reverse_singleton, List.singleton_append,
      List.foldlM_cons]
    exact (hstep k x (by omega) hx).bind fun y hy => ih y hy fun r z hr => hstep r z (by omega)

end Outcome

/-- A checked integer is itself, or the overflow error. -/
theorem checked_spec (n : Int) : Outcome Error.IsOverflow (n = ·) (checked n) := by
  unfold checked
  split_ifs
  · rfl
  · exact ⟨n, rfl⟩

namespace Frac

/-! ### Arithmetic -/

/-- The constructor keeps the value `n / d`, and a nonzero denominator becomes positive. -/
theorem make_spec (n d : Int) :
    Outcome Error.IsOverflow (fun a : Frac => a.value = n / d ∧ (d ≠ 0 → 0 < a.den))
      (make n d) := by
  unfold make
  refine (checked_spec n).bind ?_
  rintro _ rfl
  refine (checked_spec d).bind ?_
  rintro _ rfl
  by_cases hneg : d < 0
  · -- the signs of both parts move; zero over a nonzero denominator is `0/1`
    simp only [hneg, if_true]
    refine (checked_spec (-n)).bind ?_
    rintro _ rfl
    refine (checked_spec (-d)).bind ?_
    rintro _ rfl
    simp only [pure_bind]
    refine Outcome.pure ?_
    split_ifs with hz
    · simp [value, zero, neg_eq_zero.mp hz.1]
    · exact ⟨by simp [value, neg_div_neg_eq], fun _ => by show 0 < -d; omega⟩
  · simp only [hneg, if_false, pure_bind]
    refine Outcome.pure ?_
    split_ifs with hz
    · simp [value, zero, hz.1]
    · exact ⟨rfl, fun hd0 => by show 0 < d; omega⟩

section Arithmetic

variable {a b : Frac}

/-- Exact addition of defined fractions. -/
theorem add_spec (ha : 0 < a.den) (hb : 0 < b.den) :
    Outcome Error.IsOverflow (fun c : Frac => c.value = a.value + b.value ∧ 0 < c.den)
      (a.add b) := by
  have ha' : (a.den : ℚ) ≠ 0 := by exact_mod_cast ha.ne'
  have hb' : (b.den : ℚ) ≠ 0 := by exact_mod_cast hb.ne'
  unfold add
  refine (checked_spec _).bind ?_
  rintro _ rfl
  refine (checked_spec _).bind ?_
  rintro _ rfl
  refine (checked_spec _).bind ?_
  rintro _ rfl
  refine (checked_spec _).bind ?_
  rintro _ rfl
  refine (make_spec _ _).mono (fun _ h => h) ?_
  rintro c ⟨hv, hd⟩
  refine ⟨?_, hd (Int.mul_pos ha hb).ne'⟩
  rw [hv, value, value, div_add_div _ _ ha' hb']
  push_cast
  ring

/-- Exact multiplication of defined fractions. -/
theorem mul_spec (ha : 0 < a.den) (hb : 0 < b.den) :
    Outcome Error.IsOverflow (fun c : Frac => c.value = a.value * b.value ∧ 0 < c.den)
      (a.mul b) := by
  unfold mul
  refine (checked_spec _).bind ?_
  rintro _ rfl
  refine (checked_spec _).bind ?_
  rintro _ rfl
  refine (make_spec _ _).mono (fun _ h => h) ?_
  rintro c ⟨hv, hd⟩
  refine ⟨?_, hd (Int.mul_pos ha hb).ne'⟩
  rw [hv, value, value, div_mul_div_comm]
  push_cast
  rfl

/-- Exact division of defined fractions by a nonzero one. -/
theorem div_spec (ha : 0 < a.den) (hb0 : b.value ≠ 0) :
    Outcome Error.IsOverflow (fun c : Frac => c.value = a.value / b.value ∧ 0 < c.den)
      (a.div b) := by
  have hbn : b.num ≠ 0 := by
    intro h0
    simp [value, h0] at hb0
  unfold div
  refine (checked_spec _).bind ?_
  rintro _ rfl
  refine (checked_spec _).bind ?_
  rintro _ rfl
  refine (make_spec _ _).mono (fun _ h => h) ?_
  rintro c ⟨hv, hd⟩
  refine ⟨?_, hd (Int.mul_ne_zero ha.ne' hbn)⟩
  rw [hv, value, value, div_div_div_eq]
  push_cast
  ring

end Arithmetic

/-! ### Lowest terms -/

/-- A fraction in lowest terms: a positive denominator with no factor in common with the
numerator. -/
def Lowest (a : Frac) : Prop := 0 < a.den ∧ Int.gcd a.num a.den = 1

/-- Reducing keeps the value. -/
@[simp] theorem value_reduce (a : Frac) : a.reduce.value = a.value := by
  unfold reduce
  split_ifs with h
  · simp [value, zero, h]
  · -- both parts are multiples of the divisor, which cancels
    have hg : ((Int.gcd a.num a.den : Int) : ℚ) ≠ 0 := by
      exact_mod_cast (Int.gcd_pos_of_ne_zero_left a.den h).ne'
    simp only [value]
    rw [Int.cast_div (Int.gcd_dvd_left _ _) hg, Int.cast_div (Int.gcd_dvd_right _ _) hg,
      div_div_div_cancel_right₀ hg]

theorem den_pos_reduce {a : Frac} (h : 0 < a.den) : 0 < a.reduce.den := by
  unfold reduce
  split_ifs with hn
  · simp [zero]
  · exact Int.ediv_pos_of_pos_of_dvd h (by positivity) (Int.gcd_dvd_right _ _)

/-- A defined fraction reduces to lowest terms. -/
theorem lowest_reduce {a : Frac} (h : 0 < a.den) : a.reduce.Lowest := by
  refine ⟨den_pos_reduce h, ?_⟩
  unfold reduce
  split_ifs with hn
  · simp [zero]
  · exact Int.gcd_div_gcd_div_gcd (Int.gcd_pos_of_ne_zero_left _ hn)

/-- A fraction in lowest terms is determined by its value. -/
theorem eq_of_lowest {a b : Frac} (ha : a.Lowest) (hb : b.Lowest) (h : a.value = b.value) :
    a = b := by
  obtain ⟨hn, hd⟩ := Rat.div_int_inj ha.1 hb.1 ha.2 hb.2 h
  cases a
  cases b
  simp_all

theorem lowest_zero : zero.Lowest := ⟨by decide, by decide⟩

theorem lowest_one : one.Lowest := ⟨by decide, by decide⟩

@[simp] theorem value_zero : zero.value = 0 := by simp [value, zero]

@[simp] theorem value_one : one.value = 1 := by simp [value, one]

/-- A defined fraction is zero exactly when its value is. -/
theorem isZero_iff_value {a : Frac} (h : 0 < a.den) : a.isZero = true ↔ a.value = 0 := by
  rw [isZero_iff_num_eq_zero, value, div_eq_zero_iff]
  have : (a.den : ℚ) ≠ 0 := by exact_mod_cast h.ne'
  simp [this]

/-- Two defined fractions are the same in lowest terms exactly when their values are
equal. -/
theorem same_iff_value {a b : Frac} (ha : 0 < a.den) (hb : 0 < b.den) :
    a.same b = true ↔ a.value = b.value := by
  rw [same, beq_iff_eq]
  constructor
  · intro h
    rw [← value_reduce a, h, value_reduce]
  · intro h
    refine eq_of_lowest (lowest_reduce ha) (lowest_reduce hb) ?_
    rw [value_reduce, value_reduce, h]

end Frac

end Frac64
