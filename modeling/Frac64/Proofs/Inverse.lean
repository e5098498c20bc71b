import Frac64.Proofs.BackSubstitution
import Frac64.Proofs.Product

/-!
# Solutions and inverses

A strict reduced echelon form of a square matrix `A` has the identity on its left, so the row
transformation `E` that produced it has `E A = 1`: `E` is the inverse of `A`. The transformed
right-hand side `E B` is then the one solution of `A X = B`, and the transformed identity is
`A⁻¹`. The products of `A` with the inverse so found are the identity as far as they can be
computed: `Mat.mul` either overflows or gives a matrix equal to the identity. It can overflow
although the inverse did not (`Mat.inverse_product_overflows`).

## Main results

* `Mat.solve_strict_spec` — a strict solution solves the system, and is its only solution.
* `Mat.inverse_strict_spec` — a strict inverse is the inverse.
* `Mat.reducedEchelon_strict_correct` — **strict reduced echelon forms, solutions and
  inverses are what they claim to be.**
-/

namespace Frac64

namespace Mat

variable {m q : ℕ}

/-- A square reduced echelon form is the identity. -/
theorem ReducedOf.val_left {p : Mat × Mat} {r x : Mat} (h : ReducedOf m m q p r x) :
    r.val m m = 1 := by
  ext t j
  rw [val_apply, h.identity t j t.2 (by rw [min_self]; exact j.2), Matrix.one_apply]
  by_cases htj : t = j
  · simp [htj]
  · simp [htj, Fin.val_ne_of_ne htj]

/-- The row transformation giving a square reduced echelon form is the inverse of the
matrix. -/
theorem ReducedOf.exists_inverse {a b r x : Mat} (h : ReducedOf m m q (a, b) r x) :
    ∃ E, E * a.val m m = 1 ∧ a.val m m * E = 1 ∧ x.val m q = E * b.val m q := by
  obtain ⟨E, -, h1, h2⟩ := h.transformed
  have hEA : E * a.val m m = 1 := by
    rw [← h.val_left]
    exact h1.symm
  exact ⟨E, hEA, mul_eq_one_comm.mp hEA, h2⟩

/-- A strict reduced echelon form that is returned is a reduced echelon form of the input. -/
theorem reducedOf_of_ok {n : ℕ} {a b r : Mat} {o : Option Mat} (ha : a.Sized m n)
    (hb : b.Sized m q) (hda : a.Defined) (hdb : b.Defined)
    (h : reducedEchelon a (some b) true = .ok (r, o)) :
    ∃ x, o = some x ∧ ReducedOf m n q (a, b) r x :=
  (reducedEchelon_strict_spec ha hb hda hdb).of_ok h

/-- A strict solution of a square system solves it, and is its only solution. -/
theorem solve_strict_spec {a b x : Mat} (ha : a.Sized m m) (hb : b.Sized m q) (hda : a.Defined)
    (hdb : b.Defined) (h : solve a (some b) true = .ok (some x)) :
    a.val m m * x.val m q = b.val m q ∧ ∀ y, a.val m m * y = b.val m q → y = x.val m q := by
  unfold solve at h
  cases hr : reducedEchelon a (some b) true with
  | error e =>
    rw [hr] at h
    cases h
  | ok res =>
    obtain ⟨r, o⟩ := res
    rw [hr] at h
    have ho : o = some x := Except.ok.inj h
    obtain ⟨x', hx', hred⟩ := reducedOf_of_ok ha hb hda hdb hr
    obtain rfl : x' = x := Option.some.inj (hx'.symm.trans ho)
    obtain ⟨E, hEA, hAE, hx⟩ := hred.exists_inverse
    refine ⟨by rw [hx, ← Matrix.mul_assoc, hAE, Matrix.one_mul], fun y hy => ?_⟩
    -- a solution `y` is `E (A y) = E b`
    calc y = E * (a.val m m * y) := by rw [← Matrix.mul_assoc, hEA, Matrix.one_mul]
      _ = x'.val m q := by rw [hy, hx]

theorem identity_zero : identity (0 : ℕ) = .error (.invalidSize 0 0) := rfl

/-- A strict inverse of a square matrix is its inverse, defined and of its size. -/
theorem inverse_strict_spec {a x : Mat} (ha : a.Sized m m) (hda : a.Defined)
    (h : inverse a true = .ok x) :
    0 < m ∧ x.Sized m m ∧ x.Defined ∧ a.val m m * x.val m m = 1 ∧ x.val m m * a.val m m = 1 := by
  unfold inverse at h
  rw [if_neg (by rw [ha.rows_eq, ha.cols_eq]; exact not_not.2 rfl), ha.rows_eq] at h
  rcases Nat.eq_zero_or_pos m with rfl | hm
  · -- there is no identity of size zero
    rw [identity_zero] at h
    cases h
  obtain ⟨e, he, hes, hel, hev⟩ := identity_spec hm
  rw [he] at h
  cases hr : reducedEchelon a (some e) true with
  | error err =>
    simp [bind, Except.bind, hr] at h
  | ok res =>
    obtain ⟨r, o⟩ := res
    simp only [bind, Except.bind, hr, pure, Except.pure, Except.ok.injEq] at h
    obtain ⟨x', rfl, hred⟩ := reducedOf_of_ok ha hes hda hel.defined hr
    obtain rfl : x' = x := h
    obtain ⟨E, hEA, hAE, hx⟩ := hred.exists_inverse
    rw [hev, Matrix.mul_one] at hx
    exact ⟨hm, hred.tableau.right, hred.tableau.right_defined, by rw [hx, hAE], by rw [hx, hEA]⟩

/-- The product of two square matrices whose values multiply to the identity is equal to the
identity, or overflows. -/
theorem mul_equals_identity {a b : Mat} (ha : a.Sized m m) (hb : b.Sized m m) (hda : a.Defined)
    (hdb : b.Defined) (hm : 0 < m) (hab : a.val m m * b.val m m = 1) :
    Outcome Error.IsOverflow (fun c => ∃ e, identity m = .ok e ∧ c.equals e = true) (a.mul b) := by
  obtain ⟨e, he, hes, hel, hev⟩ := identity_spec hm
  refine (mul_spec ha hb hda hdb hm hm).mono (fun _ h => h) ?_
  rintro c ⟨hcs, hcd, hcv⟩
  exact ⟨e, he, (equals_iff hcs hes hcd hel.defined).2 (by rw [hcv, hab, hev])⟩

/-- **Strict reduced echelon forms, solutions and inverses.** For a defined `m × n` matrix `a`
and a defined `m × q` matrix `b`, a strict reduced echelon form of `[a | b]` that is returned
is in lowest terms, has the identity in its first `min m n` columns, and is one invertible row
transformation of `a` and `b`. When `a` is square, a strict solution of `a x = b` solves it
and is its only solution, and a strict inverse is the inverse: its products with `a`, when
they do not overflow, are equal to the identity. -/
theorem reducedEchelon_strict_correct {n : ℕ} {a b : Mat} (ha : a.Sized m n) (hb : b.Sized m q)
    (hda : a.Defined) (hdb : b.Defined) :
    (∀ r x, reducedEchelon a (some b) true = .ok (r, some x) →
      r.Lowest ∧ x.Lowest ∧
      (∀ t j, t < m → j < min m n → r.entry t j = if t = j then Frac.one else Frac.zero) ∧
      ∃ E : Matrix (Fin m) (Fin m) ℚ, IsUnit E ∧
        r.val m n = E * a.val m n ∧ x.val m q = E * b.val m q) ∧
    (m = n → ∀ x, solve a (some b) true = .ok (some x) →
      a.val m m * x.val m q = b.val m q ∧ ∀ y, a.val m m * y = b.val m q → y = x.val m q) ∧
    (m = n → ∀ x, inverse a true = .ok x →
      a.val m m * x.val m m = 1 ∧ x.val m m * a.val m m = 1 ∧
      Outcome Error.IsOverflow (fun c => ∃ e, identity m = .ok e ∧ c.equals e = true) (a.mul x) ∧
      Outcome Error.IsOverflow (fun c => ∃ e, identity m = .ok e ∧ c.equals e = true) (x.mul a)) := by
  refine ⟨fun r x h => ?_, ?_, ?_⟩
  · obtain ⟨x', hx', hred⟩ := reducedOf_of_ok ha hb hda hdb h
    obtain rfl := Option.some.inj hx'
    obtain ⟨E, hE, h1, h2⟩ := hred.transformed
    exact ⟨hred.lowest.1, hred.lowest.2, hred.identity, E, hE, h1, h2⟩
  · rintro rfl x h
    exact solve_strict_spec ha hb hda hdb h
  · rintro rfl x h
    obtain ⟨hm, hxs, hxd, hax, hxa⟩ := inverse_strict_spec ha hda h
    exact ⟨hax, hxa, mul_equals_identity ha hxs hda hxd hm hax,
      mul_equals_identity hxs ha hxd hda hm hxa⟩

/-- The system `[[2, 1], [1, 1]] x = [[1], [0]]` meets the hypotheses, and its strict solution
`[[1], [-1]]` solves it. -/
theorem reducedEchelon_strict_correct_solves :
    (⟨2, 2, [[⟨2, 1⟩, ⟨1, 1⟩], [⟨1, 1⟩, ⟨1, 1⟩]]⟩ : Mat).Sized 2 2 ∧
    (⟨2, 1, [[⟨1, 1⟩], [⟨0, 1⟩]]⟩ : Mat).Sized 2 1 ∧
    (⟨2, 2, [[⟨2, 1⟩, ⟨1, 1⟩], [⟨1, 1⟩, ⟨1, 1⟩]]⟩ : Mat).Defined ∧
    (⟨2, 1, [[⟨1, 1⟩], [⟨0, 1⟩]]⟩ : Mat).Defined ∧
    solve ⟨2, 2, [[⟨2, 1⟩, ⟨1, 1⟩], [⟨1, 1⟩, ⟨1, 1⟩]]⟩ (some ⟨2, 1, [[⟨1, 1⟩], [⟨0, 1⟩]]⟩) true =
      .ok (some ⟨2, 1, [[⟨1, 1⟩], [⟨-1, 1⟩]]⟩) ∧
    (⟨2, 2, [[⟨2, 1⟩, ⟨1, 1⟩], [⟨1, 1⟩, ⟨1, 1⟩]]⟩ : Mat).val 2 2 *
        (⟨2, 1, [[⟨1, 1⟩], [⟨-1, 1⟩]]⟩ : Mat).val 2 1 =
      (⟨2, 1, [[⟨1, 1⟩], [⟨0, 1⟩]]⟩ : Mat).val 2 1 := by
  have ha : (⟨2, 2, [[⟨2, 1⟩, ⟨1, 1⟩], [⟨1, 1⟩, ⟨1, 1⟩]]⟩ : Mat).Sized 2 2 := by decide
  have hb : (⟨2, 1, [[⟨1, 1⟩], [⟨0, 1⟩]]⟩ : Mat).Sized 2 1 := by decide
  have hda : (⟨2, 2, [[⟨2, 1⟩, ⟨1, 1⟩], [⟨1, 1⟩, ⟨1, 1⟩]]⟩ : Mat).Defined := by decide
  have hdb : (⟨2, 1, [[⟨1, 1⟩], [⟨0, 1⟩]]⟩ : Mat).Defined := by decide
  have hs : solve ⟨2, 2, [[⟨2, 1⟩, ⟨1, 1⟩], [⟨1, 1⟩, ⟨1, 1⟩]]⟩
      (some ⟨2, 1, [[⟨1, 1⟩], [⟨0, 1⟩]]⟩) true = .ok (some ⟨2, 1, [[⟨1, 1⟩], [⟨-1, 1⟩]]⟩) := by
    rfl
  exact ⟨ha, hb, hda, hdb, hs, ((reducedEchelon_strict_correct ha hb hda hdb).2.1 rfl _ hs).1⟩

/-- The product of a matrix with its strict inverse can leave the 64-bit range although the
inverse itself does not: `[[1, 1], [1, 2³²]]` has the inverse
`[[2³², -1], [-1, 1]] / (2³² - 1)`, and the first entry of the product reaches the
denominator `2³² (2³² - 1)` on the way. -/
theorem inverse_product_overflows :
    inverse ⟨2, 2, [[⟨1, 1⟩, ⟨1, 1⟩], [⟨1, 1⟩, ⟨4294967296, 1⟩]]⟩ true =
      .ok ⟨2, 2, [[⟨4294967296, 4294967295⟩, ⟨-1, 4294967295⟩],
        [⟨-1, 4294967295⟩, ⟨1, 4294967295⟩]]⟩ ∧
    mul ⟨2, 2, [[⟨1, 1⟩, ⟨1, 1⟩], [⟨1, 1⟩, ⟨4294967296, 1⟩]]⟩
        ⟨2, 2, [[⟨4294967296, 4294967295⟩, ⟨-1, 4294967295⟩],
          [⟨-1, 4294967295⟩, ⟨1, 4294967295⟩]]⟩ =
      .error (.overflow 18446744069414584320) :=
  ⟨rfl, rfl⟩

end Mat

end Frac64
