import Frac64.Interpolation
import Frac64.Proofs.Permissive
import Frac64.Proofs.Singularity
import Mathlib.LinearAlgebra.Vandermonde

/-!
# The interpolating polynomial

`interpolate` writes the samples `(x_i, y_i)` as the Vandermonde system `V c = y`,
`V[i][j] = x_i^j`, and reads the coefficients off its reduced echelon form. When the `x_i` are
distinct, `V` is invertible and so is every leading block of every row exchange of it, since
such a block is again the Vandermonde matrix of distinct nodes. The strict elimination then
finds every pivot, and so does the permissive one. The coefficients are those of the unique
polynomial of degree below `n` through the samples. When two `x_i` coincide the strict
elimination refuses the system.

Horner's rule `evalHorner` computes the value of any polynomial in lowest terms, reducing after
every step, so for the interpolant at each `x_i` it gives `y_i`, unless an intermediate
numerator or denominator leaves the 64-bit range: the coefficients are in lowest terms, but the
partial sums of Horner's rule need not be small (`interpolate_evaluation_overflows`).

## Main definitions

* `polyValue` — the value of a polynomial given by its coefficients, lowest power first.
* `Operand.value`, `Operand.Defined` — the rational an operand stands for.
* `SampleRow`, `VandermondeSystem` — the system built from the samples.

## Main results

* `hornerFold_lowest`, `hornerFold_spec`, `evalHorner_spec`, `evalHorner_at_sample` — Horner's
  rule computes `polyValue` in lowest terms, or overflows.
* `evalHorner_lowest_terms` — **Horner's rule over any coefficients that stand for defined
  fractions gives the polynomial's value in lowest terms, or overflows.**
* `polyValue_unique` — distinct nodes determine the polynomial of degree below their number.
* `reducedEchelon_vandermonde` — both eliminations reduce a Vandermonde system of distinct
  nodes.
* `interpolate_correct` — **the coefficients are the interpolant's, in lowest terms, and
  Horner's rule at a sample gives its value or overflows; repeated nodes are refused in strict
  mode.**
-/

namespace Frac64

open Matrix

/-! ### Polynomials over the rationals -/

/-- The value at `t` of the polynomial with coefficients `cs`, lowest power first. -/
def polyValue (cs : List ℚ) (t : ℚ) : ℚ :=
  ∑ k ∈ Finset.range cs.length, cs.getD k 0 * t ^ k

@[simp] theorem polyValue_nil (t : ℚ) : polyValue [] t = 0 := by
  simp [polyValue]

/-- One step of Horner's rule: the polynomial is its constant term plus `t` times the
polynomial of the other coefficients. -/
theorem polyValue_cons (c : ℚ) (cs : List ℚ) (t : ℚ) :
    polyValue (c :: cs) t = polyValue cs t * t + c := by
  unfold polyValue
  rw [List.length_cons, Finset.sum_range_succ', Finset.sum_mul]
  simp only [List.getD_cons_succ, List.getD_cons_zero, pow_zero, mul_one, pow_succ, mul_assoc]

/-- The Vandermonde matrix of the nodes applied to the coefficients gives the values of the
polynomial at the nodes. -/
theorem vandermonde_mulVec {n : ℕ} (t : Fin n → ℚ) {cs : List ℚ} (hcs : cs.length = n)
    (i : Fin n) : (vandermonde t *ᵥ fun j => cs.getD j 0) i = polyValue cs (t i) := by
  rw [mulVec, dotProduct, polyValue, hcs, ← Fin.sum_univ_eq_sum_range]
  refine Finset.sum_congr rfl fun j _ => ?_
  rw [vandermonde_apply, mul_comm]

/-- Distinct nodes determine a polynomial with as many coefficients as nodes. -/
theorem polyValue_unique {n : ℕ} {t : Fin n → ℚ} (ht : Function.Injective t) {d d' : List ℚ}
    (hd : d.length = n) (hd' : d'.length = n) (h : ∀ i, polyValue d (t i) = polyValue d' (t i)) :
    d = d' := by
  have hinj : Function.Injective (vandermonde t).mulVec := by
    rw [mulVec_injective_iff_isUnit, isUnit_iff_isUnit_det, isUnit_iff_ne_zero]
    exact det_vandermonde_ne_zero_iff.2 ht
  have hvec : (fun j : Fin n => d.getD j 0) = fun j : Fin n => d'.getD j 0 :=
    hinj (funext fun i => by rw [vandermonde_mulVec t hd, vandermonde_mulVec t hd', h])
  refine List.ext_getElem (hd.trans hd'.symm) fun k hk hk' => ?_
  have hk_eq : d.getD k 0 = d'.getD k 0 := congrFun hvec ⟨k, hd ▸ hk⟩
  rwa [List.getD_eq_getElem _ _ hk, List.getD_eq_getElem _ _ hk'] at hk_eq

/-- A leading block of a row selection of a Vandermonde matrix is the Vandermonde matrix of
the selected nodes. -/
theorem vandermonde_submatrix {n k : ℕ} (t : Fin n → ℚ) (f g : Fin k → Fin n)
    (hg : ∀ j, (g j : ℕ) = j) : (vandermonde t).submatrix f g = vandermonde (t ∘ f) := by
  ext i j
  simp [vandermonde_apply, hg]

/-! ### Operands that stand for fractions -/

namespace Operand

/-- The rational an operand stands for, `0` when it stands for none. -/
def value (o : Operand) : ℚ :=
  match o.toFrac with
  | .ok a => a.value
  | .error _ => 0

/-- The operand converts to a fraction with a positive denominator. Every fraction the
library builds keeps its denominator nonnegative (`Frac.stored_of_make`), so this is a
nonzero denominator. -/
def Defined (o : Operand) : Prop := ∃ a, o.toFrac = .ok a ∧ 0 < a.den

instance (o : Operand) : Decidable o.Defined :=
  match h : o.toFrac with
  | .ok a => decidable_of_iff (0 < a.den)
      ⟨fun hd => ⟨a, h, hd⟩, fun ⟨b, hb, hd⟩ => by rw [h] at hb; cases hb; exact hd⟩
  | .error _ => isFalse fun ⟨b, hb, _⟩ => by rw [h] at hb; cases hb

theorem value_of_toFrac {o : Operand} {a : Frac} (h : o.toFrac = .ok a) : o.value = a.value := by
  rw [value, h]

theorem Defined.toFrac {o : Operand} (h : o.Defined) :
    ∃ a, o.toFrac = .ok a ∧ 0 < a.den ∧ a.value = o.value := by
  obtain ⟨a, ha, hd⟩ := h
  exact ⟨a, ha, hd, (value_of_toFrac ha).symm⟩

end Operand

/-! ### Horner's rule -/

/-- Horner's rule over coefficients that stand for defined fractions, at a defined point, gives
the value of the polynomial in lowest terms, or overflows. -/
theorem hornerFold_lowest {x : Frac} (hx : 0 < x.den) :
    ∀ cs : List Operand, (∀ c ∈ cs, c.Defined) →
      Outcome Error.IsOverflow
        (fun v => v.Lowest ∧ v.value = polyValue (cs.map Operand.value) x.value) (hornerFold x cs)
  | [], _ => Outcome.pure ⟨Frac.lowest_zero, by simp⟩
  | c :: cs, hcs => by
    obtain ⟨a, ha, had, hav⟩ := (hcs c (by simp)).toFrac
    -- the rest first, then one multiply-add brought to lowest terms
    refine (hornerFold_lowest hx cs fun d hd => hcs d (by simp [hd])).bind fun r ⟨hrl, hr⟩ => ?_
    refine (Frac.mul_spec hrl.1 hx).bind fun p ⟨hp, hpd⟩ => ?_
    rw [ha, Outcome.ok_bind]
    refine (Frac.add_spec hpd had).bind fun s ⟨hs, hsd⟩ =>
      Outcome.pure ⟨Frac.lowest_reduce hsd, ?_⟩
    rw [Frac.value_reduce, hs, hp, hr, hav, List.map_cons, polyValue_cons]

/-- Horner's rule over defined coefficients at a defined point computes the value of the
polynomial, or overflows. -/
theorem hornerFold_spec {x : Frac} (hx : 0 < x.den) (cs : List Frac) (hcs : ∀ c ∈ cs, 0 < c.den) :
    Outcome Error.IsOverflow (fun v => v.value = polyValue (cs.map Frac.value) x.value ∧ 0 < v.den)
      (hornerFold x (cs.map .frac)) := by
  have hdef : ∀ c ∈ cs.map Operand.frac, c.Defined := by
    intro c hc
    obtain ⟨a, ha, rfl⟩ := List.mem_map.1 hc
    exact ⟨a, rfl, hcs a ha⟩
  -- a fraction stands for itself
  have hval : (cs.map Operand.frac).map Operand.value = cs.map Frac.value := by
    simp [Function.comp_def, Operand.value, Operand.toFrac]
  refine (hornerFold_lowest hx _ hdef).mono (fun _ h => h) fun v ⟨hl, hv⟩ => ⟨?_, hl.1⟩
  rw [hv, hval]

/-- The value of a list of fractions as a polynomial at a defined operand, or an overflow. -/
theorem evalHorner_spec {o : Operand} {x : Frac} (hx : o.toFrac = .ok x) (hxd : 0 < x.den)
    (cs : List Frac) (hcs : ∀ c ∈ cs, 0 < c.den) :
    Outcome Error.IsOverflow (fun v => v.value = polyValue (cs.map Frac.value) x.value ∧ 0 < v.den)
      (evalHorner (.list (cs.map .frac)) o) := by
  unfold evalHorner
  rw [hx, Outcome.ok_bind]
  exact hornerFold_spec hxd cs hcs

/-- **Evaluating a polynomial.** At a point that stands for a defined fraction, Horner's rule over
a list of coefficients that stand for defined fractions gives the value of the polynomial
`∑ c_k x^k` in lowest terms (`0/1` for no coefficients), unless an integer overflows. -/
theorem evalHorner_lowest_terms (cs : List Operand) (x : Operand) (hcs : ∀ c ∈ cs, c.Defined)
    (hx : x.Defined) :
    Outcome Error.IsOverflow
      (fun v => v.Lowest ∧ v.value = polyValue (cs.map Operand.value) x.value)
      (evalHorner (.list cs) x) := by
  obtain ⟨a, ha, had, hav⟩ := hx.toFrac
  unfold evalHorner
  rw [ha, Outcome.ok_bind, ← hav]
  exact hornerFold_lowest had cs hcs

/-- `1 + x/2 + 3x^2` at `2` meets the hypotheses; its value is `14`. -/
theorem evalHorner_lowest_terms_at_two :
    (∀ c ∈ [Operand.int 1, .frac ⟨1, 2⟩, .int 3], c.Defined) ∧ (Operand.int 2).Defined ∧
    Outcome Error.IsOverflow
      (fun v => v.Lowest ∧ v.value =
        polyValue ([Operand.int 1, .frac ⟨1, 2⟩, .int 3].map Operand.value) (Operand.int 2).value)
      (evalHorner (.list [.int 1, .frac ⟨1, 2⟩, .int 3]) (.int 2)) :=
  have hcs : ∀ c ∈ [Operand.int 1, .frac ⟨1, 2⟩, .int 3], c.Defined := by decide
  have hx : (Operand.int 2).Defined := by decide
  ⟨hcs, hx, evalHorner_lowest_terms _ _ hcs hx⟩

example : evalHorner (.list [.int 1, .frac ⟨1, 2⟩, .int 3]) (.int 2) = .ok ⟨14, 1⟩ := rfl

/-! ### The Vandermonde system -/

/-- The nodes of a list of samples: the rationals their first components stand for. -/
def nodes (ps : List (Operand × Operand)) (i : Fin ps.length) : ℚ := (ps.get i).1.value

/-- Distinct values of the first components are distinct nodes. -/
theorem nodup_iff_injective_nodes {ps : List (Operand × Operand)} :
    (ps.map fun s => s.1.value).Nodup ↔ Function.Injective (nodes ps) := by
  rw [List.nodup_iff_injective_getElem]
  constructor
  · intro h i j hij
    have hij' := @h ⟨i, by simp⟩ ⟨j, by simp⟩ (by simpa [nodes] using hij)
    exact Fin.ext (by simpa using congrArg Fin.val hij')
  · intro h i j hij
    have hij' := @h ⟨i, by simpa using i.2⟩ ⟨j, by simpa using j.2⟩ (by simpa [nodes] using hij)
    exact Fin.ext (by simpa using congrArg Fin.val hij')

/-- The row of the system for one sample: the powers `x^0, …, x^(n-1)` of its first
component, and the fraction of its second. -/
structure SampleRow (n : ℕ) (s : Operand × Operand) (r : List Frac × Frac) : Prop where
  powers : List.Forall₂ (fun j c => c.value = s.1.value ^ j ∧ 0 < c.den) (List.range n) r.1
  rhs : s.2.toFrac = .ok r.2
  rhs_pos : 0 < r.2.den

/-- The system of the samples `ps`: defined matrices `v` and `y`, `v` the Vandermonde matrix of
the nodes and `y` the column of the second components. -/
structure VandermondeSystem (ps : List (Operand × Operand)) (v y : Mat) : Prop where
  tableau : Tableau ps.length ps.length 1 (v, y)
  matrix : v.val ps.length ps.length = vandermonde (nodes ps)
  rhs : ∀ i : Fin ps.length, y.val ps.length 1 i 0 = (ps.get i).2.value

/-- The power `x^j` is the power of the value, or an overflow. -/
theorem power_spec {x : Frac} (hx : 0 < x.den) (j : ℕ) :
    Outcome Error.IsOverflow (fun p => p.value = x.value ^ j ∧ 0 < p.den) (power x j) := by
  induction j with
  | zero => exact Outcome.pure ⟨by simp, by decide⟩
  | succ j ih =>
    refine ih.bind fun p ⟨hp, hpd⟩ => ?_
    refine (Frac.mul_spec hpd hx).mono (fun _ h => h) fun c ⟨hc, hcd⟩ => ⟨?_, hcd⟩
    rw [hc, hp, pow_succ]

/-- A list related element by element to another is related, position by position, to the
positions of the other. -/
theorem forall₂_range_getD {α β : Type} {R : α → β → Prop} {l : List α} {l' : List β}
    (h : List.Forall₂ R l l') (d : α) :
    List.Forall₂ (fun i b => R (l.getD i d) b) (List.range l.length) l' := by
  rw [List.forall₂_iff_get] at h ⊢
  refine ⟨by rw [List.length_range, h.1], fun i h₁ h₂ => ?_⟩
  have hi : i < l.length := by simpa using h₁
  rw [List.get_eq_getElem, List.getElem_range, List.getD_eq_getElem _ _ hi]
  exact h.2 i hi h₂

/-- The rows built from the samples form their Vandermonde system. -/
theorem vandermondeSystem_of_rows {ps : List (Operand × Operand)} {rs : List (List Frac × Frac)}
    (h : List.Forall₂ (SampleRow ps.length) ps rs) :
    VandermondeSystem ps ⟨(rs.map Prod.fst).length, (rs.map Prod.fst).length, rs.map Prod.fst⟩
      ⟨(rs.map Prod.fst).length, 1, (rs.map Prod.snd).map fun a => [a]⟩ := by
  have hn : (rs.map Prod.fst).length = ps.length := by rw [List.length_map, h.length_eq]
  rw [hn]
  have hidx := forall₂_range_getD h default
  obtain ⟨hv, hve⟩ := Mat.sized_of_forall₂
    (S := fun i j c => c.value = (ps.getD i default).1.value ^ j ∧ 0 < c.den)
    (List.forall₂_map_right_iff.2 (hidx.imp fun _ _ hr => hr.powers))
  -- the right-hand side is a column: one entry per row
  have hcol : ∀ i r, SampleRow ps.length (ps.getD i default) r →
      List.Forall₂ (fun _ c => c.value = (ps.getD i default).2.value ∧ 0 < c.den)
        (List.range 1) [r.2] := by
    intro i r hr
    rw [List.range_one]
    exact .cons ⟨(Operand.value_of_toFrac hr.rhs).symm, hr.rhs_pos⟩ .nil
  have hys : List.Forall₂ (fun i row => List.Forall₂
      (fun _ c => c.value = (ps.getD i default).2.value ∧ 0 < c.den) (List.range 1) row)
      (List.range ps.length) ((rs.map Prod.snd).map fun a => [a]) := by
    rw [List.forall₂_map_right_iff, List.forall₂_map_right_iff]
    exact hidx.imp hcol
  obtain ⟨hy, hye⟩ := Mat.sized_of_forall₂ hys
  refine ⟨⟨hv, hy, hv.defined_of_den_pos fun i j hi hj => (hve i j hi hj).2,
    hy.defined_of_den_pos fun i j hi hj => (hye i j hi hj).2⟩, ?_, fun i => ?_⟩
  · ext i j
    rw [Mat.val_apply, (hve i j i.2 j.2).1, vandermonde_apply, nodes, List.getD_eq_getElem _ _ i.2,
      List.get_eq_getElem]
  · rw [Mat.val_apply, Fin.val_zero, (hye i 0 i.2 one_pos).1, List.getD_eq_getElem _ _ i.2, List.get_eq_getElem]

/-- Both eliminations reduce a system whose matrix is the Vandermonde matrix of distinct nodes,
unless they overflow. Strict elimination finds independent columns; the permissive one finds
nonzero leading minors, since every leading block of every row exchange is the Vandermonde
matrix of distinct nodes. -/
theorem reducedEchelon_vandermonde {n q : ℕ} {a b : Mat} (strict : Bool) (hp : Tableau n n q (a, b))
    {t : Fin n → ℚ} (hval : a.val n n = vandermonde t) (ht : Function.Injective t) :
    Outcome Error.IsOverflow (fun res => ∃ x, res.2 = some x ∧ Mat.ReducedOf n n q (a, b) res.1 x)
      (a.reducedEchelon (some b) strict) := by
  cases strict with
  | true =>
    have hind : a.IndependentColumns n (min n n) := by
      rw [min_self, Mat.independentColumns_iff_det, hval]
      exact det_vandermonde_ne_zero_iff.2 ht
    refine (Mat.reducedEchelon_strict_spec hp.left hp.right hp.left_defined hp.right_defined).mono
      ?_ fun _ h => h
    rintro e (h | ⟨c, hc, rfl, hr⟩)
    · exact h
    · exact absurd hind (hr.not_independentColumns hc)
  | false =>
    refine Mat.reducedEchelon_of_echelon (fun _ h => h) (Mat.echelon_permissive_spec hp.left hp.right
      hp.left_defined hp.right_defined fun j hj => ?_)
    have hjn : j + 1 ≤ n := by
      rw [min_self] at hj
      omega
    obtain ⟨-, σ, hσ⟩ := Mat.presort_spec hp (k := min n n) (min_le_left n n)
    rw [← Mat.val_submatrix _ hjn hjn, hσ.1, Equiv.Perm.permMatrix, PEquiv.toMatrix_toPEquiv_mul]
    dsimp only
    rw [hval, submatrix_submatrix, vandermonde_submatrix t _ (id ∘ Fin.castLE hjn) fun _ => rfl]
    exact det_vandermonde_ne_zero_iff.2 (ht.comp (σ.injective.comp (Fin.castLE_injective hjn)))

/-- The coefficients of a row vector `X` read as a polynomial take at each node the entry of
`V X`. -/
theorem polyValue_eq_mul {n : ℕ} (t : Fin n → ℚ) (X : Matrix (Fin n) (Fin 1) ℚ) {cs : List ℚ}
    (hlen : cs.length = n) (hcs : ∀ j : Fin n, cs.getD j 0 = X j 0) (i : Fin n) :
    polyValue cs (t i) = (vandermonde t * X) i 0 := by
  rw [← vandermonde_mulVec t hlen i, mul_apply, mulVec, dotProduct]
  simp only [hcs]

/-- The coefficients solving a Vandermonde system of distinct nodes, in lowest terms, fit the
samples, unless the elimination overflows. -/
theorem solveVandermonde_spec {ps : List (Operand × Operand)} {rows : List (List Frac)}
    {ys : List Frac} (strict : Bool)
    (hsys : VandermondeSystem ps ⟨rows.length, rows.length, rows⟩ ⟨rows.length, 1, ys.map fun a => [a]⟩)
    (ht : Function.Injective (nodes ps)) :
    Outcome Error.IsOverflow (fun cs => cs.length = ps.length ∧ (∀ c ∈ cs, c.Lowest) ∧
        ∀ i, polyValue (cs.map Frac.value) (nodes ps i) = (ps.get i).2.value)
      (solveVandermonde rows ys strict) := by
  unfold solveVandermonde
  refine (reducedEchelon_vandermonde strict hsys.tableau hsys.matrix ht).bind ?_
  rintro ⟨r, o⟩ ⟨x, hx, hred⟩
  obtain rfl : o = some x := hx
  have hrows : x.rows = ps.length := hred.tableau.right.rows_eq
  obtain ⟨E, -, hVE, hX⟩ := hred.exists_inverse
  -- the solution `X = E y` satisfies `V X = y`
  have hsolves : vandermonde (nodes ps) * x.val ps.length 1 =
      (Mat.mk rows.length 1 (ys.map fun a => [a])).val ps.length 1 := by
    rw [← hsys.matrix, hX, ← Matrix.mul_assoc, hVE, Matrix.one_mul]
  refine Outcome.pure ⟨by simp [hrows], ?_, fun i => ?_⟩
  · simp only [Option.getD_some, List.mem_map, List.mem_range]
    rintro c ⟨j, -, rfl⟩
    exact Frac.lowest_reduce (hred.tableau.right_defined.den_pos j 0)
  · have hcoef : ∀ j : Fin ps.length,
        (((List.range x.rows).map fun i => (x.entry i 0).reduce).map Frac.value).getD j 0 =
          x.val ps.length 1 j 0 := by
      intro j
      simp [List.getD_eq_getElem?_getD, hrows, j.2]
    simp only [Option.getD_some]
    rw [polyValue_eq_mul _ _ (by simp [hrows]) hcoef, hsolves, hsys.rhs]

/-- A Vandermonde system with a repeated node is refused by strict elimination, unless it
overflows first. -/
theorem solveVandermonde_refuses {ps : List (Operand × Operand)} {rows : List (List Frac)}
    {ys : List Frac}
    (hsys : VandermondeSystem ps ⟨rows.length, rows.length, rows⟩ ⟨rows.length, 1, ys.map fun a => [a]⟩)
    (ht : ¬ Function.Injective (nodes ps)) :
    Outcome (fun e => (∃ c, e = .noPivot c) ∨ e.IsOverflow) (fun _ => False)
      (solveVandermonde rows ys true) := by
  have hdep : ¬ (Mat.mk rows.length rows.length rows).IndependentColumns ps.length
      (min ps.length ps.length) := by
    rw [min_self, Mat.independentColumns_iff_det, hsys.matrix, not_not]
    exact not_not.1 (mt det_vandermonde_ne_zero_iff.1 ht)
  unfold solveVandermonde
  have hp := hsys.tableau
  refine ((Mat.reducedEchelon_strict_outcome hp.left hp.right hp.left_defined hp.right_defined).mono
    ?_ fun _ h => h).bind fun _ h => absurd hdep h
  rintro e (h | ⟨hc, -⟩)
  · exact Or.inr h
  · exact Or.inl hc

/-! ### Interpolation -/

/-- Horner's rule at a sample through which a polynomial with coefficients in lowest terms
passes gives the same fraction as the sample's second component, or overflows. -/
theorem evalHorner_at_sample {s : Operand × Operand} (hs : s.1.Defined ∧ s.2.Defined)
    {cs : List Frac} (hlow : ∀ c ∈ cs, c.Lowest)
    (hfit : polyValue (cs.map Frac.value) s.1.value = s.2.value) :
    Outcome Error.IsOverflow (fun v => ∃ b, s.2.toFrac = .ok b ∧ v.same b = true)
      (evalHorner (.list (cs.map .frac)) s.1) := by
  obtain ⟨a, ha, had, hav⟩ := hs.1.toFrac
  obtain ⟨b, hb, hbd, hbv⟩ := hs.2.toFrac
  refine (evalHorner_spec ha had cs fun c hc => (hlow c hc).1).mono (fun _ h => h) ?_
  rintro v ⟨hv, hvd⟩
  refine ⟨b, hb, (Frac.same_iff_value hvd hbd).2 ?_⟩
  rw [hv, hav, hfit, hbv]

/-- `interpolate` on a list of pairs builds the row of each sample, then solves the system of
the rows: what holds of the solution of every such system holds of the result, unless a row
overflows. -/
theorem interpolate_outcome {samples : List Operand} {ps : List (Operand × Operand)}
    {strict : Bool} {bad : Error → Prop} {good : Option (List Frac) → Prop}
    (hover : ∀ e, e.IsOverflow → bad e) (hps : samplePairs? samples = some ps)
    (hdef : ∀ s ∈ ps, s.1.Defined ∧ s.2.Defined)
    (hsolve : ∀ rs, List.Forall₂ (SampleRow ps.length) ps rs →
      Outcome bad (fun cs => good (some cs))
        (solveVandermonde (rs.map Prod.fst) (rs.map Prod.snd) strict)) :
    Outcome bad good (interpolate (.list samples) strict) := by
  unfold interpolate
  simp only [Operand.items, Outcome.ok_bind, hps]
  refine ((@Outcome.mapM _ _ Error.IsOverflow (SampleRow ps.length) _ ps fun s hs => ?_).mono hover
    fun _ h => h).bind fun rs hrs => (hsolve rs hrs).map fun _ h => h
  -- one sample: its first component reduced, its second, then the powers of the first
  obtain ⟨x, y⟩ := s
  obtain ⟨a, ha, had, hav⟩ := (hdef _ hs).1.toFrac
  obtain ⟨b, hb, hbd, -⟩ := (hdef _ hs).2.toFrac
  simp only [ha, hb, Outcome.ok_bind]
  refine (Outcome.mapM _ fun j _ => power_spec (Frac.den_pos_reduce had) j).bind
    fun row hrow => Outcome.pure ⟨?_, hb, hbd⟩
  exact hrow.imp fun j c hc => ⟨by rw [hc.1, Frac.value_reduce, hav], hc.2⟩

/-- **Polynomial interpolation.** Take a nonempty list of pairs whose components stand for
defined fractions. If the first components are distinct, `interpolate` gives one coefficient
per sample, each in lowest terms, unless an intermediate result overflows. They are the
coefficients of the only polynomial with that many coefficients through all the samples, and
Horner's rule at each sample gives the same fraction as its second component, or overflows.
With a repeated first component, strict interpolation is refused as singular, unless it
overflows first. -/
theorem interpolate_correct {samples : List Operand} {ps : List (Operand × Operand)}
    (strict : Bool) (hps : samplePairs? samples = some ps)
    (hdef : ∀ s ∈ ps, s.1.Defined ∧ s.2.Defined) :
    ((ps.map fun s => s.1.value).Nodup →
      Outcome Error.IsOverflow (fun res => ∃ cs, res = some cs ∧ cs.length = ps.length ∧
          (∀ c ∈ cs, c.Lowest) ∧
          (∀ s ∈ ps, polyValue (cs.map Frac.value) s.1.value = s.2.value ∧
            Outcome Error.IsOverflow (fun v => ∃ b, s.2.toFrac = .ok b ∧ v.same b = true)
              (evalHorner (.list (cs.map .frac)) s.1)) ∧
          ∀ d : List ℚ, d.length = ps.length → (∀ s ∈ ps, polyValue d s.1.value = s.2.value) →
            d = cs.map Frac.value)
        (interpolate (.list samples) strict)) ∧
    (¬ (ps.map fun s => s.1.value).Nodup →
      ∃ e, interpolate (.list samples) true = .error e ∧ ((∃ c, e = .noPivot c) ∨ e.IsOverflow)) := by
  refine ⟨fun hnodup => ?_, fun hdup => ?_⟩
  · have ht := nodup_iff_injective_nodes.1 hnodup
    refine interpolate_outcome (fun _ h => h) hps hdef fun rs hrs => ?_
    refine (solveVandermonde_spec strict (vandermondeSystem_of_rows hrs) ht).mono (fun _ h => h) ?_
    rintro cs ⟨hlen, hlow, hfit⟩
    -- every sample is at one of the nodes
    have hsample : ∀ s ∈ ps, polyValue (cs.map Frac.value) s.1.value = s.2.value := by
      intro s hs
      obtain ⟨i, rfl⟩ := List.get_of_mem hs
      exact hfit i
    refine ⟨cs, rfl, hlen, hlow, fun s hs => ⟨hsample s hs,
      evalHorner_at_sample (hdef s hs) hlow (hsample s hs)⟩, fun d hd hdfit => ?_⟩
    -- another polynomial through the samples agrees with this one at every node
    refine polyValue_unique ht hd (by rw [List.length_map, hlen]) fun i => ?_
    rw [hfit i]
    exact hdfit _ (List.get_mem ps i)
  · have hsing : ¬ Function.Injective (nodes ps) := fun ht => hdup (nodup_iff_injective_nodes.2 ht)
    have hrun : Outcome (fun e => (∃ c, e = .noPivot c) ∨ e.IsOverflow) (fun _ => False)
        (interpolate (.list samples) true) :=
      interpolate_outcome (fun _ h => Or.inr h) hps hdef fun rs hrs =>
        solveVandermonde_refuses (vandermondeSystem_of_rows hrs) hsing
    exact hrun.exists_error

/-- The parabola `x^2 + 1` through `(0, 1)`, `(1, 2)` and `(2, 5)`: permissive interpolation
gives the coefficients `1, 0, 1`, and no other three coefficients fit. -/
theorem interpolate_correct_parabola :
    samplePairs? [.list [.int 0, .int 1], .list [.int 1, .int 2], .list [.int 2, .int 5]] =
        some [(.int 0, .int 1), (.int 1, .int 2), (.int 2, .int 5)] ∧
    (∀ s ∈ [(Operand.int 0, Operand.int 1), (.int 1, .int 2), (.int 2, .int 5)],
      s.1.Defined ∧ s.2.Defined) ∧
    ([(Operand.int 0, Operand.int 1), (.int 1, .int 2), (.int 2, .int 5)].map
      fun s => s.1.value).Nodup ∧
    interpolate (.list [.list [.int 0, .int 1], .list [.int 1, .int 2], .list [.int 2, .int 5]])
        false = .ok (some [⟨1, 1⟩, ⟨0, 1⟩, ⟨1, 1⟩]) ∧
    ∀ d : List ℚ, d.length = 3 →
      (∀ s ∈ [(Operand.int 0, Operand.int 1), (.int 1, .int 2), (.int 2, .int 5)],
        polyValue d s.1.value = s.2.value) → d = [1, 0, 1] := by
  have hps : samplePairs? [.list [.int 0, .int 1], .list [.int 1, .int 2], .list [.int 2, .int 5]] =
      some [(.int 0, .int 1), (.int 1, .int 2), (.int 2, .int 5)] := rfl
  have hdef : ∀ s ∈ [(Operand.int 0, Operand.int 1), (.int 1, .int 2), (.int 2, .int 5)],
      s.1.Defined ∧ s.2.Defined := by decide
  have hnodup : ([(Operand.int 0, Operand.int 1), (.int 1, .int 2), (.int 2, .int 5)].map
      fun s => s.1.value).Nodup := by decide +kernel
  have hrun : interpolate (.list [.list [.int 0, .int 1], .list [.int 1, .int 2],
      .list [.int 2, .int 5]]) false = .ok (some [⟨1, 1⟩, ⟨0, 1⟩, ⟨1, 1⟩]) := rfl
  obtain ⟨cs, hcs, -, -, -, huniq⟩ := ((interpolate_correct false hps hdef).1 hnodup).of_ok hrun
  obtain rfl := Option.some.inj hcs
  refine ⟨hps, hdef, hnodup, hrun, fun d hd hfit => (huniq d hd hfit).trans ?_⟩
  simp [Frac.value]

/-- Coefficients in lowest terms do not keep Horner's rule in range. Through `(0, 0)` and
`(2⁻³², 3⁻²⁰)` the interpolant has the coefficients `0` and `2³² / 3²⁰`; at `2⁻³²` Horner's
rule forms the denominator `3²⁰ · 2³²`, which is past `2⁶³`. -/
theorem interpolate_evaluation_overflows :
    interpolate (.list [.list [.int 0, .int 0],
        .list [.frac ⟨1, 4294967296⟩, .frac ⟨1, 3486784401⟩]]) false =
      .ok (some [⟨0, 1⟩, ⟨4294967296, 3486784401⟩]) ∧
    evalHorner (.list [.frac ⟨0, 1⟩, .frac ⟨4294967296, 3486784401⟩]) (.frac ⟨1, 4294967296⟩) =
      .error (.overflow 14975624970497949696) :=
  ⟨rfl, rfl⟩

/-- A repeated node can pass unnoticed by permissive interpolation. Through `(1, 5)`, `(1, 5)`
and `(2, 7)` the second pivot is zero: its factor `-(1/0)` times the zero row of the repeated
sample gives `0/0` throughout the row of `(2, 7)`, lowest terms turn that into `0/1`, and the
coefficients `5, 0, 0` come out all defined. The polynomial `5` misses the sample `(2, 7)`:
Horner's rule gives `5` there. -/
theorem interpolate_repeated_node_misses_sample :
    interpolate (.list [.list [.int 1, .int 5], .list [.int 1, .int 5], .list [.int 2, .int 7]])
        false = .ok (some [⟨5, 1⟩, ⟨0, 1⟩, ⟨0, 1⟩]) ∧
    evalHorner (.list [.frac ⟨5, 1⟩, .frac ⟨0, 1⟩, .frac ⟨0, 1⟩]) (.int 2) = .ok ⟨5, 1⟩ ∧
    (⟨5, 1⟩ : Frac).same ⟨7, 1⟩ = false :=
  ⟨rfl, rfl, rfl⟩

end Frac64
