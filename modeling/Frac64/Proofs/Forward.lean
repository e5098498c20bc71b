import Frac64.Proofs.RowOps
import Mathlib.LinearAlgebra.Matrix.Block

/-!
# Forward elimination

`Mat.echelon` brings a matrix to row echelon form with unit pivots in three passes over the
first `k = min m n` columns: up-front exchanges of zero diagonal entries (`Mat.presort`),
elimination below each pivot (`Mat.forward`, with the pivot search `Mat.ensurePivot` in
strict mode), and division of each pivot row by its pivot (`Mat.normalize`). Every
operation is applied to the matrix and its companion alike.

After `p` steps of a forward elimination the first `p` columns form a staircase: a nonzero
pivot on the diagonal and zeros below it (`Mat.Staircase`). Each step multiplies both
matrices by one invertible matrix: the exchanges by a permutation matrix, the elimination
below a pivot by a lower unitriangular one. A strict run is refused only at a column that is
zero from the diagonal down (`Mat.Stuck`), and otherwise ends with unit pivots and zeros
below them.

## Main definitions

* `UnitLower` — lower triangular matrices with ones on the diagonal.
* `Mat.Staircase`, `Mat.UnitStaircase` — echelon form of the first columns.
* `Mat.Stuck` — the state a strict elimination is refused in.
* `Mat.StrictFailure`, `Mat.EchelonOf` — how a strict elimination fails, and what it gives.

## Main results

* `Mat.presort_spec` — the up-front exchanges permute the rows.
* `Mat.clearBelow_spec` — elimination below a nonzero pivot.
* `Mat.forward_strict_spec`, `Mat.normalize_spec` — the two passes.
* `Mat.echelon_strict_spec` — **a strict elimination gives unit pivots with zeros below them
  by one invertible row transformation of both matrices, or is refused at a column that is
  zero from the diagonal down, or overflows.**
* `Mat.echelon_of_min_eq_zero` — without a diagonal position nothing is eliminated.
-/

namespace Frac64

/-! ### Unitriangular matrices -/

/-- A lower triangular matrix with ones on its diagonal. -/
structure UnitLower {m : ℕ} (L : Matrix (Fin m) (Fin m) ℚ) : Prop where
  above : ∀ i j, i < j → L i j = 0
  diag : ∀ i, L i i = 1

namespace UnitLower

variable {m : ℕ} {A B : Matrix (Fin m) (Fin m) ℚ}

theorem one : UnitLower (1 : Matrix (Fin m) (Fin m) ℚ) :=
  ⟨fun _ _ h => Matrix.one_apply_ne (ne_of_lt h), Matrix.one_apply_eq⟩

theorem mul (hA : UnitLower A) (hB : UnitLower B) : UnitLower (A * B) := by
  refine ⟨fun i j hij => ?_, fun i => ?_⟩
  · -- every term has a factor above the diagonal of `A` or of `B`
    rw [Matrix.mul_apply]
    refine Finset.sum_eq_zero fun l _ => ?_
    rcases lt_or_ge i l with hil | hli
    · rw [hA.above i l hil, zero_mul]
    · rw [hB.above l j (lt_of_le_of_lt hli hij), mul_zero]
  · rw [Matrix.mul_apply, Finset.sum_eq_single i]
    · rw [hA.diag, hB.diag, mul_one]
    · intro l _ hl
      rcases lt_or_gt_of_ne hl with hl | hl
      · rw [hB.above l i hl, mul_zero]
      · rw [hA.above i l hl, zero_mul]
    · simp

theorem transvection {t s : Fin m} (h : s < t) (c : ℚ) : UnitLower (Matrix.transvection t s c) := by
  refine ⟨fun i j hij => ?_, fun i => ?_⟩
  · have : ¬ (t = i ∧ s = j) := fun h' => by
      rw [← h'.1, ← h'.2] at hij
      exact lt_asymm h hij
    simp [Matrix.transvection, Matrix.one_apply_ne (ne_of_lt hij), this]
  · have : ¬ (t = i ∧ s = i) := fun h' => by
      rw [h'.1, h'.2] at h
      exact lt_irrefl _ h
    simp [Matrix.transvection, this]

theorem isUnit (h : UnitLower A) : IsUnit A := by
  have hlow : A.IsLowerTriangular := fun i j hij => h.above i j hij
  rw [Matrix.isUnit_iff_isUnit_det, Matrix.det_of_isLowerTriangular A hlow]
  simp [h.diag]

end UnitLower

namespace Mat

/-! ### Echelon shapes -/

/-- Columns `0, …, p - 1` of an `m`-row matrix form a staircase: each has a nonzero value on
the diagonal and zeros below it. -/
def Staircase (a : Mat) (m p : ℕ) : Prop :=
  ∀ j, j < p → (a.entry j j).value ≠ 0 ∧ ∀ i, j < i → i < m → (a.entry i j).value = 0

/-- Columns `0, …, p - 1` form a staircase of unit pivots. -/
def UnitStaircase (a : Mat) (m p : ℕ) : Prop :=
  ∀ j, j < p → (a.entry j j).value = 1 ∧ ∀ i, j < i → i < m → (a.entry i j).value = 0

/-- The state a strict elimination is refused in at column `c`: the columns before it form a
staircase, and column `c` is zero from the diagonal down. -/
def Stuck (a : Mat) (m c : ℕ) : Prop :=
  a.Staircase m c ∧ ∀ r, c ≤ r → r < m → (a.entry r c).value = 0

theorem staircase_zero (a : Mat) (m : ℕ) : a.Staircase m 0 := fun _ h => absurd h (by omega)

/-- Exchanging two rows from row `p` down keeps a staircase of `p` columns. -/
theorem Staircase.swap {a : Mat} {m n p : ℕ} (h : a.Staircase m p) (hs : a.Sized m n) {i j : ℕ}
    (hi : i < m) (hj : j < m) (hpi : p ≤ i) (hpj : p ≤ j) : (a.swap i j).Staircase m p := by
  intro c hc
  obtain ⟨hpiv, hbelow⟩ := h c hc
  refine ⟨?_, fun r hcr hr => ?_⟩
  · rw [entry_swap hs hi hj, Equiv.swap_apply_of_ne_of_ne (by omega) (by omega)]
    exact hpiv
  · rw [entry_swap hs hi hj, Equiv.swap_apply_def]
    split_ifs with h1 h2
    · exact hbelow j (by omega) hj
    · exact hbelow i (by omega) hi
    · exact hbelow r hcr hr

/-! ### Pivot search -/

theorem pivotRow?_some {a : Mat} {col start j : ℕ} (h : a.pivotRow? col start = some j) :
    start ≤ j ∧ j < a.rows ∧ (a.entry j col).isZero = false := by
  unfold pivotRow? at h
  have hmem := List.mem_of_find?_eq_some h
  have hp := List.find?_some h
  rw [List.mem_range'_1] at hmem
  simp only [Bool.not_eq_eq_eq_not, Bool.not_true] at hp
  exact ⟨hmem.1, by omega, hp⟩

theorem pivotRow?_none {a : Mat} {col start : ℕ} (h : a.pivotRow? col start = none) :
    ∀ j, start ≤ j → j < a.rows → (a.entry j col).isZero = true := by
  unfold pivotRow? at h
  intro j hj hjr
  have := List.find?_eq_none.1 h j (List.mem_range'_1.2 ⟨hj, by omega⟩)
  simpa using this

/-! ### The up-front exchanges -/

/-- A fold whose every step permutes the rows of a tableau permutes them. -/
theorem foldl_permutes {m n q : ℕ} {f : Mat × Mat → ℕ → Mat × Mat}
    (hf : ∀ p i, i < m → Tableau m n q p →
      Tableau m n q (f p i) ∧ ∃ τ : Equiv.Perm (Fin m), Transformed m n q (τ.permMatrix ℚ) p (f p i)) :
    ∀ (l : List ℕ) (p : Mat × Mat), (∀ i ∈ l, i < m) → Tableau m n q p →
      Tableau m n q (l.foldl f p) ∧
        ∃ σ : Equiv.Perm (Fin m), Transformed m n q (σ.permMatrix ℚ) p (l.foldl f p) := by
  intro l
  induction l with
  | nil =>
    intro p _ hp
    exact ⟨hp, 1, by simpa using Transformed.refl p⟩
  | cons i l ih =>
    intro p hl hp
    obtain ⟨hq, τ, hτ⟩ := hf p i (hl i (by simp)) hp
    obtain ⟨hr, σ, hσ⟩ := ih (f p i) (fun j hj => hl j (by simp [hj])) hq
    refine ⟨hr, τ * σ, ?_⟩
    rw [Matrix.permMatrix_mul]
    exact hτ.trans hσ

/-- The up-front exchanges permute the rows of both matrices. -/
theorem presort_spec {m n q k : ℕ} {p : Mat × Mat} (hp : Tableau m n q p) (hk : k ≤ m) :
    Tableau m n q (presort p k) ∧
      ∃ σ : Equiv.Perm (Fin m), Transformed m n q (σ.permMatrix ℚ) p (presort p k) := by
  unfold presort
  refine foldl_permutes (fun p i hi hp => ?_) _ p (fun i hi => by simp at hi; omega) hp
  -- a step exchanges row `i` with a lower row, or does nothing
  split
  · split
    · rename_i j hj
      obtain ⟨-, hjm, -⟩ := pivotRow?_some hj
      rw [hp.left.rows_eq] at hjm
      exact ⟨(swapBoth_spec hp ⟨i, hi⟩ ⟨j, hjm⟩).1, _, (swapBoth_spec hp ⟨i, hi⟩ ⟨j, hjm⟩).2⟩
    · exact ⟨hp, 1, by simpa using Transformed.refl p⟩
  · exact ⟨hp, 1, by simpa using Transformed.refl p⟩

/-! ### The pivot search of strict mode -/

/-- A strict pivot search gives a nonzero pivot by exchanging rows below the staircase, or is
refused at a column that is zero from the diagonal down. -/
theorem ensurePivot_spec {m n q i : ℕ} {p : Mat × Mat} (hp : Tableau m n q p)
    (hst : p.1.Staircase m i) (hi : i < m) :
    Outcome (fun e => e = .noPivot i ∧ p.1.Stuck m i)
      (fun p' => Tableau m n q p' ∧ p'.1.Staircase m i ∧ (p'.1.entry i i).value ≠ 0 ∧
        ∃ E, IsUnit E ∧ Transformed m n q E p p')
      (ensurePivot p i) := by
  have hden := hp.left_defined.den_pos
  unfold ensurePivot
  by_cases hz : (p.1.entry i i).isZero
  · rw [if_pos hz]
    cases hj : pivotRow? p.1 i (i + 1) with
    | none =>
      -- nothing nonzero below: the column is zero from the diagonal down
      have hnone := pivotRow?_none hj
      refine ⟨rfl, hst, fun r hir hr => ?_⟩
      rcases Nat.eq_or_lt_of_le hir with rfl | hlt
      · exact (Frac.isZero_iff_value (hden _ _)).1 hz
      · exact (Frac.isZero_iff_value (hden _ _)).1
          (hnone r hlt (by rw [hp.left.rows_eq]; exact hr))
    | some j =>
      obtain ⟨hij, hjm, hjz⟩ := pivotRow?_some hj
      rw [hp.left.rows_eq] at hjm
      obtain ⟨hq, hswap⟩ := swapBoth_spec hp ⟨i, hi⟩ ⟨j, hjm⟩
      refine ⟨hq, hst.swap hp.left hi hjm le_rfl (by omega), ?_,
        _, isUnit_permMatrix _, hswap⟩
      -- the new pivot is the nonzero entry found below
      show ((p.1.swap i j).entry i i).value ≠ 0
      rw [entry_swap hp.left hi hjm, Equiv.swap_apply_left]
      intro h0
      rw [← Frac.isZero_iff_value (hden _ _)] at h0
      rw [h0] at hjz
      exact Bool.noConfusion hjz
  · rw [if_neg hz]
    refine ⟨hp, hst, fun h0 => hz ((Frac.isZero_iff_value (hden _ _)).2 h0), 1, isUnit_one,
      Transformed.refl p⟩

/-! ### Elimination below a pivot -/

/-- The state of the elimination below a nonzero pivot `i` of `p` once rows `i + 1, …, r - 1`
are cleared: the staircase of the first `i` columns and the pivot are untouched, and the
rows so far were changed by one lower unitriangular transformation. -/
structure Clearing (m n q i r : ℕ) (p s : Mat × Mat) : Prop where
  tableau : Tableau m n q s
  staircase : s.1.Staircase m i
  pivot : (s.1.entry i i).value = (p.1.entry i i).value
  cleared : ∀ t, i < t → t < r → (s.1.entry t i).value = 0
  lower : ∃ L, UnitLower L ∧ Transformed m n q L p s

theorem Clearing.start {m n q i : ℕ} {p : Mat × Mat} (hp : Tableau m n q p)
    (hst : p.1.Staircase m i) : Clearing m n q i (i + 1) p p :=
  ⟨hp, hst, rfl, fun _ h1 h2 => absurd h2 (by omega), 1, UnitLower.one, Transformed.refl p⟩

/-- Adding `f` times row `i` to a lower row `r` keeps the staircase of the first `i` columns:
row `i` is zero there. -/
theorem Staircase.addRow {a a' : Mat} {m i r : ℕ} {c : ℚ} (h : a.Staircase m i) (hir : i < r)
    (he : ∀ t j, (a'.entry t j).value =
      (a.entry t j).value + if t = r then (a.entry i j).value * c else 0) :
    a'.Staircase m i := by
  intro j hj
  obtain ⟨hpiv, hbelow⟩ := h j hj
  refine ⟨by rwa [he, if_neg (by omega), add_zero], fun t hjt ht => ?_⟩
  rw [he, hbelow t hjt ht]
  split_ifs
  · rw [hbelow i hj (by omega), zero_mul, add_zero]
  · rw [add_zero]

/-- Every row below a nonzero pivot `i` cleared in column `i`, by lower unitriangular
operations that keep the staircase of the first `i` columns. -/
theorem clearBelow_spec {m n q i : ℕ} {p : Mat × Mat} (hp : Tableau m n q p)
    (hst : p.1.Staircase m i) (hpiv : (p.1.entry i i).value ≠ 0) (hi : i < m) :
    Outcome Error.IsOverflow (fun p' => Tableau m n q p' ∧ p'.1.Staircase m (i + 1) ∧
        ∃ L, UnitLower L ∧ Transformed m n q L p p') (clearBelow p i) := by
  have hlen : i + 1 + (p.1.rows - (i + 1)) = m := by rw [hp.left.rows_eq]; omega
  unfold clearBelow
  refine Outcome.mono (@Outcome.foldlM_range' _ _ _ (fun r s => Clearing m n q i r p s) _ _ p
    (Clearing.start hp hst) fun r s hr1 hr2 hs => ?step) (fun _ h => h) fun s hs => ?done
  case done =>
    rw [hlen] at hs
    refine ⟨hs.tableau, fun j hj => ?_, hs.lower⟩
    rcases Nat.lt_succ_iff_lt_or_eq.1 hj with hj | rfl
    · exact hs.staircase j hj
    · exact ⟨hs.pivot ▸ hpiv, fun t h1 h2 => hs.cleared t h1 h2⟩
  case step =>
    -- one row `r`: the factor `-(a[r][i] / a[i][i])` clears its entry in column `i`
    have hrm : r < m := by omega
    have hden := hs.tableau.left_defined.den_pos
    have hpiv' : (s.1.entry i i).value ≠ 0 := hs.pivot ▸ hpiv
    refine (Frac.div_spec (hden r i) hpiv').bind fun c ⟨hc, hcd⟩ => ?_
    refine (Frac.mul_spec hcd (by decide : (0 : Int) < minusOne.den)).bind fun f ⟨hf, hfd⟩ => ?_
    refine (addBoth_spec hs.tableau hrm hi (Frac.den_pos_reduce hfd)).mono (fun _ h => h) ?_
    rintro s' ⟨hs', -, -, htr, he⟩
    have hfv : f.reduce.value = -((s.1.entry r i).value / (s.1.entry i i).value) := by
      rw [Frac.value_reduce, hf, hc]
      simp [minusOne, Frac.value]
    refine ⟨hs', hs.staircase.addRow (by omega) he, ?_, fun t h1 h2 => ?_, ?_⟩
    · rw [he, if_neg (by omega), add_zero, hs.pivot]
    · rw [he]
      rcases Nat.lt_succ_iff_lt_or_eq.1 h2 with h2 | rfl
      · rw [if_neg (by omega), add_zero, hs.cleared t h1 h2]
      · rw [if_pos rfl, hfv]
        field_simp
        ring
    · obtain ⟨L, hL, hLt⟩ := hs.lower
      exact ⟨_, (UnitLower.transvection (show (⟨i, hi⟩ : Fin m) < ⟨r, hrm⟩ from hr1) _).mul hL,
        hLt.trans htr⟩

/-! ### The strict forward pass -/

/-- An elimination of `p` refused at column `c`: an invertible row transformation of `p` is
stuck there. -/
def RefusedAt (m n q : ℕ) (p : Mat × Mat) (c : ℕ) : Prop :=
  ∃ s E, IsUnit E ∧ Transformed m n q E p s ∧ s.1.Stuck m c

theorem RefusedAt.pull {m n q c : ℕ} {p p' : Mat × Mat} {E : Matrix (Fin m) (Fin m) ℚ}
    (h : RefusedAt m n q p' c) (hE : IsUnit E) (ht : Transformed m n q E p p') :
    RefusedAt m n q p c := by
  obtain ⟨s, E', hE', ht', hs⟩ := h
  exact ⟨s, E' * E, hE'.mul hE, ht.trans ht', hs⟩

/-- The state of a forward elimination of `p` after `i` columns. -/
structure Forwarded (m n q : ℕ) (p : Mat × Mat) (i : ℕ) (s : Mat × Mat) : Prop where
  tableau : Tableau m n q s
  staircase : s.1.Staircase m i
  transformed : ∃ E, IsUnit E ∧ Transformed m n q E p s

/-- The strict forward pass makes a staircase of the first `k` columns by an invertible row
transformation, or is refused at a column that is zero from the diagonal down, or
overflows. -/
theorem forward_strict_spec {m n q k : ℕ} {p : Mat × Mat} (hp : Tableau m n q p) (hk : k ≤ m) :
    Outcome (fun e => e.IsOverflow ∨ ∃ c, c < k ∧ e = .noPivot c ∧ RefusedAt m n q p c)
      (Forwarded m n q p k) (forward p k true) := by
  unfold forward
  refine Outcome.foldlM_range k p ⟨hp, staircase_zero _ _, 1, isUnit_one, Transformed.refl p⟩
    fun i s hi hs => ?_
  obtain ⟨E, hE, htr⟩ := hs.transformed
  dsimp only
  rw [if_pos rfl]
  -- the pivot search first, then the elimination below the pivot it gives
  refine ((ensurePivot_spec hs.tableau hs.staircase (by omega)).mono
    (fun e ⟨he, hstuck⟩ => Or.inr ⟨i, hi, he, s, E, hE, htr, hstuck⟩) (fun _ h => h)).bind ?_
  rintro s' ⟨hs', hst', hpiv', E', hE', htr'⟩
  refine (clearBelow_spec hs' hst' hpiv' (by omega)).mono (fun _ h => Or.inl h) ?_
  rintro s'' ⟨hs'', hst'', L, hL, hLt⟩
  exact ⟨hs'', hst'', _, hL.isUnit.mul (hE'.mul hE), (htr.trans htr').trans hLt⟩

/-! ### Normalization -/

/-- Multiplying row `i < k` by a nonzero factor keeps a staircase of `k` columns. -/
theorem Staircase.scaleRow {a a' : Mat} {m k i : ℕ} {c : ℚ} (h : a.Staircase m k) (hc : c ≠ 0)
    (he : ∀ i' j, (a'.entry i' j).value =
      if i' = i then (a.entry i' j).value * c else (a.entry i' j).value) :
    a'.Staircase m k := by
  intro j hj
  obtain ⟨hpiv, hbelow⟩ := h j hj
  refine ⟨?_, fun t hjt ht => ?_⟩
  · rw [he]
    split_ifs
    · exact mul_ne_zero hpiv hc
    · exact hpiv
  · rw [he, hbelow t hjt ht]
    split_ifs <;> simp

/-- The state of a normalization of `p` after `i` rows: the staircase of `k` columns is kept,
its first `i` pivots are one, and every entry is in lowest terms once a row was scaled. -/
structure Normalizing (m n q k : ℕ) (p : Mat × Mat) (i : ℕ) (s : Mat × Mat) : Prop where
  tableau : Tableau m n q s
  staircase : s.1.Staircase m k
  unit : ∀ j, j < i → (s.1.entry j j).value = 1
  lowest : 0 < i → s.1.Lowest ∧ s.2.Lowest
  transformed : ∃ E, IsUnit E ∧ Transformed m n q E p s

/-- Dividing each of the first `k` rows of a staircase by its pivot gives unit pivots. -/
theorem normalize_spec {m n q k : ℕ} {p : Mat × Mat} (hp : Tableau m n q p)
    (hst : p.1.Staircase m k) (hk : k ≤ m) :
    Outcome Error.IsOverflow (Normalizing m n q k p k) (normalize p k) := by
  unfold normalize
  refine Outcome.foldlM_range k p
    ⟨hp, hst, fun _ h => absurd h (by omega), fun h => absurd h (by omega), 1, isUnit_one,
      Transformed.refl p⟩ fun i s hi hs => ?_
  obtain ⟨hpiv, -⟩ := hs.staircase i hi
  refine (Frac.div_spec (by decide : (0 : Int) < Frac.one.den) hpiv).bind fun f ⟨hf, hfd⟩ => ?_
  have hf0 : f.value ≠ 0 := by simpa [hf] using hpiv
  refine (scaleBoth_spec hs.tableau (by omega) hfd hf0).mono (fun _ h => h) ?_
  rintro s' ⟨hs', hl1, hl2, htr', he⟩
  obtain ⟨E, hE, htr⟩ := hs.transformed
  refine ⟨hs', hs.staircase.scaleRow hf0 he, fun j hj => ?_, fun _ => ⟨hl1, hl2⟩, _,
    (isUnit_diagonal_update _ hf0).mul hE, htr.trans htr'⟩
  rw [he]
  rcases Nat.lt_succ_iff_lt_or_eq.1 hj with hj | rfl
  · rw [if_neg (by omega), hs.unit j hj]
  · rw [if_pos rfl, hf, Frac.value_one]
    field_simp

/-! ### The strict echelon form -/

/-- `(r, x)` is an echelon form of the tableau `p`: unit pivots with zeros below them in the
first `min m n` columns, every entry in lowest terms when there is such a column, reached by
one invertible row transformation of both matrices. -/
structure EchelonOf (m n q : ℕ) (p : Mat × Mat) (r x : Mat) : Prop where
  tableau : Tableau m n q (r, x)
  lowest : 0 < min m n → r.Lowest ∧ x.Lowest
  staircase : r.UnitStaircase m (min m n)
  transformed : ∃ E, IsUnit E ∧ Transformed m n q E p (r, x)

/-- A strict elimination gives unit pivots with zeros below them by one invertible row
transformation of both matrices, or is refused at a column that is zero from the diagonal
down after such a transformation, or overflows. -/
theorem echelon_strict_spec {m n q : ℕ} {a b : Mat} (ha : a.Sized m n) (hb : b.Sized m q)
    (hda : a.Defined) (hdb : b.Defined) :
    Outcome (fun e => e.IsOverflow ∨ ∃ c, c < min m n ∧ e = .noPivot c ∧ RefusedAt m n q (a, b) c)
      (fun res => ∃ x, res.2 = some x ∧ EchelonOf m n q (a, b) res.1 x)
      (echelon a (some b) true) := by
  have hp : Tableau m n q (a, b) := ⟨ha, hb, hda, hdb⟩
  have hkm : min m n ≤ m := min_le_left m n
  obtain ⟨hps, σ, hσ⟩ := presort_spec hp (k := min m n) hkm
  unfold echelon
  simp only [companion, Outcome.ok_bind, ha.rows_eq, ha.cols_eq, hb.rows_eq, ne_eq, not_true_eq_false,
    if_false]
  refine ((forward_strict_spec hps hkm).mono ?_ (fun _ h => h)).bind fun s hs => ?_
  · rintro e (he | ⟨c, hc, rfl, hr⟩)
    · exact Or.inl he
    · exact Or.inr ⟨c, hc, rfl, hr.pull (isUnit_permMatrix _) hσ⟩
  obtain ⟨E, hE, htr⟩ := hs.transformed
  refine ((normalize_spec hs.tableau hs.staircase hkm).mono (fun _ h => Or.inl h) fun s' hs' => hs').bind ?_
  rintro s' ⟨hs', hst', hunit, hlow, E', hE', htr'⟩
  refine Outcome.pure ⟨s'.2, rfl, hs', hlow, fun j hj => ⟨hunit j hj, (hst' j hj).2⟩, _,
    (hE'.mul hE).mul (isUnit_permMatrix σ), hσ.trans (htr.trans htr')⟩

/-- Without a diagonal position (no row or no column) an elimination has nothing to do: it
returns the matrix and its companion as given, in lowest terms or not. -/
theorem echelon_of_min_eq_zero {m n q : ℕ} {a b : Mat} (ha : a.Sized m n) (hb : b.Sized m q)
    (hk : min m n = 0) (strict : Bool) : echelon a (some b) strict = .ok (a, some b) := by
  unfold echelon
  simp [companion, bind, Except.bind, pure, Except.pure, ha.rows_eq, ha.cols_eq, hb.rows_eq, hk,
    presort, forward, normalize]

end Mat

end Frac64
