import Frac64.Proofs.Determinant
import Mathlib.LinearAlgebra.Matrix.Adjugate

/-!
# Cofactors and the adjugate

The minor at `(i, j)` removes row `i` and column `j` and takes the determinant of what is
left; on values that is the determinant of the submatrix along `Fin.succAbove i` and
`Fin.succAbove j`. The cofactor gives it the sign `(-1)^(i+j)`, and the adjugate transposes the
matrix of cofactors, which makes it the adjugate of linear algebra (`Matrix.adjugate`). So the
products of a matrix with its adjugate are the identity scaled by the determinant, and for a
nonzero determinant the adjugate divided by it is the inverse found by elimination.

## Main results

* `Mat.Sized.entry_transpose`, `Mat.scale_spec` — transposes and scalings.
* `Mat.Sized.removeRow_spec`, `Mat.Sized.removeColumn_spec` — removing a row or a column, and
  `Mat.Sized.removeColumn_eq_transpose`: a column removed is a row of the transpose removed.
* `Mat.minor_spec`, `Mat.cofactorMatrix_spec`, `Mat.adjugate_spec` — cofactors and the
  adjugate, on values.
* `Mat.inverse_strict_outcome` — the strict inverse of a nonsingular matrix, or an overflow.
* `Mat.adjugate_products` — **the products of a matrix with its adjugate equal the identity
  scaled by the determinant, and the adjugate divided by a nonzero determinant equals the
  strict inverse, as far as nothing overflows.**
-/

namespace Frac64

/-- Position `r` of a list without its position `i` is position `r` or `r + 1` of the list. -/
theorem getD_eraseIdx {α : Type} (l : List α) (i r : ℕ) (d : α) :
    (l.eraseIdx i).getD r d = l.getD (if r < i then r else r + 1) d := by
  rw [List.getD_eq_getElem?_getD, List.getElem?_eraseIdx, List.getD_eq_getElem?_getD]
  split_ifs <;> rfl

theorem val_succAbove {k : ℕ} (p : Fin (k + 1)) (r : Fin k) :
    (p.succAbove r : ℕ) = if (r : ℕ) < p then (r : ℕ) else (r : ℕ) + 1 := by
  by_cases h : (r : ℕ) < p
  · rw [Fin.succAbove_of_castSucc_lt _ _ (by simpa [Fin.lt_def] using h), if_pos h]
    rfl
  · rw [Fin.succAbove_of_le_castSucc _ _ (by simp [Fin.le_def]; omega), if_neg h]
    rfl

/-- Two lists related element by element are related at every position of the first. -/
theorem forall₂_getD {α β : Type} {R : α → β → Prop} {l : List α} {l' : List β}
    (h : List.Forall₂ R l l') {i : ℕ} (hi : i < l.length) (d : α) (d' : β) :
    R (l.getD i d) (l'.getD i d') := by
  obtain ⟨hlen, hget⟩ := List.forall₂_iff_get.1 h
  rw [List.getD_eq_getElem _ _ hi, List.getD_eq_getElem _ _ (hlen ▸ hi)]
  exact hget i hi (hlen ▸ hi)

namespace Mat

/-! ### Transposes -/

section Transpose

variable {a : Mat} {m n : ℕ}

theorem Sized.entry_transpose (h : a.Sized m n) (i j : ℕ) : a.transpose.entry i j = a.entry j i := by
  by_cases hi : i < n
  · have hi' : i < a.cols := h.cols_eq ▸ hi
    simp only [transpose, entry, row, List.getD_eq_getElem?_getD, List.getElem?_map,
      List.getElem?_range hi', Option.map_some, Option.getD_some]
    cases a.cells[j]? <;> rfl
  · rw [h.entry_eq_zero (.inr (by omega))]
    have hlen : a.transpose.cells.length ≤ i := by simp [transpose, h.cols_eq]; omega
    simp only [entry, row, List.getD_eq_getElem?_getD, List.getElem?_eq_none hlen]
    rfl

theorem Sized.transpose (h : a.Sized m n) : a.transpose.Sized n m := by
  refine ⟨h.cols_eq, h.rows_eq, by simp [Mat.transpose, h.cols_eq], fun r hr => ?_⟩
  obtain ⟨j, -, rfl⟩ := List.mem_map.1 hr
  simp [Mat.transpose, h.length_cells, h.rows_eq]

theorem Defined.transpose (hd : a.Defined) (h : a.Sized m n) : a.transpose.Defined :=
  h.transpose.defined_of_den_pos fun i j _ _ => by
    rw [h.entry_transpose]
    exact hd.den_pos j i

theorem Sized.val_transpose (h : a.Sized m n) : a.transpose.val n m = (a.val m n).transpose := by
  ext i j
  simp [h.entry_transpose]

end Transpose

/-! ### Scaling -/

/-- Scaling a defined matrix by a defined fraction multiplies its values, or overflows. -/
theorem scale_spec {a : Mat} {m n : ℕ} (ha : a.Sized m n) (hda : a.Defined) {f : Frac}
    (hf : 0 < f.den) :
    Outcome Error.IsOverflow (fun s => s.Sized m n ∧ s.Defined ∧ s.val m n = f.value • a.val m n)
      (a.scale (.frac f)) := by
  unfold scale
  simp only [Operand.toFrac, Outcome.ok_bind]
  refine (@Outcome.mapM _ _ _ (List.Forall₂ fun x y => y.value = x.value * f.value ∧ 0 < y.den)
    _ _ fun r hr => Outcome.mapM _ fun x hx => Frac.mul_spec (hda r hr x hx) hf).bind
    fun cells hcells => Outcome.pure ?_
  have hlen : cells.length = m := hcells.length_eq ▸ ha.length_cells
  have hs : (⟨a.rows, a.cols, cells⟩ : Mat).Sized m n := by
    refine ⟨ha.rows_eq, ha.cols_eq, ⟨hlen.trans ha.rows_eq.symm, fun r' hr' => ?_⟩⟩
    obtain ⟨i, hi, rfl⟩ := List.mem_iff_getElem.1 hr'
    have hi' : i < a.cells.length := hcells.length_eq ▸ hi
    have hrel := forall₂_getD hcells hi' [] []
    rw [List.getD_eq_getElem _ _ hi', List.getD_eq_getElem _ _ hi] at hrel
    rw [← hrel.length_eq]
    exact ha.wellFormed.2 _ (List.getElem_mem hi')
  -- entry by entry, the new value is the old one times `f`
  have he : ∀ i j, i < m → j < n → ((⟨a.rows, a.cols, cells⟩ : Mat).entry i j).value =
      (a.entry i j).value * f.value ∧ 0 < ((⟨a.rows, a.cols, cells⟩ : Mat).entry i j).den := by
    intro i j hi hj
    have hrow := forall₂_getD hcells (ha.length_cells ▸ hi) [] []
    exact forall₂_getD hrow (by rw [← row, ha.length_row i hi]; exact hj) Frac.zero Frac.zero
  refine ⟨hs, hs.defined_of_den_pos fun i j hi hj => (he i j hi hj).2, ?_⟩
  ext i j
  rw [val_apply, (he i j i.2 j.2).1, Matrix.smul_apply, val_apply, smul_eq_mul, mul_comm]

/-! ### Removing rows and columns -/

section Remove

variable {a : Mat} {m n : ℕ}

/-- Removing row `i` of an `m × n` matrix leaves an `(m - 1) × n` matrix, whose rows from `i`
on are the rows after it. -/
theorem Sized.removeRow_spec (h : a.Sized m n) {i : ℕ} (hi : i < m) :
    ∃ b, a.removeRow i = .ok b ∧ b.Sized (m - 1) n ∧
      ∀ r c, b.entry r c = a.entry (if r < i then r else r + 1) c := by
  have hrow : a.removeRow i = .ok ⟨a.rows - 1, a.cols, a.cells.eraseIdx i⟩ := by
    unfold removeRow
    rw [if_neg (by rw [h.rows_eq]; omega)]
    rfl
  refine ⟨_, hrow, ⟨by rw [h.rows_eq], h.cols_eq, ?_, fun r hr => ?_⟩, fun r c => ?_⟩
  · simp [List.length_eraseIdx, h.length_cells, h.rows_eq, hi]
  · exact h.wellFormed.2 r (List.mem_of_mem_eraseIdx hr)
  · unfold entry row
    rw [getD_eraseIdx]

/-- Removing column `j` of an `m × n` matrix leaves an `m × (n - 1)` matrix, whose columns
from `j` on are the columns after it. -/
theorem Sized.removeColumn_spec (h : a.Sized m n) {j : ℕ} (hj : j < n) :
    ∃ b, a.removeColumn j = .ok b ∧ b.Sized m (n - 1) ∧
      ∀ r c, b.entry r c = a.entry r (if c < j then c else c + 1) := by
  have hcol : a.removeColumn j = .ok ⟨a.rows, a.cols - 1, a.cells.map (·.eraseIdx j)⟩ := by
    unfold removeColumn
    rw [if_neg (by rw [h.cols_eq]; omega)]
    rfl
  refine ⟨_, hcol, ⟨h.rows_eq, by rw [h.cols_eq], ?_, fun r hr => ?_⟩, fun r c => ?_⟩
  · simp [h.length_cells, h.rows_eq]
  · obtain ⟨r', hr', rfl⟩ := List.mem_map.1 hr
    simp [List.length_eraseIdx, h.wellFormed.2 r' hr', h.cols_eq, hj]
  · have hmap : (a.cells.map (·.eraseIdx j)).getD r [] = (a.cells.getD r []).eraseIdx j :=
      List.getD_map _ [] _
    unfold entry row
    rw [hmap, getD_eraseIdx]

/-- Removing column `j` is removing row `j` of the transpose and transposing back: both refuse a
column outside the matrix, and erasing position `j` of every row gives the same matrix. -/
theorem Sized.removeColumn_eq_transpose (h : a.Sized m n) (j : Int) :
    a.removeColumn j = if j < 0 ∨ a.cols ≤ j then .error (.columnOutOfRange j a.cols)
      else Mat.transpose <$> a.transpose.removeRow j := by
  split_ifs with hj
  · unfold removeColumn
    rw [if_pos hj]
  · obtain ⟨j, rfl⟩ : ∃ j' : ℕ, j = j' := ⟨j.toNat, by omega⟩
    have hjn : j < n := by
      rw [h.cols_eq] at hj
      omega
    obtain ⟨b, hb, hbs, hbe⟩ := h.removeColumn_spec hjn
    obtain ⟨c, hc, hcs, hce⟩ := h.transpose.removeRow_spec hjn
    rw [hb, hc]
    -- a column of the transpose is a row of the matrix, so both read the same entries
    refine congrArg Except.ok (hbs.ext hcs.transpose fun r k _ _ => ?_)
    rw [hbe, hcs.entry_transpose, hce, h.entry_transpose]

end Remove

/-! ### Minors -/

/-- Removing row `i` and then column `j` of a matrix of size `k + 1` leaves the submatrix
along `Fin.succAbove i` and `Fin.succAbove j`. -/
theorem removed_spec {a : Mat} {k : ℕ} (ha : a.Sized (k + 1) (k + 1)) (hda : a.Defined)
    (i j : Fin (k + 1)) :
    ∃ a' b, a.removeRow (i : ℕ) = .ok a' ∧ a'.removeColumn (j : ℕ) = .ok b ∧ b.Sized k k ∧
      b.Defined ∧ b.val k k = (a.val (k + 1) (k + 1)).submatrix i.succAbove j.succAbove := by
  obtain ⟨a', hrow, ha', hae⟩ := ha.removeRow_spec i.2
  rw [Nat.add_sub_cancel] at ha'
  obtain ⟨b, hcol, hb, hbe⟩ := ha'.removeColumn_spec j.2
  rw [Nat.add_sub_cancel] at hb
  -- both removals shift the positions from the removed one on by one
  have hentry : ∀ r c, b.entry r c =
      a.entry (if r < i then r else r + 1) (if c < j then c else c + 1) := fun r c => by
    rw [hbe, hae]
  refine ⟨a', b, hrow, hcol, hb, hb.defined_of_den_pos fun r c _ _ => ?_, ?_⟩
  · rw [hentry]
    exact hda.den_pos _ _
  · ext r c
    rw [val_apply, hentry, Matrix.submatrix_apply, val_apply, val_succAbove, val_succAbove]

/-- A minor of a defined matrix of size `k + 1` is the determinant of the submatrix without its
row and its column, in lowest terms, or an overflow. -/
theorem minor_spec {a : Mat} {k : ℕ} (ha : a.Sized (k + 1) (k + 1)) (hda : a.Defined)
    (i j : Fin (k + 1)) :
    Outcome Error.IsOverflow (fun d => d.Lowest ∧
        d.value = ((a.val (k + 1) (k + 1)).submatrix i.succAbove j.succAbove).det)
      (a.minor (i : ℕ) (j : ℕ)) := by
  obtain ⟨a', b, hrow, hcol, hb, hdb, hval⟩ := removed_spec ha hda i j
  unfold minor
  rw [hrow, Outcome.ok_bind, hcol, Outcome.ok_bind, ← hval]
  exact determinant_spec hb hdb

/-- The sign `(-1)^(i+j)` of a cofactor, as the fraction `±1/1`. -/
theorem value_cofactorSign (i j : ℕ) :
    (⟨if ((i : ℤ) + (j : ℤ)) % 2 = 0 then 1 else -1, 1⟩ : Frac).value = (-1) ^ (i + j) := by
  rcases Nat.even_or_odd (i + j) with h | h
  · obtain ⟨r, hr⟩ := h
    rw [Even.neg_one_pow ⟨r, hr⟩, if_pos (by omega)]
    simp [Frac.value]
  · obtain ⟨r, hr⟩ := h
    rw [Odd.neg_one_pow ⟨r, hr⟩, if_neg (by omega)]
    simp [Frac.value]

/-- A cofactor is the signed minor, or an overflow. -/
theorem cofactor_spec {a : Mat} {k : ℕ} (ha : a.Sized (k + 1) (k + 1)) (hda : a.Defined)
    (i j : Fin (k + 1)) :
    Outcome Error.IsOverflow (fun c => 0 < c.den ∧ c.value =
        (-1) ^ ((i : ℕ) + (j : ℕ)) * ((a.val (k + 1) (k + 1)).submatrix i.succAbove j.succAbove).det)
      (a.cofactor (i : ℕ) (j : ℕ)) := by
  unfold cofactor
  refine (minor_spec ha hda i j).bind fun d ⟨hdl, hdv⟩ => ?_
  refine (Frac.mul_spec hdl.1 Int.one_pos).mono (fun _ h => h) fun c ⟨hc, hcd⟩ => ⟨hcd, ?_⟩
  rw [hc, hdv, value_cofactorSign, mul_comm]

/-- The matrix of cofactors, or an overflow. -/
theorem cofactorMatrix_spec {a : Mat} {k : ℕ} (ha : a.Sized (k + 1) (k + 1)) (hda : a.Defined) :
    Outcome Error.IsOverflow (fun c => c.Sized (k + 1) (k + 1) ∧ c.Defined ∧
        ∀ i j : Fin (k + 1), (c.entry i j).value = (-1) ^ ((i : ℕ) + (j : ℕ)) *
          ((a.val (k + 1) (k + 1)).submatrix i.succAbove j.succAbove).det)
      a.cofactorMatrix := by
  unfold cofactorMatrix
  rw [ha.rows_eq, ha.cols_eq]
  -- the cofactor at `(i, j)`, for positions of the matrix
  let S : ℕ → ℕ → Frac → Prop := fun i j c => 0 < c.den ∧ ∀ (hi : i < k + 1) (hj : j < k + 1),
    c.value = (-1) ^ (i + j) *
      ((a.val (k + 1) (k + 1)).submatrix (Fin.succAbove ⟨i, hi⟩) (Fin.succAbove ⟨j, hj⟩)).det
  refine (@Outcome.mapM _ _ _ (fun i row => List.Forall₂ (S i) (List.range (k + 1)) row) _ _
    fun i hi => Outcome.mapM _ fun j hj => ?_).bind fun cells hcells => Outcome.pure ?_
  · rw [List.mem_range] at hi hj
    exact (cofactor_spec ha hda ⟨i, hi⟩ ⟨j, hj⟩).mono (fun _ h => h)
      fun c ⟨hcd, hcv⟩ => ⟨hcd, fun _ _ => hcv⟩
  · obtain ⟨hs, he⟩ := sized_of_forall₂ hcells
    exact ⟨hs, hs.defined_of_den_pos fun i j hi hj => (he i j hi hj).1,
      fun i j => (he i j i.2 j.2).2 i.2 j.2⟩

/-- The adjugate of a defined matrix of size `k + 1` stands for the adjugate of its values, or
an overflow. -/
theorem adjugate_spec {a : Mat} {k : ℕ} (ha : a.Sized (k + 1) (k + 1)) (hda : a.Defined) :
    Outcome Error.IsOverflow (fun J => J.Sized (k + 1) (k + 1) ∧ J.Defined ∧
        J.val (k + 1) (k + 1) = (a.val (k + 1) (k + 1)).adjugate)
      a.adjugate := by
  unfold adjugate
  refine (cofactorMatrix_spec ha hda).bind fun c ⟨hcs, hcd, hce⟩ =>
    Outcome.pure ⟨hcs.transpose, hcd.transpose hcs, ?_⟩
  ext i j
  rw [hcs.val_transpose, Matrix.transpose_apply, val_apply, hce,
    Matrix.adjugate_fin_succ_eq_det_submatrix]

/-! ### Inverses and adjugates -/

/-- The strict inverse of a defined nonsingular matrix stands for its inverse, or an
overflow: it is never refused. -/
theorem inverse_strict_outcome {a : Mat} {n : ℕ} (ha : a.Sized n n) (hda : a.Defined)
    (hn : 0 < n) (hdet : (a.val n n).det ≠ 0) :
    Outcome Error.IsOverflow (fun x => x.Sized n n ∧ x.Defined ∧ x.val n n = (a.val n n)⁻¹)
      (a.inverse true) := by
  have hind : a.IndependentColumns n (min n n) := by
    rw [min_self, independentColumns_iff_det]
    exact hdet
  obtain ⟨e, he, hes, hel, hev⟩ := identity_spec hn
  unfold inverse
  rw [if_neg (by rw [ha.rows_eq, ha.cols_eq]; exact not_not.2 rfl), ha.rows_eq, he,
    Outcome.ok_bind]
  refine ((reducedEchelon_strict_spec ha hes hda hel.defined).mono ?_ fun _ h => h).bind ?_
  · rintro _ (h | ⟨c, hc, rfl, hr⟩)
    · exact h
    · exact absurd hind (hr.not_independentColumns hc)
  · rintro ⟨r, o⟩ ⟨x, rfl, hred⟩
    obtain ⟨E, hEA, -, hx⟩ := hred.exists_inverse
    refine Outcome.pure ⟨hred.tableau.right, hred.tableau.right_defined, ?_⟩
    rw [Option.getD_some, hx, hev, Matrix.mul_one, Matrix.inv_eq_left_inv hEA]

/-- **The adjugate.** Let `a` be a defined square matrix with a row, `J` its adjugate, `d` its
determinant, and `S` the identity scaled by `d`. The products of `a` with `J`, either way
round, are equal to `S` unless they overflow. When `d` is not zero, `J` scaled by `1 / d` is
equal to the strict inverse of `a`, which is then never refused, only possibly overflows. -/
theorem adjugate_products {a J I S : Mat} {d : Frac} {n : ℕ} (ha : a.Sized n n)
    (hda : a.Defined) (hn : 0 < n) (hJ : a.adjugate = .ok J) (hd : a.determinant = .ok d)
    (hI : identity n = .ok I) (hS : I.scale (.frac d) = .ok S) :
    Outcome Error.IsOverflow (fun P => P.equals S = true) (a.mul J) ∧
    Outcome Error.IsOverflow (fun P => P.equals S = true) (J.mul a) ∧
    (d.value ≠ 0 → ∀ r Y, Frac.one.div d = .ok r → J.scale (.frac r) = .ok Y →
      Outcome Error.IsOverflow (fun X => X.equals Y = true) (a.inverse true)) := by
  obtain ⟨k, rfl⟩ : ∃ k, n = k + 1 := ⟨n - 1, by omega⟩
  obtain ⟨hJs, hJd, hJv⟩ := (adjugate_spec ha hda).of_ok hJ
  obtain ⟨hdl, hdv⟩ := (determinant_spec ha hda).of_ok hd
  obtain ⟨e, he, hes, hel, hev⟩ := identity_spec hn
  obtain rfl : e = I := Except.ok.inj (he.symm.trans hI)
  obtain ⟨hSs, hSd, hSv⟩ := (scale_spec hes hel.defined hdl.1).of_ok hS
  have hS1 : S.val (k + 1) (k + 1) = (a.val (k + 1) (k + 1)).det • (1 : Matrix _ _ ℚ) := by
    rw [hSv, hev, hdv]
  refine ⟨?_, ?_, fun hd0 r Y hr hY => ?_⟩
  · refine (mul_spec ha hJs hda hJd hn hn).mono (fun _ h => h) fun P ⟨hPs, hPd, hPv⟩ => ?_
    rw [equals_iff hPs hSs hPd hSd, hPv, hJv, Matrix.mul_adjugate, hS1]
  · refine (mul_spec hJs ha hJd hda hn hn).mono (fun _ h => h) fun P ⟨hPs, hPd, hPv⟩ => ?_
    rw [equals_iff hPs hSs hPd hSd, hPv, hJv, Matrix.adjugate_mul, hS1]
  · -- the adjugate divided by the determinant is the inverse
    obtain ⟨hrv, hrd⟩ := (Frac.div_spec (by decide : (0 : ℤ) < Frac.one.den) hd0).of_ok hr
    obtain ⟨hYs, hYd, hYv⟩ := (scale_spec hJs hJd hrd).of_ok hY
    have hdet : (a.val (k + 1) (k + 1)).det ≠ 0 := hdv ▸ hd0
    refine (inverse_strict_outcome ha hda hn hdet).mono (fun _ h => h)
      fun X ⟨hXs, hXd, hXv⟩ => ?_
    rw [equals_iff hXs hYs hXd hYd, hXv, hYv, hJv, hrv, Frac.value_one, Matrix.inv_def,
      Ring.inverse_eq_inv', hdv, one_div]

/-- The matrix `[[2, -3, 1], [2, 0, -1], [1, 4, 5]]` of determinant `49` meets the hypotheses.
Its adjugate is `[[4, 19, 3], [-11, 9, 4], [8, -11, 6]]`, and its strict inverse is that
adjugate over `49`. -/
theorem adjugate_products_det_49 :
    (⟨3, 3, [[⟨2, 1⟩, ⟨-3, 1⟩, ⟨1, 1⟩], [⟨2, 1⟩, ⟨0, 1⟩, ⟨-1, 1⟩], [⟨1, 1⟩, ⟨4, 1⟩, ⟨5, 1⟩]]⟩ : Mat).Sized 3 3 ∧
    (⟨3, 3, [[⟨2, 1⟩, ⟨-3, 1⟩, ⟨1, 1⟩], [⟨2, 1⟩, ⟨0, 1⟩, ⟨-1, 1⟩], [⟨1, 1⟩, ⟨4, 1⟩, ⟨5, 1⟩]]⟩ : Mat).Defined ∧
    adjugate ⟨3, 3, [[⟨2, 1⟩, ⟨-3, 1⟩, ⟨1, 1⟩], [⟨2, 1⟩, ⟨0, 1⟩, ⟨-1, 1⟩], [⟨1, 1⟩, ⟨4, 1⟩, ⟨5, 1⟩]]⟩ =
      .ok ⟨3, 3, [[⟨4, 1⟩, ⟨19, 1⟩, ⟨3, 1⟩], [⟨-11, 1⟩, ⟨9, 1⟩, ⟨4, 1⟩], [⟨8, 1⟩, ⟨-11, 1⟩, ⟨6, 1⟩]]⟩ ∧
    determinant ⟨3, 3, [[⟨2, 1⟩, ⟨-3, 1⟩, ⟨1, 1⟩], [⟨2, 1⟩, ⟨0, 1⟩, ⟨-1, 1⟩], [⟨1, 1⟩, ⟨4, 1⟩, ⟨5, 1⟩]]⟩ = .ok ⟨49, 1⟩ ∧
    Outcome Error.IsOverflow (fun X => X.equals
        ⟨3, 3, [[⟨4, 49⟩, ⟨19, 49⟩, ⟨3, 49⟩], [⟨-11, 49⟩, ⟨9, 49⟩, ⟨4, 49⟩],
        [⟨8, 49⟩, ⟨-11, 49⟩, ⟨6, 49⟩]]⟩ = true)
      (inverse ⟨3, 3, [[⟨2, 1⟩, ⟨-3, 1⟩, ⟨1, 1⟩], [⟨2, 1⟩, ⟨0, 1⟩, ⟨-1, 1⟩], [⟨1, 1⟩, ⟨4, 1⟩, ⟨5, 1⟩]]⟩ true) := by
  have ha : (⟨3, 3, [[⟨2, 1⟩, ⟨-3, 1⟩, ⟨1, 1⟩], [⟨2, 1⟩, ⟨0, 1⟩, ⟨-1, 1⟩], [⟨1, 1⟩, ⟨4, 1⟩, ⟨5, 1⟩]]⟩ : Mat).Sized 3 3 := by decide
  have hda : (⟨3, 3, [[⟨2, 1⟩, ⟨-3, 1⟩, ⟨1, 1⟩], [⟨2, 1⟩, ⟨0, 1⟩, ⟨-1, 1⟩], [⟨1, 1⟩, ⟨4, 1⟩, ⟨5, 1⟩]]⟩ : Mat).Defined := by decide
  have hJ : adjugate ⟨3, 3, [[⟨2, 1⟩, ⟨-3, 1⟩, ⟨1, 1⟩], [⟨2, 1⟩, ⟨0, 1⟩, ⟨-1, 1⟩], [⟨1, 1⟩, ⟨4, 1⟩, ⟨5, 1⟩]]⟩ =
      .ok ⟨3, 3, [[⟨4, 1⟩, ⟨19, 1⟩, ⟨3, 1⟩], [⟨-11, 1⟩, ⟨9, 1⟩, ⟨4, 1⟩], [⟨8, 1⟩, ⟨-11, 1⟩, ⟨6, 1⟩]]⟩ := rfl
  have hd : determinant ⟨3, 3, [[⟨2, 1⟩, ⟨-3, 1⟩, ⟨1, 1⟩], [⟨2, 1⟩, ⟨0, 1⟩, ⟨-1, 1⟩], [⟨1, 1⟩, ⟨4, 1⟩, ⟨5, 1⟩]]⟩ = .ok ⟨49, 1⟩ := rfl
  have hI : identity (3 : ℕ) = .ok ⟨3, 3, [[⟨1, 1⟩, ⟨0, 1⟩, ⟨0, 1⟩], [⟨0, 1⟩, ⟨1, 1⟩, ⟨0, 1⟩],
      [⟨0, 1⟩, ⟨0, 1⟩, ⟨1, 1⟩]]⟩ := rfl
  have hS : (⟨3, 3, [[⟨1, 1⟩, ⟨0, 1⟩, ⟨0, 1⟩], [⟨0, 1⟩, ⟨1, 1⟩, ⟨0, 1⟩],
      [⟨0, 1⟩, ⟨0, 1⟩, ⟨1, 1⟩]]⟩ : Mat).scale (.frac ⟨49, 1⟩) =
      .ok ⟨3, 3, [[⟨49, 1⟩, ⟨0, 1⟩, ⟨0, 1⟩], [⟨0, 1⟩, ⟨49, 1⟩, ⟨0, 1⟩], [⟨0, 1⟩, ⟨0, 1⟩, ⟨49, 1⟩]]⟩ := rfl
  have hr : Frac.one.div ⟨49, 1⟩ = .ok ⟨1, 49⟩ := rfl
  have hY : ((⟨3, 3, [[⟨4, 1⟩, ⟨19, 1⟩, ⟨3, 1⟩], [⟨-11, 1⟩, ⟨9, 1⟩, ⟨4, 1⟩], [⟨8, 1⟩, ⟨-11, 1⟩, ⟨6, 1⟩]]⟩ : Mat)).scale (.frac ⟨1, 49⟩) =
      .ok ⟨3, 3, [[⟨4, 49⟩, ⟨19, 49⟩, ⟨3, 49⟩], [⟨-11, 49⟩, ⟨9, 49⟩, ⟨4, 49⟩],
        [⟨8, 49⟩, ⟨-11, 49⟩, ⟨6, 49⟩]]⟩ := rfl
  exact ⟨ha, hda, hJ, hd,
    (adjugate_products ha hda (by decide) hJ hd hI hS).2.2 (by simp [Frac.value]) _ _ hr hY⟩

end Mat

end Frac64
