import Frac64.Proofs.BackSubstitution

/-!
# Permissive elimination

Without `strict` the pivot search before each column is skipped: the forward pass divides by
whatever stands on the diagonal after the up-front exchanges. When the leading principal
minors of the exchanged matrix are nonzero, that pivot is never zero. After `i` columns the
matrix is a unit lower triangular transformation of the exchanged one, so its leading
`(i + 1) × (i + 1)` block has the same determinant; that block is upper triangular with
pivot `i` as its last diagonal entry. The permissive run is then a genuine row reduction.

A zero pivot is not always noticed. Its factor `±1/0` times a zero of the pivot row gives `0/0`,
lowest terms turn `0/0` into `0/1`, and a row can be wiped out without an undefined entry
left behind (`Mat.echelon_permissive_loses_row`).

## Main results

* `Mat.pivot_ne_zero` — the pivot of a unit lower triangular elimination and the leading
  minors.
* `Mat.forward_permissive_spec`, `Mat.echelon_permissive_spec` — the permissive passes when no
  leading minor vanishes.
* `Mat.permissive_genuine_of_minors` — **then the permissive echelon and reduced echelon forms
  are defined and are genuine row reductions, unless they overflow.**
-/

namespace Frac64

/-! ### Leading blocks -/

/-- The leading `j × j` block of `L A` for a lower triangular `L` is the product of the leading
blocks: the terms past row `j` meet zeros of `L` above its diagonal. -/
theorem UnitLower.submatrix_mul {m n j : ℕ} {L : Matrix (Fin m) (Fin m) ℚ} (hL : UnitLower L)
    (hj : j ≤ m) (hjn : j ≤ n) (A : Matrix (Fin m) (Fin n) ℚ) :
    (L * A).submatrix (Fin.castLE hj) (Fin.castLE hjn) =
      L.submatrix (Fin.castLE hj) (Fin.castLE hj) * A.submatrix (Fin.castLE hj) (Fin.castLE hjn) := by
  ext r c
  simp only [Matrix.submatrix_apply, Matrix.mul_apply]
  have hmap := Finset.sum_map Finset.univ (Fin.castLEEmb hj)
    fun l => L (Fin.castLE hj r) l * A l (Fin.castLE hjn c)
  simp only [Fin.castLEEmb_apply] at hmap
  rw [← hmap]
  refine (Finset.sum_subset (Finset.subset_univ _) fun l _ hl => ?_).symm
  have hlj : j ≤ (l : ℕ) := by
    by_contra h
    exact hl (Finset.mem_map.2 ⟨⟨l, by omega⟩, Finset.mem_univ _, Fin.ext rfl⟩)
  rw [hL.above _ _ (by rw [Fin.lt_def]; simp; omega), zero_mul]

theorem UnitLower.det_submatrix {m j : ℕ} {L : Matrix (Fin m) (Fin m) ℚ} (hL : UnitLower L)
    (hj : j ≤ m) : (L.submatrix (Fin.castLE hj) (Fin.castLE hj)).det = 1 := by
  have hlow : (L.submatrix (Fin.castLE hj) (Fin.castLE hj)).IsLowerTriangular :=
    fun r c h => hL.above _ _ h
  rw [Matrix.det_of_isLowerTriangular _ hlow]
  exact Finset.prod_eq_one fun r _ => hL.diag _

namespace Mat

theorem val_submatrix (a : Mat) {m n j : ℕ} (hj : j ≤ m) (hjn : j ≤ n) :
    (a.val m n).submatrix (Fin.castLE hj) (Fin.castLE hjn) = a.val j j := by
  ext r c
  rfl

/-- After a unit lower triangular transformation of `a` that has made a staircase of `i`
columns, pivot `i` is not zero when the leading minor of order `i + 1` of `a` is not: the
leading blocks of the two have one determinant, and that of the staircase is the product of
its pivots. -/
theorem pivot_ne_zero {a a' : Mat} {m n i : ℕ} {L : Matrix (Fin m) (Fin m) ℚ} (hL : UnitLower L)
    (ht : a'.val m n = L * a.val m n) (hst : a'.Staircase m i) (him : i < m) (hin : i < n)
    (hminor : (a.val (i + 1) (i + 1)).det ≠ 0) : (a'.entry i i).value ≠ 0 := by
  have hblock : a'.val (i + 1) (i + 1) =
      L.submatrix (Fin.castLE him) (Fin.castLE him) * a.val (i + 1) (i + 1) := by
    rw [← a'.val_submatrix him hin, ht, hL.submatrix_mul him hin, a.val_submatrix]
  have hupper : (a'.val (i + 1) (i + 1)).IsUpperTriangular := by
    intro r c hcr
    have hcr' : (c : ℕ) < r := hcr
    have hr := r.2
    exact (hst c (by omega)).2 r hcr' (by omega)
  intro h0
  apply hminor
  have hdet := congrArg Matrix.det hblock
  rw [Matrix.det_mul, hL.det_submatrix, one_mul, Matrix.det_of_isUpperTriangular hupper] at hdet
  rw [← hdet]
  exact Finset.prod_eq_zero (Finset.mem_univ (Fin.last i)) h0

/-! ### The permissive passes -/

/-- The state of a permissive forward elimination of `p` after `i` columns: a staircase of `i`
columns reached by a unit lower triangular transformation. -/
structure LowerForwarded (m n q : ℕ) (p : Mat × Mat) (i : ℕ) (s : Mat × Mat) : Prop where
  tableau : Tableau m n q s
  staircase : s.1.Staircase m i
  lower : ∃ L, UnitLower L ∧ Transformed m n q L p s

/-- When the leading minors of the first `k` orders are nonzero, the permissive forward pass
makes a staircase of `k` columns by a unit lower triangular transformation, or overflows. -/
theorem forward_permissive_spec {m n q k : ℕ} {p : Mat × Mat} (hp : Tableau m n q p)
    (hkm : k ≤ m) (hkn : k ≤ n) (hminors : ∀ j, j < k → (p.1.val (j + 1) (j + 1)).det ≠ 0) :
    Outcome Error.IsOverflow (LowerForwarded m n q p k) (forward p k false) := by
  unfold forward
  refine Outcome.foldlM_range k p ⟨hp, staircase_zero _ _, 1, UnitLower.one, Transformed.refl p⟩
    fun i s hi hs => ?_
  obtain ⟨L, hL, ht⟩ := hs.lower
  dsimp only
  rw [if_neg Bool.false_ne_true, pure_bind]
  -- no pivot search: the pivot is nonzero by the leading minor of order `i + 1`
  have hpiv := pivot_ne_zero hL ht.1 hs.staircase (by omega) (by omega) (hminors i hi)
  refine (clearBelow_spec hs.tableau hs.staircase hpiv (by omega)).mono (fun _ h => h) ?_
  rintro s' ⟨hs', hst', L', hL', ht'⟩
  exact ⟨hs', hst', L' * L, hL'.mul hL, ht.trans ht'⟩

/-- When the leading minors of the exchanged matrix are nonzero, the permissive echelon form
has unit pivots with zeros below them, by one invertible row transformation, or overflows. -/
theorem echelon_permissive_spec {m n q : ℕ} {a b : Mat} (ha : a.Sized m n) (hb : b.Sized m q)
    (hda : a.Defined) (hdb : b.Defined)
    (hminors : ∀ j, j < min m n → ((presort (a, b) (min m n)).1.val (j + 1) (j + 1)).det ≠ 0) :
    Outcome Error.IsOverflow (fun res => ∃ x, res.2 = some x ∧ EchelonOf m n q (a, b) res.1 x)
      (echelon a (some b) false) := by
  have hp : Tableau m n q (a, b) := ⟨ha, hb, hda, hdb⟩
  have hkm : min m n ≤ m := min_le_left m n
  obtain ⟨hps, σ, hσ⟩ := presort_spec hp (k := min m n) hkm
  unfold echelon
  simp only [companion, Outcome.ok_bind, ha.rows_eq, ha.cols_eq, hb.rows_eq, ne_eq,
    not_true_eq_false, if_false]
  refine (forward_permissive_spec hps hkm (min_le_right m n) hminors).bind fun s hs => ?_
  obtain ⟨L, hL, htr⟩ := hs.lower
  refine ((normalize_spec hs.tableau hs.staircase hkm).mono (fun _ h => h) fun s' hs' => hs').bind ?_
  rintro s' ⟨hs', hst', hunit, hlow, E', hE', htr'⟩
  refine Outcome.pure ⟨s'.2, rfl, hs', hlow, fun j hj => ⟨hunit j hj, (hst' j hj).2⟩, _,
    (hE'.mul hL.isUnit).mul (isUnit_permMatrix σ), hσ.trans (htr.trans htr')⟩

/-- `(r, x)` is a genuine row reduction of `a` and `b`: every entry defined, and one invertible
row transformation of both. -/
def GenuineReduction (m n q : ℕ) (a b r x : Mat) : Prop :=
  r.Defined ∧ x.Defined ∧
    ∃ E : Matrix (Fin m) (Fin m) ℚ, IsUnit E ∧ r.val m n = E * a.val m n ∧ x.val m q = E * b.val m q

/-- Defined matrices reached from `a` and `b` by an invertible row transformation are a genuine
row reduction of them. -/
theorem GenuineReduction.of_transformed {m n q : ℕ} {a b r x : Mat} (ht : Tableau m n q (r, x))
    (htr : ∃ E, IsUnit E ∧ Transformed m n q E (a, b) (r, x)) : GenuineReduction m n q a b r x := by
  obtain ⟨E, hE, h1, h2⟩ := htr
  exact ⟨ht.left_defined, ht.right_defined, E, hE, h1, h2⟩

/-- **Permissive elimination without zero pivots.** For defined `a` (`m × n`) and `b`
(`m × q`) whose exchanged matrix has nonzero leading principal minors of the first
`min m n` orders, the permissive echelon form and reduced echelon form are defined and are
genuine row reductions of `a` and `b`, unless they overflow. -/
theorem permissive_genuine_of_minors {m n q : ℕ} {a b : Mat} (ha : a.Sized m n)
    (hb : b.Sized m q) (hda : a.Defined) (hdb : b.Defined)
    (hminors : ∀ j, j < min m n → ((presort (a, b) (min m n)).1.val (j + 1) (j + 1)).det ≠ 0) :
    Outcome Error.IsOverflow (fun res => ∃ x, res.2 = some x ∧ GenuineReduction m n q a b res.1 x)
      (echelon a (some b) false) ∧
    Outcome Error.IsOverflow (fun res => ∃ x, res.2 = some x ∧ GenuineReduction m n q a b res.1 x)
      (reducedEchelon a (some b) false) := by
  have hech := echelon_permissive_spec ha hb hda hdb hminors
  refine ⟨hech.mono (fun _ h => h) ?_, (reducedEchelon_of_echelon (fun _ h => h) hech).mono
    (fun _ h => h) ?_⟩
  · rintro res ⟨x, hx, h⟩
    exact ⟨x, hx, .of_transformed h.tableau h.transformed⟩
  · rintro res ⟨x, hx, h⟩
    exact ⟨x, hx, .of_transformed h.tableau h.transformed⟩

/-- The system `[[2, 1], [1, 1]] x = [[1], [0]]` meets the hypotheses: its leading minors are
`2` and `1`. Its permissive echelon form is `[[1, 1/2], [0, 1]]` with `[[1/2], [-1]]`. -/
theorem permissive_genuine_of_minors_two :
    (⟨2, 2, [[⟨2, 1⟩, ⟨1, 1⟩], [⟨1, 1⟩, ⟨1, 1⟩]]⟩ : Mat).Sized 2 2 ∧
    (⟨2, 1, [[⟨1, 1⟩], [⟨0, 1⟩]]⟩ : Mat).Sized 2 1 ∧
    (⟨2, 2, [[⟨2, 1⟩, ⟨1, 1⟩], [⟨1, 1⟩, ⟨1, 1⟩]]⟩ : Mat).Defined ∧
    (⟨2, 1, [[⟨1, 1⟩], [⟨0, 1⟩]]⟩ : Mat).Defined ∧
    (∀ j, j < min 2 2 → ((presort (⟨2, 2, [[⟨2, 1⟩, ⟨1, 1⟩], [⟨1, 1⟩, ⟨1, 1⟩]]⟩,
      ⟨2, 1, [[⟨1, 1⟩], [⟨0, 1⟩]]⟩) (min 2 2)).1.val (j + 1) (j + 1)).det ≠ 0) ∧
    GenuineReduction 2 2 1 ⟨2, 2, [[⟨2, 1⟩, ⟨1, 1⟩], [⟨1, 1⟩, ⟨1, 1⟩]]⟩ ⟨2, 1, [[⟨1, 1⟩], [⟨0, 1⟩]]⟩
      ⟨2, 2, [[⟨1, 1⟩, ⟨1, 2⟩], [⟨0, 1⟩, ⟨1, 1⟩]]⟩ ⟨2, 1, [[⟨1, 2⟩], [⟨-1, 1⟩]]⟩ := by
  have ha : (⟨2, 2, [[⟨2, 1⟩, ⟨1, 1⟩], [⟨1, 1⟩, ⟨1, 1⟩]]⟩ : Mat).Sized 2 2 := by decide
  have hb : (⟨2, 1, [[⟨1, 1⟩], [⟨0, 1⟩]]⟩ : Mat).Sized 2 1 := by decide
  have hda : (⟨2, 2, [[⟨2, 1⟩, ⟨1, 1⟩], [⟨1, 1⟩, ⟨1, 1⟩]]⟩ : Mat).Defined := by decide
  have hdb : (⟨2, 1, [[⟨1, 1⟩], [⟨0, 1⟩]]⟩ : Mat).Defined := by decide
  have hminors : ∀ j, j < min 2 2 → ((presort (⟨2, 2, [[⟨2, 1⟩, ⟨1, 1⟩], [⟨1, 1⟩, ⟨1, 1⟩]]⟩,
      ⟨2, 1, [[⟨1, 1⟩], [⟨0, 1⟩]]⟩) (min 2 2)).1.val (j + 1) (j + 1)).det ≠ 0 := by
    intro j hj
    -- no diagonal entry is zero, so nothing is exchanged
    have hpre : presort (⟨2, 2, [[⟨2, 1⟩, ⟨1, 1⟩], [⟨1, 1⟩, ⟨1, 1⟩]]⟩,
        ⟨2, 1, [[⟨1, 1⟩], [⟨0, 1⟩]]⟩) (min 2 2) =
        (⟨2, 2, [[⟨2, 1⟩, ⟨1, 1⟩], [⟨1, 1⟩, ⟨1, 1⟩]]⟩, ⟨2, 1, [[⟨1, 1⟩], [⟨0, 1⟩]]⟩) := rfl
    have hj2 : j < 2 := by simpa using hj
    rw [hpre]
    interval_cases j
    · simp [Frac.value, entry, row]
    · rw [Matrix.det_fin_two]
      norm_num [Frac.value, entry, row]
  have he : echelon ⟨2, 2, [[⟨2, 1⟩, ⟨1, 1⟩], [⟨1, 1⟩, ⟨1, 1⟩]]⟩ (some ⟨2, 1, [[⟨1, 1⟩], [⟨0, 1⟩]]⟩)
      false = .ok (⟨2, 2, [[⟨1, 1⟩, ⟨1, 2⟩], [⟨0, 1⟩, ⟨1, 1⟩]]⟩, some ⟨2, 1, [[⟨1, 2⟩], [⟨-1, 1⟩]]⟩) :=
    rfl
  obtain ⟨x, hx, hg⟩ := ((permissive_genuine_of_minors ha hb hda hdb hminors).1).of_ok he
  obtain rfl := Option.some.inj hx
  exact ⟨ha, hb, hda, hdb, hminors, hg⟩

/-- A zero pivot can pass unnoticed. In `[[1, 1, 1], [1, 1, 1], [0, 1, 0]]` the second pivot
becomes zero; its factor `-(0/0)` wipes out the third row, whose `0/0` entries come back as
`0/1`. The permissive echelon form is defined everywhere, yet the third equation `y = 5` of
the system is gone: no invertible row transformation relates the result to the input. -/
theorem echelon_permissive_loses_row :
    echelon ⟨3, 3, [[⟨1, 1⟩, ⟨1, 1⟩, ⟨1, 1⟩], [⟨1, 1⟩, ⟨1, 1⟩, ⟨1, 1⟩], [⟨0, 1⟩, ⟨1, 1⟩, ⟨0, 1⟩]]⟩
        (some ⟨3, 1, [[⟨1, 1⟩], [⟨1, 1⟩], [⟨5, 1⟩]]⟩) false =
      .ok (⟨3, 3, [[⟨1, 1⟩, ⟨1, 1⟩, ⟨1, 1⟩], [⟨0, 1⟩, ⟨0, 1⟩, ⟨0, 1⟩], [⟨0, 1⟩, ⟨0, 1⟩, ⟨0, 1⟩]]⟩,
        some ⟨3, 1, [[⟨1, 1⟩], [⟨0, 1⟩], [⟨0, 1⟩]]⟩) ∧
    ¬ GenuineReduction 3 3 1
      ⟨3, 3, [[⟨1, 1⟩, ⟨1, 1⟩, ⟨1, 1⟩], [⟨1, 1⟩, ⟨1, 1⟩, ⟨1, 1⟩], [⟨0, 1⟩, ⟨1, 1⟩, ⟨0, 1⟩]]⟩
      ⟨3, 1, [[⟨1, 1⟩], [⟨1, 1⟩], [⟨5, 1⟩]]⟩
      ⟨3, 3, [[⟨1, 1⟩, ⟨1, 1⟩, ⟨1, 1⟩], [⟨0, 1⟩, ⟨0, 1⟩, ⟨0, 1⟩], [⟨0, 1⟩, ⟨0, 1⟩, ⟨0, 1⟩]]⟩
      ⟨3, 1, [[⟨1, 1⟩], [⟨0, 1⟩], [⟨0, 1⟩]]⟩ := by
  refine ⟨rfl, ?_⟩
  rintro ⟨-, -, E, hE, hR, -⟩
  -- the input would be `F` times the result for a left inverse `F`; its third row cannot be
  -- a multiple of the only nonzero row `[1, 1, 1]`
  obtain ⟨F, hF⟩ := hE.exists_left_inv
  have hA := congrArg (F * ·) hR
  simp only [← Matrix.mul_assoc, hF, Matrix.one_mul] at hA
  have h0 := congrFun (congrFun hA 2) 0
  have h1 := congrFun (congrFun hA 2) 1
  simp [Matrix.mul_apply, Fin.sum_univ_three, entry, row, Frac.value] at h0 h1
  linarith

end Mat

end Frac64
