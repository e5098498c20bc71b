import Frac64.Mat.Determinant
import Frac64.Proofs.Singularity

/-!
# Determinants by elimination

`Mat.determinant` brings a square matrix to triangular form by an elimination of its own,
`Mat.triangulate`. Going down the diagonal, a zero pivot is exchanged with the first lower row
that is nonzero in its column, and each lower row that is nonzero there gets the multiple
`-(row / pivot)` of the pivot row added. An exchange negates the determinant and an addition
keeps it, so after `i` columns the matrix has the determinant of the input times `(-1)^s`, for
`s` exchanges, and its first `i` columns form a staircase. A column with no pivot left is zero
from the diagonal down, and the determinant is zero. Otherwise the determinant is the product
of the diagonal of the triangular matrix, in lowest terms, with the sign of the exchanges.

## Main definitions

* `Mat.Triangulating` — the state of the elimination after `i` columns.
* `Mat.Triangulated` — what the elimination ends with.

## Main results

* `Frac.neg_spec` — negation keeps lowest terms.
* `Mat.clearEntry_spec`, `Mat.clearColumn_spec` — one row, and one column, cleared below a
  pivot.
* `Mat.triangulate_spec` — the elimination.
* `Mat.determinant_spec` — the determinant of the values, in lowest terms, or an overflow.
* `Mat.determinant_eq_leibniz` — **the determinant is the Leibniz sum in lowest terms, `0/1`
  exactly for a singular matrix, unless it overflows; only a matrix that is not square is
  refused.**
-/

namespace Frac64

namespace Frac

/-- A fraction made over a positive denominator is the pair itself, or `0/1` for a zero
numerator, unless a part leaves the 64-bit range. -/
theorem make_of_pos {n d : Int} (hd : 0 < d) :
    Outcome Error.IsOverflow (fun a : Frac => a = if n = 0 then zero else ⟨n, d⟩) (make n d) := by
  unfold make
  refine (checked_spec n).bind ?_
  rintro _ rfl
  refine (checked_spec d).bind ?_
  rintro _ rfl
  simp only [not_lt.2 hd.le, if_false, pure_bind, ne_eq, hd.ne', not_false_eq_true, and_true]
  exact Outcome.pure rfl

/-- Negating a fraction in lowest terms gives its negation in lowest terms, or overflows. -/
theorem neg_spec {a : Frac} (ha : a.Lowest) :
    Outcome Error.IsOverflow (fun c : Frac => c.Lowest ∧ c.value = -a.value) a.neg := by
  unfold neg
  refine (checked_spec _).bind ?_
  rintro _ rfl
  refine (make_of_pos ha.1).mono (fun _ h => h) ?_
  rintro c rfl
  split_ifs with h0
  · have : a.num = 0 := by omega
    exact ⟨lowest_zero, by rw [value_zero, value, this]; simp⟩
  · exact ⟨⟨ha.1, by simpa [Int.gcd_neg] using ha.2⟩, by simp [value, neg_div]⟩

end Frac

namespace Mat

/-! ### Reducing one row -/

theorem entry_reduceRow (a : Mat) {i : ℕ} (hi : i < a.cells.length) (r c : ℕ) :
    (a.reduceRow i).entry r c = if r = i then (a.entry r c).reduce else a.entry r c := by
  rw [reduceRow, entry_setRow _ _ hi]
  split_ifs with h
  · subst h
    simp only [entry, List.getD_eq_getElem?_getD, List.getElem?_map]
    cases (a.row r)[c]? <;> simp [Frac.zero, Frac.reduce]
  · rfl

theorem Sized.reduceRow {a : Mat} {m n : ℕ} (h : a.Sized m n) {i : ℕ} (hi : i < m) :
    (a.reduceRow i).Sized m n :=
  h.setRow (by rw [List.length_map, h.length_row i hi])

theorem Defined.reduceRow {a : Mat} {m n : ℕ} (h : a.Defined) (hs : a.Sized m n) {i : ℕ}
    (hi : i < m) : (a.reduceRow i).Defined := by
  refine h.setRow fun x hx => ?_
  obtain ⟨y, hy, rfl⟩ := List.mem_map.1 hx
  exact Frac.den_pos_reduce (h _ (hs.mem_row hi) y hy)

theorem value_entry_reduceRow {a : Mat} {m n : ℕ} (hs : a.Sized m n) {i : ℕ} (hi : i < m)
    (r c : ℕ) : ((a.reduceRow i).entry r c).value = (a.entry r c).value := by
  rw [entry_reduceRow a (by rw [hs.length_cells]; exact hi)]
  split_ifs
  · exact Frac.value_reduce _
  · rfl

/-! ### The state of the elimination -/

/-- The elimination of a square matrix of size `n` whose determinant is `D`, after `i` columns
and `s` exchanges: a staircase of `i` columns whose determinant is `(-1)^s D`. -/
structure Triangulating (n : ℕ) (D : ℚ) (i : ℕ) (t : Mat) (s : ℕ) : Prop where
  sized : t.Sized n n
  defined : t.Defined
  staircase : t.Staircase n i
  det : (t.val n n).det = (-1) ^ s * D

theorem Triangulating.start {a : Mat} {n : ℕ} (ha : a.Sized n n) (hda : a.Defined) :
    Triangulating n (a.val n n).det 0 a 0 :=
  ⟨ha, hda, staircase_zero a n, by simp⟩

section Triangulating

variable {n i s : ℕ} {D : ℚ} {t : Mat}

/-- Exchanging the pivot row with a lower row negates the determinant. -/
theorem Triangulating.swap (h : Triangulating n D i t s) {j : ℕ} (hij : i < j) (hj : j < n) :
    Triangulating n D i (t.swap i j) (s + 1) := by
  have hi : i < n := hij.trans hj
  refine ⟨h.sized.swap hi hj, h.defined.swap h.sized hi hj,
    h.staircase.swap h.sized hi hj le_rfl hij.le, ?_⟩
  have hne : (⟨i, hi⟩ : Fin n) ≠ ⟨j, hj⟩ := fun h' => by simp at h'; omega
  rw [show t.swap i j = t.swap (⟨i, hi⟩ : Fin n) (⟨j, hj⟩ : Fin n) from rfl,
    val_swap h.sized, Matrix.det_mul, Matrix.det_permutation, Equiv.Perm.sign_swap hne, h.det,
    pow_succ]
  push_cast
  ring

/-- A column that is zero from the diagonal down, after a staircase, makes the determinant
zero. -/
theorem Triangulating.det_eq_zero (h : Triangulating n D i t s) (hi : i < n)
    (hz : ∀ r, i ≤ r → r < n → (t.entry r i).value = 0) : D = 0 := by
  have hdep : ¬ t.IndependentColumns n n := Stuck.not_independentColumns ⟨h.staircase, hz⟩ hi le_rfl
  rw [independentColumns_iff_det, not_not, h.det] at hdep
  exact (mul_eq_zero.1 hdep).resolve_left (pow_ne_zero _ (by norm_num))

end Triangulating

/-! ### Clearing below a pivot -/

/-- One lower row `j` cleared in column `i`: left alone when it is zero there, else given the
multiple `-(t[j][i] / t[i][i])` of the pivot row and brought to lowest terms. -/
theorem clearEntry_spec {t : Mat} {n i j : ℕ} (hs : t.Sized n n) (hd : t.Defined) (hij : i < j)
    (hj : j < n) (hpiv : (t.entry i i).value ≠ 0) :
    Outcome Error.IsOverflow (fun t' => t'.Sized n n ∧ t'.Defined ∧ (t'.entry j i).value = 0 ∧
        ∃ c : ℚ, ∀ r col, (t'.entry r col).value =
          (t.entry r col).value + if r = j then (t.entry i col).value * c else 0)
      (clearEntry t i j) := by
  have hden := hd.den_pos
  unfold clearEntry
  split_ifs with hz
  · exact ⟨hs, hd, (Frac.isZero_iff_value (hden j i)).1 hz, 0, fun r col => by simp⟩
  · refine (Frac.div_spec (hden j i) hpiv).bind fun q ⟨hq, hqd⟩ => ?_
    refine (Frac.neg_spec (Frac.lowest_reduce hqd)).bind fun f ⟨hfl, hf⟩ => ?_
    refine (addMultiple_spec hs hd hj (hij.trans hj) hfl.1).bind fun t' ⟨hs', hd', he⟩ => ?_
    refine Outcome.pure ⟨hs'.reduceRow hj, hd'.reduceRow hs' hj, ?_, f.value, fun r col => ?_⟩
    · rw [value_entry_reduceRow hs' hj, he, if_pos rfl, hf, Frac.value_reduce, hq]
      field_simp
      ring
    · rw [value_entry_reduceRow hs' hj, he]

/-- The clearing of column `i` below a nonzero pivot of `t₀` once rows `i + 1, …, r - 1` are
done: the staircase, the pivot and the determinant are those of `t₀`. -/
structure ClearingColumn (n i r : ℕ) (t₀ t : Mat) : Prop where
  sized : t.Sized n n
  defined : t.Defined
  staircase : t.Staircase n i
  pivot : (t.entry i i).value = (t₀.entry i i).value
  cleared : ∀ j, i < j → j < r → (t.entry j i).value = 0
  det : (t.val n n).det = (t₀.val n n).det

/-- Clearing column `i` below a nonzero pivot extends the staircase by a column and keeps the
determinant. -/
theorem clearColumn_spec {n i s : ℕ} {D : ℚ} {t : Mat} (h : Triangulating n D i t s)
    (hpiv : (t.entry i i).value ≠ 0) (hi : i < n) :
    Outcome Error.IsOverflow (fun t' => Triangulating n D (i + 1) t' s)
      ((List.range' (i + 1) (t.rows - (i + 1))).foldlM (fun m j => clearEntry m i j) t) := by
  have hlen : i + 1 + (t.rows - (i + 1)) = n := by rw [h.sized.rows_eq]; omega
  refine Outcome.mono (@Outcome.foldlM_range' _ _ _ (fun r t' => ClearingColumn n i r t t') _ _ t
    ⟨h.sized, h.defined, h.staircase, rfl, fun _ h1 h2 => absurd h2 (by omega), rfl⟩
    fun r t' hr1 hr2 ht' => ?step) (fun _ h => h) fun t' ht' => ?done
  case step =>
    have hrn : r < n := by omega
    refine (clearEntry_spec ht'.sized ht'.defined hr1 hrn (ht'.pivot ▸ hpiv)).mono
      (fun _ h => h) ?_
    rintro t'' ⟨hs'', hd'', hzero, c, he⟩
    refine ⟨hs'', hd'', ht'.staircase.addRow hr1 he, ?_, fun j h1 h2 => ?_, ?_⟩
    · rw [he, if_neg (by omega), add_zero, ht'.pivot]
    · rcases Nat.lt_succ_iff_lt_or_eq.1 h2 with h2 | rfl
      · rw [he, if_neg (by omega), add_zero, ht'.cleared j h1 h2]
      · exact hzero
    · -- the row operation is a transvection, of determinant one
      have hne : (⟨r, hrn⟩ : Fin n) ≠ ⟨i, hi⟩ := fun h' => by simp at h'; omega
      rw [val_eq_transvection (t := ⟨r, hrn⟩) (s := ⟨i, hi⟩) he, Matrix.det_mul,
        Matrix.det_transvection_of_ne _ _ hne, one_mul, ht'.det]
  case done =>
    rw [hlen] at ht'
    refine ⟨ht'.sized, ht'.defined, fun j hj => ?_, by rw [ht'.det, h.det]⟩
    rcases Nat.lt_succ_iff_lt_or_eq.1 hj with hj | rfl
    · exact ht'.staircase j hj
    · exact ⟨ht'.pivot ▸ hpiv, fun r h1 h2 => ht'.cleared r h1 h2⟩

/-! ### The elimination -/

/-- What the elimination ends with: a triangular matrix whose determinant is `D` up to the
sign of the exchanges made, or a column without a pivot, and then `D` is zero. -/
def Triangulated (n : ℕ) (D : ℚ) : Option (Mat × ℕ) → Prop
  | none => D = 0
  | some (t, s) => Triangulating n D n t s

/-- The elimination from column `i` on, for `i + k = n`, takes a state of the elimination to its
end, or overflows. -/
theorem triangulate_spec {n : ℕ} {D : ℚ} :
    ∀ (k : ℕ) (t : Mat) (s i : ℕ), i + k = n → Triangulating n D i t s →
      Outcome Error.IsOverflow (Triangulated n D) (triangulate k t s i) := by
  intro k
  induction k with
  | zero =>
    intro t s i hi h
    rw [add_zero] at hi
    subst hi
    exact h
  | succ k ih =>
    intro t s i hik h
    have hi : i < n := by omega
    -- once a nonzero pivot stands in place, column `i` is cleared and the rest continues
    have next : ∀ t' s', Triangulating n D i t' s' → (t'.entry i i).value ≠ 0 →
        Outcome Error.IsOverflow (Triangulated n D)
          ((List.range' (i + 1) (t'.rows - (i + 1))).foldlM (fun m j => clearEntry m i j) t' >>=
            fun m => triangulate k m s' (i + 1)) :=
      fun t' s' h' hpiv =>
        (clearColumn_spec h' hpiv hi).bind fun t'' h'' => ih t'' s' (i + 1) (by omega) h''
    have hden := h.defined.den_pos
    rw [triangulate]
    by_cases hz : (t.entry i i).isZero
    · simp only [hz, if_true]
      cases hp : pivotRow? t i (i + 1) with
      | none =>
        -- no pivot: the column is zero from the diagonal down
        refine h.det_eq_zero hi fun r hir hr => ?_
        rcases Nat.eq_or_lt_of_le hir with rfl | hlt
        · exact (Frac.isZero_iff_value (hden _ _)).1 hz
        · exact (Frac.isZero_iff_value (hden _ _)).1
            (pivotRow?_none hp r hlt (by rw [h.sized.rows_eq]; exact hr))
      | some j =>
        obtain ⟨hij, hjm, hjz⟩ := pivotRow?_some hp
        rw [h.sized.rows_eq] at hjm
        refine next _ _ (h.swap hij hjm) ?_
        rw [entry_swap h.sized hi hjm, Equiv.swap_apply_left]
        intro h0
        rw [← Frac.isZero_iff_value (hden _ _)] at h0
        rw [h0] at hjz
        exact Bool.noConfusion hjz
    · simp only [hz, Bool.false_eq_true, if_false]
      exact next t s h fun h0 => hz ((Frac.isZero_iff_value (hden _ _)).2 h0)

/-! ### The determinant -/

/-- The product of the first `k` diagonal entries, in lowest terms, or an overflow. -/
theorem diagonalProduct_spec {t : Mat} (hd : t.Defined) (k : ℕ) :
    Outcome Error.IsOverflow
      (fun d => d.Lowest ∧ d.value = ∏ i ∈ Finset.range k, (t.entry i i).value)
      (diagonalProduct t k) := by
  unfold diagonalProduct
  refine Outcome.foldlM_range (I := fun r d => d.Lowest ∧
    d.value = ∏ i ∈ Finset.range r, (t.entry i i).value) k Frac.one
    ⟨Frac.lowest_one, by simp⟩ fun r d _ ⟨hdl, hdv⟩ => ?_
  refine (Frac.mul_spec hdl.1 (hd.den_pos r r)).bind fun p ⟨hp, hpd⟩ =>
    Outcome.pure ⟨Frac.lowest_reduce hpd, ?_⟩
  rw [Frac.value_reduce, hp, hdv, Finset.prod_range_succ]

/-- A staircase of all `n` columns is upper triangular: its determinant is the product of its
diagonal. -/
theorem Staircase.det_eq_prod {t : Mat} {n : ℕ} (h : t.Staircase n n) :
    (t.val n n).det = ∏ i ∈ Finset.range n, (t.entry i i).value := by
  have hup : (t.val n n).IsUpperTriangular := by
    intro i j hji
    exact (h j j.2).2 i hji i.2
  rw [Matrix.det_of_isUpperTriangular hup, ← Fin.prod_univ_eq_prod_range]
  rfl

/-- The determinant of a defined square matrix is the determinant of its values, in lowest
terms, or an overflow. -/
theorem determinant_spec {a : Mat} {n : ℕ} (ha : a.Sized n n) (hda : a.Defined) :
    Outcome Error.IsOverflow (fun d => d.Lowest ∧ d.value = (a.val n n).det) a.determinant := by
  unfold determinant
  simp only [ha.rows_eq, ha.cols_eq, ne_eq, not_true_eq_false, if_false]
  refine (triangulate_spec n a 0 0 (zero_add n) (Triangulating.start ha hda)).bind ?_
  rintro (_ | ⟨t, s⟩) h
  · exact Outcome.pure ⟨Frac.lowest_zero, by rw [Frac.value_zero]; exact h.symm⟩
  · dsimp only
    rw [h.sized.rows_eq]
    refine (diagonalProduct_spec h.defined n).bind fun d ⟨hdl, hdv⟩ => ?_
    have hdet : d.value = (-1) ^ s * (a.val n n).det := by
      rw [hdv, ← h.staircase.det_eq_prod, h.det]
    split_ifs with hs
    · -- an odd number of exchanges
      refine (Frac.neg_spec hdl).mono (fun _ h => h) fun c ⟨hcl, hcv⟩ => ⟨hcl, ?_⟩
      rw [hcv, hdet, Odd.neg_one_pow (Nat.odd_iff.2 hs)]
      ring
    · refine Outcome.pure ⟨hdl, ?_⟩
      rw [hdet, Even.neg_one_pow (Nat.even_iff.2 (by omega)), one_mul]

/-- **The determinant.** The determinant of a defined `m × n` matrix is refused, with a shape
error, exactly when the matrix is not square. For a square one it is the Leibniz sum of its
values, `∑ σ, sign σ * ∏ i, a[i][σ i]`, in lowest terms, and it is `0/1` exactly when the
matrix is singular, unless an integer leaves the 64-bit range first. -/
theorem determinant_eq_leibniz {a : Mat} {m n : ℕ} (ha : a.Sized m n) (hda : a.Defined) :
    ((∃ e, a.determinant = .error e ∧ e.kind = .shapeMismatch) ↔ m ≠ n) ∧
    (m = n → Outcome Error.IsOverflow (fun d => d.Lowest ∧
      d.value = ∑ σ : Equiv.Perm (Fin n), ((σ.sign : ℤ) : ℚ) * ∏ i : Fin n, (a.entry i (σ i)).value ∧
      (d = Frac.zero ↔ ¬ IsUnit (a.val n n))) a.determinant) := by
  have hsquare : m = n → Outcome Error.IsOverflow (fun d => d.Lowest ∧
      d.value = ∑ σ : Equiv.Perm (Fin n), ((σ.sign : ℤ) : ℚ) * ∏ i : Fin n, (a.entry i (σ i)).value ∧
      (d = Frac.zero ↔ ¬ IsUnit (a.val n n))) a.determinant := by
    rintro rfl
    refine (determinant_spec ha hda).mono (fun _ h => h) ?_
    rintro d ⟨hdl, hdv⟩
    -- the Leibniz sum of `a` is the determinant of its transpose
    have hleib : (a.val m m).det =
        ∑ σ : Equiv.Perm (Fin m), ((σ.sign : ℤ) : ℚ) * ∏ i : Fin m, (a.entry i (σ i)).value := by
      rw [← Matrix.det_transpose, Matrix.det_apply']
      rfl
    refine ⟨hdl, hdv.trans hleib, ?_⟩
    rw [Matrix.isUnit_iff_isUnit_det, isUnit_iff_ne_zero, not_not, ← hdv]
    constructor
    · rintro rfl
      exact Frac.value_zero
    · intro h0
      exact Frac.eq_of_lowest hdl Frac.lowest_zero (by rw [h0, Frac.value_zero])
  refine ⟨⟨fun ⟨e, he, hk⟩ hmn => ?_, fun hmn => ⟨.determinantNotSquare, ?_, rfl⟩⟩, hsquare⟩
  · -- a square matrix only overflows
    obtain ⟨v, rfl⟩ := (hsquare hmn).of_error he
    simp [Error.kind] at hk
  · unfold determinant
    rw [if_pos (by rw [ha.rows_eq, ha.cols_eq]; exact hmn)]
    rfl

/-- The matrix `[[0, 2], [1, 0]]` needs one exchange: its determinant `-2` is the Leibniz sum
`0 · 0 - 2 · 1`. -/
theorem determinant_eq_leibniz_exchange :
    (⟨2, 2, [[⟨0, 1⟩, ⟨2, 1⟩], [⟨1, 1⟩, ⟨0, 1⟩]]⟩ : Mat).Sized 2 2 ∧
    (⟨2, 2, [[⟨0, 1⟩, ⟨2, 1⟩], [⟨1, 1⟩, ⟨0, 1⟩]]⟩ : Mat).Defined ∧
    determinant ⟨2, 2, [[⟨0, 1⟩, ⟨2, 1⟩], [⟨1, 1⟩, ⟨0, 1⟩]]⟩ = .ok ⟨-2, 1⟩ ∧
    (⟨-2, 1⟩ : Frac).value = ∑ σ : Equiv.Perm (Fin 2), ((σ.sign : ℤ) : ℚ) *
      ∏ i : Fin 2, ((⟨2, 2, [[⟨0, 1⟩, ⟨2, 1⟩], [⟨1, 1⟩, ⟨0, 1⟩]]⟩ : Mat).entry i (σ i)).value := by
  have ha : (⟨2, 2, [[⟨0, 1⟩, ⟨2, 1⟩], [⟨1, 1⟩, ⟨0, 1⟩]]⟩ : Mat).Sized 2 2 := by decide
  have hda : (⟨2, 2, [[⟨0, 1⟩, ⟨2, 1⟩], [⟨1, 1⟩, ⟨0, 1⟩]]⟩ : Mat).Defined := by decide
  have hdet : determinant ⟨2, 2, [[⟨0, 1⟩, ⟨2, 1⟩], [⟨1, 1⟩, ⟨0, 1⟩]]⟩ = .ok ⟨-2, 1⟩ := rfl
  exact ⟨ha, hda, hdet, (((determinant_eq_leibniz ha hda).2 rfl).of_ok hdet).2.1⟩

end Mat

end Frac64
