import Frac64.Proofs.Inverse
import Mathlib.LinearAlgebra.Dimension.Constructions

/-!
# Singular matrices in strict elimination

A strict elimination refuses a matrix (`Error.noPivot`, the singular-matrix error) exactly when
its first `k = min m n` columns are linearly dependent over ℚ, unless an integer leaves the
64-bit range first.

Both directions pass through the invertible row transformation the elimination has applied,
which keeps linear independence of columns. A refusal happens in a state that is stuck at a
column `c < k`: columns `0, …, c` are then zero from row `c` down, so `c + 1` of them lie in a
space of dimension `c`. A result has unit pivots with zeros below them, and the top `k × k`
block of such a matrix is unitriangular, so its columns are independent.

## Main definitions

* `Mat.IndependentColumns` — the first columns are linearly independent.
* `Mat.RefusesExactly` — a computation is refused as singular exactly under a condition.

## Main results

* `Mat.Stuck.not_independentColumns`, `Mat.UnitStaircase.independentColumns` — the two shapes.
* `Mat.echelon_strict_correct` — **a strict echelon form has unit pivots with zeros below
  them, in lowest terms, by one invertible row transformation; and strict elimination, reduced
  elimination, solution and inversion are refused exactly for dependent first columns (for a
  square matrix: a zero determinant), unless they overflow.**
-/

namespace Frac64

/-! ### Columns under row transformations -/

section Columns

variable {m n q k : ℕ} {E : Matrix (Fin m) (Fin m) ℚ} {p p' : Mat × Mat}

/-- A row transformation multiplies each column by the same matrix. -/
theorem Transformed.column (h : Transformed m n q E p p') {j : ℕ} (hj : j < n) :
    (fun i : Fin m => (p'.1.entry i j).value) = E.mulVec fun i => (p.1.entry i j).value := by
  funext i
  have := congrFun (congrFun h.1 i) ⟨j, hj⟩
  simpa [Matrix.mul_apply, Matrix.mulVec, dotProduct] using this

/-- The first `k` columns after a row transformation are those before, multiplied by it. -/
theorem Transformed.columns (h : Transformed m n q E p p') (hk : k ≤ n) :
    Matrix.mulVecLin E ∘ (fun j : Fin k => fun i : Fin m => (p.1.entry i j).value) =
      fun j : Fin k => fun i : Fin m => (p'.1.entry i j).value := by
  funext j
  exact (h.column (by omega)).symm

end Columns

namespace Mat

/-! ### Independent columns -/

/-- The first `k` columns of the `m`-row matrix `a` are linearly independent over ℚ. -/
def IndependentColumns (a : Mat) (m k : ℕ) : Prop :=
  LinearIndependent ℚ fun j : Fin k => fun i : Fin m => (a.entry i j).value

section Transfer

variable {m n q k : ℕ} {E : Matrix (Fin m) (Fin m) ℚ} {p p' : Mat × Mat}

/-- Columns that become independent under a row transformation were independent. -/
theorem IndependentColumns.of_transformed (h : Transformed m n q E p p') (hk : k ≤ n)
    (hind : p'.1.IndependentColumns m k) : p.1.IndependentColumns m k := by
  refine LinearIndependent.of_comp (Matrix.mulVecLin E) ?_
  rw [h.columns hk]
  exact hind

/-- An invertible row transformation keeps independent columns independent. -/
theorem IndependentColumns.transformed (hE : IsUnit E) (h : Transformed m n q E p p')
    (hk : k ≤ n) (hind : p.1.IndependentColumns m k) : p'.1.IndependentColumns m k := by
  have hinj : Function.Injective E.mulVec := Matrix.mulVec_injective_iff_isUnit.2 hE
  have := hind.map' (Matrix.mulVecLin E) (LinearMap.ker_eq_bot.2 hinj)
  rwa [h.columns hk] at this

end Transfer

/-- A square matrix has independent columns exactly when its determinant is not zero. -/
theorem independentColumns_iff_det {a : Mat} {m : ℕ} :
    a.IndependentColumns m m ↔ (a.val m m).det ≠ 0 := by
  rw [← isUnit_iff_ne_zero, ← Matrix.isUnit_iff_isUnit_det, ← Matrix.linearIndependent_cols_iff_isUnit]
  rfl

/-- Unit pivots with zeros below them give independent columns: the top block is
unitriangular. -/
theorem UnitStaircase.independentColumns {a : Mat} {m k : ℕ} (h : a.UnitStaircase m k)
    (hk : k ≤ m) : a.IndependentColumns m k := by
  let B : Matrix (Fin k) (Fin k) ℚ := Matrix.of fun t j => (a.entry t j).value
  have hB : B.IsUpperTriangular := fun t j hjt => (h j j.2).2 t hjt (by omega)
  have hdet : B.det = 1 := by
    rw [Matrix.det_of_isUpperTriangular hB]
    exact Finset.prod_eq_one fun j _ => (h j j.2).1
  have hind : LinearIndependent ℚ B.col := by
    rw [Matrix.linearIndependent_cols_iff_isUnit, Matrix.isUnit_iff_isUnit_det, hdet]
    exact isUnit_one
  -- the columns of `a` restricted to the first `k` rows are those of `B`
  exact LinearIndependent.of_comp (LinearMap.funLeft ℚ ℚ (Fin.castLE hk)) hind

/-- In a state stuck at column `c`, columns `0, …, c` are dependent: they vanish from row `c`
down, so `c + 1` of them lie in a space of dimension `c`. -/
theorem Stuck.not_independentColumns {a : Mat} {m c k : ℕ} (h : a.Stuck m c) (hc : c < k)
    (hkm : k ≤ m) : ¬ a.IndependentColumns m k := by
  intro hind
  let cols : Fin (c + 1) → Fin m → ℚ := fun j i => (a.entry i j).value
  have hcols : LinearIndependent ℚ cols := hind.comp (Fin.castLE hc) (Fin.castLE_injective hc)
  -- every combination of these columns vanishes from row `c` down
  have hlow : ∀ v ∈ Submodule.span ℚ (Set.range cols), ∀ i : Fin m, c ≤ (i : ℕ) → v i = 0 := by
    intro v hv
    induction hv using Submodule.span_induction with
    | mem x hx =>
      obtain ⟨j, rfl⟩ := hx
      intro i hi
      rcases Nat.lt_succ_iff_lt_or_eq.1 j.2 with hj | hj
      · exact (h.1 j hj).2 i (by omega) i.2
      · show (a.entry i (j : ℕ)).value = 0
        rw [hj]
        exact h.2 i hi i.2
    | zero => simp
    | add x y _ _ hx hy =>
      intro i hi
      simp [hx i hi, hy i hi]
    | smul r x _ hx =>
      intro i hi
      simp [hx i hi]
  let π : (Fin m → ℚ) →ₗ[ℚ] (Fin c → ℚ) := LinearMap.funLeft ℚ ℚ (Fin.castLE (by omega))
  have hdisj : Disjoint (Submodule.span ℚ (Set.range cols)) (LinearMap.ker π) := by
    rw [Submodule.disjoint_def]
    intro v hv hπ
    funext i
    by_cases hi : (i : ℕ) < c
    · exact congrFun (LinearMap.mem_ker.1 hπ) ⟨i, hi⟩
    · exact hlow v hv i (by omega)
  have hcard := (hcols.map hdisj).fintype_card_le_finrank
  rw [Fintype.card_fin, Module.finrank_fin_fun] at hcard
  omega

/-! ### Refusals -/

/-- A computation is refused as singular (`Error.noPivot`) exactly when `singular` holds,
unless it overflows first. -/
def RefusesExactly {α : Type} (singular : Prop) (x : Except Error α) : Prop :=
  ((∃ c, x = .error (.noPivot c)) → singular) ∧
    (singular → (∃ c, x = .error (.noPivot c)) ∨ ∃ v, x = .error (.overflow v))

/-- A computation that gives a result only when `singular` fails, and fails only by overflowing
or by a refusal when `singular` holds, is refused exactly when `singular` holds. -/
theorem refusesExactly_of_outcome {α : Type} {singular : Prop} {x : Except Error α}
    (h : Outcome (fun e => e.IsOverflow ∨ (∃ c, e = .noPivot c) ∧ singular) (fun _ => ¬ singular) x) :
    RefusesExactly singular x := by
  refine ⟨?_, fun hs => ?_⟩
  · rintro ⟨c, rfl⟩
    rcases h with ⟨v, hv⟩ | ⟨-, hs⟩
    · exact absurd hv (by simp)
    · exact hs
  · cases x with
    | ok r => exact absurd hs h
    | error e =>
      rcases h with ⟨v, rfl⟩ | ⟨⟨c, rfl⟩, -⟩
      · exact Or.inr ⟨v, rfl⟩
      · exact Or.inl ⟨c, rfl⟩

section Strict

variable {m n q : ℕ} {a b : Mat}

theorem RefusedAt.not_independentColumns {c : ℕ} (h : RefusedAt m n q (a, b) c)
    (hc : c < min m n) : ¬ a.IndependentColumns m (min m n) := by
  obtain ⟨s, E, hE, ht, hs⟩ := h
  intro hind
  exact hs.not_independentColumns hc (min_le_left m n) (hind.transformed hE ht (min_le_right m n))

/-- A result with unit pivots in the first columns, reached by a row transformation, shows the
first columns independent. -/
theorem independentColumns_of_result {r x : Mat} {E : Matrix (Fin m) (Fin m) ℚ}
    (hst : r.UnitStaircase m (min m n)) (ht : Transformed m n q E (a, b) (r, x)) :
    a.IndependentColumns m (min m n) := by
  have h := IndependentColumns.of_transformed ht (min_le_right m n)
    (hst.independentColumns (min_le_left m n))
  -- read `(a, b).1` as `a` before comparing, rather than unfolding independence
  dsimp only at h
  exact h

theorem ReducedOf.unitStaircase {p : Mat × Mat} {r x : Mat} (h : ReducedOf m n q p r x) :
    r.UnitStaircase m (min m n) := by
  intro j hj
  have hjm : j < m := lt_of_lt_of_le hj (min_le_left m n)
  refine ⟨by rw [h.identity j j hjm hj, if_pos rfl, Frac.value_one], fun t hjt ht => ?_⟩
  rw [h.identity t j ht hj, if_neg (by omega), Frac.value_zero]

/-- The failures of a strict elimination are overflows, and refusals of dependent columns. -/
theorem strictFailure {e : Error}
    (h : e.IsOverflow ∨ ∃ c, c < min m n ∧ e = .noPivot c ∧ RefusedAt m n q (a, b) c) :
    e.IsOverflow ∨ (∃ c, e = .noPivot c) ∧ ¬ a.IndependentColumns m (min m n) := by
  rcases h with h | ⟨c, hc, rfl, hr⟩
  · exact Or.inl h
  · exact Or.inr ⟨⟨c, rfl⟩, hr.not_independentColumns hc⟩

variable (ha : a.Sized m n) (hb : b.Sized m q) (hda : a.Defined) (hdb : b.Defined)
include ha hb hda hdb

theorem echelon_strict_outcome :
    Outcome (fun e => e.IsOverflow ∨ (∃ c, e = .noPivot c) ∧ ¬ a.IndependentColumns m (min m n))
      (fun _ => ¬ ¬ a.IndependentColumns m (min m n)) (echelon a (some b) true) := by
  refine (echelon_strict_spec ha hb hda hdb).mono (fun _ => strictFailure) ?_
  rintro res ⟨x, -, hech⟩
  obtain ⟨E, -, ht⟩ := hech.transformed
  exact not_not_intro (independentColumns_of_result hech.staircase ht)

theorem reducedEchelon_strict_outcome :
    Outcome (fun e => e.IsOverflow ∨ (∃ c, e = .noPivot c) ∧ ¬ a.IndependentColumns m (min m n))
      (fun _ => ¬ ¬ a.IndependentColumns m (min m n)) (reducedEchelon a (some b) true) := by
  refine (reducedEchelon_strict_spec ha hb hda hdb).mono (fun _ => strictFailure) ?_
  rintro res ⟨x, -, hred⟩
  obtain ⟨E, -, ht⟩ := hred.transformed
  exact not_not_intro (independentColumns_of_result hred.unitStaircase ht)

theorem solve_strict_outcome :
    Outcome (fun e => e.IsOverflow ∨ (∃ c, e = .noPivot c) ∧ ¬ a.IndependentColumns m (min m n))
      (fun _ => ¬ ¬ a.IndependentColumns m (min m n)) (solve a (some b) true) := by
  unfold solve
  refine (reducedEchelon_strict_outcome ha hb hda hdb).bind ?_
  rintro ⟨r, o⟩ h
  exact Outcome.pure h

end Strict

/-- A strict inversion of a square matrix is refused exactly when its determinant is zero,
unless it overflows first. -/
theorem inverse_refusesExactly {m : ℕ} {a : Mat} (ha : a.Sized m m) (hda : a.Defined) :
    RefusesExactly ((a.val m m).det = 0) (inverse a true) := by
  unfold inverse
  rw [if_neg (by rw [ha.rows_eq, ha.cols_eq]; exact not_not.2 rfl), ha.rows_eq]
  rcases Nat.eq_zero_or_pos m with rfl | hm
  · -- no identity of size zero: neither a refusal nor a singular matrix
    rw [identity_zero]
    refine ⟨fun ⟨c, hc⟩ => ?_, fun hdet => ?_⟩
    · cases hc
    · simp at hdet
  obtain ⟨e, he, hes, hel, hev⟩ := identity_spec hm
  have hsing : (¬ a.IndependentColumns m (min m m)) = ((a.val m m).det = 0) := by
    rw [min_self, independentColumns_iff_det, not_not]
  rw [he, ← hsing]
  refine refusesExactly_of_outcome (Outcome.ok_bind.2 ?_)
  refine (reducedEchelon_strict_outcome ha hes hda hel.defined).bind ?_
  rintro ⟨r, o⟩ h
  exact Outcome.pure h

/-! ### Strict elimination -/

/-- The entries of a strict echelon form on and below the diagonal of its first columns are
exactly `1/1` and `0/1`. -/
theorem EchelonOf.entry_eq {m n q : ℕ} {p : Mat × Mat} {r x : Mat} (h : EchelonOf m n q p r x)
    {i j : ℕ} (hj : j < min m n) (hji : j ≤ i) (hi : i < m) :
    r.entry i j = if i = j then Frac.one else Frac.zero := by
  refine eq_identity_of_lowest ((h.lowest (by omega)).1.entry i j) ?_
  rcases Nat.eq_or_lt_of_le hji with rfl | hlt
  · rw [if_pos rfl]
    exact (h.staircase j hj).1
  · rw [if_neg (by omega)]
    exact (h.staircase j hj).2 i hlt hi

/-- **Strict elimination.** For a defined `m × n` matrix `a` and a defined `m × q` matrix `b`,
a strict echelon form `(r, x)` that is returned has, when `a` has a row and a column, every
entry in lowest terms, and is `(a, b)` as given otherwise; it has `1/1` on the diagonal and
`0/1` below it in the first `min m n` columns, and is one invertible row transformation of `a`
and `b`. A strict echelon form, reduced echelon form or solution is refused exactly when the
first `min m n` columns of `a` are linearly dependent, and a strict inverse of a square matrix
exactly when its determinant is zero, unless an overflow comes first. -/
theorem echelon_strict_correct {m n q : ℕ} {a b : Mat} (ha : a.Sized m n) (hb : b.Sized m q)
    (hda : a.Defined) (hdb : b.Defined) :
    (∀ r x, echelon a (some b) true = .ok (r, some x) →
      (0 < min m n → r.Lowest ∧ x.Lowest) ∧
      (min m n = 0 → r = a ∧ x = b) ∧
      (∀ i, i < min m n → r.entry i i = Frac.one) ∧
      (∀ i j, j < min m n → j < i → i < m → r.entry i j = Frac.zero) ∧
      ∃ E : Matrix (Fin m) (Fin m) ℚ, IsUnit E ∧
        r.val m n = E * a.val m n ∧ x.val m q = E * b.val m q) ∧
    RefusesExactly (¬ a.IndependentColumns m (min m n)) (echelon a (some b) true) ∧
    RefusesExactly (¬ a.IndependentColumns m (min m n)) (reducedEchelon a (some b) true) ∧
    RefusesExactly (¬ a.IndependentColumns m (min m n)) (solve a (some b) true) ∧
    (m = n → RefusesExactly ((a.val m m).det = 0) (inverse a true)) := by
  refine ⟨fun r x h => ?_, refusesExactly_of_outcome (echelon_strict_outcome ha hb hda hdb),
    refusesExactly_of_outcome (reducedEchelon_strict_outcome ha hb hda hdb),
    refusesExactly_of_outcome (solve_strict_outcome ha hb hda hdb), ?_⟩
  · obtain ⟨x', hx', hech⟩ := (echelon_strict_spec ha hb hda hdb).of_ok h
    obtain rfl := Option.some.inj hx'
    obtain ⟨E, hE, h1, h2⟩ := hech.transformed
    refine ⟨hech.lowest, fun hk => ?_, fun i hi => ?_, fun i j hj hji hi => ?_, E, hE, h1, h2⟩
    · -- nothing to eliminate: the result is the input
      rw [echelon_of_min_eq_zero ha hb hk, Except.ok.injEq, Prod.mk.injEq] at h
      exact ⟨h.1.symm, Option.some.inj h.2.symm⟩
    · rw [hech.entry_eq hi le_rfl (lt_of_lt_of_le hi (min_le_left m n)), if_pos rfl]
    · rw [hech.entry_eq hj hji.le hi, if_neg (by omega)]
  · rintro rfl
    exact inverse_refusesExactly ha hda

/-- The singular system `[[1, 2], [2, 4]] x = [[1], [1]]` meets the hypotheses; its strict
elimination is refused at the second column, which is twice the first. -/
theorem echelon_strict_correct_refuses :
    (⟨2, 2, [[⟨1, 1⟩, ⟨2, 1⟩], [⟨2, 1⟩, ⟨4, 1⟩]]⟩ : Mat).Sized 2 2 ∧
    (⟨2, 1, [[⟨1, 1⟩], [⟨1, 1⟩]]⟩ : Mat).Sized 2 1 ∧
    (⟨2, 2, [[⟨1, 1⟩, ⟨2, 1⟩], [⟨2, 1⟩, ⟨4, 1⟩]]⟩ : Mat).Defined ∧
    (⟨2, 1, [[⟨1, 1⟩], [⟨1, 1⟩]]⟩ : Mat).Defined ∧
    echelon ⟨2, 2, [[⟨1, 1⟩, ⟨2, 1⟩], [⟨2, 1⟩, ⟨4, 1⟩]]⟩ (some ⟨2, 1, [[⟨1, 1⟩], [⟨1, 1⟩]]⟩) true =
      .error (.noPivot 1) ∧
    ¬ (⟨2, 2, [[⟨1, 1⟩, ⟨2, 1⟩], [⟨2, 1⟩, ⟨4, 1⟩]]⟩ : Mat).IndependentColumns 2 (min 2 2) := by
  have ha : (⟨2, 2, [[⟨1, 1⟩, ⟨2, 1⟩], [⟨2, 1⟩, ⟨4, 1⟩]]⟩ : Mat).Sized 2 2 := by decide
  have hb : (⟨2, 1, [[⟨1, 1⟩], [⟨1, 1⟩]]⟩ : Mat).Sized 2 1 := by decide
  have hda : (⟨2, 2, [[⟨1, 1⟩, ⟨2, 1⟩], [⟨2, 1⟩, ⟨4, 1⟩]]⟩ : Mat).Defined := by decide
  have hdb : (⟨2, 1, [[⟨1, 1⟩], [⟨1, 1⟩]]⟩ : Mat).Defined := by decide
  have he : echelon ⟨2, 2, [[⟨1, 1⟩, ⟨2, 1⟩], [⟨2, 1⟩, ⟨4, 1⟩]]⟩
      (some ⟨2, 1, [[⟨1, 1⟩], [⟨1, 1⟩]]⟩) true = .error (.noPivot 1) := rfl
  exact ⟨ha, hb, hda, hdb, he, (echelon_strict_correct ha hb hda hdb).2.1.1 ⟨1, he⟩⟩

/-- A matrix without columns has nothing to eliminate: its strict echelon form returns the
companion as given, here `2/4`, which is not in lowest terms. -/
theorem echelon_without_columns :
    echelon ⟨1, 0, [[]]⟩ (some ⟨1, 1, [[⟨2, 4⟩]]⟩) true =
      .ok (⟨1, 0, [[]]⟩, some ⟨1, 1, [[⟨2, 4⟩]]⟩) ∧
    ¬ (⟨1, 1, [[⟨2, 4⟩]]⟩ : Mat).Lowest :=
  ⟨rfl, by decide⟩

end Mat

end Frac64
