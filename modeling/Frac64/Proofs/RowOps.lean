import Frac64.Mat.Elimination
import Frac64.Proofs.Value
import Mathlib.LinearAlgebra.Matrix.Transvection
import Mathlib.LinearAlgebra.Matrix.Permutation
import Mathlib.Data.List.GetD
import Mathlib.Algebra.Group.Pi.Units

/-!
# Row operations as matrix products

A matrix of fractions stands for a matrix of rationals (`Mat.val`), read entry by entry
through `Frac.value`. The row operations of the library act on these values as the
elementary matrices of linear algebra: exchanging rows `i` and `j` multiplies by the
permutation matrix of `Equiv.swap i j`, adding `f` times row `s` to row `t` by the
transvection `transvection t s f`, and multiplying row `i` by a nonzero `f` by a diagonal
matrix. Each is invertible, so a run of them is one invertible matrix. Reducing every
entry (`Mat.simplify`) changes no value.

An elimination works on a *tableau*: a matrix and its companion, with one number of rows
and only defined entries. `Mat.swapBoth`, `Mat.addBoth` and `Mat.scaleBoth` apply one
operation to both and keep a tableau a tableau.

## Main definitions

* `Mat.val` — the rational matrix of the first `m` rows and `n` columns.
* `Mat.Sized`, `Mat.Defined` — the shape invariant, and defined entries.
* `Tableau` — a matrix and its companion during an elimination.
* `Transformed` — one row transformation applied to both matrices of a tableau.

## Main results

* `Mat.entry_swap`, `Mat.addMultiple_spec`, `Mat.scaleRow_spec`, `Mat.entry_simplify` —
  the row operations, entry by entry.
* `Mat.swapBoth_spec`, `Mat.addBoth_spec`, `Mat.scaleBoth_spec` — the same on tableaux, as
  invertible matrices.
-/

namespace Frac64

namespace Mat

/-! ### Shape and entries -/

/-- The rational matrix of the values of the first `m` rows and `n` columns. -/
def val (a : Mat) (m n : ℕ) : Matrix (Fin m) (Fin n) ℚ := Matrix.of fun i j => (a.entry i j).value

@[simp] theorem val_apply (a : Mat) (m n : ℕ) (i : Fin m) (j : Fin n) :
    a.val m n i j = (a.entry i j).value := rfl

/-- A well-formed matrix of `m` rows of `n` entries. -/
structure Sized (a : Mat) (m n : ℕ) : Prop where
  rows_eq : a.rows = m
  cols_eq : a.cols = n
  wellFormed : a.WellFormed

/-- Every stored entry has a positive denominator. A stored fraction never has a negative
denominator (`Frac.stored_of_make`), so these are the entries that are defined. -/
def Defined (a : Mat) : Prop := ∀ r ∈ a.cells, ∀ x ∈ r, 0 < x.den

/-- Every stored entry is in lowest terms. -/
def Lowest (a : Mat) : Prop := ∀ r ∈ a.cells, ∀ x ∈ r, x.Lowest

instance (a : Mat) : Decidable a.WellFormed := inferInstanceAs (Decidable (_ ∧ _))

instance (a : Mat) (m n : ℕ) : Decidable (a.Sized m n) :=
  decidable_of_iff (a.rows = m ∧ a.cols = n ∧ a.WellFormed)
    ⟨fun ⟨h1, h2, h3⟩ => ⟨h1, h2, h3⟩, fun h => ⟨h.1, h.2, h.3⟩⟩

instance (a : Mat) : Decidable a.Defined := inferInstanceAs (Decidable (∀ r ∈ a.cells, ∀ x ∈ r, _))

instance (a : Mat) : Decidable a.Lowest :=
  inferInstanceAs (Decidable (∀ r ∈ a.cells, ∀ x ∈ r, 0 < x.den ∧ _))

theorem Sized.length_cells {a : Mat} {m n : ℕ} (h : a.Sized m n) : a.cells.length = m := by
  rw [h.wellFormed.1, h.rows_eq]

theorem Sized.length_row {a : Mat} {m n : ℕ} (h : a.Sized m n) (i : ℕ) (hi : i < m) :
    (a.row i).length = n := by
  have hi' : i < a.cells.length := by rw [h.length_cells]; exact hi
  rw [row, List.getD_eq_getElem?_getD, List.getElem?_eq_getElem hi', Option.getD_some,
    h.wellFormed.2 _ (List.getElem_mem hi'), h.cols_eq]

theorem entry_of_length_le {a : Mat} {i j : ℕ} (h : (a.row i).length ≤ j) :
    a.entry i j = Frac.zero :=
  List.getD_eq_default _ _ h

/-- Outside its shape a matrix reads as zero. -/
theorem Sized.entry_eq_zero {a : Mat} {m n : ℕ} (h : a.Sized m n) {i j : ℕ}
    (hij : m ≤ i ∨ n ≤ j) : a.entry i j = Frac.zero := by
  apply entry_of_length_le
  rcases hij with hi | hj
  · have : a.row i = [] := by
      rw [row, List.getD_eq_default _ _ (by rw [h.length_cells]; exact hi)]
    simp [this]
  · by_cases hi : i < m
    · rw [h.length_row i hi]; exact hj
    · have : a.row i = [] := by
        rw [row, List.getD_eq_default _ _ (by rw [h.length_cells]; omega)]
      simp [this]

/-- Two matrices of one shape with the same entries inside it are the same matrix. -/
theorem Sized.ext {a b : Mat} {m n : ℕ} (ha : a.Sized m n) (hb : b.Sized m n)
    (h : ∀ i j, i < m → j < n → a.entry i j = b.entry i j) : a = b := by
  have hcells : a.cells = b.cells := by
    refine List.ext_getElem (by rw [ha.length_cells, hb.length_cells]) fun i hia hib => ?_
    have hi : i < m := ha.length_cells ▸ hia
    have hra : a.row i = a.cells[i] := List.getD_eq_getElem _ _ hia
    have hrb : b.row i = b.cells[i] := List.getD_eq_getElem _ _ hib
    rw [← hra, ← hrb]
    refine List.ext_getElem (by rw [ha.length_row i hi, hb.length_row i hi]) fun j hja hjb => ?_
    have hij := h i j hi (ha.length_row i hi ▸ hja)
    rwa [entry, entry, List.getD_eq_getElem _ _ hja, List.getD_eq_getElem _ _ hjb] at hij
  cases a
  cases b
  rw [Mat.mk.injEq]
  exact ⟨ha.rows_eq.trans hb.rows_eq.symm, ha.cols_eq.trans hb.cols_eq.symm, hcells⟩

/-- An entry is a stored entry, or the zero read outside the matrix. -/
theorem entry_mem_or_zero (a : Mat) (i j : ℕ) :
    (∃ r ∈ a.cells, a.entry i j ∈ r) ∨ a.entry i j = Frac.zero := by
  by_cases hi : i < a.cells.length
  · by_cases hj : j < (a.row i).length
    · refine Or.inl ⟨a.row i, ?_, ?_⟩
      · rw [row, List.getD_eq_getElem _ _ hi]
        exact List.getElem_mem hi
      · rw [entry, List.getD_eq_getElem _ _ hj]
        exact List.getElem_mem hj
    · exact Or.inr (entry_of_length_le (by omega))
  · refine Or.inr (entry_of_length_le ?_)
    rw [row, List.getD_eq_default _ _ (by omega)]
    simp

theorem Defined.den_pos {a : Mat} (h : a.Defined) (i j : ℕ) : 0 < (a.entry i j).den := by
  rcases a.entry_mem_or_zero i j with ⟨r, hr, hx⟩ | hz
  · exact h r hr _ hx
  · rw [hz]
    decide

theorem Lowest.entry {a : Mat} (h : a.Lowest) (i j : ℕ) : (a.entry i j).Lowest := by
  rcases a.entry_mem_or_zero i j with ⟨r, hr, hx⟩ | hz
  · exact h r hr _ hx
  · rw [hz]
    exact Frac.lowest_zero

theorem Lowest.defined {a : Mat} (h : a.Lowest) : a.Defined := fun r hr x hx => (h r hr x hx).1

theorem entry_setRow (a : Mat) {i : ℕ} (r : List Frac) (hi : i < a.cells.length) (i' j : ℕ) :
    (a.setRow i r).entry i' j = if i' = i then r.getD j Frac.zero else a.entry i' j := by
  unfold entry row setRow
  by_cases h : i' = i
  · subst h
    simp [List.getD_eq_getElem?_getD, hi]
  · simp [List.getD_eq_getElem?_getD, Ne.symm h, h]

theorem Sized.setRow {a : Mat} {m n : ℕ} (h : a.Sized m n) {i : ℕ} {r : List Frac}
    (hr : r.length = n) : (a.setRow i r).Sized m n := by
  refine ⟨h.rows_eq, h.cols_eq, ?_, ?_⟩
  · simp [Mat.setRow, h.wellFormed.1]
  · intro r' hr'
    rcases List.mem_or_eq_of_mem_set hr' with hr' | hr'
    · exact h.wellFormed.2 r' hr'
    · show r'.length = a.cols
      rw [hr', hr, h.cols_eq]

theorem Defined.setRow {a : Mat} (h : a.Defined) {i : ℕ} {r : List Frac}
    (hr : ∀ x ∈ r, 0 < x.den) : (a.setRow i r).Defined := by
  intro r' hr'
  rcases List.mem_or_eq_of_mem_set hr' with hr' | rfl
  · exact h r' hr'
  · exact hr

theorem Sized.mem_row {a : Mat} {m n : ℕ} (h : a.Sized m n) {i : ℕ} (hi : i < m) :
    a.row i ∈ a.cells := by
  have hi' : i < a.cells.length := by rw [h.length_cells]; exact hi
  rw [row, List.getD_eq_getElem?_getD, List.getElem?_eq_getElem hi', Option.getD_some]
  exact List.getElem_mem hi'

/-! ### Exchanging rows -/

theorem entry_swap {a : Mat} {m n : ℕ} (h : a.Sized m n) {i j : ℕ} (hi : i < m) (hj : j < m)
    (i' c : ℕ) : (a.swap i j).entry i' c = a.entry (Equiv.swap i j i') c := by
  have hi' : i < a.cells.length := by rw [h.length_cells]; exact hi
  have hj' : j < (a.setRow i (a.row j)).cells.length := by
    simp [Mat.setRow, h.length_cells, hj]
  rw [swap, entry_setRow _ _ hj', entry_setRow _ _ hi', Equiv.swap_apply_def]
  rcases eq_or_ne i j with rfl | hij
  · by_cases h1 : i' = i <;> simp [h1, entry]
  · by_cases h1 : i' = i <;> by_cases h2 : i' = j <;> simp_all [entry]

theorem Sized.swap {a : Mat} {m n : ℕ} (h : a.Sized m n) {i j : ℕ} (hi : i < m) (hj : j < m) :
    (a.swap i j).Sized m n :=
  (h.setRow (h.length_row j hj)).setRow (h.length_row i hi)

theorem Defined.swap {a : Mat} {m n : ℕ} (h : a.Defined) (hs : a.Sized m n) {i j : ℕ}
    (hi : i < m) (hj : j < m) : (a.swap i j).Defined :=
  (h.setRow (h _ (hs.mem_row hj))).setRow (h _ (hs.mem_row hi))

theorem val_swap {a : Mat} {m n : ℕ} (h : a.Sized m n) (i j : Fin m) :
    (a.swap i j).val m n = (Equiv.swap i j).permMatrix ℚ * a.val m n := by
  rw [Equiv.Perm.permMatrix, PEquiv.toMatrix_toPEquiv_mul]
  ext i' c
  have hswap : ((Equiv.swap i j i' : Fin m) : ℕ) = Equiv.swap (i : ℕ) j i' := by
    rw [Equiv.swap_apply_def, Equiv.swap_apply_def]
    split_ifs <;> simp_all [Fin.ext_iff]
  simp [entry_swap h i.2 j.2, hswap]

/-! ### Updating a row entry by entry -/

/-- A row update gives a row as long as the one it updates. When it stops at no entry, `f`
gave each of its entries; when it stops, `f` failed on some entry. -/
theorem updateRow_spec (f : Frac → Frac → Except Error Frac) (bad : Error → Prop) :
    ∀ (ts ss : List Frac) (good : ℕ → Frac → Prop), ts.length ≤ ss.length →
      (∀ j, j < ts.length →
        Outcome bad (good j) (f (ts.getD j Frac.zero) (ss.getD j Frac.zero))) →
      (updateRow f ts ss).1.length = ts.length ∧
        (∀ e, (updateRow f ts ss).2 = some e → bad e) ∧
        ((updateRow f ts ss).2 = none →
          ∀ j, j < ts.length → good j ((updateRow f ts ss).1.getD j Frac.zero)) := by
  intro ts
  induction ts with
  | nil =>
    intro ss good _ _
    simp [updateRow]
  | cons t ts ih =>
    intro ss good hlen hf
    cases ss with
    | nil => simp at hlen
    | cons s ss =>
      have h0 := hf 0 (by simp)
      simp only [List.getD_cons_zero] at h0
      cases hts : f t s with
      | error e =>
        rw [hts] at h0
        simpa [updateRow, hts] using h0
      | ok t' =>
        rw [hts] at h0
        -- the rest of the row is updated from its second entry on
        obtain ⟨hl, hbad, hgood⟩ := ih ss (fun j => good (j + 1)) (by simpa using hlen)
          (fun j hj => by simpa using hf (j + 1) (by simpa using hj))
        simp only [updateRow, hts, List.length_cons, hl, true_and]
        refine ⟨hbad, fun hnone j hj => ?_⟩
        cases j with
        | zero => simpa using h0
        | succ j => simpa using hgood hnone j (by simpa using hj)

/-! ### Adding a multiple of a row -/

/-- Adding `f` times row `s` to row `t` changes row `t` by exactly that, or overflows. -/
theorem addMultiple_spec {a : Mat} {m n : ℕ} (hs : a.Sized m n) (hd : a.Defined) {t s : ℕ}
    (ht : t < m) (hsrc : s < m) {f : Frac} (hf : 0 < f.den) :
    Outcome Error.IsOverflow (fun a' => a'.Sized m n ∧ a'.Defined ∧ ∀ i j,
        (a'.entry i j).value =
          (a.entry i j).value + if i = t then (a.entry s j).value * f.value else 0)
      (a.addMultiple t s f).toExcept := by
  have hlt := hs.length_row t ht
  have hls := hs.length_row s hsrc
  -- each entry of row `t` becomes `x + y * f`, computed exactly
  obtain ⟨hl, hbad, hgood⟩ := updateRow_spec (fun x y => do x.add (← y.mul f))
    Error.IsOverflow (a.row t) (a.row s)
    (fun j x => 0 < x.den ∧ x.value = (a.entry t j).value + (a.entry s j).value * f.value)
    (by omega) (fun j _ => by
      refine (Frac.mul_spec (hd.den_pos s j) hf).bind ?_
      rintro y ⟨hy, hyd⟩
      refine (Frac.add_spec (hd.den_pos t j) hyd).mono (fun _ h => h) ?_
      rintro x ⟨hx, hxd⟩
      exact ⟨hxd, by rw [hx, hy]⟩)
  cases hr : (updateRow (fun x y => do x.add (← y.mul f)) (a.row t) (a.row s)).2 with
  | some e =>
    simp only [addMultiple, Edit.toExcept, hr]
    exact hbad e hr
  | none =>
    simp only [addMultiple, Edit.toExcept, hr]
    have hgood := hgood hr
    set r := (updateRow (fun x y => do x.add (← y.mul f)) (a.row t) (a.row s)).1
    have hrd : ∀ x ∈ r, 0 < x.den := by
      intro x hx
      obtain ⟨j, hj, rfl⟩ := List.mem_iff_getElem.1 hx
      have := (hgood j (by omega)).1
      rwa [List.getD_eq_getElem _ _ hj] at this
    have ht' : t < a.cells.length := by rw [hs.length_cells]; exact ht
    refine ⟨hs.setRow (by omega), hd.setRow hrd, fun i j => ?_⟩
    rw [entry_setRow _ _ ht']
    by_cases hit : i = t
    · subst hit
      simp only [if_true]
      by_cases hj : j < n
      · exact (hgood j (by omega)).2
      · -- past the last column every entry reads as zero
        rw [List.getD_eq_default _ _ (by omega), hs.entry_eq_zero (.inr (by omega)),
          hs.entry_eq_zero (.inr (by omega))]
        simp
    · simp [hit]

/-! ### Multiplying a row -/

/-- Multiplying row `i` by a nonzero `f` changes row `i` by exactly that, or overflows. -/
theorem scaleRow_spec {a : Mat} {m n : ℕ} (hs : a.Sized m n) (hd : a.Defined) {i : ℕ}
    (hi : i < m) {f : Frac} (hf : 0 < f.den) (hf0 : f.value ≠ 0) :
    Outcome Error.IsOverflow (fun a' => a'.Sized m n ∧ a'.Defined ∧ ∀ i' j,
        (a'.entry i' j).value = if i' = i then (a.entry i' j).value * f.value
          else (a.entry i' j).value)
      (a.scaleRow i f).toExcept := by
  have hli := hs.length_row i hi
  have hnz : f.isZero = false := by
    rw [Bool.eq_false_iff, ne_eq, Frac.isZero_iff_value hf]
    exact hf0
  obtain ⟨hl, hbad, hgood⟩ := updateRow_spec (fun t _ => t.mul f) Error.IsOverflow
    (a.row i) (a.row i)
    (fun j x => 0 < x.den ∧ x.value = (a.entry i j).value * f.value)
    le_rfl (fun j _ => by
      refine (Frac.mul_spec (hd.den_pos i j) hf).mono (fun _ h => h) ?_
      rintro x ⟨hx, hxd⟩
      exact ⟨hxd, hx⟩)
  cases hr : (updateRow (fun t _ => t.mul f) (a.row i) (a.row i)).2 with
  | some e =>
    simp only [scaleRow, Edit.toExcept, hnz, Bool.false_eq_true, if_false, hr]
    exact hbad e hr
  | none =>
    simp only [scaleRow, Edit.toExcept, hnz, Bool.false_eq_true, if_false, hr]
    have hgood := hgood hr
    set r := (updateRow (fun t _ => t.mul f) (a.row i) (a.row i)).1
    have hrd : ∀ x ∈ r, 0 < x.den := by
      intro x hx
      obtain ⟨j, hj, rfl⟩ := List.mem_iff_getElem.1 hx
      have := (hgood j (by omega)).1
      rwa [List.getD_eq_getElem _ _ hj] at this
    have hi' : i < a.cells.length := by rw [hs.length_cells]; exact hi
    refine ⟨hs.setRow (by omega), hd.setRow hrd, fun i' j => ?_⟩
    rw [entry_setRow _ _ hi']
    by_cases hii : i' = i
    · subst hii
      simp only [if_true]
      by_cases hj : j < n
      · exact (hgood j (by omega)).2
      · rw [List.getD_eq_default _ _ (by omega), hs.entry_eq_zero (.inr (by omega))]
        simp
    · simp [hii]

/-! ### Lowest terms -/

@[simp] theorem entry_simplify (a : Mat) (i j : ℕ) : a.simplify.entry i j = (a.entry i j).reduce := by
  simp only [simplify, map, entry, row, List.getD_eq_getElem?_getD, List.getElem?_map]
  cases a.cells[i]? with
  | none => simp [Frac.zero, Frac.reduce]
  | some r =>
    simp only [Option.map_some, Option.getD_some, List.getElem?_map]
    cases r[j]? with
    | none => simp [Frac.zero, Frac.reduce]
    | some x => rfl

@[simp] theorem val_simplify (a : Mat) (m n : ℕ) : a.simplify.val m n = a.val m n := by
  ext i j
  simp

theorem Sized.simplify {a : Mat} {m n : ℕ} (h : a.Sized m n) : a.simplify.Sized m n := by
  refine ⟨h.rows_eq, h.cols_eq, ?_, ?_⟩
  · simp [Mat.simplify, Mat.map, h.wellFormed.1]
  · intro r hr
    simp only [Mat.simplify, Mat.map, List.mem_map] at hr
    obtain ⟨r', hr', rfl⟩ := hr
    simpa [Mat.simplify, Mat.map] using h.wellFormed.2 r' hr'

theorem Defined.simplify {a : Mat} (h : a.Defined) : a.simplify.Defined := by
  intro r hr x hx
  simp only [Mat.simplify, Mat.map, List.mem_map] at hr
  obtain ⟨r', hr', rfl⟩ := hr
  simp only [List.mem_map] at hx
  obtain ⟨y, hy, rfl⟩ := hx
  exact Frac.den_pos_reduce (h r' hr' y hy)

/-- Reducing a matrix of defined entries leaves every entry in lowest terms. -/
theorem Defined.lowest_simplify {a : Mat} (h : a.Defined) : a.simplify.Lowest := by
  intro r hr x hx
  simp only [Mat.simplify, Mat.map, List.mem_map] at hr
  obtain ⟨r', hr', rfl⟩ := hr
  simp only [List.mem_map] at hx
  obtain ⟨y, hy, rfl⟩ := hx
  exact Frac.lowest_reduce (h r' hr' y hy)

/-! ### Row operations as matrices -/

/-- Row `t` gaining `c` times row `s`, read on values, is multiplication by a transvection. -/
theorem val_eq_transvection {a a' : Mat} {m n : ℕ} {t s : Fin m} {c : ℚ}
    (h : ∀ i j, (a'.entry i j).value =
      (a.entry i j).value + if i = t then (a.entry s j).value * c else 0) :
    a'.val m n = Matrix.transvection t s c * a.val m n := by
  ext i j
  by_cases hi : i = t
  · subst hi
    simp [h, mul_comm]
  · have hi' : (i : ℕ) ≠ t := fun h' => hi (Fin.ext h')
    simp [h, hi, hi']

/-- Row `i` multiplied by `c`, read on values, is multiplication by a diagonal matrix. -/
theorem val_eq_diagonal {a a' : Mat} {m n : ℕ} {i : Fin m} {c : ℚ}
    (h : ∀ i' j, (a'.entry i' j).value =
      if i' = i then (a.entry i' j).value * c else (a.entry i' j).value) :
    a'.val m n = Matrix.diagonal (Function.update 1 i c) * a.val m n := by
  ext i' j
  by_cases hi : i' = i
  · subst hi
    simp [h, mul_comm]
  · have hi' : (i' : ℕ) ≠ i := fun h' => hi (Fin.ext h')
    simp [h, hi, hi']

end Mat

theorem isUnit_permMatrix {m : ℕ} (σ : Equiv.Perm (Fin m)) : IsUnit (σ.permMatrix ℚ) := by
  rw [Matrix.isUnit_iff_isUnit_det, Matrix.det_permutation]
  exact (Equiv.Perm.sign _).isUnit.map (Int.castRingHom ℚ)

theorem isUnit_transvection {m : ℕ} {t s : Fin m} (h : t ≠ s) (c : ℚ) :
    IsUnit (Matrix.transvection t s c) := by
  rw [Matrix.isUnit_iff_isUnit_det, Matrix.det_transvection_of_ne _ _ h]
  exact isUnit_one

theorem isUnit_diagonal_update {m : ℕ} (i : Fin m) {c : ℚ} (hc : c ≠ 0) :
    IsUnit (Matrix.diagonal (Function.update (1 : Fin m → ℚ) i c)) := by
  rw [Matrix.isUnit_diagonal, Pi.isUnit_iff]
  intro i'
  by_cases hi : i' = i
  · subst hi
    simpa using hc
  · simp [hi]

/-! ### Tableaux -/

/-- A matrix and its companion during an elimination of an `m`-row system with `n` and `q`
columns: both well formed, with every entry defined. -/
structure Tableau (m n q : ℕ) (p : Mat × Mat) : Prop where
  left : p.1.Sized m n
  right : p.2.Sized m q
  left_defined : p.1.Defined
  right_defined : p.2.Defined

/-- `p'` is `p` with the row transformation `E` applied to both of its matrices. -/
def Transformed (m n q : ℕ) (E : Matrix (Fin m) (Fin m) ℚ) (p p' : Mat × Mat) : Prop :=
  p'.1.val m n = E * p.1.val m n ∧ p'.2.val m q = E * p.2.val m q

namespace Transformed

variable {m n q : ℕ} {p p' p'' : Mat × Mat} {E E' : Matrix (Fin m) (Fin m) ℚ}

theorem refl (p : Mat × Mat) : Transformed m n q 1 p p := by
  simp [Transformed]

theorem trans (h : Transformed m n q E p p') (h' : Transformed m n q E' p' p'') :
    Transformed m n q (E' * E) p p'' := by
  refine ⟨?_, ?_⟩
  · rw [h'.1, h.1, Matrix.mul_assoc]
  · rw [h'.2, h.2, Matrix.mul_assoc]

end Transformed

namespace Mat

variable {m n q : ℕ} {p : Mat × Mat}

theorem swapBoth_spec (hp : Tableau m n q p) (i j : Fin m) :
    Tableau m n q (swapBoth p i j) ∧
      Transformed m n q ((Equiv.swap i j).permMatrix ℚ) p (swapBoth p i j) :=
  ⟨⟨hp.left.swap i.2 j.2, hp.right.swap i.2 j.2, hp.left_defined.swap hp.left i.2 j.2,
      hp.right_defined.swap hp.right i.2 j.2⟩,
    val_swap hp.left i j, val_swap hp.right i j⟩

/-- Adding `f` times row `s` to row `t` in both matrices of a tableau: a transvection of both,
with every entry then in lowest terms, or an overflow. -/
theorem addBoth_spec (hp : Tableau m n q p) {t s : ℕ} (ht : t < m) (hs : s < m) {f : Frac} (hf : 0 < f.den) :
    Outcome Error.IsOverflow (fun p' => Tableau m n q p' ∧ p'.1.Lowest ∧ p'.2.Lowest ∧
        Transformed m n q (Matrix.transvection ⟨t, ht⟩ ⟨s, hs⟩ f.value) p p' ∧
        ∀ i j, (p'.1.entry i j).value =
          (p.1.entry i j).value + if i = t then (p.1.entry s j).value * f.value else 0)
      (addBoth p t s f) := by
  unfold addBoth
  refine (addMultiple_spec hp.left hp.left_defined ht hs hf).bind ?_
  rintro a ⟨ha, had, hae⟩
  refine (addMultiple_spec hp.right hp.right_defined ht hs hf).bind ?_
  rintro b ⟨hb, hbd, hbe⟩
  refine Outcome.pure ⟨⟨ha.simplify, hb.simplify, had.simplify, hbd.simplify⟩,
    had.lowest_simplify, hbd.lowest_simplify, ⟨?_, ?_⟩, fun i j => by simp [hae]⟩
  · rw [val_simplify]
    exact val_eq_transvection hae
  · rw [val_simplify]
    exact val_eq_transvection hbe

/-- Multiplying row `i` of both matrices of a tableau by a nonzero `f`: a diagonal scaling of
both, with every entry then in lowest terms, or an overflow. -/
theorem scaleBoth_spec (hp : Tableau m n q p) {i : ℕ} (hi : i < m) {f : Frac} (hf : 0 < f.den)
    (hf0 : f.value ≠ 0) :
    Outcome Error.IsOverflow (fun p' => Tableau m n q p' ∧ p'.1.Lowest ∧ p'.2.Lowest ∧
        Transformed m n q (Matrix.diagonal (Function.update 1 ⟨i, hi⟩ f.value)) p p' ∧
        ∀ i' j, (p'.1.entry i' j).value =
          if i' = i then (p.1.entry i' j).value * f.value else (p.1.entry i' j).value)
      (scaleBoth p i f) := by
  unfold scaleBoth
  refine (scaleRow_spec hp.left hp.left_defined hi hf hf0).bind ?_
  rintro a ⟨ha, had, hae⟩
  refine (scaleRow_spec hp.right hp.right_defined hi hf hf0).bind ?_
  rintro b ⟨hb, hbd, hbe⟩
  refine Outcome.pure ⟨⟨ha.simplify, hb.simplify, had.simplify, hbd.simplify⟩,
    had.lowest_simplify, hbd.lowest_simplify, ⟨?_, ?_⟩, fun i' j => by simp [hae]⟩
  · rw [val_simplify]
    exact val_eq_diagonal hae
  · rw [val_simplify]
    exact val_eq_diagonal hbe

end Mat

end Frac64
