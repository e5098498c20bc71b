import Frac64.Proofs.Columns

/-!
# Row operations at a caller's positions

A caller edits a matrix in place with three row operations: `Mat.swapRows`,
`Mat.multiplyRow` and `Mat.addRows`. Positions count from the end when negative
(`Mat.position`), and an `m`-row matrix accepts every signed word from `-m` to `m - 1`
(`Mat.ValidPosition`).

Exchanging two rows cannot fail. Multiplying a row, or adding a multiple of a row to
another, computes the new entries of the target row from the old entries. It goes column
after column from the left, and when a column overflows it stops there. The columns before
it keep their new entries, and the rest of the matrix stays as it was (`Mat.RowEdit`). A
zero factor is refused before anything is touched. Adding a zero multiple changes nothing
unless an undefined value is involved: a zero times an undefined entry, like an undefined
zero, is `0/0`, and it turns the target entry into `0/0` as well.

## Main definitions

* `Mat.ValidPosition`, `Mat.position` — the positions an axis accepts, and the natural
  position each one names.
* `Mat.RowEdit` — an edit of one row, column by column from the left, up to the column
  where it stops.

## Main results

* `Mat.updateRow_stops`, `Mat.Sized.editRow_spec` — a row update, up to where it stops.
* `Mat.swapRows_spec`, `Mat.addRows_spec`, `Mat.multiplyRow_spec` — the three operations.
* `Mat.row_operations_in_place` — the three operations change what they should, and
  nothing else.
* `Mat.addRows_zero_multiple` — exactly what adding a zero multiple of a row changes; nothing,
  when neither the zero nor the source row is undefined.
-/

namespace Frac64

namespace Frac

/-! ### Failures and zeros of the arithmetic -/

/-- A product fails only by overflowing. -/
theorem mul_outcome (a b : Frac) : Outcome Error.IsOverflow (fun _ => True) (a.mul b) := by
  unfold mul
  refine (checked_spec _).bind fun _ _ => (checked_spec _).bind fun _ _ => ?_
  exact (make_spec _ _).mono (fun _ h => h) fun _ _ => trivial

variable {x y : Frac}

/-- The constructor keeps the undefined zero `0/0`. -/
theorem make_zero_zero : make 0 0 = .ok ⟨0, 0⟩ := rfl

/-- Anything stored times the undefined zero `0/0` is `0/0`. -/
theorem mul_undefined_zero (y : Frac) : y.mul ⟨0, 0⟩ = .ok ⟨0, 0⟩ := by
  simp only [mul, Int.mul_zero, checked_of_inWordRange inWordRange_zero, bind, Except.bind]
  exact make_zero_zero

/-- Anything stored plus the undefined zero `0/0` is `0/0`. -/
theorem add_undefined_zero (x : Frac) : x.add ⟨0, 0⟩ = .ok ⟨0, 0⟩ := by
  simp only [add, Int.mul_zero, Int.add_zero, checked_of_inWordRange inWordRange_zero, bind,
    Except.bind]
  exact make_zero_zero

/-- An undefined fraction times `0/1` is `0/0`. -/
theorem mul_zero_of_den_eq_zero (hd : y.den = 0) : y.mul zero = .ok ⟨0, 0⟩ := by
  simp only [mul, zero, hd, Int.mul_zero, Int.zero_mul, checked_of_inWordRange inWordRange_zero,
    bind, Except.bind]
  exact make_zero_zero

/-- A stored zero is `0/1` or the undefined `0/0`. -/
theorem Stored.eq_of_isZero {f : Frac} (hf : f.Stored) (hz : f.isZero = true) :
    f = zero ∨ f = ⟨0, 0⟩ := by
  have hn := (isZero_iff_num_eq_zero f).1 hz
  obtain ⟨-, -, hpos, hcanon⟩ := hf
  rcases eq_or_ne f.den 0 with hd | hd
  · exact .inr (by cases f; simp_all)
  · exact .inl (by cases f; simp_all [zero])

/-- Adding a zero multiple of `y` to `x`: `x` itself, unless the zero or `y` is undefined,
and `0/0` then. -/
theorem add_zero_multiple {f : Frac} (hx : x.Stored) (hy : y.Stored) (hf : f.Stored)
    (hz : f.isZero = true) :
    (do x.add (← y.mul f)) = .ok (if f.den = 0 ∨ y.den = 0 then ⟨0, 0⟩ else x) := by
  rcases hf.eq_of_isZero hz with rfl | rfl
  · rcases eq_or_ne y.den 0 with hd | hd
    · rw [mul_zero_of_den_eq_zero hd]
      simp [add_undefined_zero, hd, bind, Except.bind]
    · have hpos : 0 < y.den := lt_of_le_of_ne hy.den_nonneg (Ne.symm hd)
      rw [mul_zero_of_pos hy hpos]
      simp only [bind, Except.bind, add_zero_of_stored hx]
      simp [hd, zero]
  · rw [mul_undefined_zero]
    simp [add_undefined_zero, bind, Except.bind]

end Frac

namespace Mat

/-! ### Positions -/

/-- A caller's position that an axis of `size` accepts: a signed word from `-size` to
`size - 1`. -/
def ValidPosition (i : Int) (size : ℕ) : Prop := InWordRange i ∧ -(size : Int) ≤ i ∧ i < size

/-- The natural position a caller's position names: counted from the end when negative. -/
def position (i : Int) (size : ℕ) : ℕ := (i % size).toNat

instance (i : Int) (size : ℕ) : Decidable (ValidPosition i size) :=
  inferInstanceAs (Decidable (_ ∧ _))

namespace ValidPosition

variable {i : Int} {size : ℕ}

theorem position_lt (h : ValidPosition i size) : position i size < size := by
  have hpos : (0 : Int) < size := by have := h.2; omega
  have hlt := Int.emod_lt_of_pos i hpos
  have hnn := Int.emod_nonneg i hpos.ne'
  unfold position
  omega

theorem indexValue_eq (h : ValidPosition i size) : indexValue i = .ok i := by
  simp [indexValue, h.1]

theorem wrapIndex_eq (h : ValidPosition i size) (axis : ℕ) :
    wrapIndex i size axis = .ok (position i size) := by
  obtain ⟨-, hlo, hhi⟩ := h
  rw [wrapIndex, if_pos ⟨hlo, hhi⟩, position]
  congr 1
  split_ifs with hneg
  · -- a negative position is its sum with the size, which lies within the axis
    rw [← Int.add_emod_right, Int.emod_eq_of_lt (by omega) (by omega)]
  · rw [Int.emod_eq_of_lt (by omega) hhi]

end ValidPosition

/-! ### Rows -/

@[simp] theorem setRow_row (a : Mat) (i : ℕ) : a.setRow i (a.row i) = a := by
  cases a with
  | mk rows cols cells =>
    simp only [setRow, row, Mat.mk.injEq, true_and]
    by_cases hi : i < cells.length
    · rw [List.getD_eq_getElem _ _ hi, List.set_getElem_self]
    · exact List.set_eq_of_length_le (by omega)

@[simp] theorem swap_self (a : Mat) (i : ℕ) : a.swap i i = a := by
  simp [swap]

/-! ### Editing one row -/

/-- `e` edits row `t` of `a` column by column from the left, computing the new entry of column
`j` by `g j`, and stops at column `stop`: the columns before it hold their new entries, every
other entry is kept, and the edit either ran to the end of the row or stopped with the error
of column `stop`. -/
structure RowEdit (a : Mat) (t : ℕ) (g : ℕ → Except Error Frac) (e : Edit) (stop : ℕ) :
    Prop where
  stop_le : stop ≤ a.cols
  updated : ∀ j < stop, g j = .ok (e.result.entry t j)
  kept : ∀ i j, i ≠ t ∨ stop ≤ j → e.result.entry i j = a.entry i j
  outcome : e.failure = none ∧ stop = a.cols ∨
    ∃ err, e.failure = some err ∧ stop < a.cols ∧ g stop = .error err

namespace RowEdit

variable {a : Mat} {t stop : ℕ} {g : ℕ → Except Error Frac} {e : Edit}

/-- What every column's computation gives, each new entry has, and every error it fails with,
the edit's error has. -/
theorem of_outcomes (h : RowEdit a t g e stop) {bad : Error → Prop} {good : ℕ → Frac → Prop}
    (hg : ∀ j, Outcome bad (good j) (g j)) :
    (∀ j < stop, good j (e.result.entry t j)) ∧ ∀ err, e.failure = some err → bad err := by
  refine ⟨fun j hj => (hg j).of_ok (h.updated j hj), fun err herr => ?_⟩
  rcases h.outcome with ⟨hnone, -⟩ | ⟨err', hsome, -, hfail⟩
  · rw [hnone] at herr
    cases herr
  · rw [hsome, Option.some.injEq] at herr
    subst herr
    exact (hg stop).of_error hfail

/-- An edit whose every column succeeds runs to the end of the row, and row `t` then holds the
value of each column. -/
theorem runs_through (h : RowEdit a t g e stop) {y : ℕ → Frac} (hg : ∀ j, g j = .ok (y j)) :
    e.failure = none ∧
      ∀ i j, e.result.entry i j = if i = t ∧ j < a.cols then y j else a.entry i j := by
  obtain ⟨hnone, rfl⟩ : e.failure = none ∧ stop = a.cols := by
    rcases h.outcome with hdone | ⟨err, -, -, hfail⟩
    · exact hdone
    · rw [hg stop] at hfail
      cases hfail
  refine ⟨hnone, fun i j => ?_⟩
  split_ifs with hij
  · obtain ⟨rfl, hj⟩ := hij
    exact Except.ok.inj ((h.updated j hj).symm.trans (hg j))
  · exact h.kept i j (by omega)

end RowEdit

/-- A row update replaces the entries of `ts` up to the first column where `g` fails and keeps
the rest; it stops with that column's error, or runs to the end of `ts`. -/
theorem updateRow_stops (g : Frac → Frac → Except Error Frac) :
    ∀ (ts ss : List Frac), ts.length ≤ ss.length →
      ∃ c ≤ ts.length, (updateRow g ts ss).1.length = ts.length ∧
        (∀ j < c, g (ts.getD j Frac.zero) (ss.getD j Frac.zero) =
          .ok ((updateRow g ts ss).1.getD j Frac.zero)) ∧
        (∀ j, c ≤ j → (updateRow g ts ss).1.getD j Frac.zero = ts.getD j Frac.zero) ∧
        ((updateRow g ts ss).2 = none ∧ c = ts.length ∨
          ∃ err, (updateRow g ts ss).2 = some err ∧ c < ts.length ∧
            g (ts.getD c Frac.zero) (ss.getD c Frac.zero) = .error err)
  | [], ss, _ => ⟨0, le_rfl, by simp [updateRow]⟩
  | t :: ts, [], h => by simp at h
  | t :: ts, s :: ss, h => by
    cases hg : g t s with
    | error err =>
      -- the first column fails, and nothing is replaced
      refine ⟨0, by simp, ?_, fun j hj => absurd hj (Nat.not_lt_zero j), fun j _ => ?_, ?_⟩ <;>
        simp [updateRow, hg]
    | ok t' =>
      obtain ⟨c, hc, hl, hdone, hkept, hout⟩ := updateRow_stops g ts ss (by simpa using h)
      refine ⟨c + 1, by simpa using hc, by simp [updateRow, hg, hl], fun j hj => ?_,
        fun j hj => ?_, by simpa [updateRow, hg] using hout⟩
      · cases j with
        | zero => simp [updateRow, hg]
        | succ j => simpa [updateRow, hg] using hdone j (by omega)
      · cases j with
        | zero => omega
        | succ j => simpa [updateRow, hg] using hkept j (by omega)

/-- Editing row `t` from row `s`, entry by entry, is an edit of row `t` that stops where the
computation of a column first fails. -/
theorem Sized.editRow_spec {a : Mat} {m n : ℕ} (ha : a.Sized m n)
    (g : Frac → Frac → Except Error Frac) {t s : ℕ} (ht : t < m) (hs : s < m) :
    (a.editRow g t s).result.Sized m n ∧
      ∃ c, RowEdit a t (fun j => g (a.entry t j) (a.entry s j)) (a.editRow g t s) c := by
  have hlt := ha.length_row t ht
  have hls := ha.length_row s hs
  have ht' : t < a.cells.length := by rw [ha.length_cells]; exact ht
  obtain ⟨c, hc, hl, hdone, hkept, hout⟩ := updateRow_stops g (a.row t) (a.row s) (by omega)
  refine ⟨ha.setRow (hl.trans hlt), c, ⟨by rw [ha.cols_eq]; omega, fun j hj => ?_,
    fun i j hij => ?_, by rw [ha.cols_eq, ← hlt]; exact hout⟩⟩
  · rw [editRow, entry_setRow _ _ ht', if_pos rfl]
    exact hdone j hj
  · rw [editRow, entry_setRow _ _ ht']
    split_ifs with hi
    · subst hi
      exact hkept j (hij.resolve_left (not_not.2 rfl))
    · rfl

/-! ### The operations at a caller's positions -/

section Positions

variable {M : Mat} {m n : ℕ}

/-- Exchanging the rows at two accepted positions: every row is read from the row the exchange
sends it to, and exchanging a row with itself changes nothing. -/
theorem swapRows_spec (hM : M.Sized m n) {i j : Int} (hi : ValidPosition i m)
    (hj : ValidPosition j m) :
    ∃ M', M.swapRows i j = .ok M' ∧ M'.Sized m n ∧
      (∀ r c, M'.entry r c = M.entry (Equiv.swap (position i m) (position j m) r) c) ∧
      (position i m = position j m → M' = M) := by
  have hpair : indexPair j i = .ok (j, i) := by simp [indexPair, hj.1, hi.1]
  refine ⟨M.swap (position i m) (position j m), ?_, hM.swap hi.position_lt hj.position_lt,
    entry_swap hM hi.position_lt hj.position_lt, fun h => by rw [h, swap_self]⟩
  simp [swapRows, hpair, hM.rows_eq, hj.wrapIndex_eq, hi.wrapIndex_eq, bind, Except.bind, pure,
    Except.pure]

/-- Without columns an edit of a row changes nothing. -/
theorem editRow_of_cols_eq_zero (hM : M.Sized m 0) (g : Frac → Frac → Except Error Frac)
    {t s : ℕ} (ht : t < m) : M.editRow g t s = ⟨M, none⟩ := by
  have hrow : M.row t = [] := List.eq_nil_of_length_eq_zero (hM.length_row t ht)
  simp only [editRow, hrow, updateRow]
  rw [← hrow, setRow_row]

/-- Adding a multiple of a row at accepted positions is the edit of the target row from the
source row, `x + y * f` in each column. -/
theorem addRows_eq (hM : M.Sized m n) {t s : Int} (ht : ValidPosition t m)
    (hs : ValidPosition s m) {v : Operand} {f : Frac} (hv : v.toFrac = .ok f) :
    M.addRows t s v =
      M.editRow (fun x y => do x.add (← y.mul f)) (position t m) (position s m) := by
  unfold addRows
  rw [hv]
  split_ifs with hcols
  · rw [hM.cols_eq] at hcols
    subst hcols
    exact (editRow_of_cols_eq_zero hM _ ht.position_lt).symm
  · simp [hM.rows_eq, ht.indexValue_eq, ht.wrapIndex_eq, hs.indexValue_eq, hs.wrapIndex_eq,
      addMultiple_eq_editRow, bind, Except.bind]

/-- Multiplying a row at an accepted position by a nonzero value is the edit of that row,
`x * f` in each column. -/
theorem multiplyRow_eq (hM : M.Sized m n) {i : Int} (hi : ValidPosition i m) {v : Operand}
    {f : Frac} (hv : v.toFrac = .ok f) (hf : f.isZero = false) :
    M.multiplyRow i v = M.editRow (fun x _ => x.mul f) (position i m) (position i m) := by
  unfold multiplyRow
  rw [hv]
  simp only [hf, Bool.false_eq_true, if_false]
  split_ifs with hcols
  · rw [hM.cols_eq] at hcols
    subst hcols
    exact (editRow_of_cols_eq_zero hM _ hi.position_lt).symm
  · simp [hM.rows_eq, hi.indexValue_eq, hi.wrapIndex_eq, scaleRow_eq_editRow _ _ hf, bind,
      Except.bind]

/-- A zero value is refused before anything is touched. -/
theorem multiplyRow_of_isZero {i : Int} {v : Operand} {f : Frac} (hv : v.toFrac = .ok f)
    (hf : f.isZero = true) : M.multiplyRow i v = ⟨M, some .zeroRowFactor⟩ := by
  simp [multiplyRow, hv, hf]

/-- **Adding a multiple of a row.** At accepted positions and with a defined value `f`, the
entry of row `t` in each column becomes `x + y * f` of its old entry `x` and the old entry `y`
of row `s`, column after column, until one overflows. Nothing else changes, and no entry
becomes undefined. -/
theorem addRows_spec (hM : M.Sized m n) (hd : M.Defined) {t s : Int} (ht : ValidPosition t m)
    (hs : ValidPosition s m) {v : Operand} {f : Frac} (hv : v.toFrac = .ok f) (hf : 0 < f.den) :
    (M.addRows t s v).result.Sized m n ∧ (M.addRows t s v).result.Defined ∧
      (∀ err, (M.addRows t s v).failure = some err → err.IsOverflow) ∧
      ∃ c, RowEdit M (position t m)
          (fun j => do (M.entry (position t m) j).add (← (M.entry (position s m) j).mul f))
          (M.addRows t s v) c ∧
        ∀ j < c, ((M.addRows t s v).result.entry (position t m) j).value =
          (M.entry (position t m) j).value + (M.entry (position s m) j).value * f.value := by
  rw [addRows_eq hM ht hs hv]
  obtain ⟨hsz, c, hedit⟩ := hM.editRow_spec (fun x y => do x.add (← y.mul f))
    ht.position_lt hs.position_lt
  -- every column's sum is exact and defined, or overflows
  have hcol : ∀ j, Outcome Error.IsOverflow (fun x => x.value = (M.entry (position t m) j).value +
      (M.entry (position s m) j).value * f.value ∧ 0 < x.den)
      (do (M.entry (position t m) j).add (← (M.entry (position s m) j).mul f)) := fun j =>
    (Frac.mul_spec (hd.den_pos _ j) hf).bind fun y ⟨hy, hyd⟩ =>
      (Frac.add_spec (hd.den_pos _ j) hyd).mono (fun _ h => h) fun x ⟨hx, hxd⟩ =>
        ⟨by rw [hx, hy], hxd⟩
  obtain ⟨hnew, hbad⟩ := hedit.of_outcomes hcol
  refine ⟨hsz, hsz.defined_of_den_pos fun i j _ _ => ?_, hbad, c, hedit,
    fun j hj => (hnew j hj).1⟩
  by_cases hij : i = position t m ∧ j < c
  · obtain ⟨rfl, hj⟩ := hij
    exact (hnew j hj).2
  · rw [hedit.kept i j (by omega)]
    exact hd.den_pos i j

/-- **Multiplying a row.** A zero value, `0/0` included, is refused with the one error of an
invalid operation, before anything is touched. Any other value multiplies the entries of the
row at an accepted position, column after column, until one overflows; nothing else changes,
and a defined value multiplies a defined matrix exactly. -/
theorem multiplyRow_spec (hM : M.Sized m n) {i : Int} (hi : ValidPosition i m) {v : Operand}
    {f : Frac} (hv : v.toFrac = .ok f) :
    ((∃ err, (M.multiplyRow i v).failure = some err ∧ err.kind = .invalidOperation) ↔
        f.isZero = true) ∧
      (f.isZero = true → M.multiplyRow i v = ⟨M, some .zeroRowFactor⟩) ∧
      (f.isZero = false → (M.multiplyRow i v).result.Sized m n ∧
        (∀ err, (M.multiplyRow i v).failure = some err → err.IsOverflow) ∧
        ∃ c, RowEdit M (position i m) (fun j => (M.entry (position i m) j).mul f)
            (M.multiplyRow i v) c ∧
          (M.Defined → 0 < f.den → (M.multiplyRow i v).result.Defined ∧
            ∀ j < c, ((M.multiplyRow i v).result.entry (position i m) j).value =
              (M.entry (position i m) j).value * f.value)) := by
  have hnonzero : f.isZero = false → (M.multiplyRow i v).result.Sized m n ∧
      (∀ err, (M.multiplyRow i v).failure = some err → err.IsOverflow) ∧
      ∃ c, RowEdit M (position i m) (fun j => (M.entry (position i m) j).mul f)
          (M.multiplyRow i v) c ∧
        (M.Defined → 0 < f.den → (M.multiplyRow i v).result.Defined ∧
          ∀ j < c, ((M.multiplyRow i v).result.entry (position i m) j).value =
            (M.entry (position i m) j).value * f.value) := by
    intro hf
    rw [multiplyRow_eq hM hi hv hf]
    obtain ⟨hsz, c, hedit⟩ := hM.editRow_spec (fun x _ => x.mul f) hi.position_lt
      hi.position_lt
    refine ⟨hsz, (hedit.of_outcomes fun j => Frac.mul_outcome _ f).2, c, hedit,
      fun hd hfd => ?_⟩
    -- with defined entries, every column's product is exact and defined
    have hcol : ∀ j, Outcome Error.IsOverflow
        (fun x => x.value = (M.entry (position i m) j).value * f.value ∧ 0 < x.den)
        ((M.entry (position i m) j).mul f) := fun j => Frac.mul_spec (hd.den_pos _ j) hfd
    obtain ⟨hnew, -⟩ := hedit.of_outcomes hcol
    refine ⟨hsz.defined_of_den_pos fun i' j _ _ => ?_, fun j hj => (hnew j hj).1⟩
    by_cases hij : i' = position i m ∧ j < c
    · obtain ⟨rfl, hj⟩ := hij
      exact (hnew j hj).2
    · rw [hedit.kept i' j (by omega)]
      exact hd.den_pos i' j
  refine ⟨⟨fun ⟨err, herr, hkind⟩ => ?_, fun hf => ⟨_, by rw [multiplyRow_of_isZero hv hf], rfl⟩⟩,
    multiplyRow_of_isZero hv, hnonzero⟩
  -- a nonzero value fails only by overflowing, which is no invalid operation
  cases hf : f.isZero with
  | true => rfl
  | false =>
    have := ((hnonzero hf).2.1 err herr).kind_eq
    rw [this] at hkind
    cases hkind

/-- **The row operations change what they should, and nothing else.** In a matrix of defined
entries, at accepted positions and with values that convert:

* exchanging two rows reads every row from the row the exchange sends it to, and exchanging a
  row with itself changes nothing;
* adding `f` times row `s` to row `t`, for a defined `f`, replaces the entry of row `t` in each
  column by `x + y * f` of the old entries, which for `t = s` is `(1 + f)` times the old entry;
  no entry becomes undefined;
* multiplying a row is refused as an invalid operation exactly when the value is zero, `0/0`
  included, and then nothing is touched; any other value multiplies the row, a defined one
  exactly and into defined entries;
* an addition or a multiplication that overflows in some column has replaced exactly the
  entries of the target row before that column (`RowEdit`), and kept every other entry. -/
theorem row_operations_in_place (hM : M.Sized m n) (hd : M.Defined) :
    (∀ i j : Int, ValidPosition i m → ValidPosition j m →
      ∃ M', M.swapRows i j = .ok M' ∧ M'.Sized m n ∧
        (∀ r c, M'.entry r c = M.entry (Equiv.swap (position i m) (position j m) r) c) ∧
        (position i m = position j m → M' = M)) ∧
    (∀ (t s : Int) (v : Operand) (f : Frac), ValidPosition t m → ValidPosition s m →
      v.toFrac = .ok f → 0 < f.den →
      (M.addRows t s v).result.Sized m n ∧ (M.addRows t s v).result.Defined ∧
      (∀ err, (M.addRows t s v).failure = some err → err.IsOverflow) ∧
      ∃ c, RowEdit M (position t m)
          (fun j => do (M.entry (position t m) j).add (← (M.entry (position s m) j).mul f))
          (M.addRows t s v) c ∧
        (∀ j < c, ((M.addRows t s v).result.entry (position t m) j).value =
          (M.entry (position t m) j).value + (M.entry (position s m) j).value * f.value) ∧
        (position t m = position s m → ∀ j < c,
          ((M.addRows t s v).result.entry (position t m) j).value =
            (1 + f.value) * (M.entry (position t m) j).value)) ∧
    (∀ (i : Int) (v : Operand) (f : Frac), ValidPosition i m → v.toFrac = .ok f →
      ((∃ err, (M.multiplyRow i v).failure = some err ∧ err.kind = .invalidOperation) ↔
          f.isZero = true) ∧
        (f.isZero = true → M.multiplyRow i v = ⟨M, some .zeroRowFactor⟩) ∧
        (f.isZero = false → (M.multiplyRow i v).result.Sized m n ∧
          (∀ err, (M.multiplyRow i v).failure = some err → err.IsOverflow) ∧
          ∃ c, RowEdit M (position i m) (fun j => (M.entry (position i m) j).mul f)
              (M.multiplyRow i v) c ∧
            (0 < f.den → (M.multiplyRow i v).result.Defined ∧
              ∀ j < c, ((M.multiplyRow i v).result.entry (position i m) j).value =
                (M.entry (position i m) j).value * f.value))) := by
  refine ⟨fun i j hi hj => swapRows_spec hM hi hj, fun t s v f ht hs hv hf => ?_,
    fun i v f hi hv => ?_⟩
  · obtain ⟨hsz, hdef, hbad, c, hedit, hval⟩ := addRows_spec hM hd ht hs hv hf
    refine ⟨hsz, hdef, hbad, c, hedit, hval, fun hts j hj => ?_⟩
    -- the source row is read before it is changed, so row `t` gains `f` times itself
    rw [hval j hj, ← hts]
    ring
  · obtain ⟨hiff, hzero, hnonzero⟩ := multiplyRow_spec hM hi hv
    exact ⟨hiff, hzero, fun hf => (hnonzero hf).imp_right fun h => h.imp_right fun h' =>
      h'.imp fun _ h'' => ⟨h''.1, h''.2 hd⟩⟩

/-- The matrix `[[1, 2], [3, 4]]`: its first and last rows exchanged, and its last row
multiplied by `0/0`, which is refused. -/
theorem row_operations_in_place_two_by_two :
    (⟨2, 2, [[⟨1, 1⟩, ⟨2, 1⟩], [⟨3, 1⟩, ⟨4, 1⟩]]⟩ : Mat).Sized 2 2 ∧
    (⟨2, 2, [[⟨1, 1⟩, ⟨2, 1⟩], [⟨3, 1⟩, ⟨4, 1⟩]]⟩ : Mat).Defined ∧
    (∃ M', (⟨2, 2, [[⟨1, 1⟩, ⟨2, 1⟩], [⟨3, 1⟩, ⟨4, 1⟩]]⟩ : Mat).swapRows 0 (-1) = .ok M' ∧
      M'.Sized 2 2 ∧ ∀ r c, M'.entry r c =
        (⟨2, 2, [[⟨1, 1⟩, ⟨2, 1⟩], [⟨3, 1⟩, ⟨4, 1⟩]]⟩ : Mat).entry
          (Equiv.swap (position 0 2) (position (-1) 2) r) c) ∧
    (⟨2, 2, [[⟨1, 1⟩, ⟨2, 1⟩], [⟨3, 1⟩, ⟨4, 1⟩]]⟩ : Mat).multiplyRow (-1) (.frac ⟨0, 0⟩) =
      ⟨⟨2, 2, [[⟨1, 1⟩, ⟨2, 1⟩], [⟨3, 1⟩, ⟨4, 1⟩]]⟩, some .zeroRowFactor⟩ :=
  have ha : (⟨2, 2, [[⟨1, 1⟩, ⟨2, 1⟩], [⟨3, 1⟩, ⟨4, 1⟩]]⟩ : Mat).Sized 2 2 := by decide
  have hd : (⟨2, 2, [[⟨1, 1⟩, ⟨2, 1⟩], [⟨3, 1⟩, ⟨4, 1⟩]]⟩ : Mat).Defined := by decide
  have h := row_operations_in_place ha hd
  ⟨ha, hd, (h.1 0 (-1) (by decide) (by decide)).imp fun _ h' => ⟨h'.1, h'.2.1, h'.2.2.1⟩,
    (h.2.2 (-1) (.frac ⟨0, 0⟩) ⟨0, 0⟩ (by decide) rfl).2.1 (by decide)⟩

/-! ### Adding a zero multiple -/

/-- **Adding a zero multiple of a row.** In a matrix of stored entries, at accepted positions,
adding a zero multiple of row `s` to row `t` fails at nothing and changes no row but `t`. An
entry of row `t` stays as it was, stored pair and all, unless the zero or the entry of row `s`
in its column is undefined; then it becomes `0/0`. So adding a zero does nothing exactly when
neither the zero nor row `s` is undefined: `0/1` changes nothing when row `s` is defined, and
`0/0` turns all of row `t` into `0/0`. -/
theorem addRows_zero_multiple (hM : M.Sized m n) (hst : M.Stored) {t s : Int}
    (ht : ValidPosition t m) (hs : ValidPosition s m) {v : Operand} {f : Frac}
    (hv : v.toFrac = .ok f) (hf : f.Stored) (hz : f.isZero = true) :
    (M.addRows t s v).failure = none ∧ (M.addRows t s v).result.Sized m n ∧
      (∀ i j, (M.addRows t s v).result.entry i j =
        if i = position t m ∧ j < n ∧ (f.den = 0 ∨ (M.entry (position s m) j).den = 0)
        then ⟨0, 0⟩ else M.entry i j) ∧
      (0 < f.den → (∀ j < n, 0 < (M.entry (position s m) j).den) →
        (M.addRows t s v).result = M) := by
  rw [addRows_eq hM ht hs hv]
  obtain ⟨hsz, c, hedit⟩ := hM.editRow_spec (fun x y => do x.add (← y.mul f))
    ht.position_lt hs.position_lt
  -- every column's sum is given, so the edit runs through the whole row
  obtain ⟨hnone, hrow⟩ := hedit.runs_through fun j =>
    Frac.add_zero_multiple (hst.entry _ j) (hst.entry _ j) hf hz
  rw [hM.cols_eq] at hrow
  have hentry : ∀ i j, (M.editRow (fun x y => do x.add (← y.mul f)) (position t m)
      (position s m)).result.entry i j =
      if i = position t m ∧ j < n ∧ (f.den = 0 ∨ (M.entry (position s m) j).den = 0)
      then ⟨0, 0⟩ else M.entry i j := by
    intro i j
    rw [hrow]
    by_cases hij : i = position t m ∧ j < n
    · obtain ⟨rfl, hj⟩ := hij
      simp [hj]
    · rw [if_neg hij, if_neg fun h => hij ⟨h.1, h.2.1⟩]
  refine ⟨hnone, hsz, hentry, fun hfd hsd => hsz.ext hM fun i j _ hj => ?_⟩
  -- with both factors defined no entry meets the condition for `0/0`
  rw [hentry, if_neg]
  rintro ⟨-, -, h0 | h0⟩
  · exact hfd.ne' h0
  · exact (hsd j hj).ne' h0

/-- Adding the zero `0` times the row `[1/0]` to the row `[3/4]` turns `3/4` into `0/0`. -/
theorem addRows_zero_multiple_undefined_source :
    (⟨2, 1, [[⟨3, 4⟩], [⟨1, 0⟩]]⟩ : Mat).Sized 2 1 ∧ (⟨2, 1, [[⟨3, 4⟩], [⟨1, 0⟩]]⟩ : Mat).Stored ∧
    ValidPosition 0 2 ∧ ValidPosition 1 2 ∧ (Operand.int 0).toFrac = .ok Frac.zero ∧
    Frac.zero.Stored ∧ Frac.zero.isZero = true ∧
    ((⟨2, 1, [[⟨3, 4⟩], [⟨1, 0⟩]]⟩ : Mat).addRows 0 1 (.int 0)).failure = none ∧
    ((⟨2, 1, [[⟨3, 4⟩], [⟨1, 0⟩]]⟩ : Mat).addRows 0 1 (.int 0)).result.Sized 2 1 ∧
    (∀ i j, ((⟨2, 1, [[⟨3, 4⟩], [⟨1, 0⟩]]⟩ : Mat).addRows 0 1 (.int 0)).result.entry i j =
      if i = position 0 2 ∧ j < 1 ∧
          (Frac.zero.den = 0 ∨ (Mat.entry ⟨2, 1, [[⟨3, 4⟩], [⟨1, 0⟩]]⟩ (position 1 2) j).den = 0)
      then ⟨0, 0⟩ else (⟨2, 1, [[⟨3, 4⟩], [⟨1, 0⟩]]⟩ : Mat).entry i j) ∧
    (0 < Frac.zero.den →
      (∀ j < 1, 0 < (Mat.entry ⟨2, 1, [[⟨3, 4⟩], [⟨1, 0⟩]]⟩ (position 1 2) j).den) →
      ((⟨2, 1, [[⟨3, 4⟩], [⟨1, 0⟩]]⟩ : Mat).addRows 0 1 (.int 0)).result =
        ⟨2, 1, [[⟨3, 4⟩], [⟨1, 0⟩]]⟩) :=
  have ha : (⟨2, 1, [[⟨3, 4⟩], [⟨1, 0⟩]]⟩ : Mat).Sized 2 1 := by decide
  have hst : (⟨2, 1, [[⟨3, 4⟩], [⟨1, 0⟩]]⟩ : Mat).Stored := by decide
  have ht : ValidPosition 0 2 := by decide
  have hs : ValidPosition 1 2 := by decide
  have hv : (Operand.int 0).toFrac = .ok Frac.zero := rfl
  have hf : Frac.zero.Stored := by decide
  have hz : Frac.zero.isZero = true := by decide
  ⟨ha, hst, ht, hs, hv, hf, hz, addRows_zero_multiple ha hst ht hs hv hf hz⟩

/-- Adding `0/0` times a row changes the row, although `0/0` counts as zero: `[[1]]` with
`0/0` times its row added to itself holds `0/0`, which is not `1`. -/
theorem addRows_undefined_zero_changes_row :
    Frac.isZero ⟨0, 0⟩ = true ∧
      (((⟨1, 1, [[Frac.one]]⟩ : Mat).addRows 0 0 (.frac ⟨0, 0⟩)).result.entry 0 0).same
        ((⟨1, 1, [[Frac.one]]⟩ : Mat).entry 0 0) = false := by
  decide

end Positions

end Mat

end Frac64
