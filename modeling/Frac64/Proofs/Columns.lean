import Frac64.Proofs.Forward
import Frac64.Proofs.Product

/-!
# Elimination acts on the companion column by column

An elimination reads every factor off its left matrix and applies each row operation to
the companion entry by entry, one column at a time. So cutting the companion down to some
of its columns before an elimination gives the same left matrix, and those columns of the
companion that the whole elimination gives. Three consequences follow:

* eliminating against two companions side by side is eliminating against each of them, and
  the companion comes out as the two results side by side;
* the inverse, read off `[A | I]`, is column by column the solution of `A x = e_j`;
* the left matrix does not depend on the companion: it is the one that a companion with no
  columns gives.

Each step of an elimination is shown to commute with cutting down the companion
(`Mat.Columnwise`); `bind` and `foldlM` carry the property through the runs of steps.

## Main definitions

* `Mat.selectCols`, `Mat.appendCols`, `Mat.noCols` — some columns of a matrix, two matrices
  side by side, and the matrix without columns.
* `Mat.Columnwise` — a step on tableaux that commutes with cutting the companion down.

## Main results

* `Mat.echelon_selectCols`, `Mat.reducedEchelon_selectCols` — both forms commute with
  cutting the companion down.
* `Mat.split_appendCols`, `Mat.left_eq_of_selectCols` — what follows for any run against a
  companion that does.
* `Mat.elimination_acts_columnwise` — the three consequences.
-/

namespace Frac64

namespace Mat

/-! ### Columns of a matrix -/

/-- The entries of a row in the columns `js`, in that order. -/
def pickCols (js : List ℕ) (r : List Frac) : List Frac := js.map fun j => r.getD j Frac.zero

/-- The columns `js` of a matrix, in that order. -/
def selectCols (b : Mat) (js : List ℕ) : Mat := ⟨b.rows, js.length, b.cells.map (pickCols js)⟩

/-- Two matrices side by side: the columns of `b₁`, then those of `b₂`. -/
def appendCols (b₁ b₂ : Mat) : Mat :=
  ⟨b₁.rows, b₁.cols + b₂.cols, List.zipWith (· ++ ·) b₁.cells b₂.cells⟩

/-- The matrix of `m` rows and no columns. -/
def noCols (m : ℕ) : Mat := ⟨m, 0, List.replicate m []⟩

theorem pickCols_append (js ks : List ℕ) (r : List Frac) :
    pickCols (js ++ ks) r = pickCols js r ++ pickCols ks r := List.map_append

theorem pickCols_range {r : List Frac} {n : ℕ} (h : r.length = n) :
    pickCols (List.range n) r = r := by
  apply List.ext_getElem (by simp [pickCols, h])
  intro j _ h₂
  simp only [pickCols, List.getElem_map, List.getElem_range]
  exact List.getD_eq_getElem _ _ h₂

theorem pickCols_range_append {r₁ r₂ : List Frac} {p : ℕ} (h : r₁.length = p) :
    pickCols (List.range p) (r₁ ++ r₂) = r₁ := by
  calc pickCols (List.range p) (r₁ ++ r₂) = pickCols (List.range p) r₁ := by
        apply List.map_congr_left
        intro j hj
        rw [List.getD_append _ _ _ _ (by rw [h]; exact List.mem_range.1 hj)]
    _ = r₁ := pickCols_range h

theorem pickCols_range'_append {r₁ r₂ : List Frac} {p q : ℕ} (h₁ : r₁.length = p)
    (h₂ : r₂.length = q) : pickCols (List.range' p q) (r₁ ++ r₂) = r₂ := by
  calc pickCols (List.range' p q) (r₁ ++ r₂) = pickCols (List.range q) r₂ := by
        simp only [pickCols, List.range'_eq_map_range, List.map_map]
        apply List.map_congr_left
        intro j _
        show (r₁ ++ r₂).getD (p + j) Frac.zero = r₂.getD j Frac.zero
        rw [List.getD_append_right _ _ _ _ (by omega), h₁, Nat.add_sub_cancel_left]
    _ = r₂ := pickCols_range h₂

theorem Sized.lt_length {b : Mat} {m n i : ℕ} (h : b.Sized m n) (hi : i < m) :
    i < b.cells.length := by
  rw [h.length_cells]
  exact hi

theorem Sized.length_getElem {b : Mat} {m n i : ℕ} (h : b.Sized m n) (hi : i < b.cells.length) :
    b.cells[i].length = n := by
  rw [h.wellFormed.2 _ (List.getElem_mem hi), h.cols_eq]

theorem Sized.appendCols {b₁ b₂ : Mat} {m p q : ℕ} (h₁ : b₁.Sized m p) (h₂ : b₂.Sized m q) :
    (b₁.appendCols b₂).Sized m (p + q) := by
  refine ⟨h₁.rows_eq, by simp [Mat.appendCols, h₁.cols_eq, h₂.cols_eq], ?_, ?_⟩
  · simp [Mat.appendCols, h₁.length_cells, h₂.length_cells, h₁.rows_eq]
  · intro r hr
    obtain ⟨i, hi, rfl⟩ := List.getElem_of_mem hr
    have hi₁ : i < b₁.cells.length := by simp [Mat.appendCols] at hi; omega
    have hi₂ : i < b₂.cells.length := by simp [Mat.appendCols] at hi; omega
    simp only [Mat.appendCols, List.getElem_zipWith, List.length_append]
    rw [h₁.length_getElem hi₁, h₂.length_getElem hi₂, h₁.cols_eq, h₂.cols_eq]

theorem selectCols_appendCols_left {b₁ b₂ : Mat} {m p q : ℕ} (h₁ : b₁.Sized m p)
    (h₂ : b₂.Sized m q) : (b₁.appendCols b₂).selectCols (List.range p) = b₁ := by
  have hcells : (List.zipWith (· ++ ·) b₁.cells b₂.cells).map (pickCols (List.range p)) =
      b₁.cells := by
    apply List.ext_getElem (by simp [h₁.length_cells, h₂.length_cells])
    intro i hi _
    have hi₁ : i < b₁.cells.length := by simp at hi; omega
    simp only [List.getElem_map, List.getElem_zipWith]
    exact pickCols_range_append (h₁.length_getElem hi₁)
  simp only [selectCols, Mat.appendCols, List.length_range, hcells]
  rw [← h₁.cols_eq]

theorem selectCols_appendCols_right {b₁ b₂ : Mat} {m p q : ℕ} (h₁ : b₁.Sized m p)
    (h₂ : b₂.Sized m q) : (b₁.appendCols b₂).selectCols (List.range' p q) = b₂ := by
  have hcells : (List.zipWith (· ++ ·) b₁.cells b₂.cells).map (pickCols (List.range' p q)) =
      b₂.cells := by
    apply List.ext_getElem (by simp [h₁.length_cells, h₂.length_cells])
    intro i hi _
    have hi₁ : i < b₁.cells.length := by simp at hi; omega
    have hi₂ : i < b₂.cells.length := by simp at hi; omega
    simp only [List.getElem_map, List.getElem_zipWith]
    exact pickCols_range'_append (h₁.length_getElem hi₁) (h₂.length_getElem hi₂)
  simp only [selectCols, Mat.appendCols, List.length_range', hcells]
  rw [h₁.rows_eq, ← h₂.rows_eq, ← h₂.cols_eq]

/-- A matrix of `p + q` columns is its first `p` columns and the `q` after them, side by
side. -/
theorem Sized.appendCols_selectCols {x : Mat} {m p q : ℕ} (h : x.Sized m (p + q)) :
    (x.selectCols (List.range p)).appendCols (x.selectCols (List.range' p q)) = x := by
  have hrow : ∀ r ∈ x.cells,
      pickCols (List.range p) r ++ pickCols (List.range' p q) r = r := by
    intro r hr
    rw [← pickCols_append, List.range'_eq_map_range, ← List.range_add]
    exact pickCols_range (by rw [h.wellFormed.2 r hr, h.cols_eq])
  obtain ⟨rows, cols, cells⟩ := x
  simp only [selectCols, Mat.appendCols, List.length_range, List.length_range', List.zipWith_map,
    List.zipWith_self, Mat.mk.injEq, true_and]
  exact ⟨h.cols_eq.symm, (List.map_congr_left hrow).trans (List.map_id _)⟩

/-- No columns of a well-formed matrix leave its rows, empty. -/
theorem selectCols_nil {b : Mat} (h : b.WellFormed) : b.selectCols [] = noCols b.rows := by
  simp only [selectCols, noCols, List.length_nil, Mat.mk.injEq, true_and]
  rw [show pickCols [] = fun _ => [] from rfl, List.map_const', h.1]

/-! ### Row operations on some columns -/

theorem row_selectCols (b : Mat) (js : List ℕ) {i : ℕ} (hi : i < b.cells.length) :
    (b.selectCols js).row i = pickCols js (b.row i) := by
  simp [row, selectCols, List.getD_eq_getElem?_getD, hi]

theorem selectCols_setRow (b : Mat) (js : List ℕ) (i : ℕ) (r : List Frac) :
    (b.setRow i r).selectCols js = (b.selectCols js).setRow i (pickCols js r) := by
  simp [selectCols, setRow, List.map_set]

theorem Sized.selectCols_swap {b : Mat} {m q : ℕ} (hb : b.Sized m q) (js : List ℕ) {i j : ℕ}
    (hi : i < m) (hj : j < m) : (b.swap i j).selectCols js = (b.selectCols js).swap i j := by
  rw [Mat.swap, Mat.swap, selectCols_setRow, selectCols_setRow,
    row_selectCols b js (hb.lt_length hi), row_selectCols b js (hb.lt_length hj)]

theorem selectCols_simplify (b : Mat) (js : List ℕ) :
    b.simplify.selectCols js = (b.selectCols js).simplify := by
  -- reading an entry past the end of a row gives zero, which is in lowest terms
  have hrow : ∀ r : List Frac,
      pickCols js (r.map Frac.reduce) = (pickCols js r).map Frac.reduce := by
    intro r
    simp only [pickCols, List.map_map]
    apply List.map_congr_left
    intro j _
    rw [Function.comp_apply, ← List.getD_map r Frac.zero Frac.reduce,
      Frac.reduce_zero_num (a := Frac.zero) rfl]
  simp [selectCols, simplify, map, hrow]

/-- A row update that stops at no entry gave each entry by `g`. -/
theorem updateRow_eq_none {g : Frac → Frac → Except Error Frac} {ts ss res : List Frac}
    (hlen : ts.length ≤ ss.length) (h : updateRow g ts ss = (res, none)) :
    res.length = ts.length ∧ ∀ j < ts.length,
      g (ts.getD j Frac.zero) (ss.getD j Frac.zero) = .ok (res.getD j Frac.zero) := by
  obtain ⟨hl, -, hgood⟩ := updateRow_spec g (fun _ => True) ts ss
    (fun j x => g (ts.getD j Frac.zero) (ss.getD j Frac.zero) = .ok x) hlen
    (fun j _ => by cases g (ts.getD j Frac.zero) (ss.getD j Frac.zero) <;> simp [Outcome])
  rw [h] at hl hgood
  exact ⟨hl, hgood rfl⟩

/-- Updating only the entries in the columns `js` gives those columns of the whole update. -/
theorem updateRow_pickCols {g : Frac → Frac → Except Error Frac} {ts ss res : List Frac}
    {js : List ℕ}
    (h : ∀ j ∈ js, g (ts.getD j Frac.zero) (ss.getD j Frac.zero) = .ok (res.getD j Frac.zero)) :
    updateRow g (pickCols js ts) (pickCols js ss) = (pickCols js res, none) := by
  induction js with
  | nil => rfl
  | cons j js ih =>
    have hrest := ih fun k hk => h k (List.mem_cons_of_mem j hk)
    simp only [pickCols, List.map_cons] at hrest ⊢
    simp only [updateRow, h j List.mem_cons_self, hrest]

/-- Row `t` replaced, entry by entry, by `g` of its entry and the entry of row `s` in the same
column: the edit that adding a multiple of a row and scaling a row both make. -/
def editRow (b : Mat) (g : Frac → Frac → Except Error Frac) (t s : ℕ) : Edit :=
  ⟨b.setRow t (updateRow g (b.row t) (b.row s)).1, (updateRow g (b.row t) (b.row s)).2⟩

theorem addMultiple_eq_editRow (b : Mat) (t s : ℕ) (f : Frac) :
    b.addMultiple t s f = b.editRow (fun x y => do x.add (← y.mul f)) t s := rfl

theorem scaleRow_eq_editRow (b : Mat) (i : ℕ) {f : Frac} (hf : f.isZero = false) :
    b.scaleRow i f = b.editRow (fun t _ => t.mul f) i i := by
  simp [scaleRow, hf, editRow]

theorem editRow_rows {b b' : Mat} {g : Frac → Frac → Except Error Frac} {t s : ℕ}
    (h : (b.editRow g t s).toExcept = .ok b') : b'.rows = b.rows := by
  unfold editRow Edit.toExcept at h
  split at h
  · cases h
  · cases h
    rfl

/-- An edit of row `t` from row `s` that stops at no entry is made the same way on any of the
columns. -/
theorem Sized.editRow_selectCols {b b' : Mat} {m q : ℕ} (hb : b.Sized m q) {js : List ℕ}
    (hjs : ∀ j ∈ js, j < q) {g : Frac → Frac → Except Error Frac} {t s : ℕ} (ht : t < m)
    (hs : s < m) (h : (b.editRow g t s).toExcept = .ok b') :
    b'.Sized m q ∧ ((b.selectCols js).editRow g t s).toExcept = .ok (b'.selectCols js) := by
  have hlt := hb.length_row t ht
  have hls := hb.length_row s hs
  cases hr : updateRow g (b.row t) (b.row s) with
  | mk res e =>
    cases e with
    | some e => simp [editRow, Edit.toExcept, hr] at h
    | none =>
      simp only [editRow, Edit.toExcept, hr, Except.ok.injEq] at h
      subst h
      obtain ⟨hl, hf⟩ := updateRow_eq_none (by omega) hr
      have hpick : updateRow g ((b.selectCols js).row t) ((b.selectCols js).row s) =
          (pickCols js res, none) := by
        rw [row_selectCols b js (hb.lt_length ht), row_selectCols b js (hb.lt_length hs)]
        exact updateRow_pickCols fun j hj => hf j (by have := hjs j hj; omega)
      refine ⟨hb.setRow (hl.trans hlt), ?_⟩
      simp [editRow, Edit.toExcept, hpick, selectCols_setRow]

/-! ### Steps that act column by column -/

/-- A tableau whose left matrix has `m` rows and whose companion is well formed, of `m` rows
of `q` entries; nothing is asked of the entries. -/
structure Shaped (m q : ℕ) (p : Mat × Mat) : Prop where
  rows_eq : p.1.rows = m
  companion : p.2.Sized m q

/-- The tableau with its companion cut down to the columns `js`. It is reducible, so that a
decision read off its left matrix is the decision read off the tableau's. -/
abbrev keepCols (js : List ℕ) (p : Mat × Mat) : Mat × Mat := (p.1, p.2.selectCols js)

theorem keepCols_fst (js : List ℕ) (p : Mat × Mat) : (keepCols js p).1 = p.1 := rfl

/-- A step that keeps a tableau shaped and, on any tableau with its companion cut down to the
columns `js`, gives the result cut down the same way. -/
def Columnwise (m q : ℕ) (js : List ℕ) (g : Mat × Mat → Except Error (Mat × Mat)) : Prop :=
  ∀ ⦃p p'⦄, Shaped m q p → g p = .ok p' →
    Shaped m q p' ∧ g (keepCols js p) = .ok (keepCols js p')

namespace Columnwise

variable {m q : ℕ} {js : List ℕ}

theorem of_pure {f : Mat × Mat → Mat × Mat}
    (h : ∀ p, Shaped m q p → Shaped m q (f p) ∧ f (keepCols js p) = keepCols js (f p)) :
    Columnwise m q js fun p => pure (f p) := by
  intro p p' hp hf
  simp only [pure, Except.pure, Except.ok.injEq] at hf ⊢
  subst hf
  exact h p hp

theorem bind {g h : Mat × Mat → Except Error (Mat × Mat)} (hg : Columnwise m q js g)
    (hh : Columnwise m q js h) : Columnwise m q js fun p => g p >>= h := by
  intro p p' hp hgh
  beta_reduce at hgh ⊢
  cases hgp : g p with
  | error e => simp [hgp, Bind.bind, Except.bind] at hgh
  | ok p₁ =>
    rw [hgp] at hgh
    obtain ⟨hs₁, hr₁⟩ := hg hp hgp
    obtain ⟨hs', hr'⟩ := hh hs₁ hgh
    exact ⟨hs', by rw [hr₁]; exact hr'⟩

/-- A run of steps that act column by column acts column by column. -/
theorem foldlM {α : Type} {g : Mat × Mat → α → Except Error (Mat × Mat)} {xs : List α}
    (h : ∀ x ∈ xs, Columnwise m q js fun p => g p x) :
    Columnwise m q js fun p => xs.foldlM g p := by
  induction xs with
  | nil => exact of_pure fun p hp => ⟨hp, rfl⟩
  | cons x xs ih =>
    exact bind (h x List.mem_cons_self) (ih fun y hy => h y (List.mem_cons_of_mem x hy))

/-- A step whose factor is read off the left matrix acts column by column when it does for
every factor: cutting down the companion leaves the left matrix, so the factor, as it is. -/
theorem factor {α : Type} {φ : Mat → Except Error α}
    {g : α → Mat × Mat → Except Error (Mat × Mat)} (hg : ∀ x, Columnwise m q js (g x)) :
    Columnwise m q js fun p => φ p.1 >>= fun x => g x p := by
  intro p p' hp h
  beta_reduce at h ⊢
  cases hφ : φ p.1 with
  | error e => simp [hφ, Bind.bind, Except.bind] at h
  | ok x =>
    rw [hφ] at h
    obtain ⟨hs, hr⟩ := hg x hp h
    exact ⟨hs, hr⟩

end Columnwise

variable {m q : ℕ} {js : List ℕ}

theorem Shaped.swapBoth {p : Mat × Mat} (hp : Shaped m q p) (js : List ℕ) {i j : ℕ} (hi : i < m)
    (hj : j < m) :
    Shaped m q (swapBoth p i j) ∧ swapBoth (keepCols js p) i j = keepCols js (swapBoth p i j) :=
  ⟨⟨hp.rows_eq, hp.companion.swap hi hj⟩,
    by simp [Mat.swapBoth, keepCols, hp.companion.selectCols_swap js hi hj]⟩

/-- One edit of row `t` from row `s`, made to both matrices and followed by lowest terms. -/
theorem editBoth_columnwise (hjs : ∀ j ∈ js, j < q) (g : Frac → Frac → Except Error Frac)
    {t s : ℕ} (ht : t < m) (hs : s < m) :
    Columnwise m q js fun p => (do
      let a ← (p.1.editRow g t s).toExcept
      let b ← (p.2.editRow g t s).toExcept
      pure (a.simplify, b.simplify)) := by
  intro p p' hp h
  cases ha : (p.1.editRow g t s).toExcept with
  | error e => simp [ha, bind, Except.bind] at h
  | ok a =>
    cases hb : (p.2.editRow g t s).toExcept with
    | error e => simp [ha, hb, bind, Except.bind] at h
    | ok b =>
      simp only [ha, hb, bind, Except.bind, pure, Except.pure, Except.ok.injEq] at h
      subst h
      obtain ⟨hsized, hcut⟩ := hp.companion.editRow_selectCols hjs ht hs hb
      refine ⟨⟨(editRow_rows ha).trans hp.rows_eq, hsized.simplify⟩, ?_⟩
      simp [ha, hcut, bind, Except.bind, pure, Except.pure, selectCols_simplify, keepCols]

theorem addBoth_columnwise (hjs : ∀ j ∈ js, j < q) {t s : ℕ} (ht : t < m) (hs : s < m)
    (f : Frac) : Columnwise m q js fun p => addBoth p t s f := by
  intro p p' hp h
  simp only [addBoth, addMultiple_eq_editRow] at h ⊢
  exact editBoth_columnwise hjs _ ht hs hp h

theorem scaleBoth_columnwise (hjs : ∀ j ∈ js, j < q) {i : ℕ} (hi : i < m) (f : Frac) :
    Columnwise m q js fun p => scaleBoth p i f := by
  intro p p' hp h
  cases hf : f.isZero
  · simp only [scaleBoth, scaleRow_eq_editRow _ _ hf] at h ⊢
    exact editBoth_columnwise hjs _ hi hi hp h
  · simp [scaleBoth, scaleRow, hf, Edit.toExcept, bind, Except.bind] at h

/-! ### The steps of an elimination -/

theorem presort_columnwise {k : ℕ} (hk : k ≤ m) :
    Columnwise m q js fun p => pure (presort p k) := by
  simp only [presort, ← List.foldlM_pure]
  refine Columnwise.foldlM fun i hi => Columnwise.of_pure fun p hp => ?_
  have him : i < m := by have := List.mem_range.1 hi; omega
  by_cases hz : (p.1.entry i i).isZero = true
  · simp only [if_pos hz]
    cases hj : pivotRow? p.1 i (i + 1) with
    | none => exact ⟨hp, rfl⟩
    | some j => exact hp.swapBoth js him (hp.rows_eq ▸ (pivotRow?_some hj).2.1)
  · simp only [if_neg hz, and_true]
    exact hp

theorem ensurePivot_columnwise {i : ℕ} (hi : i < m) :
    Columnwise m q js fun p => ensurePivot p i := by
  intro p p' hp h
  beta_reduce at h ⊢
  unfold ensurePivot at h ⊢
  by_cases hz : (p.1.entry i i).isZero = true
  · simp only [if_pos hz] at h ⊢
    cases hj : pivotRow? p.1 i (i + 1) with
    | none => simp [hj] at h
    | some j =>
      simp only [hj, Except.ok.injEq] at h ⊢
      subst h
      exact hp.swapBoth js hi (hp.rows_eq ▸ (pivotRow?_some hj).2.1)
  · simp only [if_neg hz, Except.ok.injEq] at h ⊢
    subst h
    exact ⟨hp, rfl⟩

theorem clearBelow_columnwise (hjs : ∀ j ∈ js, j < q) (i : ℕ) :
    Columnwise m q js fun p => clearBelow p i := by
  intro p p' hp h
  beta_reduce at h ⊢
  -- the rows below the pivot are counted on the left matrix, which cutting down keeps
  unfold clearBelow at h ⊢
  rw [keepCols_fst, hp.rows_eq]
  rw [hp.rows_eq] at h
  refine Columnwise.foldlM (fun r hr => ?_) hp h
  have hr' := List.mem_range'_1.1 hr
  exact Columnwise.factor (φ := fun a => (a.entry r i).div (a.entry i i)) fun x =>
    Columnwise.factor (φ := fun _ => x.mul minusOne) fun f =>
      addBoth_columnwise hjs (by omega) (by omega) f.reduce

theorem forward_columnwise (hjs : ∀ j ∈ js, j < q) {k : ℕ} (hk : k ≤ m) (s : Bool) :
    Columnwise m q js fun p => forward p k s := by
  unfold forward
  refine Columnwise.foldlM fun i hi => ?_
  have him : i < m := by have := List.mem_range.1 hi; omega
  -- only in strict mode is a zero pivot exchanged before the rows below it are cleared
  cases s
  · exact clearBelow_columnwise hjs i
  · exact Columnwise.bind (ensurePivot_columnwise him) (clearBelow_columnwise hjs i)

theorem normalize_columnwise (hjs : ∀ j ∈ js, j < q) {k : ℕ} (hk : k ≤ m) :
    Columnwise m q js fun p => normalize p k := by
  unfold normalize
  refine Columnwise.foldlM fun i hi => ?_
  have him : i < m := by have := List.mem_range.1 hi; omega
  exact Columnwise.factor (φ := fun a => Frac.one.div (a.entry i i)) fun f =>
    scaleBoth_columnwise hjs him f

theorem clearAbove_columnwise (hjs : ∀ j ∈ js, j < q) {i : ℕ} (hi : i < m) :
    Columnwise m q js fun p => clearAbove p i := by
  unfold clearAbove
  refine Columnwise.foldlM fun r hr => ?_
  have hri : r < i := List.mem_range.1 hr
  exact Columnwise.factor (φ := fun a => (a.entry r i).mul minusOne) fun f =>
    addBoth_columnwise hjs (by omega) hi f.reduce

/-- The three steps of `Mat.echelon` on a tableau, with `k` pivots. -/
def eliminated (k : ℕ) (strict : Bool) (p : Mat × Mat) : Except Error (Mat × Mat) := do
  let p ← forward (presort p k) k strict
  normalize p k

/-- The steps that `Mat.reducedEchelon` adds: each pivot column cleared above its pivot, from
the last pivot to the first. -/
def clearedAbove (p : Mat × Mat) : Except Error (Mat × Mat) :=
  (List.range (min p.1.rows p.1.cols)).reverse.foldlM clearAbove p

theorem eliminated_columnwise (hjs : ∀ j ∈ js, j < q) {k : ℕ} (hk : k ≤ m) (s : Bool) :
    Columnwise m q js (eliminated k s) :=
  Columnwise.bind (Columnwise.bind (presort_columnwise hk) (forward_columnwise hjs hk s))
    (normalize_columnwise hjs hk)

theorem clearedAbove_columnwise (hjs : ∀ j ∈ js, j < q) : Columnwise m q js clearedAbove := by
  intro p p' hp h
  -- the pivots are counted on the left matrix, which cutting down keeps
  unfold clearedAbove at h ⊢
  rw [keepCols_fst]
  refine Columnwise.foldlM (fun i hi => clearAbove_columnwise hjs ?_) hp h
  have := List.mem_range.1 (List.mem_reverse.1 hi)
  have := hp.rows_eq
  omega

/-! ### The two forms -/

theorem echelon_eq (a : Mat) (aug : Option Mat) (s : Bool) :
    echelon a aug s = companion a aug >>= fun c =>
      if a.rows ≠ c.rows then .error (.reduceRows a.rows c.rows)
      else (fun p => (p.1, aug.map fun _ => p.2)) <$>
        eliminated (min a.rows a.cols) s (a, c) := by
  unfold echelon eliminated
  cases companion a aug with
  | error e => rfl
  | ok c =>
    rw [show (Except.ok c : Except Error Mat) = pure c from rfl, pure_bind, pure_bind]
    by_cases hr : a.rows ≠ c.rows
    · rw [if_pos hr, if_pos hr]
      rfl
    · rw [if_neg hr, if_neg hr]
      simp only [map_eq_bind_pure_comp, bind_assoc, Function.comp_def]

/-- `Mat.echelon` succeeds exactly when the companion is there with the rows of the matrix
and the three steps succeed on the tableau. -/
theorem echelon_eq_ok {a : Mat} {aug : Option Mat} {s : Bool} {res : Mat × Option Mat} :
    echelon a aug s = .ok res ↔ ∃ c p, companion a aug = .ok c ∧ a.rows = c.rows ∧
      eliminated (min a.rows a.cols) s (a, c) = .ok p ∧ res = (p.1, aug.map fun _ => p.2) := by
  constructor
  · intro h
    rw [echelon_eq] at h
    cases hc : companion a aug with
    | error e => rw [hc] at h; cases h
    | ok c =>
      rw [hc] at h
      change (if a.rows ≠ c.rows then _ else _) = _ at h
      by_cases hr : a.rows ≠ c.rows
      · rw [if_pos hr] at h
        cases h
      · rw [if_neg hr] at h
        cases he : eliminated (min a.rows a.cols) s (a, c) with
        | error e => rw [he] at h; cases h
        | ok p =>
          rw [he] at h
          cases h
          exact ⟨c, p, rfl, not_not.1 hr, he, rfl⟩
  · rintro ⟨c, p, hc, hr, he, rfl⟩
    rw [echelon_eq, hc]
    change (if a.rows ≠ c.rows then _ else _) = _
    rw [if_neg (not_not.2 hr), he]
    rfl

theorem reducedEchelon_eq (a : Mat) (aug : Option Mat) (s : Bool) :
    reducedEchelon a aug s = companion a aug >>= fun c => echelon a (some c) s >>= fun e =>
      (fun p => (p.1.simplify, aug.map fun _ => p.2.simplify)) <$>
        clearedAbove (e.1, e.2.getD c) := by
  unfold reducedEchelon clearedAbove
  cases companion a aug with
  | error e => rfl
  | ok c =>
    rw [show (Except.ok c : Except Error Mat) = pure c from rfl, pure_bind, pure_bind]
    congr 1

/-- `Mat.reducedEchelon` succeeds exactly when `Mat.echelon` does against the companion and
the pivot columns are then cleared above their pivots. -/
theorem reducedEchelon_eq_ok {a : Mat} {aug : Option Mat} {s : Bool} {res : Mat × Option Mat} :
    reducedEchelon a aug s = .ok res ↔ ∃ c r x p, companion a aug = .ok c ∧
      echelon a (some c) s = .ok (r, some x) ∧ clearedAbove (r, x) = .ok p ∧
      res = (p.1.simplify, aug.map fun _ => p.2.simplify) := by
  constructor
  · intro h
    rw [reducedEchelon_eq] at h
    cases hc : companion a aug with
    | error e => rw [hc] at h; cases h
    | ok c =>
      rw [hc] at h
      change (echelon a (some c) s >>= _) = _ at h
      cases he : echelon a (some c) s with
      | error e => rw [he] at h; cases h
      | ok e =>
        -- against a companion, the echelon form always comes with one
        obtain ⟨-, p₀, -, -, -, rfl⟩ := echelon_eq_ok.1 he
        rw [he] at h
        change (_ <$> clearedAbove (p₀.1, p₀.2)) = _ at h
        cases hcl : clearedAbove (p₀.1, p₀.2) with
        | error e => rw [hcl] at h; cases h
        | ok p =>
          rw [hcl] at h
          cases h
          exact ⟨c, p₀.1, p₀.2, p, rfl, he, hcl, rfl⟩
  · rintro ⟨c, r, x, p, hc, he, hcl, rfl⟩
    rw [reducedEchelon_eq, hc]
    change (echelon a (some c) s >>= _) = _
    rw [he]
    change (_ <$> clearedAbove (r, x)) = _
    rw [hcl]
    rfl

/-- Eliminating against some columns of a companion gives the same left matrix, and those
columns of the companion that eliminating against all of them gives. -/
theorem echelon_selectCols {a b r x : Mat} {q : ℕ} {s : Bool} (js : List ℕ)
    (hb : b.Sized a.rows q) (hjs : ∀ j ∈ js, j < q) (h : echelon a (some b) s = .ok (r, some x)) :
    Shaped a.rows q (r, x) ∧
      echelon a (some (b.selectCols js)) s = .ok (r, some (x.selectCols js)) := by
  obtain ⟨c, p, hc, hrows, he, hres⟩ := echelon_eq_ok.1 h
  cases hc
  cases hres
  obtain ⟨hshaped, hcut⟩ := eliminated_columnwise hjs (min_le_left _ _) s ⟨rfl, hb⟩ he
  exact ⟨hshaped, echelon_eq_ok.2 ⟨_, _, rfl, hrows, hcut, rfl⟩⟩

/-- The reduced form against some columns of a companion: the same left matrix, and those
columns of the companion that the reduced form against all of them gives. -/
theorem reducedEchelon_selectCols {a b r x : Mat} {q : ℕ} {s : Bool} (js : List ℕ)
    (hb : b.Sized a.rows q) (hjs : ∀ j ∈ js, j < q)
    (h : reducedEchelon a (some b) s = .ok (r, some x)) :
    Shaped a.rows q (r, x) ∧
      reducedEchelon a (some (b.selectCols js)) s = .ok (r, some (x.selectCols js)) := by
  obtain ⟨c, r₀, x₀, p, hc, he, hcl, hres⟩ := reducedEchelon_eq_ok.1 h
  cases hc
  cases hres
  obtain ⟨hs₀, he'⟩ := echelon_selectCols js hb hjs he
  obtain ⟨hs, hcut⟩ := clearedAbove_columnwise hjs hs₀ hcl
  refine ⟨⟨hs.rows_eq, hs.companion.simplify⟩,
    reducedEchelon_eq_ok.2 ⟨_, _, _, _, rfl, he', hcut, ?_⟩⟩
  simp [selectCols_simplify]

/-- A run against a companion that commutes with cutting the companion down splits over two
companions side by side. -/
theorem split_appendCols {m : ℕ} {F : Mat → Except Error (Mat × Option Mat)}
    (hF : ∀ {b r x : Mat} {n : ℕ} (js : List ℕ), b.Sized m n → (∀ j ∈ js, j < n) →
      F b = .ok (r, some x) →
        Shaped m n (r, x) ∧ F (b.selectCols js) = .ok (r, some (x.selectCols js)))
    {b₁ b₂ r x : Mat} {p q : ℕ} (h₁ : b₁.Sized m p) (h₂ : b₂.Sized m q)
    (h : F (b₁.appendCols b₂) = .ok (r, some x)) :
    ∃ x₁ x₂, F b₁ = .ok (r, some x₁) ∧ F b₂ = .ok (r, some x₂) ∧ x = x₁.appendCols x₂ := by
  have hb := h₁.appendCols h₂
  obtain ⟨hx, hleft⟩ := hF (List.range p) hb (fun j hj => by simp at hj; omega) h
  obtain ⟨-, hright⟩ := hF (List.range' p q) hb
    (fun j hj => by simp [List.mem_range'_1] at hj; omega) h
  rw [selectCols_appendCols_left h₁ h₂] at hleft
  rw [selectCols_appendCols_right h₁ h₂] at hright
  exact ⟨_, _, hleft, hright, hx.companion.appendCols_selectCols.symm⟩

theorem companion_wellFormed {a c : Mat} {aug : Option Mat} (haug : ∀ c ∈ aug, c.WellFormed)
    (h : companion a aug = .ok c) : c.WellFormed := by
  cases aug with
  | some b =>
    cases h
    exact haug _ rfl
  | none => exact wellFormed_of_filled h

/-- The left matrix of a run against companions does not depend on the companion, when the
run commutes with cutting the companion down and against any companion (or none) is the run
against a well-formed one: both left matrices are the one that a companion without columns
gives. -/
theorem left_eq_of_selectCols {m : ℕ} {F : Option Mat → Except Error (Mat × Option Mat)}
    (hF : ∀ {b r x : Mat} {n : ℕ} (js : List ℕ), b.Sized m n → (∀ j ∈ js, j < n) →
      F (some b) = .ok (r, some x) →
        Shaped m n (r, x) ∧ F (some (b.selectCols js)) = .ok (r, some (x.selectCols js)))
    (hc : ∀ {aug : Option Mat} {r : Mat} {o : Option Mat}, (∀ c ∈ aug, c.WellFormed) →
      F aug = .ok (r, o) → ∃ c x, c.Sized m c.cols ∧ F (some c) = .ok (r, some x))
    {aug aug' : Option Mat} {r r' : Mat} {o o' : Option Mat} (haug : ∀ c ∈ aug, c.WellFormed)
    (haug' : ∀ c ∈ aug', c.WellFormed) (h : F aug = .ok (r, o)) (h' : F aug' = .ok (r', o')) :
    r = r' := by
  have hnone : ∀ {aug : Option Mat} {r : Mat} {o : Option Mat}, (∀ c ∈ aug, c.WellFormed) →
      F aug = .ok (r, o) → ∃ e, F (some (noCols m)) = .ok (r, e) := by
    intro aug r o haug h
    obtain ⟨c, x, hcs, hcx⟩ := hc haug h
    obtain ⟨-, hcut⟩ := hF [] hcs (by simp) hcx
    rw [selectCols_nil hcs.wellFormed, hcs.rows_eq] at hcut
    exact ⟨_, hcut⟩
  obtain ⟨e, he⟩ := hnone haug h
  obtain ⟨e', he'⟩ := hnone haug' h'
  have hsame := he.symm.trans he'
  simp only [Except.ok.injEq, Prod.mk.injEq] at hsame
  exact hsame.1

/-- An echelon form against any companion, or none, is the one against the companion. -/
theorem echelon_companion {a r : Mat} {aug o : Option Mat} {s : Bool}
    (haug : ∀ c ∈ aug, c.WellFormed) (h : echelon a aug s = .ok (r, o)) :
    ∃ c x, c.Sized a.rows c.cols ∧ echelon a (some c) s = .ok (r, some x) := by
  obtain ⟨c, p, hc, hrows, he, hres⟩ := echelon_eq_ok.1 h
  cases hres
  exact ⟨c, p.2, ⟨hrows.symm, rfl, companion_wellFormed haug hc⟩,
    echelon_eq_ok.2 ⟨c, p, rfl, hrows, he, rfl⟩⟩

/-- A reduced form against any companion, or none, is the one against the companion. -/
theorem reducedEchelon_companion {a r : Mat} {aug o : Option Mat} {s : Bool}
    (haug : ∀ c ∈ aug, c.WellFormed) (h : reducedEchelon a aug s = .ok (r, o)) :
    ∃ c x, c.Sized a.rows c.cols ∧ reducedEchelon a (some c) s = .ok (r, some x) := by
  obtain ⟨c, r₀, x₀, p, hc, he, hcl, hres⟩ := reducedEchelon_eq_ok.1 h
  -- the rows of the companion were checked by the echelon form
  obtain ⟨c', -, hc', hrows, -⟩ := echelon_eq_ok.1 he
  cases hc'
  cases hres
  exact ⟨c, p.2.simplify, ⟨hrows.symm, rfl, companion_wellFormed haug hc⟩,
    reducedEchelon_eq_ok.2 ⟨c, r₀, x₀, p, rfl, he, hcl, rfl⟩⟩

/-- Each column of the inverse is the solution against that column of the identity. -/
theorem inverse_selectCols {a X I : Mat} {s : Bool} (h : a.inverse s = .ok X)
    (hI : identity a.rows = .ok I) {j : ℕ} (hj : j < a.rows) :
    a.solve (some (I.selectCols [j])) s = .ok (some (X.selectCols [j])) := by
  obtain ⟨I', hI', hIs, -⟩ := identity_spec (by omega : 0 < a.rows)
  rw [hI] at hI'
  cases hI'
  unfold inverse at h
  by_cases hsq : a.rows ≠ a.cols
  · rw [if_pos hsq] at h
    cases h
  rw [if_neg hsq, hI] at h
  cases hr : a.reducedEchelon (some I) s with
  | error e => simp [hr, bind, Except.bind] at h
  | ok res =>
    obtain ⟨-, -, -, p, -, -, -, rfl⟩ := reducedEchelon_eq_ok.1 hr
    simp only [hr, bind, Except.bind, pure, Except.pure, Option.map_some, Option.getD_some,
      Except.ok.injEq] at h
    subst h
    obtain ⟨-, hcut⟩ := reducedEchelon_selectCols [j] hIs (by simpa using hj) hr
    simp [solve, hcut, bind, Except.bind, pure, Except.pure]

/-! ### Elimination acts column by column -/

/-- Every row operation of an elimination takes its factor from the left matrix and acts on
each column of the companion alone. So eliminating against two companions side by side, in
the echelon or the reduced form, is eliminating against each of them, with the same left
matrix and the two companions side by side; the inverse is, column by column, the solution
against that column of the identity; and two eliminations of one matrix against any two
companions (or none) that both succeed give the same left matrix. -/
theorem elimination_acts_columnwise (a : Mat) (s : Bool) :
    (∀ {b₁ b₂ r x : Mat} {p q : ℕ}, b₁.Sized a.rows p → b₂.Sized a.rows q →
      a.echelon (some (b₁.appendCols b₂)) s = .ok (r, some x) →
      ∃ x₁ x₂, a.echelon (some b₁) s = .ok (r, some x₁) ∧
        a.echelon (some b₂) s = .ok (r, some x₂) ∧ x = x₁.appendCols x₂) ∧
    (∀ {b₁ b₂ r x : Mat} {p q : ℕ}, b₁.Sized a.rows p → b₂.Sized a.rows q →
      a.reducedEchelon (some (b₁.appendCols b₂)) s = .ok (r, some x) →
      ∃ x₁ x₂, a.reducedEchelon (some b₁) s = .ok (r, some x₁) ∧
        a.reducedEchelon (some b₂) s = .ok (r, some x₂) ∧ x = x₁.appendCols x₂) ∧
    (∀ {X I : Mat}, a.inverse s = .ok X → identity a.rows = .ok I →
      ∀ j < a.rows, a.solve (some (I.selectCols [j])) s = .ok (some (X.selectCols [j]))) ∧
    (∀ {aug aug' : Option Mat} {r r' : Mat} {o o' : Option Mat},
      (∀ c ∈ aug, c.WellFormed) → (∀ c ∈ aug', c.WellFormed) →
      a.echelon aug s = .ok (r, o) → a.echelon aug' s = .ok (r', o') → r = r') ∧
    (∀ {aug aug' : Option Mat} {r r' : Mat} {o o' : Option Mat},
      (∀ c ∈ aug, c.WellFormed) → (∀ c ∈ aug', c.WellFormed) →
      a.reducedEchelon aug s = .ok (r, o) → a.reducedEchelon aug' s = .ok (r', o') → r = r') := by
  refine ⟨fun h₁ h₂ h => ?_, fun h₁ h₂ h => ?_, fun h hI j hj => inverse_selectCols h hI hj,
    fun haug haug' h h' => ?_, fun haug haug' h h' => ?_⟩
  · exact split_appendCols (fun js hb hjs h => echelon_selectCols js hb hjs h) h₁ h₂ h
  · exact split_appendCols (fun js hb hjs h => reducedEchelon_selectCols js hb hjs h) h₁ h₂ h
  · exact left_eq_of_selectCols (fun js hb hjs h => echelon_selectCols js hb hjs h)
      (fun haug h => echelon_companion haug h) haug haug' h h'
  · exact left_eq_of_selectCols (fun js hb hjs h => reducedEchelon_selectCols js hb hjs h)
      (fun haug h => reducedEchelon_companion haug h) haug haug' h h'

/-- The matrix `[[2, 1], [4, 3]]` against the two columns of the identity: side by side or
one at a time, in both forms; its inverse column by column; and the same left matrix against
the identity and against no companion. -/
theorem elimination_acts_columnwise_two_by_two :
    (∃ x₁ x₂,
      echelon ⟨2, 2, [[⟨2, 1⟩, ⟨1, 1⟩], [⟨4, 1⟩, ⟨3, 1⟩]]⟩
          (some ⟨2, 1, [[⟨1, 1⟩], [⟨0, 1⟩]]⟩) true =
        .ok (⟨2, 2, [[⟨1, 1⟩, ⟨1, 2⟩], [⟨0, 1⟩, ⟨1, 1⟩]]⟩, some x₁) ∧
      echelon ⟨2, 2, [[⟨2, 1⟩, ⟨1, 1⟩], [⟨4, 1⟩, ⟨3, 1⟩]]⟩
          (some ⟨2, 1, [[⟨0, 1⟩], [⟨1, 1⟩]]⟩) true =
        .ok (⟨2, 2, [[⟨1, 1⟩, ⟨1, 2⟩], [⟨0, 1⟩, ⟨1, 1⟩]]⟩, some x₂) ∧
      (⟨2, 2, [[⟨1, 2⟩, ⟨0, 1⟩], [⟨-2, 1⟩, ⟨1, 1⟩]]⟩ : Mat) = x₁.appendCols x₂) ∧
    (∃ x₁ x₂,
      reducedEchelon ⟨2, 2, [[⟨2, 1⟩, ⟨1, 1⟩], [⟨4, 1⟩, ⟨3, 1⟩]]⟩
          (some ⟨2, 1, [[⟨1, 1⟩], [⟨0, 1⟩]]⟩) true =
        .ok (⟨2, 2, [[⟨1, 1⟩, ⟨0, 1⟩], [⟨0, 1⟩, ⟨1, 1⟩]]⟩, some x₁) ∧
      reducedEchelon ⟨2, 2, [[⟨2, 1⟩, ⟨1, 1⟩], [⟨4, 1⟩, ⟨3, 1⟩]]⟩
          (some ⟨2, 1, [[⟨0, 1⟩], [⟨1, 1⟩]]⟩) true =
        .ok (⟨2, 2, [[⟨1, 1⟩, ⟨0, 1⟩], [⟨0, 1⟩, ⟨1, 1⟩]]⟩, some x₂) ∧
      (⟨2, 2, [[⟨3, 2⟩, ⟨-1, 2⟩], [⟨-2, 1⟩, ⟨1, 1⟩]]⟩ : Mat) = x₁.appendCols x₂) ∧
    solve ⟨2, 2, [[⟨2, 1⟩, ⟨1, 1⟩], [⟨4, 1⟩, ⟨3, 1⟩]]⟩
        (some ⟨2, 1, [[⟨0, 1⟩], [⟨1, 1⟩]]⟩) true =
      .ok (some ⟨2, 1, [[⟨-1, 2⟩], [⟨1, 1⟩]]⟩) ∧
    (⟨2, 2, [[⟨1, 1⟩, ⟨1, 2⟩], [⟨0, 1⟩, ⟨1, 1⟩]]⟩ : Mat) =
      ⟨2, 2, [[⟨1, 1⟩, ⟨1, 2⟩], [⟨0, 1⟩, ⟨1, 1⟩]]⟩ ∧
    (⟨2, 2, [[⟨1, 1⟩, ⟨0, 1⟩], [⟨0, 1⟩, ⟨1, 1⟩]]⟩ : Mat) =
      ⟨2, 2, [[⟨1, 1⟩, ⟨0, 1⟩], [⟨0, 1⟩, ⟨1, 1⟩]]⟩ :=
  have h := elimination_acts_columnwise ⟨2, 2, [[⟨2, 1⟩, ⟨1, 1⟩], [⟨4, 1⟩, ⟨3, 1⟩]]⟩ true
  have hI : ∀ c ∈ some (⟨2, 2, [[⟨1, 1⟩, ⟨0, 1⟩], [⟨0, 1⟩, ⟨1, 1⟩]]⟩ : Mat), c.WellFormed := by
    decide
  have hnone : ∀ c ∈ (none : Option Mat), c.WellFormed := by simp
  ⟨h.1 (p := 1) (q := 1) (by decide) (by decide) rfl,
    h.2.1 (p := 1) (q := 1) (by decide) (by decide) rfl,
    h.2.2.1 rfl rfl 1 (by decide),
    h.2.2.2.1 hI hnone rfl rfl,
    h.2.2.2.2 hI hnone rfl rfl⟩

end Mat

end Frac64
