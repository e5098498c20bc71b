import Frac64.Proofs.Forward

/-!
# Back substitution

`Mat.reducedEchelon` takes an echelon form with unit pivots and clears each of the first
`k = min m n` columns above its pivot, from the last pivot to the first, by adding multiples
of the pivot row to the rows above; at the end both matrices are brought to lowest terms.

Once the columns after `i` are cleared, row `i` is the unit row `eᵢ` in the first `k`
columns, so clearing column `i` changes nothing else there. After the last step the first
`k` columns are those of the identity, and lowest terms make their entries exactly `1/1`
and `0/1`.

## Main definitions

* `Mat.ClearedFrom` — unit pivots with zeros below, and zeros above the pivots from a column
  on.
* `Mat.ReducedOf` — what a reduced echelon form of a tableau is.

## Main results

* `Mat.clearAbove_spec` — one pivot column cleared above its pivot.
* `Mat.backSubstitute_spec`, `Mat.reducedEchelon_of_echelon` — back substitution of any echelon
  form.
* `Mat.reducedEchelon_strict_spec` — **a strict reduced echelon form has the identity in its
  first columns, in lowest terms, reached by one invertible row transformation of both
  matrices, unless the elimination is refused at a column that is zero from the diagonal
  down or overflows.**
-/

namespace Frac64

namespace Mat

/-! ### Cleared columns -/

/-- The first `k` columns of an `m`-row matrix have unit pivots with zeros below them, and
the columns from `i` to `k - 1` have zeros above their pivots as well. -/
def ClearedFrom (a : Mat) (m k i : ℕ) : Prop :=
  a.UnitStaircase m k ∧ ∀ j, i ≤ j → j < k → ∀ t, t < j → (a.entry t j).value = 0

theorem ClearedFrom.start {a : Mat} {m k : ℕ} (h : a.UnitStaircase m k) : a.ClearedFrom m k k :=
  ⟨h, fun _ h1 h2 => absurd h2 (by omega)⟩

/-- Once the columns after `i` are cleared, row `i` is the unit row in the first `k`
columns. -/
theorem ClearedFrom.entry_pivotRow {a : Mat} {m k i : ℕ} (h : a.ClearedFrom m k (i + 1))
    (hi : i < k) (hk : k ≤ m) {j : ℕ} (hj : j < k) :
    (a.entry i j).value = if j = i then 1 else 0 := by
  rcases lt_trichotomy j i with hji | rfl | hij
  · rw [if_neg (by omega)]
    exact (h.1 j hj).2 i hji (by omega)
  · rw [if_pos rfl]
    exact (h.1 j hj).1
  · rw [if_neg (by omega)]
    exact h.2 j hij hj i hij

/-- The entries of the identity in lowest terms: a defined entry in lowest terms with the
value of an identity entry is `1/1` or `0/1`. -/
theorem eq_identity_of_lowest {x : Frac} (hx : x.Lowest) {t j : ℕ}
    (hv : x.value = if t = j then 1 else 0) : x = if t = j then Frac.one else Frac.zero := by
  split_ifs at hv ⊢
  · exact Frac.eq_of_lowest hx Frac.lowest_one (by rw [hv, Frac.value_one])
  · exact Frac.eq_of_lowest hx Frac.lowest_zero (by rw [hv, Frac.value_zero])

/-! ### Clearing one column above its pivot -/

/-- The state of clearing column `i` of `s` above its pivot once rows `0, …, r - 1` are done:
in the first `k` columns only the entries of column `i` in those rows changed, to zero. -/
structure ClearingAbove (m n q k i r : ℕ) (s s' : Mat × Mat) : Prop where
  tableau : Tableau m n q s'
  entries : ∀ t j, j < k →
    (s'.1.entry t j).value = if j = i ∧ t < r then 0 else (s.1.entry t j).value
  transformed : ∃ E, IsUnit E ∧ Transformed m n q E s s'

/-- The state of back substitution from the tableau `p` once the columns from `i` on are
cleared above their pivots. -/
structure Substituted (m n q k : ℕ) (p : Mat × Mat) (i : ℕ) (s : Mat × Mat) : Prop where
  tableau : Tableau m n q s
  cleared : s.1.ClearedFrom m k i
  transformed : ∃ E, IsUnit E ∧ Transformed m n q E p s

/-- One row `r` above pivot `i`: adding `-a[r][i]` times the unit row `i` clears its entry in
column `i` and leaves its other entries in the first `k` columns alone. -/
theorem ClearingAbove.step {m n q k i r : ℕ} {s s' s'' : Mat × Mat} {f : Frac}
    (h : ClearingAbove m n q k i r s s') (hri : r < i)
    (hunit : ∀ j, j < k → (s.1.entry i j).value = if j = i then 1 else 0)
    (hf : f.value = -(s'.1.entry r i).value)
    (he : ∀ t j, (s''.1.entry t j).value =
      (s'.1.entry t j).value + if t = r then (s'.1.entry i j).value * f.value else 0)
    (t j : ℕ) (hj : j < k) :
    (s''.1.entry t j).value = if j = i ∧ t < r + 1 then 0 else (s.1.entry t j).value := by
  have hrow : (s'.1.entry i j).value = if j = i then 1 else 0 := by
    rw [h.entries i j hj, if_neg (by omega), hunit j hj]
  rw [he]
  by_cases htr : t = r
  · subst htr
    rw [if_pos rfl, hrow]
    by_cases hji : j = i
    · subst hji
      rw [if_pos rfl, one_mul, hf, if_pos (show j = j ∧ t < t + 1 from ⟨rfl, by omega⟩)]
      exact add_neg_cancel _
    · rw [if_neg hji, zero_mul, add_zero, h.entries t j hj, if_neg (by omega), if_neg (by omega)]
  · rw [if_neg htr, add_zero, h.entries t j hj]
    simp only [show t < r + 1 ↔ t < r by omega]

/-- Clearing column `i` above its pivot, once the later columns are cleared, clears it
without touching the other columns of the staircase. -/
theorem clearAbove_spec {m n q k i : ℕ} {p s : Mat × Mat} (hs : Substituted m n q k p (i + 1) s)
    (hi : i < k) (hk : k ≤ m) :
    Outcome Error.IsOverflow (Substituted m n q k p i) (clearAbove s i) := by
  have hunit := fun j (hj : j < k) => hs.cleared.entry_pivotRow hi hk hj
  unfold clearAbove
  refine Outcome.mono (@Outcome.foldlM_range _ _ _ (fun r s' => ClearingAbove m n q k i r s s') i s
    ⟨hs.tableau, fun t j _ => by simp, 1, isUnit_one, Transformed.refl s⟩
    fun r s' hr hs' => ?step) (fun _ h => h) fun s' hs' => ?done
  case step =>
    have hden := hs'.tableau.left_defined.den_pos
    refine (Frac.mul_spec (hden r i) (by decide : (0 : Int) < minusOne.den)).bind
      fun f ⟨hf, hfd⟩ => ?_
    refine (addBoth_spec hs'.tableau (by omega) (by omega) (Frac.den_pos_reduce hfd)).mono
      (fun _ h => h) ?_
    rintro s'' ⟨hs'', -, -, htr, he⟩
    have hfv : f.reduce.value = -(s'.1.entry r i).value := by
      rw [Frac.value_reduce, hf]
      simp [minusOne, Frac.value]
    obtain ⟨E, hE, hEt⟩ := hs'.transformed
    exact ⟨hs'', hs'.step hr hunit hfv he, _,
      (isUnit_transvection (Fin.ne_of_lt (show (⟨r, by omega⟩ : Fin m) < ⟨i, by omega⟩ from hr))
        _).mul hE, hEt.trans htr⟩
  case done =>
    -- column `i` is now zero above the pivot; the other columns of the staircase are as before
    have hval : ∀ t j, j < k →
        (s'.1.entry t j).value = if j = i ∧ t < i then 0 else (s.1.entry t j).value :=
      hs'.entries
    obtain ⟨E, hE, hEt⟩ := hs.transformed
    obtain ⟨E', hE', hEt'⟩ := hs'.transformed
    refine ⟨hs'.tableau, ⟨fun j hj => ?_, fun j hij hj t htj => ?_⟩, _, hE'.mul hE, hEt.trans hEt'⟩
    · obtain ⟨hpiv, hbelow⟩ := hs.cleared.1 j hj
      refine ⟨by rw [hval j j hj, if_neg (by omega), hpiv], fun t hjt ht => ?_⟩
      rw [hval t j hj, if_neg (by omega), hbelow t hjt ht]
    · rw [hval t j hj]
      rcases Nat.eq_or_lt_of_le hij with rfl | hij
      · rw [if_pos ⟨rfl, htj⟩]
      · rw [if_neg (by omega)]
        exact hs.cleared.2 j hij hj t htj

/-! ### Back substitution -/

/-- `(r, x)` is a reduced echelon form of the tableau `p`: every entry in lowest terms, the
first `min m n` columns exactly those of the identity, reached by one invertible row
transformation of both matrices. -/
structure ReducedOf (m n q : ℕ) (p : Mat × Mat) (r x : Mat) : Prop where
  tableau : Tableau m n q (r, x)
  lowest : r.Lowest ∧ x.Lowest
  identity : ∀ t j, t < m → j < min m n → r.entry t j = if t = j then Frac.one else Frac.zero
  transformed : ∃ E, IsUnit E ∧ Transformed m n q E p (r, x)

/-- Back substitution of an echelon form, followed by lowest terms, gives a reduced echelon
form of the same tableau. -/
theorem backSubstitute_spec {m n q : ℕ} {p : Mat × Mat} {r x : Mat} (h : EchelonOf m n q p r x) :
    Outcome Error.IsOverflow (fun s => ReducedOf m n q p s.1.simplify s.2.simplify)
      ((List.range (min r.rows r.cols)).reverse.foldlM clearAbove (r, x)) := by
  have hk : min r.rows r.cols = min m n := by
    rw [h.tableau.left.rows_eq, h.tableau.left.cols_eq]
  rw [hk]
  refine (@Outcome.foldlM_range_reverse _ _ _ (fun i s => Substituted m n q (min m n) p i s)
    (min m n) (r, x) ⟨h.tableau, ClearedFrom.start h.staircase, h.transformed⟩
    fun i s hi hs => clearAbove_spec hs hi (min_le_left m n)).mono (fun _ h => h) ?_
  rintro s ⟨hs, hcl, E, hE, hEt⟩
  have hl1 := hs.left_defined.lowest_simplify
  have hl2 := hs.right_defined.lowest_simplify
  refine ⟨⟨hs.left.simplify, hs.right.simplify, hs.left_defined.simplify,
    hs.right_defined.simplify⟩, ⟨hl1, hl2⟩, fun t j ht hj => ?_, E, hE, ?_⟩
  · -- a pivot column is a unit column; in lowest terms its entries are `1/1` and `0/1`
    have hv : (s.1.simplify.entry t j).value = if t = j then 1 else 0 := by
      rw [entry_simplify, Frac.value_reduce]
      rcases lt_trichotomy t j with htj | rfl | hjt
      · rw [if_neg (by omega)]
        exact hcl.2 j (Nat.zero_le j) hj t htj
      · rw [if_pos rfl]
        exact (hcl.1 t hj).1
      · rw [if_neg (by omega)]
        exact (hcl.1 j hj).2 t hjt ht
    refine eq_identity_of_lowest ?_ hv
    rw [entry_simplify]
    exact Frac.lowest_reduce (hs.left_defined.den_pos t j)
  · refine ⟨?_, ?_⟩
    · rw [val_simplify]
      exact hEt.1
    · rw [val_simplify]
      exact hEt.2

/-- Back substitution after an echelon form: whatever the echelon form gives, the reduced form
turns into a reduced echelon form of the same tableau; it adds only overflows to the
failures. -/
theorem reducedEchelon_of_echelon {m n q : ℕ} {a b : Mat} {strict : Bool} {bad : Error → Prop}
    (hover : ∀ e, e.IsOverflow → bad e)
    (h : Outcome bad (fun res => ∃ x, res.2 = some x ∧ EchelonOf m n q (a, b) res.1 x)
      (echelon a (some b) strict)) :
    Outcome bad (fun res => ∃ x, res.2 = some x ∧ ReducedOf m n q (a, b) res.1 x)
      (reducedEchelon a (some b) strict) := by
  unfold reducedEchelon
  simp only [companion, Outcome.ok_bind]
  refine h.bind ?_
  rintro ⟨r, o⟩ ⟨x, hx, hech⟩
  simp only at hx
  subst hx
  refine ((backSubstitute_spec hech).mono hover fun _ h => h).bind fun s hs => ?_
  exact Outcome.pure ⟨s.2.simplify, rfl, hs⟩

/-- A strict reduced echelon form has the identity in its first columns, in lowest terms,
reached by one invertible row transformation of both matrices, unless the elimination is
refused at a column that is zero from the diagonal down, or overflows. -/
theorem reducedEchelon_strict_spec {m n q : ℕ} {a b : Mat} (ha : a.Sized m n) (hb : b.Sized m q)
    (hda : a.Defined) (hdb : b.Defined) :
    Outcome (fun e => e.IsOverflow ∨ ∃ c, c < min m n ∧ e = .noPivot c ∧ RefusedAt m n q (a, b) c)
      (fun res => ∃ x, res.2 = some x ∧ ReducedOf m n q (a, b) res.1 x)
      (reducedEchelon a (some b) true) :=
  reducedEchelon_of_echelon (fun _ h => Or.inl h) (echelon_strict_spec ha hb hda hdb)

end Mat

end Frac64
