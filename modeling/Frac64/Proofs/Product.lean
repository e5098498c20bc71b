import Frac64.Mat.Arith
import Frac64.Proofs.RowOps
import Frac64.Proofs.Arithmetic

/-!
# Products, identities and comparisons of matrices

The product `Mat.mul` sums each entry term by term, in lowest terms after every term; when no
integer leaves the 64-bit range it is the product of the rational matrices, every entry in lowest
terms. It is refused for its shapes when the inner sizes differ, and also when the result would
have no row or no column, as for a matrix emptied by removing rows: the result is allocated with
`Mat.zeros`, which refuses such a size. The identity `Mat.identity` holds `1/1` and `0/1`, and
`Mat.equals` compares entries in lowest terms, so between defined matrices of one shape it
compares their values. A stored matrix multiplied by the identity comes back equal to itself,
with no overflow: every entry is a running sum whose terms are `0/1` but one.

## Main definitions

* `Mat.Stored` — every entry keeps the invariant of the constructor.

## Main results

* `Mat.productEntry_spec`, `Mat.mul_lowest_spec`, `Mat.mul_spec` — the product of values, in
  lowest terms, or an overflow.
* `Mat.mul_shapeMismatch_iff` — when a product is refused for its shapes.
* `Mat.identity_spec`, `Mat.entry_of_identity` — the identity matrix.
* `Mat.equals_iff` — equality of matrices is equality of their values.
* `Mat.sum_single`, `Mat.mul_identity_right`, `Mat.identity_mul` — the identity is neutral.
* `Mat.mul_shape_entries_identity` — **refusal, entries and identity laws of the product.**
-/

namespace Frac64

/-! ### Lists related to a range -/

section Range

variable {β : Type} {R : ℕ → β → Prop} {n : ℕ} {l : List β}

/-- A list related element by element to `0, …, n - 1` has length `n`, and its entry `i` is
related to `i`. -/
theorem forall₂_range (h : List.Forall₂ R (List.range n) l) (d : β) :
    l.length = n ∧ ∀ i, i < n → R i (l.getD i d) := by
  obtain ⟨hlen, hget⟩ := List.forall₂_iff_get.1 h
  rw [List.length_range] at hlen
  refine ⟨hlen.symm, fun i hi => ?_⟩
  have hi' : i < l.length := by omega
  have := hget i (by simpa using hi) hi'
  rw [List.getD_eq_getElem _ _ hi']
  simpa using this

theorem forall₂_range_mem (h : List.Forall₂ R (List.range n) l) :
    ∀ x ∈ l, ∃ i, i < n ∧ R i x := by
  intro x hx
  obtain ⟨hlen, hget⟩ := forall₂_range h x
  obtain ⟨i, hi, rfl⟩ := List.mem_iff_getElem.1 hx
  refine ⟨i, by omega, ?_⟩
  have := hget i (by omega)
  rwa [List.getD_eq_getElem _ _ hi] at this

end Range

/-- A list of pairs passes a test exactly when each pair of entries at one position does. -/
theorem all_zip_iff {α β : Type} {g : α × β → Bool} {l₁ : List α} {l₂ : List β}
    (hl : l₁.length = l₂.length) (d₁ : α) (d₂ : β) :
    (l₁.zip l₂).all g = true ↔ ∀ i, i < l₁.length → g (l₁.getD i d₁, l₂.getD i d₂) = true := by
  rw [List.all_eq_true]
  constructor
  · intro h i hi
    apply h
    rw [List.mem_iff_getElem]
    refine ⟨i, by simp [hi, ← hl], ?_⟩
    rw [List.getElem_zip, List.getD_eq_getElem _ _ hi, List.getD_eq_getElem _ _ (hl ▸ hi)]
  · intro h x hx
    obtain ⟨i, hi, rfl⟩ := List.mem_iff_getElem.1 hx
    rw [List.length_zip] at hi
    have hi₁ : i < l₁.length := by omega
    have hi₂ : i < l₂.length := by omega
    have := h i hi₁
    rw [List.getD_eq_getElem _ _ hi₁, List.getD_eq_getElem _ _ hi₂] at this
    rwa [List.getElem_zip]

namespace Mat

/-! ### Matrices built entry by entry -/

/-- A matrix whose entries within its shape are defined is defined. -/
theorem Sized.defined_of_den_pos {a : Mat} {m n : ℕ} (h : a.Sized m n)
    (hd : ∀ i j, i < m → j < n → 0 < (a.entry i j).den) : a.Defined := by
  intro r hr x hx
  obtain ⟨i, hi, rfl⟩ := List.mem_iff_getElem.1 hr
  obtain ⟨j, hj, rfl⟩ := List.mem_iff_getElem.1 hx
  have hlen : a.cells[i].length = n := by
    rw [h.wellFormed.2 _ (List.getElem_mem hi), h.cols_eq]
  have := hd i j (h.length_cells ▸ hi) (hlen ▸ hj)
  rwa [entry, row, List.getD_eq_getElem _ _ hi, List.getD_eq_getElem _ _ hj] at this

/-- The matrix of the given size whose entries are the results of related computations. -/
theorem sized_of_forall₂ {m p : ℕ} {S : ℕ → ℕ → Frac → Prop} {cells : List (List Frac)}
    (h : List.Forall₂ (fun i row => List.Forall₂ (S i) (List.range p) row) (List.range m) cells) :
    (⟨m, p, cells⟩ : Mat).Sized m p ∧ ∀ i j, i < m → j < p → S i j ((⟨m, p, cells⟩ : Mat).entry i j) := by
  obtain ⟨hlen, hrows⟩ := forall₂_range h []
  refine ⟨⟨rfl, rfl, hlen, fun r hr => ?_⟩, fun i j hi hj => (forall₂_range (hrows i hi) _).2 j hj⟩
  obtain ⟨i, -, hi⟩ := forall₂_range_mem h r hr
  exact (forall₂_range hi Frac.zero).1

/-! ### Products -/

/-- An entry of a product is the sum of the products of values, in lowest terms, or an
overflow. -/
theorem productEntry_spec {a b : Mat} (hda : a.Defined) (hdb : b.Defined) (i j : ℕ) :
    Outcome Error.IsOverflow (fun c => c.value =
        ∑ k ∈ Finset.range a.cols, (a.entry i k).value * (b.entry k j).value ∧ c.Lowest)
      (productEntry a b i j) := by
  unfold productEntry
  refine @Outcome.foldlM_range _ _ _ (fun r c => c.value =
      ∑ k ∈ Finset.range r, (a.entry i k).value * (b.entry k j).value ∧ c.Lowest)
    a.cols Frac.zero ⟨by simp, Frac.lowest_zero⟩ fun k c _ ⟨hc, hcl⟩ => ?_
  -- one term: multiply, add to the running sum, bring to lowest terms
  refine (Frac.mul_spec (hda.den_pos i k) (hdb.den_pos k j)).bind fun x ⟨hx, hxd⟩ => ?_
  refine (Frac.add_spec hcl.1 hxd).bind fun y ⟨hy, hyd⟩ => ?_
  refine Outcome.pure ⟨?_, Frac.lowest_reduce hyd⟩
  rw [Frac.value_reduce, hy, hc, hx, Finset.sum_range_succ]

theorem zeros_of_pos {r c : ℕ} (hr : 0 < r) (hc : 0 < c) :
    zeros r c = .ok ⟨r, c, List.replicate r (List.replicate c Frac.zero)⟩ := by
  unfold zeros filled
  rw [if_neg (by omega)]
  rfl

/-- The product of defined matrices with a row and a column is the product of their values, in
lowest terms, or an overflow. -/
theorem mul_lowest_spec {a b : Mat} {m n p : ℕ} (ha : a.Sized m n) (hb : b.Sized n p)
    (hda : a.Defined) (hdb : b.Defined) (hm : 0 < m) (hp : 0 < p) :
    Outcome Error.IsOverflow (fun c => c.Sized m p ∧ c.Lowest ∧ c.val m p = a.val m n * b.val n p)
      (a.mul b) := by
  unfold mul
  rw [if_neg (by rw [ha.cols_eq, hb.rows_eq]; exact not_not.2 rfl)]
  simp only [ha.rows_eq, hb.cols_eq, zeros_of_pos hm hp, Outcome.ok_bind]
  refine (@Outcome.mapM _ _ _ (fun i row => List.Forall₂ (fun j c => c.value =
      ∑ k ∈ Finset.range n, (a.entry i k).value * (b.entry k j).value ∧ c.Lowest)
      (List.range p) row) _ _ fun i _ => ?_).bind fun cells hcells => ?_
  · refine Outcome.mapM _ fun j _ => ?_
    rw [← ha.cols_eq]
    exact productEntry_spec hda hdb i j
  · obtain ⟨hs, he⟩ := sized_of_forall₂ hcells
    refine Outcome.pure ⟨hs, fun r hr x hx => ?_, ?_⟩
    · -- a stored entry of the product is one of the entries computed
      obtain ⟨i, hi, hrow⟩ := forall₂_range_mem hcells r hr
      obtain ⟨j, -, hxj⟩ := forall₂_range_mem hrow x hx
      exact hxj.2
    · ext i j
      rw [val_apply, (he i j i.2 j.2).1, Matrix.mul_apply, ← Fin.sum_univ_eq_sum_range]
      rfl

/-- The product of defined matrices with a row and a column is the product of their values,
or an overflow. -/
theorem mul_spec {a b : Mat} {m n p : ℕ} (ha : a.Sized m n) (hb : b.Sized n p)
    (hda : a.Defined) (hdb : b.Defined) (hm : 0 < m) (hp : 0 < p) :
    Outcome Error.IsOverflow (fun c => c.Sized m p ∧ c.Defined ∧ c.val m p = a.val m n * b.val n p)
      (a.mul b) :=
  (mul_lowest_spec ha hb hda hdb hm hp).mono (fun _ h => h) fun _ ⟨hs, hl, hv⟩ =>
    ⟨hs, hl.defined, hv⟩

/-! ### Refused products -/

/-- A product whose inner sizes differ is refused. -/
theorem mul_of_cols_ne {a b : Mat} (h : a.cols ≠ b.rows) :
    a.mul b = .error (.multiplyShapes a.shape b.shape) := by
  unfold mul
  rw [if_pos h]
  rfl

/-- A product that would have no row or no column is refused, although its inner sizes agree. -/
theorem mul_of_empty {a b : Mat} (h : a.cols = b.rows) (h0 : a.rows = 0 ∨ b.cols = 0) :
    a.mul b = .error (.invalidSize a.rows b.cols) := by
  have hz : zeros a.rows b.cols = .error (.invalidSize a.rows b.cols) := by
    unfold zeros filled
    rw [if_pos (by omega)]
  simp only [mul, h, ne_eq, not_true_eq_false, if_false, hz]
  rfl

/-- A product is refused for its shapes exactly when its inner sizes differ or it would have no
row or no column; any other failure of a product of defined matrices is an overflow. -/
theorem mul_shapeMismatch_iff {a b : Mat} {m k k' n : ℕ} (ha : a.Sized m k) (hb : b.Sized k' n)
    (hda : a.Defined) (hdb : b.Defined) :
    (∃ e, a.mul b = .error e ∧ e.kind = .shapeMismatch) ↔ k ≠ k' ∨ m = 0 ∨ n = 0 := by
  obtain ⟨rfl, rfl, hwa⟩ := ha
  obtain ⟨rfl, rfl, hwb⟩ := hb
  by_cases hk : a.cols = b.rows
  · by_cases h0 : a.rows = 0 ∨ b.cols = 0
    · exact iff_of_true ⟨_, mul_of_empty hk h0, rfl⟩ (Or.inr h0)
    · -- the product is computed, and can only overflow
      have hb' : b.Sized a.cols b.cols := ⟨hk.symm, rfl, hwb⟩
      refine iff_of_false ?_ (by omega)
      rintro ⟨e, he, hkind⟩
      have hov := (mul_lowest_spec ⟨rfl, rfl, hwa⟩ hb' hda hdb (by omega) (by omega)).of_error he
      rw [hov.kind_eq] at hkind
      cases hkind
  · exact iff_of_true ⟨_, mul_of_cols_ne hk, rfl⟩ (Or.inl hk)

/-! ### The identity -/

/-- The identity matrix of a positive size: `1/1` on the diagonal and `0/1` elsewhere. -/
theorem identity_spec {n : ℕ} (hn : 0 < n) :
    ∃ e, identity n = .ok e ∧ e.Sized n n ∧ e.Lowest ∧ e.val n n = 1 := by
  unfold identity
  simp only [zeros_of_pos hn hn, Int.toNat_natCast]
  refine ⟨_, rfl, ⟨rfl, rfl, by simp, fun r hr => ?_⟩, fun r hr x hx => ?_, ?_⟩
  · obtain ⟨i, -, rfl⟩ := List.mem_map.1 hr
    simp
  · obtain ⟨i, -, rfl⟩ := List.mem_map.1 hr
    obtain ⟨j, -, rfl⟩ := List.mem_map.1 hx
    split_ifs
    · exact Frac.lowest_one
    · exact Frac.lowest_zero
  · -- the diagonal holds `1/1` and the rest `0/1`
    ext i j
    simp only [val_apply, entry, row, List.getD_eq_getElem?_getD, List.getElem?_map,
      List.getElem?_range i.2, List.getElem?_range j.2, Option.map_some, Option.getD_some,
      Matrix.one_apply]
    by_cases h : i = j
    · simp [h]
    · have h' : (i : ℕ) ≠ j := Fin.val_ne_of_ne h
      simp [h, h']

/-- The entries of the identity matrix: `1/1` on the diagonal and `0/1` elsewhere. -/
theorem entry_of_identity {n : ℕ} {e : Mat} (hn : 0 < n) (he : identity n = .ok e) {i j : ℕ}
    (hi : i < n) (hj : j < n) : e.entry i j = if i = j then Frac.one else Frac.zero := by
  obtain ⟨e', he', -, hel, hev⟩ := identity_spec hn
  obtain rfl : e' = e := Except.ok.inj (he'.symm.trans he)
  have hv : (e'.entry i j).value = if i = j then 1 else 0 := by
    have := congrFun (congrFun hev ⟨i, hi⟩) ⟨j, hj⟩
    rw [val_apply, Matrix.one_apply] at this
    simpa [Fin.ext_iff] using this
  -- an entry in lowest terms is determined by its value
  split_ifs with h
  · exact Frac.eq_of_lowest (hel.entry i j) Frac.lowest_one (by rw [hv, if_pos h, Frac.value_one])
  · exact Frac.eq_of_lowest (hel.entry i j) Frac.lowest_zero (by rw [hv, if_neg h, Frac.value_zero])

/-! ### Comparison -/

/-- Defined matrices of one shape are equal exactly when their values are. -/
theorem equals_iff {a b : Mat} {m n : ℕ} (ha : a.Sized m n) (hb : b.Sized m n)
    (hda : a.Defined) (hdb : b.Defined) : a.equals b = true ↔ a.val m n = b.val m n := by
  have hcells : a.cells.length = b.cells.length := by rw [ha.length_cells, hb.length_cells]
  unfold equals
  rw [Bool.and_eq_true, all_zip_iff hcells [] []]
  simp only [shape, ha.rows_eq, ha.cols_eq, hb.rows_eq, hb.cols_eq, beq_self_eq_true, true_and,
    ha.length_cells]
  -- row by row, then entry by entry
  have hrow : ∀ i, i < m → (((a.cells.getD i []).zip (b.cells.getD i [])).all
      (fun p => p.1.same p.2) = true ↔
        ∀ j, j < n → (a.entry i j).same (b.entry i j) = true) := by
    intro i hi
    have hlen : (a.cells.getD i []).length = (b.cells.getD i []).length :=
      (ha.length_row i hi).trans (hb.length_row i hi).symm
    rw [all_zip_iff hlen Frac.zero Frac.zero]
    have := ha.length_row i hi
    simp only [row] at this
    rw [this]
    rfl
  constructor
  · intro h
    ext i j
    rw [val_apply, val_apply, ← Frac.same_iff_value (hda.den_pos i j) (hdb.den_pos i j)]
    exact (hrow i i.2).1 (h i i.2) j j.2
  · intro h i hi
    refine (hrow i hi).2 fun j hj => ?_
    rw [Frac.same_iff_value (hda.den_pos i j) (hdb.den_pos i j)]
    exact congrFun (congrFun h ⟨i, hi⟩) ⟨j, hj⟩

/-! ### Products with the identity -/

/-- Every stored entry keeps the invariant of the constructor, as every entry of a matrix built
from values does. -/
def Stored (a : Mat) : Prop := ∀ r ∈ a.cells, ∀ x ∈ r, x.Stored

instance (a : Mat) : Decidable a.Stored := inferInstanceAs (Decidable (∀ r ∈ a.cells, ∀ x ∈ r, _))

theorem Stored.entry {a : Mat} (h : a.Stored) (i j : ℕ) : (a.entry i j).Stored := by
  rcases a.entry_mem_or_zero i j with ⟨r, hr, hx⟩ | hz
  · exact h r hr _ hx
  · rw [hz]
    decide

/-- A sum reduced after every term, whose terms are all `0/1` but the one at `s`, a stored `x`,
is `x` in lowest terms: nothing overflows. -/
theorem sum_single {f : ℕ → Except Error Frac} {x : Frac} {s n : ℕ} (hx : x.Stored) (hs : s < n)
    (hf : ∀ l, l < n → f l = .ok (if l = s then x else Frac.zero)) :
    (List.range n).foldlM (fun acc l => do
      let p ← f l
      pure (← acc.add p).reduce) Frac.zero = .ok x.reduce := by
  -- the running sum is `0/1` up to `s`, and `x` in lowest terms from then on
  have hstep : ∀ r acc, r < n → acc = (if s < r then x.reduce else Frac.zero) →
      Outcome (fun _ => False) (fun acc' => acc' = if s < r + 1 then x.reduce else Frac.zero)
        (do let p ← f r; pure (← acc.add p).reduce) := by
    intro r acc hr hacc
    have hstored : acc.Stored := by
      rw [hacc]
      split_ifs
      · exact Frac.stored_reduce hx
      · decide
    rw [hf r hr, Outcome.ok_bind]
    by_cases hrs : r = s
    · subst hrs
      rw [if_pos rfl, hacc, if_neg (lt_irrefl r), Frac.zero_add_of_stored hx]
      exact Outcome.pure (by simp)
    · rw [if_neg hrs, Frac.add_zero_of_stored hstored]
      refine Outcome.pure ?_
      -- a zero term changes nothing, and the running sum is in lowest terms already
      have hlt : s < r + 1 ↔ s < r := by omega
      rw [hacc, if_congr hlt rfl rfl]
      split_ifs
      · exact Frac.reduce_reduce x
      · exact Frac.reduce_zero_num rfl
  obtain ⟨c, hc, hcv⟩ := Outcome.exists_ok (Outcome.foldlM_range n Frac.zero (by simp) hstep)
  rw [hc, hcv, if_pos hs]

/-- A product whose every entry is computed without overflow as the lowest terms of the entry of
`a` at its place equals `a`. -/
theorem mul_equals_of_entries {p q a : Mat} {m k : ℕ} (ha : a.Sized m k) (hda : a.Defined)
    (hp : p.rows = m) (hq : q.cols = k) (hpq : p.cols = q.rows) (hm : 0 < m) (hk : 0 < k)
    (he : ∀ i j, i < m → j < k → productEntry p q i j = .ok (a.entry i j).reduce) :
    ∃ c, p.mul q = .ok c ∧ c.equals a = true := by
  refine Outcome.exists_ok ?_
  unfold mul
  rw [if_neg (not_not.2 hpq)]
  simp only [hp, hq, zeros_of_pos hm hk, Outcome.ok_bind]
  refine (@Outcome.mapM _ _ _ (fun i row => List.Forall₂ (fun j c => c = (a.entry i j).reduce)
      (List.range k) row) _ _ fun i hi => ?_).bind fun cells hcells => ?_
  · refine Outcome.mapM _ fun j hj => ?_
    rw [he i j (List.mem_range.1 hi) (List.mem_range.1 hj)]
    rfl
  · obtain ⟨hs, hentry⟩ := sized_of_forall₂ hcells
    refine Outcome.pure ((equals_iff hs ha (hs.defined_of_den_pos fun i j hi hj => ?_) hda).2 ?_)
    · rw [hentry i j hi hj]
      exact Frac.den_pos_reduce (hda.den_pos i j)
    · ext i j
      rw [val_apply, val_apply, hentry i j i.2 j.2, Frac.value_reduce]

/-- Multiplying a stored, defined matrix by the identity on the right gives it back, with no
overflow. -/
theorem mul_identity_right {a : Mat} {m k : ℕ} (ha : a.Sized m k) (hs : a.Stored)
    (hd : a.Defined) (hm : 0 < m) (hk : 0 < k) :
    ∃ e c, identity k = .ok e ∧ a.mul e = .ok c ∧ c.equals a = true := by
  obtain ⟨e, he, hes, -, -⟩ := identity_spec hk
  refine ⟨e, (mul_equals_of_entries ha hd ha.rows_eq hes.cols_eq
    (ha.cols_eq.trans hes.rows_eq.symm) hm hk fun i j _ hj => ?_).imp fun _ h => ⟨he, h⟩⟩
  unfold productEntry
  rw [ha.cols_eq]
  refine sum_single (hs.entry i j) hj fun l hl => ?_
  rw [entry_of_identity hk he hl hj]
  by_cases hlj : l = j
  · subst hlj
    simp only [if_true]
    exact Frac.mul_one_of_stored (hs.entry i l)
  · simp only [hlj, if_false]
    exact Frac.mul_zero_of_pos (hs.entry i l) (hd.den_pos i l)

/-- Multiplying a stored, defined matrix by the identity on the left gives it back, with no
overflow. -/
theorem identity_mul {a : Mat} {m k : ℕ} (ha : a.Sized m k) (hs : a.Stored)
    (hd : a.Defined) (hm : 0 < m) (hk : 0 < k) :
    ∃ e c, identity m = .ok e ∧ e.mul a = .ok c ∧ c.equals a = true := by
  obtain ⟨e, he, hes, -, -⟩ := identity_spec hm
  refine ⟨e, (mul_equals_of_entries ha hd hes.rows_eq ha.cols_eq
    (hes.cols_eq.trans ha.rows_eq.symm) hm hk fun i j hi _ => ?_).imp fun _ h => ⟨he, h⟩⟩
  unfold productEntry
  rw [hes.cols_eq]
  refine sum_single (hs.entry i j) hi fun l hl => ?_
  rw [entry_of_identity hm he hi hl]
  by_cases hli : l = i
  · subst hli
    simp only [if_true]
    exact Frac.one_mul_of_stored (hs.entry l j)
  · simp only [Ne.symm hli, hli, if_false]
    exact Frac.zero_mul_of_pos (hs.entry l j) (hd.den_pos l j)


/-! ### The product -/

/-- **The matrix product.** Take a stored, defined `m × k` matrix `a` and a defined `k' × n`
matrix `b`. Their product is refused for its shapes exactly when `k ≠ k'` or it would have no row
or no column. Otherwise, unless an integer overflows, it is the `m × n` matrix of the products of
the values, every entry in lowest terms. Multiplied by the identity on either side, a matrix with
a row and a column comes back equal to itself, and nothing overflows. -/
theorem mul_shape_entries_identity {a b : Mat} {m k k' n : ℕ} (ha : a.Sized m k)
    (hb : b.Sized k' n) (hsa : a.Stored) (hda : a.Defined) (hdb : b.Defined) :
    ((∃ e, a.mul b = .error e ∧ e.kind = .shapeMismatch) ↔ k ≠ k' ∨ m = 0 ∨ n = 0) ∧
    (k = k' → 0 < m → 0 < n → Outcome Error.IsOverflow
      (fun c => c.Sized m n ∧ c.Lowest ∧ c.val m n = a.val m k * b.val k n) (a.mul b)) ∧
    (0 < m → 0 < k →
      (∃ e c, identity k = .ok e ∧ a.mul e = .ok c ∧ c.equals a = true) ∧
      ∃ e c, identity m = .ok e ∧ e.mul a = .ok c ∧ c.equals a = true) := by
  refine ⟨mul_shapeMismatch_iff ha hb hda hdb, ?_, fun hm hk =>
    ⟨mul_identity_right ha hsa hda hm hk, identity_mul ha hsa hda hm hk⟩⟩
  rintro rfl hm hn
  exact mul_lowest_spec ha hb hda hdb hm hn

/-- `[[1, 2], [3, 4]]` and the column `[1/2, -1/3]` meet the hypotheses. -/
theorem mul_shape_entries_identity_two_by_two :
    (⟨2, 2, [[⟨1, 1⟩, ⟨2, 1⟩], [⟨3, 1⟩, ⟨4, 1⟩]]⟩ : Mat).Sized 2 2 ∧
    (⟨2, 1, [[⟨1, 2⟩], [⟨-1, 3⟩]]⟩ : Mat).Sized 2 1 ∧
    (⟨2, 2, [[⟨1, 1⟩, ⟨2, 1⟩], [⟨3, 1⟩, ⟨4, 1⟩]]⟩ : Mat).Stored ∧
    (⟨2, 2, [[⟨1, 1⟩, ⟨2, 1⟩], [⟨3, 1⟩, ⟨4, 1⟩]]⟩ : Mat).Defined ∧
    (⟨2, 1, [[⟨1, 2⟩], [⟨-1, 3⟩]]⟩ : Mat).Defined ∧
    ((∃ e, (⟨2, 2, [[⟨1, 1⟩, ⟨2, 1⟩], [⟨3, 1⟩, ⟨4, 1⟩]]⟩ : Mat).mul
        ⟨2, 1, [[⟨1, 2⟩], [⟨-1, 3⟩]]⟩ = .error e ∧ e.kind = .shapeMismatch) ↔
      2 ≠ 2 ∨ 2 = 0 ∨ 1 = 0) ∧
    (2 = 2 → 0 < 2 → 0 < 1 → Outcome Error.IsOverflow
      (fun c => c.Sized 2 1 ∧ c.Lowest ∧ c.val 2 1 =
        (⟨2, 2, [[⟨1, 1⟩, ⟨2, 1⟩], [⟨3, 1⟩, ⟨4, 1⟩]]⟩ : Mat).val 2 2 *
          (⟨2, 1, [[⟨1, 2⟩], [⟨-1, 3⟩]]⟩ : Mat).val 2 1)
      ((⟨2, 2, [[⟨1, 1⟩, ⟨2, 1⟩], [⟨3, 1⟩, ⟨4, 1⟩]]⟩ : Mat).mul ⟨2, 1, [[⟨1, 2⟩], [⟨-1, 3⟩]]⟩)) ∧
    (0 < 2 → 0 < 2 →
      (∃ e c, identity 2 = .ok e ∧
        (⟨2, 2, [[⟨1, 1⟩, ⟨2, 1⟩], [⟨3, 1⟩, ⟨4, 1⟩]]⟩ : Mat).mul e = .ok c ∧
        c.equals ⟨2, 2, [[⟨1, 1⟩, ⟨2, 1⟩], [⟨3, 1⟩, ⟨4, 1⟩]]⟩ = true) ∧
      ∃ e c, identity 2 = .ok e ∧ e.mul ⟨2, 2, [[⟨1, 1⟩, ⟨2, 1⟩], [⟨3, 1⟩, ⟨4, 1⟩]]⟩ = .ok c ∧
        c.equals ⟨2, 2, [[⟨1, 1⟩, ⟨2, 1⟩], [⟨3, 1⟩, ⟨4, 1⟩]]⟩ = true) :=
  have ha : (⟨2, 2, [[⟨1, 1⟩, ⟨2, 1⟩], [⟨3, 1⟩, ⟨4, 1⟩]]⟩ : Mat).Sized 2 2 := by decide
  have hb : (⟨2, 1, [[⟨1, 2⟩], [⟨-1, 3⟩]]⟩ : Mat).Sized 2 1 := by decide
  have hsa : (⟨2, 2, [[⟨1, 1⟩, ⟨2, 1⟩], [⟨3, 1⟩, ⟨4, 1⟩]]⟩ : Mat).Stored := by decide
  have hda : (⟨2, 2, [[⟨1, 1⟩, ⟨2, 1⟩], [⟨3, 1⟩, ⟨4, 1⟩]]⟩ : Mat).Defined := by decide
  have hdb : (⟨2, 1, [[⟨1, 2⟩], [⟨-1, 3⟩]]⟩ : Mat).Defined := by decide
  ⟨ha, hb, hsa, hda, hdb, mul_shape_entries_identity ha hb hsa hda hdb⟩

/-- A matrix left without rows by `removeRow`, times a matrix as high as it is wide: the inner
sizes agree, yet the product is refused as a shape mismatch, since it would have no row. -/
theorem mul_without_rows_refused :
    ∃ a, (⟨1, 2, [[⟨1, 1⟩, ⟨2, 1⟩]]⟩ : Mat).removeRow 0 = .ok a ∧
      a.cols = (⟨2, 1, [[⟨3, 1⟩], [⟨4, 1⟩]]⟩ : Mat).rows ∧
      a.mul ⟨2, 1, [[⟨3, 1⟩], [⟨4, 1⟩]]⟩ = .error (.invalidSize 0 1) ∧
      (Error.invalidSize 0 1).kind = .shapeMismatch :=
  ⟨⟨0, 2, []⟩, rfl, rfl, rfl, rfl⟩

end Mat

end Frac64
