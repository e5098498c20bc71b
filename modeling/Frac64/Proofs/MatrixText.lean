import Frac64.Mat.Text
import Frac64.Proofs.Product
import Frac64.Proofs.Reading

/-!
# The text of a matrix, laid out and read back

`Mat.toText` writes a matrix one line per row: `[`, the padded texts of the row's entries
joined by `, `, then `]` and a line break. Each entry's text (`Frac.toText`, as stored) is
padded on the left with spaces to the longest text of its column. This file shows that the
text has exactly that shape, that all its lines have one length, and that it loses nothing:
cut back at the line breaks and the commas, the fields trimmed of their spaces and read as
values, it gives every stored pair again, except that an entry with a zero denominator,
written `NaN`, comes back as `0/0`.

## Main definitions

* `Mat.lineFields`, `Mat.textFields` — a text cut back into rows of trimmed fields.

## Main results

* `Mat.Sized.textFields_toText` — the fields of the text are the texts of the entries.
* `Mat.Sized.toText_read_back` — the fields read as values give the stored entries back.
* `Mat.toText_aligned_reads_back` — the lines, the fields, their padding, the common line
  length, and the read-back.
-/

namespace Frac64

/-! ### The characters of an entry's text -/

namespace Frac

theorem toString_int_ne_nil (n : Int) : (toString n).toList ≠ [] := by
  cases n <;> simp [toString, Int.repr, Nat.toList_repr, Nat.toDigits_ne_nil]

/-- The text of a fraction is never empty. -/
theorem toText_ne_nil (a : Frac) : a.toText.toList ≠ [] := by
  unfold toText
  split_ifs
  · decide
  · exact toString_int_ne_nil a.num
  · simp

/-- The text of a fraction holds no blank, no comma and no line break. -/
theorem toText_char {a : Frac} {c : Char} (h : c ∈ a.toText.toList) :
    Text.isBlank c = false ∧ c ≠ ',' ∧ c ≠ '\n' := by
  rcases mem_toText h with h' | h' | h' | hd
  · refine ⟨(Text.digit_or_minus (.inl h')).2.1, ?_, ?_⟩ <;> rintro rfl <;> simp at h'
  · subst h'
    decide
  · subst h'
    decide
  · -- an undefined entry is written `NaN`
    have hnan : "NaN".toList = ['N', 'a', 'N'] := rfl
    rw [toText, if_pos hd, hnan] at h
    simp only [List.mem_cons, List.not_mem_nil, or_false] at h
    rcases h with rfl | rfl | rfl <;> decide

end Frac

namespace Operand

/-- The text `NaN` reads as the undefined value `0/0`. -/
theorem textFrac_nan : textFrac "NaN" = .ok ⟨0, 0⟩ := by
  have ht : Text.trim "NaN" = "NaN" := by decide
  have hi : Text.readInt? "NaN" = Option.none := by decide
  have hr : Binary64.read? "NaN" = some .nan := by decide
  have hs : "NaN".contains '/' = false := by simp [String.contains_char_eq]
  simp only [textFrac, ht, hi, hr, hs, Bool.false_eq_true, if_false]
  rfl

/-- The text of a stored fraction reads back as the fraction, stored pair and all, when its
denominator is nonzero, and as `0/0` when it is zero. -/
theorem textFrac_toText_stored {a : Frac} (ha : a.Stored) :
    textFrac a.toText = .ok (if a.den = 0 then ⟨0, 0⟩ else a) := by
  by_cases hd : a.den = 0
  · rw [if_pos hd, Frac.toText, if_pos hd]
    exact textFrac_nan
  · rw [if_neg hd]
    exact textFrac_toText ha hd

end Operand

namespace Mat

/-! ### Column widths -/

section Widths

variable {α : Type} (f : α → ℕ)

/-- A running maximum ends at or above its start and every value it passes. -/
theorem le_foldl_max : ∀ (l : List α) (w₀ : ℕ),
    w₀ ≤ l.foldl (fun w x => max w (f x)) w₀ ∧ ∀ x ∈ l, f x ≤ l.foldl (fun w x => max w (f x)) w₀
  | [], _ => by simp
  | x :: l, w₀ => by
    obtain ⟨h₀, hl⟩ := le_foldl_max l (max w₀ (f x))
    refine ⟨le_trans (le_max_left _ _) h₀, ?_⟩
    rintro y (_ | ⟨_, hy⟩)
    · exact le_trans (le_max_right _ _) h₀
    · exact hl y hy

/-- A running maximum ends at its start or at a value it passes. -/
theorem foldl_max_eq : ∀ (l : List α) (w₀ : ℕ),
    l.foldl (fun w x => max w (f x)) w₀ = w₀ ∨ ∃ x ∈ l, f x = l.foldl (fun w x => max w (f x)) w₀
  | [], _ => by simp
  | x :: l, w₀ => by
    rcases foldl_max_eq l (max w₀ (f x)) with h | ⟨y, hy, h⟩
    · rw [List.foldl_cons, h]
      rcases max_choice w₀ (f x) with h' | h'
      · exact .inl h'
      · exact .inr ⟨x, List.mem_cons_self, h'.symm⟩
    · exact .inr ⟨y, List.mem_cons_of_mem x hy, h⟩

end Widths

theorem length_columnWidths (M : Mat) : M.columnWidths.length = M.cols := by
  simp [columnWidths]

theorem getD_columnWidths {M : Mat} {j : ℕ} (hj : j < M.cols) :
    M.columnWidths.getD j 0 = M.cells.foldl (fun w r => max w (r.getD j Frac.zero).toText.length) 0 := by
  simp [columnWidths, List.getD_eq_getElem?_getD, hj]

section Sized

variable {M : Mat} {m n : ℕ}

/-- No text in a column is longer than the column's width. -/
theorem Sized.length_le_width (hM : M.Sized m n) {i j : ℕ} (hi : i < m) (hj : j < n) :
    (M.entry i j).toText.length ≤ M.columnWidths.getD j 0 := by
  rw [getD_columnWidths (by rw [hM.cols_eq]; exact hj)]
  exact (le_foldl_max (fun r => (r.getD j Frac.zero).toText.length) _ 0).2 _ (hM.mem_row hi)

/-- The width of a column of a matrix with rows is the length of one of its texts. -/
theorem Sized.exists_length_eq_width (hM : M.Sized m n) {j : ℕ} (hm : 0 < m) (hj : j < n) :
    ∃ i < m, (M.entry i j).toText.length = M.columnWidths.getD j 0 := by
  have hw := getD_columnWidths (M := M) (by rw [hM.cols_eq]; exact hj)
  rcases foldl_max_eq (fun r => (r.getD j Frac.zero).toText.length) M.cells 0 with h | ⟨r, hr, h⟩
  · -- the width never left `0`, so the first row's text, no longer than it, is empty too
    refine ⟨0, hm, ?_⟩
    have := hM.length_le_width hm hj
    omega
  · obtain ⟨i, hi, rfl⟩ := List.mem_iff_getElem.1 hr
    refine ⟨i, by rwa [← hM.length_cells], ?_⟩
    rw [hw, ← h, entry, row, List.getD_eq_getElem _ _ hi]

end Sized

/-! ### Padded fields and lines -/

theorem toList_padLeft (w : ℕ) (t : String) :
    (padLeft w t).toList = List.replicate (w - t.length) ' ' ++ t.toList := by
  simp [padLeft]

theorem length_padLeft (w : ℕ) (t : String) : (padLeft w t).length = max w t.length := by
  simp [padLeft]
  omega

/-- The fields of a row padded to the widths, with the texts of its entries. -/
theorem getD_padded {w : List ℕ} {r : List Frac} {j : ℕ} (hr : j < r.length) (hw : j < w.length) :
    ((r.zip w).map fun (a, w) => padLeft w a.toText).getD j "" =
      padLeft (w.getD j 0) (r.getD j Frac.zero).toText := by
  simp [List.getD_eq_getElem?_getD, hr, hw]

/-- Padded to widths that no text of the row exceeds, the fields are exactly as long as the
widths. -/
theorem map_length_padded {w : List ℕ} {r : List Frac} (hr : r.length = w.length)
    (hw : ∀ j < r.length, (r.getD j Frac.zero).toText.length ≤ w.getD j 0) :
    ((r.zip w).map fun (a, w) => padLeft w a.toText).map String.length = w := by
  apply List.ext_getElem (by simp [hr])
  intro j h₁ h₂
  have hj : j < r.length := (by simpa using h₁ : j < r.length ∧ j < w.length).1
  have := hw j hj
  simp only [List.getD_eq_getElem?_getD, List.getElem?_eq_getElem hj,
    List.getElem?_eq_getElem h₂, Option.getD_some] at this
  simp [length_padLeft, this]

theorem length_intercalate (s : String) :
    ∀ fs : List String, (s.intercalate fs).length = (fs.map String.length).sum + s.length * (fs.length - 1)
  | [] => by simp
  | [f] => by simp
  | f :: g :: fs => by
    rw [String.intercalate_cons_cons, String.length_append, String.length_append,
      length_intercalate s (g :: fs)]
    simp [Nat.mul_succ]
    omega

/-- A line's length depends only on the column widths, once no text of its row exceeds
them. -/
theorem length_rowLine {w : List ℕ} {r : List Frac} (hr : r.length = w.length)
    (hw : ∀ j < r.length, (r.getD j Frac.zero).toText.length ≤ w.getD j 0) :
    (rowLine w r).length = w.sum + 2 * (w.length - 1) + 3 := by
  have hpad := map_length_padded hr hw
  have hlen : ((r.zip w).map fun (a, w) => padLeft w a.toText).length = w.length := by
    simpa using congrArg List.length hpad
  have h₁ : "[".length = 1 := by decide
  have h₂ : ", ".length = 2 := by decide
  have h₃ : "]\n".length = 2 := by decide
  simp only [rowLine, String.length_append, length_intercalate, hpad, hlen, h₁, h₂, h₃]
  omega

section Sized

variable {M : Mat} {m n : ℕ}

theorem Sized.getD_lines (hM : M.Sized m n) {i : ℕ} (hi : i < m) :
    (M.cells.map (rowLine M.columnWidths)).getD i "" = rowLine M.columnWidths (M.row i) := by
  have hi' : i < M.cells.length := by rw [hM.length_cells]; exact hi
  simp [List.getD_eq_getElem?_getD, hi', row]

/-- Every line of the text of a matrix is as long as the column widths make it. -/
theorem Sized.length_line (hM : M.Sized m n) {r : List Frac} (hr : r ∈ M.cells) :
    (rowLine M.columnWidths r).length =
      M.columnWidths.sum + 2 * (M.columnWidths.length - 1) + 3 := by
  obtain ⟨i, hi, rfl⟩ := List.mem_iff_getElem.1 hr
  have him : i < m := by rwa [← hM.length_cells]
  have hrow : M.cells[i] = M.row i := by rw [row, List.getD_eq_getElem _ _ hi]
  have hn : (M.row i).length = n := hM.length_row i him
  refine length_rowLine (by rw [hrow, hn, length_columnWidths, hM.cols_eq]) fun j hj => ?_
  rw [hrow, hn] at hj
  rw [hrow]
  exact hM.length_le_width him hj

end Sized

/-! ### Cutting the text back into fields -/

/-- The fields of one line of a matrix's text, its line break cut off: what stands between
the brackets, cut at each comma, each piece trimmed of its blanks. A line with nothing between
its brackets has no field. -/
def lineFields (line : List Char) : List String :=
  let body := (line.drop 1).dropLast
  if body = [] then [] else (body.splitOn ',').map fun f => Text.trim (String.ofList f)

/-- A text cut back into rows of fields, one row for each line break. -/
def textFields (s : String) : List (List String) :=
  (s.toList.splitOn '\n').dropLast.map lineFields

/-- A two-character separator is its first character with the second in front of every later
piece. -/
theorem intercalate_pair (x y : Char) :
    ∀ (f : List Char) (fs : List (List Char)),
      [x, y].intercalate (f :: fs) = [x].intercalate (f :: fs.map (y :: ·))
  | f, [] => by simp
  | f, g :: gs => by
    rw [List.intercalate_cons_cons, intercalate_pair x y g gs, List.map_cons,
      List.intercalate_cons_cons, List.intercalate_cons_cons_left]
    simp

theorem forall_mem_intercalate {p : Char → Prop} {sep : List Char} (hs : ∀ c ∈ sep, p c) :
    ∀ {ls : List (List Char)}, (∀ l ∈ ls, ∀ c ∈ l, p c) → ∀ c ∈ sep.intercalate ls, p c
  | [], _ => by simp
  | [l], h => by simpa using h
  | l :: l' :: ls, h => by
    rw [List.intercalate_cons_cons]
    intro c hc
    simp only [List.mem_append] at hc
    rcases hc with (hc | hc) | hc
    · exact h l List.mem_cons_self c hc
    · exact hs c hc
    · exact forall_mem_intercalate hs (fun l hl => h l (List.mem_cons_of_mem _ hl)) c hc

/-- A padded field holds spaces and the characters of the entry's text. -/
theorem mem_padLeft {w : ℕ} {a : Frac} {c : Char} (h : c ∈ (padLeft w a.toText).toList) :
    c = ' ' ∨ c ∈ a.toText.toList := by
  rw [toList_padLeft, List.mem_append] at h
  exact h.imp_left List.eq_of_mem_replicate

/-- **The spaces in front of a padded field are trimmed away**, however many stand there. -/
theorem trim_padLeft (k w : ℕ) (a : Frac) :
    Text.trim (String.ofList (List.replicate k ' ' ++ (padLeft w a.toText).toList)) = a.toText := by
  rw [toList_padLeft, ← List.append_assoc, List.replicate_append_replicate,
    Text.trim_replicate_append _ fun c hc => (Frac.toText_char hc).1, String.ofList_toList]

/-- The characters of a line of the text of a matrix, its brackets around the padded fields
joined by `, `, then a line break. -/
theorem toList_rowLine (w : List ℕ) (r : List Frac) :
    (rowLine w r).toList = ('[' :: [',', ' '].intercalate
      (((r.zip w).map fun (a, w) => padLeft w a.toText).map String.toList) ++ [']']) ++ ['\n'] := by
  simp [rowLine, String.toList_intercalate]

/-- A padded field holds no comma and no line break. -/
theorem padLeft_char {w : ℕ} {a : Frac} {c : Char} (h : c ∈ (padLeft w a.toText).toList) :
    c ≠ ',' ∧ c ≠ '\n' := by
  rcases mem_padLeft h with rfl | h
  · decide
  · exact (Frac.toText_char h).2

/-- Fields without commas joined by `, ` are cut apart at the commas again, each but the first
behind the space of the separator. -/
theorem splitOn_comma_space {f : List Char} {fs : List (List Char)} (hf : ',' ∉ f)
    (hfs : ∀ g ∈ fs, ',' ∉ g) :
    ([',', ' '].intercalate (f :: fs)).splitOn ',' = f :: fs.map (' ' :: ·) := by
  rw [intercalate_pair]
  refine List.splitOn_intercalate ',' ?_ (List.cons_ne_nil _ _)
  rintro l (_ | ⟨_, hl⟩)
  · exact hf
  · obtain ⟨g, hg, rfl⟩ := List.mem_map.1 hl
    simp only [List.mem_cons, not_or]
    exact ⟨by decide, hfs g hg⟩

/-- Every character of a padded field of a row satisfies what every space and every
character of an entry's text does. -/
theorem forall_mem_padded {p : Char → Prop} (hp : p ' ') (ht : ∀ (a : Frac), ∀ c ∈ a.toText.toList, p c)
    {w : List ℕ} {r : List Frac} :
    ∀ l ∈ ((r.zip w).map fun (a, w) => padLeft w a.toText).map String.toList, ∀ c ∈ l, p c := by
  intro l hl c hc
  obtain ⟨_, hf, rfl⟩ := List.mem_map.1 hl
  obtain ⟨⟨a, x⟩, -, rfl⟩ := List.mem_map.1 hf
  rcases mem_padLeft hc with rfl | hc
  · exact hp
  · exact ht a c hc

/-- **The fields of a line are the texts of its row's entries.** -/
theorem lineFields_row {w : List ℕ} :
    ∀ {r : List Frac}, r.length ≤ w.length →
      lineFields ('[' :: [',', ' '].intercalate
        (((r.zip w).map fun (a, w) => padLeft w a.toText).map String.toList) ++ [']']) =
        r.map Frac.toText := by
  intro r hr
  cases r with
  | nil => simp [lineFields]
  | cons a as =>
    obtain ⟨x, ws, rfl⟩ := List.exists_cons_of_length_pos (by simp at hr ⊢; omega : 0 < w.length)
    have hlen : as.length ≤ ws.length := by simpa using hr
    simp only [List.zip_cons_cons, List.map_cons]
    set pads := ((as.zip ws).map fun (a, w) => padLeft w a.toText).map String.toList
    have hpad : (padLeft x a.toText).toList ≠ [] := by
      rw [toList_padLeft]
      exact List.append_ne_nil_of_right_ne_nil _ (Frac.toText_ne_nil a)
    have hsplit : ([',', ' '].intercalate ((padLeft x a.toText).toList :: pads)).splitOn ',' =
        (padLeft x a.toText).toList :: pads.map (' ' :: ·) :=
      splitOn_comma_space (fun h => (padLeft_char h).1 rfl) fun l hl h =>
        forall_mem_padded (p := (· ≠ ',')) (by decide) (fun _ _ hc => (Frac.toText_char hc).2.1)
          l hl ',' h rfl
    -- the first field is not empty, so neither is what stands between the brackets
    have hne : [',', ' '].intercalate ((padLeft x a.toText).toList :: pads) ≠ [] := by
      intro h
      rw [h, List.splitOn_nil, List.cons.injEq] at hsplit
      exact hpad hsplit.1.symm
    simp only [lineFields, List.cons_append, List.drop_one, List.tail_cons, List.dropLast_concat,
      if_neg hne, hsplit, List.map_cons, List.map_map]
    refine List.cons_eq_cons.2 ⟨?_, ?_⟩
    · simpa using trim_padLeft 0 x a
    · conv_rhs => rw [← List.map_fst_zip hlen, List.map_map]
      simp only [pads, List.map_map]
      refine List.map_congr_left fun p _ => ?_
      obtain ⟨b, y⟩ := p
      exact trim_padLeft 1 y b

/-- A line holds no line break before its last character. -/
theorem break_not_mem_line (w : List ℕ) (r : List Frac) :
    '\n' ∉ '[' :: [',', ' '].intercalate
      (((r.zip w).map fun (a, w) => padLeft w a.toText).map String.toList) ++ [']'] := by
  intro h
  simp only [List.cons_append, List.mem_cons, List.mem_append] at h
  rcases h with h | h | h
  · exact absurd h (by decide)
  · exact forall_mem_intercalate (p := (· ≠ '\n')) (by simp)
      (forall_mem_padded (p := (· ≠ '\n')) (by decide) fun _ _ hc => (Frac.toText_char hc).2.2)
      '\n' h rfl
  · simp at h

/-- **The lines of rows, cut at the line breaks and the commas, give the texts of the rows'
entries.** The induction runs over the rows; each line is cut off at its own line break. -/
theorem fields_join_rowLine {w : List ℕ} :
    ∀ {rs : List (List Frac)}, (∀ r ∈ rs, r.length ≤ w.length) →
      ((String.join (rs.map (rowLine w))).toList.splitOn '\n').dropLast.map lineFields =
        rs.map (·.map Frac.toText)
  | [], _ => by simp
  | r :: rs, h => by
    rw [List.map_cons, String.join_cons, String.toList_append, toList_rowLine, List.append_assoc,
      List.singleton_append, List.splitOn_append_cons_self_of_not_mem (break_not_mem_line w r),
      List.dropLast_cons_of_ne_nil (List.splitOn_ne_nil _ _), List.map_cons,
      lineFields_row (h r List.mem_cons_self),
      fields_join_rowLine fun r' hr' => h r' (List.mem_cons_of_mem r hr'), List.map_cons]

/-- **The fields of the text of a matrix are the texts of its entries**, row by row. -/
theorem Sized.textFields_toText {M : Mat} {m n : ℕ} (hM : M.Sized m n) :
    textFields M.toText = M.cells.map (·.map Frac.toText) :=
  fields_join_rowLine fun r hr => by
    rw [length_columnWidths, hM.wellFormed.2 r hr]

/-! ### Reading the fields back -/

theorem mapM_of_ok {α β : Type} {f : α → Except Error β} {g : α → β} :
    ∀ {l : List α}, (∀ x ∈ l, f x = .ok (g x)) → l.mapM f = .ok (l.map g)
  | [], _ => rfl
  | x :: l, h => by
    rw [List.mapM_cons, h x List.mem_cons_self, mapM_of_ok fun y hy => h y (List.mem_cons_of_mem x hy)]
    rfl

/-- **The text of a matrix reads back as its stored entries.** Each field, read as a value,
gives the stored pair of its entry; an entry with a zero denominator is written `NaN` and comes
back as `0/0`. -/
theorem Sized.toText_read_back {M : Mat} {m n : ℕ} (hM : M.Sized m n) (hs : M.Stored) :
    (textFields M.toText).mapM (·.mapM fun f => (Operand.text f).toFrac) =
      .ok (M.cells.map (·.map fun a => if a.den = 0 then ⟨0, 0⟩ else a)) := by
  rw [hM.textFields_toText, List.mapM_map]
  refine mapM_of_ok fun r hr => ?_
  rw [Function.comp_apply, List.mapM_map]
  refine mapM_of_ok fun a ha => ?_
  rw [Function.comp_apply, Operand.toFrac]
  exact Operand.textFrac_toText_stored (hs r hr a ha)

section Sized

variable {M : Mat} {m n : ℕ}

/-- **The text of a matrix is aligned and loses nothing.** It is one line per row: `[`, the
fields joined by `, `, `]` and a line break, field `j` being the entry's text padded on the left
with spaces to the longest text of column `j`, so that all lines have one length. Cut back into
fields and read as values, it gives the stored entries again, `0/0` for an entry with a zero
denominator. -/
theorem toText_aligned_reads_back (hM : M.Sized m n) :
    (∃ lines : List String, M.toText = String.join lines ∧ lines.length = m ∧
      (∀ i < m, ∃ fields : List String,
        lines.getD i "" = "[" ++ ", ".intercalate fields ++ "]\n" ∧ fields.length = n ∧
        ∀ j < n,
          (∃ k, fields.getD j "" = String.ofList (List.replicate k ' ') ++ (M.entry i j).toText) ∧
          (∀ i' < m, (M.entry i' j).toText.length ≤ (fields.getD j "").length) ∧
          ∃ i' < m, (M.entry i' j).toText.length = (fields.getD j "").length) ∧
      ∀ l ∈ lines, ∀ l' ∈ lines, l.length = l'.length) ∧
    (M.Stored → (textFields M.toText).mapM (·.mapM fun f => (Operand.text f).toFrac) =
      .ok (M.cells.map (·.map fun a => if a.den = 0 then ⟨0, 0⟩ else a))) := by
  refine ⟨?_, hM.toText_read_back⟩
  refine ⟨M.cells.map (rowLine M.columnWidths), rfl, by simp [hM.length_cells], fun i hi => ?_, ?_⟩
  · have hn : (M.row i).length = n := hM.length_row i hi
    have hw : M.columnWidths.length = n := by rw [length_columnWidths, hM.cols_eq]
    refine ⟨((M.row i).zip M.columnWidths).map fun (a, w) => padLeft w a.toText, ?_, ?_, fun j hj => ?_⟩
    · exact hM.getD_lines hi
    · simp [hn, hw]
    have hfield : (((M.row i).zip M.columnWidths).map fun (a, w) => padLeft w a.toText).getD j "" =
        padLeft (M.columnWidths.getD j 0) (M.entry i j).toText :=
      getD_padded (by rw [hn]; exact hj) (by rw [hw]; exact hj)
    rw [hfield]
    -- the padded field is exactly as long as its column's width
    have hlen : (padLeft (M.columnWidths.getD j 0) (M.entry i j).toText).length =
        M.columnWidths.getD j 0 := by
      rw [length_padLeft, max_eq_left (hM.length_le_width hi hj)]
    refine ⟨⟨_, rfl⟩, fun i' hi' => ?_, ?_⟩
    · rw [hlen]
      exact hM.length_le_width hi' hj
    · rw [hlen]
      exact hM.exists_length_eq_width (by omega) hj
  · intro l hl l' hl'
    obtain ⟨r, hr, rfl⟩ := List.mem_map.1 hl
    obtain ⟨r', hr', rfl⟩ := List.mem_map.1 hl'
    rw [hM.length_line hr, hM.length_line hr']

end Sized

theorem toText_aligned_reads_back_two_by_two :
    (⟨2, 2, [[⟨1, 1⟩, ⟨-10, 1⟩], [⟨1, 2⟩, ⟨3, 1⟩]]⟩ : Mat).Sized 2 2 ∧
    (⟨2, 2, [[⟨1, 1⟩, ⟨-10, 1⟩], [⟨1, 2⟩, ⟨3, 1⟩]]⟩ : Mat).Stored ∧
    (textFields (⟨2, 2, [[⟨1, 1⟩, ⟨-10, 1⟩], [⟨1, 2⟩, ⟨3, 1⟩]]⟩ : Mat).toText).mapM
      (·.mapM fun f => (Operand.text f).toFrac) = .ok [[⟨1, 1⟩, ⟨-10, 1⟩], [⟨1, 2⟩, ⟨3, 1⟩]] :=
  have hM : (⟨2, 2, [[⟨1, 1⟩, ⟨-10, 1⟩], [⟨1, 2⟩, ⟨3, 1⟩]]⟩ : Mat).Sized 2 2 := by decide
  have hs : (⟨2, 2, [[⟨1, 1⟩, ⟨-10, 1⟩], [⟨1, 2⟩, ⟨3, 1⟩]]⟩ : Mat).Stored := by decide
  ⟨hM, hs, by simpa using (toText_aligned_reads_back hM).2 hs⟩

end Mat

end Frac64
