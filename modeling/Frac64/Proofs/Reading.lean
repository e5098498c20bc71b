import Frac64.Operand
import Frac64.Proofs.Arithmetic
import Mathlib.Data.List.TakeWhile

/-!
# Texts of numbers read back

The library writes an integer in decimal (`toString`) and a fraction as `n` or `n/d`
(`Frac.toText`). Its readers take such a text back to the number it was written from. An
integer numeral read by `Text.readInt` gives the integer. The text of a stored fraction with a
nonzero denominator, read as a value (`Operand.textFrac`), gives the fraction itself, stored
pair and all. Spaces in front of such a text are trimmed away first.

## Main results

* `Text.readInt_toString` — the decimal text of an integer reads back as the integer.
* `Text.trim_replicate_append` — the spaces in front of a text without blanks are trimmed.
* `Operand.textFrac_toText` — the text of a stored, defined fraction reads back as it.
-/

namespace Frac64

namespace Text

/-! ### The characters of a decimal text -/

theorem isDigit_of_mem_toDigits {k : ℕ} {c : Char} (h : c ∈ Nat.toDigits 10 k) :
    c.isDigit = true :=
  Nat.isDigit_of_mem_toDigits (b := 10) (by decide) (by decide) h

/-- Every character of the decimal text of an integer is a digit or a minus sign. -/
theorem mem_toString_int {n : Int} {c : Char} (h : c ∈ (toString n).toList) :
    c.isDigit = true ∨ c = '-' := by
  cases n with
  | ofNat k => exact .inl (isDigit_of_mem_toDigits (by simpa [toString, Int.repr] using h))
  | negSucc k =>
    simp only [toString, Int.repr, String.toList_append, Nat.toList_repr, List.mem_append] at h
    rcases h with h | h
    · exact .inr (by simpa using h)
    · exact .inl (isDigit_of_mem_toDigits h)

/-- A digit or a minus sign is an ASCII character, no blank and no slash. -/
theorem digit_or_minus {c : Char} (h : c.isDigit = true ∨ c = '-') :
    c.toNat < 0x7F ∧ isBlank c = false ∧ c ≠ '/' := by
  rcases h with h | rfl
  · simp only [Char.isDigit, Bool.and_eq_true, decide_eq_true_eq] at h
    have h1 : 48 ≤ c.toNat := h.1
    have h2 : c.toNat ≤ 57 := h.2
    have hsp : c ≠ ' ' := fun hc => by subst hc; simp at h1
    refine ⟨by omega, ?_, fun hc => by subst hc; simp at h1⟩
    simp [isBlank, isAsciiBlank, wideBlanks, hsp]
    omega
  · decide

/-! ### Runs of digits -/

theorem asciiForm_of_lt {s : String} (h : ∀ c ∈ s.toList, c.toNat < 0x7F) :
    asciiForm s = s.toList := by
  unfold asciiForm
  conv_rhs => rw [← List.map_id s.toList]
  exact List.map_congr_left fun c hc => by simp [asciiChar, h c hc]

theorem groupedDigits?_cons_cons {c d : Char} (hc : isAsciiDigit c = true) (hd : d ≠ '_')
    (more : List Char) :
    groupedDigits? (c :: d :: more) = (groupedDigits? (d :: more)).map (asciiDigitValue c :: ·) := by
  rw [groupedDigits?]
  · simp [hc]
  · simp
  · simpa using hd

/-- A nonempty run of ASCII digits is read digit by digit. -/
theorem groupedDigits?_of_digits :
    ∀ {cs : List Char}, cs ≠ [] → (∀ c ∈ cs, c.isDigit = true) →
      groupedDigits? cs = some (cs.map asciiDigitValue)
  | [], h, _ => absurd rfl h
  | [c], _, h => by
    have hc : isAsciiDigit c = true := h c (by simp)
    simp [groupedDigits?, hc]
  | c :: d :: more, _, h => by
    have hd : d.isDigit = true := h d (by simp)
    have hd' : d ≠ '_' := by rintro rfl; simp at hd
    rw [groupedDigits?_cons_cons (h c (by simp)) hd',
      groupedDigits?_of_digits (List.cons_ne_nil d more) fun x hx => h x (by simp [hx])]
    rfl

theorem digitsValue_map (cs : List Char) :
    digitsValue (cs.map asciiDigitValue) = Nat.ofDigitChars 10 cs 0 := by
  simp [digitsValue, Nat.ofDigitChars, List.foldl_map, asciiDigitValue]

/-- The decimal digits of `k`, behind a minus sign when `negative`, read as `k` or `-k`. -/
theorem readInt_of_digits {k : ℕ} (hk : k < 10 ^ maxDigits) (negative : Bool) {s : String}
    (hs : s.toList = (if negative then ['-'] else []) ++ Nat.toDigits 10 k) :
    readInt s = .value (if negative then -(k : Int) else k) := by
  set ds := Nat.toDigits 10 k with hds
  have hdig : ∀ c ∈ ds, c.isDigit = true := fun c hc => isDigit_of_mem_toDigits hc
  obtain ⟨d, rest, hdr⟩ := List.exists_cons_of_ne_nil (show ds ≠ [] from Nat.toDigits_ne_nil)
  have hd : d.isDigit = true := hdig d (by simp [hdr])
  have hlen : ds.length ≤ maxDigits := (Nat.length_toDigits_le_iff (by decide) (by decide)).2 hk
  have hascii : ∀ c ∈ s.toList, c.toNat < 0x7F := by
    intro c hc
    rw [hs, List.mem_append] at hc
    rcases hc with hc | hc
    · split at hc <;> simp_all
    · exact (digit_or_minus (.inl (hdig c hc))).1
  have hnotblank : isAsciiBlank d = false := by
    have := (digit_or_minus (.inl hd)).2.1
    simp only [isBlank, Bool.or_eq_false_iff] at this
    exact this.1.1
  -- a digit is no sign
  have hsign : splitSign ds = (false, ds) := by
    have h1 : d ≠ '+' := by rintro rfl; simp at hd
    have h2 : d ≠ '-' := by rintro rfl; simp at hd
    rw [hdr, splitSign] <;> simpa
  have hrun : ∀ c ∈ ds, (isAsciiDigit c || c == '_') = true := fun c hc => by
    have h : isAsciiDigit c = true := hdig c hc
    simp [h]
  have hbody : ds.takeWhile (fun c => isAsciiDigit c || c == '_') = ds :=
    List.takeWhile_eq_self_iff.2 hrun
  have htail : ds.dropWhile (fun c => isAsciiDigit c || c == '_') = [] :=
    List.dropWhile_eq_nil_iff.2 hrun
  have hgroup := groupedDigits?_of_digits (by simp [hdr]) hdig
  have hval : digitsValue (ds.map asciiDigitValue) = k := by
    rw [digitsValue_map, hds, Nat.ofDigitChars_ten_toDigits]
  unfold readInt
  rw [asciiForm_of_lt hascii, hs]
  cases negative with
  | false =>
    simp only [Bool.false_eq_true, if_false, List.nil_append]
    rw [hdr, List.dropWhile_cons_of_neg (by simp [hnotblank]), ← hdr, hsign]
    simp [hbody, htail, hgroup, hval, not_lt.2 hlen]
  | true =>
    simp only [if_true, List.cons_append, List.nil_append]
    rw [List.dropWhile_cons_of_neg (by decide)]
    simp [splitSign, hbody, htail, hgroup, hval, not_lt.2 hlen]

/-- **The decimal text of an integer reads back as the integer.** -/
theorem readInt_toString {n : Int} (h : n.natAbs < 10 ^ maxDigits) :
    readInt (toString n) = .value n := by
  cases n with
  | ofNat k =>
    have := readInt_of_digits (s := toString (Int.ofNat k)) h false (by simp [toString, Int.repr])
    simpa using this
  | negSucc k =>
    have := readInt_of_digits (s := toString (Int.negSucc k)) h true (by simp [toString, Int.repr])
    rw [this, if_pos rfl]
    rfl

/-- An integer in the 64-bit range has far fewer digits than a numeral may have. -/
theorem natAbs_lt_of_inWordRange {n : Int} (h : InWordRange n) : n.natAbs < 10 ^ maxDigits := by
  obtain ⟨hlo, hhi⟩ := h
  unfold wordMin at hlo
  unfold wordMax at hhi
  calc n.natAbs ≤ 2 ^ 63 := by omega
    _ < 10 ^ 19 := by norm_num
    _ ≤ 10 ^ maxDigits := Nat.pow_le_pow_right (by norm_num) (by decide)

/-! ### Trimming -/

theorem dropBlanks_of_forall {cs : List Char} (h : ∀ c ∈ cs, isBlank c = false) :
    dropBlanks cs = cs := by
  cases cs with
  | nil => rfl
  | cons c cs => exact List.dropWhile_cons_of_neg (by simp [h c List.mem_cons_self])

theorem dropBlanks_replicate_append (k : ℕ) (cs : List Char) :
    dropBlanks (List.replicate k ' ' ++ cs) = dropBlanks cs := by
  induction k with
  | zero => rfl
  | succ k ih =>
    rw [List.replicate_succ, List.cons_append, dropBlanks, List.dropWhile_cons_of_pos (by decide)]
    exact ih

/-- **The spaces in front of a text without blanks are trimmed away.** -/
theorem trim_replicate_append (k : ℕ) {cs : List Char} (h : ∀ c ∈ cs, isBlank c = false) :
    trim (String.ofList (List.replicate k ' ' ++ cs)) = String.ofList cs := by
  unfold trim
  rw [String.toList_ofList, dropBlanks_replicate_append, dropBlanks_of_forall h,
    dropBlanks_of_forall (by simpa using h), List.reverse_reverse]

end Text

namespace Frac

/-- The text of a fraction is written with digits, minus signs and a slash. -/
theorem mem_toText {a : Frac} {c : Char} (h : c ∈ a.toText.toList) :
    c.isDigit = true ∨ c = '-' ∨ c = '/' ∨ a.den = 0 := by
  unfold toText at h
  split_ifs at h with h0 h1
  · exact .inr (.inr (.inr h0))
  · rcases Text.mem_toString_int h with h | h
    · exact .inl h
    · exact .inr (.inl h)
  · simp only [String.toList_append, List.mem_append] at h
    rcases h with (h | h) | h
    · rcases Text.mem_toString_int h with h | h
      · exact .inl h
      · exact .inr (.inl h)
    · exact .inr (.inr (.inl (by simpa using h)))
    · rcases Text.mem_toString_int h with h | h
      · exact .inl h
      · exact .inr (.inl h)

/-- The text of a defined fraction has no blank. -/
theorem not_isBlank_of_mem_toText {a : Frac} (hd : a.den ≠ 0) {c : Char}
    (h : c ∈ a.toText.toList) : Text.isBlank c = false := by
  rcases mem_toText h with h | h | h | h
  · exact (Text.digit_or_minus (.inl h)).2.1
  · exact (Text.digit_or_minus (.inr h)).2.1
  · subst h
    decide
  · exact absurd h hd

end Frac

namespace Operand

/-- **The text of a stored, defined fraction reads back as the fraction**, stored pair and
all: `n` as `n/1`, and `n/d` as `n/d`. -/
theorem textFrac_toText {a : Frac} (ha : a.Stored) (hd : a.den ≠ 0) :
    textFrac a.toText = .ok a := by
  have hnum := Text.readInt_toString (Text.natAbs_lt_of_inWordRange ha.1)
  have hden := Text.readInt_toString (Text.natAbs_lt_of_inWordRange ha.2.1)
  have hnoslash : ∀ n : Int, '/' ∉ (toString n).toList := fun n h =>
    (Text.digit_or_minus (Text.mem_toString_int h)).2.2 rfl
  have htrim : Text.trim a.toText = a.toText := by
    have := Text.trim_replicate_append 0 fun c hc => Frac.not_isBlank_of_mem_toText hd hc
    simpa [String.ofList_toList] using this
  unfold textFrac
  simp only [htrim, String.contains_char_eq]
  by_cases h1 : a.den = 1
  · -- the numerator alone, read as an integer over `1`
    have htext : a.toText = toString a.num := by simp [Frac.toText, h1]
    rw [htext, decide_eq_false (hnoslash a.num)]
    simp only [Bool.false_eq_true, if_false, Text.readInt?, hnum, Frac.ofInt]
    have := Frac.make_of_stored ha
    rwa [h1] at this
  · -- a numerator and a denominator on either side of the one slash
    have htext : a.toText.toList =
        (toString a.num).toList ++ '/' :: (toString a.den).toList := by
      simp [Frac.toText, hd, h1]
    have hsplit : (a.toText.toList.splitOn '/').map String.ofList =
        [toString a.num, toString a.den] := by
      rw [htext, List.splitOn_append_cons_self_of_not_mem (hnoslash a.num),
        List.splitOn_eq_singleton (hnoslash a.den)]
      simp [String.ofList_toList]
    have hslash : '/' ∈ a.toText.toList := by simp [htext]
    simp only [decide_eq_true hslash, if_true, hsplit, readInt, hnum, hden, bind, Except.bind]
    exact Frac.make_of_stored ha

end Operand

end Frac64
