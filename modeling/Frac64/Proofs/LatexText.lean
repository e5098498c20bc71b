import Frac64.Latex
import Frac64.Proofs.Reading
import Mathlib.Data.List.GetD

/-!
# A polynomial written in LaTeX, read back

`Latex.render` writes a polynomial as `f\left(x\right)=…`: the nonzero coefficients in lowest
terms, lowest power first, each as a sign, a magnitude (an integer or `\frac{n}{d}`), the
variable and its power. This file shows that for a variable named by one ASCII letter the
right-hand side loses nothing: a reader (`Latex.readTerms`) takes it back to the powers and
coefficients in lowest terms. So two lists of defined coefficients are written alike exactly
when they agree in value at every power, a missing entry counting as zero. A coefficient with a
zero denominator is what stops the rendering, and the error is an invalid operation.

## Main definitions

* `Latex.nonzeroTerms` — the nonzero coefficients in lowest terms, with their powers.
* `Latex.signedTerm`, `Latex.writtenTerms` — the texts of such terms.
* `Latex.readNat`, `Latex.readMagnitude`, `Latex.readPower`, `Latex.readBody`,
  `Latex.readTerms` — the reader.

## Main results

* `Latex.terms_outcome` — the terms are the written nonzero terms, or the rendering stops at a
  zero denominator.
* `Latex.readTerms_written` — the reader takes the written terms back.
* `Latex.nonzeroTerms_eq_iff` — two coefficient lists have the same nonzero terms exactly when
  they agree in value at every power.
* `Latex.render_eq_iff_values_agree` — renderings agree exactly when the values do, and the
  rendering fails exactly at a zero denominator.
-/

namespace Frac64

namespace Frac

@[simp] theorem isZero_reduce (a : Frac) : a.reduce.isZero = a.isZero := by
  simp [isZero]

end Frac

namespace Latex

/-! ### The terms of the nonzero coefficients -/

/-- The nonzero coefficients in lowest terms, each with its power, the powers counted from
`k`. -/
def nonzeroTerms : ℕ → List Frac → List (ℕ × Frac)
  | _, [] => []
  | k, a :: as => if a.isZero then nonzeroTerms (k + 1) as else (k, a.reduce) :: nonzeroTerms (k + 1) as

theorem nonzeroTerms_cons (k : ℕ) (a : Frac) (as : List Frac) :
    nonzeroTerms k (a :: as) =
      if a.isZero then nonzeroTerms (k + 1) as else (k, a.reduce) :: nonzeroTerms (k + 1) as := rfl

/-- The written term of a coefficient in lowest terms with its power: a minus sign for a
negative one, a plus sign for a positive one unless it comes first. -/
def signedTerm (var : String) (first : Bool) (t : ℕ × Frac) : String :=
  if t.2.num < 0 then "-" ++ body var t.1 t.2
  else if first then body var t.1 t.2 else "+" ++ body var t.1 t.2

/-- The written terms, only the first of them allowed to drop its plus sign. -/
def writtenTerms (var : String) : Bool → List (ℕ × Frac) → List String
  | _, [] => []
  | first, t :: ts => signedTerm var first t :: writtenTerms var false ts

/-- A map over a list that succeeds gives each element's result. -/
theorem forall₂_of_mapM {α β : Type} {f : α → Except Error β} {l : List α} {bs : List β}
    (h : l.mapM f = .ok bs) : List.Forall₂ (fun x b => f x = .ok b) l bs :=
  (@Outcome.mapM α β (fun _ => True) (fun x b => f x = .ok b) f l fun x _ => by
    cases f x with
    | error e => trivial
    | ok b => rfl).of_ok h

/-- The term of a converted coefficient: nothing for a zero, the written term otherwise, and
an error for a zero denominator. -/
theorem term?_of_toFrac {var : String} {first : Bool} {k : ℕ} {c : Operand} {a : Frac}
    (h : c.toFrac = .ok a) :
    term? var first k c = if a.den = 0 then .error (.undefinedCoefficient k)
      else .ok (if a.isZero then none else some (signedTerm var first (k, a.reduce))) := by
  by_cases hd : a.den = 0
  · simp [term?, h, Frac.isNaN, hd, bind, Except.bind, throw, throwThe, MonadExceptOf.throw]
  · by_cases hz : a.isZero
    · simp [term?, h, Frac.isNaN, hd, hz, bind, Except.bind, pure, Except.pure]
    · simp [term?, h, Frac.isNaN, hd, hz, signedTerm, bind, Except.bind, pure, Except.pure]
      split_ifs <;> rfl

/-- **The terms of converted coefficients.** Either every coefficient has a nonzero
denominator and the terms are the written nonzero terms, or the rendering stops, with an invalid
operation, at a coefficient with a zero denominator. The induction runs over the coefficients,
the flag of the first term and the power carried along. -/
theorem terms_outcome (var : String) {cs : List Operand} {as : List Frac}
    (h : List.Forall₂ (fun c a => c.toFrac = .ok a) cs as) (first : Bool) (k : ℕ) :
    Outcome (fun e => e.kind = .invalidOperation ∧ ∃ a ∈ as, a.den = 0)
      (fun ts => (∀ a ∈ as, a.den ≠ 0) ∧ ts = writtenTerms var first (nonzeroTerms k as))
      (terms var first k cs) := by
  induction h generalizing first k with
  | nil => exact ⟨by simp, rfl⟩
  | @cons c a cs as hc _ ih =>
    have hbad : ∀ e : Error, e.kind = .invalidOperation ∧ (∃ a' ∈ as, a'.den = 0) →
        e.kind = .invalidOperation ∧ ∃ a' ∈ a :: as, a'.den = 0 :=
      fun e ⟨hk, a', ha', hd'⟩ => ⟨hk, a', List.mem_cons_of_mem a ha', hd'⟩
    rw [terms, term?_of_toFrac hc]
    by_cases hd : a.den = 0
    · -- the coefficient cannot be written
      rw [if_pos hd]
      exact ⟨rfl, a, List.mem_cons_self, hd⟩
    rw [if_neg hd]
    by_cases hz : a.isZero
    · -- a zero coefficient is left out, and the first term is still to come
      rw [if_pos hz]
      refine Outcome.ok_bind.2 ((ih first (k + 1)).mono hbad ?_)
      rintro ts ⟨hall, rfl⟩
      exact ⟨List.forall_mem_cons.2 ⟨hd, hall⟩, by simp [nonzeroTerms_cons, hz]⟩
    · rw [if_neg hz]
      refine Outcome.ok_bind.2 (((ih false (k + 1)).mono hbad fun _ h => h).bind
        fun ts ⟨hall, hts⟩ => ?_)
      exact ⟨List.forall_mem_cons.2 ⟨hd, hall⟩, by simp [nonzeroTerms_cons, hz, writtenTerms, hts]⟩

/-! ### Reading a written polynomial back -/

/-- The number written in decimal at the front of a text, and what follows its digits. -/
def readNat (cs : List Char) : ℕ × List Char :=
  (Nat.ofDigitChars 10 (cs.takeWhile Char.isDigit) 0, cs.dropWhile Char.isDigit)

/-- The magnitude at the front of a term, read back: numerator, denominator, and what follows.
`\frac{n}{d}` is a fraction, a run of digits an integer, and no digit at all the magnitude `1`
left out before the variable. -/
def readMagnitude (cs : List Char) : ℕ × ℕ × List Char :=
  if cs.head? = some '\\' then
    let n := readNat (cs.drop 6)
    let d := readNat (n.2.drop 2)
    (n.1, d.1, d.2.drop 1)
  else if cs.takeWhile Char.isDigit = [] then (1, 1, cs)
  else ((readNat cs).1, 1, (readNat cs).2)

/-- The power written after the magnitude: nothing for `0`, the variable alone for `1`, and
the variable with `^k` for `k`. -/
def readPower : List Char → ℕ
  | [] => 0
  | [_] => 1
  | _ :: _ :: ds => (readNat ds).1

/-- A term without its sign read back: its power, the magnitude of its numerator and its
denominator. -/
def readBody (cs : List Char) : ℕ × ℕ × ℕ :=
  let m := readMagnitude cs
  (readPower m.2.2, m.1, m.2.1)

/-- Whether a character is a sign. -/
def isSign (c : Char) : Bool := c == '+' || c == '-'

/-- A term read back from its sign and its body. -/
def readTerm (negative : Bool) (b : List Char) : ℕ × Frac :=
  let r := readBody b
  (r.1, ⟨if negative then -(r.2.1 : Int) else r.2.1, r.2.2⟩)

/-- The right-hand side of a written polynomial read back: cut before each sign, what stands
before the first sign a positive first term when there is any, every part read as a term, and
zero terms (the written `0`) left out. -/
def readTerms (cs : List Char) : List (ℕ × Frac) :=
  let parts := match cs.splitOnP isSign with
    | [] => []
    | pre :: bodies =>
      (if pre = [] then [] else [readTerm false pre]) ++
        ((cs.filter isSign).zip bodies).map fun (p : Char × List Char) => readTerm (p.1 == '-') p.2
  parts.filter fun t => t.2.num != 0

/-! ### Numerals -/

/-- What follows a numeral does not start with a digit. -/
def NoDigitHead (rest : List Char) : Prop := ∀ c ∈ rest.head?, c.isDigit = false

theorem noDigitHead_nil : NoDigitHead [] := by
  simp [NoDigitHead]

theorem noDigitHead_cons {c : Char} (hc : c.isDigit = false) (rest : List Char) :
    NoDigitHead (c :: rest) := by
  simpa [NoDigitHead] using hc

/-- **A numeral reads back as its number**, when no digit follows it. -/
theorem readNat_toDigits (n : ℕ) {rest : List Char} (h : NoDigitHead rest) :
    readNat (Nat.toDigits 10 n ++ rest) = (n, rest) := by
  have hd : ∀ c ∈ Nat.toDigits 10 n, c.isDigit = true := fun c hc => Text.isDigit_of_mem_toDigits hc
  have ht : rest.takeWhile Char.isDigit = [] ∧ rest.dropWhile Char.isDigit = rest := by
    cases rest with
    | nil => exact ⟨rfl, rfl⟩
    | cons c r =>
      have hc : c.isDigit = false := h c rfl
      simp [hc]
  simp [readNat, List.takeWhile_append_of_pos hd, List.dropWhile_append_of_pos hd, ht,
    Nat.ofDigitChars_ten_toDigits]

theorem toList_toString_nat (n : ℕ) : (toString n).toList = Nat.toDigits 10 n := by
  simp [toString, Nat.toList_repr]

theorem toList_toString_of_nonneg {d : Int} (h : 0 ≤ d) :
    (toString d).toList = Nat.toDigits 10 d.toNat := by
  obtain ⟨n, rfl⟩ := Int.eq_ofNat_of_zero_le h
  simp [toString, Int.repr, Nat.toList_repr]

theorem exists_toDigits_cons (n : ℕ) : ∃ d ds, Nat.toDigits 10 n = d :: ds ∧ d.isDigit = true := by
  obtain ⟨d, ds, h⟩ := List.exists_cons_of_ne_nil (Nat.toDigits_ne_nil (n := n) (b := 10))
  exact ⟨d, ds, h, Text.isDigit_of_mem_toDigits (by rw [h]; exact List.mem_cons_self)⟩

/-! ### Magnitudes and bodies -/

theorem toList_magnitude (a : Frac) (hd : 0 < a.den) :
    (magnitude a).toList = if a.den = 1 then Nat.toDigits 10 a.num.natAbs
      else ['\\', 'f', 'r', 'a', 'c', '\x7b'] ++ Nat.toDigits 10 a.num.natAbs ++ '\x7d' :: '\x7b' ::
        (Nat.toDigits 10 a.den.toNat ++ ['\x7d']) := by
  unfold magnitude
  split_ifs
  · exact toList_toString_nat _
  · have h₁ : "\\frac\x7b".toList = ['\\', 'f', 'r', 'a', 'c', '\x7b'] := rfl
    have h₂ : "\x7d\x7b".toList = ['\x7d', '\x7b'] := rfl
    have h₃ : "\x7d".toList = ['\x7d'] := rfl
    simp only [String.toList_append, toList_toString_nat, toList_toString_of_nonneg hd.le, h₁, h₂,
      h₃, List.append_assoc, List.cons_append, List.nil_append]

/-- **The magnitude of a coefficient reads back** as the numerator's magnitude and the
denominator, when no digit follows it. -/
theorem readMagnitude_magnitude {a : Frac} (hd : 0 < a.den) {rest : List Char}
    (h : NoDigitHead rest) :
    readMagnitude ((magnitude a).toList ++ rest) = (a.num.natAbs, a.den.toNat, rest) := by
  rw [toList_magnitude a hd]
  split_ifs with h1
  · -- an integer: a run of digits, not a backslash
    obtain ⟨d, ds, hds, hdig⟩ := exists_toDigits_cons a.num.natAbs
    have hback : d ≠ '\\' := by
      rintro rfl
      simp at hdig
    have hrun : (Nat.toDigits 10 a.num.natAbs ++ rest).takeWhile Char.isDigit ≠ [] := by
      rw [hds]
      simp [hdig]
    have hhead : (Nat.toDigits 10 a.num.natAbs ++ rest).head? ≠ some '\\' := by
      rw [hds]
      simpa using hback
    rw [readMagnitude, if_neg hhead, if_neg hrun, readNat_toDigits _ h, h1]
    rfl
  · -- a fraction: the numerator after the opening, the denominator after the middle braces
    have hnum := readNat_toDigits a.num.natAbs
      (noDigitHead_cons (c := '\x7d') (by decide) ('\x7b' :: (Nat.toDigits 10 a.den.toNat ++ '\x7d' :: rest)))
    have hden := readNat_toDigits a.den.toNat (noDigitHead_cons (c := '\x7d') (by decide) rest)
    simp [readMagnitude, hnum, hden]

/-- An ASCII letter is no digit, no backslash and no sign. -/
theorem letter_facts {v : Char} (hv : v.isAlpha = true) :
    v.isDigit = false ∧ v ≠ '\\' ∧ isSign v = false := by
  -- the letters are the codes 65 to 90 and 97 to 122
  have hr : (65 ≤ v.toNat ∧ v.toNat ≤ 90) ∨ (97 ≤ v.toNat ∧ v.toNat ≤ 122) := by
    have h : (decide (v.val ≥ 'A'.val ∧ v.val ≤ 'Z'.val) ||
        (decide (v.val ≥ 'a'.val) && decide (v.val ≤ 'z'.val))) = true := hv
    simp only [Bool.or_eq_true, Bool.and_eq_true, decide_eq_true_eq] at h
    exact h
  refine ⟨?_, ?_, ?_⟩
  · by_contra hc
    simp only [Bool.not_eq_false, Char.isDigit, Bool.and_eq_true, decide_eq_true_eq] at hc
    have h1 : 48 ≤ v.toNat := hc.1
    have h2 : v.toNat ≤ 57 := hc.2
    omega
  · rintro rfl
    simp at hr
  · simp only [isSign, Bool.or_eq_false_iff, beq_eq_false_iff_ne]
    constructor <;> rintro rfl <;> simp at hr

theorem subscripted_singleton (v : Char) : subscripted (String.singleton v) = String.singleton v := by
  simp [subscripted, String.toList_singleton]

/-- A magnitude written `1` is the integer `1`. -/
theorem magnitude_eq_one {a : Frac} (hd : 0 < a.den) (h : magnitude a = "1") :
    a.num.natAbs = 1 ∧ a.den.toNat = 1 := by
  have hread := readMagnitude_magnitude hd noDigitHead_nil
  have hone : readMagnitude ("1".toList ++ []) = (1, 1, []) := rfl
  rw [h, hone] at hread
  simp only [Prod.mk.injEq] at hread
  exact ⟨hread.1.symm, hread.2.1.symm⟩

theorem toList_body_zero (var : String) (a : Frac) : (body var 0 a).toList = (magnitude a).toList := by
  simp [body]

/-- The characters of a term's body with the variable: the magnitude unless it is `1`, the
variable, and the power when it is above `1`. -/
theorem toList_body (v : Char) (a : Frac) {k : ℕ} (hk : k ≠ 0) :
    (body (String.singleton v) k a).toList =
      (if magnitude a = "1" then [] else (magnitude a).toList) ++
        v :: (if 1 < k then '^' :: Nat.toDigits 10 k else []) := by
  unfold body
  rw [subscripted_singleton, if_neg hk]
  by_cases hk1 : 1 < k <;> by_cases hm : magnitude a = "1" <;> simp [hk1, hm]

/-- **The body of a term reads back** as its power, the magnitude of its numerator and its
denominator. The cases follow the body: a constant is its magnitude alone; otherwise the
magnitude, unless it is `1`, the variable, and a power above `1`. -/
theorem readBody_body {v : Char} (hv : v.isAlpha = true) {a : Frac} (hd : 0 < a.den) (k : ℕ) :
    readBody (body (String.singleton v) k a).toList = (k, a.num.natAbs, a.den.toNat) := by
  obtain ⟨hvd, hvb, -⟩ := letter_facts hv
  by_cases hk : k = 0
  · -- a constant
    have := readMagnitude_magnitude hd noDigitHead_nil
    rw [List.append_nil] at this
    simp [hk, toList_body_zero, readBody, this, readPower]
  -- what follows the magnitude: the variable, then the power above `1`
  set rest : List Char := v :: (if 1 < k then '^' :: Nat.toDigits 10 k else []) with hrest
  have hpow : readPower rest = k := by
    by_cases hk1 : 1 < k
    · have := readNat_toDigits k noDigitHead_nil
      rw [List.append_nil] at this
      simp [hrest, hk1, readPower, this]
    · simp [hrest, hk1, readPower]
      omega
  rw [toList_body v a hk, ← hrest]
  by_cases hm : magnitude a = "1"
  · -- the magnitude `1` is left out: no digit stands before the variable
    obtain ⟨h1, h2⟩ := magnitude_eq_one hd hm
    have hmag : readMagnitude rest = (1, 1, rest) := by
      simp [readMagnitude, hrest, hvb, hvd]
    simp [hm, readBody, hmag, hpow, h1, h2]
  · have hmag : readMagnitude ((magnitude a).toList ++ rest) = (a.num.natAbs, a.den.toNat, rest) :=
      readMagnitude_magnitude hd (noDigitHead_cons hvd _)
    simp [hm, readBody, hmag, hpow]

theorem isSign_of_isDigit {c : Char} (h : c.isDigit = true) : isSign c = false := by
  simp only [isSign, Bool.or_eq_false_iff, beq_eq_false_iff_ne]
  constructor <;> rintro rfl <;> simp at h

/-- A magnitude is written with digits and the letters, backslash and braces of `\frac`. -/
theorem isSign_of_mem_magnitude {a : Frac} (hd : 0 < a.den) {c : Char}
    (h : c ∈ (magnitude a).toList) : isSign c = false := by
  rw [toList_magnitude a hd] at h
  split_ifs at h
  · exact isSign_of_isDigit (Text.isDigit_of_mem_toDigits h)
  · simp only [List.mem_append, List.mem_cons, List.not_mem_nil, or_false] at h
    rcases h with ((h | h | h | h | h | h) | h) | h | h | h | h <;>
      first
      | (subst h; rfl)
      | exact isSign_of_isDigit (Text.isDigit_of_mem_toDigits h)

/-- **No character of a term's body is a sign**, so the signs mark where the terms begin. -/
theorem isSign_of_mem_body {v : Char} (hv : v.isAlpha = true) {a : Frac} (hd : 0 < a.den) {k : ℕ}
    {c : Char} (h : c ∈ (body (String.singleton v) k a).toList) : isSign c = false := by
  by_cases hk : k = 0
  · rw [hk, toList_body_zero] at h
    exact isSign_of_mem_magnitude hd h
  rw [toList_body v a hk] at h
  simp only [List.mem_append, List.mem_cons] at h
  rcases h with h | rfl | h
  · split_ifs at h with hm
    · simp at h
    · exact isSign_of_mem_magnitude hd h
  · exact (letter_facts hv).2.2
  · split_ifs at h with hk1
    · rcases List.mem_cons.1 h with rfl | h
      · rfl
      · exact isSign_of_isDigit (Text.isDigit_of_mem_toDigits h)
    · simp at h

/-- The body of a term is never empty. -/
theorem body_ne_nil (v : Char) {a : Frac} (hd : 0 < a.den) (k : ℕ) :
    (body (String.singleton v) k a).toList ≠ [] := by
  by_cases hk : k = 0
  · rw [hk, toList_body_zero, toList_magnitude a hd]
    split_ifs
    · exact Nat.toDigits_ne_nil
    · simp
  · rw [toList_body v a hk]
    exact List.append_ne_nil_of_right_ne_nil _ (List.cons_ne_nil _ _)

/-! ### Cutting the right-hand side before its signs -/

section Cutting

variable {p : Char → Bool}

/-- **Signed words after a part without signs are cut apart again before each sign**, their
signs dropped. -/
theorem splitOnP_signed :
    ∀ {pre : List Char} {ws : List (Char × List Char)}, (∀ c ∈ pre, p c = false) →
      (∀ w ∈ ws, p w.1 = true ∧ ∀ c ∈ w.2, p c = false) →
      (pre ++ (ws.map fun w => w.1 :: w.2).flatten).splitOnP p = pre :: ws.map Prod.snd
  | pre, [], hpre, _ => by simpa using List.splitOnP_eq_singleton hpre
  | pre, w :: ws, hpre, h => by
    have hw := h w List.mem_cons_self
    rw [List.map_cons, List.flatten_cons, List.cons_append,
      List.splitOnP_append_cons_of_forall_mem hpre _ hw.1,
      splitOnP_signed hw.2 fun w' hw' => h w' (List.mem_cons_of_mem w hw'), List.map_cons]

/-- The signs of signed words after a part without signs are the words' signs. -/
theorem filter_signed :
    ∀ {pre : List Char} {ws : List (Char × List Char)}, (∀ c ∈ pre, p c = false) →
      (∀ w ∈ ws, p w.1 = true ∧ ∀ c ∈ w.2, p c = false) →
      (pre ++ (ws.map fun w => w.1 :: w.2).flatten).filter p = ws.map Prod.fst
  | pre, [], hpre, _ => by
    simpa using List.filter_eq_nil_iff.2 fun c hc => by simp [hpre c hc]
  | pre, w :: ws, hpre, h => by
    have hw := h w List.mem_cons_self
    have hnil : pre.filter p = [] := List.filter_eq_nil_iff.2 fun c hc => by simp [hpre c hc]
    rw [List.map_cons, List.flatten_cons, List.cons_append, List.filter_append, hnil,
      List.nil_append, List.filter_cons_of_pos hw.1,
      filter_signed hw.2 fun w' hw' => h w' (List.mem_cons_of_mem w hw'), List.map_cons]

end Cutting

theorem zip_fst_snd {α β : Type} (ws : List (α × β)) : (ws.map Prod.fst).zip (ws.map Prod.snd) = ws := by
  simpa [List.unzip_eq_map] using List.zip_unzip ws

/-- A term as it is written after another: its sign and the characters of its body. -/
def termWord (var : String) (t : ℕ × Frac) : Char × List Char :=
  (if t.2.num < 0 then '-' else '+', (body var t.1 t.2).toList)

theorem toList_writtenTerms_later (var : String) : ∀ ts : List (ℕ × Frac),
    (String.join (writtenTerms var false ts)).toList =
      ((ts.map (termWord var)).map fun w => w.1 :: w.2).flatten
  | [] => rfl
  | t :: ts => by
    rw [writtenTerms, String.join_cons, String.toList_append, toList_writtenTerms_later var ts]
    by_cases hn : t.2.num < 0 <;> simp [signedTerm, termWord, hn]

/-- **A term reads back from its sign and its body.** -/
theorem readTerm_body {v : Char} (hv : v.isAlpha = true) {t : ℕ × Frac} (ht : 0 < t.2.den) :
    readTerm (decide (t.2.num < 0)) (body (String.singleton v) t.1 t.2).toList = t := by
  obtain ⟨k, a⟩ := t
  have hden : (a.den.toNat : Int) = a.den := Int.toNat_of_nonneg ht.le
  simp only [readTerm, readBody_body hv ht, hden]
  by_cases hn : a.num < 0
  · simp [hn, Int.ofNat_natAbs_of_nonpos hn.le]
  · simp [hn, Int.natAbs_of_nonneg (not_lt.1 hn)]

theorem readTerm_termWord {v : Char} (hv : v.isAlpha = true) {t : ℕ × Frac} (ht : 0 < t.2.den) :
    readTerm ((termWord (String.singleton v) t).1 == '-') (termWord (String.singleton v) t).2 = t := by
  have hsign : ((termWord (String.singleton v) t).1 == '-') = decide (t.2.num < 0) := by
    by_cases hn : t.2.num < 0 <;> simp [termWord, hn]
  rw [hsign]
  exact readTerm_body hv ht

/-- A written term after another is a sign and a body without signs. -/
theorem termWord_isSign {v : Char} (hv : v.isAlpha = true) {t : ℕ × Frac} (ht : 0 < t.2.den) :
    isSign (termWord (String.singleton v) t).1 = true ∧
      ∀ c ∈ (termWord (String.singleton v) t).2, isSign c = false := by
  refine ⟨by by_cases hn : t.2.num < 0 <;> simp [termWord, hn, isSign], fun c hc => ?_⟩
  exact isSign_of_mem_body hv ht hc

/-- What the reader makes of a part without signs followed by signed words: the part as a
positive term when there is one, then every word as a term, zero terms left out. -/
theorem readTerms_signed {pre : List Char} {ws : List (Char × List Char)}
    (hpre : ∀ c ∈ pre, isSign c = false)
    (hws : ∀ w ∈ ws, isSign w.1 = true ∧ ∀ c ∈ w.2, isSign c = false) :
    readTerms (pre ++ (ws.map fun w => w.1 :: w.2).flatten) =
      ((if pre = [] then [] else [readTerm false pre]) ++
        ws.map fun w => readTerm (w.1 == '-') w.2).filter fun t => t.2.num != 0 := by
  simp only [readTerms]
  rw [splitOnP_signed hpre hws, filter_signed hpre hws]
  simp only [zip_fst_snd]

/-- **The reader takes the written terms back**: the right-hand side of a rendering gives the
powers and coefficients it was written from. -/
theorem readTerms_written {v : Char} (hv : v.isAlpha = true) {ts : List (ℕ × Frac)}
    (hts : ∀ t ∈ ts, t.2.num ≠ 0 ∧ 0 < t.2.den) :
    readTerms (if (writtenTerms (String.singleton v) true ts).isEmpty then "0"
      else String.join (writtenTerms (String.singleton v) true ts)).toList = ts := by
  cases ts with
  | nil =>
    -- the zero polynomial is written `0`, which reads as a zero term and is left out
    have hzero : readTerms "0".toList = [] := rfl
    simpa [writtenTerms] using hzero
  | cons t ts =>
    set var := String.singleton v
    have ht := (hts t List.mem_cons_self).2
    have hwords : ∀ w ∈ ts.map (termWord var), isSign w.1 = true ∧ ∀ c ∈ w.2, isSign c = false := by
      intro w hw
      obtain ⟨t', ht', rfl⟩ := List.mem_map.1 hw
      exact termWord_isSign hv (hts t' (List.mem_cons_of_mem t ht')).2
    -- the words after the first term, read back one by one
    have hrest : ((ts.map (termWord var)).map fun w => readTerm (w.1 == '-') w.2) = ts := by
      rw [List.map_map]
      conv_rhs => rw [← List.map_id ts]
      exact List.map_congr_left fun t' ht' =>
        readTerm_termWord hv (hts t' (List.mem_cons_of_mem _ ht')).2
    have hkeep : ((t :: ts).filter fun t => t.2.num != 0) = t :: ts :=
      List.filter_eq_self.2 fun t' ht' => by simpa using (hts t' ht').1
    simp only [writtenTerms, List.isEmpty_cons, Bool.false_eq_true, if_false, String.join_cons,
      String.toList_append, toList_writtenTerms_later]
    by_cases hn : t.2.num < 0
    · -- a negative first term is a signed word like the others
      have hchars : (signedTerm var true t).toList ++
          ((ts.map (termWord var)).map fun w => w.1 :: w.2).flatten =
          [] ++ (((termWord var t) :: ts.map (termWord var)).map fun w => w.1 :: w.2).flatten := by
        simp [signedTerm, termWord, hn]
      rw [hchars, readTerms_signed (fun _ hc => absurd hc List.not_mem_nil)
        (List.forall_mem_cons.2 ⟨termWord_isSign hv ht, hwords⟩)]
      simp only [if_pos, List.nil_append, List.map_cons, readTerm_termWord hv ht, hrest, hkeep]
    · -- a positive first term stands before the first sign
      have hchars : (signedTerm var true t).toList = (body var t.1 t.2).toList := by
        simp [signedTerm, hn]
      have hfirst : readTerm false (body var t.1 t.2).toList = t := by
        simpa [hn] using readTerm_body hv ht
      have hne : (body var t.1 t.2).toList ≠ [] := body_ne_nil v ht t.1
      rw [hchars, readTerms_signed (fun c hc => isSign_of_mem_body hv ht hc) hwords, if_neg hne,
        hfirst, List.singleton_append, hrest, hkeep]

/-! ### Nonzero terms and values -/

theorem le_of_mem_nonzeroTerms :
    ∀ {k : ℕ} {as : List Frac} {t : ℕ × Frac}, t ∈ nonzeroTerms k as → k ≤ t.1
  | _, [], _, h => by simp [nonzeroTerms] at h
  | k, a :: as, t, h => by
    unfold nonzeroTerms at h
    split_ifs at h
    · exact Nat.le_of_succ_le (le_of_mem_nonzeroTerms h)
    · rcases List.mem_cons.1 h with rfl | h
      · exact le_rfl
      · exact Nat.le_of_succ_le (le_of_mem_nonzeroTerms h)

/-- A nonzero term of defined coefficients has a nonzero numerator and a positive
denominator. -/
theorem valid_of_mem_nonzeroTerms :
    ∀ {k : ℕ} {as : List Frac} {t : ℕ × Frac}, (∀ a ∈ as, 0 < a.den) → t ∈ nonzeroTerms k as →
      t.2.num ≠ 0 ∧ 0 < t.2.den
  | _, [], _, _, h => by simp [nonzeroTerms] at h
  | k, a :: as, t, hd, h => by
    have hd' := fun a' h' => hd a' (List.mem_cons_of_mem a h')
    unfold nonzeroTerms at h
    split_ifs at h with hz
    · exact valid_of_mem_nonzeroTerms hd' h
    · rcases List.mem_cons.1 h with rfl | h
      · have hz' : a.reduce.isZero = false := by simpa using hz
        refine ⟨fun h0 => ?_, Frac.den_pos_reduce (hd a List.mem_cons_self)⟩
        rw [(Frac.isZero_iff_num_eq_zero _).2 h0] at hz'
        exact Bool.noConfusion hz'
      · exact valid_of_mem_nonzeroTerms hd' h

theorem nonzeroTerms_eq_nil_iff :
    ∀ {k : ℕ} {as : List Frac}, nonzeroTerms k as = [] ↔ ∀ a ∈ as, a.isZero = true
  | _, [] => by simp [nonzeroTerms]
  | k, a :: as => by
    unfold nonzeroTerms
    by_cases hz : a.isZero <;> simp [hz, nonzeroTerms_eq_nil_iff]

/-- Defined coefficients are all zero exactly when every power's value is zero. -/
theorem forall_getD_value_zero {as : List Frac} (hd : ∀ a ∈ as, 0 < a.den) :
    (∀ j, (as.getD j Frac.zero).value = 0) ↔ ∀ a ∈ as, a.isZero = true := by
  constructor
  · intro h a ha
    obtain ⟨j, hj, rfl⟩ := List.getElem_of_mem ha
    rw [Frac.isZero_iff_value (hd _ ha), ← List.getD_eq_getElem _ Frac.zero hj]
    exact h j
  · intro h j
    by_cases hj : j < as.length
    · rw [List.getD_eq_getElem _ _ hj]
      exact (Frac.isZero_iff_value (hd _ (List.getElem_mem hj))).1 (h _ (List.getElem_mem hj))
    · rw [List.getD_eq_default _ _ (not_lt.1 hj), Frac.value_zero]

theorem forall_value_cons {a b : Frac} {as bs : List Frac} :
    (∀ j, ((a :: as).getD j Frac.zero).value = ((b :: bs).getD j Frac.zero).value) ↔
      a.value = b.value ∧ ∀ j, (as.getD j Frac.zero).value = (bs.getD j Frac.zero).value :=
  ⟨fun h => ⟨h 0, fun j => h (j + 1)⟩, fun ⟨h₀, h⟩ j => by
    cases j with
    | zero => exact h₀
    | succ j => exact h j⟩

/-- Defined fractions have the same lowest terms exactly when they have the same value. -/
theorem reduce_eq_iff_value {a b : Frac} (ha : 0 < a.den) (hb : 0 < b.den) :
    a.reduce = b.reduce ↔ a.value = b.value :=
  Frac.same_iff_reduce_eq.symm.trans (Frac.same_iff_value ha hb)

/-- **Two lists of defined coefficients have the same nonzero terms exactly when they agree in
value at every power**, a missing entry counting as zero. The induction runs over both lists;
a zero and a nonzero coefficient at one power give different terms there, since every later
term has a higher power. -/
theorem nonzeroTerms_eq_iff :
    ∀ (k : ℕ) {as bs : List Frac}, (∀ a ∈ as, 0 < a.den) → (∀ b ∈ bs, 0 < b.den) →
      (nonzeroTerms k as = nonzeroTerms k bs ↔
        ∀ j, (as.getD j Frac.zero).value = (bs.getD j Frac.zero).value)
  | k, [], bs, _, hb => by
    rw [show nonzeroTerms k [] = [] from rfl, eq_comm, nonzeroTerms_eq_nil_iff,
      ← forall_getD_value_zero hb]
    simp [eq_comm]
  | k, a :: as, [], ha, _ => by
    rw [show nonzeroTerms k [] = [] from rfl, nonzeroTerms_eq_nil_iff,
      ← forall_getD_value_zero ha]
    simp
  | k, a :: as, b :: bs, ha, hb => by
    have ha₀ := ha a List.mem_cons_self
    have hb₀ := hb b List.mem_cons_self
    rw [forall_value_cons, ← nonzeroTerms_eq_iff (k + 1) (fun a' h' => ha a' (List.mem_cons_of_mem a h'))
      (fun b' h' => hb b' (List.mem_cons_of_mem b h'))]
    -- a term at power `k` never equals one of the later terms
    have hlater : ∀ (cs : List Frac) (x : Frac) (rest : List (ℕ × Frac)),
        nonzeroTerms (k + 1) cs ≠ (k, x) :: rest := fun cs x rest h => by
      have := le_of_mem_nonzeroTerms (h ▸ List.mem_cons_self : (k, x) ∈ nonzeroTerms (k + 1) cs)
      omega
    rw [nonzeroTerms_cons, nonzeroTerms_cons]
    by_cases hza : a.isZero <;> by_cases hzb : b.isZero
    · -- both left out
      have hv : a.value = b.value := by
        rw [(Frac.isZero_iff_value ha₀).1 hza, (Frac.isZero_iff_value hb₀).1 hzb]
      simp [hza, hzb, hv]
    · have hv : a.value ≠ b.value := by
        rw [(Frac.isZero_iff_value ha₀).1 hza]
        exact fun h => hzb ((Frac.isZero_iff_value hb₀).2 h.symm)
      simp only [hza, hzb, if_true, Bool.false_eq_true, if_false]
      exact ⟨fun h => absurd h (hlater as _ _), fun h => absurd h.1 hv⟩
    · have hv : a.value ≠ b.value := by
        rw [(Frac.isZero_iff_value hb₀).1 hzb]
        exact fun h => hza ((Frac.isZero_iff_value ha₀).2 h)
      simp only [hza, hzb, if_true, Bool.false_eq_true, if_false]
      exact ⟨fun h => absurd h.symm (hlater bs _ _), fun h => absurd h.1 hv⟩
    · -- both written: the terms agree exactly when the lowest terms do
      simp [hza, hzb, reduce_eq_iff_value ha₀ hb₀]

/-! ### The rendering -/

/-- The rendering of a list of coefficients is its head and the rendering of its terms. -/
theorem render_list (cs : List Operand) (var func : String) :
    render (.list cs) var func = terms var true 0 cs >>= fun ts =>
      pure (subscripted func ++ "\\left(" ++ subscripted var ++ "\\right)=" ++
        (if ts.isEmpty then "0" else String.join ts)) := rfl

/-- **A polynomial written in LaTeX loses nothing.** For a variable named by one ASCII letter,
two lists of coefficients that convert to defined values are written alike exactly when they
agree in value at every power, a missing entry counting as zero. Coefficients that all convert
fail to be written exactly when one of them has a zero denominator, and then the error is an
invalid operation. -/
theorem render_eq_iff_values_agree (v : Char) (hv : v.isAlpha = true) (func : String) :
    (∀ {cs cs' : List Operand} {as as' : List Frac},
      cs.mapM Operand.toFrac = .ok as → cs'.mapM Operand.toFrac = .ok as' →
      (∀ a ∈ as, 0 < a.den) → (∀ a ∈ as', 0 < a.den) →
      (render (.list cs) (String.singleton v) func = render (.list cs') (String.singleton v) func ↔
        ∀ k, (as.getD k Frac.zero).value = (as'.getD k Frac.zero).value)) ∧
    ∀ {cs : List Operand} {as : List Frac}, cs.mapM Operand.toFrac = .ok as →
      (∀ e, render (.list cs) (String.singleton v) func = .error e → e.kind = .invalidOperation) ∧
      ((∃ e, render (.list cs) (String.singleton v) func = .error e) ↔ ∃ a ∈ as, a.den = 0) := by
  refine ⟨fun {cs cs' as as'} h h' hd hd' => ?_, fun {cs as} h => ?_⟩
  · -- both render; the right-hand sides are equal exactly when the nonzero terms are
    obtain ⟨ts, hok, -, rfl⟩ := ((terms_outcome (String.singleton v) (forall₂_of_mapM h) true 0).mono
      (fun _ ⟨_, a, ha, h0⟩ => absurd h0 (hd a ha).ne') fun _ h => h).exists_ok
    obtain ⟨ts', hok', -, rfl⟩ := ((terms_outcome (String.singleton v) (forall₂_of_mapM h') true 0).mono
      (fun _ ⟨_, a, ha, h0⟩ => absurd h0 (hd' a ha).ne') fun _ h => h).exists_ok
    rw [render_list, render_list, hok, hok', ← nonzeroTerms_eq_iff 0 hd hd']
    simp only [bind, Except.bind, pure, Except.pure, Except.ok.injEq, String.append_right_inj]
    constructor
    · -- the reader takes each right-hand side back to its terms
      intro heq
      rw [← readTerms_written hv fun t ht => valid_of_mem_nonzeroTerms hd ht, heq,
        readTerms_written hv fun t ht => valid_of_mem_nonzeroTerms hd' ht]
    · intro heq
      rw [heq]
  · have hts := terms_outcome (String.singleton v) (forall₂_of_mapM h) true 0
    rw [render_list]
    cases hterms : terms (String.singleton v) true 0 cs with
    | error e =>
      rw [hterms] at hts
      refine ⟨fun e' he' => ?_, fun _ => hts.2, fun _ => ⟨e, rfl⟩⟩
      cases he'
      exact hts.1
    | ok ts =>
      rw [hterms] at hts
      refine ⟨fun e he => (nomatch he), fun ⟨e, he⟩ => (nomatch he), fun ⟨a, ha, h0⟩ => ?_⟩
      exact absurd h0 (hts.1 a ha)

theorem render_eq_iff_values_agree_half :
    'x'.isAlpha = true ∧
    [Operand.int 1, .int 0, .frac ⟨-1, 2⟩].mapM Operand.toFrac = .ok [⟨1, 1⟩, ⟨0, 1⟩, ⟨-1, 2⟩] ∧
    [Operand.int 1, .int 0, .frac ⟨-2, 4⟩, .int 0].mapM Operand.toFrac =
      .ok [⟨1, 1⟩, ⟨0, 1⟩, ⟨-2, 4⟩, ⟨0, 1⟩] ∧
    render (.list [.int 1, .int 0, .frac ⟨-1, 2⟩]) (String.singleton 'x') "g" =
      render (.list [.int 1, .int 0, .frac ⟨-2, 4⟩, .int 0]) (String.singleton 'x') "g" := by
  have hx : 'x'.isAlpha = true := by decide
  have h : [Operand.int 1, .int 0, .frac ⟨-1, 2⟩].mapM Operand.toFrac =
      .ok [⟨1, 1⟩, ⟨0, 1⟩, ⟨-1, 2⟩] := rfl
  have h' : [Operand.int 1, .int 0, .frac ⟨-2, 4⟩, .int 0].mapM Operand.toFrac =
      .ok [⟨1, 1⟩, ⟨0, 1⟩, ⟨-2, 4⟩, ⟨0, 1⟩] := rfl
  have hd : ∀ a ∈ ([⟨1, 1⟩, ⟨0, 1⟩, ⟨-1, 2⟩] : List Frac), 0 < a.den := by simp
  have hd' : ∀ a ∈ ([⟨1, 1⟩, ⟨0, 1⟩, ⟨-2, 4⟩, ⟨0, 1⟩] : List Frac), 0 < a.den := by simp
  have hvalues : ∀ k, (([⟨1, 1⟩, ⟨0, 1⟩, ⟨-1, 2⟩] : List Frac).getD k Frac.zero).value =
      (([⟨1, 1⟩, ⟨0, 1⟩, ⟨-2, 4⟩, ⟨0, 1⟩] : List Frac).getD k Frac.zero).value := by
    intro k
    rcases k with _ | _ | _ | _ | k <;> norm_num [Frac.value, Frac.zero]
  exact ⟨hx, h, h', ((render_eq_iff_values_agree 'x' hx "g").1 h h' hd hd').2 hvalues⟩

end Latex

end Frac64
