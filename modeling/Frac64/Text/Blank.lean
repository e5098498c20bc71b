/-!
# Blank characters

Two classes of blanks matter when numbers are read from text.

* `isBlank` — the Unicode whitespace characters: tab to carriage return, the
  information separators `U+001C` to `U+001F`, space, next line, no-break space,
  and the space, line and paragraph separators. Trimming a text removes these.
* `isAsciiBlank` — the six ASCII blanks (tab, line feed, vertical tab, form feed,
  carriage return, space) that a number may carry around its digits.
* `trim` — a text without its leading and trailing blanks.
-/

namespace Frac64

namespace Text

/-- The code points of the Unicode whitespace characters above `U+007F`. -/
def wideBlanks : List Nat :=
  [0x85, 0xA0, 0x1680, 0x2000, 0x2001, 0x2002, 0x2003, 0x2004, 0x2005, 0x2006, 0x2007,
    0x2008, 0x2009, 0x200A, 0x2028, 0x2029, 0x202F, 0x205F, 0x3000]

/-- The six ASCII blanks: tab, line feed, vertical tab, form feed, carriage return
and space. -/
def isAsciiBlank (c : Char) : Bool :=
  c = ' ' || (0x09 ≤ c.toNat && c.toNat ≤ 0x0D)

/-- Unicode whitespace: the ASCII blanks, the separators `U+001C` to `U+001F`, and the
whitespace characters above `U+007F`. -/
def isBlank (c : Char) : Bool :=
  isAsciiBlank c || (0x1C ≤ c.toNat && c.toNat ≤ 0x1F) || wideBlanks.contains c.toNat

/-- Every ASCII blank is a blank. -/
theorem isBlank_of_isAsciiBlank {c : Char} (h : isAsciiBlank c = true) : isBlank c = true := by
  simp [isBlank, h]

/-- A list of characters without its leading blanks. -/
def dropBlanks (cs : List Char) : List Char := cs.dropWhile isBlank

/-- A text without its leading and trailing Unicode whitespace. -/
def trim (s : String) : String :=
  String.ofList (dropBlanks (dropBlanks s.toList).reverse).reverse

end Text

end Frac64
