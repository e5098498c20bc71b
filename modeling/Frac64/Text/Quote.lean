import Frac64.Text.Printable

/-!
# Quoted texts

Error messages show an offending text in quotes. The quote is `'`, unless the text
holds a `'` and no `"`, in which case it is `"`. Inside, a backslash and the chosen
quote are escaped with a backslash; tab, line feed and carriage return are written
`\t`, `\n`, `\r`; other unprintable characters are written in hexadecimal, as
`\xhh` below `U+0100`, `\uhhhh` below `U+10000` and `\Uhhhhhhhh` above; all other
characters stand as they are.

* `Text.quoteChar` — the quote a text is written with.
* `Text.escapeChar` — the written form of one character.
* `Text.quote` — the quoted form of a text.
-/

namespace Frac64

namespace Text

/-- The quote a text is written with: `"` if the text holds `'` but no `"`, else `'`. -/
def quoteChar (s : String) : Char :=
  if s.contains '\'' && !s.contains '"' then '"' else '\''

/-- The lowercase hexadecimal digits of `n`, padded with zeros to `width`. -/
def hexDigits (width n : Nat) : List Char :=
  let ds := Nat.toDigits 16 n
  List.replicate (width - ds.length) '0' ++ ds

/-- The written form of one character inside quotes `q`. -/
def escapeChar (q c : Char) : List Char :=
  if c = q ∨ c = '\\' then ['\\', c]
  else if c = '\t' then ['\\', 't']
  else if c = '\n' then ['\\', 'n']
  else if c = '\r' then ['\\', 'r']
  else if isPrintable c then [c]
  else if c.toNat < 0x100 then '\\' :: 'x' :: hexDigits 2 c.toNat
  else if c.toNat < 0x10000 then '\\' :: 'u' :: hexDigits 4 c.toNat
  else '\\' :: 'U' :: hexDigits 8 c.toNat

/-- The quoted form of a text. -/
def quote (s : String) : String :=
  let q := quoteChar s
  String.ofList (q :: (s.toList.flatMap (escapeChar q) ++ [q]))

end Text

end Frac64
