/-!
Blank characters: the Unicode White_Space property, which is what "blank" and "trim" mean
for user text in this protocol, and the five ASCII blanks that decide whether a run of bytes
is empty of content.

Main statement: every character that core's `Char.isWhitespace` accepts is a space here.
-/
namespace ChatHub.Text

/-- A character with the Unicode White_Space property: the controls tab to carriage return,
space, next line, no-break space, ogham space mark, the spaces from en quad to hair space, the
line and paragraph separators, narrow no-break space, medium mathematical space and the
ideographic space. -/
def isSpace (c : Char) : Bool :=
  let n := c.toNat
  (0x09 ≤ n && n ≤ 0x0D) || n == 0x20 || n == 0x85 || n == 0xA0 || n == 0x1680 ||
    (0x2000 ≤ n && n ≤ 0x200A) || n == 0x2028 || n == 0x2029 || n == 0x202F ||
    n == 0x205F || n == 0x3000

/-- Text made of spaces alone, the empty text included. -/
def isBlank (cs : List Char) : Bool :=
  cs.all isSpace

/-- The text without the spaces at either end. -/
def trim (cs : List Char) : List Char :=
  ((cs.dropWhile isSpace).reverse.dropWhile isSpace).reverse

/-- A byte that counts as blank between frames: space, tab, line feed, form feed or carriage
return (not the vertical tab). -/
def isBlankByte (b : UInt8) : Bool :=
  b == 0x20 || b == 0x09 || b == 0x0A || b == 0x0C || b == 0x0D

/-- Bytes made of blank bytes alone, no bytes included. -/
def isBlankBytes (bs : List UInt8) : Bool :=
  bs.all isBlankByte

theorem isSpace_of_isWhitespace {c : Char} (h : c.isWhitespace = true) : isSpace c = true := by
  simp only [Char.isWhitespace, Bool.or_eq_true, decide_eq_true_eq] at h
  rcases h with ((h | h) | h) | h <;> subst h <;> decide

end ChatHub.Text
