/-!
# GlyphConsole.Font — the shapes of characters

A `Font` gives a bitmap of eight by eight pixels for every character that it has.  Which
characters these are is the font's own matter.  A character that the font does not have
looks like its question mark, and if it has no question mark either, like nothing at all.

On the screen every row of a bitmap is drawn twice, so a cell is eight pixels wide
and sixteen high.
-/

namespace GlyphConsole

set_option autoImplicit false

namespace Font

/-- Pixels in a row of a bitmap. -/
def width : Nat := 8

/-- Rows of a bitmap. -/
def height : Nat := 8

/-- How often each row is drawn. -/
def rowRepeat : Nat := 2

/-- The rows of a bitmap, the top row first.  In each row the lowest bit is the leftmost
pixel. -/
abbrev Bitmap := Vector UInt8 8

/-- A bitmap with no pixel lit. -/
def blank : Bitmap := .replicate 8 0

end Font

/-- The bitmaps of the characters that a font has. -/
structure Font where
  find? : Char → Option Font.Bitmap

namespace Font

/-- The bitmap drawn for a character. -/
def bitmap (font : Font) (c : Char) : Bitmap :=
  ((font.find? c).or (font.find? '?')).getD blank

/-- The pixel in this column and row of a cell is lit. -/
def litInCell (font : Font) (c : Char) (column row : Nat) : Bool :=
  ((font.bitmap c)[row / rowRepeat]?.getD 0).toNat.testBit column

/-- A row of the cell shows the row of the bitmap that is half as far down. -/
theorem litInCell_of_lt (font : Font) (c : Char) (column : Nat) {row : Nat} (inCell : row < 16) :
    font.litInCell c column row = (font.bitmap c)[row / 2].toNat.testBit column := by
  have bound : row / 2 < 8 := by omega
  unfold litInCell
  rw [show rowRepeat = 2 from rfl, Vector.getElem?_eq_getElem bound]
  rfl

/-- A font with a letter and a question mark. -/
def twoGlyphs : Font where
  find? c :=
    if c = 'A' then some #v[0x0c, 0x1e, 0x33, 0x33, 0x3f, 0x33, 0x33, 0x00]
    else if c = '?' then some #v[0x1e, 0x33, 0x30, 0x18, 0x0c, 0x00, 0x0c, 0x00]
    else none

end Font

end GlyphConsole
