import GlyphConsole.Color
import GlyphConsole.Grid

/-!
# GlyphConsole.Draw — what a console asks of its surface

A console talks to a surface in four words, the constructors of `DrawCall`: put a
glyph into a cell, fill a cell, clear everything, and present what was drawn.
The color of a `clear` is also the background of the glyphs that follow it.

A surface never answers, so an operation of the console is fully described by the
calls it makes, in order.  `Tally` counts them by kind.
-/

namespace GlyphConsole

set_option autoImplicit false

/-- One request to a surface. -/
inductive DrawCall where
  | glyph (cell : Cell) (char : Char) (color : Color)
  | fill (cell : Cell) (color : Color)
  | clear (color : Color)
  | present
deriving DecidableEq

/-- How many requests of each kind were made. -/
structure Tally where
  glyphs : Nat := 0
  fills : Nat := 0
  clears : Nat := 0
  presents : Nat := 0
deriving DecidableEq, Inhabited

def Tally.count (t : Tally) : DrawCall → Tally
  | .glyph .. => { t with glyphs := t.glyphs + 1 }
  | .fill .. => { t with fills := t.fills + 1 }
  | .clear _ => { t with clears := t.clears + 1 }
  | .present => { t with presents := t.presents + 1 }

end GlyphConsole
