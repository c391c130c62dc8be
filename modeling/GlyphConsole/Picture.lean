import GlyphConsole.Cells
import GlyphConsole.Draw

/-!
# GlyphConsole.Picture — the surface that records cells

A `Picture` is the simplest surface: it keeps, for every cell, whether it was last
filled or given a glyph, and in which color.  `Picture.apply` interprets one draw
call and `Picture.run` a list of them; calls off the grid are ignored.

After a clear every cell is filled (`get?_apply_clear`), and `present` changes nothing
here, since a picture is always up to date.  A `Recording` is a picture that also
counts the calls it was given.
-/

namespace GlyphConsole

set_option autoImplicit false

/-- What one cell of a picture shows. -/
inductive Shown where
  | filled (color : Color)
  | glyph (char : Char) (color : Color)
deriving DecidableEq, Inhabited

def Shown.color : Shown → Color
  | .filled color => color
  | .glyph _ color => color

def Shown.char? : Shown → Option Char
  | .filled _ => none
  | .glyph char _ => some char

/-- A surface remembered cell by cell. -/
abbrev Picture := Cells Shown

namespace Picture

/-- A picture on which nothing has been drawn. -/
def blank (grid : Grid) : Picture := Cells.replicate grid (.filled Color.black)

def apply (p : Picture) : DrawCall → Picture
  | .glyph cell char color => p.set cell (.glyph char color)
  | .fill cell color => p.set cell (.filled color)
  | .clear color => p.fill (.filled color)
  | .present => p

/-- The picture after a list of calls. -/
def run (p : Picture) (calls : Array DrawCall) : Picture := calls.foldl apply p

@[simp] theorem grid_apply (p : Picture) (call : DrawCall) : (p.apply call).grid = p.grid := by
  cases call <;> simp [apply]

theorem get?_apply_clear (p : Picture) (d : Cell) (color : Color) :
    (p.apply (.clear color)).get? d = if p.grid.Contains d then some (.filled color) else none :=
  Cells.get?_replicate p.grid _ d

@[simp] theorem run_empty (p : Picture) : p.run #[] = p := rfl

@[simp] theorem run_push (p : Picture) (calls : Array DrawCall) (call : DrawCall) :
    p.run (calls.push call) = (p.run calls).apply call := by
  simp [run]

@[simp] theorem run_append (p : Picture) (first second : Array DrawCall) :
    p.run (first ++ second) = (p.run first).run second := by
  simp [run]

end Picture

/-- A picture and the number of calls it took to draw it. -/
structure Recording where
  picture : Picture
  tally : Tally := {}

namespace Recording

def blank (grid : Grid) : Recording := { picture := Picture.blank grid }

def apply (r : Recording) (call : DrawCall) : Recording :=
  { picture := r.picture.apply call, tally := r.tally.count call }

end Recording

end GlyphConsole
