import GlyphConsole.Fault
import GlyphConsole.Grid

/-!
# GlyphConsole.Console.Viewport — the window onto the page

The page is unbounded downwards; the screen shows `rows` consecutive rows of it.
The scroll `offset` is zero or negative in normal use and is added to a page row
to get its screen row, so an offset of `-n` hides the first `n` rows.

A `Viewport` holds the grid, the cursor, the offset and whether the cursor is to
be seen.  The cursor moves without regard to the screen: `advance` steps over the
right edge onto the next row, `moveBy` adds any number of columns and rows and
never goes above the origin.  A move may lead below zero, so it reads the columns of
the grid and of the cursor with a sign, and so does `bottom` the rows.

`follow` scrolls as little as it takes to show the cursor again, one row at a time:
first towards newer rows while the cursor is below the bottom (`lowered`), then
towards older ones while it is above the top (`raised`).

Scrolling by hand is bounded: never past the first row (`scrollOlder`), and never
further down than where the cursor stands on the bottom row (`scrollNewer`).
-/

namespace GlyphConsole

set_option autoImplicit false

/-- The window, the cursor, and whether the cursor is to be seen. -/
structure Viewport where
  grid : Grid
  cursor : Position := .origin
  offset : Int := 0
  visible : Bool := true
deriving DecidableEq, Inhabited

namespace Viewport

/-- The screen row of the last line. -/
def bottom (v : Viewport) : Int := v.grid.height - 1

/-- The screen row that shows a page row, if one does. -/
def screenRow? (v : Viewport) (row : Int) : Option Nat :=
  let screen := row + v.offset
  if 0 ≤ screen ∧ screen ≤ v.bottom then some screen.toNat else none

/-- The cell of the screen under the cursor, if the cursor is on the screen. -/
def cursorCell? (v : Viewport) : Option Cell :=
  (v.screenRow? v.cursor.row).map fun row => ⟨v.cursor.column, row⟩

/-- The cursor's row is on the screen. -/
def onScreen (v : Viewport) : Bool := (v.screenRow? v.cursor.row).isSome

/-! ## Moving the cursor -/

def moveTo (v : Viewport) (p : Position) : Viewport := { v with cursor := p }

def moveToRow (v : Viewport) (row : Int) : Viewport :=
  { v with cursor := { v.cursor with row } }

/-- The cursor at the origin of the page; the window stays. -/
def home (v : Viewport) : Viewport := { v with cursor := .origin }

/-- Cursor and window at the origin of the page. -/
def reset (v : Viewport) : Viewport := { v with cursor := .origin, offset := 0 }

def lineFeed (v : Viewport) : Viewport :=
  { v with cursor := { v.cursor with row := v.cursor.row + 1 } }

def carriageReturn (v : Viewport) : Viewport :=
  { v with cursor := { v.cursor with column := 0 } }

/-- The next step to the right leaves the row. -/
def atRightEdge (v : Viewport) : Bool := v.grid.columns ≤ v.cursor.column + 1

/-- One cell to the right, or onto the next row at the right edge. -/
def advance (v : Viewport) : Viewport :=
  if v.atRightEdge then { v with cursor := ⟨0, v.cursor.row + 1⟩ }
  else { v with cursor := { v.cursor with column := v.cursor.column + 1 } }

/-- One cell to the right, and say whether that led onto the next row. -/
def advance? (v : Viewport) : Viewport × Bool := (v.advance, v.atRightEdge)

/-- Where a step of so many columns leads, counted from the start of the cursor's row. -/
def reach (v : Viewport) (columns : Int) : Int := Word.signed v.cursor.column + columns

/-- The rows that a step of so many columns leads over. -/
def carry (v : Viewport) (columns : Int) : Int := v.reach columns / v.grid.width

/-- A relative move.  Columns carry into rows in both directions.  Above the
origin the cursor stops on row zero: in the first column if columns borrowed from
the rows, otherwise in the column reached. -/
def moveBy (v : Viewport) (columns rows : Int) : Viewport :=
  let carry := v.carry columns
  let column := (v.reach columns % v.grid.width).toNat
  let row := v.cursor.row + rows + carry
  if row < 0 then { v with cursor := ⟨if carry < 0 then 0 else column, 0⟩ }
  else { v with cursor := ⟨column, row⟩ }

/-- A relative move over any grid.  It is a fault over one without columns, and if no
word can hold the column that is reached before any are carried, or how many rows are
carried.  The row itself has no bound here. -/
def moveBy? (v : Viewport) (columns rows : Int) : Except Fault Viewport :=
  if v.grid.width = 0 then .error .noColumns
  else if Word.FitsSigned (v.reach columns) ∧ Word.FitsSigned (v.carry columns) then
    .ok (v.moveBy columns rows)
  else .error .overflow

/-! ## Showing the cursor -/

/-- The cursor is to be seen, or not. -/
def showCursor (v : Viewport) (visible : Bool) : Viewport := { v with visible }

/-- Show the cursor if it was not to be seen, and the other way round. -/
def flipCursor (v : Viewport) : Viewport := v.showCursor (!v.visible)

/-! ## Moving the window -/

/-- The offset after scrolling towards newer rows until `row` is not below `bottom`. -/
def lowered (bottom row offset : Int) : Int :=
  if row + offset > bottom then lowered bottom row (offset - 1) else offset
termination_by (row + offset - bottom).toNat
decreasing_by omega

/-- The offset after scrolling towards older rows until `row` is not above the top. -/
def raised (row offset : Int) : Int :=
  if row + offset < 0 then raised row (offset + 1) else offset
termination_by (-(row + offset)).toNat
decreasing_by omega

/-- Scroll until the cursor is on the screen. -/
def follow (v : Viewport) : Viewport :=
  { v with offset := raised v.cursor.row (lowered v.bottom v.cursor.row v.offset) }

/-- Scroll until the cursor is on the screen, and say whether the window moved. -/
def follow? (v : Viewport) : Viewport × Bool :=
  let followed := v.follow
  (followed, followed.offset != v.offset)

/-- The offset at which the cursor stands on the bottom row, once the page fills
the screen. -/
def liveOffset (v : Viewport) : Int := min (v.bottom - v.cursor.row) 0

/-- One row towards newer output, as far as the cursor; says whether it moved. -/
def scrollNewer (v : Viewport) : Viewport × Bool :=
  if v.offset - 1 < v.liveOffset then (v, false)
  else ({ v with offset := v.offset - 1 }, true)

/-- One row towards older output, as far as the first row; says whether it moved. -/
def scrollOlder (v : Viewport) : Viewport × Bool :=
  if 0 ≤ v.offset then (v, false) else ({ v with offset := v.offset + 1 }, true)

/-! ## What the operations leave alone -/

theorem screenRow?_eq_some {v : Viewport} {row : Int} {n : Nat} :
    v.screenRow? row = some n ↔ row + v.offset = n ∧ n < v.grid.height := by
  by_cases shown : 0 ≤ row + v.offset ∧ row + v.offset ≤ v.grid.height - 1
  · simp only [screenRow?, bottom, shown, and_self, if_true, Option.some.injEq]
    omega
  · simp only [screenRow?, bottom, shown, if_false, reduceCtorEq, false_iff]
    omega

theorem onScreen_iff (v : Viewport) :
    v.onScreen = true ↔ 0 ≤ v.cursor.row + v.offset ∧ v.cursor.row + v.offset < v.grid.height := by
  simp only [onScreen, Option.isSome_iff_exists, screenRow?_eq_some]
  constructor
  · rintro ⟨n, shown, below⟩
    omega
  · rintro ⟨above, below⟩
    exact ⟨(v.cursor.row + v.offset).toNat, by omega⟩

@[simp] theorem grid_advance (v : Viewport) : v.advance.grid = v.grid := by
  unfold advance
  split <;> rfl

@[simp] theorem offset_advance (v : Viewport) : v.advance.offset = v.offset := by
  unfold advance
  split <;> rfl

@[simp] theorem visible_advance (v : Viewport) : v.advance.visible = v.visible := by
  unfold advance
  split <;> rfl

@[simp] theorem grid_moveBy (v : Viewport) (columns rows : Int) :
    (v.moveBy columns rows).grid = v.grid := by
  simp only [moveBy]
  split <;> rfl

@[simp] theorem offset_moveBy (v : Viewport) (columns rows : Int) :
    (v.moveBy columns rows).offset = v.offset := by
  simp only [moveBy]
  split <;> rfl

@[simp] theorem visible_moveBy (v : Viewport) (columns rows : Int) :
    (v.moveBy columns rows).visible = v.visible := by
  simp only [moveBy]
  split <;> rfl

@[simp] theorem cursor_follow (v : Viewport) : v.follow.cursor = v.cursor := rfl

@[simp] theorem grid_follow (v : Viewport) : v.follow.grid = v.grid := rfl

@[simp] theorem visible_follow (v : Viewport) : v.follow.visible = v.visible := rfl

end Viewport

end GlyphConsole
