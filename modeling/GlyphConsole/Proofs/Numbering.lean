import GlyphConsole.Proofs.Trail

/-!
# GlyphConsole.Proofs.Numbering — the cursor moves along the numbers of the cells

The cells of the page are numbered row by row (`Position.number`), from zero at the origin, and
a number says which cell it is (`Position.ofNumber`, `ofNumber_number`, `number_ofNumber`).

A relative move adds to the number of the cursor (`numberAt_eq`), and leads to the cell with the
sum if the page has it (`landing`).  All that is not addition is what happens above the origin.
So a step to the right, which adds one (`number_advance`), is a move by one, and a move by minus
one takes it back; and two moves that both stay on the page add up (`numberAt_landing`).  The
main statement, `moves_by_number`, has all of this for every cell and every move.

A move is reckoned in signed words, and one that overflows has no result or a wrong one.  A
move does not overflow if they hold its numbers (`StepFits`), and then it leads to its
`landing` (`moveBy?_eq`).
-/

namespace GlyphConsole

set_option autoImplicit false

/-- A share of a number is no larger than the number. -/
theorem Word.FitsSigned.ediv {number width : Int} (fits : Word.FitsSigned number)
    (pos : 0 < width) : Word.FitsSigned (number / width) := by
  obtain ⟨low, high⟩ := fits
  refine ⟨?_, ?_⟩
  · rw [Int.le_ediv_iff_mul_le pos]
    omega
  · rw [Int.ediv_lt_iff_lt_mul pos]
    omega

/-! ## Numbers of cells -/

namespace Position

variable {columns : Nat} {p : Position}

/-- How many cells come before this one, row by row from the origin of the page.  Above the
page the numbers go on below zero. -/
def number (columns : Nat) (p : Position) : Int := p.row * columns + p.column

/-- The cell with this number. -/
def ofNumber (columns : Nat) (number : Int) : Position :=
  ⟨(number % columns).toNat, number / columns⟩

theorem ofNumber_number (inside : p.column < columns) :
    ofNumber columns (p.number columns) = p := by
  obtain ⟨row, column⟩ : p.number columns / columns = p.row ∧
      p.number columns % columns = p.column := by
    refine (Int.ediv_emod_unique (by omega)).2 ⟨?_, by omega, by omega⟩
    rw [number, Int.mul_comm, Int.add_comm]
  rw [ofNumber, row, column, Int.toNat_natCast]

theorem number_ofNumber (pos : 0 < columns) (number : Int) :
    (ofNumber columns number).number columns = number := by
  have column := Int.emod_nonneg number (show (columns : Int) ≠ 0 by omega)
  rw [ofNumber, Position.number, Int.toNat_of_nonneg column, Int.mul_comm]
  exact Int.mul_ediv_add_emod number columns

theorem column_ofNumber_lt (pos : 0 < columns) (number : Int) :
    (ofNumber columns number).column < columns := by
  have low := Int.emod_nonneg number (show (columns : Int) ≠ 0 by omega)
  have high := Int.emod_lt_of_pos number (show 0 < (columns : Int) by omega)
  dsimp only [ofNumber]
  omega

theorem number_nonneg (onPage : 0 ≤ p.row) (columns : Nat) : 0 ≤ p.number columns := by
  have rows := Int.mul_nonneg onPage (Int.natCast_nonneg columns)
  rw [number]
  omega

end Position

namespace Viewport

variable {v w : Viewport}

/-! ## Moves -/

/-- The number of the cell so many columns and rows away from the cursor. -/
def numberAt (v : Viewport) (columns rows : Int) : Int :=
  (v.cursor.row + rows) * v.grid.columns + v.cursor.column + columns

/-- Where a relative move leads: to the cell with the number, if there is one on the page.
Above the page it leads to the first row, there to the first column if the columns alone lead
back over the start of a row, and to the column that they lead to otherwise. -/
def landing (v : Viewport) (columns rows : Int) : Position :=
  if 0 ≤ v.numberAt columns rows then .ofNumber v.grid.columns (v.numberAt columns rows)
  else
    ⟨if v.cursor.column + columns < 0 then 0
      else ((v.cursor.column + columns) % v.grid.columns).toNat, 0⟩

/-- A step of so many columns does not overflow: signed words hold how many columns there are,
and where the step leads. -/
structure StepFits (v : Viewport) (columns : Int) : Prop where
  width : Word.FitsSigned v.grid.columns
  reach : Word.FitsSigned (v.cursor.column + columns)

theorem StepFits.width_eq {columns : Int} (fits : v.StepFits columns) :
    v.grid.width = v.grid.columns := by
  have small := fits.width.2
  exact Grid.width_of_lt (by omega)

theorem StepFits.reach_eq {columns : Int} (fits : v.StepFits columns)
    (inside : v.cursor.column < v.grid.columns) :
    v.reach columns = v.cursor.column + columns := by
  have small := fits.width.2
  rw [Viewport.reach, Word.signed_of_lt (by omega)]

theorem moveBy_eq_moveTo (v : Viewport) (columns rows : Int) :
    v.moveBy columns rows = v.moveTo (v.moveBy columns rows).cursor := by
  simp only [moveBy]
  split <;> rfl

theorem advance_eq_moveTo (v : Viewport) : v.advance = v.moveTo v.advance.cursor := by
  unfold advance
  split <;> rfl

theorem cursor_moveBy_eq_landing {columns : Int} (inside : v.cursor.column < v.grid.columns)
    (fits : v.StepFits columns) (rows : Int) :
    (v.moveBy columns rows).cursor = v.landing columns rows := by
  have pos : (0 : Int) < v.grid.columns := by omega
  have split : v.numberAt columns rows =
      v.cursor.column + columns + (v.cursor.row + rows) * v.grid.columns := by
    rw [numberAt]
    omega
  have row : v.numberAt columns rows / v.grid.columns =
      v.cursor.row + rows + (v.cursor.column + columns) / v.grid.columns := by
    rw [split, Int.add_mul_ediv_right _ _ (by omega), Int.add_comm]
  have column : v.numberAt columns rows % v.grid.columns =
      (v.cursor.column + columns) % v.grid.columns := by
    rw [split, Int.add_mul_emod_self_right]
  have onPage : 0 ≤ v.numberAt columns rows / v.grid.columns ↔ 0 ≤ v.numberAt columns rows :=
    Int.ediv_nonneg_iff_of_pos pos
  have ahead : 0 ≤ (v.cursor.column + columns) / v.grid.columns ↔ 0 ≤ v.cursor.column + columns :=
    Int.ediv_nonneg_iff_of_pos pos
  rw [cursor_moveBy, carry, fits.reach_eq inside, fits.width_eq, ← row, landing, ← column]
  simp only [← Int.not_le, onPage, ahead, ite_not, Position.ofNumber]

/-- A move that does not overflow has a result. -/
theorem moveBy?_eq {columns : Int} (inside : v.cursor.column < v.grid.columns)
    (fits : v.StepFits columns) (rows : Int) :
    v.moveBy? columns rows = .ok (v.moveTo (v.landing columns rows)) := by
  have width := fits.width_eq
  have pos : 0 < v.grid.width := by omega
  have reach : Word.FitsSigned (v.reach columns) := by
    rw [fits.reach_eq inside]
    exact fits.reach
  have carry : Word.FitsSigned (v.carry columns) := reach.ediv pos
  rw [moveBy?, if_neg (by omega), if_pos ⟨reach, carry⟩, moveBy_eq_moveTo,
    cursor_moveBy_eq_landing inside fits]

/-! ## Moves that stay on the page -/

theorem numberAt_eq (v : Viewport) (columns rows : Int) :
    v.numberAt columns rows =
      v.cursor.number v.grid.columns + (rows * v.grid.columns + columns) := by
  rw [numberAt, Position.number, Int.add_mul]
  omega

theorem landing_of_nonneg {columns rows : Int} (onPage : 0 ≤ v.numberAt columns rows) :
    v.landing columns rows = .ofNumber v.grid.columns (v.numberAt columns rows) := by
  rw [landing, if_pos onPage]

/-- From where the first of two moves leads on the page, the second adds to both. -/
theorem numberAt_landing {columns rows : Int} (inside : v.cursor.column < v.grid.columns)
    (onPage : 0 ≤ v.numberAt columns rows) (columns' rows' : Int) :
    (v.moveTo (v.landing columns rows)).numberAt columns' rows' =
      v.numberAt (columns + columns') (rows + rows') := by
  have number : (v.landing columns rows).number v.grid.columns = v.numberAt columns rows := by
    rw [landing_of_nonneg onPage, Position.number_ofNumber (by omega)]
  rw [numberAt_eq, numberAt_eq v, Int.add_mul]
  simp only [moveTo, number, numberAt_eq v columns rows]
  omega

/-- A step to the right leads to the next number. -/
theorem number_advance (inside : v.cursor.column < v.grid.columns) :
    v.advance.cursor.number v.grid.columns = v.cursor.number v.grid.columns + 1 := by
  rw [cursor_advance]
  simp only [atRightEdge, decide_eq_true_eq]
  split
  · have last : (v.cursor.column : Int) + 1 = v.grid.columns := by omega
    simp only [Position.number, Int.add_mul]
    omega
  · simp only [Position.number]
    omega

/-- The row changes exactly if the step leaves it at the right edge. -/
theorem row_advance_ne_iff (v : Viewport) :
    v.advance.cursor.row ≠ v.cursor.row ↔ v.atRightEdge = true := by
  rw [cursor_advance]
  by_cases edge : v.atRightEdge = true
  · have below : v.cursor.row + 1 ≠ v.cursor.row := by omega
    rw [if_pos edge]
    exact iff_of_true below edge
  · rw [if_neg edge]
    exact iff_of_false (fun other => other rfl) edge

/-- A move to the number of a cell of the page leads to that cell. -/
theorem moveBy?_of_number {p : Position} {columns rows : Int}
    (inside : v.cursor.column < v.grid.columns) (fits : v.StepFits columns)
    (cell : p.column < v.grid.columns) (onPage : 0 ≤ p.number v.grid.columns)
    (number : v.numberAt columns rows = p.number v.grid.columns) :
    v.moveBy? columns rows = .ok (v.moveTo p) := by
  have stays : 0 ≤ v.numberAt columns rows := by
    rw [number]
    exact onPage
  rw [moveBy?_eq inside fits, landing_of_nonneg stays, number, Position.ofNumber_number cell]

/-- A step to the right is a move by one. -/
theorem moveBy?_one (inside : v.cursor.column < v.grid.columns) (onPage : 0 ≤ v.cursor.row)
    (fits : v.StepFits 1) : v.moveBy? 1 0 = .ok v.advance := by
  have start := Position.number_nonneg onPage v.grid.columns
  have next : v.advance.cursor.column < v.grid.columns := column_advance_lt (by omega)
  have number := number_advance inside
  rw [advance_eq_moveTo]
  refine moveBy?_of_number inside fits next ?_ ?_
  · omega
  · rw [numberAt_eq, number, Int.zero_mul, Int.zero_add]

/-- A move by one to the left takes a step to the right back. -/
theorem moveBy?_neg_one_advance (inside : v.cursor.column < v.grid.columns)
    (onPage : 0 ≤ v.cursor.row) (width : Word.FitsSigned v.grid.columns) :
    v.advance.moveBy? (-1) 0 = .ok v := by
  have small := width.2
  have next : v.advance.cursor.column < v.grid.columns := column_advance_lt (by omega)
  have fits : v.advance.StepFits (-1) := by
    refine ⟨?_, by omega, by omega⟩
    rw [grid_advance]
    exact width
  have back : v.advance.moveTo v.cursor = v := by
    rw [advance_eq_moveTo]
    rfl
  have moved : v.advance.moveBy? (-1) 0 = .ok (v.advance.moveTo v.cursor) := by
    refine moveBy?_of_number ?_ fits ?_ ?_ ?_
    · rwa [grid_advance]
    · rwa [grid_advance]
    · exact Position.number_nonneg onPage _
    · rw [numberAt_eq, grid_advance, number_advance inside]
      omega
  rw [moved, back]

/-- Two moves of which neither leads above the page are the move by their sum. -/
theorem moveBy?_moveBy? {columns rows columns' rows' : Int}
    (inside : v.cursor.column < v.grid.columns) (first : v.StepFits columns)
    (moved : v.moveBy? columns rows = .ok w) (second : w.StepFits columns')
    (both : v.StepFits (columns + columns')) (onPage : 0 ≤ v.numberAt columns rows)
    (onPage' : 0 ≤ w.numberAt columns' rows') :
    w.moveBy? columns' rows' = v.moveBy? (columns + columns') (rows + rows') := by
  rw [moveBy?_eq inside first, Except.ok.injEq] at moved
  subst moved
  have number := numberAt_landing inside onPage columns' rows'
  have inside' : (v.landing columns rows).column < v.grid.columns := by
    rw [landing_of_nonneg onPage]
    exact Position.column_ofNumber_lt (by omega) _
  have stays : 0 ≤ v.numberAt (columns + columns') (rows + rows') := by
    rw [← number]
    exact onPage'
  have led : (v.moveTo (v.landing columns rows)).landing columns' rows' =
      v.landing (columns + columns') (rows + rows') := by
    rw [landing_of_nonneg onPage', landing_of_nonneg stays, number]
    rfl
  rw [moveBy?_eq inside' second, moveBy?_eq inside both, led]
  rfl

/-! ## All moves -/

/-- From any cell of the page, with any number of columns, every move that does not overflow leads
to the cell whose number is so many columns and rows away, and to the first row if there is no
such cell.  So a step to the right is the move by one, the move by minus one takes it back
wherever it was made, and two moves add up if neither leads above the page.  A step to the right
says that it led onto the next row exactly if it changed the row. -/
theorem moves_by_number (v : Viewport) (inside : v.cursor.column < v.grid.columns)
    (onPage : 0 ≤ v.cursor.row) :
    (∀ columns rows, v.StepFits columns →
      v.moveBy? columns rows = .ok (v.moveTo (v.landing columns rows))) ∧
    (v.StepFits 1 →
      v.moveBy? 1 0 = .ok v.advance?.1 ∧ v.advance?.1.moveBy? (-1) 0 = .ok v) ∧
    (v.advance?.2 = true ↔ v.advance?.1.cursor.row ≠ v.cursor.row) ∧
    ∀ columns rows columns' rows' w, v.StepFits columns → w.StepFits columns' →
      v.StepFits (columns + columns') → v.moveBy? columns rows = .ok w →
      0 ≤ v.numberAt columns rows → 0 ≤ w.numberAt columns' rows' →
        w.moveBy? columns' rows' = v.moveBy? (columns + columns') (rows + rows') := by
  refine ⟨?leads, ?step, ?edge, ?compose⟩
  case leads =>
    intro columns rows fits
    exact moveBy?_eq inside fits rows
  case step =>
    intro fits
    exact ⟨moveBy?_one inside onPage fits, moveBy?_neg_one_advance inside onPage fits.width⟩
  case edge => exact (row_advance_ne_iff v).symm
  case compose =>
    intro columns rows columns' rows' w first second both moved stays stays'
    exact moveBy?_moveBy? inside first moved second both stays stays'

/-- On three columns from the end of the second row: a step to the right and back, a move that
leads above the origin over the start of a row and one that does not, and two moves in one. -/
theorem moves_by_number_small :
    let v : Viewport := { grid := ⟨3, 2⟩, cursor := ⟨2, 1⟩ }
    let w : Viewport := { grid := ⟨3, 2⟩, cursor := ⟨1, 2⟩ }
    v.cursor.column < v.grid.columns ∧ 0 ≤ v.cursor.row ∧
      v.StepFits 1 ∧ v.moveBy? 1 0 = .ok v.advance ∧ v.advance.cursor = ⟨0, 2⟩ ∧
      v.advance.moveBy? (-1) 0 = .ok v ∧
      v.StepFits (-7) ∧ v.moveBy? (-7) 0 = .ok (v.moveTo ⟨0, 0⟩) ∧
      v.moveBy? (-1) (-2) = .ok (v.moveTo ⟨1, 0⟩) ∧
      w.StepFits 5 ∧ 0 ≤ v.numberAt (-4) 2 ∧ 0 ≤ w.numberAt 5 (-1) ∧
      w.moveBy? 5 (-1) = v.moveBy? (-4 + 5) (2 + -1) := by
  intro v w
  have inside : v.cursor.column < v.grid.columns := by decide
  have onPage : 0 ≤ v.cursor.row := by decide
  obtain ⟨leads, step, -, compose⟩ := moves_by_number v inside onPage
  have right : v.StepFits 1 := ⟨by decide, by decide⟩
  have left : v.StepFits (-7) := ⟨by decide, by decide⟩
  have onward : w.StepFits 5 := ⟨by decide, by decide⟩
  have led : v.landing (-7) 0 = ⟨0, 0⟩ ∧ v.landing (-1) (-2) = ⟨1, 0⟩ ∧
      v.landing (-4) 2 = ⟨1, 2⟩ := by decide
  have origin := leads (-7) 0 left
  have top := leads (-1) (-2) ⟨by decide, by decide⟩
  have first := leads (-4) 2 ⟨by decide, by decide⟩
  rw [led.1] at origin
  rw [led.2.1] at top
  rw [led.2.2] at first
  have both := compose (-4) 2 5 (-1) w ⟨by decide, by decide⟩ onward ⟨by decide, by decide⟩ first
    (by decide) (by decide)
  exact ⟨inside, onPage, right, (step right).1, rfl, (step right).2, left, origin, top, onward,
    by decide, by decide, both⟩

end Viewport

end GlyphConsole
