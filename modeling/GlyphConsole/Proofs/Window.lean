import GlyphConsole.Console.Pen

/-!
# GlyphConsole.Proofs.Window — where the cursor and the window can be

A character moves the cursor in one of four ways, which `Viewport.step` names, and
`follow` moves the window by as much as it takes (`offset_follow`).  Three predicates
say how much is known of a viewport:

* `Aligned`: the cursor is in one of the columns of the grid, so a cursor whose row is
  on the screen is in a cell of the grid (`contains_of_cursorCell?`);
* `OnPage`: its row is not above the first row either;
* `Regular`: the window does not begin above the first row, and the cursor is not above
  the window.

Characters keep the first two (`Aligned.step`, `OnPage.step`).  The third may be lost on
the way, when a text goes back above the window, and `follow` restores it
(`OnPage.follow`).
-/

namespace GlyphConsole

set_option autoImplicit false

/-- A grid with cells whose counts are read as they are. -/
structure Grid.Usable (g : Grid) : Prop where
  columns_pos : 0 < g.columns
  rows_pos : 0 < g.rows
  columns_lt : g.columns < 0x8000000000000000
  rows_lt : g.rows < 0x8000000000000000

namespace Grid.Usable

variable {g : Grid}

theorem width_eq (usable : g.Usable) : g.width = g.columns := width_of_lt usable.columns_lt

theorem height_eq (usable : g.Usable) : g.height = g.rows := height_of_lt usable.rows_lt

theorem height_pos (usable : g.Usable) : 0 < g.height :=
  usable.height_eq ▸ Int.natCast_pos.2 usable.rows_pos

/-- A surface that a console can be created on has a usable grid. -/
theorem of_fit? {surface cell : Extent} (fits : fit? surface cell = some g)
    (small : g.size < 0x100000000000) : g.Usable := by
  obtain ⟨columns, rows⟩ := pos_of_fit? fits
  obtain ⟨columns_le, rows_le⟩ := counts_le_size columns rows
  exact ⟨columns, rows, by omega, by omega⟩

end Grid.Usable

namespace Viewport

variable {v : Viewport}

/-! ## Following the cursor -/

theorem lowered_eq (bottom row offset : Int) :
    lowered bottom row offset = min offset (bottom - row) := by
  fun_induction lowered bottom row offset with
  | case1 offset below ih => omega
  | case2 offset shown => omega

theorem raised_eq (row offset : Int) : raised row offset = max offset (-row) := by
  fun_induction raised row offset with
  | case1 offset above ih => omega
  | case2 offset shown => omega

/-- The window stops at the nearest place that shows the cursor. -/
theorem offset_follow (v : Viewport) :
    v.follow.offset = max (min v.offset (v.bottom - v.cursor.row)) (-v.cursor.row) := by
  simp only [follow, lowered_eq, raised_eq]

/-- A window that shows the cursor stays, and any other moves. -/
theorem offset_follow_eq_iff (tall : 0 < v.grid.height) :
    v.follow.offset = v.offset ↔ v.onScreen = true := by
  rw [onScreen_iff, offset_follow, bottom]
  omega

theorem onScreen_follow (tall : 0 < v.grid.height) : v.follow.onScreen = true := by
  rw [onScreen_iff, offset_follow, cursor_follow, grid_follow, bottom]
  omega

/-- Following a cursor that is on the screen moves nothing. -/
theorem follow_of_onScreen (tall : 0 < v.grid.height) (shown : v.onScreen = true) :
    v.follow = v := by
  have stays := (offset_follow_eq_iff tall).2 shown
  rw [show v.follow = { v with offset := v.follow.offset } from rfl, stays]

/-! ## Scrolling by hand -/

/-- The window one row newer, if it may move there. -/
def newer (v : Viewport) : Viewport :=
  if v.offset - 1 < v.liveOffset then v else { v with offset := v.offset - 1 }

/-- The window one row older, if it may move there. -/
def older (v : Viewport) : Viewport :=
  if 0 ≤ v.offset then v else { v with offset := v.offset + 1 }

theorem scrollNewer_eq (v : Viewport) :
    v.scrollNewer = (v.newer, decide (v.liveOffset ≤ v.offset - 1)) := by
  unfold scrollNewer newer
  split
  · rename_i refused
    rw [decide_eq_false (by omega)]
  · rename_i room
    rw [decide_eq_true (by omega)]

theorem scrollOlder_eq (v : Viewport) : v.scrollOlder = (v.older, decide (v.offset < 0)) := by
  unfold scrollOlder older
  split
  · rename_i refused
    rw [decide_eq_false (by omega)]
  · rename_i room
    rw [decide_eq_true (by omega)]

@[simp] theorem grid_newer (v : Viewport) : v.newer.grid = v.grid := by
  unfold newer
  split <;> rfl

@[simp] theorem grid_older (v : Viewport) : v.older.grid = v.grid := by
  unfold older
  split <;> rfl

@[simp] theorem cursor_newer (v : Viewport) : v.newer.cursor = v.cursor := by
  unfold newer
  split <;> rfl

@[simp] theorem cursor_older (v : Viewport) : v.older.cursor = v.cursor := by
  unfold older
  split <;> rfl

/-! ## Characters -/

/-- Where the cursor goes when a character is written. -/
def step (v : Viewport) (c : Char) : Viewport :=
  match c with
  | '\n' => v.lineFeed
  | '\r' => v.carriageReturn
  | '\x08' => v.moveBy (-1) 0
  | _ => v.advance

/-- Where the cursor goes when characters are written in turn. -/
def steps (v : Viewport) (cs : List Char) : Viewport := cs.foldl step v

@[simp] theorem steps_nil (v : Viewport) : v.steps [] = v := rfl

@[simp] theorem steps_cons (v : Viewport) (c : Char) (cs : List Char) :
    v.steps (c :: cs) = (v.step c).steps cs := rfl

theorem steps_append (v : Viewport) (first second : List Char) :
    v.steps (first ++ second) = (v.steps first).steps second := by
  simp [steps]

/-- The character becomes a glyph on the page. -/
def IsGlyph (c : Char) : Prop := c ≠ '\n' ∧ c ≠ '\r' ∧ c ≠ '\x08'

theorem step_of_isGlyph {c : Char} (glyph : IsGlyph c) (v : Viewport) : v.step c = v.advance := by
  obtain ⟨feed, return_, back⟩ := glyph
  unfold step
  split <;> simp_all

@[simp] theorem grid_step (v : Viewport) (c : Char) : (v.step c).grid = v.grid := by
  unfold step
  split <;> simp [lineFeed, carriageReturn]

@[simp] theorem offset_step (v : Viewport) (c : Char) : (v.step c).offset = v.offset := by
  unfold step
  split <;> simp [lineFeed, carriageReturn]

@[simp] theorem visible_step (v : Viewport) (c : Char) : (v.step c).visible = v.visible := by
  unfold step
  split <;> simp [lineFeed, carriageReturn]

/-! ## In the columns of the grid -/

/-- The cursor is in one of the columns of a usable grid. -/
structure Aligned (v : Viewport) : Prop where
  usable : v.grid.Usable
  column_lt : v.cursor.column < v.grid.columns

/-- The cell under the cursor is a cell of the grid. -/
theorem Aligned.contains_of_cursorCell? (aligned : v.Aligned) {cell : Cell}
    (under : v.cursorCell? = some cell) : v.grid.Contains cell := by
  simp only [cursorCell?, Option.map_eq_some_iff] at under
  obtain ⟨row, shown, rfl⟩ := under
  have inside := (screenRow?_eq_some.1 shown).2
  rw [aligned.usable.height_eq] at inside
  exact ⟨aligned.column_lt, Int.ofNat_lt.1 inside⟩

theorem cursor_moveBy (v : Viewport) (columns rows : Int) :
    (v.moveBy columns rows).cursor =
      if v.cursor.row + rows + v.carry columns < 0 then
        ⟨if v.carry columns < 0 then 0 else (v.reach columns % v.grid.width).toNat, 0⟩
      else
        ⟨(v.reach columns % v.grid.width).toNat, v.cursor.row + rows + v.carry columns⟩ := by
  simp only [moveBy]
  split <;> rfl

theorem column_moveBy_lt (usable : v.grid.Usable) (columns rows : Int) :
    (v.moveBy columns rows).cursor.column < v.grid.columns := by
  have width := usable.width_eq
  have pos := usable.columns_pos
  have low := Int.emod_nonneg (v.reach columns) (show v.grid.width ≠ 0 by omega)
  have high := Int.emod_lt_of_pos (v.reach columns) (show 0 < v.grid.width by omega)
  rw [cursor_moveBy]
  split
  · dsimp only
    split <;> omega
  · dsimp only
    omega

theorem column_advance_lt (pos : 0 < v.grid.columns) :
    v.advance.cursor.column < v.grid.columns := by
  unfold advance
  split
  · exact pos
  · rename_i inside
    simp only [atRightEdge, decide_eq_true_eq] at inside
    exact Nat.lt_of_not_le inside

/-- The cursor is in the columns of the grid wherever the window is. -/
theorem Aligned.of_same {w : Viewport} (aligned : v.Aligned) (grid : w.grid = v.grid)
    (cursor : w.cursor = v.cursor) : w.Aligned := by
  refine ⟨grid ▸ aligned.usable, ?_⟩
  rw [grid, cursor]
  exact aligned.column_lt

theorem Aligned.moveBy (aligned : v.Aligned) (columns rows : Int) :
    (v.moveBy columns rows).Aligned := by
  refine ⟨?_, ?_⟩
  · rw [grid_moveBy]
    exact aligned.usable
  · rw [grid_moveBy]
    exact column_moveBy_lt aligned.usable columns rows

theorem Aligned.step (aligned : v.Aligned) (c : Char) : (v.step c).Aligned := by
  refine ⟨?_, ?_⟩
  · rw [grid_step]
    exact aligned.usable
  · rw [grid_step]
    unfold Viewport.step
    split
    · exact aligned.column_lt
    · exact aligned.usable.columns_pos
    · exact column_moveBy_lt aligned.usable _ _
    · exact column_advance_lt aligned.usable.columns_pos

/-! ## On the page -/

/-- The cursor is in a column of the grid and not above the first row of the page. -/
structure OnPage (v : Viewport) : Prop extends v.Aligned where
  row_nonneg : 0 ≤ v.cursor.row

theorem row_moveBy_nonneg (v : Viewport) (columns rows : Int) :
    0 ≤ (v.moveBy columns rows).cursor.row := by
  rw [cursor_moveBy]
  split
  · exact Int.le_refl 0
  · dsimp only
    omega

theorem OnPage.moveBy (onPage : v.OnPage) (columns rows : Int) : (v.moveBy columns rows).OnPage :=
  ⟨onPage.toAligned.moveBy columns rows, row_moveBy_nonneg v columns rows⟩

theorem OnPage.step (onPage : v.OnPage) (c : Char) : (v.step c).OnPage := by
  refine ⟨onPage.toAligned.step c, ?_⟩
  have low := onPage.row_nonneg
  unfold Viewport.step
  split
  · simp only [lineFeed]
    omega
  · exact low
  · exact row_moveBy_nonneg v _ _
  · unfold advance
    split
    · dsimp only
      omega
    · exact low

/-! ## Under the window -/

/-- The window begins on the page, and the cursor is not above it. -/
structure Regular (v : Viewport) : Prop extends v.OnPage where
  offset_nonpos : v.offset ≤ 0
  not_above : 0 ≤ v.cursor.row + v.offset

theorem OnPage.regular_of_onScreen (onPage : v.OnPage) (low : v.offset ≤ 0)
    (shown : v.onScreen = true) : v.Regular :=
  ⟨onPage, low, ((onScreen_iff v).1 shown).1⟩

theorem OnPage.follow (onPage : v.OnPage) (low : v.offset ≤ 0) : v.follow.Regular := by
  have row := onPage.row_nonneg
  refine OnPage.regular_of_onScreen ⟨⟨onPage.usable, onPage.column_lt⟩, row⟩ ?_
    (onScreen_follow onPage.usable.height_pos)
  rw [offset_follow]
  omega

theorem Regular.newer (regular : v.Regular) : v.newer.Regular := by
  have height := regular.usable.height_eq
  have rows := regular.usable.rows_pos
  have low := regular.offset_nonpos
  unfold Viewport.newer
  split
  · exact regular
  · rename_i room
    simp only [liveOffset, bottom] at room
    refine ⟨⟨⟨regular.usable, regular.column_lt⟩, regular.row_nonneg⟩, ?_, ?_⟩
    · dsimp only
      omega
    · dsimp only
      omega

theorem Regular.older (regular : v.Regular) : v.older.Regular := by
  have above := regular.not_above
  unfold Viewport.older
  split
  · exact regular
  · refine ⟨⟨⟨regular.usable, regular.column_lt⟩, regular.row_nonneg⟩, ?_, ?_⟩
    · dsimp only
      omega
    · dsimp only
      omega

theorem regular_reset (usable : v.grid.Usable) : v.reset.Regular :=
  ⟨⟨⟨usable, usable.columns_pos⟩, Int.le_refl 0⟩, Int.le_refl 0, Int.le_refl 0⟩

end Viewport

end GlyphConsole
