import GlyphConsole.Word

/-!
# GlyphConsole.Grid — cells, grids and positions

Three kinds of coordinates, kept apart by type:

* an `Extent` counts pixels;
* a `Cell` names one cell of the screen, from the top left;
* a `Position` names one cell of the logical page: its row counts from the first
  line ever written and is not bounded by the height of the screen.

A `Grid` says how many columns and rows of cells there are.  `Grid.fit?` divides
a surface into whole cells; partial cells at the right and the bottom are
margins, and a surface without a whole cell has no grid (`Grid.pos_of_fit?`).
The counts are also lengths that positions are compared with and divided by, and then
they are read with a sign: `Grid.width` and `Grid.height`, the counts themselves below
`2 ^ 63` (`Grid.width_of_lt`, `Grid.height_of_lt`).

Cells of a grid are numbered row by row by `Grid.index`, below the grid's `size`
(`Grid.index_lt`) and without collisions (`Grid.index_inj`).
-/

namespace GlyphConsole

set_option autoImplicit false

/-- A size in pixels. -/
structure Extent where
  width : Nat
  height : Nat
deriving DecidableEq, Inhabited

/-- A cell of the screen, counted from the top left. -/
structure Cell where
  column : Nat
  row : Nat
deriving DecidableEq, Inhabited

/-- A cell of the logical page. -/
structure Position where
  column : Nat
  row : Int
deriving DecidableEq, Inhabited

/-- Where the first character of a page goes. -/
def Position.origin : Position := ⟨0, 0⟩

/-- The number of cells in each direction. -/
structure Grid where
  columns : Nat
  rows : Nat
deriving DecidableEq, Inhabited

namespace Grid

/-- The grid of whole cells on a surface, if there is at least one. -/
def fit? (surface cell : Extent) : Option Grid :=
  if cell.width = 0 ∨ cell.height = 0 then none
  else
    let columns := surface.width / cell.width
    let rows := surface.height / cell.height
    if columns = 0 ∨ rows = 0 then none else some ⟨columns, rows⟩

def size (g : Grid) : Nat := g.columns * g.rows

/-- How far the columns reach, as a signed number. -/
def width (g : Grid) : Int := Word.signed g.columns

/-- How far the rows reach, as a signed number. -/
def height (g : Grid) : Int := Word.signed g.rows

/-- The cell lies on the grid. -/
def Contains (g : Grid) (c : Cell) : Prop := c.column < g.columns ∧ c.row < g.rows

instance (g : Grid) (c : Cell) : Decidable (g.Contains c) :=
  inferInstanceAs (Decidable (_ ∧ _))

/-- The number of a cell, counted row by row. -/
def index (g : Grid) (c : Cell) : Nat := c.row * g.columns + c.column

theorem width_of_lt {g : Grid} (small : g.columns < 0x8000000000000000) : g.width = g.columns :=
  Word.signed_of_lt small

theorem height_of_lt {g : Grid} (small : g.rows < 0x8000000000000000) : g.height = g.rows :=
  Word.signed_of_lt small

theorem pos_of_fit? {surface cell : Extent} {g : Grid} (fits : fit? surface cell = some g) :
    0 < g.columns ∧ 0 < g.rows := by
  simp only [fit?] at fits
  split at fits
  · simp at fits
  · split at fits
    · simp at fits
    · simp only [Option.some.injEq] at fits
      subst fits
      rename_i nonzero
      exact ⟨Nat.pos_of_ne_zero fun h => nonzero (Or.inl h),
        Nat.pos_of_ne_zero fun h => nonzero (Or.inr h)⟩

/-- A grid has no more columns than cells, and no more rows. -/
theorem counts_le_size {g : Grid} (hc : 0 < g.columns) (hr : 0 < g.rows) :
    g.columns ≤ g.size ∧ g.rows ≤ g.size :=
  ⟨Nat.le_mul_of_pos_right _ hr, Nat.le_mul_of_pos_left _ hc⟩

theorem index_lt {g : Grid} {c : Cell} (inside : g.Contains c) : g.index c < g.size := by
  obtain ⟨hc, hr⟩ := inside
  have step : (c.row + 1) * g.columns ≤ g.rows * g.columns := Nat.mul_le_mul_right _ hr
  rw [Nat.succ_mul] at step
  simp only [index, size, Nat.mul_comm g.columns g.rows]
  omega

/-- Two cells of one grid with one number are one cell. -/
theorem index_inj {g : Grid} {c d : Cell} (hc : g.Contains c) (hd : g.Contains d) :
    g.index c = g.index d ↔ c = d := by
  constructor
  · intro same
    have columnOf : ∀ e : Cell, g.Contains e → g.index e % g.columns = e.column := by
      intro e he
      simp only [index, Nat.mul_add_mod_self_right, Nat.mod_eq_of_lt he.1]
    have rowOf : ∀ e : Cell, g.Contains e → g.index e / g.columns = e.row := by
      intro e he
      have pos : 0 < g.columns := Nat.zero_lt_of_lt he.1
      rw [index, Nat.mul_comm, Nat.mul_add_div pos, Nat.div_eq_of_lt he.1, Nat.add_zero]
    have column := (columnOf c hc).symm.trans ((congrArg (· % g.columns) same).trans (columnOf d hd))
    have row := (rowOf c hc).symm.trans ((congrArg (· / g.columns) same).trans (rowOf d hd))
    cases c
    cases d
    simp_all
  · rintro rfl
    rfl

end Grid

end GlyphConsole
