import GlyphConsole.Grid

/-!
# GlyphConsole.Cells — one value for every cell of a grid

`Cells α` holds a value for each cell of a grid, row by row in one array whose
length the type fixes.  It is the store behind the picture a surface shows and
behind the console's own memory of what stands where.

The view is `get?`, which answers `none` off the grid.  Writing is described
through it once and for all: `get?_replicate` and `get?_set`.  Writing off the
grid changes nothing, so no caller has to check.
-/

namespace GlyphConsole

set_option autoImplicit false

/-- A value for every cell of a grid. -/
structure Cells (α : Type) where
  grid : Grid
  entries : Array α
  size_entries : entries.size = grid.size

namespace Cells

variable {α : Type}

/-- The same value in every cell. -/
def replicate (grid : Grid) (a : α) : Cells α :=
  ⟨grid, Array.replicate grid.size a, Array.size_replicate⟩

/-- What the cell holds, if it lies on the grid. -/
def get? (cells : Cells α) (c : Cell) : Option α :=
  if cells.grid.Contains c then cells.entries[cells.grid.index c]? else none

/-- Put a value into a cell; nothing happens off the grid. -/
def set (cells : Cells α) (c : Cell) (a : α) : Cells α :=
  if cells.grid.Contains c then
    ⟨cells.grid, cells.entries.setIfInBounds (cells.grid.index c) a, by
      rw [Array.size_setIfInBounds, cells.size_entries]⟩
  else cells

/-- Put one value into every cell. -/
def fill (cells : Cells α) (a : α) : Cells α := replicate cells.grid a

@[simp] theorem grid_replicate (grid : Grid) (a : α) : (replicate grid a).grid = grid := rfl

@[simp] theorem grid_fill (cells : Cells α) (a : α) : (cells.fill a).grid = cells.grid := rfl

@[simp] theorem grid_set (cells : Cells α) (c : Cell) (a : α) :
    (cells.set c a).grid = cells.grid := by
  unfold set
  split <;> rfl

@[simp] theorem get?_replicate (grid : Grid) (a : α) (c : Cell) :
    (replicate grid a).get? c = if grid.Contains c then some a else none := by
  by_cases inside : grid.Contains c
  · simp [get?, replicate, inside, Grid.index_lt inside]
  · simp [get?, replicate, inside]

/-- A write shows at its own cell and nowhere else. -/
@[simp] theorem get?_set (cells : Cells α) (c d : Cell) (a : α) :
    (cells.set c a).get? d =
      if d = c ∧ cells.grid.Contains c then some a else cells.get? d := by
  by_cases hc : cells.grid.Contains c
  · by_cases hd : cells.grid.Contains d
    · have bound : cells.grid.index c < cells.entries.size :=
        cells.size_entries ▸ Grid.index_lt hc
      simp only [set, get?, hc, hd, if_true, Array.getElem?_setIfInBounds, Grid.index_inj hc hd,
        bound, and_true]
      by_cases same : d = c
      · simp [same]
      · simp [same, Ne.symm same]
    · have other : d ≠ c := fun same => hd (same ▸ hc)
      simp [set, get?, hc, hd, other]
  · simp [set, hc]

theorem isSome_get? (cells : Cells α) (c : Cell) :
    (cells.get? c).isSome ↔ cells.grid.Contains c := by
  unfold get?
  by_cases inside : cells.grid.Contains c
  · have bound : cells.grid.index c < cells.entries.size :=
      cells.size_entries ▸ Grid.index_lt inside
    simp [inside, bound]
  · simp [inside]

end Cells

end GlyphConsole
