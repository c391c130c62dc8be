import GlyphConsole.Proofs.Window

/-!
# GlyphConsole.Proofs.Following — the window moves no further than it has to

Following the cursor is two loops, one row at a time: `lower` the window while the cursor is
`Below` it, then `raise` it while the cursor is `Above` it.  Both end (`loop_lower`,
`loop_raise`), and where they end is the closed form `offset_follow`.

With a row to show the cursor in, one of the loops takes no turn: a window that was lowered
shows the cursor on its bottom row, and that is not above the top.  So the window comes to rest
at the nearest place that shows the cursor (`offset_nearer`), and following the cursor again
moves nothing (`follow?_of_onScreen`).  `follow_nearest` says so of every viewport with a row.
-/

namespace GlyphConsole

set_option autoImplicit false

namespace Viewport

variable {v : Viewport}

/-! ## The loops -/

/-- The cursor is under the last row of the window. -/
def Below (v : Viewport) : Prop := v.bottom < v.cursor.row + v.offset

/-- The cursor is over the first row of the window. -/
def Above (v : Viewport) : Prop := v.cursor.row + v.offset < 0

/-- The window one row further down. -/
def lower (v : Viewport) : Viewport := { v with offset := v.offset - 1 }

/-- The window one row further up. -/
def raise (v : Viewport) : Viewport := { v with offset := v.offset + 1 }

/-- A loop that takes a turn while something holds, from its start to its end, with the number
of its turns.  A loop that goes on for ever has no end. -/
inductive Loop (holds : Viewport → Prop) (turn : Viewport → Viewport) :
    Viewport → Nat → Viewport → Prop
  | ended {v : Viewport} (fails : ¬ holds v) : Loop holds turn v 0 v
  | turned {v last : Viewport} {turns : Nat} (goes : holds v)
      (rest : Loop holds turn (turn v) turns last) : Loop holds turn v (turns + 1) last

theorem loop_lower (v : Viewport) (offset : Int) :
    Loop Below lower { v with offset } (v.cursor.row + offset - v.bottom).toNat
      { v with offset := lowered v.bottom v.cursor.row offset } := by
  -- The induction is on the offset alone, which the last row does not depend on.
  generalize same : v.bottom = bottom
  fun_induction lowered bottom v.cursor.row offset with
  | case1 offset below ih =>
      have turns : (v.cursor.row + offset - bottom).toNat =
          (v.cursor.row + (offset - 1) - bottom).toNat + 1 := by omega
      rw [turns]
      refine .turned ?_ ih
      subst same
      exact below
  | case2 offset shown =>
      have turns : (v.cursor.row + offset - bottom).toNat = 0 := by omega
      rw [turns]
      subst same
      exact .ended shown

theorem loop_raise (v : Viewport) (offset : Int) :
    Loop Above raise { v with offset } (-(v.cursor.row + offset)).toNat
      { v with offset := raised v.cursor.row offset } := by
  fun_induction raised v.cursor.row offset with
  | case1 offset above ih =>
      have turns : (-(v.cursor.row + offset)).toNat =
          (-(v.cursor.row + (offset + 1))).toNat + 1 := by omega
      rw [turns]
      exact .turned above ih
  | case2 offset shown =>
      have turns : (-(v.cursor.row + offset)).toNat = 0 := by omega
      rw [turns]
      exact .ended shown

/-- The loops of following the cursor, one after the other. -/
theorem loops_follow (v : Viewport) :
    let halfway : Viewport := { v with offset := lowered v.bottom v.cursor.row v.offset }
    Loop Below lower v (v.cursor.row + v.offset - v.bottom).toNat halfway ∧
      Loop Above raise halfway (-(v.cursor.row + halfway.offset)).toNat v.follow :=
  ⟨loop_lower v v.offset, loop_raise v _⟩

/-- A window that has been lowered at all is not raised again. -/
theorem idle_loop (tall : 0 < v.grid.height) :
    (v.cursor.row + v.offset - v.bottom).toNat = 0 ∨
      (-(v.cursor.row + lowered v.bottom v.cursor.row v.offset)).toNat = 0 := by
  rw [lowered_eq, bottom]
  omega

/-! ## Where the window comes to rest -/

/-- The places of the window that show the cursor, from its row on top to its row at the
bottom. -/
theorem onScreen_at_iff (v : Viewport) (offset : Int) :
    ({ v with offset } : Viewport).onScreen = true ↔
      -v.cursor.row ≤ offset ∧ offset ≤ v.bottom - v.cursor.row := by
  rw [onScreen_iff, bottom]
  dsimp only
  omega

/-- Every other place that shows the cursor is further away. -/
theorem offset_nearer {offset : Int}
    (shown : ({ v with offset } : Viewport).onScreen = true) (other : offset ≠ v.follow.offset) :
    (v.follow.offset - v.offset).natAbs < (offset - v.offset).natAbs := by
  rw [onScreen_at_iff] at shown
  rw [offset_follow] at other ⊢
  omega

theorem follow?_of_onScreen (tall : 0 < v.grid.height) (shown : v.onScreen = true) :
    v.follow? = (v, false) := by
  rw [follow?, follow_of_onScreen tall shown, bne_self_eq_false]

/-- From wherever the cursor and the window are, following the cursor ends, and of its two loops
one takes no turn.  It leaves the window at the nearest place that shows the cursor, and the
rest of the viewport as it is.  It says that the window moved exactly if it did, and a second
time it does not move.  All it takes is a row, and that the number of the rows does not overflow
a signed word. -/
theorem follow_nearest (v : Viewport) (rows : 0 < v.grid.rows)
    (height : Word.FitsSigned v.grid.rows) :
    (∃ lowerings raisings halfway, Loop Below lower v lowerings halfway ∧
      Loop Above raise halfway raisings v.follow?.1 ∧ (lowerings = 0 ∨ raisings = 0)) ∧
    v.follow?.1.onScreen = true ∧
    (∀ offset, ({ v with offset } : Viewport).onScreen = true → offset ≠ v.follow?.1.offset →
      (v.follow?.1.offset - v.offset).natAbs < (offset - v.offset).natAbs) ∧
    v.follow?.1.offset =
      max (-v.cursor.row) (min v.offset ((v.grid.rows : Int) - 1 - v.cursor.row)) ∧
    (v.follow?.2 = true ↔ v.follow?.1.offset ≠ v.offset) ∧
    v.follow?.1.follow? = (v.follow?.1, false) ∧
    v.follow?.1 = { v with offset := v.follow?.1.offset } := by
  have counted : v.grid.height = v.grid.rows := by
    have small := height.2
    exact Grid.height_of_lt (by omega)
  have tall : 0 < v.grid.height := by omega
  have shown : v.follow.onScreen = true := onScreen_follow tall
  obtain ⟨lowers, raises⟩ := loops_follow v
  refine ⟨⟨_, _, _, lowers, raises, idle_loop tall⟩, shown, ?nearest, ?place, ?moved, ?again, rfl⟩
  case nearest =>
    intro offset other apart
    exact offset_nearer other apart
  case place =>
    show v.follow.offset = _
    rw [offset_follow, bottom, counted, Int.max_comm]
  case moved => exact bne_iff_ne
  case again => exact follow?_of_onScreen tall shown

/-- On two rows a window that the cursor is under is lowered until the cursor is on its bottom
row, and one that the cursor is over is raised until it is on the top row. -/
theorem follow_nearest_small :
    let below : Viewport := { grid := ⟨3, 2⟩, cursor := ⟨0, 5⟩, offset := -1 }
    let above : Viewport := { grid := ⟨3, 2⟩, cursor := ⟨0, 1⟩, offset := -4 }
    0 < below.grid.rows ∧ Word.FitsSigned below.grid.rows ∧
      below.follow?.1.offset = -4 ∧ below.follow?.2 = true ∧ below.follow?.1.onScreen = true ∧
      above.follow?.1.offset = -1 ∧ above.follow?.1.follow? = (above.follow?.1, false) := by
  intro below above
  have rows : 0 < below.grid.rows := by decide
  have height : Word.FitsSigned below.grid.rows := by decide
  obtain ⟨-, shown, -, down, moved, -⟩ := follow_nearest below rows height
  obtain ⟨-, -, -, up, -, again, -⟩ := follow_nearest above rows height
  exact ⟨rows, height, down, moved.2 (by rw [down]; decide), shown, up, again⟩

end Viewport

end GlyphConsole
