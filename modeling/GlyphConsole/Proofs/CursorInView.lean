import GlyphConsole.Proofs.Operations

/-!
# GlyphConsole.Proofs.CursorInView — how the cursor gets off the screen

A viewport that is `Regular` can lose its cursor in one direction only: a cursor that is
not `InView` is below the last row of the screen (`Regular.below`).  `follow` brings it
back from anywhere (`inView_follow`), so every operation that follows the cursor ends with
it in view, wherever it was before (`inView_act_of_follows`).

Of the operations that do not follow the cursor, a redraw and a toggle move nothing, and
scrolling towards newer output stops before the cursor would leave at the top
(`InView.newer`).  What is left is one row of scrolling towards older output, after which
the cursor may stand on the row just below the screen (`InView.act`).
-/

namespace GlyphConsole

set_option autoImplicit false

/-- The operation scrolls to the cursor, wherever the cursor and the window were. -/
def Console.Action.Follows : Console.Action → Prop
  | .write .. | .backspace | .moveBy .. | .clear => True
  | .redraw | .scrollNewer | .scrollOlder | .toggle _ => False

namespace Viewport

variable {v : Viewport}

/-- The cursor's row is one of the rows of the screen. -/
def InView (v : Viewport) : Prop :=
  0 ≤ v.cursor.row + v.offset ∧ v.cursor.row + v.offset ≤ v.grid.rows - 1

theorem inView_iff_onScreen (usable : v.grid.Usable) : v.InView ↔ v.onScreen = true := by
  rw [onScreen_iff, usable.height_eq]
  constructor
  · intro ⟨above, below⟩
    exact ⟨above, by omega⟩
  · intro ⟨above, below⟩
    exact ⟨above, by omega⟩

theorem inView_follow (usable : v.grid.Usable) : v.follow.InView :=
  (inView_iff_onScreen (v := v.follow) usable).2 (onScreen_follow usable.height_pos)

/-- A cursor that is out of view is below the screen. -/
theorem Regular.below (regular : v.Regular) (lost : ¬ v.InView) :
    v.grid.rows ≤ v.cursor.row + v.offset := by
  have above := regular.not_above
  simp only [InView, above, true_and] at lost
  omega

/-! ## One operation -/

/-- The window stops on its way to newer output while the cursor is in the rows it shows. -/
theorem InView.newer (regular : v.Regular) (inView : v.InView) : v.newer.InView := by
  have height := regular.usable.height_eq
  have rows := regular.usable.rows_pos
  have low := regular.offset_nonpos
  obtain ⟨above, below⟩ := inView
  unfold Viewport.newer
  split
  · exact ⟨above, below⟩
  · rename_i room
    simp only [liveOffset, bottom, height] at room
    constructor
    · show 0 ≤ v.cursor.row + (v.offset - 1)
      omega
    · show v.cursor.row + (v.offset - 1) ≤ v.grid.rows - 1
      omega

/-- One row towards older output takes a cursor out of view only from the last row of the
screen, onto the row below it. -/
theorem InView.older (inView : v.InView) :
    v.older.InView ∨ v.older.cursor.row + v.older.offset = v.grid.rows := by
  obtain ⟨above, below⟩ := inView
  unfold Viewport.older
  split
  · exact .inl ⟨above, below⟩
  · by_cases last : v.cursor.row + v.offset = v.grid.rows - 1
    · right
      show v.cursor.row + (v.offset + 1) = v.grid.rows
      omega
    · left
      constructor
      · show 0 ≤ v.cursor.row + (v.offset + 1)
        omega
      · show v.cursor.row + (v.offset + 1) ≤ v.grid.rows - 1
        omega

theorem inView_reset (usable : v.grid.Usable) : v.reset.InView := by
  have rows := usable.rows_pos
  constructor
  · exact Int.le_refl 0
  · show (0 : Int) + 0 ≤ v.grid.rows - 1
    omega

theorem inView_act_of_follows (usable : v.grid.Usable) (tabWidth : Nat)
    {action : Console.Action} (follows : action.Follows) : (v.act tabWidth action).InView := by
  have written : ∀ cs, ((v.steps cs).showCursor true).follow.InView := by
    intro cs
    apply inView_follow
    rw [grid_showCursor, grid_steps]
    exact usable
  cases action with
  | write text color => exact written _
  | backspace => exact written _
  | moveBy columns rows =>
      apply inView_follow
      rw [grid_moveBy]
      exact usable
  | clear => exact inView_reset usable
  | redraw | scrollNewer | scrollOlder | toggle pending => exact follows.elim

theorem act_of_still (tabWidth : Nat) {action : Console.Action}
    (still : action = .redraw ∨ ∃ pending, action = .toggle pending) :
    (v.act tabWidth action).cursor = v.cursor ∧ (v.act tabWidth action).offset = v.offset := by
  rcases still with rfl | ⟨pending, rfl⟩
  · exact ⟨rfl, rfl⟩
  · cases pending <;> exact ⟨rfl, rfl⟩

/-- No operation but scrolling towards older output takes the cursor out of view. -/
theorem InView.act (regular : v.Regular) (inView : v.InView) (tabWidth : Nat)
    (action : Console.Action) :
    (v.act tabWidth action).InView ∨
      action = .scrollOlder ∧
        (v.act tabWidth action).cursor.row + (v.act tabWidth action).offset = v.grid.rows := by
  cases action with
  | write text color => exact .inl (inView_act_of_follows regular.usable tabWidth trivial)
  | backspace => exact .inl (inView_act_of_follows regular.usable tabWidth trivial)
  | moveBy columns rows => exact .inl (inView_act_of_follows regular.usable tabWidth trivial)
  | clear => exact .inl (inView_act_of_follows regular.usable tabWidth trivial)
  | redraw => exact .inl inView
  | toggle pending => cases pending <;> exact .inl inView
  | scrollNewer => exact .inl (inView.newer regular)
  | scrollOlder =>
      rcases inView.older with shown | lost
      · exact .inl shown
      · exact .inr ⟨rfl, lost⟩

end Viewport

namespace Console

variable {con : Console}

/-- **The cursor leaves the screen by scrolling back only, and only below it.**  Whatever is
done with a console, the cursor is in a column of the grid and on a row of the page, and
the window begins on the page and not below the cursor.  The cursor is in view at first and
after everything that follows it; a redraw and a toggle move nothing; and an operation that
takes the cursor out of view scrolls towards older output and leaves the cursor on the row
below the screen. -/
theorem cursor_in_view {surface cell : Extent} {config : ConsoleConfig} {out : Output}
    (created : create surface cell config = .ok (con, out)) (actions : List Action) :
    let before := (con.run actions).1
    let v := before.viewport
    (v.grid = con.grid ∧ v.cursor.column < con.grid.columns ∧ 0 ≤ v.cursor.row ∧
      -v.cursor.row ≤ v.offset ∧ v.offset ≤ 0) ∧
    con.viewport.InView ∧
    (¬ v.InView → con.grid.rows ≤ v.cursor.row + v.offset) ∧
    ∀ action, let w := (before.act action).1.1.viewport
      (action.Follows → w.InView) ∧
      (action = .redraw ∨ (∃ pending, action = .toggle pending) →
        w.cursor = v.cursor ∧ w.offset = v.offset) ∧
      (v.InView → w.InView ∨
        action = .scrollOlder ∧ w.cursor.row + w.offset = con.grid.rows) := by
  intro before v
  obtain ⟨usable, origin⟩ := viewport_of_create created
  have begun := regular_of_create created
  have regular : v.Regular := regular_run begun actions
  have same : v.grid = con.grid := grid_run begun actions
  have first : con.viewport.InView := by
    rw [origin]
    exact Viewport.inView_reset (v := { grid := con.grid }) usable
  refine ⟨⟨same, ?_, regular.row_nonneg, ?_, regular.offset_nonpos⟩, first, ?_, ?_⟩
  · rw [← same]
    exact regular.column_lt
  · have above := regular.not_above
    omega
  · intro lost
    rw [← same]
    exact regular.below lost
  · intro action w
    have moved : w = v.act before.config.tabWidth action := viewport_act regular.usable action
    rw [moved, ← same]
    exact ⟨Viewport.inView_act_of_follows regular.usable _, Viewport.act_of_still _,
      fun inView => inView.act regular _ action⟩

/-- On two rows, a text of three rows is scrolled by one, and scrolling back by that row
leaves the cursor below the screen. -/
theorem cursor_in_view_small :
    create ⟨24, 32⟩ ⟨8, 16⟩ {} = .ok (start ⟨3, 2⟩ {}) ∧
      ((start ⟨3, 2⟩ {}).1.run [.write "ab\ncd" .pureRed]).1.viewport.InView ∧
      (((start ⟨3, 2⟩ {}).1.run [.write "ab\ncd" .pureRed]).1.act
        .scrollOlder).1.1.viewport.cursor.row +
      (((start ⟨3, 2⟩ {}).1.run [.write "ab\ncd" .pureRed]).1.act
        .scrollOlder).1.1.viewport.offset = 2 := by
  have created : create ⟨24, 32⟩ ⟨8, 16⟩ {} =
      .ok ((start ⟨3, 2⟩ {}).1, (start ⟨3, 2⟩ {}).2) := rfl
  have shown : ((start ⟨3, 2⟩ {}).1.run [.write "ab\ncd" .pureRed]).1.viewport.InView :=
    ((cursor_in_view created []).2.2.2 (.write "ab\ncd" .pureRed)).1 trivial
  have gone : ¬ (((start ⟨3, 2⟩ {}).1.run [.write "ab\ncd" .pureRed]).1.act
      .scrollOlder).1.1.viewport.InView := by
    unfold Viewport.InView
    decide +kernel
  have scrolled := ((cursor_in_view created [.write "ab\ncd" .pureRed]).2.2.2
    .scrollOlder).2.2 shown
  exact ⟨created, shown, (scrolled.resolve_left gone).2⟩

end Console

end GlyphConsole
