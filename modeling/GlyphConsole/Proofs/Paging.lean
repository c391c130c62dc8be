import Mathlib.Data.List.Induction
import GlyphConsole.Proofs.Operations

/-!
# GlyphConsole.Proofs.Paging — how far the window can be scrolled by hand

There are two ways to scroll by hand, and each has an end: the first row of the page, and the
*live* offset, at which the cursor stands on the bottom row.  The rows that are left up to the
end are the `room` that a viewport has.  One scroll takes a row of it if there is one, and says
whether there was (`act_way`, `Console.reply_way`), so many scrolls take so many rows
(`Console.viewport_scrolls`, `Console.replies_scrolls`), and nothing else changes.

The live offset rises when the cursor goes up, and the window stays as long as it shows the
cursor.  So a window can be below the live offset: there is no room then towards newer output,
and a scroll towards older output brings it back by a row at most.  What holds is that no
operation lowers the window further than to the live offset that it leaves
(`min_liveOffset_le_act`).  Hence a window is not below the live offset of some cursor since the
last clear (`Console.live_before`), and that of the present cursor is its bound exactly as long
as it has not been passed (`Console.scrolls_above_cursors`).
-/

namespace GlyphConsole

set_option autoImplicit false

open Console (Action Reply)

/-! ## Two ways to scroll -/

/-- A way to scroll by hand. -/
inductive Way where
  /-- Towards older output, as far as the first row. -/
  | older
  /-- Towards newer output, as far as the cursor. -/
  | newer
deriving DecidableEq

namespace Way

/-- The operation that scrolls this way by a row. -/
def action : Way → Action
  | .older => .scrollOlder
  | .newer => .scrollNewer

/-- What a row this way adds to the offset. -/
def stride : Way → Int
  | .older => 1
  | .newer => -1

end Way

namespace Viewport

variable {v : Viewport}

theorem liveOffset_eq (usable : v.grid.Usable) :
    v.liveOffset = min 0 ((v.grid.rows : Int) - 1 - v.cursor.row) := by
  rw [liveOffset, bottom, usable.height_eq, Int.min_comm]

/-- The rows that the window can still be scrolled this way. -/
def room (v : Viewport) : Way → Nat
  | .older => (-v.offset).toNat
  | .newer => (v.offset - v.liveOffset).toNat

/-- The window so many rows further this way, or at its end. -/
def scrolled (v : Viewport) (way : Way) (rows : Nat) : Viewport :=
  { v with offset := v.offset + way.stride * (min rows (v.room way) : Nat) }

@[simp] theorem cursor_scrolled (v : Viewport) (way : Way) (rows : Nat) :
    (v.scrolled way rows).cursor = v.cursor := rfl

@[simp] theorem visible_scrolled (v : Viewport) (way : Way) (rows : Nat) :
    (v.scrolled way rows).visible = v.visible := rfl

@[simp] theorem liveOffset_scrolled (v : Viewport) (way : Way) (rows : Nat) :
    (v.scrolled way rows).liveOffset = v.liveOffset := rfl

theorem offset_scrolled (v : Viewport) (way : Way) (rows : Nat) :
    (v.scrolled way rows).offset = v.offset + way.stride * (min rows (v.room way) : Nat) := rfl

theorem scrolled_zero (v : Viewport) (way : Way) : v.scrolled way 0 = v := by
  simp [scrolled]

theorem room_scrolled (v : Viewport) (way : Way) (rows : Nat) :
    (v.scrolled way rows).room way = v.room way - rows := by
  cases way with
  | older =>
      rw [room, offset_scrolled, room, Way.stride]
      omega
  | newer =>
      rw [room, liveOffset_scrolled, offset_scrolled, room, Way.stride]
      omega

theorem scrolled_scrolled (v : Viewport) (way : Way) (first second : Nat) :
    (v.scrolled way first).scrolled way second = v.scrolled way (first + second) := by
  have taken : min first (v.room way) + min second (v.room way - first) =
      min (first + second) (v.room way) := by omega
  rw [scrolled, room_scrolled]
  simp only [scrolled, ← taken, Int.natCast_add, Int.mul_add, Int.add_assoc]

/-- A scroll takes a row of the room there is. -/
theorem act_way (v : Viewport) (tabWidth : Nat) (way : Way) :
    v.act tabWidth way.action = v.scrolled way 1 := by
  cases way with
  | older =>
      show v.older = _
      unfold older scrolled room Way.stride
      split
      · rw [show (-v.offset).toNat = 0 by omega]
        simp
      · rw [show min 1 (-v.offset).toNat = 1 by omega]
        simp
  | newer =>
      show v.newer = _
      unfold newer scrolled room Way.stride
      split
      · rw [show (v.offset - v.liveOffset).toNat = 0 by omega]
        simp
      · rw [show min 1 (v.offset - v.liveOffset).toNat = 1 by omega]
        simp [Int.sub_eq_add_neg]

/-! ## The live offset -/

/-- No operation lowers the window further than to the live offset. -/
theorem min_liveOffset_le_act (v : Viewport) (tabWidth : Nat) (action : Action) :
    min v.offset (v.act tabWidth action).liveOffset ≤ (v.act tabWidth action).offset := by
  -- Whatever moves the cursor follows it afterwards, from the offset that there was before.
  have followed : ∀ w : Viewport, w.offset = v.offset →
      min v.offset w.follow.liveOffset ≤ w.follow.offset := by
    intro w same
    rw [offset_follow, liveOffset, cursor_follow, bottom, grid_follow, ← bottom]
    omega
  have written : ∀ cs, min v.offset ((v.steps cs).showCursor true).follow.liveOffset ≤
      ((v.steps cs).showCursor true).follow.offset := fun cs => followed _ (offset_steps v cs)
  cases action with
  | write text color => exact written _
  | backspace => exact written _
  | moveBy columns rows => exact followed _ (offset_moveBy v columns rows)
  | clear =>
      show min v.offset v.reset.liveOffset ≤ 0
      rw [liveOffset]
      omega
  | redraw => exact Int.min_le_left _ _
  | toggle pending => cases pending <;> exact Int.min_le_left _ _
  | scrollOlder =>
      rw [show Action.scrollOlder = Way.older.action from rfl, act_way, offset_scrolled, Way.stride]
      omega
  | scrollNewer =>
      rw [show Action.scrollNewer = Way.newer.action from rfl, act_way, liveOffset_scrolled,
        offset_scrolled, Way.stride, room]
      omega

/-- A window comes back to the live offset if a row towards older output is all it takes. -/
theorem liveOffset_le_scrolled_iff (low : v.offset ≤ 0) (way : Way) :
    v.liveOffset ≤ (v.scrolled way 1).offset ↔
      v.liveOffset ≤ v.offset + (if way = .older then 1 else 0) := by
  have top : v.liveOffset ≤ 0 := Int.min_le_right _ _
  rw [offset_scrolled, room.eq_def]
  cases way with
  | older =>
      simp only [Way.stride, if_true]
      omega
  | newer =>
      simp only [Way.stride, reduceCtorEq, if_false]
      omega

/-! ## The ends of the ways -/

/-- From the first row there is room as far as it takes to show the cursor. -/
theorem room_newer_of_top (usable : v.grid.Usable) (top : v.offset = 0) :
    v.room .newer = (v.cursor.row - (v.grid.rows - 1)).toNat := by
  rw [room, liveOffset_eq usable, top]
  omega

/-- A cursor that the window shows is in this cell. -/
theorem cursorCell?_of_row {row : Nat} (usable : v.grid.Usable)
    (there : v.cursor.row + v.offset = row) (inside : row < v.grid.rows) :
    v.cursorCell? = some ⟨v.cursor.column, row⟩ := by
  have shown : v.screenRow? v.cursor.row = some row := by
    rw [screenRow?_eq_some, usable.height_eq]
    exact ⟨there, Int.ofNat_lt.2 inside⟩
  rw [cursorCell?, shown]
  rfl

/-- At the end of the way to newer output the window shows the cursor. -/
theorem Regular.onScreen_of_no_room (regular : v.Regular) (none : v.room .newer = 0) :
    v.onScreen = true := by
  have height := regular.usable.height_eq
  have rows := regular.usable.rows_pos
  have above := regular.not_above
  rw [onScreen_iff]
  simp only [room, liveOffset, bottom] at none
  omega

end Viewport

/-! ## Scrolling again and again -/

namespace Console

variable {con : Console}

/-- What operations answer that are carried out in turn. -/
def replies (con : Console) : List Action → List Reply
  | [] => []
  | action :: rest => (con.act action).2 :: (con.act action).1.1.replies rest

/-- A scroll says whether there was room for it. -/
theorem reply_way (con : Console) (way : Way) :
    (con.act way.action).2 = .moved (decide (0 < con.viewport.room way)) := by
  cases way with
  | older =>
      show Reply.moved con.viewport.scrollOlder.2 = _
      rw [Viewport.scrollOlder_eq, Viewport.room]
      simp
  | newer =>
      show Reply.moved con.viewport.scrollNewer.2 = _
      rw [Viewport.scrollNewer_eq, Viewport.room]
      congr 1
      rw [decide_eq_decide]
      omega

theorem viewport_act_way (usable : con.viewport.grid.Usable) (way : Way) :
    (con.act way.action).1.1.viewport = con.viewport.scrolled way 1 := by
  rw [viewport_act usable, Viewport.act_way]

theorem usable_act_way (usable : con.viewport.grid.Usable) (way : Way) :
    (con.act way.action).1.1.viewport.grid.Usable := by
  rw [viewport_act_way usable]
  exact usable

/-- So many scrolls move the window by so many rows, as long as there is room. -/
theorem viewport_scrolls (usable : con.viewport.grid.Usable) (way : Way) (count : Nat) :
    (con.run (List.replicate count way.action)).1.viewport = con.viewport.scrolled way count := by
  induction count generalizing con with
  | zero => exact (Viewport.scrolled_zero _ way).symm
  | succ count ih =>
      rw [List.replicate_succ, run_cons, ih (usable_act_way usable way),
        viewport_act_way usable way, Viewport.scrolled_scrolled, Nat.add_comm 1 count]

/-- They answer so as long as there is room, and otherwise after that. -/
theorem replies_scrolls (usable : con.viewport.grid.Usable) (way : Way) (count : Nat) :
    con.replies (List.replicate count way.action) =
      List.replicate (min count (con.viewport.room way)) (.moved true) ++
        List.replicate (count - con.viewport.room way) (.moved false) := by
  induction count generalizing con with
  | zero => simp [replies]
  | succ count ih =>
      have left : (con.act way.action).1.1.viewport.room way = con.viewport.room way - 1 := by
        rw [viewport_act_way usable, Viewport.room_scrolled]
      rw [List.replicate_succ, replies, ih (usable_act_way usable way), left, reply_way]
      cases con.viewport.room way with
      | zero => simp [List.replicate_succ]
      | succ room => simp [List.replicate_succ, Nat.add_min_add_right]

/-- Scrolling to and fro moves the window alone. -/
theorem run_ways (usable : con.viewport.grid.Usable) (ways : List Way) :
    let after := (con.run (ways.map Way.action)).1
    after.cursor = con.cursor ∧ after.viewport.visible = con.viewport.visible ∧
      after.history = con.history := by
  induction ways generalizing con with
  | nil => exact ⟨rfl, rfl, rfl⟩
  | cons way rest ih =>
      have first := viewport_act_way usable way
      obtain ⟨cursor, visible, history⟩ := ih (usable_act_way usable way)
      refine ⟨cursor.trans ?_, visible.trans ?_, history.trans ?_⟩
      · show (con.act way.action).1.1.viewport.cursor = con.viewport.cursor
        rw [first, Viewport.cursor_scrolled]
      · rw [first, Viewport.visible_scrolled]
      · rw [history_act]
        cases way <;> rfl

/-! ## The bounds of the window -/

/-- The window is not below the live offset of the cursor as it was at some time since the last
clear. -/
theorem live_before (regular : con.viewport.Regular)
    (begun : con.viewport.liveOffset ≤ con.viewport.offset) (actions : List Action) :
    ∃ first second, actions = first ++ second ∧ .clear ∉ second ∧
      (con.run first).1.viewport.liveOffset ≤ (con.run actions).1.viewport.offset := by
  -- Over the last operation: the split moves up to it if the window is not below the live offset
  -- it leaves, and otherwise the window has not been lowered and the split stays.
  induction actions using List.reverseRecOn with
  | nil => exact ⟨[], [], rfl, List.not_mem_nil, begun⟩
  | append_singleton before action ih =>
      obtain ⟨first, second, rfl, clearless, above⟩ := ih
      have usable := (regular_run regular (first ++ second)).usable
      have ended : (con.run (first ++ second ++ [action])).1.viewport =
          (con.run (first ++ second)).1.viewport.act
            (con.run (first ++ second)).1.config.tabWidth action := by
        rw [run_append]
        exact viewport_act usable action
      have low := (con.run (first ++ second)).1.viewport.min_liveOffset_le_act
        (con.run (first ++ second)).1.config.tabWidth action
      rw [← ended] at low
      by_cases live : (con.run (first ++ second ++ [action])).1.viewport.liveOffset ≤
          (con.run (first ++ second ++ [action])).1.viewport.offset
      · exact ⟨_, [], (List.append_nil _).symm, List.not_mem_nil, live⟩
      · have kept : action ≠ .clear := by
          rintro rfl
          rw [ended] at live
          exact live (Int.min_le_right _ _)
        refine ⟨first, second ++ [action], List.append_assoc _ _ _, ?_, by omega⟩
        simp [clearless, kept.symm]

/-- So it is after one more scroll. -/
theorem live_before_way (regular : con.viewport.Regular)
    (begun : con.viewport.liveOffset ≤ con.viewport.offset) (actions : List Action) (way : Way) :
    ∃ first second, actions = first ++ second ∧ .clear ∉ second ∧
      (con.run first).1.viewport.liveOffset ≤
        ((con.run actions).1.act way.action).1.1.viewport.offset := by
  have usable := (regular_run regular actions).usable
  have low := (con.run actions).1.viewport.min_liveOffset_le_act
    (con.run actions).1.config.tabWidth way.action
  rw [← viewport_act usable, viewport_act_way usable, Viewport.liveOffset_scrolled] at low
  rw [viewport_act_way usable]
  by_cases reached : (con.run actions).1.viewport.liveOffset ≤
      ((con.run actions).1.viewport.scrolled way 1).offset
  · exact ⟨actions, [], (List.append_nil _).symm, List.not_mem_nil, reached⟩
  · obtain ⟨first, second, split, clearless, above⟩ := live_before regular begun actions
    exact ⟨first, second, split, clearless, by omega⟩

/-- **The window is bounded by where the cursor has been.**  Let `live` be the offset at which the
cursor stands on the bottom row, once the page fills the screen.  After a scroll in either way,
the window does not begin above the page, and it is not below the live offset of the cursor as it
was at some time since the last clear.  It is below that of the cursor as it is exactly if it was
before, towards older output by more than the row that was scrolled; and an operation brings it
there only if it leaves the cursor on a higher row. -/
theorem scrolls_above_cursors {surface cell : Extent} {config : ConsoleConfig} {out : Output}
    (created : create surface cell config = .ok (con, out)) (actions : List Action) :
    let before := (con.run actions).1
    let live (now : Console) : Int := min 0 ((con.grid.rows : Int) - 1 - now.cursor.row)
    (∀ way : Way,
      let after := (before.act way.action).1.1
      after.viewport.offset ≤ 0 ∧
      (∃ first second, actions = first ++ second ∧ .clear ∉ second ∧
        live (con.run first).1 ≤ after.viewport.offset) ∧
      (live after ≤ after.viewport.offset ↔
        live before ≤ before.viewport.offset + (if way = .older then 1 else 0))) ∧
    ∀ action,
      let after := (before.act action).1.1
      live before ≤ before.viewport.offset → before.cursor.row ≤ after.cursor.row →
        live after ≤ after.viewport.offset := by
  intro before live
  obtain ⟨usable, origin⟩ := viewport_of_create created
  have begun := regular_of_create created
  have regular : before.viewport.Regular := regular_run begun actions
  have live_eq : ∀ now : Console, now.viewport.grid = con.grid →
      now.viewport.liveOffset = live now := by
    intro now same
    rw [Viewport.liveOffset_eq (same ▸ usable), same]
    rfl
  have liveBefore := live_eq before (grid_run begun actions)
  have liveAfter : ∀ action, (before.act action).1.1.viewport.liveOffset =
      live (before.act action).1.1 := fun action =>
    live_eq _ ((grid_act regular.usable action).trans (grid_run begun actions))
  refine ⟨fun way => ?_, fun action above down => ?_⟩
  · intro after
    have start : con.viewport.liveOffset ≤ con.viewport.offset := by
      rw [origin]
      exact Int.min_le_right _ _
    obtain ⟨first, second, split, clearless, bound⟩ := live_before_way begun start actions way
    rw [live_eq _ (grid_run begun first)] at bound
    have moved : after.viewport = before.viewport.scrolled way 1 :=
      viewport_act_way regular.usable way
    refine ⟨(regular_act regular way.action).offset_nonpos,
      ⟨first, second, split, clearless, bound⟩, ?_⟩
    rw [← liveAfter way.action, moved, Viewport.liveOffset_scrolled, ← liveBefore]
    exact Viewport.liveOffset_le_scrolled_iff regular.offset_nonpos way
  · have low := before.viewport.min_liveOffset_le_act before.config.tabWidth action
    rw [← viewport_act regular.usable, liveAfter] at low
    simp only [live] at above low ⊢
    omega

/-- On two rows the cursor goes up from the fourth row to the third.  The window is below its live
offset then, and after a scroll towards newer output it is not below that of the fourth row. -/
theorem scrolls_above_cursors_small :
    create ⟨24, 32⟩ ⟨8, 16⟩ {} = .ok (start ⟨3, 2⟩ {}) ∧
      let before := ((start ⟨3, 2⟩ {}).1.run [.write "\n\n\n" .white, .moveBy 0 (-1)]).1
      ¬ min 0 ((2 : Int) - 1 - before.cursor.row) ≤ before.viewport.offset ∧
        ∃ first second, [Action.write "\n\n\n" .white, .moveBy 0 (-1)] = first ++ second ∧
          .clear ∉ second ∧
          min 0 ((2 : Int) - 1 - ((start ⟨3, 2⟩ {}).1.run first).1.cursor.row) ≤
            (before.act .scrollNewer).1.1.viewport.offset := by
  have created : create ⟨24, 32⟩ ⟨8, 16⟩ {} =
      .ok ((start ⟨3, 2⟩ {}).1, (start ⟨3, 2⟩ {}).2) := rfl
  have below : ¬ min 0 ((2 : Int) - 1 -
      ((start ⟨3, 2⟩ {}).1.run [.write "\n\n\n" .white, .moveBy 0 (-1)]).1.cursor.row) ≤
      ((start ⟨3, 2⟩ {}).1.run
        [.write "\n\n\n" .white, .moveBy 0 (-1)]).1.viewport.offset := by
    decide +kernel
  have bounds := (scrolls_above_cursors created
    [.write "\n\n\n" .white, .moveBy 0 (-1)]).1 .newer
  exact ⟨created, below, bounds.2.1⟩

/-- A scroll may leave the window below the live offset of the cursor: on two rows the cursor
goes up by one from the fourth, and the window neither follows it nor is brought back. -/
theorem scrolls_below_cursor :
    let after := ((start ⟨3, 2⟩ {}).1.run
      [.write "\n\n\n" .white, .moveBy 0 (-1), .scrollNewer]).1
    create ⟨24, 32⟩ ⟨8, 16⟩ {} = .ok (start ⟨3, 2⟩ {}) ∧
      after.cursor.row = 2 ∧ after.viewport.offset = -2 ∧
      ¬ (min 0 ((2 : Int) - 1 - after.cursor.row) ≤ after.viewport.offset ∧
        after.viewport.offset ≤ 0) := by
  refine ⟨rfl, ?_⟩
  decide +kernel

/-! ## There and back -/

/-- From the first row, so many scrolls towards newer output show the cursor again. -/
theorem back_to_cursor (regular : con.viewport.Regular) (top : con.viewport.offset = 0) :
    let down := (con.cursor.row - (con.grid.rows - 1)).toNat
    (∀ count, let back := List.replicate count Action.scrollNewer
      con.replies back = List.replicate (min count down) (.moved true) ++
        List.replicate (count - down) (.moved false) ∧
      (con.run back).1.viewport.offset = -min count down) ∧
    ∀ more, (con.run (List.replicate (down + more) .scrollNewer)).1.viewport.cursorCell? =
      some ⟨con.cursor.column, min con.cursor.row.toNat (con.grid.rows - 1)⟩ := by
  intro down
  have usable := regular.usable
  have room : con.viewport.room .newer = down := Viewport.room_newer_of_top usable top
  have moved : ∀ count, (con.run (List.replicate count .scrollNewer)).1.viewport =
      con.viewport.scrolled .newer count := viewport_scrolls usable .newer
  have lowered : ∀ count, (con.viewport.scrolled .newer count).offset = -min count down := by
    intro count
    rw [Viewport.offset_scrolled, top, room, Way.stride]
    omega
  refine ⟨fun count => ⟨?_, ?_⟩, fun more => ?_⟩
  · rw [← room]
    exact replies_scrolls usable .newer count
  · rw [moved, lowered]
  · have low : 0 ≤ con.cursor.row := regular.row_nonneg
    have some : 0 < con.grid.rows := usable.rows_pos
    have last : con.cursor.row + (con.viewport.scrolled .newer (down + more)).offset =
        (min con.cursor.row.toNat (con.grid.rows - 1) : Nat) := by
      rw [lowered]
      omega
    have inside : min con.cursor.row.toNat (con.grid.rows - 1) < con.grid.rows := by omega
    rw [moved]
    exact Viewport.cursorCell?_of_row (v := con.viewport.scrolled .newer (down + more)) usable
      last inside

/-- **Paging reaches all of the page and finds the way back.**  At any time, as many scrolls
towards older output move the window as there are rows above it, by a row each, and every further
one says that it did not.  Then the first row is on top, and from there as many scrolls towards
newer output move the window as it takes to show the cursor, again by a row each; after them the
cursor is on the last row, or on its own if that is on the first screen.  Whenever a scroll
towards newer output does not move the window, the cursor is on the screen.  However one scrolls
to and fro, the cursor stays, and so do its visibility and the history. -/
theorem paging_there_and_back {surface cell : Extent} {config : ConsoleConfig} {out : Output}
    (created : create surface cell config = .ok (con, out)) (actions : List Action) :
    let now := (con.run actions).1
    let above := (-now.viewport.offset).toNat
    let down := (now.cursor.row - (con.grid.rows - 1)).toNat
    (∀ count, let there := List.replicate count Action.scrollOlder
      now.replies there = List.replicate (min count above) (.moved true) ++
        List.replicate (count - above) (.moved false) ∧
      (now.run there).1.viewport.offset = now.viewport.offset + min count above) ∧
    (∀ further, let top := (now.run (List.replicate (above + further) .scrollOlder)).1
      top.viewport.offset = 0 ∧ top.viewport.screenRow? 0 = some 0 ∧
      (∀ count, let back := List.replicate count Action.scrollNewer
        top.replies back = List.replicate (min count down) (.moved true) ++
          List.replicate (count - down) (.moved false) ∧
        (top.run back).1.viewport.offset = -min count down) ∧
      ∀ more, (top.run (List.replicate (down + more) .scrollNewer)).1.viewport.cursorCell? =
        some ⟨now.cursor.column, min now.cursor.row.toNat (con.grid.rows - 1)⟩) ∧
    ((now.act .scrollNewer).2 = .moved false → now.viewport.onScreen = true) ∧
    ∀ ways : List Way, let after := (now.run (ways.map Way.action)).1
      after.cursor = now.cursor ∧ after.viewport.visible = now.viewport.visible ∧
        after.history = now.history := by
  intro now above down
  have begun := regular_of_create created
  have regular : now.viewport.Regular := regular_run begun actions
  have same : now.viewport.grid = con.grid := grid_run begun actions
  refine ⟨fun count => ?_, fun further => ?_, ?_, run_ways regular.usable⟩
  · have moved := viewport_scrolls regular.usable .older count
    refine ⟨replies_scrolls regular.usable .older count, ?_⟩
    rw [show Action.scrollOlder = Way.older.action from rfl, moved, Viewport.offset_scrolled,
      Way.stride, Int.one_mul]
    rfl
  · intro top
    have moved : top.viewport = now.viewport.scrolled .older (above + further) :=
      viewport_scrolls regular.usable .older (above + further)
    have offset : top.viewport.offset = 0 := by
      have low := regular.offset_nonpos
      rw [moved, Viewport.offset_scrolled, Way.stride, Viewport.room]
      omega
    have cursor : top.cursor = now.cursor := by
      rw [Console.cursor, moved]
      rfl
    have grid : top.grid = con.grid := (grid_run regular _).trans same
    have regularTop : top.viewport.Regular := regular_run regular _
    have back := back_to_cursor regularTop offset
    rw [cursor, grid] at back
    refine ⟨offset, ?_, back⟩
    have some := regularTop.usable.rows_pos
    rw [Viewport.screenRow?_eq_some, offset, regularTop.usable.height_eq]
    omega
  · intro refused
    have answer := now.reply_way .newer
    have noRoom : now.viewport.room .newer = 0 := by
      have stopped := refused.symm.trans answer
      simpa using stopped
    exact regular.onScreen_of_no_room noRoom

/-- On two rows, four rows of text are scrolled by two: two scrolls back reach the first row and a
third does not move, two of three scrolls lead to the cursor again. -/
theorem paging_there_and_back_small :
    create ⟨24, 32⟩ ⟨8, 16⟩ {} = .ok (start ⟨3, 2⟩ {}) ∧
      let now := ((start ⟨3, 2⟩ {}).1.run [.write "a\n\rb\n\rc\n\rd" .white]).1
      let top := (now.run (List.replicate 2 .scrollOlder)).1
      now.replies (List.replicate 3 .scrollOlder) = [.moved true, .moved true, .moved false] ∧
        top.viewport.offset = 0 ∧
        top.replies (List.replicate 3 .scrollNewer) = [.moved true, .moved true, .moved false] ∧
        (top.run (List.replicate 2 .scrollNewer)).1.viewport.cursorCell? = some ⟨1, 1⟩ := by
  have created : create ⟨24, 32⟩ ⟨8, 16⟩ {} =
      .ok ((start ⟨3, 2⟩ {}).1, (start ⟨3, 2⟩ {}).2) := rfl
  have cursor : ((start ⟨3, 2⟩ {}).1.run [.write "a\n\rb\n\rc\n\rd" .white]).1.cursor = ⟨1, 3⟩ := by
    decide +kernel
  have offset : ((start ⟨3, 2⟩ {}).1.run
      [.write "a\n\rb\n\rc\n\rd" .white]).1.viewport.offset = -2 := by
    decide +kernel
  have rows : (start ⟨3, 2⟩ {}).1.grid.rows = 2 := rfl
  obtain ⟨there, back, -, -⟩ := paging_there_and_back created [.write "a\n\rb\n\rc\n\rd" .white]
  rw [offset] at there back
  rw [cursor, rows] at back
  obtain ⟨top, -, returns, ends⟩ := back 0
  exact ⟨created, (there 3).1, top, (returns 3).1, ends 0⟩

end Console

end GlyphConsole
