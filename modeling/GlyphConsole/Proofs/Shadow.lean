import GlyphConsole.Proofs.Operations

/-!
# GlyphConsole.Proofs.Shadow — the shadow and the surface say the same

The shadow remembers which glyph stands in which cell.  A pen is `Faithful` to a picture
if, once its calls have been made, every cell shows what the shadow says, except that one
cell, the `lit` one, shows the color of the cursor.

Laying keeps a pen with no lit cell faithful (`stable_faithful`); taking the cursor off
makes the lit cell plain again (`Faithful.putBack`); and every operation that ends by
showing the cursor ends with the cell under the cursor lit (`Faithful.shown`).  For a
console this is `Displays`, kept by every operation (`displays_act`).  The one thing to
keep track of is that after `clear` the cursor is not drawn although it is to be seen:
`Action.bares` says so, and a toggle that is refused leaves it that way.
-/

namespace GlyphConsole

set_option autoImplicit false

/-- A write at a cell of the grid, seen from a cell whose value is known. -/
theorem Cells.get?_set_of_some {α : Type} {cells : Cells α} {d : Cell} {b : α}
    (before : cells.get? d = some b) (c : Cell) (a : α) :
    (cells.set c a).get? d = some (if d = c then a else b) := by
  have inside : cells.grid.Contains d := by
    rw [← isSome_get?, before]
    rfl
  rw [get?_set]
  by_cases here : d = c
  · subst here
    simp only [inside, and_self, if_true]
  · simp only [here, false_and, if_false, before]

namespace Pen

variable {p : Pen} {picture : Picture}

/-- What the surface shows once the pen's calls have been made. -/
def screen (p : Pen) (picture : Picture) : Picture := picture.run p.output.draws

/-- What stands in a cell according to the shadow. -/
def standing (p : Pen) (c : Cell) : Shown := .standing p.config.background (p.glyphAt? c)

/-- What a cell shows if the cursor is drawn in the lit cell. -/
def seen (p : Pen) (lit : Option Cell) (c : Cell) : Shown :=
  if lit = some c then .filled p.config.cursorColor else p.standing c

/-- The cell that shows the cursor when the cursor has been drawn. -/
def cursorLit (p : Pen) : Option Cell :=
  if p.viewport.visible then p.viewport.cursorCell? else none

/-- Every cell shows what stands in it, or the cursor if it is the lit one. -/
structure Faithful (p : Pen) (picture : Picture) (lit : Option Cell) : Prop where
  sized : picture.grid = p.viewport.grid
  shadowed : p.shadow.grid = p.viewport.grid
  shows : ∀ c, p.viewport.grid.Contains c → (p.screen picture).get? c = some (p.seen lit c)

@[simp] theorem screen_draw (p : Pen) (call : DrawCall) (picture : Picture) :
    (p.draw call).screen picture = (p.screen picture).apply call :=
  Picture.run_push picture _ call

@[simp] theorem screen_present (p : Pen) (picture : Picture) :
    p.present.screen picture = p.screen picture :=
  screen_draw p .present picture

@[simp] theorem grid_screen (p : Pen) (picture : Picture) :
    (p.screen picture).grid = picture.grid :=
  Picture.grid_run picture _

theorem seen_none (p : Pen) (c : Cell) : p.seen none c = p.standing c := by
  simp only [seen, reduceCtorEq, if_false]

theorem standing_putBack (p : Pen) (c : Cell) : p.putBack.standing c = p.standing c := by
  simp only [standing, glyphAt?, shadow_putBack, config_putBack]

theorem standing_highlight (p : Pen) (c : Cell) : p.highlight.standing c = p.standing c := by
  simp only [standing, glyphAt?, shadow_highlight, config_highlight]

/-! ## Laying and wiping -/

theorem screen_lay {cell : Cell} (under : p.viewport.cursorCell? = some cell)
    (glyph : Option Glyph) (picture : Picture) :
    (p.lay glyph).screen picture =
      (p.screen picture).set cell (.standing p.config.background glyph) := by
  rw [← Picture.apply_restore, ← screen_draw]
  simp only [Pen.lay, under]
  rfl

theorem lay_of_none (off : p.viewport.cursorCell? = none) (glyph : Option Glyph) :
    p.lay glyph = p := by
  simp only [Pen.lay, off]

theorem screen_putBack {cell : Cell} (under : p.viewport.cursorCell? = some cell)
    (picture : Picture) :
    p.putBack.screen picture = (p.screen picture).set cell (p.standing cell) := by
  have drawn : p.putBack = p.draw (.restore p.config.background cell (p.glyphAt? cell)) := by
    simp only [putBack_eq, under]
  rw [drawn, screen_draw, Picture.apply_restore]
  rfl

theorem putBack_of_none (off : p.viewport.cursorCell? = none) : p.putBack = p := by
  simp only [putBack_eq, off]

theorem screen_highlight (p : Pen) (picture : Picture) :
    p.highlight.screen picture =
      match p.cursorLit with
      | some cell => (p.screen picture).set cell (.filled p.config.cursorColor)
      | none => p.screen picture := by
  unfold Pen.highlight cursorLit
  split
  · cases p.viewport.cursorCell? with
    | none => rfl
    | some cell => exact screen_draw p _ picture
  · rfl

theorem standing_lay {c : Cell} (inside : p.shadow.grid.Contains c) (glyph : Option Glyph) :
    (p.lay glyph).standing c =
      if p.viewport.cursorCell? = some c then .standing p.config.background glyph
      else p.standing c := by
  simp only [standing, config_lay, glyphAt?_lay inside]
  split <;> rfl

theorem Faithful.lay (faithful : p.Faithful picture none) (glyph : Option Glyph) :
    (p.lay glyph).Faithful picture none := by
  cases under : p.viewport.cursorCell? with
  | none =>
      rw [lay_of_none under]
      exact faithful
  | some cell =>
      refine ⟨faithful.sized.trans (congrArg _ (viewport_lay p glyph).symm), ?_, ?_⟩
      · rw [shadow_grid_lay, viewport_lay]
        exact faithful.shadowed
      · intro c inside
        rw [viewport_lay] at inside
        rw [screen_lay under, Cells.get?_set_of_some (faithful.shows c inside), seen_none,
          seen_none, standing_lay (faithful.shadowed.symm ▸ inside)]
        simp only [under, Option.some.injEq, eq_comm]

/-- Writing keeps the shadow and the surface together. -/
theorem stable_faithful (picture : Picture) : Stable fun p => p.Faithful picture none where
  step c faithful :=
    ⟨faithful.sized.trans (Viewport.grid_step _ c).symm,
      faithful.shadowed.trans (Viewport.grid_step _ c).symm,
      fun cell inside => faithful.shows cell (by rwa [Viewport.grid_step] at inside)⟩
  toRow row faithful := ⟨faithful.sized, faithful.shadowed, faithful.shows⟩
  lay glyph faithful := faithful.lay glyph
  wrap wrapped faithful := ⟨faithful.sized, faithful.shadowed, faithful.shows⟩

/-- After a wipe nothing stands anywhere, and everything shows the background. -/
theorem faithful_wipe (sized : picture.grid = p.viewport.grid)
    (shadowed : p.shadow.grid = p.viewport.grid) : p.wipe.Faithful picture none := by
  refine ⟨sized, shadowed, ?_⟩
  intro c inside
  have onPicture : (p.screen picture).grid.Contains c := by
    rw [grid_screen, sized]
    exact inside
  have onShadow : p.shadow.grid.Contains c := by
    rw [shadowed]
    exact inside
  have cleared : p.wipe.screen picture = (p.screen picture).apply (.clear p.config.background) :=
    screen_draw p _ picture
  rw [cleared, Picture.get?_apply_clear, if_pos onPicture, seen_none]
  simp only [standing, wipe, glyphAt?, Cells.fill, Cells.get?_replicate, onShadow, if_true]
  rfl

/-! ## The cursor -/

theorem Faithful.note {lit : Option Cell} (faithful : p.Faithful picture lit)
    (notice : Log.Notice) : (p.note notice).Faithful picture lit :=
  ⟨faithful.sized, faithful.shadowed, faithful.shows⟩

/-- Faithfulness does not depend on where the cursor is. -/
theorem Faithful.moveTo {lit : Option Cell} (faithful : p.Faithful picture lit) {v : Viewport}
    (sameGrid : v.grid = p.viewport.grid) :
    ({ p with viewport := v } : Pen).Faithful picture lit :=
  ⟨faithful.sized.trans sameGrid.symm, faithful.shadowed.trans sameGrid.symm,
    fun c inside => faithful.shows c (sameGrid ▸ inside)⟩

theorem Faithful.present {lit : Option Cell} (faithful : p.Faithful picture lit) :
    p.present.Faithful picture lit := by
  refine ⟨faithful.sized, faithful.shadowed, fun c inside => ?_⟩
  rw [screen_present]
  exact faithful.shows c inside

/-- Taking the cursor off shows what stood under it. -/
theorem Faithful.putBack {lit : Option Cell} (faithful : p.Faithful picture lit)
    (under : lit = none ∨ lit = p.viewport.cursorCell?) : p.putBack.Faithful picture none := by
  cases cursor : p.viewport.cursorCell? with
  | none =>
      have unlit : lit = none := by
        rcases under with unlit | atCursor
        · exact unlit
        · exact atCursor.trans cursor
      rw [putBack_of_none cursor]
      exact unlit ▸ faithful
  | some cell =>
      refine ⟨faithful.sized.trans (congrArg _ (viewport_putBack p).symm), ?_, fun c inside => ?_⟩
      · rw [shadow_putBack, viewport_putBack]
        exact faithful.shadowed
      rw [viewport_putBack] at inside
      rw [screen_putBack cursor, Cells.get?_set_of_some (faithful.shows c inside), seen_none,
        standing_putBack]
      by_cases here : c = cell
      · rw [if_pos here, here]
      · have unlit : lit ≠ some c := by
          rcases under with rfl | rfl
          · exact (Option.some_ne_none c).symm
          · rw [cursor]
            exact fun same => here (Option.some.inj same).symm
        rw [if_neg here, seen, if_neg unlit]

/-- Drawing the cursor lights its cell, if it is to be seen and on the screen. -/
theorem Faithful.highlight (faithful : p.Faithful picture none) :
    p.highlight.Faithful picture p.cursorLit := by
  refine ⟨faithful.sized.trans (congrArg _ (viewport_highlight p).symm), ?_, fun c inside => ?_⟩
  · rw [shadow_highlight, viewport_highlight]
    exact faithful.shadowed
  rw [viewport_highlight] at inside
  have shown := faithful.shows c inside
  rw [seen_none] at shown
  rw [screen_highlight, seen, standing_highlight, config_highlight]
  cases p.cursorLit with
  | none => simp only [reduceCtorEq, if_false, shown]
  | some cell =>
      dsimp only
      rw [Cells.get?_set_of_some shown]
      simp only [Option.some.injEq, eq_comm]

/-- An operation that shows the cursor ends with the cell under the cursor lit. -/
theorem Faithful.shown (faithful : p.Faithful picture none) :
    p.shown.Faithful picture p.shown.cursorLit := by
  have sameLit : p.shown.cursorLit = p.cursorLit := by
    unfold cursorLit
    rw [viewport_shown]
  rw [sameLit]
  exact faithful.highlight.present

theorem faithful_restored (sized : picture.grid = p.viewport.grid)
    (shadowed : p.shadow.grid = p.viewport.grid) (spans : List Span) :
    (p.restored spans).Faithful picture none := by
  have wiped : (p.unrolled spans).Faithful picture none :=
    (faithful_wipe (p := p.note _) sized shadowed).moveTo rfl
  have replayed := (stable_faithful picture).replay wiped spans
  unfold restored settle
  split
  · exact replayed
  · exact (replayed.note _).moveTo rfl

theorem Faithful.follow (faithful : p.Faithful picture none) : p.follow.Faithful picture none := by
  unfold Pen.follow
  dsimp only
  split
  · exact faithful.moveTo rfl
  · exact (faithful.moveTo (v := p.viewport.follow) rfl).note _

theorem Faithful.ready (faithful : p.Faithful picture none) (spans : List Span) :
    (p.ready spans).Faithful picture none := by
  unfold Pen.ready
  split
  · exact faithful_restored faithful.follow.sized faithful.follow.shadowed spans
  · exact faithful

end Pen

namespace Console

variable {con : Console} {picture : Picture}

/-! ## Consoles -/

/-- What stands in a cell of the screen according to the shadow. -/
def standing (con : Console) (c : Cell) : Shown := con.pen.standing c

/-- The surface shows what stands in the cells, and the cursor unless it was left undrawn. -/
def Displays (con : Console) (picture : Picture) (bare : Bool) : Prop :=
  con.pen.Faithful picture (if bare then none else con.pen.cursorLit)

/-- The operation leaves the cursor undrawn, given whether it was. -/
def Action.bares (bare : Bool) : Action → Bool
  | .clear => true
  | .toggle true => bare
  | _ => false

/-- The cursor is undrawn since the last clear. -/
def bareAfter (bare : Bool) (actions : List Action) : Bool := actions.foldl Action.bares bare

/-- What an operation draws is what its pen drew. -/
theorem run_act (con : Console) (action : Action) (picture : Picture) :
    picture.run (con.act action).1.2.draws = (con.penAfter action).screen picture := by
  rw [act_eq]
  rfl

/-- A console whose pen ended with the cursor drawn displays it. -/
theorem displays_of_lit (con : Console) {p : Pen} (faithful : p.Faithful picture p.cursorLit)
    (config : p.config = con.config) :
    (con.finish p).1.Displays (picture.run (con.finish p).2.draws) false := by
  refine ⟨(Picture.grid_run picture _).trans faithful.sized, faithful.shadowed, ?_⟩
  intro c inside
  have shown := faithful.shows c inside
  simp only [Pen.seen, Pen.standing, config] at shown
  exact shown

/-- A console whose pen ended without the cursor drawn displays what stands in the cells. -/
theorem displays_of_plain {p : Pen} {bare : Bool} (faithful : p.Faithful picture none)
    (unlit : bare = false → p.cursorLit = none) (config : p.config = con.config) :
    (con.finish p).1.Displays (picture.run (con.finish p).2.draws) bare := by
  have none_lit : (if bare then none else (con.finish p).1.pen.cursorLit) = none := by
    cases bare
    · exact unlit rfl
    · rfl
  refine ⟨(Picture.grid_run picture _).trans faithful.sized, faithful.shadowed, ?_⟩
  intro c inside
  have shown := faithful.shows c inside
  rw [none_lit]
  simp only [Pen.seen, Pen.standing, config] at shown
  exact shown

/-- If a cell is lit, the cursor is in it. -/
theorem lit_cases (con : Console) (bare : Bool) :
    (if bare then none else con.pen.cursorLit) = none ∨
      (if bare then none else con.pen.cursorLit) = con.viewport.cursorCell? := by
  cases bare
  · simp only [Bool.false_eq_true, if_false, Pen.cursorLit]
    split
    · exact .inr rfl
    · exact .inl rfl
  · exact .inl rfl

/-- A console whose cursor has been taken off shows what stands in the cells. -/
theorem Displays.erased {bare : Bool} (displays : con.Displays picture bare) :
    con.pen.putBack.Faithful picture none :=
  displays.putBack (con.lit_cases bare)

theorem Displays.inscribed {bare : Bool} (displays : con.Displays picture bare) (text : String)
    (color : Color) : (con.inscribed text color).Faithful picture none := by
  have poised : (con.poised text color).Faithful picture none := by
    unfold poised
    split
    · exact displays.erased.note _
    · exact displays.erased
  have written := (Pen.stable_faithful picture).text poised color
    (con.spanFor text color).text.toList
  exact written.moveTo (Viewport.grid_showCursor _ true)

theorem Displays.moved {bare : Bool} (displays : con.Displays picture bare) (columns rows : Int) :
    (con.moved columns rows).Faithful picture none := by
  refine displays.erased.moveTo ?_
  rw [Viewport.grid_moveBy, Pen.viewport_putBack]
  rfl

/-- Flipping draws a cursor that was not to be seen, and takes off one that was. -/
theorem Displays.flipped {bare : Bool} (displays : con.Displays picture bare) :
    (con.penAfter (.toggle false)).Faithful picture (con.penAfter (.toggle false)).cursorLit := by
  cases visible : con.viewport.visible with
  | false =>
      have unlit : con.pen.cursorLit = none := by
        simp only [Pen.cursorLit, pen, visible, Bool.false_eq_true, if_false]
      have plain : con.pen.Faithful picture none := by
        simpa only [Displays, unlit, ite_self] using displays
      have turned : con.flipped.Faithful picture none := plain.moveTo rfl
      have drawn : con.penAfter (.toggle false) = con.flipped.shown := by
        simp only [penAfter, Console.flipped, Viewport.flipCursor, Viewport.showCursor, visible,
          Bool.not_false, if_true]
        rfl
      rw [drawn]
      exact turned.shown
  | true =>
      have taken : con.penAfter (.toggle false) = con.flipped.putBack.present := by
        simp only [penAfter, Console.flipped, Viewport.flipCursor, Viewport.showCursor, visible,
          Bool.not_true, Bool.false_eq_true, if_false]
      have hidden : con.flipped.viewport.visible = false := by
        simp only [Console.flipped, Viewport.flipCursor, Viewport.showCursor, visible,
          Bool.not_true]
      have unlit : con.flipped.putBack.present.cursorLit = none := by
        simp only [Pen.cursorLit, Pen.present, Pen.draw, Pen.viewport_putBack, hidden,
          Bool.false_eq_true, if_false]
      have turned : con.flipped.Faithful picture (if bare then none else con.pen.cursorLit) :=
        displays.moveTo rfl
      rw [taken, unlit]
      exact (turned.putBack (con.lit_cases bare)).present

/-- What one operation does to the screen, the shadow says as well. -/
theorem displays_act {bare : Bool} (displays : con.Displays picture bare) (action : Action) :
    (con.act action).1.1.Displays (picture.run (con.act action).1.2.draws)
      (action.bares bare) := by
  have sized : picture.grid = con.viewport.grid := displays.sized
  have shadowed : con.shadow.grid = con.viewport.grid := displays.shadowed
  have config := config_penAfter con action
  rw [act_eq]
  cases action with
  | write text color =>
      exact displays_of_lit _ ((displays.inscribed text color).ready _).shown config
  | redraw => exact displays_of_lit _ (Pen.faithful_restored sized shadowed _).shown config
  | scrollNewer =>
      have kept := Viewport.grid_newer con.viewport
      have restored := Pen.faithful_restored (p := con.turned con.viewport.newer)
        (sized.trans kept.symm) (shadowed.trans kept.symm) con.history.spans
      exact displays_of_lit _ restored.shown config
  | scrollOlder =>
      have kept := Viewport.grid_older con.viewport
      have restored := Pen.faithful_restored (p := con.turned con.viewport.older)
        (sized.trans kept.symm) (shadowed.trans kept.symm) con.history.spans
      exact displays_of_lit _ restored.shown config
  | clear =>
      -- The cursor is not drawn again, whatever the flag says, so no cell is lit.
      have wiped := Pen.faithful_wipe (p := con.pen) sized shadowed
      exact displays_of_plain (wiped.moveTo (v := con.viewport.reset) rfl).present nofun config
  | moveBy columns rows =>
      exact displays_of_lit _ ((displays.moved columns rows).ready _).shown config
  | backspace =>
      have erased := displays.inscribed "\x08" con.config.foreground
      exact displays_of_lit _ (erased.ready _).shown config
  | toggle pending =>
      cases pending with
      | true => exact displays
      | false => exact displays_of_lit _ displays.flipped config

/-! ## Runs -/

theorem displays_run {bare : Bool} (displays : con.Displays picture bare) (actions : List Action) :
    (con.run actions).1.Displays (picture.run (con.run actions).2.draws)
      (bareAfter bare actions) := by
  induction actions generalizing con picture bare with
  | nil => exact displays
  | cons action rest ih =>
      rw [run_cons, Output.draws_append, Picture.run_append]
      exact ih (displays_act displays action)

/-- A new console displays its empty screen and the cursor. -/
theorem displays_start {grid : Grid} (sized : picture.grid = grid) (config : ConsoleConfig) :
    (start grid config).1.Displays (picture.run (start grid config).2.draws) false := by
  let con : Console :=
    { config
      viewport := { grid }
      shadow := Cells.replicate grid none
      history := Scrollback.ofCapacity config.historyCapacity }
  have wiped := Pen.faithful_wipe (p := con.pen) sized rfl
  have noted := wiped.note (.consoleReady grid config.historyCapacity)
  exact displays_of_lit con noted.shown (Pen.config_shown _)

theorem Displays.get?_of_ne {bare : Bool} (displays : con.Displays picture bare) {c : Cell}
    (inside : con.grid.Contains c) (other : con.viewport.cursorCell? ≠ some c) :
    picture.get? c = some (con.standing c) := by
  have shown := displays.shows c inside
  have unlit : (if bare then none else con.pen.cursorLit) ≠ some c := by
    rcases con.lit_cases bare with plain | atCursor
    · rw [plain]
      exact nofun
    · rw [atCursor]
      exact other
  rw [Pen.seen, if_neg unlit] at shown
  exact shown

theorem Displays.get?_cursor {bare : Bool} (displays : con.Displays picture bare)
    (aligned : con.viewport.Aligned) {c : Cell} (under : con.viewport.cursorCell? = some c) :
    picture.get? c = some
      (if bare then con.standing c
      else if con.viewport.visible then .filled con.config.cursorColor
      else con.standing c) := by
  have shown := displays.shows c (aligned.contains_of_cursorCell? under)
  have lit : con.pen.cursorLit = if con.viewport.visible then some c else none := by
    rw [← under]
    rfl
  rw [lit] at shown
  cases bare <;> cases visible : con.viewport.visible <;>
    simp only [visible, Pen.seen, Bool.false_eq_true, if_true, if_false, reduceCtorEq]
      at shown ⊢ <;>
    exact shown

/-- Hiding the cursor or moving it on the same screen brings back what it covered. -/
theorem Displays.restored {bare : Bool} (displays : con.Displays picture bare)
    (regular : con.viewport.Regular) {action : Action}
    (leaves : action = .toggle false ∨ ∃ columns rows, action = .moveBy columns rows)
    (stays : (con.act action).1.1.viewport.offset = con.viewport.offset) {c : Cell}
    (under : con.viewport.cursorCell? = some c)
    (left : (con.act action).1.1.viewport.visible = false ∨
      (con.act action).1.1.viewport.cursorCell? ≠ some c) :
    (picture.run (con.act action).1.2.draws).get? c = some (con.standing c) := by
  have next := displays_act displays action
  have sameShadow : (con.act action).1.1.shadow = con.shadow := by
    rcases leaves with rfl | ⟨columns, rows, rfl⟩
    · exact shadow_toggle con false
    · exact shadow_moveBy regular.usable stays
  have sameStanding : (con.act action).1.1.standing c = con.standing c := by
    simp only [standing, Pen.standing, Pen.glyphAt?, pen, sameShadow, config_act]
  have inside : (con.act action).1.1.grid.Contains c := by
    show (con.act action).1.1.viewport.grid.Contains c
    rw [grid_act regular.usable]
    exact regular.contains_of_cursorCell? under
  rcases left with hidden | gone
  · by_cases still : (con.act action).1.1.viewport.cursorCell? = some c
    · have shown := next.get?_cursor (regular_act regular action).toAligned still
      simp only [hidden, Bool.false_eq_true, if_false, ite_self] at shown
      rw [shown, sameStanding]
    · rw [next.get?_of_ne inside still, sameStanding]
  · rw [next.get?_of_ne inside gone, sameStanding]

/-- What is known of a created console and its surface at any time. -/
theorem displays_created {surface cell : Extent} {config : ConsoleConfig} {out : Output}
    (created : create surface cell config = .ok (con, out)) (sized : picture.grid = con.grid)
    (actions : List Action) :
    (con.run actions).1.viewport.Regular ∧ (con.run actions).1.config = config ∧
      (con.run actions).1.Displays
        ((picture.run out.draws).run (con.run actions).2.draws) (bareAfter false actions) := by
  obtain ⟨grid, usable, -, made⟩ := start_of_create created
  obtain ⟨rfl, rfl⟩ := Prod.mk.inj made
  have origin := viewport_start grid config
  have displays := displays_start (sized.trans (congrArg Viewport.grid origin)) config
  exact ⟨regular_run (regular_start usable config) actions, config_run _ actions,
    displays_run displays actions⟩

end Console

end GlyphConsole
