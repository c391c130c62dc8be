import GlyphConsole.Proofs.Writing

/-!
# GlyphConsole.Proofs.Operations — the operations of a console, one by one

Every operation is what a pen did, `penAfter`, and what became of the history (`act_eq`).
A write and a move end alike, with a pen that is `ready` to show the cursor it moved;
every other operation that draws is a redraw, a wipe or a flip of the cursor.

The viewport goes its own way: where the cursor and the window are after an operation
depends on where they were and on nothing else (`viewport_act`), since a redraw puts the
cursor back.  So what one step of `Viewport.act` keeps, a run of the console keeps; above
all, the viewport of a created console is regular at all times (`regular_run`).
-/

namespace GlyphConsole

set_option autoImplicit false

/-! ## The viewport by itself -/

namespace Viewport

variable {v : Viewport}

/-- Where an operation takes the cursor and the window. -/
def act (v : Viewport) (tabWidth : Nat) : Console.Action → Viewport
  | .write text _ => ((v.steps (expandTabs tabWidth text).toList).showCursor true).follow
  | .redraw => v
  | .scrollNewer => v.newer
  | .scrollOlder => v.older
  | .clear => v.reset
  | .moveBy columns rows => (v.moveBy columns rows).follow
  | .backspace => ((v.steps ['\x08']).showCursor true).follow
  | .toggle pending => if pending then v else v.flipCursor

@[simp] theorem grid_showCursor (v : Viewport) (visible : Bool) :
    (v.showCursor visible).grid = v.grid := rfl

@[simp] theorem offset_showCursor (v : Viewport) (visible : Bool) :
    (v.showCursor visible).offset = v.offset := rfl

@[simp] theorem grid_steps (v : Viewport) (cs : List Char) : (v.steps cs).grid = v.grid := by
  induction cs generalizing v with
  | nil => rfl
  | cons c rest ih => rw [steps_cons, ih, grid_step]

@[simp] theorem offset_steps (v : Viewport) (cs : List Char) : (v.steps cs).offset = v.offset := by
  induction cs generalizing v with
  | nil => rfl
  | cons c rest ih => rw [steps_cons, ih, offset_step]

theorem OnPage.steps (onPage : v.OnPage) (cs : List Char) : (v.steps cs).OnPage := by
  induction cs generalizing v with
  | nil => exact onPage
  | cons c rest ih => exact ih (onPage.step c)

theorem OnPage.showCursor (onPage : v.OnPage) (visible : Bool) : (v.showCursor visible).OnPage :=
  ⟨⟨onPage.usable, onPage.column_lt⟩, onPage.row_nonneg⟩

@[simp] theorem grid_act (v : Viewport) (tabWidth : Nat) (action : Console.Action) :
    (v.act tabWidth action).grid = v.grid := by
  cases action with
  | write text color =>
      show ((v.steps _).showCursor true).follow.grid = v.grid
      rw [grid_follow, grid_showCursor, grid_steps]
  | redraw => rfl
  | scrollNewer => exact grid_newer v
  | scrollOlder => exact grid_older v
  | clear => rfl
  | moveBy columns rows => exact grid_moveBy v columns rows
  | backspace =>
      show ((v.steps _).showCursor true).follow.grid = v.grid
      rw [grid_follow, grid_showCursor, grid_steps]
  | toggle pending => cases pending <;> rfl

/-- A write leaves the cursor where its text takes it. -/
theorem cursor_act_write (v : Viewport) (tabWidth : Nat) (text : String) (color : Color) :
    (v.act tabWidth (.write text color)).cursor =
      (v.steps (expandTabs tabWidth text).toList).cursor := by
  rw [act, cursor_follow, showCursor]

/-- Writing ends with a regular viewport, whatever was written. -/
theorem Regular.written (regular : v.Regular) (cs : List Char) :
    ((v.steps cs).showCursor true).follow.Regular := by
  refine ((regular.toOnPage.steps cs).showCursor true).follow ?_
  rw [offset_showCursor, offset_steps]
  exact regular.offset_nonpos

theorem Regular.act (regular : v.Regular) (tabWidth : Nat) (action : Console.Action) :
    (v.act tabWidth action).Regular := by
  cases action with
  | write text color => exact regular.written _
  | redraw => exact regular
  | scrollNewer => exact regular.newer
  | scrollOlder => exact regular.older
  | clear => exact regular_reset regular.usable
  | moveBy columns rows =>
      refine (regular.toOnPage.moveBy columns rows).follow ?_
      rw [offset_moveBy]
      exact regular.offset_nonpos
  | backspace => exact regular.written _
  | toggle pending =>
      cases pending
      · exact ⟨⟨⟨regular.usable, regular.column_lt⟩, regular.row_nonneg⟩,
          regular.offset_nonpos, regular.not_above⟩
      · exact regular

end Viewport

namespace Console

variable {con : Console}

/-! ## Operations in terms of the pen -/

/-- The operation writes something, if only a backspace. -/
def Action.Writes : Action → Prop
  | .write .. | .backspace => True
  | .redraw | .scrollNewer | .scrollOlder | .clear | .moveBy .. | .toggle _ => False

/-- The characters that an operation writes. -/
def Action.chars (config : ConsoleConfig) : Action → List Char
  | .write text _ => (expandTabs config.tabWidth text).toList
  | .backspace => ['\x08']
  | .redraw | .scrollNewer | .scrollOlder | .clear | .moveBy .. | .toggle _ => []

/-- The span that a write keeps. -/
def spanFor (con : Console) (text : String) (color : Color) : Span :=
  ⟨expandTabs con.config.tabWidth text, color, con.cursor⟩

/-- The history once a write has been kept. -/
def kept (con : Console) (text : String) (color : Color) : Scrollback :=
  (con.history.append (con.spanFor text color)).1

/-- The pen about to write: the cursor is off the screen, and a span that was dropped has
been noted. -/
def poised (con : Console) (text : String) (color : Color) : Pen :=
  if (con.history.append (con.spanFor text color)).2.isSome then
    con.pen.putBack.note (.spanEvicted (con.kept text color).size)
  else con.pen.putBack

/-- The pen that has written a text and not yet shown the cursor. -/
def inscribed (con : Console) (text : String) (color : Color) : Pen :=
  ((con.poised text color).text color (con.spanFor text color).text.toList).showing true

/-- The pen that has moved the cursor and not yet shown it. -/
def moved (con : Console) (columns rows : Int) : Pen :=
  { con.pen.putBack with viewport := con.viewport.moveBy columns rows }

/-- The pen that has flipped the cursor and not yet drawn it. -/
def flipped (con : Console) : Pen := { con.pen with viewport := con.viewport.flipCursor }

/-- The pen about to draw with the window somewhere else. -/
def turned (con : Console) (v : Viewport) : Pen := { con.pen with viewport := v }

/-- The pen at the end of an operation. -/
def penAfter (con : Console) : Action → Pen
  | .write text color => ((con.inscribed text color).ready (con.kept text color).spans).shown
  | .redraw => (con.pen.restored con.history.spans).shown
  | .scrollNewer => ((con.turned con.viewport.newer).restored con.history.spans).shown
  | .scrollOlder => ((con.turned con.viewport.older).restored con.history.spans).shown
  | .clear => ({ con.pen.wipe with viewport := con.viewport.reset } : Pen).present
  | .moveBy columns rows => ((con.moved columns rows).ready con.history.spans).shown
  | .backspace =>
      ((con.inscribed "\x08" con.config.foreground).ready
        (con.kept "\x08" con.config.foreground).spans).shown
  | .toggle true => con.pen
  | .toggle false =>
      (if con.flipped.viewport.visible then con.flipped.highlight else con.flipped.putBack).present

/-- The history at the end of an operation. -/
def historyAfter (con : Console) : Action → Scrollback
  | .write text color => con.kept text color
  | .backspace => con.kept "\x08" con.config.foreground
  | .clear => con.history.clear
  | _ => con.history

theorem write_eq (con : Console) (text : String) (color : Color) :
    con.write text color =
      finish { con with history := con.kept text color }
        ((con.inscribed text color).ready (con.kept text color).spans).shown := by
  rw [Pen.shown_ready]
  rfl

theorem moveBy_eq (con : Console) (columns rows : Int) :
    con.moveBy columns rows =
      con.finish ((con.moved columns rows).ready con.history.spans).shown := by
  have unwrapped : (con.moved columns rows).wrapped = false := Pen.wrapped_putBack con.pen
  have viewport : con.pen.putBack.viewport = con.viewport := Pen.viewport_putBack con.pen
  simp only [Console.moveBy, viewport]
  change con.finish (if (con.moved columns rows).viewport.onScreen then _ else _) = _
  rw [Pen.shown_ready, unwrapped]
  cases shown : (con.moved columns rows).viewport.onScreen <;> rfl

/-- Every operation is what its pen did, and what became of the history. -/
theorem act_eq (con : Console) (action : Action) :
    (con.act action).1 =
      finish { con with history := con.historyAfter action } (con.penAfter action) := by
  cases action with
  | write text color => exact write_eq con text color
  | redraw => rfl
  | scrollNewer =>
      simp only [act, scrollNewer, Viewport.scrollNewer_eq]
      rfl
  | scrollOlder =>
      simp only [act, scrollOlder, Viewport.scrollOlder_eq]
      rfl
  | clear => rfl
  | moveBy columns rows => exact moveBy_eq con columns rows
  | backspace => exact write_eq con "\x08" con.config.foreground
  | toggle pending => cases pending <;> rfl

/-- To erase a character is to write the character that does so. -/
theorem act_backspace (con : Console) :
    con.act .backspace = con.act (.write "\x08" con.config.foreground) := rfl

theorem expandTabs_backspace (width : Nat) : expandTabs width "\x08" = "\x08" := rfl

/-! ## What an operation leaves -/

@[simp] theorem config_act (con : Console) (action : Action) :
    (con.act action).1.1.config = con.config := by
  rw [act_eq, finish]

@[simp] theorem history_act (con : Console) (action : Action) :
    (con.act action).1.1.history = con.historyAfter action := by
  rw [act_eq, finish]

theorem shadow_act (con : Console) (action : Action) :
    (con.act action).1.1.shadow = (con.penAfter action).shadow := by
  rw [act_eq, finish]

@[simp] theorem viewport_poised (con : Console) (text : String) (color : Color) :
    (con.poised text color).viewport = con.viewport := by
  unfold poised
  split <;> exact Pen.viewport_putBack con.pen

theorem viewport_inscribed (con : Console) (text : String) (color : Color) :
    (con.inscribed text color).viewport =
      (con.viewport.steps (expandTabs con.config.tabWidth text).toList).showCursor true := by
  simp only [inscribed, Pen.showing, Pen.viewport_text, viewport_poised, spanFor]

theorem config_inscribed (con : Console) (text : String) (color : Color) :
    (con.inscribed text color).config = con.config := by
  have poised : (con.poised text color).config = con.config := by
    unfold poised
    split <;> exact Pen.config_putBack con.pen
  simp only [inscribed, Pen.showing, Pen.config_text, poised]

theorem config_penAfter (con : Console) (action : Action) :
    (con.penAfter action).config = con.config := by
  cases action with
  | write text color => rw [penAfter, Pen.config_shown, Pen.config_ready, config_inscribed]
  | redraw => exact (Pen.config_shown _).trans (Pen.config_restored _ _)
  | scrollNewer => exact (Pen.config_shown _).trans (Pen.config_restored _ _)
  | scrollOlder => exact (Pen.config_shown _).trans (Pen.config_restored _ _)
  | clear => rfl
  | moveBy columns rows =>
      rw [penAfter, Pen.config_shown, Pen.config_ready]
      exact Pen.config_putBack con.pen
  | backspace => rw [penAfter, Pen.config_shown, Pen.config_ready, config_inscribed]
  | toggle pending =>
      cases pending with
      | true => rfl
      | false =>
          simp only [penAfter]
          split
          · exact Pen.config_highlight con.flipped
          · exact Pen.config_putBack con.flipped

/-- A write ends where following the cursor ends. -/
theorem viewport_written (usable : con.viewport.grid.Usable) (text : String) (color : Color)
    (spans : List Span) :
    ((con.inscribed text color).ready spans).viewport =
      ((con.viewport.steps
        (expandTabs con.config.tabWidth text).toList).showCursor true).follow := by
  have inscribed := con.viewport_inscribed text color
  have kept : (con.inscribed text color).viewport.grid.Usable := by
    rw [inscribed, Viewport.grid_showCursor, Viewport.grid_steps]
    exact usable
  rw [Pen.viewport_ready kept, inscribed]

/-- A toggle flips the cursor on every grid. -/
theorem viewport_penAfter_toggle (con : Console) :
    (con.penAfter (.toggle false)).viewport = con.viewport.flipCursor := by
  simp only [penAfter]
  split
  · exact Pen.viewport_highlight con.flipped
  · exact Pen.viewport_putBack con.flipped

theorem viewport_penAfter (usable : con.viewport.grid.Usable) (action : Action) :
    (con.penAfter action).viewport = con.viewport.act con.config.tabWidth action := by
  cases action with
  | write text color =>
      exact (Pen.viewport_shown _).trans (viewport_written usable text color _)
  | redraw => exact (Pen.viewport_shown _).trans (Pen.viewport_restored _ _)
  | scrollNewer => exact (Pen.viewport_shown _).trans (Pen.viewport_restored _ _)
  | scrollOlder => exact (Pen.viewport_shown _).trans (Pen.viewport_restored _ _)
  | clear => rfl
  | moveBy columns rows =>
      have kept : (con.viewport.moveBy columns rows).grid.Usable := by
        rw [Viewport.grid_moveBy]
        exact usable
      rw [penAfter, Pen.viewport_shown, Pen.viewport_ready kept]
      rfl
  | backspace =>
      have written := viewport_written usable "\x08" con.config.foreground
        (con.kept "\x08" con.config.foreground).spans
      rw [expandTabs_backspace] at written
      exact (Pen.viewport_shown _).trans written
  | toggle pending =>
      cases pending with
      | true => rfl
      | false => exact viewport_penAfter_toggle con

/-- A move that needs no scrolling changes no glyph. -/
theorem shadow_moveBy (usable : con.viewport.grid.Usable) {columns rows : Int}
    (stays : (con.act (.moveBy columns rows)).1.1.viewport.offset = con.viewport.offset) :
    (con.act (.moveBy columns rows)).1.1.shadow = con.shadow := by
  have kept : (con.moved columns rows).viewport.grid.Usable := by
    show (con.viewport.moveBy columns rows).grid.Usable
    rw [Viewport.grid_moveBy]
    exact usable
  have ended : (con.penAfter (.moveBy columns rows)).viewport =
      (con.viewport.moveBy columns rows).follow := viewport_penAfter usable (.moveBy columns rows)
  have shown : (con.moved columns rows).viewport.onScreen = true := by
    rw [act_eq, finish, ended, ← Viewport.offset_moveBy con.viewport columns rows] at stays
    exact (Viewport.offset_follow_eq_iff kept.height_pos).1 stays
  have unwrapped : (con.moved columns rows).wrapped = false := Pen.wrapped_putBack con.pen
  have drawn : (con.moved columns rows).ready con.history.spans = con.moved columns rows := by
    simp only [Pen.ready, unwrapped, shown, Bool.not_true, Bool.or_false, Bool.false_eq_true,
      if_false]
  rw [act_eq, finish, penAfter, drawn, Pen.shadow_shown]
  exact Pen.shadow_putBack con.pen

theorem shadow_toggle (con : Console) (pending : Bool) :
    (con.act (.toggle pending)).1.1.shadow = con.shadow := by
  rw [act_eq, finish]
  cases pending with
  | true => rfl
  | false =>
      simp only [penAfter]
      split
      · exact Pen.shadow_highlight con.flipped
      · exact Pen.shadow_putBack con.flipped

/-- The viewport after an operation depends on the viewport before it alone. -/
theorem viewport_act (usable : con.viewport.grid.Usable) (action : Action) :
    (con.act action).1.1.viewport = con.viewport.act con.config.tabWidth action := by
  rw [act_eq, finish]
  exact viewport_penAfter usable action

/-! ## Runs -/

@[simp] theorem run_nil (con : Console) : con.run [] = (con, {}) := rfl

theorem run_cons (con : Console) (action : Action) (rest : List Action) :
    con.run (action :: rest) =
      (((con.act action).1.1.run rest).1,
        (con.act action).1.2 ++ ((con.act action).1.1.run rest).2) := rfl

theorem run_append (con : Console) (first second : List Action) :
    con.run (first ++ second) =
      (((con.run first).1.run second).1, (con.run first).2 ++ ((con.run first).1.run second).2) := by
  induction first generalizing con with
  | nil => simp [run, Output.empty_append]
  | cons action rest ih => simp [run, ih, Output.append_assoc]

/-- What every operation keeps, a run keeps. -/
theorem run_induction {P : Console → Prop}
    (step : ∀ (con : Console) (action : Action), P con → P (con.act action).1.1)
    (holds : P con) (actions : List Action) : P (con.run actions).1 := by
  induction actions generalizing con with
  | nil => exact holds
  | cons action rest ih => exact ih (step con action holds)

@[simp] theorem config_run (con : Console) (actions : List Action) :
    (con.run actions).1.config = con.config :=
  run_induction (P := fun after => after.config = con.config)
    (fun before action same => (before.config_act action).trans same) rfl actions

theorem regular_act (regular : con.viewport.Regular) (action : Action) :
    (con.act action).1.1.viewport.Regular := by
  rw [viewport_act regular.usable]
  exact regular.act _ action

/-- The viewport stays regular whatever is done with the console. -/
theorem regular_run (regular : con.viewport.Regular) (actions : List Action) :
    (con.run actions).1.viewport.Regular :=
  run_induction (P := fun after => after.viewport.Regular)
    (fun _ action kept => regular_act kept action) regular actions

theorem grid_act (usable : con.viewport.grid.Usable) (action : Action) :
    (con.act action).1.1.viewport.grid = con.viewport.grid := by
  rw [viewport_act usable, Viewport.grid_act]

theorem grid_run (regular : con.viewport.Regular) (actions : List Action) :
    (con.run actions).1.viewport.grid = con.viewport.grid :=
  (run_induction (P := fun after =>
      after.viewport.Regular ∧ after.viewport.grid = con.viewport.grid)
    (fun _ action kept =>
      ⟨regular_act kept.1 action, (grid_act kept.1.usable action).trans kept.2⟩)
    ⟨regular, rfl⟩ actions).2

theorem viewport_start (grid : Grid) (config : ConsoleConfig) :
    (start grid config).1.viewport = { grid } :=
  Pen.viewport_highlight _

theorem shadow_start (grid : Grid) (config : ConsoleConfig) :
    (start grid config).1.shadow = Cells.replicate grid none :=
  Pen.shadow_highlight _

theorem regular_start {grid : Grid} (usable : grid.Usable) (config : ConsoleConfig) :
    (start grid config).1.viewport.Regular := by
  rw [viewport_start]
  exact Viewport.regular_reset (v := { grid }) usable

/-- A created console begins at the origin of a usable grid. -/
theorem start_of_create {surface cell : Extent} {config : ConsoleConfig} {out : Output}
    (created : create surface cell config = .ok (con, out)) :
    ∃ grid : Grid, grid.Usable ∧ Grid.fit? surface cell = some grid ∧
      (con, out) = start grid config := by
  obtain ⟨grid, fits, small, made⟩ := create_eq_ok_iff.1 created
  exact ⟨grid, .of_fit? fits small, fits, made⟩

/-- A created console has a usable grid, and its cursor and window are at the origin. -/
theorem viewport_of_create {surface cell : Extent} {config : ConsoleConfig} {out : Output}
    (created : create surface cell config = .ok (con, out)) :
    con.grid.Usable ∧ con.viewport = { grid := con.grid } := by
  obtain ⟨grid, usable, -, made⟩ := start_of_create created
  have origin : con.viewport = { grid } := by
    rw [← viewport_start grid config, ← made]
  have same : con.grid = grid := congrArg Viewport.grid origin
  rw [same]
  exact ⟨usable, origin⟩

/-- A created console is the one that starts on its grid. -/
theorem eq_start_of_create {surface cell : Extent} {config : ConsoleConfig} {out : Output}
    (created : create surface cell config = .ok (con, out)) :
    Grid.fit? surface cell = some con.grid ∧ con = (start con.grid config).1 := by
  obtain ⟨grid, -, fits, made⟩ := start_of_create created
  have first : con = (start grid config).1 := congrArg Prod.fst made
  have same : con.grid = grid := by rw [first, Console.grid, viewport_start]
  rw [same]
  exact ⟨fits, first⟩

/-- Nothing has been written on a created console. -/
theorem history_of_create {surface cell : Extent} {config : ConsoleConfig} {out : Output}
    (created : create surface cell config = .ok (con, out)) : con.history.spans = [] := by
  rw [(eq_start_of_create created).2]
  rfl

theorem config_of_create {surface cell : Extent} {config : ConsoleConfig} {out : Output}
    (created : create surface cell config = .ok (con, out)) : con.config = config := by
  rw [(eq_start_of_create created).2]
  rfl

theorem regular_of_create {surface cell : Extent} {config : ConsoleConfig} {out : Output}
    (created : create surface cell config = .ok (con, out)) : con.viewport.Regular := by
  obtain ⟨usable, origin⟩ := viewport_of_create created
  rw [origin]
  exact Viewport.regular_reset (v := { grid := con.grid }) usable

end Console

end GlyphConsole
