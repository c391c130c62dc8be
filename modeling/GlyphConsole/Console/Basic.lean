import GlyphConsole.Console.Pen
import GlyphConsole.Memory
import GlyphConsole.SurfaceError

/-!
# GlyphConsole.Console.Basic — the console

A `Console` is a window of cells onto everything written, together with the spans
that it takes to draw the window again.  It never looks at its surface: an operation
returns the console after it and its `Output`, the calls to make on the surface and
the notices for the log.

* `write` takes the cursor off, keeps the span with the position where it starts,
  and draws it.  If the text stepped over the right edge or left the screen, the
  window follows the cursor and everything is drawn again; otherwise only what was
  written has changed.  The cursor is to be seen after every write.
* `redraw` draws everything again and moves nothing.
* `scrollNewer` and `scrollOlder` move the window by one row, if there is a row to
  move to, and redraw in any case.
* `clear` forgets all that was written.  It leaves the cursor undrawn until the next
  operation draws it.
* `moveBy` moves the cursor without writing, and no span records it.
* `toggle` flips whether the cursor is to be seen, unless input is waiting.

`Action` names these operations and `Console.act` carries one out, so that a run of
a console is a list of actions.
-/

namespace GlyphConsole

set_option autoImplicit false

/-- A window of cells onto all that was written. -/
structure Console where
  config : ConsoleConfig
  viewport : Viewport
  shadow : Cells (Option Glyph)
  history : Scrollback

/-- Write `width` spaces for every tab. -/
def expandTabs (width : Nat) (text : String) : String :=
  String.ofList (text.toList.flatMap fun c =>
    if c = '\t' then List.replicate width ' ' else [c])

namespace Console

/-- The console about to begin an operation. -/
def pen (con : Console) : Pen :=
  { config := con.config, viewport := con.viewport, shadow := con.shadow }

/-- The console at the end of an operation, and what the operation put out. -/
def finish (con : Console) (p : Pen) : Console × Output :=
  ({ con with viewport := p.viewport, shadow := p.shadow }, p.output)

/-- A console on an empty screen, with the cursor shown at the origin. -/
def start (grid : Grid) (config : ConsoleConfig) : Console × Output :=
  let con : Console :=
    { config
      viewport := { grid }
      shadow := Cells.replicate grid none
      history := Scrollback.ofCapacity config.historyCapacity }
  con.finish
    (con.pen.wipe.note (.consoleReady grid config.historyCapacity)).highlight.present

/-- The bytes it takes to remember what stands in one cell. -/
def cellBytes : Nat := 8

/-- A console on a surface of so many pixels, if the surface holds a cell and the
cells can be remembered. -/
def create (surface cell : Extent) (config : ConsoleConfig) :
    Except SetupFailure (Console × Output) :=
  match Grid.fit? surface cell with
  | none => .error (.refused (.tooSmall surface cell))
  | some grid =>
      match Memory.reserve (grid.size * cellBytes) with
      | .ok () => .ok (start grid config)
      | .error fault => .error (.stopped fault)

/-- A created console has at least one cell and fewer than `2 ^ 44`, so the counts of its
grid are read as they are (`Grid.counts_le_size`, `Grid.width_of_lt`). -/
theorem create_eq_ok_iff {surface cell : Extent} {config : ConsoleConfig}
    {made : Console × Output} :
    create surface cell config = .ok made ↔
      ∃ grid, Grid.fit? surface cell = some grid ∧ grid.size < 0x100000000000 ∧
        made = start grid config := by
  cases fits : Grid.fit? surface cell with
  | none => simp [create, fits]
  | some grid =>
      have room : grid.size * cellBytes < Memory.limit ↔ grid.size < 0x100000000000 := by
        simp only [cellBytes, Memory.limit]
        omega
      by_cases small : grid.size < 0x100000000000
      · have granted : Memory.reserve (grid.size * cellBytes) = .ok () :=
          (Memory.reserve_eq_ok_iff _).2 (room.2 small)
        simp only [create, fits, granted, Except.ok.injEq, Option.some.injEq, exists_eq_left',
          small, true_and, eq_comm]
      · have refused : Memory.reserve (grid.size * cellBytes) = .error .outOfMemory :=
          if_neg (mt room.1 small)
        simp only [create, fits, refused, reduceCtorEq, Option.some.injEq, exists_eq_left',
          small, false_and]

def grid (con : Console) : Grid := con.viewport.grid

def cursor (con : Console) : Position := con.viewport.cursor

/-- Write a text at the cursor and keep it as a span. -/
def write (con : Console) (text : String) (color : Color) : Console × Output :=
  let text := expandTabs con.config.tabWidth text
  let kept := con.history.append ⟨text, color, con.cursor⟩
  let con := { con with history := kept.1 }
  let erased := con.pen.putBack
  let noted := if kept.2.isSome then erased.note (.spanEvicted kept.1.size) else erased
  let written := noted.text color text.toList
  let shown := { written with viewport := written.viewport.showCursor true }
  con.finish <|
    if shown.wrapped || !shown.viewport.onScreen then shown.follow.redraw kept.1.spans
    else shown.highlight.present

/-- Draw the whole screen again. -/
def redraw (con : Console) : Console × Output :=
  con.finish (con.pen.redraw con.history.spans)

/-- One row towards newer output; says whether the window moved. -/
def scrollNewer (con : Console) : (Console × Output) × Bool :=
  let scrolled := con.viewport.scrollNewer
  ({ con with viewport := scrolled.1 }.redraw, scrolled.2)

/-- One row towards older output; says whether the window moved. -/
def scrollOlder (con : Console) : (Console × Output) × Bool :=
  let scrolled := con.viewport.scrollOlder
  ({ con with viewport := scrolled.1 }.redraw, scrolled.2)

/-- Forget everything written. -/
def clear (con : Console) : Console × Output :=
  let wiped := con.pen.wipe
  { con with history := con.history.clear }.finish
    { wiped with viewport := wiped.viewport.reset }.present

/-- Move the cursor by so many columns and rows without writing. -/
def moveBy (con : Console) (columns rows : Int) : Console × Output :=
  let erased := con.pen.putBack
  let moved := { erased with viewport := erased.viewport.moveBy columns rows }
  con.finish <|
    if moved.viewport.onScreen then moved.highlight.present
    else moved.follow.redraw con.history.spans

/-- Erase the character before the cursor.  A redraw erases it again. -/
def backspace (con : Console) : Console × Output :=
  con.write "\x08" con.config.foreground

/-- Flip whether the cursor is to be seen, unless input is waiting; says whether it
is to be seen now. -/
def toggle (con : Console) (pending : Bool) : (Console × Output) × Option Bool :=
  if pending then ((con, {}), none)
  else
    let con := { con with viewport := con.viewport.flipCursor }
    let visible := con.viewport.visible
    (con.finish (if visible then con.pen.highlight else con.pen.putBack).present, some visible)

/-! ## Runs -/

/-- An operation on a console. -/
inductive Action where
  | write (text : String) (color : Color)
  | redraw
  | scrollNewer
  | scrollOlder
  | clear
  | moveBy (columns rows : Int)
  | backspace
  | toggle (pending : Bool)
deriving DecidableEq

/-- What an operation answers. -/
inductive Reply where
  | done
  | moved (moved : Bool)
  | toggled (visible : Option Bool)
deriving DecidableEq

/-- Carry out an operation. -/
def act (con : Console) : Action → (Console × Output) × Reply
  | .write text color => (con.write text color, .done)
  | .redraw => (con.redraw, .done)
  | .scrollNewer =>
      let scrolled := con.scrollNewer
      (scrolled.1, .moved scrolled.2)
  | .scrollOlder =>
      let scrolled := con.scrollOlder
      (scrolled.1, .moved scrolled.2)
  | .clear => (con.clear, .done)
  | .moveBy columns rows => (con.moveBy columns rows, .done)
  | .backspace => (con.backspace, .done)
  | .toggle pending =>
      let toggled := con.toggle pending
      (toggled.1, .toggled toggled.2)

/-- Carry out operations in turn. -/
def run (con : Console) : List Action → Console × Output
  | [] => (con, {})
  | action :: rest =>
      let first := (con.act action).1
      let after := first.1.run rest
      (after.1, first.2 ++ after.2)

end Console

end GlyphConsole
