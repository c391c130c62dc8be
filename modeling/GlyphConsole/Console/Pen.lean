import GlyphConsole.Cells
import GlyphConsole.Console.Scrollback
import GlyphConsole.Console.Viewport
import GlyphConsole.Draw
import GlyphConsole.Log.Notice

/-!
# GlyphConsole.Console.Pen — writing on the screen

A `Pen` is a console in the middle of an operation: the window and its cursor, the
`shadow` (which glyph stands in which cell of the screen), and the `output` made so
far, that is, the calls on the surface and the notices for the log.

`put` writes one character.  Line feed, carriage return and backspace only move the
cursor, and a backspace also blanks the cell it lands on; every other character is
a glyph.  A glyph off the screen is not drawn, but the cursor steps on all the same,
so what is visible never changes where things go.  `text` writes characters in turn,
so writing two texts is writing their concatenation (`text_append`).

The cursor is shown by filling its cell (`highlight`), and taken off again from the
shadow (`putBack`).  `redraw` clears the surface and writes all spans again: each
starts on its own row but in the column where the one before it stopped, so that
fragments of one line join up as they first did.
-/

namespace GlyphConsole

set_option autoImplicit false

/-- A character and its color. -/
structure Glyph where
  char : Char
  color : Color
deriving DecidableEq, Inhabited

/-- Choices made when a console is created. -/
structure ConsoleConfig where
  /-- How many spans are kept for redrawing. -/
  historyCapacity : Nat := 4096
  tabWidth : Nat := 4
  background : Color := .black
  foreground : Color := .white
  cursorColor : Color := .white
deriving DecidableEq, Inhabited

/-- What an operation asks of the surface and reports to the log, each in order. -/
structure Output where
  draws : Array DrawCall := #[]
  notices : Array Log.Notice := #[]

namespace Output

def append (first second : Output) : Output :=
  ⟨first.draws ++ second.draws, first.notices ++ second.notices⟩

instance : Append Output := ⟨append⟩

@[simp] theorem draws_append (first second : Output) :
    (first ++ second).draws = first.draws ++ second.draws := rfl

@[simp] theorem notices_append (first second : Output) :
    (first ++ second).notices = first.notices ++ second.notices := rfl

theorem empty_append (output : Output) : ({} : Output) ++ output = output := by
  show Output.mk _ _ = output
  rw [Array.empty_append, Array.empty_append]

theorem append_assoc (first second third : Output) :
    first ++ second ++ third = first ++ (second ++ third) := by
  show Output.mk (first.draws ++ second.draws ++ third.draws)
    (first.notices ++ second.notices ++ third.notices) = _
  rw [Array.append_assoc, Array.append_assoc]
  rfl

end Output

/-- A console in the middle of an operation. -/
structure Pen where
  config : ConsoleConfig
  viewport : Viewport
  shadow : Cells (Option Glyph)
  /-- A glyph has stepped over the right edge during this operation. -/
  wrapped : Bool := false
  output : Output := {}

namespace Pen

def draw (p : Pen) (call : DrawCall) : Pen :=
  { p with output := { p.output with draws := p.output.draws.push call } }

def note (p : Pen) (notice : Log.Notice) : Pen :=
  { p with output := { p.output with notices := p.output.notices.push notice } }

def present (p : Pen) : Pen := p.draw .present

/-- What the screen shows under the cursor, as far as glyphs go. -/
def glyphAt? (p : Pen) (cell : Cell) : Option Glyph := (p.shadow.get? cell).join

/-! ## The cursor's cell -/

/-- Show the cursor, if it is to be seen and on the screen. -/
def highlight (p : Pen) : Pen :=
  if p.viewport.visible then
    match p.viewport.cursorCell? with
    | some cell => p.draw (.fill cell p.config.cursorColor)
    | none => p
  else p

/-- Draw what stands in the cursor's cell, so that the cursor is not to be seen. -/
def putBack (p : Pen) : Pen :=
  match p.viewport.cursorCell? with
  | some cell =>
      match p.glyphAt? cell with
      | some glyph => p.draw (.glyph cell glyph.char glyph.color)
      | none => p.draw (.fill cell p.config.background)
  | none => p

/-! ## Writing -/

/-- Blank the cell under the cursor, if it is on the screen. -/
def blank (p : Pen) : Pen :=
  match p.viewport.cursorCell? with
  | some cell =>
      { p.draw (.fill cell p.config.background) with shadow := p.shadow.set cell none }
  | none => p

/-- Draw a glyph under the cursor, if that cell is on the screen. -/
def stamp (p : Pen) (glyph : Glyph) : Pen :=
  match p.viewport.cursorCell? with
  | some cell =>
      { p.draw (.glyph cell glyph.char glyph.color) with shadow := p.shadow.set cell (some glyph) }
  | none => p

/-- Step over the glyph just written. -/
def advance (p : Pen) : Pen :=
  { p with
    wrapped := p.wrapped || p.viewport.atRightEdge
    viewport := p.viewport.advance }

/-- Write one character. -/
def put (p : Pen) (color : Color) (c : Char) : Pen :=
  match c with
  | '\n' => { p with viewport := p.viewport.lineFeed }
  | '\r' => { p with viewport := p.viewport.carriageReturn }
  | '\x08' => { p with viewport := p.viewport.moveBy (-1) 0 }.blank
  | c => (p.stamp ⟨c, color⟩).advance

def text (p : Pen) (color : Color) (cs : List Char) : Pen :=
  cs.foldl (fun p c => p.put color c) p

/-- Write a span again, on its own row and in the current column. -/
def span (p : Pen) (s : Span) : Pen :=
  { p with viewport := p.viewport.moveToRow s.origin.row }.text s.color s.text.toList

/-- Write spans again, oldest first. -/
def replay (p : Pen) (spans : List Span) : Pen := spans.foldl span p

/-! ## Redrawing -/

/-- Clear the surface and forget every glyph on it. -/
def wipe (p : Pen) : Pen :=
  { p.draw (.clear p.config.background) with shadow := p.shadow.fill none }

/-- Put the cursor back where it stood, and report if the replay missed it. -/
def settle (p : Pen) (live : Position) : Pen :=
  if p.viewport.cursor = live then p
  else { p.note (.redrawAstray p.viewport.cursor live) with viewport := p.viewport.moveTo live }

/-- Draw the whole screen again from the spans. -/
def redraw (p : Pen) (spans : List Span) : Pen :=
  let live := p.viewport.cursor
  let wiped := (p.note (.redrawing spans.length p.viewport.offset)).wipe
  let replayed := { wiped with viewport := wiped.viewport.home }.replay spans
  (replayed.settle live).highlight.present

/-- Scroll until the cursor is on the screen, and report if the window moved. -/
def follow (p : Pen) : Pen :=
  let followed := p.viewport.follow
  let moved := { p with viewport := followed }
  if followed.offset = p.viewport.offset then moved
  else moved.note (.offsetMoved p.viewport.offset followed.offset)

/-! ## Writing piece by piece -/

@[simp] theorem text_nil (p : Pen) (color : Color) : p.text color [] = p := rfl

@[simp] theorem text_cons (p : Pen) (color : Color) (c : Char) (cs : List Char) :
    p.text color (c :: cs) = (p.put color c).text color cs := rfl

/-- Writing a text is writing its parts. -/
theorem text_append (p : Pen) (color : Color) (first second : List Char) :
    p.text color (first ++ second) = (p.text color first).text color second := by
  simp [text]

@[simp] theorem replay_nil (p : Pen) : p.replay [] = p := rfl

@[simp] theorem replay_cons (p : Pen) (s : Span) (rest : List Span) :
    p.replay (s :: rest) = (p.span s).replay rest := rfl

theorem replay_append (p : Pen) (first second : List Span) :
    p.replay (first ++ second) = (p.replay first).replay second := by
  simp [replay]

end Pen

end GlyphConsole
