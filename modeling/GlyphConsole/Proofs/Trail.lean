import GlyphConsole.Proofs.Operations

/-!
# GlyphConsole.Proofs.Trail — where the characters of a text go

A character that is drawn, or that blanks a cell, is put into one cell of the page: its
`target?`, which is there whether the screen shows it or not.  The cells that a text is put
into in turn are its `trail`.

What a text does to the shadow is said through these cells alone (`Viewport.strokes`,
`shadow_text`), so it depends on where the cursor and the window are and on nothing else of
the pen (`Placed.strokes`), and a text whose trail is off the screen changes no shadow
(`strokes_of_unseen`).

A span remembers where the cursor was when it was written, so it remembers its trail
(`Span.trail`); `prints` draws spans where they were written, each on its own.
-/

namespace GlyphConsole

set_option autoImplicit false

namespace Viewport

variable {v w : Viewport}

/-! ## The cells of the page -/

/-- The cell of the page that a character is put into, if it is one that draws or blanks. -/
def target? (v : Viewport) (c : Char) : Option Position :=
  match c with
  | '\n' => none
  | '\r' => none
  | '\x08' => some (v.step '\x08').cursor
  | _ => some v.cursor

/-- The cells of the page that characters written in turn are put into. -/
def trail (v : Viewport) : List Char → List Position
  | [] => []
  | c :: rest => (v.target? c).toList ++ (v.step c).trail rest

/-- The cell of the screen that shows a cell of the page, if one does. -/
def cellAt? (v : Viewport) (q : Position) : Option Cell :=
  (v.screenRow? q.row).map fun row => ⟨q.column, row⟩

/-- The screen shows nothing of what characters written in turn draw or blank. -/
def Unseen (v : Viewport) (cs : List Char) : Prop := ∀ q ∈ v.trail cs, v.screenRow? q.row = none

instance (v : Viewport) (cs : List Char) : Decidable (v.Unseen cs) :=
  inferInstanceAs (Decidable (∀ q ∈ v.trail cs, v.screenRow? q.row = none))

theorem target?_of_isGlyph {c : Char} (glyph : IsGlyph c) (v : Viewport) :
    v.target? c = some v.cursor := by
  obtain ⟨feed, return_, back⟩ := glyph
  unfold target?
  split <;> simp_all

@[simp] theorem screenRow?_step (v : Viewport) (c : Char) (row : Int) :
    (v.step c).screenRow? row = v.screenRow? row := by
  ext n
  simp [screenRow?_eq_some]

/-- A row above the window is not on the screen. -/
theorem screenRow?_of_above {row : Int} (above : row + v.offset < 0) : v.screenRow? row = none := by
  have off : ¬ (0 ≤ row + v.offset ∧ row + v.offset ≤ v.bottom) := by omega
  exact if_neg off

theorem unseen_cons {c : Char} {rest : List Char} :
    v.Unseen (c :: rest) ↔
      (∀ q, v.target? c = some q → v.screenRow? q.row = none) ∧ (v.step c).Unseen rest := by
  simp only [Unseen, trail, List.mem_append, Option.mem_toList, screenRow?_step]
  constructor
  · intro unseen
    exact ⟨fun q put => unseen q (.inl put), fun q member => unseen q (.inr member)⟩
  · rintro ⟨first, later⟩ q (put | member)
    · exact first q put
    · exact later q member

/-! ## What is put there -/

/-- The shadow after a glyph, or nothing, has been put into a cell of the page. -/
def mark (v : Viewport) (shadow : Cells (Option Glyph)) (q : Position) (glyph : Option Glyph) :
    Cells (Option Glyph) :=
  match v.cellAt? q with
  | some cell => shadow.set cell glyph
  | none => shadow

/-- The shadow after a character has been written.  A backspace puts nothing into its cell. -/
def stroke (v : Viewport) (shadow : Cells (Option Glyph)) (color : Color) (c : Char) :
    Cells (Option Glyph) :=
  match v.target? c with
  | some q => v.mark shadow q (if c = '\x08' then none else some ⟨c, color⟩)
  | none => shadow

/-- The shadow after characters have been written in turn. -/
def strokes (v : Viewport) (shadow : Cells (Option Glyph)) (color : Color) :
    List Char → Cells (Option Glyph)
  | [] => shadow
  | c :: rest => (v.step c).strokes (v.stroke shadow color c) color rest

@[simp] theorem grid_mark (v : Viewport) (shadow : Cells (Option Glyph)) (q : Position)
    (glyph : Option Glyph) : (v.mark shadow q glyph).grid = shadow.grid := by
  unfold mark
  split
  · exact Cells.grid_set shadow _ glyph
  · rfl

@[simp] theorem grid_stroke (v : Viewport) (shadow : Cells (Option Glyph)) (color : Color)
    (c : Char) : (v.stroke shadow color c).grid = shadow.grid := by
  unfold stroke
  split
  · exact grid_mark v shadow _ _
  · rfl

@[simp] theorem grid_strokes (v : Viewport) (shadow : Cells (Option Glyph)) (color : Color)
    (cs : List Char) : (v.strokes shadow color cs).grid = shadow.grid := by
  induction cs generalizing v shadow with
  | nil => rfl
  | cons c rest ih => rw [strokes, ih, grid_stroke]

theorem mark_of_unseen {q : Position} (unseen : v.screenRow? q.row = none)
    (shadow : Cells (Option Glyph)) (glyph : Option Glyph) : v.mark shadow q glyph = shadow := by
  simp [mark, cellAt?, unseen]

theorem stroke_of_unseen {c : Char}
    (unseen : ∀ q, v.target? c = some q → v.screenRow? q.row = none)
    (shadow : Cells (Option Glyph)) (color : Color) : v.stroke shadow color c = shadow := by
  unfold stroke
  cases put : v.target? c with
  | none => rfl
  | some q => exact mark_of_unseen (unseen q put) shadow _

/-- What is written off the screen changes no shadow. -/
theorem strokes_of_unseen {cs : List Char} (unseen : v.Unseen cs) (shadow : Cells (Option Glyph))
    (color : Color) : v.strokes shadow color cs = shadow := by
  induction cs generalizing v shadow with
  | nil => rfl
  | cons c rest ih =>
      obtain ⟨first, later⟩ := unseen_cons.1 unseen
      rw [strokes, ih later, stroke_of_unseen first]

/-! ## What it depends on -/

theorem cursor_advance (v : Viewport) :
    v.advance.cursor =
      if v.atRightEdge then ⟨0, v.cursor.row + 1⟩ else ⟨v.cursor.column + 1, v.cursor.row⟩ := by
  unfold advance
  split <;> rfl

/-- Two viewports with their cursors in one place. -/
structure Placed (v w : Viewport) : Prop where
  grid_eq : v.grid = w.grid
  cursor_eq : v.cursor = w.cursor

namespace Placed

theorem step (placed : v.Placed w) (c : Char) : (v.step c).Placed (w.step c) := by
  obtain ⟨grid, cursor⟩ := placed
  refine ⟨by rw [grid_step, grid_step, grid], ?_⟩
  obtain ⟨g, q, _, _⟩ := v
  obtain ⟨g', q', _, _⟩ := w
  cases grid
  cases cursor
  rcases Pen.char_cases c with rfl | rfl | rfl | glyph
  · rfl
  · rfl
  · simp only [Viewport.step, cursor_moveBy]
    rfl
  · simp only [step_of_isGlyph glyph, cursor_advance]
    rfl

theorem steps (placed : v.Placed w) (cs : List Char) : (v.steps cs).Placed (w.steps cs) := by
  induction cs generalizing v w with
  | nil => exact placed
  | cons c rest ih => exact ih (placed.step c)

theorem target? (placed : v.Placed w) (c : Char) : v.target? c = w.target? c := by
  have cursor := placed.cursor_eq
  have back := (placed.step '\x08').cursor_eq
  unfold Viewport.target?
  split
  · rfl
  · rfl
  · rw [back]
  · rw [cursor]

/-- Where a text goes on the page does not depend on the window. -/
theorem trail (placed : v.Placed w) (cs : List Char) : v.trail cs = w.trail cs := by
  induction cs generalizing v w with
  | nil => rfl
  | cons c rest ih => rw [Viewport.trail, Viewport.trail, placed.target? c, ih (placed.step c)]

theorem screenRow? (placed : v.Placed w) (offset : v.offset = w.offset) (row : Int) :
    v.screenRow? row = w.screenRow? row := by
  ext n
  simp [screenRow?_eq_some, placed.grid_eq, offset]

/-- What a text does to the shadow depends on the cursor and the window alone. -/
theorem strokes (placed : v.Placed w) (offset : v.offset = w.offset)
    (shadow : Cells (Option Glyph)) (color : Color) (cs : List Char) :
    v.strokes shadow color cs = w.strokes shadow color cs := by
  induction cs generalizing v w shadow with
  | nil => rfl
  | cons c rest ih =>
      have row := placed.screenRow? offset
      have same : v.stroke shadow color c = w.stroke shadow color c := by
        simp only [stroke, mark, cellAt?, placed.target? c, row]
      rw [Viewport.strokes, Viewport.strokes, same]
      exact ih (placed.step c) (by rw [offset_step, offset_step, offset]) _

end Placed

end Viewport

/-! ## Pens -/

namespace Pen

theorem shadow_lay (p : Pen) (glyph : Option Glyph) :
    (p.lay glyph).shadow = p.viewport.mark p.shadow p.viewport.cursor glyph := by
  have under : p.viewport.cursorCell? = p.viewport.cellAt? p.viewport.cursor := rfl
  unfold lay Viewport.mark
  rw [under]
  cases p.viewport.cellAt? p.viewport.cursor <;> rfl

theorem shadow_put (p : Pen) (color : Color) (c : Char) :
    (p.put color c).shadow = p.viewport.stroke p.shadow color c := by
  rcases char_cases c with rfl | rfl | rfl | glyph
  · rfl
  · rfl
  · -- The cell is that of the cursor after the step, and the window is still where it was.
    have stays : ∀ q : Position, (p.viewport.step '\x08').cellAt? q = p.viewport.cellAt? q := by
      intro q
      simp [Viewport.cellAt?]
    rw [put_backspace, shadow_lay]
    simp only [Viewport.mark, stays]
    rfl
  · rw [put_of_isGlyph glyph, Viewport.stroke, Viewport.target?_of_isGlyph glyph]
    obtain ⟨-, -, back⟩ := glyph
    simp only [back, if_false]
    exact shadow_lay p _

/-- The shadow after a text depends on the shadow and the viewport before it alone. -/
theorem shadow_text (p : Pen) (color : Color) (cs : List Char) :
    (p.text color cs).shadow = p.viewport.strokes p.shadow color cs := by
  induction cs generalizing p with
  | nil => rfl
  | cons c rest ih => rw [text_cons, ih, viewport_put, shadow_put, Viewport.strokes]

end Pen

/-! ## Spans -/

namespace Span

/-- The cursor as it was when the span was written. -/
def written (s : Span) (grid : Grid) : Viewport := { grid, cursor := s.origin }

/-- The cells of the page that the span was put into when it was written. -/
def trail (s : Span) (grid : Grid) : List Position := (s.written grid).trail s.text.toList

/-- Where the cursor was once the span had been written. -/
def stop (s : Span) (grid : Grid) : Position := ((s.written grid).steps s.text.toList).cursor

end Span

namespace Viewport

variable {v w : Viewport}

/-- In the column of a place and on its row, the cursor is at that place. -/
theorem moveToRow_eq_moveTo {q : Position} (column : v.cursor.column = q.column) :
    v.moveToRow q.row = v.moveTo q := by
  obtain ⟨_, ⟨_, _⟩, _, _⟩ := v
  cases column
  rfl

theorem placed_written (s : Span) (v : Viewport) : (v.moveTo s.origin).Placed (s.written v.grid) :=
  ⟨rfl, rfl⟩

/-- The shadow after a span has been drawn where it was written. -/
def print (v : Viewport) (shadow : Cells (Option Glyph)) (s : Span) : Cells (Option Glyph) :=
  (v.moveTo s.origin).strokes shadow s.color s.text.toList

@[simp] theorem grid_print (v : Viewport) (shadow : Cells (Option Glyph)) (s : Span) :
    (v.print shadow s).grid = shadow.grid := grid_strokes _ shadow s.color _

/-- The shadow after spans have been drawn in turn, each where it was written. -/
def prints (v : Viewport) (shadow : Cells (Option Glyph)) (spans : List Span) :
    Cells (Option Glyph) :=
  spans.foldl v.print shadow

@[simp] theorem prints_cons (v : Viewport) (shadow : Cells (Option Glyph)) (s : Span)
    (rest : List Span) : v.prints shadow (s :: rest) = v.prints (v.print shadow s) rest := rfl

theorem prints_append (v : Viewport) (shadow : Cells (Option Glyph)) (first second : List Span) :
    v.prints shadow (first ++ second) = v.prints (v.prints shadow first) second := by
  simp [prints]

theorem prints_concat (v : Viewport) (shadow : Cells (Option Glyph)) (spans : List Span)
    (s : Span) : v.prints shadow (spans ++ [s]) = v.print (v.prints shadow spans) s := by
  simp [prints]

/-- Where the cursor is does not matter to spans drawn where they were written. -/
theorem prints_congr (grid : v.grid = w.grid) (offset : v.offset = w.offset)
    (shadow : Cells (Option Glyph)) (spans : List Span) :
    v.prints shadow spans = w.prints shadow spans := by
  induction spans generalizing shadow with
  | nil => rfl
  | cons s rest ih =>
      have placed : (v.moveTo s.origin).Placed (w.moveTo s.origin) := ⟨grid, rfl⟩
      have same : v.print shadow s = w.print shadow s := placed.strokes offset shadow _ _
      rw [prints_cons, prints_cons, same, ih]

/-- Spans that were written on rows off the screen leave no mark on it. -/
theorem prints_of_unseen {spans : List Span}
    (unseen : ∀ s ∈ spans, ∀ q ∈ s.trail v.grid, v.screenRow? q.row = none)
    (shadow : Cells (Option Glyph)) : v.prints shadow spans = shadow := by
  induction spans generalizing shadow with
  | nil => rfl
  | cons s rest ih =>
      have first : (v.moveTo s.origin).Unseen s.text.toList := by
        intro q member
        rw [(placed_written s v).trail] at member
        exact unseen s List.mem_cons_self q member
      have nothing : v.print shadow s = shadow := strokes_of_unseen first shadow s.color
      rw [prints_cons, nothing]
      exact ih (fun t member => unseen t (List.mem_cons_of_mem s member)) shadow

end Viewport

end GlyphConsole
