import GlyphConsole.Console.Basic
import GlyphConsole.Picture
import GlyphConsole.Proofs.Window

/-!
# GlyphConsole.Proofs.Writing — what a pen does, in few words

A pen changes the screen in one way only: `Pen.lay` puts a glyph, or nothing, into the
cell under the cursor, on the surface and in the shadow at once.  Characters are written
by laying and by steps of the viewport (`put_backspace`, `put_of_isGlyph`), so a property
of pens that both keep is kept by whole texts and replays (`Stable.text`,
`Stable.replay`).

An operation that draws ends with a pen that has `shown` the cursor.  Drawing everything
again leaves the viewport alone (`viewport_restored`), however the replay wandered about,
and a pen that moved the cursor is `ready` to show it where `follow` takes the viewport
(`viewport_ready`).
-/

namespace GlyphConsole

set_option autoImplicit false

/-- What a cell shows in which a glyph stands, or nothing. -/
def Shown.standing (background : Color) : Option Glyph → Shown
  | some g => .glyph g.char g.color
  | none => .filled background

/-- The call that draws what stands in a cell. -/
def DrawCall.restore (background : Color) (cell : Cell) : Option Glyph → DrawCall
  | some g => .glyph cell g.char g.color
  | none => .fill cell background

theorem Picture.apply_restore (picture : Picture) (background : Color) (cell : Cell)
    (glyph : Option Glyph) :
    picture.apply (.restore background cell glyph) =
      picture.set cell (.standing background glyph) := by
  cases glyph <;> rfl

@[simp] theorem Picture.grid_run (picture : Picture) (calls : Array DrawCall) :
    (picture.run calls).grid = picture.grid := by
  unfold Picture.run
  refine Array.foldl_induction (fun _ (p : Picture) => p.grid = picture.grid) rfl ?_
  intro i p same
  rw [grid_apply, same]

namespace Pen

/-! ## Laying -/

/-- Put a glyph, or nothing, into the cell under the cursor, if it is on the screen. -/
def lay (p : Pen) (glyph : Option Glyph) : Pen :=
  match p.viewport.cursorCell? with
  | some cell =>
      { p.draw (.restore p.config.background cell glyph) with
        shadow := p.shadow.set cell glyph }
  | none => p

theorem stamp_eq_lay (p : Pen) (glyph : Glyph) : p.stamp glyph = p.lay (some glyph) := rfl

theorem putBack_eq (p : Pen) :
    p.putBack =
      match p.viewport.cursorCell? with
      | some cell => p.draw (.restore p.config.background cell (p.glyphAt? cell))
      | none => p := by
  unfold putBack
  cases p.viewport.cursorCell? with
  | none => rfl
  | some cell =>
      dsimp only
      cases p.glyphAt? cell <;> rfl

/-- What is laid stands under the cursor, and nothing else has changed. -/
theorem glyphAt?_lay {p : Pen} {c : Cell} (inside : p.shadow.grid.Contains c)
    (glyph : Option Glyph) :
    (p.lay glyph).glyphAt? c =
      if p.viewport.cursorCell? = some c then glyph else p.glyphAt? c := by
  unfold lay
  cases p.viewport.cursorCell? with
  | none => rfl
  | some cell =>
      simp only [glyphAt?, Cells.get?_set, Option.some.injEq]
      by_cases here : c = cell
      · subst here
        simp only [inside, and_self, if_true, Option.join_some]
      · simp only [here, Ne.symm here, false_and, if_false]

@[simp] theorem shadow_grid_lay (p : Pen) (glyph : Option Glyph) :
    (p.lay glyph).shadow.grid = p.shadow.grid := by
  unfold lay
  split
  · exact Cells.grid_set _ _ _
  · rfl

@[simp] theorem viewport_lay (p : Pen) (glyph : Option Glyph) :
    (p.lay glyph).viewport = p.viewport := by
  unfold lay
  split <;> rfl

@[simp] theorem wrapped_lay (p : Pen) (glyph : Option Glyph) :
    (p.lay glyph).wrapped = p.wrapped := by
  unfold lay
  split <;> rfl

@[simp] theorem config_lay (p : Pen) (glyph : Option Glyph) : (p.lay glyph).config = p.config := by
  unfold lay
  split <;> rfl

/-! ## Writing a character -/

theorem put_backspace (p : Pen) (color : Color) :
    p.put color '\x08' = ({ p with viewport := p.viewport.step '\x08' } : Pen).lay none := rfl

theorem put_of_isGlyph {c : Char} (glyph : Viewport.IsGlyph c) (p : Pen) (color : Color) :
    p.put color c =
      { p.lay (some ⟨c, color⟩) with
        wrapped := p.wrapped || p.viewport.atRightEdge
        viewport := p.viewport.step c } := by
  rw [Viewport.step_of_isGlyph glyph]
  obtain ⟨feed, return_, back⟩ := glyph
  unfold put
  split
  · contradiction
  · contradiction
  · contradiction
  · rw [stamp_eq_lay, advance, viewport_lay, wrapped_lay]

/-- A character is one of three that are not drawn, or a glyph. -/
theorem char_cases (c : Char) : c = '\n' ∨ c = '\r' ∨ c = '\x08' ∨ Viewport.IsGlyph c := by
  by_cases feed : c = '\n'
  · exact .inl feed
  · by_cases return_ : c = '\r'
    · exact .inr (.inl return_)
    · by_cases back : c = '\x08'
      · exact .inr (.inr (.inl back))
      · exact .inr (.inr (.inr ⟨feed, return_, back⟩))

/-! ## What writing keeps -/

/-- A property of pens that a step, a change of row and a glyph laid down all keep. -/
structure Stable (P : Pen → Prop) : Prop where
  step : ∀ {p : Pen} (c : Char), P p → P { p with viewport := p.viewport.step c }
  toRow : ∀ {p : Pen} (row : Int), P p → P { p with viewport := p.viewport.moveToRow row }
  lay : ∀ {p : Pen} (glyph : Option Glyph), P p → P (p.lay glyph)
  wrap : ∀ {p : Pen} (wrapped : Bool), P p → P { p with wrapped }

namespace Stable

variable {P : Pen → Prop} {p : Pen}

theorem put (stable : Stable P) (holds : P p) (color : Color) (c : Char) : P (p.put color c) := by
  rcases char_cases c with rfl | rfl | rfl | glyph
  · exact stable.step '\n' holds
  · exact stable.step '\r' holds
  · exact stable.lay none (stable.step '\x08' holds)
  · have laid := stable.wrap (p.wrapped || p.viewport.atRightEdge)
      (stable.lay (some ⟨c, color⟩) holds)
    have stepped := stable.step c laid
    rw [put_of_isGlyph glyph]
    simpa only [viewport_lay] using stepped

theorem text (stable : Stable P) (holds : P p) (color : Color) (cs : List Char) :
    P (p.text color cs) := by
  induction cs generalizing p with
  | nil => exact holds
  | cons c rest ih => exact ih (stable.put holds color c)

theorem replay (stable : Stable P) (holds : P p) (spans : List Span) : P (p.replay spans) := by
  induction spans generalizing p with
  | nil => exact holds
  | cons s rest ih => exact ih (stable.text (stable.toRow s.origin.row holds) s.color _)

end Stable

/-- Writing moves the cursor only: the rest of the viewport and the choices stay. -/
theorem stable_frame (config : ConsoleConfig) (grid : Grid) (offset : Int) (visible : Bool) :
    Stable fun p => p.config = config ∧ p.viewport.grid = grid ∧ p.viewport.offset = offset ∧
      p.viewport.visible = visible where
  step c := by
    rintro ⟨rfl, rfl, rfl, rfl⟩
    exact ⟨rfl, Viewport.grid_step _ c, Viewport.offset_step _ c, Viewport.visible_step _ c⟩
  toRow _ holds := holds
  lay glyph := by
    rintro ⟨rfl, rfl, rfl, rfl⟩
    simp only [config_lay, viewport_lay, and_self]
  wrap _ holds := holds

/-- The viewport after a character depends on the viewport before it alone. -/
theorem viewport_put (p : Pen) (color : Color) (c : Char) :
    (p.put color c).viewport = p.viewport.step c := by
  rcases char_cases c with rfl | rfl | rfl | glyph
  · rfl
  · rfl
  · rw [put_backspace, viewport_lay]
  · rw [put_of_isGlyph glyph]

theorem viewport_text (p : Pen) (color : Color) (cs : List Char) :
    (p.text color cs).viewport = p.viewport.steps cs := by
  induction cs generalizing p with
  | nil => rfl
  | cons c rest ih => rw [text_cons, ih, viewport_put, Viewport.steps_cons]

theorem config_text (p : Pen) (color : Color) (cs : List Char) :
    (p.text color cs).config = p.config :=
  ((stable_frame p.config _ _ _).text ⟨rfl, rfl, rfl, rfl⟩ color cs).1

theorem config_replay (p : Pen) (spans : List Span) : (p.replay spans).config = p.config :=
  ((stable_frame p.config _ _ _).replay ⟨rfl, rfl, rfl, rfl⟩ spans).1

/-! ## Ending an operation -/

@[simp] theorem viewport_highlight (p : Pen) : p.highlight.viewport = p.viewport := by
  unfold highlight
  split
  · split <;> rfl
  · rfl

@[simp] theorem shadow_highlight (p : Pen) : p.highlight.shadow = p.shadow := by
  unfold highlight
  split
  · split <;> rfl
  · rfl

@[simp] theorem config_highlight (p : Pen) : p.highlight.config = p.config := by
  unfold highlight
  split
  · split <;> rfl
  · rfl

theorem highlight_eq {p : Pen} {cell : Cell} (visible : p.viewport.visible = true)
    (under : p.viewport.cursorCell? = some cell) :
    p.highlight = p.draw (.fill cell p.config.cursorColor) := by
  simp only [highlight, visible, under, if_true]

@[simp] theorem viewport_putBack (p : Pen) : p.putBack.viewport = p.viewport := by
  rw [putBack_eq]
  split <;> rfl

@[simp] theorem shadow_putBack (p : Pen) : p.putBack.shadow = p.shadow := by
  rw [putBack_eq]
  split <;> rfl

@[simp] theorem config_putBack (p : Pen) : p.putBack.config = p.config := by
  rw [putBack_eq]
  split <;> rfl

@[simp] theorem wrapped_putBack (p : Pen) : p.putBack.wrapped = p.wrapped := by
  rw [putBack_eq]
  split <;> rfl

@[simp] theorem viewport_follow (p : Pen) : p.follow.viewport = p.viewport.follow := by
  simp only [follow]
  split <;> rfl

@[simp] theorem shadow_follow (p : Pen) : p.follow.shadow = p.shadow := by
  simp only [follow]
  split <;> rfl

@[simp] theorem config_follow (p : Pen) : p.follow.config = p.config := by
  simp only [follow]
  split <;> rfl

/-- The pen with the cursor to be seen, or not. -/
def showing (p : Pen) (visible : Bool) : Pen :=
  { p with viewport := p.viewport.showCursor visible }

/-- The pen that has shown the cursor and presented what was drawn. -/
def shown (p : Pen) : Pen := p.highlight.present

@[simp] theorem viewport_shown (p : Pen) : p.shown.viewport = p.viewport := viewport_highlight p

@[simp] theorem shadow_shown (p : Pen) : p.shown.shadow = p.shadow := shadow_highlight p

@[simp] theorem config_shown (p : Pen) : p.shown.config = p.config := config_highlight p

/-- A pen at the start of a replay: the surface cleared, the cursor at the origin. -/
def unrolled (p : Pen) (spans : List Span) : Pen :=
  let wiped := (p.note (.redrawing spans.length p.viewport.offset)).wipe
  { wiped with viewport := wiped.viewport.home }

/-- The pen that has drawn everything again and not yet shown the cursor. -/
def restored (p : Pen) (spans : List Span) : Pen :=
  ((p.unrolled spans).replay spans).settle p.viewport.cursor

theorem redraw_eq (p : Pen) (spans : List Span) :
    p.redraw spans = (p.restored spans).shown := rfl

/-- The pen at the end of an operation that moved the cursor, before it shows the cursor:
it has scrolled to the cursor and drawn everything again if the text stepped over the
right edge or the cursor was off the screen. -/
def ready (p : Pen) (spans : List Span) : Pen :=
  if p.wrapped || !p.viewport.onScreen then p.follow.restored spans else p

theorem shown_ready (p : Pen) (spans : List Span) :
    (p.ready spans).shown =
      if p.wrapped || !p.viewport.onScreen then p.follow.redraw spans else p.shown := by
  unfold ready
  split
  · rw [redraw_eq]
  · rfl

/-- Settling moves the cursor and nothing else of the viewport. -/
theorem viewport_settle (p : Pen) (live : Position) :
    (p.settle live).viewport = { p.viewport with cursor := live } := by
  unfold settle
  split
  · rename_i there
    rw [← there]
  · rfl

@[simp] theorem config_settle (p : Pen) (live : Position) : (p.settle live).config = p.config := by
  unfold settle
  split <;> rfl

theorem viewport_restored (p : Pen) (spans : List Span) :
    (p.restored spans).viewport = p.viewport := by
  obtain ⟨-, grid, offset, visible⟩ :=
    (stable_frame p.config p.viewport.grid p.viewport.offset p.viewport.visible).replay
      (p := p.unrolled spans) ⟨rfl, rfl, rfl, rfl⟩ spans
  rw [restored, viewport_settle]
  cases h : p.viewport
  simp_all

theorem config_restored (p : Pen) (spans : List Span) : (p.restored spans).config = p.config := by
  rw [restored, config_settle, config_replay]
  rfl

theorem config_ready (p : Pen) (spans : List Span) : (p.ready spans).config = p.config := by
  unfold ready
  split
  · rw [config_restored, config_follow]
  · rfl

theorem viewport_ready {p : Pen} (usable : p.viewport.grid.Usable) (spans : List Span) :
    (p.ready spans).viewport = p.viewport.follow := by
  unfold ready
  split
  · rw [viewport_restored, viewport_follow]
  · rename_i settled
    simp only [Bool.or_eq_true, Bool.not_eq_true', not_or, Bool.not_eq_false] at settled
    exact (Viewport.follow_of_onScreen usable.height_pos settled.2).symm

end Pen

end GlyphConsole
