import GlyphConsole.Proofs.Shadow

/-!
# GlyphConsole.Proofs.Twins — consoles that differ in the cursor alone

Two consoles are `Twins` if they are the same but for whether the cursor is to be seen,
and their surfaces agree but for the cell under the cursor.  A pen reads that flag in one
place only, when it highlights, so every step of an operation is the same for both
(`putBack_showing`, `text_showing`, `redraw_showing`).  What the surfaces disagree about
goes away whenever the pen takes the cursor off (`agree_putBack`) or clears
(`agree_redraw`), and comes back under the cursor at most (`agree_highlight`).

So every operation keeps twins twins and answers them alike (`Twins.act`), and a write
makes them one (`Twins.write`).
-/

namespace GlyphConsole

set_option autoImplicit false

/-- Two pictures show the same, except perhaps in one cell. -/
structure Picture.Agree (except : Option Cell) (first second : Picture) : Prop where
  sameGrid : first.grid = second.grid
  same : ∀ c, except ≠ some c → first.get? c = second.get? c

namespace Picture.Agree

variable {except : Option Cell} {first second : Picture}

theorem refl (except : Option Cell) (picture : Picture) : Agree except picture picture :=
  ⟨rfl, fun _ _ => rfl⟩

theorem weaken (agree : Agree none first second) : Agree except first second :=
  ⟨agree.sameGrid, fun c _ => agree.same c nofun⟩

theorem set (agree : Agree except first second) (cell : Cell) (shown : Shown) :
    Agree except (first.set cell shown) (second.set cell shown) := by
  refine ⟨?_, fun c other => ?_⟩
  · rw [Cells.grid_set, Cells.grid_set, agree.sameGrid]
  · rw [Cells.get?_set, Cells.get?_set, agree.sameGrid, agree.same c other]

theorem clear (sameGrid : first.grid = second.grid) (color : Color) :
    Agree none (first.apply (.clear color)) (second.apply (.clear color)) := by
  refine ⟨?_, fun c _ => ?_⟩
  · rw [grid_apply, grid_apply, sameGrid]
  · rw [get?_apply_clear, get?_apply_clear, sameGrid]

theorem apply (agree : Agree except first second) (call : DrawCall) :
    Agree except (first.apply call) (second.apply call) := by
  cases call with
  | glyph cell char color => exact agree.set cell _
  | fill cell color => exact agree.set cell _
  | clear color => exact (clear agree.sameGrid color).weaken
  | present => exact agree

/-- Setting the cell that they disagree about ends the disagreement. -/
theorem settle {cell : Cell} (agree : Agree (some cell) first second) (shown : Shown) :
    Agree none (first.set cell shown) (second.set cell shown) := by
  refine ⟨?_, fun c _ => ?_⟩
  · rw [Cells.grid_set, Cells.grid_set, agree.sameGrid]
  · rw [Cells.get?_set, Cells.get?_set, agree.sameGrid]
    by_cases here : c = cell
    · subst here
      by_cases inside : second.grid.Contains c
      · simp only [inside, and_self, if_true]
      · have offFirst : ¬ first.grid.Contains c := agree.sameGrid ▸ inside
        simp only [inside, and_false, if_false, Cells.get?, offFirst]
    · have other : some cell ≠ some c := fun same => here (Option.some.inj same).symm
      simp only [here, false_and, if_false, agree.same c other]

/-- A change in the cell that is left out changes nothing else. -/
theorem set_left {cell : Cell} (agree : Agree (some cell) first second) (shown : Shown) :
    Agree (some cell) (first.set cell shown) second := by
  refine ⟨?_, fun c other => ?_⟩
  · rw [Cells.grid_set, agree.sameGrid]
  · have elsewhere : c ≠ cell := fun same => other (congrArg some same.symm)
    simp only [Cells.get?_set, elsewhere, false_and, if_false, agree.same c other]

theorem symm (agree : Agree except first second) : Agree except second first :=
  ⟨agree.sameGrid.symm, fun c other => (agree.same c other).symm⟩

end Picture.Agree

open Picture (Agree)

namespace Pen

variable {p : Pen} {first second : Picture}

@[simp] theorem showing_showing (p : Pen) (visible visible' : Bool) :
    (p.showing visible).showing visible' = p.showing visible' := rfl

@[simp] theorem screen_showing (p : Pen) (visible : Bool) (picture : Picture) :
    (p.showing visible).screen picture = p.screen picture := rfl

/-! ## What does not read the flag -/

theorem putBack_showing (p : Pen) (visible : Bool) :
    (p.showing visible).putBack = p.putBack.showing visible := by
  have cursor : (p.showing visible).viewport.cursorCell? = p.viewport.cursorCell? := rfl
  rw [putBack_eq, putBack_eq, cursor]
  cases p.viewport.cursorCell? <;> rfl

theorem lay_showing (p : Pen) (visible : Bool) (glyph : Option Glyph) :
    (p.showing visible).lay glyph = (p.lay glyph).showing visible := by
  have cursor : (p.showing visible).viewport.cursorCell? = p.viewport.cursorCell? := rfl
  unfold lay
  rw [cursor]
  cases p.viewport.cursorCell? <;> rfl

theorem moveBy_showing (v : Viewport) (visible : Bool) (columns rows : Int) :
    (v.showCursor visible).moveBy columns rows = (v.moveBy columns rows).showCursor visible := by
  have reach : (v.showCursor visible).reach columns = v.reach columns := rfl
  have carry : (v.showCursor visible).carry columns = v.carry columns := rfl
  have row : (v.showCursor visible).cursor.row = v.cursor.row := rfl
  simp only [Viewport.moveBy, reach, carry, row]
  split <;> rfl

theorem newer_showing (v : Viewport) (visible : Bool) :
    (v.showCursor visible).newer = v.newer.showCursor visible := by
  have offset : (v.showCursor visible).offset = v.offset := rfl
  have live : (v.showCursor visible).liveOffset = v.liveOffset := rfl
  unfold Viewport.newer
  rw [offset, live]
  split <;> rfl

theorem older_showing (v : Viewport) (visible : Bool) :
    (v.showCursor visible).older = v.older.showCursor visible := by
  have offset : (v.showCursor visible).offset = v.offset := rfl
  unfold Viewport.older
  rw [offset]
  split <;> rfl

theorem step_showing (v : Viewport) (visible : Bool) (c : Char) :
    (v.showCursor visible).step c = (v.step c).showCursor visible := by
  unfold Viewport.step
  split
  · rfl
  · rfl
  · exact moveBy_showing v visible (-1) 0
  · have edge : (v.showCursor visible).atRightEdge = v.atRightEdge := rfl
    unfold Viewport.advance
    rw [edge]
    split <;> rfl

theorem put_showing (p : Pen) (visible : Bool) (color : Color) (c : Char) :
    (p.showing visible).put color c = (p.put color c).showing visible := by
  have stepped : ({ p.showing visible with
      viewport := (p.showing visible).viewport.step c } : Pen) =
        ({ p with viewport := p.viewport.step c } : Pen).showing visible := by
    simp only [showing, step_showing]
  rcases char_cases c with rfl | rfl | rfl | glyph
  · exact stepped
  · exact stepped
  · rw [put_backspace, put_backspace, stepped, lay_showing]
  · have edge : (p.showing visible).viewport.atRightEdge = p.viewport.atRightEdge := rfl
    rw [put_of_isGlyph glyph, put_of_isGlyph glyph, lay_showing, edge]
    simp only [showing, step_showing]

theorem text_showing (p : Pen) (visible : Bool) (color : Color) (cs : List Char) :
    (p.showing visible).text color cs = (p.text color cs).showing visible := by
  induction cs generalizing p with
  | nil => rfl
  | cons c rest ih => rw [text_cons, text_cons, put_showing, ih]

theorem replay_showing (p : Pen) (visible : Bool) (spans : List Span) :
    (p.showing visible).replay spans = (p.replay spans).showing visible := by
  induction spans generalizing p with
  | nil => rfl
  | cons s rest ih =>
      have begun : (p.showing visible).span s = (p.span s).showing visible :=
        text_showing { p with viewport := p.viewport.moveToRow s.origin.row } visible s.color _
      rw [replay_cons, replay_cons, begun, ih]

theorem settle_showing (p : Pen) (visible : Bool) (live : Position) :
    (p.showing visible).settle live = (p.settle live).showing visible := by
  have cursor : (p.showing visible).viewport.cursor = p.viewport.cursor := rfl
  unfold settle
  rw [cursor]
  split <;> rfl

theorem restored_showing (p : Pen) (visible : Bool) (spans : List Span) :
    (p.showing visible).restored spans = (p.restored spans).showing visible := by
  have unrolled : (p.showing visible).unrolled spans = (p.unrolled spans).showing visible := rfl
  unfold restored
  rw [unrolled, replay_showing, settle_showing]
  rfl

theorem follow_showing (p : Pen) (visible : Bool) :
    (p.showing visible).follow = p.follow.showing visible := by
  have offset : (p.showing visible).viewport.follow.offset = p.viewport.follow.offset := rfl
  have before : (p.showing visible).viewport.offset = p.viewport.offset := rfl
  unfold follow
  dsimp only
  rw [offset, before]
  by_cases stays : p.viewport.follow.offset = p.viewport.offset
  · rw [if_pos stays, if_pos stays]
    rfl
  · rw [if_neg stays, if_neg stays]
    rfl

theorem ready_showing (p : Pen) (visible : Bool) (spans : List Span) :
    (p.showing visible).ready spans = (p.ready spans).showing visible := by
  have wrapped : (p.showing visible).wrapped = p.wrapped := rfl
  have shown : (p.showing visible).viewport.onScreen = p.viewport.onScreen := rfl
  unfold ready
  rw [wrapped, shown, follow_showing, restored_showing]
  split <;> rfl

/-! ## Where the surfaces disagree -/

/-- Surfaces that agree go on to agree while the same is written on both. -/
theorem stable_agree (first second : Picture) :
    Stable fun p => Agree none (p.screen first) (p.screen second) where
  step _ agree := agree
  toRow _ agree := agree
  lay {p} glyph agree := by
    cases under : p.viewport.cursorCell? with
    | none =>
        rw [lay_of_none under]
        exact agree
    | some cell =>
        rw [screen_lay under, screen_lay under]
        exact agree.set cell _
  wrap _ agree := agree

/-- Taking the cursor off ends a disagreement about its cell. -/
theorem agree_putBack (agree : Agree p.viewport.cursorCell? (p.screen first) (p.screen second)) :
    Agree none (p.putBack.screen first) (p.putBack.screen second) := by
  cases under : p.viewport.cursorCell? with
  | none =>
      rw [putBack_of_none under]
      exact under ▸ agree
  | some cell =>
      rw [screen_putBack under, screen_putBack under]
      exact (under ▸ agree).settle _

theorem cursorLit_eq_some {cell : Cell} (lit : p.cursorLit = some cell) :
    p.viewport.cursorCell? = some cell := by
  unfold cursorLit at lit
  split at lit
  · exact lit
  · exact nomatch lit

/-- Highlighting on one surface only makes them disagree about the cursor's cell at most. -/
theorem agree_highlight_left {cursor : Option Cell} (agree : Agree cursor (p.screen first) second)
    (under : p.viewport.cursorCell? = cursor) : Agree cursor (p.highlight.screen first) second := by
  rw [screen_highlight]
  cases lit : p.cursorLit with
  | none => exact agree
  | some cell =>
      have atCursor : cursor = some cell := under.symm.trans (cursorLit_eq_some lit)
      subst atCursor
      exact agree.set_left _

/-- Taking the cursor off one surface only makes them disagree about its cell at most. -/
theorem agree_putBack_left {cursor : Option Cell} (agree : Agree cursor (p.screen first) second)
    (under : p.viewport.cursorCell? = cursor) : Agree cursor (p.putBack.screen first) second := by
  cases cursor with
  | none =>
      rw [putBack_of_none under]
      exact agree
  | some cell =>
      rw [screen_putBack under]
      exact agree.set_left _

/-- Pens that differ in the flag highlight their surfaces differently under the cursor. -/
theorem agree_highlight (agree : Agree none (p.screen first) (p.screen second)) (visible : Bool) :
    Agree p.viewport.cursorCell? (p.highlight.screen first)
      ((p.showing visible).highlight.screen second) := by
  have left : Agree p.viewport.cursorCell? (p.highlight.screen first) (p.screen second) :=
    agree_highlight_left agree.weaken rfl
  exact (agree_highlight_left (p := p.showing visible) left.symm rfl).symm

/-- Drawing everything again begins with a wipe, and so the surfaces agree. -/
theorem agree_restored (p : Pen) (sameGrid : first.grid = second.grid) (spans : List Span) :
    Agree none ((p.restored spans).screen first) ((p.restored spans).screen second) := by
  have grids : (p.screen first).grid = (p.screen second).grid := by
    rw [grid_screen, grid_screen, sameGrid]
  have cleared := Agree.clear grids p.config.background
  have wiped : Agree none ((p.unrolled spans).screen first) ((p.unrolled spans).screen second) := by
    have screen : ∀ picture : Picture, (p.unrolled spans).screen picture =
        (p.screen picture).apply (.clear p.config.background) := fun picture =>
      screen_draw (p.note (.redrawing spans.length p.viewport.offset)) _ picture
    rw [screen, screen]
    exact cleared
  have replayed := (stable_agree first second).replay wiped spans
  unfold restored settle
  split
  · exact replayed
  · exact replayed

theorem agree_ready (agree : Agree none (p.screen first) (p.screen second)) (spans : List Span) :
    Agree none ((p.ready spans).screen first) ((p.ready spans).screen second) := by
  have sameGrid : first.grid = second.grid := by
    rw [← grid_screen p first, ← grid_screen p second]
    exact agree.sameGrid
  unfold ready
  split
  · exact agree_restored p.follow sameGrid spans
  · exact agree

/-- Showing the cursor on one surface and perhaps not on the other leaves a disagreement
about its cell at most. -/
theorem agree_shown (agree : Agree none (p.screen first) (p.screen second)) (visible : Bool) :
    Agree p.viewport.cursorCell? (p.shown.screen first)
      ((p.showing visible).shown.screen second) := by
  unfold shown
  rw [screen_present, screen_present]
  exact agree_highlight agree visible

/-- Showing the cursor on both surfaces leaves no disagreement. -/
theorem agree_shown_both (agree : Agree none (p.screen first) (p.screen second)) :
    Agree none (p.shown.screen first) (p.shown.screen second) := by
  unfold shown
  rw [screen_present, screen_present, screen_highlight, screen_highlight]
  cases p.cursorLit with
  | none => exact agree
  | some cell => exact agree.set cell _

end Pen

namespace Console

variable {con other : Console} {first second : Picture}

/-! ## Twins -/

/-- The console with the cursor to be seen, or not. -/
def showing (con : Console) (visible : Bool) : Console :=
  { con with viewport := con.viewport.showCursor visible }

/-- Two consoles that differ in whether the cursor is to be seen, and their surfaces. -/
structure Twins (con other : Console) (first second : Picture) : Prop where
  flag : ∃ visible, other = con.showing visible
  agree : Agree con.viewport.cursorCell? first second

theorem Twins.refl (con : Console) (picture : Picture) : Twins con con picture picture :=
  ⟨⟨con.viewport.visible, rfl⟩, Agree.refl _ _⟩

theorem inscribed_showing (con : Console) (visible : Bool) (text : String) (color : Color) :
    (con.showing visible).inscribed text color = con.inscribed text color := by
  have poised : (con.showing visible).poised text color =
      (con.poised text color).showing visible := by
    have span : (con.showing visible).spanFor text color = con.spanFor text color := rfl
    have history : (con.showing visible).history = con.history := rfl
    have erased : (con.showing visible).pen.putBack = con.pen.putBack.showing visible :=
      Pen.putBack_showing con.pen visible
    unfold poised kept
    rw [span, history, erased]
    split <;> rfl
  have span : (con.showing visible).spanFor text color = con.spanFor text color := rfl
  rw [Console.inscribed, Console.inscribed, poised, span, Pen.text_showing, Pen.showing_showing]

/-- What a write draws before it shows the cursor makes the surfaces agree. -/
theorem Twins.inscribed (twins : Twins con other first second) (text : String) (color : Color) :
    Agree none ((con.inscribed text color).screen first)
      ((con.inscribed text color).screen second) := by
  have erased := Pen.agree_putBack (p := con.pen) twins.agree
  have poised : Agree none ((con.poised text color).screen first)
      ((con.poised text color).screen second) := by
    unfold Console.poised
    split
    · exact erased
    · exact erased
  rw [Console.inscribed, Pen.screen_showing, Pen.screen_showing]
  exact (Pen.stable_agree first second).text poised color _

/-- A write makes twins one: the same console, and surfaces that show the same. -/
theorem Twins.write (twins : Twins con other first second) (text : String) (color : Color) :
    (other.act (.write text color)).1 = (con.act (.write text color)).1 ∧
      Agree none (first.run (con.act (.write text color)).1.2.draws)
        (second.run (other.act (.write text color)).1.2.draws) := by
  obtain ⟨visible, rfl⟩ := twins.flag
  have samePen : (con.showing visible).penAfter (.write text color) =
      con.penAfter (.write text color) := by
    have kept : (con.showing visible).kept text color = con.kept text color := rfl
    simp only [penAfter, inscribed_showing, kept]
  have same : ((con.showing visible).act (.write text color)).1 =
      (con.act (.write text color)).1 := by
    rw [act_eq, act_eq, samePen]
    rfl
  refine ⟨same, ?_⟩
  rw [same, run_act, run_act]
  exact Pen.agree_shown_both (Pen.agree_ready (twins.inscribed text color) _)

/-- An operation that reads the flag only to show the cursor at its end keeps twins
twins. -/
theorem twins_of_shown {p : Pen} {visible : Bool} {action : Action}
    (agree : Agree none (p.screen first) (p.screen second))
    (pen : con.penAfter action = p.shown)
    (otherPen : (con.showing visible).penAfter action = (p.showing visible).shown)
    (history : (con.showing visible).historyAfter action = con.historyAfter action) :
    Twins (con.act action).1.1 ((con.showing visible).act action).1.1
      (first.run (con.act action).1.2.draws)
      (second.run ((con.showing visible).act action).1.2.draws) := by
  have viewport : (p.showing visible).shown.viewport = p.shown.viewport.showCursor visible := by
    rw [Pen.viewport_shown, Pen.viewport_shown]
    rfl
  have shadow : (p.showing visible).shown.shadow = p.shown.shadow := by
    rw [Pen.shadow_shown, Pen.shadow_shown]
    rfl
  refine ⟨⟨visible, ?_⟩, ?_⟩
  · rw [act_eq, act_eq, pen, otherPen, history]
    simp only [finish, showing, viewport, shadow]
  · rw [run_act, run_act, act_eq, finish, pen, otherPen]
    show Agree p.shown.viewport.cursorCell? _ _
    rw [Pen.viewport_shown]
    exact Pen.agree_shown agree visible

/-- Drawing everything again with the windows in the same place keeps twins twins. -/
theorem twins_of_turned {visible : Bool} {action : Action} {v w : Viewport}
    (sameGrid : first.grid = second.grid) (sameWindow : w = v.showCursor visible)
    (pen : con.penAfter action = ((con.turned v).restored con.history.spans).shown)
    (otherPen : (con.showing visible).penAfter action =
      (((con.showing visible).turned w).restored con.history.spans).shown)
    (history : (con.showing visible).historyAfter action = con.historyAfter action) :
    Twins (con.act action).1.1 ((con.showing visible).act action).1.1
      (first.run (con.act action).1.2.draws)
      (second.run ((con.showing visible).act action).1.2.draws) := by
  have restored : ((con.turned v).restored con.history.spans).showing visible =
      ((con.showing visible).turned w).restored con.history.spans := by
    rw [← Pen.restored_showing, sameWindow]
    rfl
  refine twins_of_shown (Pen.agree_restored (con.turned v) sameGrid con.history.spans) pen ?_
    history
  rw [otherPen, restored]

/-- Every operation but a toggle keeps twins twins and answers both alike. -/
theorem Twins.act (twins : Twins con other first second) {action : Action}
    (foreground : ∀ pending, action ≠ .toggle pending) :
    Twins (con.act action).1.1 (other.act action).1.1 (first.run (con.act action).1.2.draws)
        (second.run (other.act action).1.2.draws) ∧
      (con.act action).2 = (other.act action).2 := by
  have sameGrid := twins.agree.sameGrid
  have written : ∀ text color, Twins (con.act (.write text color)).1.1
      (other.act (.write text color)).1.1 (first.run (con.act (.write text color)).1.2.draws)
      (second.run (other.act (.write text color)).1.2.draws) := by
    intro text color
    obtain ⟨same, agree⟩ := twins.write text color
    rw [same] at agree ⊢
    exact ⟨(Twins.refl _ first).flag, agree.weaken⟩
  have erased := Pen.agree_putBack (p := con.pen) twins.agree
  obtain ⟨visible, rfl⟩ := twins.flag
  cases action with
  | write text color => exact ⟨written text color, rfl⟩
  | backspace =>
      rw [act_backspace, act_backspace]
      exact ⟨written "\x08" con.config.foreground, rfl⟩
  | toggle pending => exact absurd rfl (foreground pending)
  | redraw =>
      exact ⟨twins_of_turned (v := con.viewport) sameGrid rfl rfl rfl rfl, rfl⟩
  | scrollNewer =>
      refine ⟨twins_of_turned sameGrid (Pen.newer_showing con.viewport visible) rfl rfl rfl, ?_⟩
      show Reply.moved con.scrollNewer.2 = Reply.moved (con.showing visible).scrollNewer.2
      simp only [Console.scrollNewer, Viewport.scrollNewer_eq]
      rfl
  | scrollOlder =>
      refine ⟨twins_of_turned sameGrid (Pen.older_showing con.viewport visible) rfl rfl rfl, ?_⟩
      show Reply.moved con.scrollOlder.2 = Reply.moved (con.showing visible).scrollOlder.2
      simp only [Console.scrollOlder, Viewport.scrollOlder_eq]
      rfl
  | clear =>
      refine ⟨⟨⟨visible, rfl⟩, ?_⟩, rfl⟩
      have cleared : ∀ picture : Picture, picture.run (con.act .clear).1.2.draws =
          picture.apply (.clear con.config.background) := fun _ => rfl
      have otherDraws : ((con.showing visible).act .clear).1.2.draws =
          (con.act .clear).1.2.draws := rfl
      rw [otherDraws, cleared, cleared]
      exact (Agree.clear sameGrid _).weaken
  | moveBy columns rows =>
      have moved : Agree none ((con.moved columns rows).screen first)
          ((con.moved columns rows).screen second) := erased
      -- Whether the window follows the cursor does not depend on the flag.
      refine ⟨twins_of_shown (Pen.agree_ready moved con.history.spans) rfl ?_ rfl, rfl⟩
      have otherMoved : (con.showing visible).moved columns rows =
          (con.moved columns rows).showing visible := by
        have putBack : (con.showing visible).pen.putBack = con.pen.putBack.showing visible :=
          Pen.putBack_showing con.pen visible
        have viewport : (con.showing visible).viewport.moveBy columns rows =
            (con.viewport.moveBy columns rows).showCursor visible :=
          Pen.moveBy_showing con.viewport visible columns rows
        simp only [Console.moved, putBack, viewport]
        rfl
      rw [← Pen.ready_showing, ← otherMoved]
      rfl

/-- A toggle of one of two twins keeps them twins. -/
theorem Twins.toggle (twins : Twins con other first second) (pending : Bool) :
    Twins con (other.toggle pending).1.1 first
      (second.run (other.toggle pending).1.2.draws) := by
  cases pending with
  | true => exact twins
  | false =>
      obtain ⟨visible, rfl⟩ := twins.flag
      let turned : Pen := (con.showing visible).flipped
      have cursor : turned.viewport.cursorCell? = con.viewport.cursorCell? := rfl
      have before : Agree con.viewport.cursorCell? (turned.screen second) first := twins.agree.symm
      show Twins con ((con.showing visible).act (.toggle false)).1.1 first
        (second.run ((con.showing visible).act (.toggle false)).1.2.draws)
      rw [run_act, act_eq]
      refine ⟨⟨!visible, ?_⟩, ?_⟩
      · have viewport := viewport_penAfter_toggle (con.showing visible)
        have shadow : ((con.showing visible).penAfter (.toggle false)).shadow = con.shadow := by
          have kept := shadow_toggle (con.showing visible) false
          rw [act_eq] at kept
          exact kept
        simp only [finish, viewport, shadow]
        rfl
      · simp only [penAfter, Pen.screen_present]
        split
        · exact (Pen.agree_highlight_left before cursor).symm
        · exact (Pen.agree_putBack_left before cursor).symm

end Console

end GlyphConsole
