import GlyphConsole.Proofs.Operations

/-!
# GlyphConsole.Proofs.Calls — what an operation asks of its surface

A pen is `Tidy` if it has only drawn in cells of its grid and only cleared to the
background.  Writing keeps pens tidy, whatever is off the screen (`stable_tidy`), and so
does everything an operation does before it presents.  So the calls of an operation are
calls that paint on the grid, and then one `present` (`Console.draws_act`); a toggle that
is refused calls nothing.  Call by call, this is what a surface may rely on
(`Console.calls_on_surface`).
-/

namespace GlyphConsole

set_option autoImplicit false

/-- The call paints cells of a grid, or all of them in one color. -/
def DrawCall.Paints (grid : Grid) (background : Color) : DrawCall → Prop
  | .glyph cell _ _ => grid.Contains cell
  | .fill cell _ => grid.Contains cell
  | .clear color => color = background
  | .present => False

/-- The calls paint, and then present once. -/
def Presents (grid : Grid) (background : Color) (calls : Array DrawCall) : Prop :=
  ∃ body : Array DrawCall, (∀ call ∈ body, call.Paints grid background) ∧
    calls = body.push .present

namespace Presents

variable {grid : Grid} {background : Color} {calls : Array DrawCall}

/-- A call that is not the last one paints. -/
theorem paints (presents : Presents grid background calls) {call : DrawCall}
    (made : call ∈ calls) (other : call ≠ .present) : call.Paints grid background := by
  obtain ⟨body, paints, rfl⟩ := presents
  rcases Array.mem_push.1 made with before | last
  · exact paints call before
  · exact absurd last other

theorem back?_eq (presents : Presents grid background calls) : calls.back? = some .present := by
  obtain ⟨body, -, rfl⟩ := presents
  exact Array.back?_push

theorem count_present (presents : Presents grid background calls) : calls.count .present = 1 := by
  obtain ⟨body, paints, rfl⟩ := presents
  have before : body.count .present = 0 := Array.count_eq_zero.2 (paints .present)
  rw [Array.count_push_self, before]

end Presents

namespace Pen

variable {p : Pen}

/-- The cursor is in the columns of the grid, and all calls so far paint. -/
structure Tidy (p : Pen) : Prop where
  aligned : p.viewport.Aligned
  paints : ∀ call ∈ p.output.draws, call.Paints p.viewport.grid p.config.background

namespace Tidy

theorem draw (tidy : p.Tidy) {call : DrawCall}
    (paints : call.Paints p.viewport.grid p.config.background) : (p.draw call).Tidy := by
  refine ⟨tidy.aligned, fun other member => ?_⟩
  rcases Array.mem_push.1 member with before | rfl
  · exact tidy.paints other before
  · exact paints

theorem moveTo (tidy : p.Tidy) {v : Viewport} (aligned : v.Aligned)
    (grid : v.grid = p.viewport.grid) : ({ p with viewport := v } : Pen).Tidy :=
  ⟨aligned, fun call member => grid.symm ▸ tidy.paints call member⟩

theorem note (tidy : p.Tidy) (notice : Log.Notice) : (p.note notice).Tidy :=
  ⟨tidy.aligned, tidy.paints⟩

theorem restore (tidy : p.Tidy) {cell : Cell} (under : p.viewport.cursorCell? = some cell)
    (glyph : Option Glyph) : (p.draw (.restore p.config.background cell glyph)).Tidy := by
  have inside := tidy.aligned.contains_of_cursorCell? under
  cases glyph with
  | none => exact tidy.draw inside
  | some g => exact tidy.draw inside

theorem lay (tidy : p.Tidy) (glyph : Option Glyph) : (p.lay glyph).Tidy := by
  unfold Pen.lay
  split
  · rename_i cell under
    have drawn := tidy.restore under glyph
    exact ⟨drawn.aligned, drawn.paints⟩
  · exact tidy

theorem putBack (tidy : p.Tidy) : p.putBack.Tidy := by
  rw [putBack_eq]
  split
  · rename_i cell under
    exact tidy.restore under _
  · exact tidy

theorem highlight (tidy : p.Tidy) : p.highlight.Tidy := by
  unfold Pen.highlight
  split
  · split
    · rename_i cell under
      exact tidy.draw (tidy.aligned.contains_of_cursorCell? under)
    · exact tidy
  · exact tidy

theorem wipe (tidy : p.Tidy) : p.wipe.Tidy := by
  have paints : (DrawCall.clear p.config.background).Paints p.viewport.grid
      p.config.background := rfl
  have cleared := tidy.draw paints
  exact ⟨cleared.aligned, cleared.paints⟩

theorem follow (tidy : p.Tidy) : p.follow.Tidy := by
  have moved : ({ p with viewport := p.viewport.follow } : Pen).Tidy :=
    tidy.moveTo ⟨tidy.aligned.usable, tidy.aligned.column_lt⟩ rfl
  unfold Pen.follow
  dsimp only
  split
  · exact moved
  · exact moved.note _

end Tidy

/-- Writing draws on the grid only. -/
theorem stable_tidy : Stable Tidy where
  step c tidy := tidy.moveTo (tidy.aligned.step c) (Viewport.grid_step _ c)
  toRow _ tidy := tidy.moveTo ⟨tidy.aligned.usable, tidy.aligned.column_lt⟩ rfl
  lay glyph tidy := tidy.lay glyph
  wrap _ tidy := ⟨tidy.aligned, tidy.paints⟩

namespace Tidy

theorem showing (tidy : p.Tidy) (visible : Bool) : (p.showing visible).Tidy :=
  tidy.moveTo ⟨tidy.aligned.usable, tidy.aligned.column_lt⟩ rfl

theorem restored (tidy : p.Tidy) (spans : List Span) : (p.restored spans).Tidy := by
  have wiped := (tidy.note (.redrawing spans.length p.viewport.offset)).wipe
  have begun : (p.unrolled spans).Tidy :=
    wiped.moveTo ⟨tidy.aligned.usable, tidy.aligned.usable.columns_pos⟩ rfl
  have replayed := stable_tidy.replay begun spans
  have grid : ((p.unrolled spans).replay spans).viewport.grid = p.viewport.grid :=
    ((stable_frame p.config p.viewport.grid p.viewport.offset p.viewport.visible).replay
      (p := p.unrolled spans) ⟨rfl, rfl, rfl, rfl⟩ spans).2.1
  unfold Pen.restored settle
  split
  · exact replayed
  · have live : (((p.unrolled spans).replay spans).viewport.moveTo p.viewport.cursor).Aligned :=
      ⟨grid.symm ▸ tidy.aligned.usable, grid.symm ▸ tidy.aligned.column_lt⟩
    exact (replayed.note _).moveTo live rfl

theorem ready (tidy : p.Tidy) (spans : List Span) : (p.ready spans).Tidy := by
  unfold Pen.ready
  split
  · exact tidy.follow.restored spans
  · exact tidy

/-- A tidy pen that presents has made the calls of an operation. -/
theorem present (tidy : p.Tidy) :
    Presents p.present.viewport.grid p.present.config.background p.present.output.draws :=
  ⟨p.output.draws, tidy.paints, rfl⟩

theorem shown (tidy : p.Tidy) :
    Presents p.shown.viewport.grid p.shown.config.background p.shown.output.draws :=
  tidy.highlight.present

end Tidy

end Pen

namespace Console

variable {con : Console}

theorem tidy_pen (aligned : con.viewport.Aligned) : con.pen.Tidy := ⟨aligned, nofun⟩

theorem tidy_inscribed (aligned : con.viewport.Aligned) (text : String) (color : Color) :
    (con.inscribed text color).Tidy := by
  have poised : (con.poised text color).Tidy := by
    unfold Console.poised
    split
    · exact (tidy_pen aligned).putBack.note _
    · exact (tidy_pen aligned).putBack
  exact (Pen.stable_tidy.text poised color _).showing true

theorem presents_penAfter (aligned : con.viewport.Aligned) {action : Action}
    (done : action ≠ .toggle true) :
    Presents con.grid con.config.background (con.penAfter action).output.draws := by
  have tidy := tidy_pen aligned
  have grid : (con.penAfter action).viewport.grid = con.grid := by
    rw [viewport_penAfter aligned.usable, Viewport.grid_act]
    rfl
  rw [← grid, ← config_penAfter con action]
  cases action with
  | write text color => exact ((tidy_inscribed aligned text color).ready _).shown
  | redraw => exact (tidy.restored _).shown
  | scrollNewer =>
      have turned : (con.turned con.viewport.newer).Tidy :=
        tidy.moveTo (aligned.of_same (Viewport.grid_newer _) (Viewport.cursor_newer _))
          (Viewport.grid_newer _)
      exact (turned.restored _).shown
  | scrollOlder =>
      have turned : (con.turned con.viewport.older).Tidy :=
        tidy.moveTo (aligned.of_same (Viewport.grid_older _) (Viewport.cursor_older _))
          (Viewport.grid_older _)
      exact (turned.restored _).shown
  | clear =>
      exact (tidy.wipe.moveTo (v := con.viewport.reset)
        ⟨aligned.usable, aligned.usable.columns_pos⟩ rfl).present
  | moveBy columns rows =>
      have moved : (con.moved columns rows).Tidy := by
        refine tidy.putBack.moveTo (aligned.moveBy columns rows) ?_
        rw [Viewport.grid_moveBy, Pen.viewport_putBack]
        rfl
      exact (moved.ready _).shown
  | backspace =>
      exact ((tidy_inscribed aligned "\x08" con.config.foreground).ready _).shown
  | toggle pending =>
      cases pending with
      | true => exact absurd rfl done
      | false =>
          have flipped : con.flipped.Tidy :=
            tidy.moveTo (v := con.viewport.flipCursor) ⟨aligned.usable, aligned.column_lt⟩ rfl
          simp only [penAfter]
          split
          · exact flipped.highlight.present
          · exact flipped.putBack.present

/-- Every operation paints on the grid and then presents, except for a toggle that is
refused. -/
theorem draws_act (aligned : con.viewport.Aligned) (action : Action) :
    if action = .toggle true then (con.act action).1.2.draws = #[]
    else Presents con.grid con.config.background (con.act action).1.2.draws := by
  split
  · rename_i refused
    rw [refused]
    rfl
  · rename_i done
    rw [act_eq]
    exact presents_penAfter aligned done

/-- A new console clears its surface, shows the cursor, and presents. -/
theorem draws_start {grid : Grid} (usable : grid.Usable) (config : ConsoleConfig) :
    (start grid config).2.draws =
      #[.clear config.background, .fill ⟨0, 0⟩ config.cursorColor, .present] := by
  have height := usable.height_eq
  have rows := usable.rows_pos
  have first : (0 : Int) < grid.height := by omega
  have row : ({ grid } : Viewport).screenRow? 0 = some 0 :=
    Viewport.screenRow?_eq_some.2 ⟨rfl, first⟩
  have under : ({ grid } : Viewport).cursorCell? = some ⟨0, 0⟩ := congrArg (Option.map _) row
  unfold start
  dsimp only [finish]
  rw [Pen.highlight_eq rfl under]
  rfl

/-- **The console keeps to its surface.**  Let a console be created on any surface, and let
anything have been done with it.  Among the calls of the next operation, those of a redraw
included, every glyph and every fill is for a cell of the grid that fits the surface, every clear
is to the background, and the last call presents, and no other.  A toggle that is refused makes
no call. -/
theorem calls_on_surface {surface cell : Extent} {config : ConsoleConfig} {con : Console}
    {out : Output} (created : create surface cell config = .ok (con, out))
    (actions : List Action) (action : Action) :
    let calls := ((con.run actions).1.act action).1.2.draws
    Grid.fit? surface cell = some con.grid ∧
    (∀ c char color, .glyph c char color ∈ calls →
      c.column < con.grid.columns ∧ c.row < con.grid.rows) ∧
    (∀ c color, .fill c color ∈ calls → c.column < con.grid.columns ∧ c.row < con.grid.rows) ∧
    (∀ color, .clear color ∈ calls → color = config.background) ∧
    (action ≠ .toggle true → calls.back? = some .present ∧ calls.count .present = 1) ∧
    (action = .toggle true → calls = #[]) := by
  intro calls
  have begun := regular_of_create created
  have same : (con.run actions).1.grid = con.grid := grid_run begun actions
  have drawn := draws_act (regular_run begun actions).toAligned action
  rw [same, config_run, config_of_create created] at drawn
  have paints : ∀ call ∈ calls, call ≠ .present → call.Paints con.grid config.background := by
    intro call made other
    split at drawn
    · rw [show calls = #[] from drawn] at made
      exact absurd made (Array.not_mem_empty call)
    · exact drawn.paints made other
  refine ⟨(eq_start_of_create created).1, fun c char color made => paints _ made nofun,
    fun c color made => paints _ made nofun, fun color made => paints _ made nofun, ?_, ?_⟩
  · intro done
    rw [if_neg done] at drawn
    exact ⟨drawn.back?_eq, drawn.count_present⟩
  · intro refused
    rwa [if_pos refused] at drawn

/-- On three columns and two rows, text off both ends of the screen is drawn again. -/
theorem calls_on_surface_small :
    create ⟨24, 32⟩ ⟨8, 16⟩ {} = .ok (start ⟨3, 2⟩ {}) ∧
      let calls := (((start ⟨3, 2⟩ {}).1.run
        [.write "abcd\n\x08\x08" .pureRed, .scrollOlder]).1.act (.write "ef\n\ng" .white)).1.2.draws
      Action.write "ef\n\ng" .white ≠ .toggle true ∧
        calls.back? = some .present ∧ calls.count .present = 1 := by
  have created : create ⟨24, 32⟩ ⟨8, 16⟩ {} =
      .ok ((start ⟨3, 2⟩ {}).1, (start ⟨3, 2⟩ {}).2) := rfl
  have done : Action.write "ef\n\ng" .white ≠ .toggle true := nofun
  obtain ⟨-, -, -, -, presents, -⟩ := calls_on_surface created
    [.write "abcd\n\x08\x08" .pureRed, .scrollOlder] (.write "ef\n\ng" .white)
  exact ⟨created, done, presents done⟩

end Console

end GlyphConsole
