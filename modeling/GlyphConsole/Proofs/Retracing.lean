import GlyphConsole.Proofs.Page
import GlyphConsole.Proofs.Trail

/-!
# GlyphConsole.Proofs.Retracing — when a redraw leaves the screen as it is

A replay puts the cursor on the row where a span was written and leaves it in the column
where the span before it stopped.  So it draws a span where it was written if the column is
the one the span was written in, or if the span is out of sight both times.  A replay that
does so for every span `Retraces` them, and draws just what they drew when they were written
(`replays_of_retraces`).

Between two redraws what stands on the screen is `Inked`: the spans that are kept, and some
of those that were lost last, each drawn where it was written.  A write that draws no more
than its own text keeps that (`Inked.write`), and a redraw brings it about if it retraces the
spans (`inked_of_redraws`).  So a redraw after a write changes no cell if it retraces what is
kept, the redraw before it did so too, and no lost span is in the window
(`Inked.shadow_redraw`).  Without either of the first two conditions it may move text, also
when nothing has been lost.
-/

namespace GlyphConsole

set_option autoImplicit false

namespace Viewport

variable {v : Viewport}

/-! ## Replays -/

/-- The shadow after a replay: each span on its own row, in the column where the one before
it stopped. -/
def replays (v : Viewport) (shadow : Cells (Option Glyph)) : List Span → Cells (Option Glyph)
  | [] => shadow
  | s :: rest =>
      ((v.moveToRow s.origin.row).steps s.text.toList).replays
        ((v.moveToRow s.origin.row).strokes shadow s.color s.text.toList) rest

/-- The replay comes to every span in the column where the span was written, unless the
screen shows nothing of the span here or there. -/
def Retraces (v : Viewport) : List Span → Prop
  | [] => True
  | s :: rest =>
      (v.cursor.column = s.origin.column ∨
        (v.moveToRow s.origin.row).Unseen s.text.toList ∧
          (v.moveTo s.origin).Unseen s.text.toList) ∧
      ((v.moveToRow s.origin.row).steps s.text.toList).Retraces rest

instance decidableRetraces (v : Viewport) : (spans : List Span) → Decidable (v.Retraces spans)
  | [] => .isTrue trivial
  | s :: rest =>
      have := decidableRetraces ((v.moveToRow s.origin.row).steps s.text.toList) rest
      inferInstanceAs (Decidable ((_ ∨ _ ∧ _) ∧ _))

/-- A replay that retraces the spans draws them where they were written. -/
theorem replays_of_retraces {spans : List Span} (retraces : v.Retraces spans)
    (shadow : Cells (Option Glyph)) : v.replays shadow spans = v.prints shadow spans := by
  induction spans generalizing v shadow with
  | nil => rfl
  | cons s rest ih =>
      obtain ⟨first, later⟩ := retraces
      have same : (v.moveToRow s.origin.row).strokes shadow s.color s.text.toList =
          v.print shadow s := by
        rcases first with column | ⟨here, there⟩
        · rw [moveToRow_eq_moveTo column]
          rfl
        · rw [strokes_of_unseen here, print, strokes_of_unseen there]
      rw [replays, same, ih later, prints_cons]
      exact prints_congr (grid_steps _ _) (offset_steps _ _) _ rest

end Viewport

namespace Pen

variable {p : Pen}

theorem shadow_replay (p : Pen) (spans : List Span) :
    (p.replay spans).shadow = p.viewport.replays p.shadow spans := by
  induction spans generalizing p with
  | nil => rfl
  | cons s rest ih =>
      rw [replay_cons, ih, span, viewport_text, shadow_text]
      rfl

@[simp] theorem shadow_settle (p : Pen) (live : Position) : (p.settle live).shadow = p.shadow := by
  unfold settle
  split <;> rfl

/-- Drawing everything again begins with nothing on the screen. -/
theorem shadow_restored (p : Pen) (spans : List Span) :
    (p.restored spans).shadow = p.viewport.home.replays (p.shadow.fill none) spans := by
  rw [restored, shadow_settle, shadow_replay]
  rfl

theorem grid_shadow_restored (p : Pen) (spans : List Span) :
    (p.restored spans).shadow.grid = p.shadow.grid := by
  have kept : Stable fun q => q.shadow.grid = p.shadow.grid :=
    ⟨fun _ same => same, fun _ same => same,
      fun glyph same => (shadow_grid_lay _ glyph).trans same, fun _ same => same⟩
  rw [restored, shadow_settle]
  exact kept.replay (p := p.unrolled spans) rfl spans

/-- What is drawn again depends on the window and the size of the screen alone. -/
theorem shadow_restored_congr {q : Pen} (viewport : q.viewport = p.viewport)
    (grid : q.shadow.grid = p.shadow.grid) (spans : List Span) :
    (q.restored spans).shadow = (p.restored spans).shadow := by
  rw [shadow_restored, shadow_restored, viewport, Cells.fill, Cells.fill, grid]

/-- The pen must draw everything again before it shows the cursor. -/
def strayed (p : Pen) : Bool := p.wrapped || !p.viewport.onScreen

theorem ready_of_strayed (strayed : p.strayed = true) (spans : List Span) :
    p.ready spans = p.follow.restored spans := if_pos strayed

theorem ready_of_not_strayed (steady : ¬ p.strayed = true) (spans : List Span) :
    p.ready spans = p := if_neg steady

end Pen

namespace Console

variable {con : Console} {lost : List Span} {action : Action}

/-! ## Which operations redraw -/

/-- The operation draws everything again. -/
def redraws (con : Console) : Action → Bool
  | .write text color => (con.inscribed text color).strayed
  | .backspace => (con.inscribed "\x08" con.config.foreground).strayed
  | .moveBy columns rows => (con.moved columns rows).strayed
  | .redraw | .scrollNewer | .scrollOlder => true
  | .clear | .toggle _ => false

theorem penAfter_of_redraws (redrawn : con.redraws action = true) :
    ∃ p : Pen, con.penAfter action = (p.restored (con.historyAfter action).spans).shown := by
  cases action with
  | write text color =>
      exact ⟨_, congrArg Pen.shown (Pen.ready_of_strayed redrawn (con.kept text color).spans)⟩
  | backspace =>
      exact ⟨_, congrArg Pen.shown (Pen.ready_of_strayed redrawn
        (con.kept "\x08" con.config.foreground).spans)⟩
  | moveBy columns rows =>
      exact ⟨_, congrArg Pen.shown (Pen.ready_of_strayed redrawn con.history.spans)⟩
  | redraw => exact ⟨con.pen, rfl⟩
  | scrollNewer => exact ⟨con.turned con.viewport.newer, rfl⟩
  | scrollOlder => exact ⟨con.turned con.viewport.older, rfl⟩
  | clear => exact absurd redrawn Bool.false_ne_true
  | toggle pending => exact absurd redrawn Bool.false_ne_true

/-- After an operation that redraws the shadow is what another redraw would make it. -/
theorem shadow_act_of_redraws (redrawn : con.redraws action = true) :
    let after := (con.act action).1.1
    after.shadow = (after.pen.restored after.history.spans).shadow := by
  intro after
  obtain ⟨p, ended⟩ := penAfter_of_redraws redrawn
  have shadow : after.shadow = (p.restored (con.historyAfter action).spans).shadow := by
    rw [shadow_act, ended, Pen.shadow_shown]
  have viewport : after.viewport = p.viewport := by
    simp only [after, act_eq, finish, ended, Pen.viewport_shown, Pen.viewport_restored]
  have grid : after.shadow.grid = p.shadow.grid := by
    rw [shadow]
    exact Pen.grid_shadow_restored p _
  have history : after.history = con.historyAfter action := history_act con action
  rw [history, Pen.shadow_restored_congr (p := p) viewport grid]
  exact shadow

theorem shadow_redraw (con : Console) :
    (con.act .redraw).1.1.shadow = (con.pen.restored con.history.spans).shadow := by
  rw [shadow_act]
  exact Pen.shadow_shown _

/-! ## What stands on the screen -/

/-- A redraw would come to every span that is kept where the span was written. -/
def Retraces (con : Console) : Prop := con.viewport.home.Retraces con.history.spans

instance (con : Console) : Decidable con.Retraces :=
  inferInstanceAs (Decidable (con.viewport.home.Retraces con.history.spans))

/-- On the screen stands what the spans that are kept, and some that were lost last, leave
when each is drawn where it was written. -/
def Inked (con : Console) (lost : List Span) : Prop :=
  ∃ gone, gone <:+ lost ∧
    con.shadow = con.viewport.prints (con.shadow.fill none) (gone ++ con.history.spans)

theorem Retraces.shadow_restored (retraces : con.Retraces) :
    (con.pen.restored con.history.spans).shadow =
      con.viewport.prints (con.shadow.fill none) con.history.spans := by
  rw [Pen.shadow_restored]
  exact (Viewport.replays_of_retraces retraces _).trans (Viewport.prints_congr rfl rfl _ _)

/-- A redraw leaves nothing on the screen but the spans that are kept. -/
theorem inked_of_redraws (redrawn : con.redraws action = true)
    (retraces : (con.act action).1.1.Retraces) (lost : List Span) :
    (con.act action).1.1.Inked lost := by
  refine ⟨[], List.nil_suffix, ?_⟩
  rw [List.nil_append, ← retraces.shadow_restored]
  exact shadow_act_of_redraws redrawn

/-- What is drawn on the screen does not depend on the cursor, nor on whether it is to be
seen. -/
theorem Inked.of_same {after : Console} (inked : con.Inked lost)
    (grid : after.viewport.grid = con.viewport.grid)
    (offset : after.viewport.offset = con.viewport.offset) (shadow : after.shadow = con.shadow)
    (history : after.history = con.history) : after.Inked lost := by
  obtain ⟨gone, last, drawn⟩ := inked
  refine ⟨gone, last, ?_⟩
  rw [shadow, history, Viewport.prints_congr grid offset]
  exact drawn

/-- A write draws the span it keeps where it is written. -/
theorem shadow_inscribed (con : Console) (text : String) (color : Color) :
    (con.inscribed text color).shadow =
      con.viewport.print con.shadow (con.spanFor text color) := by
  have erased : (con.poised text color).shadow = con.shadow := by
    unfold poised
    split <;> exact Pen.shadow_putBack con.pen
  have here : con.viewport.moveTo con.cursor = con.viewport := rfl
  simp only [inscribed, Pen.showing, Pen.shadow_text, viewport_poised, erased, Viewport.print,
    spanFor, here]

/-- A write that draws no more than its own text leaves what else stands on the screen. -/
theorem Inked.write (inked : con.Inked lost) (usable : con.viewport.grid.Usable)
    {text : String} {color : Color} (steady : ¬ (con.inscribed text color).strayed = true) :
    (con.act (.write text color)).1.1.Inked (con.lostAfter lost (.write text color)) := by
  obtain ⟨gone, ⟨older, accounted⟩, drawn⟩ := inked
  let dropped := (con.history.append (con.spanFor text color)).2.toList
  have ended : con.penAfter (.write text color) = (con.inscribed text color).shown :=
    congrArg Pen.shown (Pen.ready_of_not_strayed steady _)
  have shadow : (con.act (.write text color)).1.1.shadow =
      con.viewport.print con.shadow (con.spanFor text color) := by
    rw [shadow_act, ended, Pen.shadow_shown, shadow_inscribed]
  have offset : (con.act (.write text color)).1.1.viewport.offset = con.viewport.offset := by
    rw [act_eq, finish, ended, Pen.viewport_shown, viewport_inscribed, Viewport.offset_showCursor,
      Viewport.offset_steps]
  have grid : (con.act (.write text color)).1.1.viewport.grid = con.viewport.grid :=
    grid_act usable _
  have size : (con.viewport.print con.shadow (con.spanFor text color)).fill none =
      con.shadow.fill none := by
    rw [Cells.fill, Cells.fill, Viewport.grid_print]
  have kept : dropped ++ (con.kept text color).spans =
      con.history.spans ++ [con.spanFor text color] :=
    con.history.evicted_append_spans (con.spanFor text color)
  refine ⟨gone ++ dropped, ⟨older, ?_⟩, ?_⟩
  · rw [← List.append_assoc, accounted]
    rfl
  · rw [shadow, history_act, Viewport.prints_congr grid offset, List.append_assoc]
    show _ = con.viewport.prints _ (gone ++ (dropped ++ (con.kept text color).spans))
    rw [kept, ← List.append_assoc, Viewport.prints_concat, size, ← drawn]

/-- A move that draws no more than the cursor leaves what stands on the screen. -/
theorem Inked.moveBy (inked : con.Inked lost) {columns rows : Int}
    (steady : ¬ (con.moved columns rows).strayed = true) :
    (con.act (.moveBy columns rows)).1.1.Inked lost := by
  have ended : con.penAfter (.moveBy columns rows) = (con.moved columns rows).shown :=
    congrArg Pen.shown (Pen.ready_of_not_strayed steady _)
  have viewport : (con.act (.moveBy columns rows)).1.1.viewport =
      con.viewport.moveBy columns rows := by
    rw [act_eq, finish, ended, Pen.viewport_shown]
    rfl
  have shadow : (con.act (.moveBy columns rows)).1.1.shadow = con.shadow := by
    rw [shadow_act, ended, Pen.shadow_shown]
    exact Pen.shadow_putBack con.pen
  refine inked.of_same ?_ ?_ shadow (history_act con _)
  · rw [viewport, Viewport.grid_moveBy]
  · rw [viewport, Viewport.offset_moveBy]

theorem Inked.toggle (inked : con.Inked lost) (pending : Bool) :
    (con.act (.toggle pending)).1.1.Inked lost := by
  cases pending with
  | true => exact inked
  | false =>
      have viewport : (con.act (.toggle false)).1.1.viewport = con.viewport.flipCursor := by
        rw [act_eq, finish]
        exact viewport_penAfter_toggle con
      refine inked.of_same ?_ ?_ (shadow_toggle con false) (history_act con _)
      · rw [viewport]
        rfl
      · rw [viewport]
        rfl

/-- Nothing stands on the screen after a clear. -/
theorem inked_clear (con : Console) : (con.act .clear).1.1.Inked [] :=
  ⟨[], List.nil_suffix, rfl⟩

/-! ## Runs -/

/-- Whether the last redraw since the last clear, if there was one, retraced what was kept
then. -/
def retracedAfter (con : Console) (retraced : Bool) (action : Action) : Bool :=
  if con.redraws action then decide (con.act action).1.1.Retraces
  else if action = .clear then true
  else retraced

/-- Whether the last redraw since the last clear of a run retraced what was kept then. -/
def retracedBy (con : Console) (retraced : Bool) : List Action → Bool
  | [] => retraced
  | action :: rest => (con.act action).1.1.retracedBy (con.retracedAfter retraced action) rest

/-- As long as redraws retrace what is kept, every operation leaves on the screen what was
drawn where it was written. -/
theorem inked_act (usable : con.viewport.grid.Usable) {retraced : Bool}
    (inked : retraced = true → con.Inked lost) (action : Action)
    (kept : con.retracedAfter retraced action = true) :
    (con.act action).1.1.Inked (con.lostAfter lost action) := by
  by_cases redrawn : con.redraws action = true
  · simp only [retracedAfter, redrawn, if_true, decide_eq_true_eq] at kept
    exact inked_of_redraws redrawn kept _
  · simp only [retracedAfter, redrawn, Bool.false_eq_true, if_false] at kept
    cases action with
    | write text color => exact (inked kept).write usable redrawn
    | backspace => exact (inked kept).write usable redrawn
    | moveBy columns rows => exact (inked kept).moveBy redrawn
    | clear => exact inked_clear con
    | toggle pending => exact (inked kept).toggle pending
    | redraw => exact absurd rfl redrawn
    | scrollNewer => exact absurd rfl redrawn
    | scrollOlder => exact absurd rfl redrawn

theorem inked_run (regular : con.viewport.Regular) {retraced : Bool}
    (inked : retraced = true → con.Inked lost) (actions : List Action)
    (kept : con.retracedBy retraced actions = true) :
    (con.run actions).1.Inked (con.lostBy lost actions) := by
  induction actions generalizing con lost retraced with
  | nil => exact inked kept
  | cons action rest ih =>
      exact ih (regular_act regular action) (inked_act regular.usable inked action) kept

/-- Nothing stands on the screen of a new console. -/
theorem inked_of_create {surface cell : Extent} {config : ConsoleConfig} {out : Output}
    (created : create surface cell config = .ok (con, out)) : con.Inked [] := by
  obtain ⟨grid, -, -, made⟩ := start_of_create created
  have first : con = (start grid config).1 := congrArg Prod.fst made
  have blank : con.shadow = con.shadow.fill none := by
    rw [first, shadow_start]
    rfl
  refine ⟨[], List.nil_suffix, ?_⟩
  rw [history_of_create created]
  exact blank

/-! ## A redraw after a write -/

/-- All that the lost spans were put into is above the window. -/
def Above (con : Console) (lost : List Span) : Prop :=
  ∀ s ∈ lost, ∀ q ∈ s.trail con.grid, q.row + con.viewport.offset < 0

instance (con : Console) (lost : List Span) : Decidable (con.Above lost) :=
  inferInstanceAs (Decidable (∀ s ∈ lost, ∀ q ∈ s.trail con.grid, q.row + con.viewport.offset < 0))

/-- If the lost spans are above the window and the spans that are kept are retraced, a redraw
leaves the shadow as it is. -/
theorem Inked.shadow_redraw (inked : con.Inked lost) (retraces : con.Retraces)
    (above : con.Above lost) : (con.act .redraw).1.1.shadow = con.shadow := by
  obtain ⟨gone, last, drawn⟩ := inked
  have nothing : con.viewport.prints (con.shadow.fill none) gone = con.shadow.fill none := by
    refine Viewport.prints_of_unseen ?_ _
    intro s member q put
    exact Viewport.screenRow?_of_above (above s (last.mem member) q put)
  rw [Console.shadow_redraw, retraces.shadow_restored]
  rw [Viewport.prints_append, nothing] at drawn
  exact drawn.symm

/-- If a redraw leaves the shadow as it is, no cell of the surface changes. -/
theorem Displays.redraw {picture : Picture} (displays : con.Displays picture false)
    (regular : con.viewport.Regular) (same : (con.act .redraw).1.1.shadow = con.shadow) {c : Cell}
    (inside : con.grid.Contains c) :
    (picture.run (con.act .redraw).1.2.draws).get? c = picture.get? c := by
  have viewport : (con.act .redraw).1.1.viewport = con.viewport :=
    viewport_act regular.usable .redraw
  have pen : (con.act .redraw).1.1.pen = con.pen := by
    simp only [Console.pen, viewport, same, config_act]
  have next := displays_act displays .redraw
  unfold Displays at next
  rw [pen] at next
  exact (next.shows c inside).trans (displays.shows c inside).symm

/-- The condition under which a redraw leaves the screen as a write made it: the write has
drawn everything again itself, or the lost spans are above the window and the replay comes to
each span that is kept where the span was written, now and when everything was drawn again
last. -/
def Settled (con : Console) (lost : List Span) (retraced : Bool) (text : String) (color : Color) :
    Prop :=
  con.redraws (.write text color) = true ∨
    (con.act (.write text color)).1.1.Above (con.lostAfter lost (.write text color)) ∧
    con.retracedAfter retraced (.write text color) = true ∧
    (con.act (.write text color)).1.1.Retraces

instance (con : Console) (lost : List Span) (retraced : Bool) (text : String) (color : Color) :
    Decidable (con.Settled lost retraced text color) :=
  inferInstanceAs (Decidable (_ = true ∨ Above _ _ ∧ _ = true ∧ Retraces _))

theorem shadow_redraw_of_settled (usable : con.viewport.grid.Usable) {retraced : Bool}
    (inked : retraced = true → con.Inked lost) {text : String} {color : Color}
    (settled : con.Settled lost retraced text color) :
    ((con.act (.write text color)).1.1.act .redraw).1.1.shadow =
      (con.act (.write text color)).1.1.shadow := by
  rcases settled with redrawn | ⟨above, kept, retraces⟩
  · rw [Console.shadow_redraw]
    exact (shadow_act_of_redraws redrawn).symm
  · exact (inked_act usable inked _ kept).shadow_redraw retraces above

/-- A redraw after a write that leaves things settled changes no cell of the surface. -/
theorem Displays.redraw_after {picture : Picture} {bare : Bool}
    (displays : con.Displays picture bare) (regular : con.viewport.Regular) {retraced : Bool}
    (inked : retraced = true → con.Inked lost) {text : String} {color : Color}
    (settled : con.Settled lost retraced text color) {c : Cell} (inside : con.grid.Contains c) :
    ((picture.run (con.act (.write text color)).1.2.draws).run
        ((con.act (.write text color)).1.1.act .redraw).1.2.draws).get? c =
      (picture.run (con.act (.write text color)).1.2.draws).get? c := by
  have same := shadow_redraw_of_settled regular.usable inked settled
  have next := displays_act displays (.write text color)
  have grid : (con.act (.write text color)).1.1.grid = con.grid := grid_act regular.usable _
  rw [← grid] at inside
  exact next.redraw (regular_act regular _) same inside

/-- **A redraw after a write changes no cell if it retraces what was written.**  Whatever was
done before, a redraw right after a write leaves every cell of the screen as it was, if the
write has drawn everything again itself; and also if no lost span was drawn in the window, and
the replay comes to each span that is kept where the span was written, now and when the screen
was drawn again last. -/
theorem redraw_after_write {surface cell : Extent} {config : ConsoleConfig} {out : Output}
    {picture : Picture} (created : create surface cell config = .ok (con, out))
    (sized : picture.grid = con.grid) (actions : List Action) (text : String) (color : Color)
    (settled : (con.run actions).1.Settled (con.lostBy [] actions) (con.retracedBy true actions)
      text color) :
    let written := ((con.run actions).1.act (.write text color)).1
    let shown := ((picture.run out.draws).run (con.run actions).2.draws).run written.2.draws
    ∀ c, con.grid.Contains c →
      (shown.run (written.1.act .redraw).1.2.draws).get? c = shown.get? c := by
  dsimp only
  intro c inside
  obtain ⟨regular, -, displays⟩ := displays_created created sized actions
  have begun := regular_of_create created
  have inked : con.retracedBy true actions = true →
      (con.run actions).1.Inked (con.lostBy [] actions) :=
    inked_run begun (fun _ => inked_of_create created) actions
  have grid : (con.run actions).1.grid = con.grid := grid_run begun actions
  rw [← grid] at inside
  exact displays.redraw_after regular inked settled inside

/-- On one row, with room for one span, the first of two lines is lost above the window. -/
theorem redraw_after_write_small :
    create ⟨24, 16⟩ ⟨8, 16⟩ { historyCapacity := 1 } = .ok (start ⟨3, 1⟩ { historyCapacity := 1 }) ∧
      (Picture.blank ⟨3, 1⟩).grid = (start ⟨3, 1⟩ { historyCapacity := 1 }).1.grid ∧
      ((start ⟨3, 1⟩ { historyCapacity := 1 }).1.run [.write "a\n\r" .pureRed]).1.Settled
        ((start ⟨3, 1⟩ { historyCapacity := 1 }).1.lostBy [] [.write "a\n\r" .pureRed])
        ((start ⟨3, 1⟩ { historyCapacity := 1 }).1.retracedBy true [.write "a\n\r" .pureRed])
        "b" .pureRed ∧
      (((((Picture.blank ⟨3, 1⟩).run (start ⟨3, 1⟩ { historyCapacity := 1 }).2.draws).run
        ((start ⟨3, 1⟩ { historyCapacity := 1 }).1.run [.write "a\n\r" .pureRed]).2.draws).run
        (((start ⟨3, 1⟩ { historyCapacity := 1 }).1.run [.write "a\n\r" .pureRed]).1.act
          (.write "b" .pureRed)).1.2.draws).run
        ((((start ⟨3, 1⟩ { historyCapacity := 1 }).1.run [.write "a\n\r" .pureRed]).1.act
          (.write "b" .pureRed)).1.1.act .redraw).1.2.draws).get? ⟨0, 0⟩ =
        some (.glyph 'b' .pureRed) := by
  have created : create ⟨24, 16⟩ ⟨8, 16⟩ { historyCapacity := 1 } =
      .ok ((start ⟨3, 1⟩ { historyCapacity := 1 }).1, (start ⟨3, 1⟩ { historyCapacity := 1 }).2) :=
    rfl
  have sized : (Picture.blank ⟨3, 1⟩).grid = (start ⟨3, 1⟩ { historyCapacity := 1 }).1.grid := rfl
  have settled : ((start ⟨3, 1⟩ { historyCapacity := 1 }).1.run [.write "a\n\r" .pureRed]).1.Settled
      ((start ⟨3, 1⟩ { historyCapacity := 1 }).1.lostBy [] [.write "a\n\r" .pureRed])
      ((start ⟨3, 1⟩ { historyCapacity := 1 }).1.retracedBy true [.write "a\n\r" .pureRed])
      "b" .pureRed := by decide +kernel
  have inside : (start ⟨3, 1⟩ { historyCapacity := 1 }).1.grid.Contains ⟨0, 0⟩ := by decide +kernel
  have drawn : ((((Picture.blank ⟨3, 1⟩).run (start ⟨3, 1⟩ { historyCapacity := 1 }).2.draws).run
      ((start ⟨3, 1⟩ { historyCapacity := 1 }).1.run [.write "a\n\r" .pureRed]).2.draws).run
      (((start ⟨3, 1⟩ { historyCapacity := 1 }).1.run [.write "a\n\r" .pureRed]).1.act
        (.write "b" .pureRed)).1.2.draws).get? ⟨0, 0⟩ = some (.glyph 'b' .pureRed) := by
    decide +kernel
  have still := redraw_after_write created sized [.write "a\n\r" .pureRed] "b" .pureRed settled
    ⟨0, 0⟩ inside
  rw [drawn] at still
  exact ⟨created, sized, settled, still⟩

/-- What a cell of a blank screen shows after a run. -/
def cellAfter (grid : Grid) (config : ConsoleConfig) (actions : List Action) (c : Cell) :
    Option Shown :=
  (((Picture.blank grid).run (start grid config).2.draws).run
    ((start grid config).1.run actions).2.draws).get? c

/-- A redraw moves text that a replay does not come to where it was written: after a move,
although nothing is lost; after the loss of a span above the window, although nothing was
moved; and once a redraw has moved text, although another would retrace what is kept by
then. -/
theorem redraw_moves_text :
    let moved : List Action := [.moveBy 3 0, .write "a" .pureRed]
    let cut : List Action := [.write "abc" .pureRed, .write "\n" .pureRed, .write "d" .pureRed]
    let again : List Action := [.moveBy 3 0, .write "a" .pureRed, .moveBy (-4) 1,
      .write "b" .pureRed, .redraw, .write "c" .pureRed]
    let two : ConsoleConfig := { historyCapacity := 2 }
    ((start ⟨10, 5⟩ {}).1.lostBy [] moved = [] ∧
      cellAfter ⟨10, 5⟩ {} moved ⟨3, 0⟩ = some (.glyph 'a' .pureRed) ∧
      cellAfter ⟨10, 5⟩ {} (moved ++ [.redraw]) ⟨3, 0⟩ = some (.filled .black)) ∧
    (((start ⟨10, 1⟩ two).1.run cut).1.Above ((start ⟨10, 1⟩ two).1.lostBy [] cut) ∧
      cellAfter ⟨10, 1⟩ two cut ⟨3, 0⟩ = some (.glyph 'd' .pureRed) ∧
      cellAfter ⟨10, 1⟩ two (cut ++ [.redraw]) ⟨3, 0⟩ = some (.filled .black)) ∧
    ((start ⟨10, 1⟩ two).1.run again).1.Above ((start ⟨10, 1⟩ two).1.lostBy [] again) ∧
      ((start ⟨10, 1⟩ two).1.run again).1.Retraces ∧
      cellAfter ⟨10, 1⟩ two again ⟨0, 0⟩ = some (.filled .black) ∧
      cellAfter ⟨10, 1⟩ two (again ++ [.redraw]) ⟨0, 0⟩ = some (.glyph 'b' .pureRed) := by
  decide +kernel

end Console

end GlyphConsole
