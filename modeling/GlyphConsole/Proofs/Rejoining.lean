import GlyphConsole.Proofs.Retracing

/-!
# GlyphConsole.Proofs.Rejoining — a replay finds its way back at a carriage return

Without moves the spans of the history are `Chained`: each begins where the one before it
stopped, and the last stops at the cursor.  A history that loses its oldest span is chained
all the same, so this holds whatever the capacity is (`Linked.act`).

A replay knows the row of every span and has to carry the column.  When the oldest span that
is kept does not begin in the first column, the replay begins in the wrong one.  A carriage
return puts both into the first column, and from there they go on side by side, since a
character other than a backspace takes two cursors in one column to one column again
(`column_steps`).  So behind a span that `Returns`, the replay is in the column in which the
next one was written (`column_of_returns`), and stays on the trail to the end of the history
(`walk_rejoins`).

A chain that begins in the first column is retraced as a whole (`Linked.retraces`).  As long as
nothing is moved and nothing lost since the last clear, the history is one; and if what is lost
began in the first column too, a redraw after a write changes nothing on the screen
(`redraw_after_write_of_still`).
-/

namespace GlyphConsole

set_option autoImplicit false

/-! ## Columns -/

namespace Viewport

variable {v w : Viewport}

/-- Two cursors in one column are in one column after a character other than a backspace, on
whatever rows they are. -/
theorem column_step (grid : v.grid = w.grid) (column : v.cursor.column = w.cursor.column)
    {c : Char} (forward : c ≠ '\x08') : (v.step c).cursor.column = (w.step c).cursor.column := by
  rcases Pen.char_cases c with rfl | rfl | rfl | glyph
  · exact column
  · rfl
  · exact absurd rfl forward
  · have edge : v.atRightEdge = w.atRightEdge := by
      unfold atRightEdge
      rw [grid, column]
    rw [step_of_isGlyph glyph, step_of_isGlyph glyph, cursor_advance, cursor_advance, edge, column]
    split <;> rfl

theorem column_steps (grid : v.grid = w.grid) (column : v.cursor.column = w.cursor.column)
    {cs : List Char} (forward : '\x08' ∉ cs) :
    (v.steps cs).cursor.column = (w.steps cs).cursor.column := by
  induction cs generalizing v w with
  | nil => exact column
  | cons c rest ih =>
      simp only [List.mem_cons, not_or] at forward
      obtain ⟨first, later⟩ := forward
      refine ih ?_ (column_step grid column (Ne.symm first)) later
      rw [grid_step, grid_step, grid]

/-! ## Replays -/

/-- Where a replay takes the cursor. -/
def walk (v : Viewport) (spans : List Span) : Viewport :=
  spans.foldl (fun v s => (v.moveToRow s.origin.row).steps s.text.toList) v

@[simp] theorem walk_cons (v : Viewport) (s : Span) (rest : List Span) :
    v.walk (s :: rest) = ((v.moveToRow s.origin.row).steps s.text.toList).walk rest := rfl

theorem walk_append (v : Viewport) (first second : List Span) :
    v.walk (first ++ second) = (v.walk first).walk second := by
  simp [walk]

@[simp] theorem grid_walk (v : Viewport) (spans : List Span) : (v.walk spans).grid = v.grid := by
  induction spans generalizing v with
  | nil => rfl
  | cons s rest ih =>
      rw [walk_cons, ih, grid_steps]
      rfl

end Viewport

theorem Pen.viewport_replay (p : Pen) (spans : List Span) :
    (p.replay spans).viewport = p.viewport.walk spans := by
  induction spans generalizing p with
  | nil => rfl
  | cons s rest ih =>
      rw [replay_cons, ih, span, viewport_text]
      rfl

/-! ## Spans in a chain -/

/-- The span contains a carriage return, and no backspace after the last one. -/
def Span.Returns (s : Span) : Prop :=
  ∃ before rest, s.text.toList = before ++ '\r' :: rest ∧ '\r' ∉ rest ∧ '\x08' ∉ rest

/-- Each span begins where the one before it stopped, from `start` on, and the last stops at
`stop`. -/
def Chained (grid : Grid) : Position → List Span → Position → Prop
  | start, [], stop => start = stop
  | start, s :: rest, stop => s.origin = start ∧ Chained grid (s.stop grid) rest stop

namespace Chained

variable {grid : Grid} {start stop : Position} {spans : List Span} {s : Span}

theorem concat (chained : Chained grid start spans stop) (origin : s.origin = stop) :
    Chained grid start (spans ++ [s]) (s.stop grid) := by
  induction spans generalizing start with
  | nil =>
      cases chained
      exact ⟨origin, rfl⟩
  | cons t rest ih => exact ⟨chained.1, ih chained.2⟩

/-- The end of a chain is a chain. -/
theorem of_append {first second : List Span} (chained : Chained grid start (first ++ second) stop) :
    ∃ middle, Chained grid middle second stop := by
  induction first generalizing start with
  | nil => exact ⟨start, chained⟩
  | cons t rest ih => exact ih chained.2

end Chained

namespace Viewport

variable {v : Viewport} {grid : Grid} {start stop : Position} {spans : List Span} {s : Span}

/-- A replay that comes to a span in the column where it was written writes it there again. -/
theorem placed_moveToRow (same : v.grid = grid) (column : v.cursor.column = s.origin.column) :
    (v.moveToRow s.origin.row).Placed (s.written grid) := by
  rw [moveToRow_eq_moveTo column]
  exact ⟨same, rfl⟩

/-- Behind a carriage return a replay is in the column in which the span stopped when it was
written, whatever column it came in. -/
theorem column_of_returns (same : v.grid = grid) (returns : s.Returns) :
    ((v.moveToRow s.origin.row).steps s.text.toList).cursor.column = (s.stop grid).column := by
  obtain ⟨before, rest, text, -, forward⟩ := returns
  rw [Span.stop, text, steps_append, steps_append]
  refine column_steps (v := ((v.moveToRow s.origin.row).steps before).carriageReturn)
    (w := ((s.written grid).steps before).carriageReturn) ?_ rfl forward
  show ((v.moveToRow s.origin.row).steps before).grid = ((s.written grid).steps before).grid
  rw [grid_steps, grid_steps]
  exact same

/-- A replay that begins a chain in the right column comes to every span where it was
written, and ends where the chain stops. -/
theorem cursor_walk (chained : Chained grid start spans stop) (same : v.grid = grid)
    (column : v.cursor.column = start.column) :
    (∀ passed t rest, spans = passed ++ t :: rest →
      ((v.walk passed).moveToRow t.origin.row).Placed (t.written grid)) ∧
    (spans ≠ [] → (v.walk spans).cursor = stop) := by
  induction spans generalizing v start with
  | nil =>
      refine ⟨?_, fun some => absurd rfl some⟩
      intro passed t rest empty
      simp at empty
  | cons s rest ih =>
      obtain ⟨origin, later⟩ := chained
      have first : (v.moveToRow s.origin.row).Placed (s.written grid) :=
        placed_moveToRow same (by rw [column, origin])
      have stopped := (first.steps s.text.toList).cursor_eq
      have kept : ((v.moveToRow s.origin.row).steps s.text.toList).grid = grid := by
        rw [grid_steps]
        exact same
      obtain ⟨places, ends⟩ := ih later kept (congrArg Position.column stopped)
      constructor
      · intro passed t remaining split
        cases passed with
        | nil =>
            obtain ⟨rfl, -⟩ := List.cons.inj split
            exact first
        | cons head passed =>
            obtain ⟨rfl, tails⟩ := List.cons.inj split
            exact places passed t remaining tails
      · intro _
        cases rest with
        | nil => exact stopped.trans later
        | cons _ _ => exact ends (List.cons_ne_nil _ _)

/-- A replay that begins a chain in the right column retraces it. -/
theorem retraces_of_chained (chained : Chained grid start spans stop) (same : v.grid = grid)
    (column : v.cursor.column = start.column) : v.Retraces spans := by
  induction spans generalizing v start with
  | nil => trivial
  | cons s rest ih =>
      obtain ⟨origin, later⟩ := chained
      have first : v.cursor.column = s.origin.column := by rw [column, origin]
      have stopped := ((placed_moveToRow same first).steps s.text.toList).cursor_eq
      refine ⟨.inl first, ih later ?_ (congrArg Position.column stopped)⟩
      rw [grid_steps]
      exact same

/-- Behind a span that returns, a replay of a chain comes to every span where it was written,
wherever the replay began, and ends where the chain stops if a span is left. -/
theorem walk_rejoins {earlier later : List Span}
    (chained : Chained grid start (earlier ++ s :: later) stop) (same : v.grid = grid)
    (returns : s.Returns) :
    (∀ passed t rest, later = passed ++ t :: rest →
      ((v.walk (earlier ++ s :: passed)).moveToRow t.origin.row).Placed (t.written grid)) ∧
    (later ≠ [] → (v.walk (earlier ++ s :: later)).cursor = stop) := by
  obtain ⟨middle, -, rejoined⟩ := chained.of_append
  have kept : (v.walk earlier).grid = grid := (grid_walk v earlier).trans same
  have column := column_of_returns kept returns
  have onward := cursor_walk rejoined (by rw [grid_steps]; exact kept) column
  simp only [walk_append, walk_cons]
  exact onward

end Viewport

namespace Pen

variable {p : Pen}

@[simp] theorem notices_highlight (p : Pen) : p.highlight.output.notices = p.output.notices := by
  unfold highlight
  split
  · split <;> rfl
  · rfl

/-- Writing reports nothing. -/
theorem stable_notices (notices : Array Log.Notice) :
    Stable fun q => q.output.notices = notices where
  step _ same := same
  toRow _ same := same
  lay glyph same := by
    unfold lay
    split
    · cases glyph <;> exact same
    · exact same
  wrap _ same := same

/-- A replay that ends at the cursor is not corrected, and only the redraw itself is
reported. -/
theorem notices_restored {spans : List Span}
    (arrived : ((p.unrolled spans).replay spans).viewport.cursor = p.viewport.cursor) :
    (p.restored spans).output.notices =
      p.output.notices.push (.redrawing spans.length p.viewport.offset) := by
  rw [restored, settle, if_pos arrived]
  exact (stable_notices _).replay (p := p.unrolled spans) rfl spans

end Pen

namespace Console

variable {con : Console} {trails : List (List Position)}

/-! ## What the history remembers -/

/-- The spans that are kept are a chain that stops at the cursor. -/
def Linked (con : Console) : Prop :=
  ∃ start, Chained con.grid start con.history.spans con.cursor

/-- The cursor has been moved without writing, given whether it had been. -/
def Action.moves (moved : Bool) : Action → Bool
  | .clear => false
  | .moveBy .. => true
  | _ => moved

/-- The cursor has been moved without writing since the last clear. -/
def movedAfter (moved : Bool) (actions : List Action) : Bool := actions.foldl Action.moves moved

/-- The trails of the spans that are kept once a text has been written. -/
def traced (con : Console) (trails : List (List Position)) (text : String) (color : Color) :
    List (List Position) :=
  (trails ++ [con.viewport.trail (expandTabs con.config.tabWidth text).toList]).drop
    (con.history.append (con.spanFor text color)).2.toList.length

/-- The cells that each span that is kept was put into when it was written. -/
def trailsAfter (con : Console) (trails : List (List Position)) : Action → List (List Position)
  | .write text color => con.traced trails text color
  | .backspace => con.traced trails "\x08" con.config.foreground
  | .clear => []
  | _ => trails

/-- The cells that each span that is kept was put into when it was written in a run. -/
def trailsBy (con : Console) (trails : List (List Position)) :
    List Action → List (List Position)
  | [] => trails
  | action :: rest => (con.act action).1.1.trailsBy (con.trailsAfter trails action) rest

/-- The spans that are kept are the last of those there were and the new one. -/
theorem spans_kept (con : Console) (text : String) (color : Color) :
    (con.kept text color).spans =
      (con.history.spans ++ [con.spanFor text color]).drop
        (con.history.append (con.spanFor text color)).2.toList.length := by
  rw [← con.history.evicted_append_spans (con.spanFor text color), List.drop_left]
  rfl

theorem placed_spanFor (con : Console) (text : String) (color : Color) :
    con.viewport.Placed ((con.spanFor text color).written con.grid) := ⟨rfl, rfl⟩

/-- A write keeps the chain, also if it drops the oldest span. -/
theorem Linked.write (linked : con.Linked) (usable : con.viewport.grid.Usable) (text : String)
    (color : Color) : (con.act (.write text color)).1.1.Linked := by
  obtain ⟨start, chained⟩ := linked
  have grid : (con.act (.write text color)).1.1.grid = con.grid := grid_act usable _
  have cursor : (con.act (.write text color)).1.1.cursor =
      (con.spanFor text color).stop con.grid := by
    rw [Console.cursor, viewport_act usable, Viewport.cursor_act_write,
      ((con.placed_spanFor text color).steps _).cursor_eq, Span.stop, spanFor]
  have longer := chained.concat (s := con.spanFor text color) rfl
  rw [← con.history.evicted_append_spans (con.spanFor text color)] at longer
  obtain ⟨middle, kept⟩ := longer.of_append
  refine ⟨middle, ?_⟩
  rw [grid, cursor, history_act]
  exact kept

/-- What neither moves the cursor nor writes keeps the chain. -/
theorem Linked.of_same {after : Console} (linked : con.Linked) (grid : after.grid = con.grid)
    (cursor : after.cursor = con.cursor) (history : after.history = con.history) :
    after.Linked := by
  unfold Linked
  rw [grid, cursor, history]
  exact linked

theorem linked_act (usable : con.viewport.grid.Usable) {moved : Bool}
    (linked : moved = false → con.Linked) (action : Action) (still : action.moves moved = false) :
    (con.act action).1.1.Linked := by
  have grid : (con.act action).1.1.grid = con.grid := grid_act usable action
  have viewport := viewport_act usable action
  cases action with
  | write text color => exact (linked still).write usable text color
  | backspace => exact (linked still).write usable "\x08" con.config.foreground
  | clear => exact ⟨.origin, rfl⟩
  | moveBy columns rows => exact absurd still.symm Bool.false_ne_true
  | redraw =>
      refine (linked still).of_same grid ?_ (history_act con _)
      exact congrArg Viewport.cursor viewport
  | scrollNewer =>
      refine (linked still).of_same grid ?_ (history_act con _)
      exact (congrArg Viewport.cursor viewport).trans (Viewport.cursor_newer _)
  | scrollOlder =>
      refine (linked still).of_same grid ?_ (history_act con _)
      exact (congrArg Viewport.cursor viewport).trans (Viewport.cursor_older _)
  | toggle pending =>
      refine (linked still).of_same grid ?_ (history_act con _)
      refine (congrArg Viewport.cursor viewport).trans ?_
      cases pending <;> rfl

theorem linked_run (regular : con.viewport.Regular) {moved : Bool}
    (linked : moved = false → con.Linked) (actions : List Action)
    (still : movedAfter moved actions = false) : (con.run actions).1.Linked := by
  induction actions generalizing con moved with
  | nil => exact linked still
  | cons action rest ih =>
      exact ih (regular_act regular action) (linked_act regular.usable linked action) still

/-- A redraw retraces a chain whose first span was written in the first column. -/
theorem Linked.retraces (linked : con.Linked)
    (first : ∀ s ∈ con.history.spans.head?, s.origin.column = 0) : con.Retraces := by
  obtain ⟨start, chained⟩ := linked
  unfold Retraces
  cases kept : con.history.spans with
  | nil => trivial
  | cons s rest =>
      rw [kept] at chained first
      refine Viewport.retraces_of_chained chained rfl ?_
      rw [← chained.1, first s rfl]
      rfl

/-! ## Lines that begin at the left edge -/

/-- Every span that the history has begun with was written from the first column: the spans
that were lost, and the first of those that are kept. -/
def FromMargin (con : Console) (lost : List Span) : Prop :=
  ∀ s ∈ lost ++ con.history.spans.head?.toList, s.origin.column = 0

instance (con : Console) (lost : List Span) : Decidable (con.FromMargin lost) :=
  inferInstanceAs (Decidable (∀ s ∈ lost ++ con.history.spans.head?.toList, s.origin.column = 0))

/-- The span that a history began with before a write is lost by the write, or still the
first. -/
theorem mem_head_or_dropped {text : String} {color : Color} {s : Span}
    (first : s ∈ con.history.spans.head?) :
    s ∈ (con.history.append (con.spanFor text color)).2.toList ∨
      s ∈ (con.kept text color).spans.head? := by
  have accounted := con.history.evicted_append_spans (con.spanFor text color)
  have front : s ∈ (con.history.spans ++ [con.spanFor text color]).head? := by
    rw [List.head?_append, Option.mem_def.1 first]
    rfl
  rw [← accounted] at front
  cases dropped : (con.history.append (con.spanFor text color)).2 with
  | none =>
      rw [dropped] at front
      exact .inr front
  | some oldest =>
      rw [dropped] at front
      exact .inl (Option.mem_toList.2 front)

theorem FromMargin.of_write {lost : List Span} {text : String} {color : Color} {after : Console}
    (history : after.history = con.kept text color)
    (margin : after.FromMargin
      (lost ++ (con.history.append (con.spanFor text color)).2.toList)) : con.FromMargin lost := by
  intro s member
  refine margin s ?_
  rw [history, List.append_assoc]
  rcases List.mem_append.1 member with before | first
  · exact List.mem_append_left _ before
  · refine List.mem_append_right _ ?_
    rcases mem_head_or_dropped (Option.mem_toList.1 first) with dropped | kept
    · exact List.mem_append_left _ dropped
    · exact List.mem_append_right _ (Option.mem_toList.2 kept)

/-- What has been so after an operation other than to clear was so before. -/
theorem FromMargin.of_act {lost : List Span} {action : Action} (keeps : action ≠ .clear)
    (margin : (con.act action).1.1.FromMargin (con.lostAfter lost action)) :
    con.FromMargin lost := by
  have history := history_act con action
  cases action with
  | write text color => exact FromMargin.of_write history margin
  | backspace => exact FromMargin.of_write history margin
  | clear => exact absurd rfl keeps
  | redraw | scrollNewer | scrollOlder | moveBy | toggle =>
      unfold FromMargin at margin ⊢
      rw [history] at margin
      exact margin

theorem not_moved_of_moves {action : Action} (keeps : action ≠ .clear) {moved : Bool}
    (still : action.moves moved = false) : moved = false := by
  cases action with
  | clear => exact absurd rfl keeps
  | moveBy columns rows => exact absurd still.symm Bool.false_ne_true
  | write | redraw | scrollNewer | scrollOlder | backspace | toggle => exact still

/-- Without moves, and if the history has always begun at the left edge, every redraw since
the last clear retraced what was kept then. -/
theorem retracedBy_of_still (regular : con.viewport.Regular) {moved retraced : Bool}
    {lost : List Span} (linked : moved = false → con.Linked)
    (sofar : moved = false → con.FromMargin lost → retraced = true) (actions : List Action)
    (still : movedAfter moved actions = false)
    (margin : (con.run actions).1.FromMargin (con.lostBy lost actions)) :
    con.retracedBy retraced actions = true := by
  induction actions generalizing con moved retraced lost with
  | nil => exact sofar still margin
  | cons action rest ih =>
      have linkedAfter := linked_act regular.usable linked action
      refine ih (regular_act regular action) linkedAfter ?_ still margin
      intro stillNow marginNow
      unfold retracedAfter
      split
      · exact decide_eq_true ((linkedAfter stillNow).retraces fun s first =>
          marginNow s (List.mem_append_right _ (Option.mem_toList.2 first)))
      · split
        · rfl
        · rename_i keeps
          exact sofar (not_moved_of_moves keeps stillNow) (FromMargin.of_act keeps marginNow)

/-- The history remembers where each of its spans was put, by the origin alone. -/
theorem trails_act (usable : con.viewport.grid.Usable)
    (traced : trails = con.history.spans.map (·.trail con.grid)) (action : Action) :
    con.trailsAfter trails action =
      (con.act action).1.1.history.spans.map (·.trail (con.act action).1.1.grid) := by
  have grid : (con.act action).1.1.grid = con.grid := grid_act usable action
  have written : ∀ text color, con.traced trails text color =
      (con.kept text color).spans.map (·.trail con.grid) := by
    intro text color
    have here : con.viewport.trail (expandTabs con.config.tabWidth text).toList =
        (con.spanFor text color).trail con.grid := (con.placed_spanFor text color).trail _
    rw [Console.traced, spans_kept, List.map_drop, List.map_append, ← traced, here]
    rfl
  rw [history_act, grid]
  cases action with
  | write text color => exact written text color
  | backspace => exact written "\x08" con.config.foreground
  | clear => rfl
  | redraw | scrollNewer | scrollOlder | moveBy columns rows | toggle pending => exact traced

theorem trails_run (regular : con.viewport.Regular)
    (traced : trails = con.history.spans.map (·.trail con.grid)) (actions : List Action) :
    con.trailsBy trails actions =
      (con.run actions).1.history.spans.map (·.trail (con.run actions).1.grid) := by
  induction actions generalizing con trails with
  | nil => exact traced
  | cons action rest ih =>
      exact ih (regular_act regular action) (trails_act regular.usable traced action)

theorem linked_of_create {surface cell : Extent} {config : ConsoleConfig} {out : Output}
    (created : create surface cell config = .ok (con, out)) : con.Linked := by
  refine ⟨con.cursor, ?_⟩
  rw [history_of_create created]
  rfl

/-! ## A redraw -/

/-- Without moves since the last clear, a redraw after a write changes no cell if the history
has always begun with a span that was written from the first column, and no lost span was
drawn in the window. -/
theorem redraw_after_write_of_still {surface cell : Extent} {config : ConsoleConfig}
    {out : Output} {picture : Picture} (created : create surface cell config = .ok (con, out))
    (sized : picture.grid = con.grid) (actions : List Action) (text : String) (color : Color)
    (still : movedAfter false actions = false) :
    let written := ((con.run actions).1.act (.write text color)).1
    let lost := (con.run actions).1.lostAfter (con.lostBy [] actions) (.write text color)
    let shown := ((picture.run out.draws).run (con.run actions).2.draws).run written.2.draws
    written.1.FromMargin lost → written.1.Above lost → ∀ c, con.grid.Contains c →
      (shown.run (written.1.act .redraw).1.2.draws).get? c = shown.get? c := by
  dsimp only
  intro margin above c inside
  obtain ⟨regular, -, displays⟩ := displays_created created sized actions
  have begun := regular_of_create created
  have keeps : Action.write text color ≠ .clear := nofun
  have kept : con.retracedBy true actions = true :=
    retracedBy_of_still begun (fun _ => linked_of_create created) (fun _ _ => rfl) actions still
      (FromMargin.of_act keeps margin)
  have inked : true = true → (con.run actions).1.Inked (con.lostBy [] actions) := fun _ =>
    inked_run begun (fun _ => inked_of_create created) actions kept
  have linked := linked_run begun (fun _ => linked_of_create created) actions still
  have retraces := (linked.write regular.usable text color).retraces fun s first =>
    margin s (List.mem_append_right _ (Option.mem_toList.2 first))
  have settled : (con.run actions).1.Settled (con.lostBy [] actions) true text color := by
    refine .inr ⟨above, ?_, retraces⟩
    unfold retracedAfter
    split
    · exact decide_eq_true retraces
    · rfl
  have grid : (con.run actions).1.grid = con.grid := grid_run begun actions
  rw [← grid] at inside
  exact displays.redraw_after regular inked settled inside

/-- A redraw whose replay ends at the cursor reports itself and nothing else. -/
theorem notices_redraw
    (arrived : ((con.pen.unrolled con.history.spans).replay con.history.spans).viewport.cursor =
      con.cursor) :
    (con.act .redraw).1.2.notices =
      #[.redrawing con.history.spans.length con.viewport.offset] := by
  have reported := Pen.notices_restored (p := con.pen) arrived
  rw [act_eq, finish]
  exact (Pen.notices_highlight _).trans reported

/-- **A replay that has lost its way finds it at a carriage return.**  Without moves since the
last clear, and however much of the history has been lost, a redraw that comes to a span with a
carriage return and no backspace behind it writes every later span again from where it was
written on, into the cells it was put into then; and if there is a later span, the replay ends
at the cursor and is not corrected. -/
theorem replay_rejoins {surface cell : Extent} {config : ConsoleConfig} {out : Output}
    (created : create surface cell config = .ok (con, out)) (actions : List Action)
    (still : movedAfter false actions = false) :
    let after := (con.run actions).1
    let begun := after.pen.unrolled after.history.spans
    ∀ earlier s later, after.history.spans = earlier ++ s :: later → s.Returns →
      (∀ passed t rest, later = passed ++ t :: rest →
        let reached := (begun.replay (earlier ++ s :: passed)).viewport.moveToRow t.origin.row
        reached.cursor = t.origin ∧
        (con.trailsBy [] actions)[(earlier ++ s :: passed).length]? =
          some (reached.trail t.text.toList)) ∧
      (later ≠ [] →
        (begun.replay after.history.spans).viewport.cursor = after.cursor ∧
        (after.act .redraw).1.2.notices =
          #[.redrawing after.history.spans.length after.viewport.offset]) := by
  intro after begun earlier s later spans returns
  have regular := regular_of_create created
  have empty := history_of_create created
  obtain ⟨start, linked⟩ := linked_run regular (fun _ => linked_of_create created) actions still
  have chained : Chained after.grid start (earlier ++ s :: later) after.cursor := by
    rw [← spans]
    exact linked
  have traced : con.trailsBy [] actions = after.history.spans.map (·.trail after.grid) :=
    trails_run regular (by rw [empty]; rfl) actions
  obtain ⟨places, ends⟩ := Viewport.walk_rejoins (v := begun.viewport) chained rfl returns
  constructor
  · intro passed t rest split reached
    have place : reached.Placed (t.written after.grid) := by
      show ((begun.replay _).viewport.moveToRow _).Placed _
      rw [Pen.viewport_replay]
      exact places passed t rest split
    refine ⟨place.cursor_eq, ?_⟩
    have regrouped : earlier ++ s :: (passed ++ t :: rest) =
        (earlier ++ s :: passed) ++ t :: rest := by simp
    have here : after.history.spans[(earlier ++ s :: passed).length]? = some t := by
      rw [spans, split, regrouped, List.getElem?_append_right (Nat.le_refl _), Nat.sub_self]
      rfl
    rw [traced, List.getElem?_map, here, place.trail]
    rfl
  · intro some
    have arrived : (begun.replay after.history.spans).viewport.cursor = after.cursor := by
      rw [Pen.viewport_replay, spans]
      exact ends some
    exact ⟨arrived, notices_redraw arrived⟩

/-- With room for three spans the first of four is lost, so the replay begins in the wrong
column; the carriage return in the second puts it right. -/
theorem replay_rejoins_small :
    create ⟨40, 32⟩ ⟨8, 16⟩ { historyCapacity := 3 } = .ok (start ⟨5, 2⟩ { historyCapacity := 3 }) ∧
      movedAfter false [.write "ab" .pureRed, .write "c\rd" .pureRed, .write "e" .pureRed,
        .write "f" .pureRed] = false ∧
      ((start ⟨5, 2⟩ { historyCapacity := 3 }).1.run [.write "ab" .pureRed,
        .write "c\rd" .pureRed, .write "e" .pureRed, .write "f" .pureRed]).1.history.spans =
          [] ++ ⟨"c\rd", .pureRed, ⟨2, 0⟩⟩ :: [⟨"e", .pureRed, ⟨1, 0⟩⟩, ⟨"f", .pureRed, ⟨2, 0⟩⟩] ∧
      Span.Returns ⟨"c\rd", .pureRed, ⟨2, 0⟩⟩ ∧
      (((start ⟨5, 2⟩ { historyCapacity := 3 }).1.run [.write "ab" .pureRed,
        .write "c\rd" .pureRed, .write "e" .pureRed, .write "f" .pureRed]).1.act
          .redraw).1.2.notices = #[.redrawing 3 0] := by
  have created : create ⟨40, 32⟩ ⟨8, 16⟩ { historyCapacity := 3 } =
      .ok ((start ⟨5, 2⟩ { historyCapacity := 3 }).1, (start ⟨5, 2⟩ { historyCapacity := 3 }).2) :=
    rfl
  have still : movedAfter false [.write "ab" .pureRed, .write "c\rd" .pureRed,
      .write "e" .pureRed, .write "f" .pureRed] = false := rfl
  have spans : ((start ⟨5, 2⟩ { historyCapacity := 3 }).1.run [.write "ab" .pureRed,
      .write "c\rd" .pureRed, .write "e" .pureRed, .write "f" .pureRed]).1.history.spans =
        [] ++ ⟨"c\rd", .pureRed, ⟨2, 0⟩⟩ :: [⟨"e", .pureRed, ⟨1, 0⟩⟩, ⟨"f", .pureRed, ⟨2, 0⟩⟩] := by
    decide +kernel
  have returns : Span.Returns ⟨"c\rd", .pureRed, ⟨2, 0⟩⟩ :=
    ⟨['c'], ['d'], by decide +kernel, by decide, by decide⟩
  have reported := ((replay_rejoins created _ still [] _ _ spans returns).2
    (List.cons_ne_nil _ _)).2
  have offset : ((start ⟨5, 2⟩ { historyCapacity := 3 }).1.run [.write "ab" .pureRed,
      .write "c\rd" .pureRed, .write "e" .pureRed, .write "f" .pureRed]).1.viewport.offset = 0 := by
    decide +kernel
  rw [offset, spans] at reported
  exact ⟨created, still, spans, returns, reported⟩

end Console

end GlyphConsole
