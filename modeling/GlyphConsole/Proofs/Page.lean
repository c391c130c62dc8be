import GlyphConsole.Proofs.Shadow

/-!
# GlyphConsole.Proofs.Page — the screen is a window onto the page

A `LogicalPage` is a terminal without a window, a shadow or a history: a cursor and a
glyph, or nothing, in each of its cells, which have no end downwards.  Every operation
that writes is a few lines here (`LogicalPage.act`).

A pen `Views` a page if its cursor is where the page has it and its shadow is the part of
the page that shows through the window.  Writing keeps that on the screen and off it
(`Views.text`).  The history `Tells` the page if writing its spans in turn, each of which
begins where the one before it stopped, makes the page; so a replay from an empty screen
ends with the page in view, wherever the window is (`Views.replay`).  A console keeps
both as long as no span is lost (`Depicts.act`).
-/

namespace GlyphConsole

set_option autoImplicit false

/-- An unbounded page so many columns wide. -/
structure LogicalPage where
  columns : Nat
  column : Nat := 0
  row : Nat := 0
  glyphAt : Nat → Nat → Option Glyph := fun _ _ => none

namespace LogicalPage

def cursor (page : LogicalPage) : Position := ⟨page.column, page.row⟩

/-- Put a glyph, or nothing, under the cursor. -/
def lay (page : LogicalPage) (glyph : Option Glyph) : LogicalPage :=
  { page with
    glyphAt := fun column row =>
      if column = page.column ∧ row = page.row then glyph else page.glyphAt column row }

/-- One cell back, from the start of a row to the end of the row before. -/
def back (page : LogicalPage) : LogicalPage :=
  if 0 < page.column then { page with column := page.column - 1 }
  else if 0 < page.row then { page with column := page.columns - 1, row := page.row - 1 }
  else page

/-- One cell on, from the end of a row to the start of the next. -/
def advance (page : LogicalPage) : LogicalPage :=
  if page.column + 1 < page.columns then { page with column := page.column + 1 }
  else { page with column := 0, row := page.row + 1 }

def put (page : LogicalPage) (color : Color) : Char → LogicalPage
  | '\n' => { page with row := page.row + 1 }
  | '\r' => { page with column := 0 }
  | '\x08' => page.back.lay none
  | c => (page.lay (some ⟨c, color⟩)).advance

def text (page : LogicalPage) (color : Color) (cs : List Char) : LogicalPage :=
  cs.foldl (fun page c => page.put color c) page

/-- Type a character.  A tab is so many spaces. -/
def type (page : LogicalPage) (tabWidth : Nat) (color : Color) (c : Char) : LogicalPage :=
  if c = '\t' then page.text color (List.replicate tabWidth ' ') else page.put color c

/-- What an operation does to the page. -/
def act (page : LogicalPage) (config : ConsoleConfig) : Console.Action → LogicalPage
  | .write text color =>
      text.toList.foldl (fun page c => page.type config.tabWidth color c) page
  | .backspace => page.put config.foreground '\x08'
  | .clear => { columns := page.columns }
  | .redraw | .scrollNewer | .scrollOlder | .moveBy _ _ | .toggle _ => page

def run (page : LogicalPage) (config : ConsoleConfig) (actions : List Console.Action) :
    LogicalPage :=
  actions.foldl (fun page action => page.act config action) page

/-! ## Writing -/

@[simp] theorem text_nil (page : LogicalPage) (color : Color) : page.text color [] = page := rfl

@[simp] theorem text_cons (page : LogicalPage) (color : Color) (c : Char) (cs : List Char) :
    page.text color (c :: cs) = (page.put color c).text color cs := rfl

theorem put_of_isGlyph {c : Char} (glyph : Viewport.IsGlyph c) (page : LogicalPage)
    (color : Color) : page.put color c = (page.lay (some ⟨c, color⟩)).advance := by
  obtain ⟨feed, return_, back⟩ := glyph
  unfold put
  split
  · contradiction
  · contradiction
  · contradiction
  · rfl

/-- To type a text is to write it with its tabs expanded. -/
theorem act_write (page : LogicalPage) (config : ConsoleConfig) (text : String) (color : Color) :
    page.act config (.write text color) =
      page.text color (expandTabs config.tabWidth text).toList := by
  have typed : (fun (page : LogicalPage) c => page.type config.tabWidth color c) = fun page c =>
      page.text color (if c = '\t' then List.replicate config.tabWidth ' ' else [c]) := by
    funext page c
    unfold type
    split <;> rfl
  rw [expandTabs, String.toList_ofList, LogicalPage.text, List.foldl_flatMap]
  show text.toList.foldl _ page = _
  rw [typed]
  rfl

@[simp] theorem columns_put (page : LogicalPage) (color : Color) (c : Char) :
    (page.put color c).columns = page.columns := by
  unfold put
  split
  · rfl
  · rfl
  · simp only [lay, back]
    split
    · rfl
    · split <;> rfl
  · unfold advance
    split <;> rfl

@[simp] theorem columns_text (page : LogicalPage) (color : Color) (cs : List Char) :
    (page.text color cs).columns = page.columns := by
  induction cs generalizing page with
  | nil => rfl
  | cons c rest ih => rw [text_cons, ih, columns_put]

@[simp] theorem columns_act (page : LogicalPage) (config : ConsoleConfig)
    (action : Console.Action) : (page.act config action).columns = page.columns := by
  cases action with
  | write text color => rw [act_write, columns_text]
  | backspace => exact columns_put page config.foreground '\x08'
  | redraw | scrollNewer | scrollOlder | clear | moveBy columns rows | toggle pending => rfl

@[simp] theorem run_nil (page : LogicalPage) (config : ConsoleConfig) :
    page.run config [] = page := rfl

@[simp] theorem run_cons (page : LogicalPage) (config : ConsoleConfig) (action : Console.Action)
    (rest : List Console.Action) :
    page.run config (action :: rest) = (page.act config action).run config rest := rfl

theorem run_append (page : LogicalPage) (config : ConsoleConfig)
    (first second : List Console.Action) :
    page.run config (first ++ second) = (page.run config first).run config second :=
  List.foldl_append

end LogicalPage

/-! ## The cursor -/

/-- The cursor is in the columns of its grid, and where the page has it. -/
structure Viewport.At (v : Viewport) (page : LogicalPage) : Prop extends v.Aligned where
  columns_eq : page.columns = v.grid.columns
  cursor_eq : v.cursor = page.cursor

namespace Viewport.At

variable {v : Viewport} {page : LogicalPage}

theorem lay (marks : v.At page) (glyph : Option Glyph) : v.At (page.lay glyph) :=
  ⟨marks.toAligned, marks.columns_eq, marks.cursor_eq⟩

/-- What a viewport marks depends on its grid and its cursor alone. -/
theorem of_same {w : Viewport} (marks : v.At page) (grid : w.grid = v.grid)
    (cursor : w.cursor = v.cursor) : w.At page :=
  ⟨marks.toAligned.of_same grid cursor, grid ▸ marks.columns_eq, cursor.trans marks.cursor_eq⟩

theorem showCursor (marks : v.At page) (visible : Bool) : (v.showCursor visible).At page :=
  marks.of_same rfl rfl

theorem follow (marks : v.At page) : v.follow.At page := marks.of_same rfl rfl

theorem advance (marks : v.At page) : v.advance.cursor = page.advance.cursor := by
  have columns := marks.columns_eq
  have cursor := marks.cursor_eq
  unfold Viewport.advance LogicalPage.advance atRightEdge
  rw [cursor]
  by_cases inside : page.column + 1 < page.columns
  · have room : ¬ v.grid.columns ≤ page.column + 1 := by omega
    simp only [LogicalPage.cursor, room, inside, decide_false, Bool.false_eq_true, if_false,
      if_true]
  · have edge : v.grid.columns ≤ page.column + 1 := by omega
    simp only [LogicalPage.cursor, edge, inside, decide_true, if_false, if_true, Int.natCast_add,
      Int.cast_ofNat_Int]

theorem back (marks : v.At page) : (v.moveBy (-1) 0).cursor = page.back.cursor := by
  have columns := marks.columns_eq
  have pos := marks.usable.columns_pos
  have small := marks.usable.columns_lt
  have below := marks.column_lt
  have width := marks.usable.width_eq
  have row : v.cursor.row = page.row := congrArg Position.row marks.cursor_eq
  have column : v.cursor.column = page.column := congrArg Position.column marks.cursor_eq
  have reach : v.reach (-1) = page.column - 1 := by
    rw [Viewport.reach, column, Word.signed_of_lt (by omega)]
    omega
  have widthPos : 0 < v.grid.width := by omega
  rw [cursor_moveBy, Viewport.carry, LogicalPage.back, row]
  by_cases inRow : 0 < page.column
  · obtain ⟨carry, rest⟩ : v.reach (-1) / v.grid.width = 0 ∧
        v.reach (-1) % v.grid.width = page.column - 1 :=
      (Int.ediv_emod_unique widthPos).2 (by omega)
    have stays : ¬ (page.row : Int) + 0 + 0 < 0 := by omega
    have reached : ((page.column : Int) - 1).toNat = page.column - 1 := by omega
    rw [carry, rest, if_neg stays, if_pos inRow, reached, Int.add_zero, Int.add_zero]
    rfl
  · obtain ⟨carry, rest⟩ : v.reach (-1) / v.grid.width = -1 ∧
        v.reach (-1) % v.grid.width = v.grid.width - 1 :=
      (Int.ediv_emod_unique widthPos).2 (by omega)
    rw [carry, rest, if_neg inRow]
    by_cases under : 0 < page.row
    · have stays : ¬ (page.row : Int) + 0 + -1 < 0 := by omega
      have reached : (v.grid.width - 1).toNat = page.columns - 1 := by omega
      have above : (page.row : Int) + 0 + -1 = (page.row - 1 : Nat) := by omega
      rw [if_neg stays, if_pos under, reached, above]
      rfl
    · have overTop : (page.row : Int) + 0 + -1 < 0 := by omega
      have first : page.column = 0 := by omega
      have top : page.row = 0 := by omega
      rw [if_pos overTop, if_neg under, if_pos (by decide), LogicalPage.cursor, first, top]
      rfl

/-- A character takes both cursors to the same place. -/
theorem put (marks : v.At page) (color : Color) (c : Char) : (v.step c).At (page.put color c) := by
  refine ⟨marks.toAligned.step c, ?_, ?_⟩
  · rw [LogicalPage.columns_put, grid_step]
    exact marks.columns_eq
  · rcases Pen.char_cases c with rfl | rfl | rfl | glyph
    · show Position.mk v.cursor.column (v.cursor.row + 1) = _
      rw [marks.cursor_eq]
      rfl
    · show Position.mk 0 v.cursor.row = _
      rw [marks.cursor_eq]
      rfl
    · exact marks.back
    · rw [step_of_isGlyph glyph, LogicalPage.put_of_isGlyph glyph]
      exact (marks.lay _).advance

theorem text (marks : v.At page) (color : Color) (cs : List Char) :
    (v.steps cs).At (page.text color cs) := by
  induction cs generalizing v page with
  | nil => exact marks
  | cons c rest ih => exact ih (marks.put color c)

/-- Every operation but a move takes both cursors to the same place. -/
theorem act (marks : v.At page) (config : ConsoleConfig) {action : Console.Action}
    (written : ∀ columns rows, action ≠ .moveBy columns rows) :
    (v.act config.tabWidth action).At (page.act config action) := by
  cases action with
  | write text color =>
      rw [LogicalPage.act_write]
      exact ((marks.text color _).showCursor true).follow
  | backspace => exact ((marks.text config.foreground ['\x08']).showCursor true).follow
  | redraw => exact marks
  | scrollNewer => exact marks.of_same (grid_newer v) (cursor_newer v)
  | scrollOlder => exact marks.of_same (grid_older v) (cursor_older v)
  | clear => exact ⟨⟨marks.usable, marks.usable.columns_pos⟩, marks.columns_eq, rfl⟩
  | moveBy columns rows => exact absurd rfl (written columns rows)
  | toggle pending =>
      cases pending with
      | true => exact marks
      | false => exact marks.showCursor _

end Viewport.At

/-! ## What shows through the window -/

/-- The glyph of the page that a cell of the screen shows. -/
def LogicalPage.through (page : LogicalPage) (offset : Int) (c : Cell) : Option Glyph :=
  page.glyphAt c.column (c.row - offset).toNat

namespace Pen

variable {p : Pen} {page : LogicalPage}

/-- The pen and the page agree on the cursor and on all that shows through the window. -/
structure Views (p : Pen) (page : LogicalPage) : Prop where
  marks : p.viewport.At page
  offset_nonpos : p.viewport.offset ≤ 0
  shadowed : p.shadow.grid = p.viewport.grid
  shows : ∀ c, p.viewport.grid.Contains c → p.glyphAt? c = page.through p.viewport.offset c

namespace Views

/-- A cell of the screen is under the cursor exactly if its place on the page is. -/
theorem under_iff (views : p.Views page) {c : Cell} (inside : p.viewport.grid.Contains c) :
    p.viewport.cursorCell? = some c ↔
      c.column = page.column ∧ (c.row - p.viewport.offset).toNat = page.row := by
  have low := views.offset_nonpos
  have height := views.marks.usable.height_eq
  have below := inside.2
  have row : p.viewport.cursor.row = page.row := congrArg Position.row views.marks.cursor_eq
  have column : p.viewport.cursor.column = page.column :=
    congrArg Position.column views.marks.cursor_eq
  simp only [Viewport.cursorCell?, Option.map_eq_some_iff, Viewport.screenRow?_eq_some]
  constructor
  · rintro ⟨n, ⟨shown, -⟩, rfl⟩
    refine ⟨column, ?_⟩
    dsimp only
    omega
  · rintro ⟨sameColumn, sameRow⟩
    refine ⟨c.row, ?_, ?_⟩
    · omega
    · rw [column, ← sameColumn]

theorem lay (views : p.Views page) (glyph : Option Glyph) :
    (p.lay glyph).Views (page.lay glyph) := by
  refine ⟨?_, ?_, ?_, ?_⟩
  · rw [viewport_lay]
    exact views.marks.lay glyph
  · rw [viewport_lay]
    exact views.offset_nonpos
  · rw [viewport_lay, shadow_grid_lay]
    exact views.shadowed
  · intro c inside
    rw [viewport_lay] at inside ⊢
    rw [glyphAt?_lay (views.shadowed.symm ▸ inside)]
    have under := views.under_iff inside
    have shown := views.shows c inside
    by_cases here : p.viewport.cursorCell? = some c
    · have place := under.1 here
      simp only [here, LogicalPage.through, LogicalPage.lay, place, and_self, if_true]
    · have elsewhere := mt under.2 here
      simp only [here, LogicalPage.through, LogicalPage.lay, elsewhere, if_false]
      exact shown

/-- Moving the cursor on both sides changes nothing that shows. -/
theorem moveTo (views : p.Views page) {v : Viewport} {page' : LogicalPage} (marks : v.At page')
    (grid : v.grid = p.viewport.grid) (offset : v.offset = p.viewport.offset)
    (same : page'.glyphAt = page.glyphAt) (wrapped : Bool) :
    ({ p with viewport := v, wrapped } : Pen).Views page' := by
  refine ⟨marks, ?_, views.shadowed.trans grid.symm, fun c inside => ?_⟩
  · dsimp only
    rw [offset]
    exact views.offset_nonpos
  · have shown := views.shows c (grid ▸ inside)
    dsimp only [LogicalPage.through]
    rw [offset, same]
    exact shown

theorem put (views : p.Views page) (color : Color) (c : Char) :
    (p.put color c).Views (page.put color c) := by
  have marks := views.marks.put color c
  rcases char_cases c with rfl | rfl | rfl | glyph
  · exact views.moveTo marks rfl rfl rfl p.wrapped
  · exact views.moveTo marks rfl rfl rfl p.wrapped
  · have stepped : (p.viewport.step '\x08').At page.back :=
      ⟨marks.toAligned, marks.columns_eq, marks.cursor_eq⟩
    have same : page.back.glyphAt = page.glyphAt := by
      unfold LogicalPage.back
      split
      · rfl
      · split <;> rfl
    exact (views.moveTo stepped (Viewport.grid_step _ _) (Viewport.offset_step _ _) same
      p.wrapped).lay none
  · rw [put_of_isGlyph glyph]
    rw [LogicalPage.put_of_isGlyph glyph] at marks ⊢
    refine (views.lay (some ⟨c, color⟩)).moveTo marks ?_ ?_ ?_ _
    · rw [viewport_lay, Viewport.grid_step]
    · rw [viewport_lay, Viewport.offset_step]
    · unfold LogicalPage.advance
      split <;> rfl

theorem text (views : p.Views page) (color : Color) (cs : List Char) :
    (p.text color cs).Views (page.text color cs) := by
  induction cs generalizing p page with
  | nil => exact views
  | cons c rest ih => exact ih (views.put color c)

theorem showing (views : p.Views page) (visible : Bool) : (p.showing visible).Views page :=
  views.moveTo (v := p.viewport.showCursor visible) (views.marks.showCursor visible) rfl rfl rfl
    p.wrapped

/-- What a pen views depends on its viewport and its shadow alone. -/
theorem of_same {q : Pen} (views : p.Views page) (viewport : q.viewport = p.viewport)
    (shadow : q.shadow = p.shadow) : q.Views page := by
  refine ⟨viewport ▸ views.marks, viewport ▸ views.offset_nonpos, ?_, fun c inside => ?_⟩
  · rw [viewport, shadow]
    exact views.shadowed
  · rw [viewport] at inside ⊢
    rw [glyphAt?, shadow]
    exact views.shows c inside

end Views

/-- An empty screen is a view of an empty page. -/
theorem views_unrolled (usable : p.viewport.grid.Usable) (low : p.viewport.offset ≤ 0)
    (shadowed : p.shadow.grid = p.viewport.grid) (spans : List Span) :
    (p.unrolled spans).Views { columns := p.viewport.grid.columns } := by
  refine ⟨⟨⟨usable, usable.columns_pos⟩, rfl, rfl⟩, low, shadowed, fun c _ => ?_⟩
  show ((p.shadow.fill none).get? c).join = none
  rw [Cells.fill, Cells.get?_replicate]
  split <;> rfl

end Pen

/-! ## What the history tells -/

/-- Writing the spans in turn on an empty page makes the page, and each begins where the
cursor is by then. -/
inductive Tells : List Span → LogicalPage → Prop where
  | blank (columns : Nat) : Tells [] { columns }
  | write {spans : List Span} {page : LogicalPage} {s : Span} (told : Tells spans page)
      (origin : s.origin = page.cursor) :
      Tells (spans ++ [s]) (page.text s.color s.text.toList)

namespace Pen

variable {p : Pen} {page : LogicalPage}

/-- A replay of the history from an empty screen ends with the page in view. -/
theorem Views.replay {spans : List Span} (tells : Tells spans page) {columns : Nat}
    (width : page.columns = columns) (views : p.Views { columns }) :
    (p.replay spans).Views page := by
  induction tells with
  | blank _ =>
      cases width
      exact views
  | @write spans page s told origin ih =>
      have before : page.columns = columns := by
        rw [← width, LogicalPage.columns_text]
      have replayed := ih before
      -- The cursor has been carried to the span's first row already, so the replay of the
      -- span starts where it was first written, also in its column.
      have there : (p.replay spans).viewport.moveToRow s.origin.row =
          (p.replay spans).viewport := by
        rw [origin, ← replayed.marks.cursor_eq]
        rfl
      have written := replayed.text s.color s.text.toList
      rw [replay_append, replay_cons, replay_nil, span, there]
      exact written

theorem views_restored {spans : List Span} (tells : Tells spans page) (marks : p.viewport.At page)
    (low : p.viewport.offset ≤ 0) (shadowed : p.shadow.grid = p.viewport.grid) :
    (p.restored spans).Views page := by
  have begun := views_unrolled marks.usable low shadowed spans
  have replayed := begun.replay tells marks.columns_eq
  have arrived : ((p.unrolled spans).replay spans).viewport.cursor = p.viewport.cursor :=
    replayed.marks.cursor_eq.trans marks.cursor_eq.symm
  rw [restored, settle, if_pos arrived]
  exact replayed

theorem Views.ready {spans : List Span} (views : p.Views page) (onPage : p.viewport.OnPage)
    (tells : Tells spans page) : (p.ready spans).Views page := by
  unfold Pen.ready
  split
  · refine views_restored tells ?_ ?_ ?_
    · rw [viewport_follow]
      exact views.marks.follow
    · rw [viewport_follow]
      exact (onPage.follow views.offset_nonpos).offset_nonpos
    · rw [viewport_follow, shadow_follow]
      exact views.shadowed
  · exact views

end Pen

namespace Console

variable {con : Console} {page : LogicalPage} {lost : List Span}

/-! ## Consoles -/

/-- The spans that the history has dropped since the last clear. -/
def lostAfter (con : Console) (lost : List Span) : Action → List Span
  | .write text color => lost ++ (con.history.append (con.spanFor text color)).2.toList
  | .backspace => lost ++ (con.history.append (con.spanFor "\x08" con.config.foreground)).2.toList
  | .clear => []
  | _ => lost

/-- The spans that the history has dropped since the last clear of a run. -/
def lostBy (con : Console) (lost : List Span) : List Action → List Span
  | [] => lost
  | action :: rest => (con.act action).1.1.lostBy (con.lostAfter lost action) rest

/-- A history that drops nothing has the new span behind those it had. -/
theorem spans_kept_of_none {text : String} {color : Color}
    (room : (con.history.append (con.spanFor text color)).2.toList = []) :
    (con.kept text color).spans = con.history.spans ++ [con.spanFor text color] := by
  have accounted := con.history.evicted_append_spans (con.spanFor text color)
  rw [room] at accounted
  exact accounted

/-- The cursor is where the page has it.  As long as no span is lost, the history tells the
page, and the shadow is what shows of it. -/
structure Depicts (con : Console) (page : LogicalPage) (lost : List Span) : Prop where
  regular : con.viewport.Regular
  marks : con.viewport.At page
  tells : lost = [] → Tells con.history.spans page
  views : lost = [] → con.pen.Views page

namespace Depicts

/-- An operation whose pen viewed the page before it showed the cursor depicts the page. -/
theorem of_shown {action : Action} {p : Pen} (regular : con.viewport.Regular)
    (pen : con.penAfter action = p.shown) (marks : p.viewport.At page)
    (tells : lost = [] → Tells (con.historyAfter action).spans page)
    (views : lost = [] → p.Views page) : (con.act action).1.1.Depicts page lost := by
  have same : (con.act action).1.1.viewport = p.viewport := by
    rw [act_eq, finish, pen]
    exact Pen.viewport_shown p
  refine ⟨regular_act regular action, ?_, ?_, fun whole => (views whole).of_same ?_ ?_⟩
  · rw [same]
    exact marks
  · rw [history_act]
    exact tells
  · exact same
  · rw [act_eq, finish, pen]
    exact Pen.shadow_shown p

theorem inscribed (views : con.pen.Views page) (text : String) (color : Color) :
    (con.inscribed text color).Views
      (page.text color (expandTabs con.config.tabWidth text).toList) := by
  have poised : (con.poised text color).Views page := by
    unfold Console.poised
    split
    · exact views.of_same (Pen.viewport_putBack _) (Pen.shadow_putBack _)
    · exact views.of_same (Pen.viewport_putBack _) (Pen.shadow_putBack _)
  exact (poised.text color (con.spanFor text color).text.toList).showing true

/-- A span that is kept without losing another tells what was written. -/
theorem kept (depicts : con.Depicts page lost) (text : String) (color : Color)
    (whole : lost ++ (con.history.append (con.spanFor text color)).2.toList = []) :
    Tells (con.kept text color).spans
      (page.text color (expandTabs con.config.tabWidth text).toList) := by
  obtain ⟨wholeBefore, room⟩ := List.append_eq_nil_iff.1 whole
  rw [spans_kept_of_none room]
  exact (depicts.tells wholeBefore).write depicts.marks.cursor_eq

theorem write (depicts : con.Depicts page lost) (text : String) (color : Color) :
    (con.act (.write text color)).1.1.Depicts (page.act con.config (.write text color))
      (con.lostAfter lost (.write text color)) := by
  rw [LogicalPage.act_write]
  refine of_shown (p := (con.inscribed text color).ready (con.kept text color).spans)
    depicts.regular rfl ?_ (depicts.kept text color) fun whole => ?_
  · rw [viewport_written depicts.regular.usable]
    exact ((depicts.marks.text color _).showCursor true).follow
  · have losses : lost ++ (con.history.append (con.spanFor text color)).2.toList = [] := whole
    have views := inscribed (depicts.views (List.append_eq_nil_iff.1 losses).1) text color
    refine views.ready ?_ (depicts.kept text color whole)
    have onPage := depicts.regular.toOnPage.steps (expandTabs con.config.tabWidth text).toList
    rw [viewport_inscribed]
    exact onPage.showCursor true

/-- Drawing everything again with the window somewhere else depicts the page. -/
theorem turned (depicts : con.Depicts page lost) {action : Action} {v : Viewport}
    (shadowed : con.shadow.grid = con.viewport.grid) (regular : v.Regular) (marks : v.At page)
    (grid : v.grid = con.viewport.grid)
    (pen : con.penAfter action = ((con.turned v).restored con.history.spans).shown)
    (history : con.historyAfter action = con.history) :
    (con.act action).1.1.Depicts page lost := by
  refine of_shown depicts.regular pen ?_ ?_ fun whole => ?_
  · rw [Pen.viewport_restored]
    exact marks
  · rw [history]
    exact depicts.tells
  · exact Pen.views_restored (depicts.tells whole) marks regular.offset_nonpos
      (shadowed.trans grid.symm)

/-- A console that was cleared depicts an empty page, whatever it was before. -/
theorem clear (regular : con.viewport.Regular) (shadowed : con.shadow.grid = con.viewport.grid) :
    (con.act .clear).1.1.Depicts { columns := con.viewport.grid.columns } [] := by
  have blank : (con.act .clear).1.1.viewport.At { columns := con.viewport.grid.columns } :=
    ⟨(Viewport.regular_reset regular.usable).toAligned, rfl, rfl⟩
  refine ⟨regular_act regular .clear, blank, fun _ => .blank _, fun _ => ?_⟩
  refine ⟨blank, Int.le_refl 0, shadowed, fun c _ => ?_⟩
  show ((con.shadow.fill none).get? c).join = none
  rw [Cells.fill, Cells.get?_replicate]
  split <;> rfl

/-- Every operation but a move does to the console what it does to the page. -/
theorem act (depicts : con.Depicts page lost) (shadowed : con.shadow.grid = con.viewport.grid)
    {action : Action} (written : ∀ columns rows, action ≠ .moveBy columns rows) :
    (con.act action).1.1.Depicts (page.act con.config action) (con.lostAfter lost action) := by
  have regular := depicts.regular
  have marks := depicts.marks
  cases action with
  | write text color => exact depicts.write text color
  | backspace =>
      have erased := depicts.write "\x08" con.config.foreground
      rw [LogicalPage.act_write, expandTabs_backspace] at erased
      exact erased
  | redraw => exact depicts.turned shadowed regular marks rfl rfl rfl
  | scrollNewer =>
      exact depicts.turned shadowed regular.newer
        (marks.of_same (Viewport.grid_newer _) (Viewport.cursor_newer _))
        (Viewport.grid_newer _) rfl rfl
  | scrollOlder =>
      exact depicts.turned shadowed regular.older
        (marks.of_same (Viewport.grid_older _) (Viewport.cursor_older _))
        (Viewport.grid_older _) rfl rfl
  | clear =>
      -- Nothing of what came before is needed: a lost span no longer matters.
      show (con.act .clear).1.1.Depicts { columns := page.columns } []
      rw [marks.columns_eq]
      exact clear regular shadowed
  | moveBy columns rows => exact absurd rfl (written columns rows)
  | toggle pending =>
      cases pending with
      | true => exact depicts
      | false =>
          have viewport : (con.act (.toggle false)).1.1.viewport = con.viewport.flipCursor :=
            viewport_act regular.usable (.toggle false)
          refine ⟨regular_act regular _, ?_, depicts.tells, fun whole => ?_⟩
          · rw [viewport]
            exact marks.showCursor _
          · exact ((depicts.views whole).showing (!con.viewport.visible)).of_same viewport
              (shadow_toggle con false)

end Depicts

/-- A console that shows a page goes on to show it. -/
theorem depicts_run {picture : Picture} {bare : Bool} (depicts : con.Depicts page lost)
    (displays : con.Displays picture bare) (actions : List Action)
    (written : ∀ columns rows, .moveBy columns rows ∉ actions) :
    (con.run actions).1.Depicts (page.run con.config actions) (con.lostBy lost actions) := by
  induction actions generalizing con page lost picture bare with
  | nil => exact depicts
  | cons action rest ih =>
      have first : ∀ columns rows, action ≠ .moveBy columns rows := by
        rintro columns rows rfl
        exact written columns rows List.mem_cons_self
      have later : ∀ columns rows, .moveBy columns rows ∉ rest := fun columns rows member =>
        written columns rows (List.mem_cons_of_mem _ member)
      have done := ih (depicts.act displays.shadowed first) (displays_act displays action) later
      rw [config_act] at done
      exact done

/-- A new console shows an empty page. -/
theorem depicts_start {grid : Grid} (usable : grid.Usable) (config : ConsoleConfig) :
    (start grid config).1.Depicts { columns := grid.columns } [] := by
  have origin := viewport_start grid config
  have regular := regular_start usable config
  have marks : (start grid config).1.viewport.At { columns := grid.columns } := by
    rw [origin]
    exact ⟨⟨usable, usable.columns_pos⟩, rfl, rfl⟩
  refine ⟨regular, marks, fun _ => .blank grid.columns, fun _ => ?_⟩
  refine ⟨marks, regular.offset_nonpos, ?_, fun c _ => ?_⟩
  · show (start grid config).1.shadow.grid = (start grid config).1.viewport.grid
    rw [shadow_start, origin]
    rfl
  · show ((start grid config).1.shadow.get? c).join = none
    rw [shadow_start, Cells.get?_replicate]
    split <;> rfl

/-- **The screen is a window onto an unbounded page.**  Whatever is written, erased,
scrolled, redrawn, toggled and cleared, as long as no span has been lost since the last
clear the cursor is where it is on the page, and every cell of the screen but the
cursor's shows the cell of the page that lies `offset` rows above it. -/
theorem window_on_page {surface cell : Extent} {config : ConsoleConfig} {out : Output}
    {picture : Picture} (created : create surface cell config = .ok (con, out))
    (sized : picture.grid = con.grid) (actions : List Action)
    (written : ∀ columns rows, .moveBy columns rows ∉ actions)
    (whole : con.lostBy [] actions = []) :
    let after := (con.run actions).1
    let page := LogicalPage.run { columns := con.grid.columns } config actions
    let shown := (picture.run out.draws).run (con.run actions).2.draws
    after.cursor = page.cursor ∧ after.viewport.offset ≤ 0 ∧ after.grid = con.grid ∧
    (∀ c, con.grid.Contains c → after.viewport.cursorCell? ≠ some c →
      shown.get? c = some (.standing config.background (page.through after.viewport.offset c))) ∧
    (∀ c, after.viewport.cursorCell? = some c →
      shown.get? c = some
        (if bareAfter false actions then .standing config.background
            (page.through after.viewport.offset c)
        else if after.viewport.visible then .filled config.cursorColor
        else .standing config.background (page.through after.viewport.offset c))) := by
  intro after page shown
  obtain ⟨regular, config_eq, displays⟩ := displays_created created sized actions
  obtain ⟨grid, usable, -, made⟩ := start_of_create created
  obtain ⟨rfl, rfl⟩ := Prod.mk.inj made
  have start_grid : (start grid config).1.grid = grid :=
    congrArg Viewport.grid (viewport_start grid config)
  have begun := displays_start (sized.trans start_grid) config
  have depicts : after.Depicts page ((start grid config).1.lostBy [] actions) := by
    have width : page = LogicalPage.run { columns := grid.columns } config actions :=
      congrArg (fun g : Grid => LogicalPage.run { columns := g.columns } config actions) start_grid
    rw [width]
    exact depicts_run (depicts_start usable config) begun actions written
  have same : after.grid = (start grid config).1.grid :=
    grid_run (regular_start usable config) actions
  have views := depicts.views whole
  have standing : ∀ c, (start grid config).1.grid.Contains c →
      after.standing c = .standing config.background (page.through after.viewport.offset c) := by
    intro c inside
    have insideAfter : after.grid.Contains c := by
      rw [same]
      exact inside
    have shows := views.shows c insideAfter
    show Shown.standing after.config.background (after.pen.glyphAt? c) = _
    rw [config_eq, shows]
    rfl
  refine ⟨depicts.marks.cursor_eq, regular.offset_nonpos, same, ?_, ?_⟩
  · intro c inside other
    rw [← standing c inside]
    exact displays.get?_of_ne (same ▸ inside) other
  · intro c under
    have inside := regular.contains_of_cursorCell? under
    have atCursor := displays.get?_cursor regular.toAligned under
    rw [config_eq] at atCursor
    rw [← standing c (same ▸ inside)]
    exact atCursor

/-- On three columns and two rows a text of three rows is scrolled by one. -/
theorem window_on_page_small :
    create ⟨24, 32⟩ ⟨8, 16⟩ {} = .ok (start ⟨3, 2⟩ {}) ∧
      (Picture.blank ⟨3, 2⟩).grid = (start ⟨3, 2⟩ {}).1.grid ∧
      (∀ columns rows, Action.moveBy columns rows ∉ [.write "ab\ncd" .pureRed]) ∧
      (start ⟨3, 2⟩ {}).1.lostBy [] [.write "ab\ncd" .pureRed] = [] ∧
      (((Picture.blank ⟨3, 2⟩).run (start ⟨3, 2⟩ {}).2.draws).run
        ((start ⟨3, 2⟩ {}).1.run [.write "ab\ncd" .pureRed]).2.draws).get? ⟨2, 0⟩ =
        some (.glyph 'c' .pureRed) := by
  have created : create ⟨24, 32⟩ ⟨8, 16⟩ {} =
      .ok ((start ⟨3, 2⟩ {}).1, (start ⟨3, 2⟩ {}).2) := rfl
  have sized : (Picture.blank ⟨3, 2⟩).grid = (start ⟨3, 2⟩ {}).1.grid := rfl
  have written : ∀ columns rows, Action.moveBy columns rows ∉ [.write "ab\ncd" .pureRed] := by
    intro columns rows member
    simp only [List.mem_singleton, reduceCtorEq] at member
  have whole : (start ⟨3, 2⟩ {}).1.lostBy [] [.write "ab\ncd" .pureRed] = [] := by decide +kernel
  have inside : (start ⟨3, 2⟩ {}).1.grid.Contains ⟨2, 0⟩ := by decide +kernel
  have other : ((start ⟨3, 2⟩ {}).1.run [.write "ab\ncd" .pureRed]).1.viewport.cursorCell? ≠
      some ⟨2, 0⟩ := by
    have under : ((start ⟨3, 2⟩ {}).1.run [.write "ab\ncd" .pureRed]).1.viewport.cursorCell? =
        some ⟨1, 1⟩ := by decide +kernel
    rw [under]
    decide
  have scrolled : (LogicalPage.run { columns := (start ⟨3, 2⟩ {}).1.grid.columns } {}
      [.write "ab\ncd" .pureRed]).through
        ((start ⟨3, 2⟩ {}).1.run [.write "ab\ncd" .pureRed]).1.viewport.offset ⟨2, 0⟩ =
      some ⟨'c', .pureRed⟩ := by decide +kernel
  have shown := (window_on_page created sized [.write "ab\ncd" .pureRed] written whole).2.2.2.1
    ⟨2, 0⟩ inside other
  rw [scrolled] at shown
  exact ⟨created, sized, written, whole, shown⟩

end Console

end GlyphConsole
