import GlyphConsole.Proofs.Rejoining
import GlyphConsole.Proofs.ShellWork

/-!
# GlyphConsole.Proofs.Echo — the line and its echo

Cells of the page are counted here row after row, so that a cursor has one place
(`LogicalPage.place`) and a line that wraps is a run of places.  One step of the cursor adds
one (`place_advance`), a step back takes one away (`place_back`), and laying a glyph changes
one place (`cellAt_lay`).

A `Draft` is the reference for the line editor: the characters that are held, and how many
there were at most since the line was empty.  It `Stands` on a page from a place on if the
cursor is behind its last character, its characters are in their places, what was rubbed out
behind them is blank, and all other places are what they were.  Each `Stroke`, that is a key
other than the one that enters the line or a call of the timer, keeps that
(`Stands.stroke`).

The cursor of the console is where the page has it in any case, and the screen shows the page
as long as nothing is lost and nothing was moved since the last clear
(`Console.depicts_run_of_still`).  `echo_in_step` puts the line, the cursor and the screen
together.
-/

namespace GlyphConsole

set_option autoImplicit false

open Console (Action movedAfter)
open Machine (Notebook PowerUnit)

/-! ## Places -/

namespace LogicalPage

variable {page : LogicalPage}

/-- The number of a cell of the page, counted row after row. -/
def placeOf (page : LogicalPage) (column row : Nat) : Nat := row * page.columns + column

/-- The place of the cursor. -/
def place (page : LogicalPage) : Nat := page.placeOf page.column page.row

/-- What is in a place. -/
def cellAt (page : LogicalPage) (place : Nat) : Option Glyph :=
  page.glyphAt (place % page.columns) (place / page.columns)

theorem placeOf_eq_iff {column row place : Nat} (inside : column < page.columns) :
    place = page.placeOf column row ↔
      place % page.columns = column ∧ place / page.columns = row := by
  have unique := Nat.div_mod_unique (a := place) (c := column) (d := row)
    (Nat.zero_lt_of_lt inside)
  rw [and_comm, unique, placeOf, Nat.mul_comm, Nat.add_comm]
  constructor
  · rintro rfl
    exact ⟨rfl, inside⟩
  · rintro ⟨same, -⟩
    exact same.symm

theorem cellAt_placeOf {column row : Nat} (inside : column < page.columns) :
    page.cellAt (page.placeOf column row) = page.glyphAt column row := by
  obtain ⟨ownColumn, ownRow⟩ := (placeOf_eq_iff inside).1 rfl
  rw [cellAt, ownColumn, ownRow]

theorem cellAt_lay (inside : page.column < page.columns) (glyph : Option Glyph) (place : Nat) :
    (page.lay glyph).cellAt place = if place = page.place then glyph else page.cellAt place := by
  simp only [LogicalPage.place, placeOf_eq_iff inside]
  rfl

theorem column_advance_lt (inside : page.column < page.columns) :
    page.advance.column < page.advance.columns := by
  unfold advance
  split
  · assumption
  · exact Nat.zero_lt_of_lt inside

theorem place_advance (inside : page.column < page.columns) :
    page.advance.place = page.place + 1 := by
  unfold advance
  split
  · rfl
  · have last : page.column + 1 = page.columns := by omega
    simp only [place, placeOf, Nat.succ_mul]
    omega

theorem cellAt_advance (page : LogicalPage) (place : Nat) :
    page.advance.cellAt place = page.cellAt place := by
  unfold advance
  split <;> rfl

theorem back_of_place_pos (inside : page.column < page.columns) (some : 0 < page.place) :
    page.back.column < page.back.columns ∧ page.back.place + 1 = page.place ∧
      ∀ place, page.back.cellAt place = page.cellAt place := by
  unfold back
  split
  · rename_i left
    refine ⟨?_, ?_, fun _ => rfl⟩
    · dsimp only
      omega
    · simp only [place, placeOf]
      omega
  · rename_i first
    split
    · rename_i below
      obtain ⟨above, row⟩ := Nat.exists_eq_succ_of_ne_zero (Nat.ne_of_gt below)
      refine ⟨?_, ?_, fun _ => rfl⟩
      · dsimp only
        omega
      · simp only [place, placeOf, row, Nat.succ_sub_one, Nat.succ_mul]
        omega
    · rename_i top
      have row : page.row = 0 := by omega
      simp only [place, placeOf, row, Nat.zero_mul] at some
      omega

/-- A character that can be typed is a glyph, and no tab. -/
theorem isGlyph_of_isTypable {c : Char} (typable : isTypable c = true) :
    Viewport.IsGlyph c ∧ c ≠ '\t' := by
  refine ⟨⟨?_, ?_, ?_⟩, ?_⟩
  · rintro rfl
    exact absurd typable (by decide)
  · rintro rfl
    exact absurd typable (by decide)
  · rintro rfl
    exact absurd typable (by decide)
  · rintro rfl
    exact absurd typable (by decide)

theorem act_write_typable {c : Char} (typable : isTypable c = true) (config : ConsoleConfig)
    (color : Color) :
    page.act config (.write (String.singleton c) color) = (page.lay (some ⟨c, color⟩)).advance := by
  obtain ⟨glyph, plain⟩ := isGlyph_of_isTypable typable
  show (String.singleton c).toList.foldl _ page = _
  rw [String.toList_singleton, List.foldl_cons, List.foldl_nil, type, if_neg plain,
    put_of_isGlyph glyph]

end LogicalPage

/-- The cursor of a console, counted like the cells of a page. -/
def Console.place (con : Console) : Int := con.cursor.row * con.grid.columns + con.cursor.column

theorem Console.place_of_at {con : Console} {page : LogicalPage} (marks : con.viewport.At page) :
    con.place = page.place := by
  have cursor : con.cursor = page.cursor := marks.cursor_eq
  have columns : (con.grid.columns : Int) = page.columns := by
    rw [marks.columns_eq]
    rfl
  rw [Console.place, cursor, columns]
  rfl

/-! ## The line editor -/

/-- A line as it is edited, and how long it was at most. -/
structure Draft where
  line : List Char := []
  longest : Nat := 0

/-- A key that edits or pages, or a call of the timer. -/
inductive Stroke where
  | key (event : KeyEvent) (edits : event ≠ .enter)
  | blink (elapsed : UInt32) (pending : Bool)

namespace Draft

/-- A character that can be typed is added to a line that holds fewer than 128; a backspace
takes the last one away. -/
def key (draft : Draft) : KeyEvent → Draft
  | .char c =>
      if isTypable c = true ∧ draft.line.length < 128 then
        { line := draft.line ++ [c], longest := max draft.longest (draft.line.length + 1) }
      else draft
  | .backspace => { draft with line := draft.line.dropLast }
  | .pageUp | .pageDown | .enter => draft

def stroke (draft : Draft) : Stroke → Draft
  | .key event _ => draft.key event
  | .blink _ _ => draft

def strokes (draft : Draft) (strokes : List Stroke) : Draft := strokes.foldl stroke draft

/-- The page with the draft on it: its characters in white from a place on, nothing where it
was longer, and elsewhere what was there before. -/
def upon (draft : Draft) (start : Nat) (under : Nat → Option Glyph) (place : Nat) :
    Option Glyph :=
  if place < start then under place
  else if place < start + draft.longest then draft.line[place - start]?.map (⟨·, .white⟩)
  else under place

/-- The cursor is behind the draft, which is all that differs from what was there before. -/
structure Stands (draft : Draft) (page : LogicalPage) (start : Nat)
    (under : Nat → Option Glyph) : Prop where
  column_lt : page.column < page.columns
  place_eq : page.place = start + draft.line.length
  length_le : draft.line.length ≤ draft.longest
  cells : ∀ place, page.cellAt place = draft.upon start under place

namespace Stands

variable {draft : Draft} {page : LogicalPage} {start : Nat} {under : Nat → Option Glyph}

/-- An empty draft stands wherever the cursor is. -/
theorem empty (inside : page.column < page.columns) :
    ({} : Draft).Stands page page.place page.cellAt := by
  refine ⟨inside, rfl, Nat.le_refl 0, fun place => ?_⟩
  unfold upon
  split
  · rfl
  · rw [if_neg (by dsimp only; omega)]

/-- A character is put behind the draft. -/
theorem add (stands : draft.Stands page start under) (c : Char) :
    Stands { line := draft.line ++ [c], longest := max draft.longest (draft.line.length + 1) }
      (page.lay (some ⟨c, .white⟩)).advance start under := by
  have inside : (page.lay (some ⟨c, .white⟩)).column < (page.lay (some ⟨c, .white⟩)).columns :=
    stands.column_lt
  have length := stands.length_le
  refine ⟨LogicalPage.column_advance_lt inside, ?_, ?_, ?_⟩
  · rw [LogicalPage.place_advance inside, List.length_append, List.length_singleton,
      ← Nat.add_assoc, ← stands.place_eq]
    rfl
  · rw [List.length_append, List.length_singleton]
    exact Nat.le_max_right _ _
  · intro place
    rw [LogicalPage.cellAt_advance, LogicalPage.cellAt_lay stands.column_lt, stands.place_eq,
      stands.cells]
    unfold upon
    dsimp only
    by_cases here : place = start + draft.line.length
    · have behind : ¬place < start := by omega
      have within : place < start + max draft.longest (draft.line.length + 1) := by omega
      have last : place - start = draft.line.length := by omega
      rw [if_pos here, if_neg behind, if_pos within, last, List.getElem?_concat_length]
      rfl
    · rw [if_neg here]
      by_cases early : place < start
      · rw [if_pos early, if_pos early]
      · rw [if_neg early, if_neg early]
        by_cases held : place < start + draft.line.length
        · rw [if_pos (by omega), if_pos (by omega), List.getElem?_append_left (by omega)]
        · have off : (draft.line ++ [c]).length ≤ place - start := by
            rw [List.length_append, List.length_singleton]
            omega
          have kept : place < start + max draft.longest (draft.line.length + 1) ↔
            place < start + draft.longest := by omega
          rw [List.getElem?_eq_none off, List.getElem?_eq_none (by omega)]
          simp only [kept]

/-- The last character of a draft that has one is taken away. -/
theorem rubOut (stands : draft.Stands page start under) (some : draft.line ≠ []) :
    Stands { draft with line := draft.line.dropLast } (page.back.lay none) start under := by
  have length := stands.length_le
  have typed := List.length_pos_iff.2 some
  have place := stands.place_eq
  obtain ⟨inside, before, same⟩ := LogicalPage.back_of_place_pos stands.column_lt (by omega)
  refine ⟨inside, ?_, ?_, ?_⟩
  · show page.back.place = _
    rw [List.length_dropLast]
    omega
  · rw [List.length_dropLast]
    dsimp only
    omega
  · intro place
    rw [LogicalPage.cellAt_lay inside, same, stands.cells]
    unfold upon
    dsimp only
    by_cases here : place = page.back.place
    · have behind : ¬place < start := by omega
      have within : place < start + draft.longest := by omega
      have gone : ¬place - start < draft.line.length - 1 := by omega
      rw [if_pos here, if_neg behind, if_pos within, List.getElem?_dropLast, if_neg gone]
      rfl
    · rw [if_neg here]
      by_cases early : place < start
      · rw [if_pos early, if_pos early]
      · rw [if_neg early, if_neg early, List.getElem?_dropLast]
        by_cases held : place - start < draft.line.length - 1
        · rw [if_pos held]
        · rw [if_neg held, List.getElem?_eq_none (by omega)]

end Stands

end Draft

/-! ## Strokes -/

namespace Terminal

variable {π : Type}

/-- What a stroke asks of the console. -/
def asksFor (t : Terminal π) : Stroke → List Action
  | .key event _ => t.shell.asks event
  | .blink elapsed pending => t.asks elapsed pending

/-- No stroke moves the cursor without writing. -/
theorem written_asksFor (t : Terminal π) (stroke : Stroke) {action : Action}
    (member : action ∈ t.asksFor stroke) : ∀ columns rows, action ≠ .moveBy columns rows := by
  rintro columns rows rfl
  cases stroke with
  | key event edits =>
      cases event with
      | char c =>
          simp only [asksFor, Shell.asks] at member
          split at member <;> simp at member
      | backspace =>
          simp only [asksFor, Shell.asks] at member
          split at member <;> simp at member
      | pageUp | pageDown | enter => simp [asksFor, Shell.asks] at member
  | blink elapsed pending =>
      simp only [asksFor, asks] at member
      split at member <;> simp at member

variable [PowerUnit π]

def stroke (t : Terminal π) : Stroke → Terminal π
  | .key event _ => t.handle (some event)
  | .blink elapsed pending => (t.blink elapsed pending).1

def strokes (t : Terminal π) (strokes : List Stroke) : Terminal π := strokes.foldl stroke t

/-- What strokes ask of the console, one after the other. -/
def asked (t : Terminal π) : List Stroke → List Action
  | [] => []
  | stroke :: rest => t.asksFor stroke ++ (t.stroke stroke).asked rest

theorem works_stroke (t : Terminal π) (stroke : Stroke) :
    t.shell.Works (t.asksFor stroke) (t.stroke stroke).shell := by
  cases stroke with
  | key event edits => exact t.shell.works_asks edits
  | blink elapsed pending => exact t.works_blink elapsed pending

theorem works_strokes (t : Terminal π) (strokes : List Stroke) :
    t.shell.Works (t.asked strokes) (t.strokes strokes).shell := by
  induction strokes generalizing t with
  | nil => exact Shell.works_nil rfl rfl rfl
  | cons stroke rest ih => exact (t.works_stroke stroke).trans (ih (t.stroke stroke))

theorem written_asked (t : Terminal π) (strokes : List Stroke) :
    ∀ columns rows, .moveBy columns rows ∉ t.asked strokes := by
  induction strokes generalizing t with
  | nil => simp [asked]
  | cons stroke rest ih =>
      intro columns rows member
      rcases List.mem_append.1 member with first | later
      · exact t.written_asksFor stroke first columns rows rfl
      · exact ih (t.stroke stroke) columns rows later

/-- A stroke does to the line of the shell what it does to a draft. -/
theorem line_stroke {t : Terminal π} {draft : Draft} (same : t.shell.line.chars = draft.line)
    (stroke : Stroke) : (t.stroke stroke).shell.line.chars = (draft.stroke stroke).line := by
  cases stroke with
  | key event edits =>
      cases event with
      | char c =>
          show (t.shell.type c).line.chars = (draft.key (.char c)).line
          rw [Draft.key, ← same]
          split
          · rename_i room
            obtain ⟨longer, chars, typed⟩ := Shell.type_of_room room
            rw [typed]
            exact chars
          · rename_i refused
            rw [Shell.type_of_no_room refused]
            exact same
      | backspace =>
          show t.shell.erase.line.chars = draft.line.dropLast
          rw [← same]
          by_cases empty : t.shell.line.chars = []
          · rw [Shell.erase_of_empty empty, empty]
            rfl
          · obtain ⟨shorter, chars, erased⟩ := Shell.erase_of_typed empty
            rw [erased]
            exact chars
      | pageUp => exact same
      | pageDown => exact same
      | enter => exact absurd rfl edits
  | blink elapsed pending => exact same

end Terminal

namespace Draft.Stands

variable {π : Type} {t : Terminal π} {draft : Draft} {page : LogicalPage} {start : Nat}
  {under : Nat → Option Glyph}

/-- What a stroke asks for keeps the draft on the page. -/
theorem stroke (stands : draft.Stands page start under) (same : t.shell.line.chars = draft.line)
    (config : ConsoleConfig) (stroke : Stroke) :
    (draft.stroke stroke).Stands (page.run config (t.asksFor stroke)) start under := by
  cases stroke with
  | key event edits =>
      cases event with
      | char c =>
          simp only [Terminal.asksFor, Shell.asks, Draft.stroke, Draft.key, same]
          split
          · rename_i room
            rw [LogicalPage.run_cons, LogicalPage.run_nil, LogicalPage.act_write_typable room.1]
            exact stands.add c
          · exact stands
      | backspace =>
          simp only [Terminal.asksFor, Shell.asks, Draft.stroke, Draft.key, same]
          split
          · rename_i empty
            rw [empty, List.dropLast_nil, ← empty]
            exact stands
          · rename_i typed
            exact stands.rubOut typed
      | pageUp => exact stands
      | pageDown => exact stands
      | enter => exact absurd rfl edits
  | blink elapsed pending =>
      simp only [Terminal.asksFor, Terminal.asks]
      split
      · exact stands
      · exact stands

variable [PowerUnit π]

theorem strokes (stands : draft.Stands page start under) (same : t.shell.line.chars = draft.line)
    (config : ConsoleConfig) (strokes : List Stroke) :
    (draft.strokes strokes).Stands (page.run config (t.asked strokes)) start under ∧
      (t.strokes strokes).shell.line.chars = (draft.strokes strokes).line := by
  induction strokes generalizing t draft page with
  | nil => exact ⟨stands, same⟩
  | cons first rest ih =>
      have next := ih (stands.stroke same config first) (Terminal.line_stroke same first)
      rw [← LogicalPage.run_append] at next
      exact next

end Draft.Stands

/-! ## On the console -/

namespace Console

variable {con : Console} {page : LogicalPage} {lost : List Span}

/-- Without moves the cursor goes where the page has it, whatever is lost. -/
theorem at_run (regular : con.viewport.Regular) (marks : con.viewport.At page)
    (actions : List Action) (written : ∀ columns rows, .moveBy columns rows ∉ actions) :
    (con.run actions).1.viewport.At (page.run con.config actions) := by
  induction actions generalizing con page with
  | nil => exact marks
  | cons action rest ih =>
      have first : ∀ columns rows, action ≠ .moveBy columns rows := by
        rintro columns rows rfl
        exact written columns rows List.mem_cons_self
      have later : ∀ columns rows, .moveBy columns rows ∉ rest := fun columns rows member =>
        written columns rows (List.mem_cons_of_mem _ member)
      have next : (con.act action).1.1.viewport.At (page.act con.config action) := by
        rw [viewport_act regular.usable]
        exact marks.act con.config first
      have done := ih (regular_act regular action) next later
      rw [config_act] at done
      exact done

/-- A clear makes up for moves: what counts is that there was none since. -/
theorem depicts_run_of_still {picture : Picture} {bare moved : Bool}
    (regular : con.viewport.Regular) (displays : con.Displays picture bare)
    (columns : page.columns = con.viewport.grid.columns)
    (depicts : moved = false → con.Depicts page lost) (actions : List Action)
    (still : movedAfter moved actions = false) :
    (con.run actions).1.Depicts (page.run con.config actions) (con.lostBy lost actions) := by
  induction actions generalizing con page lost picture bare moved with
  | nil => exact depicts still
  | cons action rest ih =>
      have kept : action.moves moved = false →
          (con.act action).1.1.Depicts (page.act con.config action)
            (con.lostAfter lost action) := by
        intro stays
        cases action with
        | clear =>
            show (con.act .clear).1.1.Depicts { columns := page.columns } []
            rw [columns]
            exact Depicts.clear regular displays.shadowed
        | moveBy columns rows => exact absurd stays.symm Bool.false_ne_true
        | write text color => exact (depicts stays).act displays.shadowed nofun
        | redraw => exact (depicts stays).act displays.shadowed nofun
        | scrollNewer => exact (depicts stays).act displays.shadowed nofun
        | scrollOlder => exact (depicts stays).act displays.shadowed nofun
        | backspace => exact (depicts stays).act displays.shadowed nofun
        | toggle pending => exact (depicts stays).act displays.shadowed nofun
      have width : (page.act con.config action).columns =
          (con.act action).1.1.viewport.grid.columns := by
        rw [LogicalPage.columns_act, grid_act regular.usable]
        exact columns
      have done := ih (regular_act regular action) (displays_act displays action) width kept still
      rw [config_act] at done
      exact done

/-- What depicts a page shows it in every cell but the cursor's. -/
theorem Depicts.get?_of_ne {picture : Picture} {bare : Bool} (depicts : con.Depicts page [])
    (displays : con.Displays picture bare) {c : Cell} (inside : con.grid.Contains c)
    (other : con.viewport.cursorCell? ≠ some c) :
    picture.get? c =
      some (.standing con.config.background (page.through con.viewport.offset c)) := by
  have shows := (depicts.views rfl).shows c inside
  rw [displays.get?_of_ne inside other]
  show some (Shown.standing con.config.background (con.pen.glyphAt? c)) = _
  rw [shows]
  rfl

/-- What moves nothing leaves no move behind. -/
theorem movedAfter_append {first second : List Action} (still : movedAfter false first = false)
    (written : ∀ columns rows, .moveBy columns rows ∉ second) :
    movedAfter false (first ++ second) = false := by
  have joined : movedAfter false (first ++ second) = movedAfter (movedAfter false first) second :=
    List.foldl_append
  rw [joined, still]
  clear joined still
  induction second with
  | nil => rfl
  | cons action rest ih =>
      have first : action.moves false = false := by
        cases action with
        | moveBy columns rows => exact absurd List.mem_cons_self (written columns rows)
        | write | redraw | scrollNewer | scrollOlder | clear | backspace | toggle => rfl
      have later : ∀ columns rows, .moveBy columns rows ∉ rest := fun columns rows member =>
        written columns rows (List.mem_cons_of_mem _ member)
      show movedAfter (action.moves false) rest = false
      rw [first]
      exact ih later

/-- A new console without moves since the last clear depicts what was done to it. -/
theorem depicts_created {surface cell : Extent} {config : ConsoleConfig} {out : Output}
    {picture : Picture} (created : create surface cell config = .ok (con, out))
    (sized : picture.grid = con.grid) (actions : List Action)
    (still : movedAfter false actions = false) :
    (con.run actions).1.Depicts (LogicalPage.run { columns := con.grid.columns } config actions)
      (con.lostBy [] actions) := by
  obtain ⟨grid, usable, -, made⟩ := start_of_create created
  obtain rfl : con = (start grid config).1 := congrArg Prod.fst made
  have origin : (start grid config).1.grid = grid :=
    congrArg Viewport.grid (viewport_start grid config)
  rw [origin]
  exact depicts_run_of_still (regular_start usable config)
    (displays_start (sized.trans origin) config) (congrArg Grid.columns origin.symm)
    (fun _ => depicts_start usable config) actions still

/-- A page with the cursor of a viewport, and nothing on it. -/
theorem at_cursor (onPage : con.viewport.OnPage) :
    con.viewport.At
      { columns := con.grid.columns, column := con.cursor.column, row := con.cursor.row.toNat } := by
  refine ⟨onPage.toAligned, rfl, ?_⟩
  exact congrArg (Position.mk con.cursor.column) (Int.toNat_of_nonneg onPage.row_nonneg).symm

end Console

/-- **The line and its echo stay in step.**  On a console of any size, after any run of its
operations (and every history of a terminal is one, `Terminal.ran_history`), let the line of
the shell be empty and the cursor be in the place `start`.  After any keys but the one that
enters the line, with calls of the timer among them:

* the line is the reference editor's;
* the cursor is as many places behind `start` as the line has characters, however often it
  wrapped or scrolled and whatever the history has lost;
* if nothing was moved since the last clear and no span has been lost since, then on the page
  the line stands in white from `start` on, what was longer is blank, and nothing else has
  changed; and every cell of the screen but the cursor's shows just that. -/
theorem echo_in_step {π : Type} [PowerUnit π] {surface cell : Extent} {config : ConsoleConfig}
    {con : Console} {out : Output} {picture : Picture} {earlier : Array DrawCall}
    {actions : List Action} {t : Terminal π}
    (created : Console.create surface cell config = .ok (con, out))
    (sized : picture.grid = con.grid) (ran : t.shell.Ran con out earlier actions)
    (empty : t.shell.line.chars = []) (strokes : List Stroke) :
    let draft := ({} : Draft).strokes strokes
    let done := t.strokes strokes
    let start := (con.run actions).1.place
    let after := (con.run (actions ++ t.asked strokes)).1
    done.shell.Ran con out earlier (actions ++ t.asked strokes) ∧
    done.shell.line.chars = draft.line ∧
    after.place = start + draft.line.length ∧
    (movedAfter false actions = false → con.lostBy [] (actions ++ t.asked strokes) = [] →
      let page := LogicalPage.run { columns := con.grid.columns } config
      (∀ place, (page (actions ++ t.asked strokes)).cellAt place =
        draft.upon start.toNat (page actions).cellAt place) ∧
      ∀ c, con.grid.Contains c → after.viewport.cursorCell? ≠ some c →
        (picture.run (earlier ++ done.shell.output.draws)).get? c =
          some (.standing config.background (draft.upon start.toNat (page actions).cellAt
            ((c.row - after.viewport.offset).toNat * con.grid.columns + c.column)))) := by
  intro draft done start after
  have ranDone : done.shell.Ran con out earlier (actions ++ t.asked strokes) :=
    ran.works (t.works_strokes strokes)
  have regular := Console.regular_run (Console.regular_of_create created) actions
  obtain ⟨-, configBefore, -⟩ := Console.displays_created created sized actions
  have later : ∀ columns rows, .moveBy columns rows ∉ t.asked strokes := t.written_asked strokes
  -- Wherever the cursor is marked before, it is marked after the strokes.
  have marked : ∀ page, (con.run actions).1.viewport.At page →
      after.viewport.At (page.run config (t.asked strokes)) := by
    intro page marks
    have done := Console.at_run regular marks (t.asked strokes) later
    rw [configBefore, ← congrArg Prod.fst (con.run_append actions (t.asked strokes))] at done
    exact done
  have echoed : ∀ page, (con.run actions).1.viewport.At page →
      draft.Stands (page.run config (t.asked strokes)) page.place page.cellAt ∧
        done.shell.line.chars = draft.line := by
    intro page marks
    have inside : page.column < page.columns := by
      have column : (con.run actions).1.viewport.cursor.column = page.column :=
        congrArg Position.column marks.cursor_eq
      rw [marks.columns_eq, ← column]
      exact marks.column_lt
    exact (Draft.Stands.empty inside).strokes empty config strokes
  have own := Console.at_cursor regular.toOnPage
  obtain ⟨stands, line⟩ := echoed _ own
  refine ⟨ranDone, line, ?_, ?_⟩
  · show after.place = (con.run actions).1.place + draft.line.length
    rw [Console.place_of_at (marked _ own), Console.place_of_at own, stands.place_eq]
    exact Int.natCast_add _ _
  · intro still whole page
    have depicts := Console.depicts_created created sized actions still
    have stillAfter := Console.movedAfter_append still later
    have depictsAfter := Console.depicts_created created sized _ stillAfter
    rw [whole] at depictsAfter
    obtain ⟨-, configAfter, displays⟩ :=
      Console.displays_created created sized (actions ++ t.asked strokes)
    have cells : ∀ place, (page (actions ++ t.asked strokes)).cellAt place =
        draft.upon start.toNat (page actions).cellAt place := by
      intro place
      have from_start : start.toNat = (page actions).place := by
        show (con.run actions).1.place.toNat = _
        rw [Console.place_of_at depicts.marks]
        exact Int.toNat_natCast _
      rw [from_start, ← (echoed _ depicts.marks).1.cells place, ← LogicalPage.run_append]
    refine ⟨cells, fun c inside other => ?_⟩
    have grid : after.grid = con.grid :=
      Console.grid_run (Console.regular_of_create created) (actions ++ t.asked strokes)
    have columns : (page (actions ++ t.asked strokes)).columns = con.grid.columns :=
      depictsAfter.marks.columns_eq.trans (congrArg Grid.columns grid)
    have drawn : picture.run (earlier ++ done.shell.output.draws) =
        (picture.run out.draws).run (con.run (actions ++ t.asked strokes)).2.draws := by
      rw [ranDone.draws, Picture.run_append]
    have insideColumns : c.column < (page (actions ++ t.asked strokes)).columns := by
      rw [columns]
      exact inside.1
    rw [drawn, depictsAfter.get?_of_ne displays (grid ▸ inside) other, configAfter,
      LogicalPage.through, ← LogicalPage.cellAt_placeOf insideColumns, cells,
      LogicalPage.placeOf, columns]

/-- Behind a prompt on three columns and two rows, two letters are typed over the end of the row
and the second is rubbed out. -/
theorem echo_in_step_small :
    let con := (Console.start ⟨3, 2⟩ {}).1
    let out := (Console.start ⟨3, 2⟩ {}).2
    let bare : Shell Notebook := { display := { console := some con }, power := {}, output := out }
    let prompted : Terminal Notebook := { shell := bare.print "> " .cyan }
    let strokes : List Stroke :=
      [.key (.char 'a') nofun, .key (.char 'b') nofun, .key .backspace nofun]
    Console.create ⟨24, 32⟩ ⟨8, 16⟩ {} = .ok (con, out) ∧ (Picture.blank ⟨3, 2⟩).grid = con.grid ∧
      prompted.shell.Ran con out #[] [.write "> " .cyan] ∧ prompted.shell.line.chars = [] ∧
      movedAfter false [.write "> " .cyan] = false ∧
      con.lostBy [] ([.write "> " .cyan] ++ prompted.asked strokes) = [] ∧
      (prompted.strokes strokes).shell.line.chars = ['a'] ∧
      ((Picture.blank ⟨3, 2⟩).run
        (#[] ++ (prompted.strokes strokes).shell.output.draws)).get? ⟨2, 0⟩ =
          some (.glyph 'a' .white) := by
  intro con out bare prompted strokes
  have created : Console.create ⟨24, 32⟩ ⟨8, 16⟩ {} = .ok (con, out) := rfl
  have sized : (Picture.blank ⟨3, 2⟩).grid = con.grid := rfl
  have installed : bare.Ran con out #[] [] := ⟨rfl, by simp [bare, Console.run]⟩
  have ran : prompted.shell.Ran con out #[] [.write "> " .cyan] :=
    installed.works (bare.works_print "> " .cyan)
  have still : movedAfter false [.write "> " .cyan] = false := rfl
  have whole : con.lostBy [] ([.write "> " .cyan] ++ prompted.asked strokes) = [] := by
    decide +kernel
  obtain ⟨-, line, -, echoed⟩ := echo_in_step created sized ran rfl strokes
  have inside : con.grid.Contains ⟨2, 0⟩ := by decide +kernel
  have other : (con.run ([.write "> " .cyan] ++ prompted.asked strokes)).1.viewport.cursorCell? ≠
      some ⟨2, 0⟩ := by decide +kernel
  have shown := (echoed still whole).2 ⟨2, 0⟩ inside other
  refine ⟨created, sized, ran, rfl, still, whole, line, shown.trans ?_⟩
  decide +kernel

end GlyphConsole
