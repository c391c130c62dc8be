import GlyphConsole.Proofs.Echo

/-!
# GlyphConsole.Proofs.Cutting — a text written in pieces

A text without backspaces only takes the cursor forward (`row_steps_le`), so following the
cursor after each of its pieces takes the window no further than following it once at the
end: where a write leaves the cursor and the window depends on its characters alone
(`afterText_append`), and writes in turn leave them where one write of all their characters
does (`viewport_run_writes`).

The pieces may be redrawn at other moments than the whole text is, and each may be drawn
without a redraw where the whole text is not.  But the page they are written on is the same
(`LogicalPage.run_writes`), and as long as nothing is lost the screen shows that page
(`Console.depicts_created`), so two consoles that depict one page through one window look
alike (`Depicts.same_screen`).
-/

namespace GlyphConsole

set_option autoImplicit false

open Console (Action movedAfter)

/-! ## Joined texts -/

/-- The tabs of texts that are joined are expanded text by text. -/
theorem toList_expandTabs_join (width : Nat) (texts : List String) :
    (expandTabs width (String.join texts)).toList =
      texts.flatMap fun text => (expandTabs width text).toList := by
  simp only [expandTabs, String.toList_ofList, String.toList_join, List.flatMap_assoc]

theorem expandTabs_join (width : Nat) (texts : List String) :
    expandTabs width (String.join texts) = String.join (texts.map (expandTabs width)) := by
  apply String.toList_injective
  rw [toList_expandTabs_join, String.toList_join, List.flatMap_map]

/-- Expanding tabs brings no backspace. -/
theorem forward_expandTabs {text : String} (forward : '\x08' ∉ text.toList) (width : Nat) :
    '\x08' ∉ (expandTabs width text).toList := by
  rw [expandTabs, String.toList_ofList, List.mem_flatMap]
  rintro ⟨c, member, written⟩
  split at written
  · exact absurd (List.eq_of_mem_replicate written) (by decide)
  · rw [List.mem_singleton] at written
    exact forward (written ▸ member)

theorem forward_join {texts : List String} (forward : ∀ text ∈ texts, '\x08' ∉ text.toList) :
    '\x08' ∉ (String.join texts).toList := by
  rw [String.toList_join, List.mem_flatMap]
  rintro ⟨text, member, back⟩
  exact forward text member back

namespace Viewport

variable {v : Viewport}

/-! ## Forward -/

/-- Only a backspace takes the cursor up. -/
theorem row_step_le {c : Char} (forward : c ≠ '\x08') : v.cursor.row ≤ (v.step c).cursor.row := by
  rcases Pen.char_cases c with rfl | rfl | rfl | glyph
  · exact Int.le_add_of_nonneg_right (by decide)
  · exact Int.le_refl _
  · exact absurd rfl forward
  · rw [step_of_isGlyph glyph, cursor_advance]
    split
    · exact Int.le_add_of_nonneg_right (by decide)
    · exact Int.le_refl _

theorem row_steps_le {cs : List Char} (forward : '\x08' ∉ cs) :
    v.cursor.row ≤ (v.steps cs).cursor.row := by
  induction cs generalizing v with
  | nil => exact Int.le_refl _
  | cons c rest ih =>
      simp only [List.mem_cons, not_or] at forward
      obtain ⟨first, later⟩ := forward
      exact Int.le_trans (row_step_le (Ne.symm first)) (ih later)

/-- Viewports that look from one place with their cursors in one place are the same. -/
theorem Placed.eq_of_same {w : Viewport} (placed : v.Placed w) (offset : v.offset = w.offset)
    (visible : v.visible = w.visible) : v = w := by
  obtain ⟨_, _, _, _⟩ := v
  obtain ⟨_, _, _, _⟩ := w
  cases placed.grid_eq
  cases placed.cursor_eq
  cases offset
  cases visible
  rfl

/-- Where a write of these characters takes the cursor and the window. -/
def afterText (v : Viewport) (cs : List Char) : Viewport := ((v.steps cs).showCursor true).follow

@[simp] theorem grid_afterText (v : Viewport) (cs : List Char) :
    (v.afterText cs).grid = v.grid := grid_steps v cs

theorem offset_afterText (v : Viewport) (cs : List Char) :
    (v.afterText cs).offset =
      max (min v.offset (v.bottom - (v.steps cs).cursor.row)) (-(v.steps cs).cursor.row) := by
  rw [afterText, offset_follow, offset_showCursor, offset_steps, bottom, bottom,
    grid_showCursor, grid_steps]
  rfl

theorem placed_afterText (v : Viewport) (cs : List Char) :
    (v.afterText cs).Placed (v.steps cs) := ⟨rfl, rfl⟩

/-- **Following the cursor piece by piece is following it once.** -/
theorem afterText_append (regular : v.Regular) {first second : List Char}
    (forward : '\x08' ∉ first ++ second) :
    (v.afterText first).afterText second = v.afterText (first ++ second) := by
  simp only [List.mem_append, not_or] at forward
  obtain ⟨forwardFirst, forwardSecond⟩ := forward
  have cursor : ((v.afterText first).steps second).cursor = (v.steps (first ++ second)).cursor := by
    rw [steps_append]
    exact ((v.placed_afterText first).steps second).cursor_eq
  have placed : ((v.afterText first).afterText second).Placed (v.afterText (first ++ second)) :=
    ⟨by simp only [grid_afterText], cursor⟩
  refine placed.eq_of_same ?_ rfl
  -- The rows only grow, so where the window is after the first piece decides nothing.
  have onward : v.cursor.row ≤ (v.steps first).cursor.row := row_steps_le forwardFirst
  have further : (v.steps first).cursor.row ≤ (v.steps (first ++ second)).cursor.row := by
    rw [steps_append]
    exact row_steps_le forwardSecond
  have above := regular.not_above
  rw [offset_afterText, cursor, offset_afterText, offset_afterText, bottom, bottom,
    grid_afterText]
  omega

end Viewport

/-! ## Writes in turn -/

namespace Console

/-- The characters of writes in turn are those of the joined text. -/
theorem chars_map_write {α : Type} (config : ConsoleConfig) (pieces : List α) (text : α → String)
    (color : α → Color) :
    (pieces.map fun piece => Action.write (text piece) (color piece)).flatMap
        (Action.chars config) =
      (expandTabs config.tabWidth (String.join (pieces.map text))).toList := by
  rw [toList_expandTabs_join, List.flatMap_map, List.flatMap_map]
  rfl

theorem writes_of_mem_map {α : Type} {pieces : List α} {text : α → String} {color : α → Color}
    {action : Action}
    (member : action ∈ pieces.map fun piece => Action.write (text piece) (color piece)) :
    action.Writes := by
  obtain ⟨piece, -, rfl⟩ := List.mem_map.1 member
  trivial

/-- Write texts one after the other. -/
def writeAll (color : Color) (texts : List String) : List Action :=
  texts.map fun text => .write text color

@[simp] theorem writeAll_cons (color : Color) (text : String) (rest : List String) :
    writeAll color (text :: rest) = .write text color :: writeAll color rest := rfl

theorem writeAll_ne_nil {color : Color} {texts : List String} (some : texts ≠ []) :
    writeAll color texts ≠ [] :=
  mt List.map_eq_nil_iff.1 some

theorem writes_of_mem_writeAll {color : Color} {texts : List String} {action : Action}
    (member : action ∈ writeAll color texts) : action.Writes := writes_of_mem_map member

theorem chars_writeAll (config : ConsoleConfig) (color : Color) (texts : List String) :
    (writeAll color texts).flatMap (Action.chars config) =
      (expandTabs config.tabWidth (String.join texts)).toList := by
  have written := chars_map_write config texts id fun _ => color
  rw [List.map_id] at written
  exact written

end Console

/-! ## The page -/

namespace LogicalPage

theorem text_append (page : LogicalPage) (color : Color) (first second : List Char) :
    page.text color (first ++ second) = (page.text color first).text color second :=
  List.foldl_append

/-- Texts in turn make the page that they make joined. -/
theorem run_writeAll (page : LogicalPage) (config : ConsoleConfig) (color : Color)
    (texts : List String) :
    page.run config (Console.writeAll color texts) =
      page.text color (expandTabs config.tabWidth (String.join texts)).toList := by
  rw [toList_expandTabs_join]
  induction texts generalizing page with
  | nil => rfl
  | cons text rest ih =>
      rw [Console.writeAll_cons, run_cons, act_write, ih, List.flatMap_cons, text_append]

end LogicalPage

namespace Console

variable {con other : Console}

/-! ## The cursor and the window -/

theorem viewport_act_of_writes (usable : con.viewport.grid.Usable) {action : Action}
    (writes : action.Writes) :
    (con.act action).1.1.viewport = con.viewport.afterText (action.chars con.config) := by
  rw [viewport_act usable]
  cases action with
  | write text color => rfl
  | backspace => rfl
  | redraw | scrollNewer | scrollOlder | clear | moveBy columns rows | toggle pending =>
      exact writes.elim

/-- Writes in turn leave the cursor and the window where one write of all their characters
does. -/
theorem viewport_run_writes (regular : con.viewport.Regular) {actions : List Action}
    (some : actions ≠ []) (writes : ∀ action ∈ actions, action.Writes)
    (forward : '\x08' ∉ actions.flatMap (Action.chars con.config)) :
    (con.run actions).1.viewport =
      con.viewport.afterText (actions.flatMap (Action.chars con.config)) := by
  induction actions generalizing con with
  | nil => exact absurd rfl some
  | cons action rest ih =>
      have first := viewport_act_of_writes regular.usable (writes action List.mem_cons_self)
      cases rest with
      | nil =>
          rw [List.flatMap_singleton]
          exact first
      | cons next later =>
          have forwardLater := forward
          rw [List.flatMap_cons, List.mem_append, not_or] at forwardLater
          have onward := ih (regular_act regular action) (List.cons_ne_nil _ _)
            (fun one member => writes one (List.mem_cons_of_mem _ member))
            (by rw [config_act]; exact forwardLater.2)
          rw [config_act, first] at onward
          show ((con.act action).1.1.run (next :: later)).1.viewport = _
          rw [onward, List.flatMap_cons]
          exact Viewport.afterText_append regular forward

/-! ## The history -/

theorem lostBy_append (con : Console) (lost : List Span) (first second : List Action) :
    con.lostBy lost (first ++ second) =
      (con.run first).1.lostBy (con.lostBy lost first) second := by
  induction first generalizing con lost with
  | nil => rfl
  | cons action rest ih => exact ih _ _

/-- Texts that are written without losing anything leave one span each, and nothing was lost
before them. -/
theorem spans_run_writeAll {lost : List Span} {color : Color} {texts : List String}
    (whole : con.lostBy lost (writeAll color texts) = []) :
    lost = [] ∧ ∃ spans,
      (con.run (writeAll color texts)).1.history.spans = con.history.spans ++ spans ∧
      spans.map Span.text = texts.map (expandTabs con.config.tabWidth) := by
  induction texts generalizing con lost with
  | nil => exact ⟨whole, [], (List.append_nil _).symm, rfl⟩
  | cons text rest ih =>
      obtain ⟨wholeBefore, spans, later, texts⟩ := ih whole
      obtain ⟨nothing, room⟩ := List.append_eq_nil_iff.1 wholeBefore
      refine ⟨nothing, con.spanFor text color :: spans, ?_, ?_⟩
      · rw [writeAll_cons, run_cons]
        dsimp only
        rw [later, history_act, historyAfter, spans_kept_of_none room, List.append_assoc]
        rfl
      · rw [List.map_cons, texts, config_act]
        rfl

/-- Whether a write drops a span does not depend on its text, so one write drops none where
many do not. -/
theorem lostAfter_of_writeAll {lost : List Span} {color : Color} {texts : List String}
    (some : texts ≠ []) (whole : con.lostBy lost (writeAll color texts) = []) (text : String) :
    con.lostAfter lost (.write text color) = [] := by
  cases texts with
  | nil => exact absurd rfl some
  | cons first rest =>
      have later : (con.act (.write first color)).1.1.lostBy
          (con.lostAfter lost (.write first color)) (writeAll color rest) = [] := whole
      have wholeFirst := (spans_run_writeAll later).1
      obtain ⟨nothing, room⟩ := List.append_eq_nil_iff.1 wholeFirst
      refine List.append_eq_nil_iff.2 ⟨nothing, ?_⟩
      rw [Option.toList_eq_nil_iff, ← Option.not_isSome_iff_eq_none,
        Scrollback.isSome_evicted_iff] at room ⊢
      exact room

/-! ## The screen -/

/-- Consoles that depict one page through one window look alike. -/
theorem Depicts.same_screen {picture picture' : Picture} {page : LogicalPage}
    (depicts : con.Depicts page []) (depicts' : other.Depicts page [])
    (displays : con.Displays picture false) (displays' : other.Displays picture' false)
    (config : con.config = other.config) (viewport : con.viewport = other.viewport) (c : Cell) :
    picture.get? c = picture'.get? c := by
  by_cases inside : con.viewport.grid.Contains c
  · have inside' : other.viewport.grid.Contains c := viewport ▸ inside
    have glyphs : con.pen.glyphAt? c = other.pen.glyphAt? c := by
      rw [(depicts.views rfl).shows c inside, (depicts'.views rfl).shows c inside']
      show page.through con.viewport.offset c = page.through other.viewport.offset c
      rw [viewport]
    have same : con.pen.seen con.pen.cursorLit c = other.pen.seen other.pen.cursorLit c := by
      have lit : con.pen.cursorLit = other.pen.cursorLit := by
        unfold Pen.cursorLit pen
        rw [viewport]
      have choices : con.pen.config = other.pen.config := config
      rw [Pen.seen, Pen.seen, Pen.standing, Pen.standing, lit, glyphs, choices]
    have shown := displays.shows c inside
    have shown' := displays'.shows c inside'
    simp only [Bool.false_eq_true, if_false] at shown shown'
    exact shown.trans ((congrArg Option.some same).trans shown'.symm)
  · have off : ¬(picture.get? c).isSome = true := by
      rw [Cells.isSome_get?, displays.sized]
      exact inside
    have off' : ¬(picture'.get? c).isSome = true := by
      rw [Cells.isSome_get?, displays'.sized]
      show ¬other.viewport.grid.Contains c
      rw [← viewport]
      exact inside
    rw [Option.not_isSome_iff_eq_none.1 off, Option.not_isSome_iff_eq_none.1 off']

/-- Whatever writes draws the cursor as well. -/
theorem bareAfter_of_writes {bare : Bool} {actions : List Action} (some : actions ≠ [])
    (writes : ∀ action ∈ actions, action.Writes) : bareAfter bare actions = false := by
  induction actions generalizing bare with
  | nil => exact absurd rfl some
  | cons action rest ih =>
      have drawn : action.bares bare = false := by
        have first := writes action List.mem_cons_self
        cases action with
        | write text color => rfl
        | backspace => rfl
        | redraw | scrollNewer | scrollOlder | clear | moveBy columns rows | toggle pending =>
            exact first.elim
      show bareAfter (action.bares bare) rest = false
      cases rest with
      | nil => exact drawn
      | cons next later =>
          exact ih (List.cons_ne_nil _ _)
            fun one member => writes one (List.mem_cons_of_mem _ member)

/-- Texts without backspaces leave the cursor and the window where they do joined. -/
theorem viewport_run_writeAll (regular : con.viewport.Regular) (color : Color)
    {texts : List String} (some : texts ≠ []) (forward : ∀ text ∈ texts, '\x08' ∉ text.toList) :
    (con.run (writeAll color texts)).1.viewport =
      con.viewport.afterText
        (expandTabs con.config.tabWidth (String.join texts)).toList := by
  have chars := chars_writeAll con.config color texts
  rw [← chars]
  refine viewport_run_writes regular (writeAll_ne_nil some)
    (fun _ => writes_of_mem_writeAll) ?_
  rw [chars]
  exact forward_expandTabs (forward_join forward) con.config.tabWidth

/-- Texts that are written behind operations without a move since the last clear, and without
losses, are on the page joined, and the screen shows that page and the cursor. -/
theorem depicts_writeAll {surface cell : Extent} {config : ConsoleConfig} {out : Output}
    {picture : Picture} (created : create surface cell config = .ok (con, out))
    (sized : picture.grid = con.grid) {actions : List Action}
    (unmoved : movedAfter false actions = false) (color : Color) {texts : List String}
    (some : texts ≠ []) (whole : con.lostBy [] (actions ++ writeAll color texts) = []) :
    (con.run (actions ++ writeAll color texts)).1.Depicts
        ((LogicalPage.run { columns := con.grid.columns } config actions).text color
          (expandTabs config.tabWidth (String.join texts)).toList) [] ∧
      (con.run (actions ++ writeAll color texts)).1.Displays
        ((picture.run out.draws).run (con.run (actions ++ writeAll color texts)).2.draws)
        false := by
  have still : movedAfter false (actions ++ writeAll color texts) = false := by
    refine movedAfter_append unmoved fun columns rows member => ?_
    exact writes_of_mem_writeAll member
  have depicts := depicts_created created sized (actions ++ writeAll color texts) still
  rw [whole, LogicalPage.run_append, LogicalPage.run_writeAll] at depicts
  obtain ⟨-, -, displays⟩ := displays_created created sized (actions ++ writeAll color texts)
  have lit : bareAfter false (actions ++ writeAll color texts) = false := by
    rw [bareAfter, List.foldl_append]
    exact bareAfter_of_writes (writeAll_ne_nil some)
      fun _ => writes_of_mem_writeAll
  rw [lit] at displays
  exact ⟨depicts, displays⟩

/-- **Output does not depend on how it is cut into writes.**  After any operations without a
move since the last clear, scrolled back or not, texts without backspaces that are written one
after the other leave the cursor and the window where one write of them all does, with the
cursor to be seen.  If no span has been lost since the last clear, then none is lost by
writing them at once either, both consoles show the same in every cell, and the new spans of
the one hold, joined, the text of the new span of the other. -/
theorem writes_as_one {surface cell : Extent} {config : ConsoleConfig} {out : Output}
    {picture : Picture} (created : create surface cell config = .ok (con, out))
    (sized : picture.grid = con.grid) (actions : List Action)
    (unmoved : movedAfter false actions = false) (color : Color) {texts : List String}
    (some : texts ≠ []) (forward : ∀ text ∈ texts, '\x08' ∉ text.toList) :
    let pieces := actions ++ writeAll color texts
    let joined := actions ++ [.write (String.join texts) color]
    let apart := con.run pieces
    let whole := con.run joined
    apart.1.cursor = whole.1.cursor ∧
    apart.1.viewport.offset = whole.1.viewport.offset ∧
    apart.1.viewport.visible = true ∧ whole.1.viewport.visible = true ∧
    (con.lostBy [] pieces = [] →
      con.lostBy [] joined = [] ∧
      (∀ c, ((picture.run out.draws).run apart.2.draws).get? c =
        ((picture.run out.draws).run whole.2.draws).get? c) ∧
      ∃ spans span,
        apart.1.history.spans = (con.run actions).1.history.spans ++ spans ∧
        whole.1.history.spans = (con.run actions).1.history.spans ++ [span] ∧
        spans.map Span.text = texts.map (expandTabs config.tabWidth) ∧
        span.text = expandTabs config.tabWidth (String.join texts) ∧
        String.join (spans.map Span.text) = span.text) := by
  intro pieces joined apart whole
  obtain ⟨-, configNow, -⟩ := displays_created created sized actions
  have regular := regular_run (regular_of_create created) actions
  -- The whole is one text, and is what its only piece is joined.
  have once : joined = actions ++ writeAll color [String.join texts] := rfl
  have same : String.join [String.join texts] = String.join texts := by simp
  have forwardOnce : ∀ text ∈ [String.join texts], '\x08' ∉ text.toList := by
    intro text member
    rw [List.mem_singleton.1 member]
    exact forward_join forward
  have atOnce :=
    viewport_run_writeAll regular color (List.cons_ne_nil (String.join texts) []) forwardOnce
  have viewport : apart.1.viewport = whole.1.viewport := by
    rw [same, ← viewport_run_writeAll regular color some forward] at atOnce
    simp only [apart, whole, pieces, once, run_append]
    exact atOnce.symm
  have seen : whole.1.viewport.visible = true := by
    simp only [whole, once, run_append]
    rw [atOnce]
    rfl
  refine ⟨congrArg Viewport.cursor viewport, congrArg Viewport.offset viewport,
    viewport ▸ seen, seen, fun wholeApart => ?_⟩
  have lostApart : (con.run actions).1.lostBy (con.lostBy [] actions)
      (writeAll color texts) = [] := by
    rw [← lostBy_append]
    exact wholeApart
  have lostOnce : (con.run actions).1.lostBy (con.lostBy [] actions)
      (writeAll color [String.join texts]) = [] :=
    lostAfter_of_writeAll some lostApart _
  have wholeOnce : con.lostBy [] joined = [] := by
    rw [once, lostBy_append]
    exact lostOnce
  refine ⟨wholeOnce, ?_, ?_⟩
  · obtain ⟨depicts, displays⟩ := depicts_writeAll created sized unmoved color some wholeApart
    obtain ⟨depictsOnce, displaysOnce⟩ :=
      depicts_writeAll created sized unmoved color (List.cons_ne_nil (String.join texts) [])
        wholeOnce
    rw [same] at depictsOnce
    have config : apart.1.config = whole.1.config := by
      rw [config_run, config_run]
    exact depicts.same_screen depictsOnce displays displaysOnce config viewport
  · obtain ⟨-, spans, kept, texts_eq⟩ := spans_run_writeAll lostApart
    obtain ⟨-, spansOnce, keptOnce, textsOnce⟩ := spans_run_writeAll lostOnce
    obtain ⟨span, rfl, text_eq⟩ := List.map_eq_singleton_iff.1 textsOnce
    rw [configNow] at texts_eq text_eq
    simp only [apart, whole, pieces, once, run_append]
    refine ⟨spans, span, kept, keptOnce, texts_eq, text_eq, ?_⟩
    rw [texts_eq, text_eq, expandTabs_join]

/-- On three columns and two rows, scrolled back, two pieces of which the second wraps and
goes to the next row. -/
theorem writes_as_one_small :
    create ⟨24, 32⟩ ⟨8, 16⟩ {} = .ok (start ⟨3, 2⟩ {}) ∧
      (Picture.blank ⟨3, 2⟩).grid = (start ⟨3, 2⟩ {}).1.grid ∧
      movedAfter false [.write "ab\ncd" .pureRed, .scrollOlder] = false ∧
      ["e", "fg\n\rh"] ≠ [] ∧ (∀ text ∈ ["e", "fg\n\rh"], '\x08' ∉ text.toList) ∧
      (start ⟨3, 2⟩ {}).1.lostBy [] ([.write "ab\ncd" .pureRed, .scrollOlder] ++
        writeAll .white ["e", "fg\n\rh"]) = [] ∧
      ∀ c, (((Picture.blank ⟨3, 2⟩).run (start ⟨3, 2⟩ {}).2.draws).run
          ((start ⟨3, 2⟩ {}).1.run ([.write "ab\ncd" .pureRed, .scrollOlder] ++
            writeAll .white ["e", "fg\n\rh"])).2.draws).get? c =
        (((Picture.blank ⟨3, 2⟩).run (start ⟨3, 2⟩ {}).2.draws).run
          ((start ⟨3, 2⟩ {}).1.run ([.write "ab\ncd" .pureRed, .scrollOlder] ++
            [.write (String.join ["e", "fg\n\rh"]) .white])).2.draws).get? c := by
  have created : create ⟨24, 32⟩ ⟨8, 16⟩ {} =
      .ok ((start ⟨3, 2⟩ {}).1, (start ⟨3, 2⟩ {}).2) := rfl
  have sized : (Picture.blank ⟨3, 2⟩).grid = (start ⟨3, 2⟩ {}).1.grid := rfl
  have unmoved : movedAfter false [.write "ab\ncd" .pureRed, .scrollOlder] = false := rfl
  have some : ["e", "fg\n\rh"] ≠ [] := List.cons_ne_nil _ _
  have forward : ∀ text ∈ ["e", "fg\n\rh"], '\x08' ∉ text.toList := by decide
  have whole : (start ⟨3, 2⟩ {}).1.lostBy [] ([.write "ab\ncd" .pureRed, .scrollOlder] ++
      writeAll .white ["e", "fg\n\rh"]) = [] := by decide +kernel
  obtain ⟨-, -, -, -, same⟩ := writes_as_one created sized _ unmoved .white some forward
  exact ⟨created, sized, unmoved, some, forward, whole, (same whole).2.1⟩

end Console

end GlyphConsole
