import Mathlib.Data.List.TakeWhile
import GlyphConsole.Proofs.Cutting
import GlyphConsole.Proofs.InputAlone

/-!
# GlyphConsole.Proofs.WholeLines — output that ends its lines

A text of `WholeLines` has no backspace and ends as a line of the console does, by moving down
and then to the left edge.  Wherever it is written, however it wraps and scrolls, it leaves the
cursor in the first column of a row further down that it has not touched
(`Viewport.steps_of_wholeLines`).

Every page that a command prints is one, whatever is in it, as long as nothing that was typed
and no text of the processor has a backspace (`Shell.wholeLines_printed`); so is the message
about every line in error.  Hence running a line, unless it is blank or clears the screen, ends
two rows below at least (`Shell.lands_runs`).
-/

namespace GlyphConsole

set_option autoImplicit false

open Console (Action)
open Machine (Processor)

/-! ## Texts -/

namespace Text

/-- A text that only goes forward and ends its last line. -/
structure WholeLines (cs : List Char) : Prop where
  forward : '\x08' ∉ cs
  ends : ['\n', '\r'] <:+ cs

instance (cs : List Char) : Decidable (WholeLines cs) :=
  decidable_of_iff ('\x08' ∉ cs ∧ ['\n', '\r'] <:+ cs)
    ⟨fun both => ⟨both.1, both.2⟩, fun whole => ⟨whole.forward, whole.ends⟩⟩

variable {cs front : List Char}

theorem WholeLines.prepend (whole : WholeLines cs) (forward : '\x08' ∉ front) :
    WholeLines (front ++ cs) := by
  refine ⟨?_, whole.ends.trans (List.suffix_append _ _)⟩
  rw [List.mem_append, not_or]
  exact ⟨forward, whole.forward⟩

/-- Expanding the tabs of whole lines leaves them whole. -/
theorem WholeLines.expandTabs {text : String} (whole : WholeLines text.toList) (width : Nat) :
    WholeLines (expandTabs width text).toList := by
  refine ⟨forward_expandTabs whole.forward width, ?_⟩
  obtain ⟨body, split⟩ := whole.ends
  rw [GlyphConsole.expandTabs, String.toList_ofList, ← split, List.flatMap_append]
  exact List.suffix_append _ _

theorem wholeLines_line {text : String} (forward : '\x08' ∉ text.toList) :
    WholeLines (text ++ Page.lineEnd).toList := by
  have ending : WholeLines Page.lineEnd.toList := by decide
  rw [String.toList_append]
  exact ending.prepend forward

theorem WholeLines.append {first second : String} (whole : WholeLines second.toList)
    (forward : '\x08' ∉ first.toList) : WholeLines (first ++ second).toList := by
  rw [String.toList_append]
  exact whole.prepend forward

/-- Whole lines one after the other, if there are any. -/
theorem wholeLines_join {texts : List String} (some : texts ≠ [])
    (whole : ∀ text ∈ texts, WholeLines text.toList) : WholeLines (String.join texts).toList := by
  induction texts with
  | nil => exact absurd rfl some
  | cons text rest ih =>
      have first := whole text List.mem_cons_self
      rw [String.join_cons]
      cases rest with
      | nil => simpa using first
      | cons next others =>
          exact (ih (List.cons_ne_nil _ _) fun one member =>
            whole one (List.mem_cons_of_mem _ member)).append first.forward

/-- A line of which nothing is left is blank. -/
theorem trim_eq_nil_iff : trim cs = [] ↔ ∀ c ∈ cs, isBlank c = true := by
  have front : (∀ c ∈ cs.dropWhile isBlank, isBlank c = true) ↔ ∀ c ∈ cs, isBlank c = true := by
    constructor
    · intro blank
      rw [← List.takeWhile_append_dropWhile (p := isBlank) (l := cs)]
      intro c member
      rcases List.mem_append.1 member with taken | left
      · exact List.mem_takeWhile_imp taken
      · exact blank c left
    · intro blank c member
      exact blank c ((List.dropWhile_suffix _).subset member)
  rw [trim, List.reverse_eq_nil_iff, List.dropWhile_eq_nil_iff, ← front]
  simp only [List.mem_reverse]

/-- A numeral is made of digits. -/
theorem forward_toDigits (n : Nat) : '\x08' ∉ Nat.toDigits 10 n := by
  intro back
  have digit := Nat.isDigit_of_mem_toDigits (by decide) (by decide) back
  exact absurd digit (by decide)

theorem forward_toString (b : Bool) : '\x08' ∉ (toString b).toList := by cases b <;> decide

end Text

/-! ## Where whole lines end -/

namespace Viewport

variable {v : Viewport}

theorem trail_append (v : Viewport) (first second : List Char) :
    v.trail (first ++ second) = v.trail first ++ (v.steps first).trail second := by
  induction first generalizing v with
  | nil => rfl
  | cons c rest ih =>
      rw [List.cons_append, trail, ih, trail, List.append_assoc]
      rfl

/-- A text that goes forward stays between the rows where it begins and where it ends. -/
theorem row_of_mem_trail {cs : List Char} (forward : '\x08' ∉ cs) {q : Position}
    (member : q ∈ v.trail cs) : v.cursor.row ≤ q.row ∧ q.row ≤ (v.steps cs).cursor.row := by
  induction cs generalizing v with
  | nil => cases member
  | cons c rest ih =>
      have down : v.cursor.row ≤ (v.steps (c :: rest)).cursor.row := row_steps_le forward
      simp only [List.mem_cons, not_or] at forward
      obtain ⟨first, later⟩ := forward
      rw [trail, List.mem_append, Option.mem_toList] at member
      rcases member with here | further
      · have place : q = v.cursor := by
          rcases Pen.char_cases c with rfl | rfl | rfl | glyph
          · cases here
          · cases here
          · exact absurd rfl first
          · rw [target?_of_isGlyph glyph] at here
            exact (Option.some.inj here).symm
        rw [place]
        exact ⟨Int.le_refl _, down⟩
      · obtain ⟨above, below⟩ := ih later further
        exact ⟨Int.le_trans (row_step_le (Ne.symm first)) above, below⟩

/-- **Whole lines end at the left edge of a row below, which they have not touched.** -/
theorem steps_of_wholeLines {cs : List Char} (whole : Text.WholeLines cs) (v : Viewport) :
    (v.steps cs).cursor.column = 0 ∧ v.cursor.row < (v.steps cs).cursor.row ∧
      ∀ q ∈ v.trail cs, q.row < (v.steps cs).cursor.row := by
  obtain ⟨forward, body, rfl⟩ := whole
  simp only [List.mem_append, not_or] at forward
  have ended : (v.steps (body ++ ['\n', '\r'])).cursor = ⟨0, (v.steps body).cursor.row + 1⟩ := by
    rw [steps_append]
    rfl
  have touched : v.trail (body ++ ['\n', '\r']) = v.trail body := by
    rw [trail_append]
    exact List.append_nil _
  have down : v.cursor.row ≤ (v.steps body).cursor.row := row_steps_le forward.1
  rw [ended, touched]
  refine ⟨rfl, Int.lt_add_one_of_le down, fun q member => ?_⟩
  exact Int.lt_add_one_of_le (row_of_mem_trail forward.1 member).2

end Viewport

/-! ## Fragments -/

/-- The text of fragments without their colors. -/
def Fragment.plain (fragments : List Fragment) : String :=
  String.join (fragments.map Fragment.text)

theorem Fragment.writes_of_mem {fragments : List Fragment} {action : Action}
    (member : action ∈ fragments.map Fragment.write) : action.Writes :=
  Console.writes_of_mem_map member

theorem Fragment.chars (config : ConsoleConfig) (fragments : List Fragment) :
    (fragments.map Fragment.write).flatMap (Action.chars config) =
      (expandTabs config.tabWidth (plain fragments)).toList :=
  Console.chars_map_write config fragments Fragment.text Fragment.color

theorem Fragment.plain_append (first second : List Fragment) :
    plain (first ++ second) = plain first ++ plain second := by
  rw [plain, List.map_append, String.join_append, plain, plain]

/-! ## Where operations end -/

namespace Console

variable {con : Console}

/-- The cells of the page that operations in turn put something into. -/
def touched (con : Console) : List Action → List Position
  | [] => []
  | action :: rest =>
      con.viewport.trail (action.chars con.config) ++ (con.act action).1.1.touched rest

/-- Writes in turn touch what one write of all their characters does. -/
theorem touched_of_writes (regular : con.viewport.Regular) {actions : List Action}
    (writes : ∀ action ∈ actions, action.Writes) :
    con.touched actions = con.viewport.trail (actions.flatMap (Action.chars con.config)) := by
  induction actions generalizing con with
  | nil => rfl
  | cons action rest ih =>
      have placed : (con.act action).1.1.viewport.Placed
          (con.viewport.steps (action.chars con.config)) := by
        rw [viewport_act_of_writes regular.usable (writes action List.mem_cons_self)]
        exact con.viewport.placed_afterText _
      have later := ih (regular_act regular action) fun one member =>
        writes one (List.mem_cons_of_mem _ member)
      rw [touched, later, config_act, placed.trail, List.flatMap_cons, Viewport.trail_append]

theorem touched_append (con : Console) (first second : List Action) :
    con.touched (first ++ second) = con.touched first ++ (con.run first).1.touched second := by
  induction first generalizing con with
  | nil => rfl
  | cons action rest ih =>
      rw [List.cons_append, touched, ih, touched, List.append_assoc]
      rfl

/-- Writes without backspaces touch nothing above the row where they begin. -/
theorem row_le_of_mem_touched (regular : con.viewport.Regular) {actions : List Action}
    (writes : ∀ action ∈ actions, action.Writes)
    (forward : '\x08' ∉ actions.flatMap (Action.chars con.config)) {q : Position}
    (member : q ∈ con.touched actions) : con.cursor.row ≤ q.row := by
  rw [touched_of_writes regular writes] at member
  exact (Viewport.row_of_mem_trail forward member).1

theorem chars_lineEnd (config : ConsoleConfig) (color : Color) :
    Action.chars config (.write Page.lineEnd color) = ['\n', '\r'] := by
  simp [Action.chars, expandTabs, Page.lineEnd]

/-- A line end by itself leads to the next row. -/
theorem cursor_act_lineEnd (regular : con.viewport.Regular) (color : Color) :
    (con.act (.write Page.lineEnd color)).1.1.cursor = ⟨0, con.cursor.row + 1⟩ := by
  have writes : Action.Writes (.write Page.lineEnd color) := trivial
  rw [cursor, viewport_act_of_writes regular.usable writes, chars_lineEnd]
  rfl

/-- What is written behind a line end is below. -/
theorem row_lt_of_mem_touched (regular : con.viewport.Regular) {color : Color}
    {actions : List Action} (writes : ∀ action ∈ actions, action.Writes)
    (forward : '\x08' ∉ actions.flatMap (Action.chars con.config)) {q : Position}
    (member : q ∈ con.touched (.write Page.lineEnd color :: actions)) :
    con.cursor.row < q.row := by
  have behind : q ∈ (con.act (.write Page.lineEnd color)).1.1.touched actions := by
    rw [touched, chars_lineEnd] at member
    exact member
  have below := row_le_of_mem_touched (regular_act regular _) writes
    (by rw [config_act]; exact forward) behind
  rw [cursor_act_lineEnd regular] at below
  exact Int.lt_of_add_one_le below

/-- The operations end at the left edge of a row below, which they have not touched. -/
structure Lands (con : Console) (actions : List Action) : Prop where
  column : (con.run actions).1.cursor.column = 0
  below : con.cursor.row < (con.run actions).1.cursor.row
  untouched : ∀ q ∈ con.touched actions, q.row < (con.run actions).1.cursor.row

theorem lands_of_wholeLines (regular : con.viewport.Regular)
    {fragments : List Fragment} (whole : Text.WholeLines (Fragment.plain fragments).toList) :
    con.Lands (fragments.map Fragment.write) := by
  have writes : ∀ action ∈ fragments.map Fragment.write, action.Writes :=
    fun _ => Fragment.writes_of_mem
  have some : fragments.map Fragment.write ≠ [] := by
    intro none
    obtain rfl := List.map_eq_nil_iff.1 none
    exact absurd whole (by decide)
  have chars := Fragment.chars con.config fragments
  have expanded := whole.expandTabs con.config.tabWidth
  have ended := viewport_run_writes regular some writes (by rw [chars]; exact expanded.forward)
  have touched := touched_of_writes regular writes
  rw [chars] at ended touched
  have cursor : (con.run (fragments.map Fragment.write)).1.cursor =
      (con.viewport.steps
        (expandTabs con.config.tabWidth (Fragment.plain fragments)).toList).cursor := by
    rw [cursor, ended]
    exact (con.viewport.placed_afterText _).cursor_eq
  obtain ⟨column, below, untouched⟩ := Viewport.steps_of_wholeLines expanded con.viewport
  constructor
  · rw [cursor]
    exact column
  · rw [cursor]
    exact below
  · rw [cursor, touched]
    exact untouched

theorem Lands.trans {first second : List Action}
    (lands : con.Lands first) (again : (con.run first).1.Lands second) :
    con.Lands (first ++ second) := by
  have ended : (con.run (first ++ second)).1 = ((con.run first).1.run second).1 := by
    rw [run_append]
  constructor
  · rw [ended]
    exact again.column
  · rw [ended]
    exact Int.lt_trans lands.below again.below
  · rw [ended, touched_append]
    intro q member
    rcases List.mem_append.1 member with earlier | later
    · exact Int.lt_trans (lands.untouched q earlier) again.below
    · exact again.untouched q later

end Console

/-! ## What is printed -/

open Text (WholeLines wholeLines_line wholeLines_join forward_toDigits forward_toString)

theorem MessageKind.wholeLines (kind : MessageKind) {message : String}
    (whole : WholeLines message.toList) :
    WholeLines (Fragment.plain (kind.fragments message)).toList := by
  have tag : '\x08' ∉ kind.tag.toList := by cases kind <;> decide
  have plain : Fragment.plain (kind.fragments message) =
      "[" ++ (kind.tag ++ ("] >> " ++ message)) := by
    simp [Fragment.plain, fragments]
  rw [plain]
  exact ((whole.append (by decide)).append tag).append (by decide)

/-- No text of the processor has a backspace. -/
structure Machine.Processor.Forward (p : Processor) : Prop where
  vendor : ∀ text, p.vendor = some text → '\x08' ∉ text.toList
  brand : ∀ text, p.brand = some text → '\x08' ∉ text.toList

namespace Page

theorem wholeLines_helpLine (command : Command) : WholeLines (helpLine command).toList := by
  apply wholeLines_line
  cases command <;> simp [Command.usage, Command.summary, Command.names, Text.padRight]

theorem wholeLines_help : WholeLines help.toList := by
  refine (wholeLines_join (by simp [Command.all]) ?_).append (wholeLines_line (by simp)).forward
  intro line member
  obtain ⟨command, -, rfl⟩ := List.mem_map.1 member
  exact wholeLines_helpLine command

theorem wholeLines_about : WholeLines (Fragment.plain about).toList := by
  have plain : Fragment.plain about = "[== ABOUT ==]" ++ lineEnd ++ (system ++ lineEnd) ++
      "Framebuffer console with scrollback. Built with Rust." ++ lineEnd := by
    simp [Fragment.plain, about, String.append_assoc]
  rw [plain]
  exact wholeLines_line (by simp [system, lineEnd])

theorem forward_processorLines {p : Processor} (forward : p.Forward) :
    ∀ line ∈ processorLines p, '\x08' ∉ line.toList := by
  intro line member
  rcases List.mem_append.1 member with known | featured
  · rcases List.mem_append.1 known with first | branded
    · simp only [List.mem_cons, List.not_mem_nil, or_false] at first
      rcases first with rfl | rfl
      · decide
      · unfold vendorLine
        split
        · rename_i vendor given
          simp [forward.vendor vendor given]
        · decide
    · obtain ⟨brand, given, rfl⟩ := List.mem_map.1 branded
      have plain : '\x08' ∉ Text.trim brand.toList := fun back =>
        forward.brand brand (Option.mem_toList.1 given) (Text.mem_of_mem_trim back)
      simp [brandLine, plain]
  · obtain ⟨f, -, either⟩ := List.mem_flatMap.1 featured
    simp only [List.mem_cons, List.not_mem_nil, or_false] at either
    rcases either with rfl | rfl
    · simp [modelLine, forward_toDigits]
    · unfold featuresLine
      simp [forward_toString]

theorem wholeLines_processor {p : Processor} (forward : p.Forward) :
    WholeLines (processor p).toList := by
  refine wholeLines_join (by simp [processorLines]) ?_
  intro text member
  obtain ⟨line, known, rfl⟩ := List.mem_map.1 member
  exact wholeLines_line (forward_processorLines forward line known)

/-- Every line of the page ends, so the page does if it has one. -/
theorem wholeLines_history {lines : List (List Char)} (some : lines ≠ [])
    (forward : ∀ line ∈ lines, '\x08' ∉ line) : WholeLines (history lines).toList := by
  refine wholeLines_join ?_ ?_
  · simpa using some
  · intro text member
    obtain ⟨entry, numbered, rfl⟩ := List.mem_map.1 member
    have line := forward _ (List.fst_mem_of_mem_zipIdx numbered)
    apply wholeLines_line
    simp [Text.padLeft, forward_toDigits, line]

theorem wholeLines_systemState (columns rows spans capacity commands most : Nat) :
    WholeLines (systemState columns rows spans capacity commands most).toList := by
  apply wholeLines_line
  simp [forward_toDigits, system, lineEnd]

theorem wholeLines_rebooting (seconds : UInt32) : WholeLines (rebooting seconds).toList := by
  apply wholeLines_line
  simp [forward_toDigits]

theorem wholeLines_shuttingDown (seconds : UInt32) :
    WholeLines (shuttingDown seconds).toList := by
  apply wholeLines_line
  simp [forward_toDigits]

theorem wholeLines_stillRunning : WholeLines stillRunning.toList := wholeLines_line (by simp)

theorem wholeLines_notOff : WholeLines notOff.toList := wholeLines_line (by simp)

end Page

/-- The word of the line that an error repeats. -/
def CommandError.name : CommandError → List Char
  | .unknown name | .argumentCount name .. | .notNumeric name => name
  | .tooManyWords _ => []

theorem CommandError.forward_message {e : CommandError} (forward : '\x08' ∉ e.name) :
    '\x08' ∉ e.message.toList := by
  unfold message
  cases e with
  | unknown word =>
      have unknown : '\x08' ∉ word := forward
      simp [unknown]
  | argumentCount word least most got =>
      have known : '\x08' ∉ word := forward
      simp [known, forward_toDigits]
  | notNumeric word =>
      have known : '\x08' ∉ word := forward
      simp [known]
  | tooManyWords most => simp [forward_toDigits]

namespace Order

/-- The words of the line that an order prints again. -/
def words : Order → List (List Char)
  | .echo words => words
  | _ => []

theorem words_ofCommand {name : List Char} {arguments : List (List Char)} {command : Command}
    {order : Order} (made : ofCommand name arguments command = .ok order) {word : List Char}
    (member : word ∈ order.words) : word ∈ arguments := by
  cases command with
  | echo =>
      cases made
      exact member
  | reboot =>
      obtain ⟨seconds, -, rfl⟩ := map_eq_ok_iff.1 made
      cases member
  | shutdown =>
      obtain ⟨seconds, -, rfl⟩ := map_eq_ok_iff.1 made
      cases member
  | help | about | clear | history | cpuInfo | sysInfo =>
      cases made
      cases member

/-- What an order prints again was on the line. -/
theorem mem_of_mem_words {line : List Char} {order : Order}
    (read : parse line = .ok (some order)) {word : List Char} (member : word ∈ order.words)
    {c : Char} (inWord : c ∈ word) : c ∈ line := by
  rcases parse_cases line with ⟨-, wrong⟩ | ⟨-, blank⟩ |
    ⟨name, arguments, words, -, ⟨-, wrong⟩ | ⟨command, -, made⟩⟩
  · cases wrong.symm.trans read
  · cases blank.symm.trans read
  · cases wrong.symm.trans read
  · obtain ⟨ordered, made, same⟩ := map_eq_ok_iff.1 (made.symm.trans read)
    cases same
    have given : word ∈ Text.words line := by
      rw [words]
      exact List.mem_cons_of_mem _ (words_ofCommand made member)
    exact Text.mem_of_mem_words given inWord

/-- What an error repeats was on the line. -/
theorem mem_of_mem_name {line : List Char} {e : CommandError} (read : parse line = .error e)
    {c : Char} (inName : c ∈ e.name) : c ∈ line := by
  have faulty := parse_eq_error_iff.1 read
  have first : ∀ name arguments, Text.words line = name :: arguments → c ∈ name → c ∈ line := by
    intro name arguments words member
    have given : name ∈ Text.words line := by
      rw [words]
      exact List.mem_cons_self
    exact Text.mem_of_mem_words given member
  generalize words : Text.words line = known at faulty
  cases faulty with
  | crowded more => cases inName
  | stranger few unknown => exact first _ _ words inName
  | declined few goes delays declines =>
      cases declines with
      | surplus more => exact first _ _ words inName
      | garbled unread => exact first _ _ words inName

/-- A line asks for nothing exactly if it is blank. -/
theorem parse_eq_none_iff {line : List Char} :
    parse line = .ok none ↔ Text.trim line = [] := by
  rw [Text.trim_eq_nil_iff, ← Text.words_eq_nil_iff]
  rcases parse_cases line with ⟨many, read⟩ | ⟨none, read⟩ |
    ⟨name, arguments, words, -, ⟨-, read⟩ | ⟨command, -, read⟩⟩
  · have some : Text.words line ≠ [] := List.ne_nil_of_length_pos (Nat.zero_lt_of_lt many)
    simp [read, some]
  · simp [read, none]
  · simp [read, words]
  · simp [read, words, map_eq_ok_iff]

end Order

/-! ## The shell -/

namespace Shell

variable {π : Type} {s : Shell π} {con : Console}

theorem wholeLines_print {text : String} (whole : WholeLines text.toList) (color : Color) :
    WholeLines (Fragment.plain [⟨text, color⟩]).toList := by
  simpa [Fragment.plain] using whole

/-- Carrying out an order other than to clear the screen prints whole lines, if there is a
console, a line is remembered, and no backspace is in what is remembered, in the order or in the
texts of the processor. -/
theorem wholeLines_printed (installed : s.display.console = some con)
    (processor : s.processor.Forward) {order : Order} (keeps : order ≠ .clear)
    (words : ∀ word ∈ order.words, '\x08' ∉ word)
    (remembered : s.history.lines ≠ []) (lines : ∀ line ∈ s.history.lines, '\x08' ∉ line) :
    WholeLines (Fragment.plain (s.printed order)).toList := by
  cases order with
  | help => exact wholeLines_print Page.wholeLines_help _
  | about => exact Page.wholeLines_about
  | clear => exact absurd rfl keeps
  | echo echoed =>
      refine wholeLines_print (wholeLines_line ?_) _
      rw [String.toList_ofList]
      intro back
      rcases Text.mem_of_mem_unwords back with space | ⟨word, member, inWord⟩
      · exact absurd space (by decide)
      · exact words word member inWord
  | history => exact wholeLines_print (Page.wholeLines_history remembered lines) _
  | cpuInfo => exact wholeLines_print (Page.wholeLines_processor processor) _
  | sysInfo =>
      have page : s.systemState = some (Page.systemState con.grid.columns con.grid.rows
          con.history.size con.history.capacity s.history.size CommandHistory.capacity) := by
        rw [systemState, Display.ask, installed]
        rfl
      simp only [printed, page]
      exact wholeLines_print (Page.wholeLines_systemState ..) _
  | reboot seconds =>
      have told := MessageKind.info.wholeLines (Page.wholeLines_rebooting seconds)
      have failed := MessageKind.error.wholeLines Page.wholeLines_stillRunning
      rw [printed, Fragment.plain_append]
      exact failed.append told.forward
  | shutdown seconds =>
      have told := MessageKind.info.wholeLines (Page.wholeLines_shuttingDown seconds)
      have failed := MessageKind.warning.wholeLines Page.wholeLines_notOff
      rw [printed, Fragment.plain_append]
      exact failed.append told.forward

theorem does_of_ne_clear {order : Order} (keeps : order ≠ .clear) :
    s.does order = (s.printed order).map Fragment.write := by
  cases order <;> first | rfl | exact absurd rfl keeps

/-- Running a line that is not blank and does not clear the screen is to go down to the next
row and to write whole lines there, if no backspace has been typed. -/
theorem runs_of_line (installed : s.display.console = some con)
    (processor : s.processor.Forward) {line : List Char} (nonblank : Text.trim line ≠ [])
    (keeps : Order.parse line ≠ .ok (some .clear)) (forward : '\x08' ∉ line)
    (lines : ∀ line ∈ s.history.lines, '\x08' ∉ line) :
    ∃ fragments, s.runs line = .write Page.lineEnd .white :: fragments.map Fragment.write ∧
      WholeLines (Fragment.plain fragments).toList := by
  unfold runs
  cases read : Order.parse line with
  | error e =>
      have name : '\x08' ∉ e.name := fun back => forward (Order.mem_of_mem_name read back)
      exact ⟨_, rfl, MessageKind.error.wholeLines
        (wholeLines_line (CommandError.forward_message name))⟩
  | ok order =>
      cases order with
      | none => exact absurd (Order.parse_eq_none_iff.1 read) nonblank
      | some order =>
          have other : order ≠ .clear := by
            rintro rfl
            exact keeps read
          refine ⟨_, congrArg _ (does_of_ne_clear other), ?_⟩
          have noted := s.works_noted line
          rw [← noted.processor] at processor
          refine wholeLines_printed (noted.console con installed) processor other ?_ ?_ ?_
          · intro word member back
            exact forward (Order.mem_of_mem_words read member back)
          · exact CommandHistory.remember_ne_nil _ _
          · intro remembered member
            rcases CommandHistory.mem_of_mem_remember member with before | rfl
            · exact lines remembered before
            · exact fun back => forward (Text.mem_of_mem_trim back)

/-- Running such a line ends at the left edge, two rows below at least. -/
theorem lands_runs (installed : s.display.console = some con) (regular : con.viewport.Regular)
    (processor : s.processor.Forward) {line : List Char} (nonblank : Text.trim line ≠ [])
    (keeps : Order.parse line ≠ .ok (some .clear)) (forward : '\x08' ∉ line)
    (lines : ∀ line ∈ s.history.lines, '\x08' ∉ line) :
    con.Lands (s.runs line) ∧ con.cursor.row + 2 ≤ (con.run (s.runs line)).1.cursor.row := by
  let below : Action := .write Page.lineEnd .white
  obtain ⟨fragments, runs, whole⟩ : ∃ fragments,
      s.runs line = [below] ++ fragments.map Fragment.write ∧
        WholeLines (Fragment.plain fragments).toList :=
    runs_of_line installed processor nonblank keeps forward lines
  have first : con.Lands [below] := by
    have ending : WholeLines (Fragment.plain [⟨Page.lineEnd, .white⟩]).toList := by decide
    exact Console.lands_of_wholeLines regular ending
  have second : (con.run [below]).1.Lands (fragments.map Fragment.write) :=
    Console.lands_of_wholeLines (Console.regular_run regular _) whole
  have ended : (con.run (s.runs line)).1 =
      ((con.run [below]).1.run (fragments.map Fragment.write)).1 := by
    rw [runs, Console.run_append]
  constructor
  · rw [runs]
    exact first.trans second
  · have down := first.below
    have further := second.below
    rw [ended]
    omega

end Shell

end GlyphConsole
