import GlyphConsole.Proofs.WholeLines

/-!
# GlyphConsole.Proofs.FreshPrompt — a prompt on a row of its own

Nothing reaches the line but typable characters, so no backspace is in the line or in what is
remembered, whatever happens to a terminal (`Terminal.typable_history`).  Hence entering a line
is to go down a row, to write whole lines unless the line is blank or clears the screen, and
then, if that took at least two rows, to leave the row free that the cursor came to.  Since
whole lines take one row at least, that is always so (`prompt_on_fresh_row`).
-/

namespace GlyphConsole

set_option autoImplicit false

open Console (Action)
open Machine (Notebook PowerUnit)

/-! ## What can be typed -/

theorem forward_of_typable {cs : List Char} (typable : ∀ c ∈ cs, isTypable c = true) :
    '\x08' ∉ cs := by
  intro back
  exact absurd (typable _ back) (by decide)

namespace Notes

variable {n : Notes}

/-- Only typable characters are in the line and in what is remembered. -/
structure Typable (n : Notes) : Prop where
  line : ∀ c ∈ n.line.chars, isTypable c = true
  history : ∀ remembered ∈ n.history.lines, ∀ c ∈ remembered, isTypable c = true

theorem typable_empty : ({} : Notes).Typable where
  line _ member := by cases member
  history _ member := by cases member

theorem Typable.type (typable : n.Typable) (c : Char) : (n.type c).Typable := by
  unfold Notes.type
  split
  · rename_i fits
    refine ⟨?_, typable.history⟩
    cases pushed : n.line.push? c with
    | none => exact typable.line
    | some longer =>
        intro d member
        rw [Option.getD_some, InputLine.chars_push? pushed, List.mem_append,
          List.mem_singleton] at member
        rcases member with before | rfl
        · exact typable.line d before
        · exact fits
  · exact typable

theorem Typable.erase (typable : n.Typable) : n.erase.Typable := by
  refine ⟨?_, typable.history⟩
  unfold Notes.erase
  cases popped : n.line.pop? with
  | none => exact typable.line
  | some shorter =>
      intro d member
      rw [Option.getD_some, InputLine.chars_pop? popped] at member
      exact typable.line d (List.dropLast_subset _ member)

theorem Typable.submit (typable : n.Typable) : n.submit.Typable := by
  unfold Notes.submit
  split
  · exact ⟨typable_empty.line, typable.history⟩
  · refine ⟨typable_empty.line, fun remembered member => ?_⟩
    rcases CommandHistory.mem_of_mem_remember member with before | rfl
    · exact typable.history remembered before
    · exact fun c inLine => typable.line c (Text.mem_of_mem_trim inLine)

theorem line_submit (n : Notes) : n.submit.line = .empty := by
  unfold submit
  split <;> rfl

theorem Typable.take (typable : n.Typable) (input : Input) : (n.take input).Typable := by
  cases input with
  | key event =>
      cases event with
      | char c => exact typable.type c
      | backspace => exact typable.erase
      | enter => exact typable.submit
      | pageUp => exact typable
      | pageDown => exact typable
  | execute line => exact typable

theorem Typable.takeAll (typable : n.Typable) (inputs : List Input) :
    (n.takeAll inputs).Typable := by
  induction inputs generalizing n with
  | nil => exact typable
  | cons input rest ih => exact ih (typable.take input)

end Notes

namespace Terminal

variable {π : Type} [PowerUnit π] {t : Terminal π}

theorem typable_handle (typable : t.shell.notes.Typable) (event : Option KeyEvent) :
    (t.handle event).shell.notes.Typable := by
  cases event with
  | none => exact typable
  | some event =>
      show (t.shell.key event).notes.Typable
      rw [Shell.notes_key]
      exact typable.take _

theorem typable_feed (typable : t.shell.notes.Typable) (byte : UInt8) :
    (t.feed byte).1.shell.notes.Typable := by
  let noted : Terminal π :=
    { t with
      keyboard := (t.keyboard.feed byte).state
      shell := t.shell.emit { notices := (t.keyboard.feed byte).notices } }
  have kept : noted.shell.notes.Typable := typable
  exact typable_handle kept (t.keyboard.feed byte).event

theorem typable_poll (typable : t.shell.notes.Typable) : t.poll.1.shell.notes.Typable := by
  let polled := t.queue.poll Decoder.feed t.keyboard
  let noted : Terminal π :=
    { t with
      queue := polled.1
      keyboard := polled.2.state
      shell := t.shell.emit { notices := polled.2.notices } }
  have kept : noted.shell.notes.Typable := typable
  exact typable_handle kept polled.2.event

/-- Whatever happens, nothing else comes into the line or into what is remembered. -/
theorem typable_undergo (typable : t.shell.notes.Typable) (happening : Happening) :
    (t.undergo happening).shell.notes.Typable := by
  cases happening with
  | press event => exact typable_handle typable (some event)
  | execute line =>
      show (t.shell.execute line).1.notes.Typable
      rw [Shell.notes_execute]
      exact typable
  | prompt =>
      show t.shell.prompt.notes.Typable
      rw [Shell.prompt, Shell.notes_printAll]
      exact typable
  | feed byte => exact typable_feed typable byte
  | poll => exact typable_poll typable
  | blinkWhileHeld elapsed pending =>
      show (t.blinkWhileHeld elapsed pending).1.shell.notes.Typable
      unfold blinkWhileHeld
      split <;> exact typable
  | interrupt byte => exact typable
  | blink elapsed pending => exact typable
  | advance elapsed => exact typable
  | act action => exact typable
  | tryWrite text color => exact typable
  | collect => exact typable

theorem typable_history (typable : t.shell.notes.Typable) (history : List Happening) :
    (history.foldl undergo t).shell.notes.Typable := by
  induction history generalizing t with
  | nil => exact typable
  | cons happening rest ih => exact ih (typable_undergo typable happening)

end Terminal

/-! ## Entering a line -/

namespace Shell

variable {π : Type} {s : Shell π}

theorem cursorRow_of_installed {con : Console} (installed : s.display.console = some con) :
    s.cursorRow = con.cursor.row := by
  simp [cursorRow, Display.ask, installed]

/-- The operations of running the line, once it has been taken. -/
def enters (s : Shell π) : List Action := runs { s with line := .empty } s.line.chars

/-- Running the line ends at the left edge, two rows below at least. -/
theorem lands_enters {con : Console} (installed : s.display.console = some con)
    (regular : con.viewport.Regular) (processor : s.processor.Forward)
    (typable : s.notes.Typable) (nonblank : Text.trim s.line.chars ≠ [])
    (keeps : Order.parse s.line.chars ≠ .ok (some .clear)) :
    con.Lands s.enters ∧ con.cursor.row + 2 ≤ (con.run s.enters).1.cursor.row :=
  lands_runs (s := { s with line := .empty }) installed regular processor nonblank keeps
    (forward_of_typable typable.line)
    fun line member => forward_of_typable (typable.history line member)

section Lines

variable [PowerUnit π]

/-- The shell once its line has been taken and run. -/
def entered (s : Shell π) : Shell π := runLine { s with line := .empty } s.line.chars

theorem works_enters (s : Shell π) : s.Works s.enters s.entered :=
  (works_runLine { s with line := .empty } s.line.chars).of_line

theorem submit_of_blank (blank : Text.trim s.line.chars = []) :
    s.submit = (({ s with line := .empty } : Shell π).print Page.lineEnd .white).prompt := by
  unfold submit
  simp only [blank, if_true, true_or]

theorem submit_of_line (nonblank : Text.trim s.line.chars ≠ []) :
    s.submit =
      (if 2 ≤ s.entered.cursorRow - s.cursorRow then s.entered.print Page.lineEnd .white
        else s.entered).prompt := by
  unfold submit
  simp only [nonblank, if_false, false_or]
  rfl

/-- Entering the line is to carry out these operations and then to ask for the next one. -/
def PromptsAfter (s : Shell π) (before : List Action) : Prop :=
  ∃ ready : Shell π, s.Works before ready ∧ s.submit = ready.prompt

theorem promptsAfter_of_blank (blank : Text.trim s.line.chars = []) :
    s.PromptsAfter [.write Page.lineEnd .white] :=
  ⟨_, (works_print _ _ _).of_line, submit_of_blank blank⟩

/-- Clearing the screen leads up, so no row is left free. -/
theorem promptsAfter_of_clear {con : Console} (installed : s.display.console = some con)
    (regular : con.viewport.Regular) (read : Order.parse s.line.chars = .ok (some .clear)) :
    (con.run s.enters).1.cursor = ⟨0, 0⟩ ∧ s.PromptsAfter s.enters := by
  have nonblank : Text.trim s.line.chars ≠ [] := by
    intro blank
    cases (Order.parse_eq_none_iff.2 blank).symm.trans read
  have enters : s.enters = [.write Page.lineEnd .white, .clear] := by
    simp only [Shell.enters, runs, read, does]
  have cleared : (con.run s.enters).1.cursor = ⟨0, 0⟩ := by
    rw [enters]
    rfl
  have top : s.entered.cursorRow = 0 := by
    rw [cursorRow_of_installed (s.works_enters.console con installed), cleared]
  have started := cursorRow_of_installed installed
  have down : 0 ≤ con.cursor.row := regular.row_nonneg
  have near : ¬2 ≤ s.entered.cursorRow - s.cursorRow := by omega
  refine ⟨cleared, s.entered, s.works_enters, ?_⟩
  rw [submit_of_line nonblank, if_neg near]

/-- Every other line leads down by two rows at least, so the row that was come to is left free. -/
theorem promptsAfter_of_line {con : Console} (installed : s.display.console = some con)
    (nonblank : Text.trim s.line.chars ≠ [])
    (far : con.cursor.row + 2 ≤ (con.run s.enters).1.cursor.row) :
    s.PromptsAfter (s.enters ++ [.write Page.lineEnd .white]) := by
  have started := cursorRow_of_installed installed
  have stopped := cursorRow_of_installed (s.works_enters.console con installed)
  have apart : 2 ≤ s.entered.cursorRow - s.cursorRow := by omega
  refine ⟨_, s.works_enters.trans (works_print _ _ _), ?_⟩
  rw [submit_of_line nonblank, if_pos apart]

theorem line_submit (s : Shell π) : s.submit.line = .empty := by
  have taken := congrArg Notes.line s.notes_submit
  rw [Notes.line_submit] at taken
  exact taken

end Lines

end Shell

/-- **Every Enter ends with a fresh prompt at the left edge.**  Let a new console be installed,
whatever has been typed before, on a processor without backspaces in its texts, and let anything
happen to the terminal: keys, bytes, lines executed, calls of the timer, operations on the console
from outside.  Then entering whatever is on the line by now leaves the line empty, and the last
six writes are those of the prompt.  They begin in the first column:

* on the row below, if the line is blank;
* on the first row, if it clears the screen;
* otherwise one row below the row where the output of the command, or the message about an
  error, ended (`Shell.enters`).  That row is at least two below, all output is above it and the
  prompt is below it, so nothing is written on it. -/
theorem prompt_on_fresh_row {π : Type} [PowerUnit π] {surface cell : Extent}
    {config : ConsoleConfig} {con : Console} {out : Output} {t : Terminal π}
    (created : Console.create surface cell config = .ok (con, out))
    (installed : t.shell.display.console = some con) (processor : t.shell.processor.Forward)
    {inputs : List Input} (typed : t.shell.notes = Notes.takeAll {} inputs)
    (happenings : List Terminal.Happening) :
    let s := (happenings.foldl Terminal.undergo t).shell
    let line := s.line.chars
    let prompt : List Action :=
      [.write "root" .cyan, .write "@" .white, .write "borealis" .magenta, .write "[" .white,
        .write "NoFS" .pureRed, .write "] >> " .white]
    ∃ (now : Console) (before : List Action) (ready : Shell π),
      s.display.console = some now ∧
      s.Works before ready ∧ s.submit = ready.prompt ∧ ready.Works prompt s.submit ∧
      s.submit.line = .empty ∧
      (now.run before).1.cursor.column = 0 ∧
      (Text.trim line = [] → before = [.write Page.lineEnd .white] ∧
        (now.run before).1.cursor.row = now.cursor.row + 1) ∧
      (Order.parse line = .ok (some .clear) →
        before = s.enters ∧ (now.run before).1.cursor.row = 0) ∧
      (Text.trim line ≠ [] → Order.parse line ≠ .ok (some .clear) →
        let ended := (now.run s.enters).1
        before = s.enters ++ [.write Page.lineEnd .white] ∧
          (now.run before).1.cursor.row = ended.cursor.row + 1 ∧
          now.cursor.row + 2 ≤ ended.cursor.row ∧
          (∀ q ∈ now.touched s.enters, q.row < ended.cursor.row) ∧
          ∀ q ∈ ended.touched (.write Page.lineEnd .white :: prompt),
            ended.cursor.row < q.row) := by
  intro s line prompt
  have fragments : prompt = Page.prompt.map Fragment.write := rfl
  have begun : t.shell.Ran con ⟨t.shell.output.draws, #[]⟩ #[] [] := by
    refine ⟨installed, ?_⟩
    rw [Array.empty_append]
    exact Array.append_empty.symm
  obtain ⟨earlier, since, ran⟩ := Terminal.ran_history begun happenings
  have typable : s.notes.Typable := by
    refine Terminal.typable_history ?_ happenings
    rw [typed]
    exact Notes.typable_empty.takeAll inputs
  have regular := Console.regular_run (Console.regular_of_create created) ([] ++ since)
  have here := ran.console
  generalize (con.run ([] ++ since)).1 = now at regular here
  have prompted : ∀ ready : Shell π, s.submit = ready.prompt → ready.Works prompt s.submit := by
    intro ready submitted
    rw [submitted, fragments]
    exact ready.works_printAll Page.prompt
  by_cases blank : Text.trim line = []
  · obtain ⟨ready, works, submitted⟩ := Shell.promptsAfter_of_blank blank
    have landed := Console.cursor_act_lineEnd regular .white
    have nothing := Order.parse_eq_none_iff.2 blank
    refine ⟨now, _, ready, here, works, submitted, prompted ready submitted, s.line_submit,
      congrArg Position.column landed, fun _ => ⟨rfl, congrArg Position.row landed⟩, ?_, ?_⟩
    · intro clears
      cases nothing.symm.trans clears
    · intro nonblank
      exact absurd blank nonblank
  by_cases clears : Order.parse line = .ok (some .clear)
  · obtain ⟨cleared, ready, works, submitted⟩ := Shell.promptsAfter_of_clear here regular clears
    exact ⟨now, _, ready, here, works, submitted, prompted ready submitted, s.line_submit,
      congrArg Position.column cleared, fun isBlank => absurd isBlank blank,
      fun _ => ⟨rfl, congrArg Position.row cleared⟩, fun _ keeps => absurd clears keeps⟩
  · rw [← t.processor_history happenings] at processor
    obtain ⟨lands, far⟩ := Shell.lands_enters here regular processor typable blank clears
    obtain ⟨ready, works, submitted⟩ := Shell.promptsAfter_of_line here blank far
    have regularEnded := Console.regular_run regular s.enters
    have landed := Console.cursor_act_lineEnd regularEnded .white
    have fresh : (now.run (s.enters ++ [.write Page.lineEnd .white])).1.cursor =
        ⟨0, (now.run s.enters).1.cursor.row + 1⟩ := by
      rw [Console.run_append]
      exact landed
    refine ⟨now, _, ready, here, works, submitted, prompted ready submitted, s.line_submit,
      congrArg Position.column fresh, fun isBlank => absurd isBlank blank,
      fun cleared => absurd cleared clears, fun _ _ => ?_⟩
    refine ⟨rfl, congrArg Position.row fresh, far, lands.untouched, ?_⟩
    intro q member
    rw [fragments] at member
    refine Console.row_lt_of_mem_touched regularEnded (fun _ => Fragment.writes_of_mem) ?_ member
    rw [Fragment.chars]
    exact forward_expandTabs (by decide) _

/-- On three columns and two rows a processor is asked what it is. -/
theorem prompt_on_fresh_row_small :
    let known : Machine.Processor :=
      { vendor := some "GenuineIntel"
        brand := some "  Intel(R) Core(TM) i7-8550U CPU @ 1.80GHz"
        features := some ⟨142, 6, 10, true, true, true, false⟩ }
    let t : Terminal Notebook :=
      { shell :=
          { display := ({} : Display).install (Console.start ⟨3, 2⟩ {}).1
            power := ⟨⟩
            processor := known } }
    let typing := "cpuinfo".toList.map fun c => Terminal.Happening.press (.char c)
    let s := (typing.foldl Terminal.undergo t).shell
    Console.create ⟨24, 32⟩ ⟨8, 16⟩ {} = .ok (Console.start ⟨3, 2⟩ {}) ∧
      t.shell.display.console = some (Console.start ⟨3, 2⟩ {}).1 ∧ known.Forward ∧
      t.shell.notes = Notes.takeAll {} [] ∧ Order.parse s.line.chars = .ok (some .cpuInfo) ∧
      ∃ (now : Console) (before : List Action) (ready : Shell Notebook),
        s.display.console = some now ∧ s.Works before ready ∧ s.submit = ready.prompt ∧
        before = s.enters ++ [.write Page.lineEnd .white] ∧
        (now.run before).1.cursor.column = 0 ∧
        (now.run before).1.cursor.row = (now.run s.enters).1.cursor.row + 1 ∧
        now.cursor.row + 2 ≤ (now.run s.enters).1.cursor.row := by
  intro known t typing
  have created : Console.create ⟨24, 32⟩ ⟨8, 16⟩ {} =
      .ok ((Console.start ⟨3, 2⟩ {}).1, (Console.start ⟨3, 2⟩ {}).2) := rfl
  have installed : t.shell.display.console = some (Console.start ⟨3, 2⟩ {}).1 := rfl
  have forward : known.Forward := by
    constructor
    · rintro text ⟨⟩
      decide
    · rintro text ⟨⟩
      decide
  have untyped : t.shell.notes = Notes.takeAll {} [] := rfl
  have typed : (typing.foldl Terminal.undergo t).shell.line.chars = "cpuinfo".toList := by
    decide +kernel
  have result := prompt_on_fresh_row created installed forward untyped typing
  -- Nothing else about the shell is needed, and it is better not computed.
  generalize (typing.foldl Terminal.undergo t).shell = s at typed result ⊢
  have asks : Order.parse s.line.chars = .ok (some .cpuInfo) := by
    rw [typed]
    decide +kernel
  have nonblank : Text.trim s.line.chars ≠ [] := by
    rw [typed]
    decide
  have keeps : Order.parse s.line.chars ≠ .ok (some .clear) := by
    rw [asks]
    decide
  obtain ⟨now, before, ready, here, works, submitted, -, -, column, -, -, apart⟩ := result
  obtain ⟨after, row, far, -, -⟩ := apart nonblank keeps
  exact ⟨created, installed, forward, untyped, asks, now, before, ready, here, works, submitted,
    after, column, row, far⟩

end GlyphConsole
