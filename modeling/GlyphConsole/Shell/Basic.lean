import GlyphConsole.Console.Display
import GlyphConsole.Keyboard.Event
import GlyphConsole.Machine.Power
import GlyphConsole.Shell.CommandHistory
import GlyphConsole.Shell.InputLine
import GlyphConsole.Shell.Message
import GlyphConsole.Shell.Order

/-!
# GlyphConsole.Shell.Basic — the shell

A `Shell` edits a line, remembers the lines entered, and carries out the orders in
them.  It writes on a shared display, which may not be installed yet: then nothing is
shown, and everything else goes on as before.  What the console puts out, and what the
machine reports, collects in the shell until it is taken away with `collect`.

`key` handles one key event.  A typable character is echoed where the line has room for
it; a backspace erases on the screen what it takes off the line; the paging keys move
the window, page up towards older output.  `submit` takes the whole line: unless it is
blank the line is remembered, then run, and an error in it is shown as a message.  A new
prompt follows, separated by an empty row when the command printed something.

`execute` runs a line.  All errors are found before anything happens, so a line in error
leaves the shell as it was (`execute_error`).
-/

namespace GlyphConsole

set_option autoImplicit false

open Machine (PowerCall PowerReport PowerUnit Processor)

/-- A shell on a shared display, on a machine with power unit `π`. -/
structure Shell (π : Type) where
  display : Display := {}
  power : π
  processor : Processor := {}
  line : InputLine := .empty
  history : CommandHistory := .empty
  /-- What was put out and not collected yet. -/
  output : Output := {}
  /-- What the machine reported and was not collected yet. -/
  reports : Array PowerReport := #[]

namespace Shell

variable {π : Type}

/-- Take away what was put out and reported. -/
def collect (s : Shell π) : Shell π := { s with output := {}, reports := #[] }

/-- Put something out after what was put out before. -/
def emit (s : Shell π) (output : Output) : Shell π := { s with output := s.output ++ output }

/-- Do something with the console, if it is installed. -/
def work (s : Shell π) (task : Console → Console × Output) : Shell π :=
  let used := s.display.use fun con => (task con, ())
  { s with display := used.1.1 }.emit used.1.2

def print (s : Shell π) (text : String) (color : Color) : Shell π :=
  s.work fun con => con.write text color

/-- Write fragments one after the other. -/
def printAll (s : Shell π) (fragments : List Fragment) : Shell π :=
  fragments.foldl (fun s fragment => s.print fragment.text fragment.color) s

def say (s : Shell π) (kind : MessageKind) (message : String) : Shell π :=
  s.printAll (kind.fragments message)

def prompt (s : Shell π) : Shell π := s.printAll Page.prompt

/-- The row of the cursor; zero while there is no console. -/
def cursorRow (s : Shell π) : Int := (s.display.ask fun con => con.cursor.row).getD 0

/-! ## Carrying out orders -/

section Orders

variable [PowerUnit π]

/-- Ask something of the machine. -/
def request (s : Shell π) (call : PowerCall) : Shell π :=
  let performed := PowerUnit.perform s.power call
  { s with power := performed.1, reports := s.reports.push performed.2 }.emit
    { notices := performed.2.notices.toArray }

/-- The page about the console, if there is one. -/
def systemState (s : Shell π) : Option String :=
  s.display.ask fun con =>
    Page.systemState con.grid.columns con.grid.rows con.history.size con.history.capacity
      s.history.size CommandHistory.capacity

/-- Carry out an order. -/
def carryOut (s : Shell π) : Order → Shell π
  | .help => s.print Page.help .white
  | .about => s.printAll Page.about
  | .clear => s.work Console.clear
  | .echo words => s.print (String.ofList (Text.unwords words) ++ Page.lineEnd) .white
  | .history => s.print (Page.history s.history.lines) .white
  | .cpuInfo => s.print (Page.processor s.processor) .white
  | .sysInfo =>
      match s.systemState with
      | some page => s.print page .white
      | none => s
  | .reboot seconds =>
      ((s.say .info (Page.rebooting seconds)).request (.reboot seconds)).say .error
        Page.stillRunning
  | .shutdown seconds =>
      (((s.say .info (Page.shuttingDown seconds)).request (.shutdown seconds)).say .warning
        Page.notOff).request .halt

/-- Run a line; the second part is what is wrong with it, if anything. -/
def execute (s : Shell π) (line : List Char) : Shell π × Option CommandError :=
  match Order.parse line with
  | .ok (some order) => (s.carryOut order, none)
  | .ok none => (s, none)
  | .error e => (s, some e)

/-! ## Keys -/

/-- Remember a line, run it, and show what is wrong with it. -/
def runLine (s : Shell π) (line : List Char) : Shell π :=
  let below := s.print Page.lineEnd .white
  let noted := { below with history := below.history.remember (Text.trim line) }.emit
    { notices := #[.running line] }
  match noted.execute line with
  | (done, none) => done
  | (done, some e) => done.say .error (e.message ++ Page.lineEnd)

/-- Take the line, run it unless it is blank, and ask for the next one. -/
def submit (s : Shell π) : Shell π :=
  let line := s.line.chars
  let blank := Text.trim line = []
  let startRow := s.cursorRow
  let taken := { s with line := .empty }
  let done := if blank then taken else taken.runLine line
  let apart := if blank ∨ 2 ≤ done.cursorRow - startRow then done.print Page.lineEnd .white else done
  apart.prompt

/-- Add a character to the line and echo it, if the shell takes it and has room. -/
def type (s : Shell π) (c : Char) : Shell π :=
  if isTypable c then
    match s.line.push? c with
    | some line => { s with line }.print (String.singleton c) .white
    | none => s
  else s

/-- Take the last character off the line and off the screen. -/
def erase (s : Shell π) : Shell π :=
  match s.line.pop? with
  | some line => { s with line }.work Console.backspace
  | none => s

/-- Handle a key event. -/
def key (s : Shell π) : KeyEvent → Shell π
  | .char c => s.type c
  | .backspace => s.erase
  | .pageUp => s.work fun con => con.scrollOlder.1
  | .pageDown => s.work fun con => con.scrollNewer.1
  | .enter => s.submit

def keys (s : Shell π) (events : List KeyEvent) : Shell π := events.foldl key s

/-- A line in error leaves the shell as it was. -/
theorem execute_error {s : Shell π} {line : List Char} {e : CommandError}
    (wrong : (s.execute line).2 = some e) : (s.execute line).1 = s := by
  unfold execute at *
  split at wrong <;> simp_all

/-- The shell about to run a line: the line is remembered, and the cursor is below it. -/
def noted (s : Shell π) (line : List Char) : Shell π :=
  { s.print Page.lineEnd .white with
    history := s.history.remember (Text.trim line) }.emit { notices := #[.running line] }

theorem runLine_eq (s : Shell π) (line : List Char) :
    s.runLine line =
      match (s.noted line).execute line with
      | (done, none) => done
      | (done, some e) => done.say .error (e.message ++ Page.lineEnd) := rfl

theorem runLine_of_order {line : List Char} {order : Order}
    (read : Order.parse line = .ok (some order)) (s : Shell π) :
    s.runLine line = (s.noted line).carryOut order := by
  rw [runLine_eq]
  simp only [execute, read]

theorem runLine_of_blank {line : List Char} (read : Order.parse line = .ok none) (s : Shell π) :
    s.runLine line = s.noted line := by
  rw [runLine_eq]
  simp only [execute, read]

theorem runLine_of_error {line : List Char} {e : CommandError}
    (read : Order.parse line = .error e) (s : Shell π) :
    s.runLine line = (s.noted line).say .error (e.message ++ Page.lineEnd) := by
  rw [runLine_eq]
  simp only [execute, read]

end Orders

end Shell

end GlyphConsole
