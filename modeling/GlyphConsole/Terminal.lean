import GlyphConsole.Console.Blink
import GlyphConsole.Keyboard.Poll
import GlyphConsole.Shell.Basic

/-!
# GlyphConsole.Terminal — a console at work

A `Terminal` is the whole of it: a shell on a display, the keyboard with the queue that
its interrupt fills, and the timer that makes the cursor blink.

Bytes reach the shell in two ways: straight from the keyboard (`feed`), or through the
queue, one event at a time (`poll`).  The timer works on the display that the shell
uses, and keeps its hands off while it is held (`blinkWhileHeld`).
-/

namespace GlyphConsole

set_option autoImplicit false

open Machine (PowerUnit)

/-- A shell with its keyboard and its timer. -/
structure Terminal (π : Type) where
  shell : Shell π
  keyboard : Decoder := {}
  queue : ScancodeQueue := {}
  timer : BlinkTimer := {}

namespace Terminal

variable {π : Type}

def collect (t : Terminal π) : Terminal π := { t with shell := t.shell.collect }

/-- Input is waiting in the queue. -/
def pending (t : Terminal π) : Bool := !t.queue.isEmpty

/-- The keyboard interrupt brings a byte. -/
def interrupt (t : Terminal π) (byte : UInt8) : Terminal π :=
  { t with queue := t.queue.push byte }

/-- Carry out an operation on the console; `none` if there is no console. -/
def act (t : Terminal π) (action : Console.Action) : Terminal π × Option Console.Reply :=
  let used := t.shell.display.use fun con => con.act action
  ({ t with shell := { t.shell with display := used.1.1 }.emit used.1.2 }, used.2)

/-- Write only if nobody holds the console; says whether it was written. -/
def tryWrite (t : Terminal π) (text : String) (color : Color) : Terminal π × Bool :=
  let tried := t.shell.display.tryUse fun con => (con.write text color, ())
  ({ t with shell := { t.shell with display := tried.1.1 }.emit tried.1.2 }, tried.2.isSome)

/-! ## Keys -/

section Keys

variable [PowerUnit π]

/-- Hand an event to the shell, if there is one. -/
def handle (t : Terminal π) (event : Option KeyEvent) : Terminal π :=
  match event with
  | some event => { t with shell := t.shell.key event }
  | none => t

/-- A byte straight from the keyboard. -/
def feed (t : Terminal π) (byte : UInt8) : Terminal π × Option KeyEvent :=
  let fed := t.keyboard.feed byte
  let noted := { t with keyboard := fed.state, shell := t.shell.emit { notices := fed.notices } }
  (noted.handle fed.event, fed.event)

/-- Bytes straight from the keyboard, and the events they made. -/
def feedAll (t : Terminal π) : List UInt8 → Terminal π × List KeyEvent
  | [] => (t, [])
  | byte :: rest =>
      let fed := t.feed byte
      let after := fed.1.feedAll rest
      (after.1, fed.2.toList ++ after.2)

/-- The next event from the queue, handed to the shell. -/
def poll (t : Terminal π) : Terminal π × Option KeyEvent :=
  let polled := t.queue.poll Decoder.feed t.keyboard
  let noted :=
    { t with
      queue := polled.1
      keyboard := polled.2.state
      shell := t.shell.emit { notices := polled.2.notices } }
  (noted.handle polled.2.event, polled.2.event)

/-- So many events from the queue. -/
def pollMany (t : Terminal π) : Nat → Terminal π × List (Option KeyEvent)
  | 0 => (t, [])
  | n + 1 =>
      let polled := t.poll
      let after := polled.1.pollMany n
      (after.1, polled.2 :: after.2)

/-- So many events from the queue, if the answers can be kept. -/
def pollMany? (t : Terminal π) (n : Nat) : Except Fault (Terminal π × List (Option KeyEvent)) :=
  (Memory.reserveAnswers n).map fun _ => t.pollMany n

end Keys

/-! ## The timer -/

/-- The timer interrupt after so many milliseconds. -/
def blink (t : Terminal π) (elapsed : UInt32) (pending : Bool) : Terminal π × BlinkOutcome :=
  let fired := t.timer.onTimer elapsed t.shell.display pending
  ({ t with
      timer := fired.1
      shell := { t.shell with display := fired.2.1.1 }.emit fired.2.1.2 },
    fired.2.2)

/-- The timer interrupt, with the input that waits in the queue. -/
def tick (t : Terminal π) (elapsed : UInt32) : Terminal π × BlinkOutcome :=
  t.blink elapsed t.pending

def hold (t : Terminal π) : Terminal π :=
  { t with shell := { t.shell with display := t.shell.display.hold } }

def release (t : Terminal π) : Terminal π :=
  { t with shell := { t.shell with display := t.shell.display.release } }

/-- The timer interrupt while somebody uses the console; nobody can, if there is none. -/
def blinkWhileHeld (t : Terminal π) (elapsed : UInt32) (pending : Bool) :
    Terminal π × Option BlinkOutcome :=
  if t.shell.display.isInstalled then
    let fired := t.hold.blink elapsed pending
    (fired.1.release, some fired.2)
  else (t, none)

/-- Let time pass for the timer alone; says whether the interval is over. -/
def advance (t : Terminal π) (elapsed : UInt32) : Terminal π × Bool :=
  let advanced := t.timer.advance elapsed
  ({ t with timer := advanced.1 }, advanced.2)

end Terminal

end GlyphConsole
