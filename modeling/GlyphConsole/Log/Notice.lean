import GlyphConsole.Grid
import GlyphConsole.Log.Record
import GlyphConsole.Text.Field

/-!
# GlyphConsole.Log.Notice — what the console reports about itself

Every event that reaches the log is a constructor of `Notice`, with the facts it
reports as fields.  The wording, the severity and the target of each are decided
here and nowhere else, by `Notice.record`.
-/

namespace GlyphConsole.Log

set_option autoImplicit false

/-- An event worth a line in the log. -/
inductive Notice where
  /-- A console came up with this grid and this much scrollback. -/
  | consoleReady (grid : Grid) (capacity : Nat)
  /-- The screen is redrawn from so many spans at this scroll offset. -/
  | redrawing (spans : Nat) (offset : Int)
  /-- A redraw ended elsewhere than the cursor stands. -/
  | redrawAstray (reached live : Position)
  /-- The window followed the cursor. -/
  | offsetMoved (before after : Int)
  /-- The oldest span made room for a new one. -/
  | spanEvicted (retained : Nat)
  /-- A command line is about to run. -/
  | running (line : List Char)
  /-- A byte that is no key of the keyboard. -/
  | unknownScancode (byte : UInt8)
  /-- The scancode queue was full and lost input. -/
  | inputDropped
  /-- The reset line is about to be pulsed. -/
  | pulsingReset
  /-- Power is about to be cut at this address. -/
  | requestingOff (address : UInt16)
  /-- The interrupt controllers use the vectors from `first` up to `past`. -/
  | vectorsRemapped (first past : Nat)
  /-- The interval timer runs at this rate, from this divisor. -/
  | timerProgrammed (hertz divisor : Nat)
deriving DecidableEq

def position (p : Position) : String :=
  "CellCoordinate \x7b col: " ++ toString p.column ++ ", row: " ++ toString p.row ++ " \x7d"

/-- The record that reports a notice. -/
def Notice.record : Notice → Record
  | .consoleReady grid capacity =>
      ⟨.debug, "fbcon::renderer",
        "console: " ++ toString grid.columns ++ "x" ++ toString grid.rows ++ " cells, " ++
          toString capacity ++ " spans of scrollback"⟩
  | .redrawing spans offset =>
      ⟨.trace, "fbcon::renderer",
        "console: refresh, " ++ toString spans ++ " spans at offset " ++ toString offset⟩
  | .redrawAstray reached live =>
      ⟨.trace, "fbcon::renderer",
        "console: replay ended at " ++ position reached ++ ", live cursor " ++ position live⟩
  | .offsetMoved before after =>
      ⟨.trace, "fbcon::viewport",
        "viewport: scroll offset " ++ toString before ++ " -> " ++ toString after⟩
  | .spanEvicted retained =>
      ⟨.trace, "fbcon::scrollback",
        "scrollback: evicted oldest span, " ++ toString retained ++ " retained"⟩
  | .running line => ⟨.debug, "fbcon::shell", "shell: running " ++ Text.quoted line⟩
  | .unknownScancode byte =>
      ⟨.debug, "fbcon::keyboard",
        "keyboard: bad scancode 0x" ++ Text.hex 2 byte.toNat ++ ": UnknownKeyCode"⟩
  | .inputDropped =>
      ⟨.warn, "fbcon::keyboard", "keyboard: scancode queue overflowed, input dropped"⟩
  | .pulsingReset => ⟨.info, "fbcon::power", "power: pulsing 8042 reset line"⟩
  | .requestingOff address =>
      ⟨.info, "fbcon::power", "power: requesting S5 through 0x" ++ Text.hex 1 address.toNat⟩
  | .vectorsRemapped first past =>
      ⟨.info, "kernel::pic", "pic: remapped to " ++ toString first ++ ".." ++ toString past⟩
  | .timerProgrammed hertz divisor =>
      ⟨.info, "kernel::timer",
        "pit: " ++ toString hertz ++ " Hz (divisor " ++ toString divisor ++ ")"⟩

/-- The log text that notices leave under a threshold. -/
def noticeText (threshold : Threshold) (notices : Array Notice) : String :=
  transcript threshold (notices.toList.map Notice.record)

end GlyphConsole.Log
