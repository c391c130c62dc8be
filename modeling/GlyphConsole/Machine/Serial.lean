import GlyphConsole.Machine.DeviceWrite

/-!
# GlyphConsole.Machine.Serial — text on the serial line

The serial line carries the log to a terminal.  `setup` is what the device is told
once: no interrupts, 38400 baud, eight bits, queues on, ready.

A terminal steps back at a backspace without erasing, so `transmit` sends a backspace
or a delete as back, space, back.  Every other character goes out as it is.  A line
ends in a carriage return and a line feed.
-/

namespace GlyphConsole.Machine

set_option autoImplicit false

namespace Serial

/-- The first address of the device. -/
def base : UInt16 := 0x3F8

def setup : List DeviceWrite :=
  [.byte (base + 1) 0x00, .byte (base + 3) 0x80, .byte base 0x03, .byte (base + 1) 0x00,
    .byte (base + 3) 0x03, .byte (base + 2) 0xC7, .byte (base + 4) 0x0B, .byte (base + 1) 0x01]

/-- What goes out for one character. -/
def transmit (c : Char) : List Char :=
  if c = '\x08' ∨ c = '\x7f' then ['\x08', ' ', '\x08'] else [c]

/-- What a text puts on the line. -/
def print (text : String) : String := String.ofList (text.toList.flatMap transmit)

/-- A text and the end of its line. -/
def writeLine (text : String) : String := print (text ++ "\r\n")

end Serial

end GlyphConsole.Machine
