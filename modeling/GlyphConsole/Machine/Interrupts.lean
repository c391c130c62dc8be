import GlyphConsole.Log.Notice
import GlyphConsole.Machine.DeviceWrite

/-!
# GlyphConsole.Machine.Interrupts — the two interrupt controllers

Two controllers of eight lines each pass interrupts on to the processor.  `remap`
moves them off the vectors that the processor keeps for itself, chains the second to
line 2 of the first, and masks every line but the timer and the keyboard.  A handler
ends by `acknowledge`, which tells the second controller too if the line is one of
its own.
-/

namespace GlyphConsole.Machine

set_option autoImplicit false

/-- A line that the console listens to. -/
inductive Irq where
  | timer
  | keyboard
deriving DecidableEq, Inhabited

namespace Irq

/-- The vectors of the first controller begin here. -/
def firstVector : UInt8 := 32

/-- The vectors of the second controller begin here. -/
def secondVector : UInt8 := firstVector + 8

def name : Irq → String
  | .timer => "Timer"
  | .keyboard => "Keyboard"

def vector : Irq → UInt8
  | .timer => firstVector
  | .keyboard => firstVector + 1

/-- Set up both controllers, step by step in turn. -/
def remap : List DeviceWrite :=
  [.byte 0x20 0x11, .byte 0xA0 0x11, .byte 0x21 firstVector, .byte 0xA1 secondVector,
    .byte 0x21 4, .byte 0xA1 2, .byte 0x21 0x01, .byte 0xA1 0x01,
    .byte 0x21 0xFC, .byte 0xA1 0xFF]

def remapNotice : Log.Notice :=
  .vectorsRemapped firstVector.toNat (secondVector.toNat + 8)

/-- Tell the controllers that the handler is done. -/
def acknowledge (irq : Irq) : List DeviceWrite :=
  if secondVector ≤ irq.vector then [.byte 0xA0 0x20, .byte 0x20 0x20] else [.byte 0x20 0x20]

end Irq

end GlyphConsole.Machine
