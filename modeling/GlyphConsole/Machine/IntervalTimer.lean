import GlyphConsole.Log.Notice
import GlyphConsole.Machine.DeviceWrite

/-!
# GlyphConsole.Machine.IntervalTimer — the periodic tick

The interval timer divides its base frequency by a 16-bit divisor and interrupts at
the rate that results.  `program` is what the device is told: the mode, then the
divisor, low byte first.  The ticks since the start are counted in 64 bits, and a tick
lasts at least one millisecond.
-/

namespace GlyphConsole.Machine

set_option autoImplicit false

namespace IntervalTimer

def baseHertz : Nat := 1193182

/-- The rate of the tick. -/
def hertz : Nat := 1000

/-- The divisor closest below the exact one, within what the device takes. -/
def divisor : Nat := max 1 (min (baseHertz / hertz) 65535)

/-- Channel 0 as a square wave, with the divisor that follows in two bytes. -/
def program : List DeviceWrite :=
  [.byte 0x43 0x36, .byte 0x40 (UInt8.ofNat divisor), .byte 0x40 (UInt8.ofNat (divisor / 256))]

def programNotice : Log.Notice := .timerProgrammed hertz divisor

/-- How many milliseconds a tick lasts. -/
def tickMillis : Nat := max 1 (1000 / hertz)

/-- One more tick. -/
def tick (ticks : UInt64) : UInt64 := ticks + 1

/-- So many ticks more. -/
def tickMany (ticks : UInt64) (count : Nat) : UInt64 := ticks + UInt64.ofNat count

end IntervalTimer

end GlyphConsole.Machine
