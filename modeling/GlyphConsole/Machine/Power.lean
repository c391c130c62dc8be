import GlyphConsole.Log.Notice
import GlyphConsole.Machine.Clock
import GlyphConsole.Machine.DeviceWrite

/-!
# GlyphConsole.Machine.Power — turning the machine off and on

The shell asks for three things: restart after so many seconds, power off after so
many seconds, and stop for good.  A `PowerUnit` is whatever carries these requests
out; it answers with a `PowerReport`, and the request returns only because the
machine is still running.

Two units exist.  A `Notebook` only writes the request down.  A `Board` waits on its
clock and then makes one device write: a pulse on the reset line, or the sleep state in
which the power is off.  The write comes after the wait and never before it.
-/

namespace GlyphConsole.Machine

set_option autoImplicit false

/-- What the shell asks of the machine. -/
inductive PowerCall where
  | reboot (seconds : UInt32)
  | shutdown (seconds : UInt32)
  | halt
deriving DecidableEq, Inhabited

/-- What carrying out a request took. -/
structure PowerReport where
  call : PowerCall
  /-- The wait before the device write, if there was one. -/
  wait : Option Clock.Wait := none
  writes : List DeviceWrite := []
  notices : List Log.Notice := []
deriving DecidableEq

/-- Something that carries out power requests. -/
class PowerUnit (π : Type) where
  perform : π → PowerCall → π × PowerReport

/-- A unit that writes requests down and does nothing else. -/
structure Notebook where
deriving DecidableEq, Inhabited

instance : PowerUnit Notebook where
  perform unit call := (unit, { call })

/-- A machine with a tick counter and devices. -/
structure Board where
  clock : Clock := {}
  /-- Ticks in a second. -/
  hertz : UInt32 := 1000
deriving DecidableEq, Inhabited

namespace Board

/-- The keyboard controller pulses the reset line on this byte. -/
def resetWrite : DeviceWrite := .byte 0x64 0xFE

/-- The power management takes sleep states at this address. -/
def sleepAddress : UInt16 := 0x604

/-- The sleep state without power. -/
def sleepWrite : DeviceWrite := .word sleepAddress 0x2000

/-- The number of ticks in so many seconds.  Two 32-bit factors fit 64 bits. -/
def ticks (b : Board) (seconds : UInt32) : UInt64 := seconds.toUInt64 * b.hertz.toUInt64

/-- Wait, report, and make one device write.  A wait without end leaves nothing to
report. -/
def delayed (b : Board) (call : PowerCall) (seconds : UInt32) (notice : Log.Notice)
    (write : DeviceWrite) : Board × PowerReport :=
  match b.clock.wait? (b.ticks seconds) with
  | some wait =>
      ({ b with clock := wait.clock },
        { call, wait := some wait, writes := [write], notices := [notice] })
  | none => (b, { call })

def perform (b : Board) (call : PowerCall) : Board × PowerReport :=
  match call with
  | .reboot seconds => b.delayed call seconds .pulsingReset resetWrite
  | .shutdown seconds => b.delayed call seconds (.requestingOff sleepAddress) sleepWrite
  | .halt => (b, { call })

instance : PowerUnit Board where
  perform := perform

end Board

end GlyphConsole.Machine
