/-!
# GlyphConsole.Machine.Clock — waiting on a tick counter

A `Clock` is a 64-bit counter that wraps around.  Between two readings it advances by
a fixed step, so it is given by the value it will show next and that step.

`Clock.wait?` reads the counter once to begin, then again and again until the
difference to the first reading, taken modulo 2^64, reaches a target; between two
readings that fall short the processor halts until the next tick.  The readings of a
clock repeat after at most 2^64 of them.  If none of those is late enough none ever
will be, and the wait has no end.
-/

namespace GlyphConsole.Machine

set_option autoImplicit false

/-- A tick counter. -/
structure Clock where
  /-- What the next reading shows. -/
  next : UInt64 := 0
  /-- How far the counter runs between two readings. -/
  step : UInt64 := 1
deriving DecidableEq, Inhabited

namespace Clock

/-- Read the counter. -/
def read (c : Clock) : UInt64 × Clock := (c.next, { c with next := c.next + c.step })

/-- How far a wait has come. -/
structure Wait where
  clock : Clock
  /-- Readings of the counter. -/
  polls : Nat := 0
  /-- Times the processor was halted. -/
  halts : Nat := 0
deriving DecidableEq, Inhabited

/-- At most `limit` further readings of a wait that began at `start`. -/
def waitFrom (start target : UInt64) : Nat → Wait → Option Wait
  | 0, _ => none
  | limit + 1, w =>
      let reading := w.clock.read
      let polled := { w with clock := reading.2, polls := w.polls + 1 }
      if reading.1 - start < target then
        waitFrom start target limit { polled with halts := w.halts + 1 }
      else some polled

/-- Wait for `target` ticks; `none` if the wait has no end. -/
def wait? (c : Clock) (target : UInt64) : Option Wait :=
  let reading := c.read
  waitFrom reading.1 target UInt64.size { clock := reading.2, polls := 1 }

end Clock

end GlyphConsole.Machine
