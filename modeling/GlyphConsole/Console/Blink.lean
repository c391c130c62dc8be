import GlyphConsole.Console.Display

/-!
# GlyphConsole.Console.Blink — the blinking cursor

A `BlinkTimer` adds up elapsed milliseconds and is due once they reach the interval;
then it starts again from zero.  The sum stops at the largest 32-bit number instead
of wrapping, so a long pause is never mistaken for a short one
(`toNat_addCapped`).

`onTimer` is what the timer interrupt does: when the timer is due it flips the
cursor, but it gives up at once if the console is held or missing, and leaves the
cursor alone while input is waiting.  Either way the interval is used up.
-/

namespace GlyphConsole

set_option autoImplicit false

/-- The sum, or the largest number if the sum does not fit. -/
def addCapped (a b : UInt32) : UInt32 :=
  UInt32.ofNat (min (a.toNat + b.toNat) (UInt32.size - 1))

theorem toNat_addCapped (a b : UInt32) :
    (addCapped a b).toNat = min (a.toNat + b.toNat) (UInt32.size - 1) := by
  simp only [addCapped, UInt32.toNat_ofNat', UInt32.size]
  omega

/-- Milliseconds since the cursor last blinked. -/
structure BlinkTimer where
  interval : UInt32 := 125
  elapsed : UInt32 := 0
deriving DecidableEq, Inhabited

/-- What a timer interrupt came to. -/
inductive BlinkOutcome where
  /-- The interval is not over. -/
  | notDue
  /-- Input is waiting, so the cursor stays as it is. -/
  | suppressed
  /-- The console is held, or there is none. -/
  | busy
  /-- The cursor was flipped, to be seen or not. -/
  | toggled (visible : Bool)
deriving DecidableEq, Inhabited

namespace BlinkTimer

/-- Add elapsed time; says whether the interval is over. -/
def advance (timer : BlinkTimer) (elapsed : UInt32) : BlinkTimer × Bool :=
  let total := addCapped timer.elapsed elapsed
  if timer.interval ≤ total then ({ timer with elapsed := 0 }, true)
  else ({ timer with elapsed := total }, false)

/-- A timer interrupt after so much time. -/
def onTimer (timer : BlinkTimer) (elapsed : UInt32) (display : Display) (pending : Bool) :
    BlinkTimer × (Display × Output) × BlinkOutcome :=
  let advanced := timer.advance elapsed
  if advanced.2 then
    let tried := display.tryUse fun con => con.toggle pending
    let outcome :=
      match tried.2 with
      | none => .busy
      | some none => .suppressed
      | some (some visible) => .toggled visible
    (advanced.1, tried.1, outcome)
  else (advanced.1, (display, {}), .notDue)

end BlinkTimer

end GlyphConsole
