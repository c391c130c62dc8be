/-!
# GlyphConsole.Log.Level — severities and thresholds

A `Level` says how much a log record matters, from `error` down to `trace`; its
`rank` grows with the detail.  A `Threshold` lets through every level up to its
own, or nothing at all.
-/

namespace GlyphConsole.Log

set_option autoImplicit false

/-- The severity of a record. -/
inductive Level where
  | error
  | warn
  | info
  | debug
  | trace
deriving DecidableEq, Inhabited

def Level.rank : Level → Nat
  | .error => 1
  | .warn => 2
  | .info => 3
  | .debug => 4
  | .trace => 5

def Level.name : Level → String
  | .error => "ERROR"
  | .warn => "WARN"
  | .info => "INFO"
  | .debug => "DEBUG"
  | .trace => "TRACE"

/-- How much detail is let through. -/
inductive Threshold where
  | off
  | upTo (level : Level)
deriving DecidableEq, Inhabited

def Threshold.rank : Threshold → Nat
  | .off => 0
  | .upTo level => level.rank

/-- The threshold lets records of this level through. -/
def Threshold.admits (t : Threshold) (level : Level) : Bool := level.rank ≤ t.rank

end GlyphConsole.Log
