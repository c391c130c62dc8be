import GlyphConsole.Log.Level

/-!
# GlyphConsole.Log.Record — the lines of the log

A `Record` is written as one line, `[LEVEL] target: message`, ended by a carriage
return and a line feed because it goes to a serial terminal.  `transcript` is the
text of the records that a threshold admits, in order.
-/

namespace GlyphConsole.Log

set_option autoImplicit false

/-- One message, with its severity and the part of the system it comes from. -/
structure Record where
  level : Level
  target : String
  message : String
deriving DecidableEq, Inhabited

def Record.line (r : Record) : String :=
  "[" ++ r.level.name ++ "] " ++ r.target ++ ": " ++ r.message ++ "\r\n"

/-- The text that a list of records leaves on the log under a threshold. -/
def transcript (threshold : Threshold) (records : List Record) : String :=
  String.join ((records.filter fun r => threshold.admits r.level).map Record.line)

end GlyphConsole.Log
