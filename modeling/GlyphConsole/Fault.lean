/-!
# GlyphConsole.Fault — operations that cannot go on

An operation that has no meaning for its arguments stops the program with a
`Fault`.  Four exist: moving a cursor over a grid without columns, arithmetic whose
result no word can hold, reaching past the end of a buffer, and asking for more
memory than there is.
-/

namespace GlyphConsole

set_option autoImplicit false

/-- Why an operation stopped the program. -/
inductive Fault where
  | noColumns
  | overflow
  | outOfBuffer
  | outOfMemory
deriving DecidableEq, Inhabited

end GlyphConsole
