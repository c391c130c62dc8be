/-!
# GlyphConsole.Machine.Processor — what a processor says of itself

A processor can be asked for its maker, for the text of its brand and for its features, and
may have no answer to any of these.  The texts come from the hardware as they are.
-/

namespace GlyphConsole.Machine

set_option autoImplicit false

/-- Which processor it is, and which instructions it knows. -/
structure Features where
  model : UInt8
  family : UInt8
  stepping : UInt8
  sse : Bool
  sse2 : Bool
  sse3 : Bool
  avx : Bool
deriving DecidableEq, Inhabited

/-- The answers of a processor. -/
structure Processor where
  vendor : Option String := none
  brand : Option String := none
  features : Option Features := none
deriving DecidableEq, Inhabited

end GlyphConsole.Machine
