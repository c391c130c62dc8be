/-!
# GlyphConsole.Keyboard.Event — what a key press means to the console

Most keys type a character.  Four more have a meaning of their own: the end of a
line, rubbing out the last character, and paging in both directions.
-/

namespace GlyphConsole

set_option autoImplicit false

/-- A key press that means something to the console. -/
inductive KeyEvent where
  | char (c : Char)
  | enter
  | backspace
  | pageUp
  | pageDown
deriving DecidableEq, Inhabited

end GlyphConsole
