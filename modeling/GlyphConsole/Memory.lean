import GlyphConsole.Fault

/-!
# GlyphConsole.Memory — how much can be asked for

Whatever keeps a value for each byte, cell or answer asks for memory first, all of it
in one piece.  Addresses have 47 bits, so there is no piece of `Memory.limit` bytes or
more, and what has been granted is counted far below the end of a word
(`Memory.reserve_eq_ok_iff`).
-/

namespace GlyphConsole

set_option autoImplicit false

namespace Memory

/-- A piece of memory is smaller than this, `2 ^ 47`. -/
def limit : Nat := 0x800000000000

/-- Ask for a piece of so many bytes. -/
def reserve (bytes : Nat) : Except Fault Unit :=
  if bytes < limit then .ok () else .error .outOfMemory

theorem reserve_eq_ok_iff (bytes : Nat) : reserve bytes = .ok () ↔ bytes < limit := by
  unfold reserve
  split <;> simp_all

/-- The bytes of one answer in a list of answers. -/
def answerBytes : Nat := 32

/-- Ask for a list of so many answers. -/
def reserveAnswers (count : Nat) : Except Fault Unit := reserve (count * answerBytes)

end Memory

end GlyphConsole
