/-!
# GlyphConsole.Text.Blank — which characters separate words

A character is blank if Unicode gives it the property `White_Space`: the ASCII
blanks and controls, the next-line and no-break characters, and the spaces of
various widths.  The ranges below are the whole property.
-/

namespace GlyphConsole.Text

set_option autoImplicit false

/-- The ranges of blank characters, both ends included. -/
def blankRanges : List (Nat × Nat) :=
  [(0x0009, 0x000D), (0x0020, 0x0020), (0x0085, 0x0085), (0x00A0, 0x00A0), (0x1680, 0x1680),
    (0x2000, 0x200A), (0x2028, 0x2029), (0x202F, 0x202F), (0x205F, 0x205F), (0x3000, 0x3000)]

/-- The character separates words. -/
def isBlank (c : Char) : Bool :=
  blankRanges.any fun range => range.1 ≤ c.toNat ∧ c.toNat ≤ range.2

end GlyphConsole.Text
