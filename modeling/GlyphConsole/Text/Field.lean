/-!
# GlyphConsole.Text.Field — padded fields and hexadecimal numerals

Texts of the console line up by padding with spaces: `padRight` for left-aligned
columns, `padLeft` for numbers.  Widths count characters, and a text that is
already wide enough is left alone.

`hex` writes a number in lower-case hexadecimal with at least the given number of
digits; `quoted` writes a line between quotation marks with `"` and `\` escaped.
-/

namespace GlyphConsole.Text

set_option autoImplicit false

/-- Append spaces up to `width` characters. -/
def padRight (width : Nat) (s : String) : String :=
  s ++ String.ofList (List.replicate (width - s.length) ' ')

/-- Prepend spaces up to `width` characters. -/
def padLeft (width : Nat) (s : String) : String :=
  String.ofList (List.replicate (width - s.length) ' ') ++ s

/-- The number in base sixteen, at least `digits` digits long. -/
def hex (digits n : Nat) : String :=
  let numeral := Nat.toDigits 16 n
  String.ofList (List.replicate (digits - numeral.length) '0' ++ numeral)

/-- How a character is written inside quotation marks. -/
def escape (c : Char) : List Char :=
  if c = '"' ∨ c = '\\' then ['\\', c] else [c]

/-- A line of printable characters between quotation marks. -/
def quoted (line : List Char) : String :=
  String.ofList ('"' :: line.flatMap escape ++ ['"'])

end GlyphConsole.Text
