/-!
# GlyphConsole.Shell.InputLine — the line being typed

The shell takes letters, digits, the space and the punctuation of ASCII
(`isTypable`).  An `InputLine` holds what was typed since the last line was entered,
never more than its capacity.  Characters are added and taken away at the end.
-/

namespace GlyphConsole

set_option autoImplicit false

def punctuation : List Char := "`~!@#$%^&*()_+-=[]\\\x7b\x7d|;':\",../<>?".toList

/-- The shell takes this character into its line. -/
def isTypable (c : Char) : Bool := c == ' ' || c.isAlphanum || punctuation.contains c

/-- How many characters a line holds. -/
def InputLine.capacity : Nat := 128

/-- What has been typed so far. -/
structure InputLine where
  chars : List Char := []
  length_le : chars.length ≤ InputLine.capacity := by decide
deriving DecidableEq

namespace InputLine

def empty : InputLine := {}

def toString (line : InputLine) : String := String.ofList line.chars

/-- The line with one more character, if there is room. -/
def push? (line : InputLine) (c : Char) : Option InputLine :=
  if room : line.chars.length < capacity then
    some ⟨line.chars ++ [c], by simp only [List.length_append, List.length_singleton]; omega⟩
  else none

/-- The line without its last character, if there is one. -/
def pop? (line : InputLine) : Option InputLine :=
  if line.chars = [] then none
  else some ⟨line.chars.dropLast, by
    have := line.length_le
    simp only [List.length_dropLast]
    omega⟩

theorem push?_eq_none_iff (line : InputLine) (c : Char) :
    line.push? c = none ↔ line.chars.length = capacity := by
  have := line.length_le
  unfold push?
  split
  · simp only [reduceCtorEq, false_iff]
    omega
  · simp only [true_iff]
    omega

theorem chars_push? {line longer : InputLine} {c : Char} (pushed : line.push? c = some longer) :
    longer.chars = line.chars ++ [c] := by
  unfold push? at pushed
  split at pushed
  · simp only [Option.some.injEq] at pushed
    rw [← pushed]
  · simp at pushed

theorem chars_pop? {line shorter : InputLine} (popped : line.pop? = some shorter) :
    shorter.chars = line.chars.dropLast := by
  unfold pop? at popped
  split at popped
  · simp at popped
  · simp only [Option.some.injEq] at popped
    rw [← popped]

end InputLine

end GlyphConsole
