/-!
# GlyphConsole.Shell.CommandHistory — the lines entered before

The shell remembers the newest lines, oldest first.  A line equal to the newest one is
not remembered again.  When the history is full, the oldest line makes room.
-/

namespace GlyphConsole

set_option autoImplicit false

/-- How many lines are remembered. -/
def CommandHistory.capacity : Nat := 32

/-- The newest lines, oldest first. -/
structure CommandHistory where
  lines : List (List Char) := []
  length_le : lines.length ≤ CommandHistory.capacity := by decide
deriving DecidableEq

namespace CommandHistory

def empty : CommandHistory := {}

def size (h : CommandHistory) : Nat := h.lines.length

/-- Remember a line, unless it is the newest one already. -/
def remember (h : CommandHistory) (line : List Char) : CommandHistory :=
  if h.lines.getLast? = some line then h
  else if room : h.lines.length < capacity then
    ⟨h.lines ++ [line], by simp only [List.length_append, List.length_singleton]; omega⟩
  else
    ⟨h.lines.tail ++ [line], by
      have := h.length_le
      have : 0 < capacity := by decide
      simp only [List.length_append, List.length_tail, List.length_singleton]
      omega⟩

/-- The line just remembered is the newest. -/
theorem getLast?_remember (h : CommandHistory) (line : List Char) :
    (h.remember line).lines.getLast? = some line := by
  unfold remember
  split
  · assumption
  · split <;> simp

theorem remember_ne_nil (h : CommandHistory) (line : List Char) : (h.remember line).lines ≠ [] := by
  intro none
  have newest := h.getLast?_remember line
  rw [none] at newest
  cases newest

/-- Nothing but the line is added to what is remembered. -/
theorem mem_of_mem_remember {h : CommandHistory} {line other : List Char}
    (member : other ∈ (h.remember line).lines) : other ∈ h.lines ∨ other = line := by
  unfold remember at member
  split at member
  · exact .inl member
  · split at member
    · simpa using member
    · rcases List.mem_append.1 member with kept | added
      · exact .inl (List.mem_of_mem_tail kept)
      · exact .inr (List.mem_singleton.1 added)

end CommandHistory

end GlyphConsole
