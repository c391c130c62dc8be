import GlyphConsole.Color
import GlyphConsole.Grid

/-!
# GlyphConsole.Console.Scrollback — the spans that a console can redraw

A `Span` is one write: its text after tabs were expanded, its color, and where the
cursor stood when it began.  A `Scrollback` keeps the newest spans, oldest first,
up to a capacity that counts spans and not characters.  A capacity of zero counts
as one, so the newest write is always kept.

Nothing is lost silently: `append` hands back the span it dropped, and what was
dropped followed by what is kept is what was there before followed by the new span
(`evicted_append_spans`).
-/

namespace GlyphConsole

set_option autoImplicit false

/-- One write. -/
structure Span where
  text : String
  color : Color
  origin : Position
deriving DecidableEq, Inhabited

/-- The newest spans, oldest first. -/
structure Scrollback where
  spans : List Span := []
  capacity : Nat
deriving DecidableEq, Inhabited

namespace Scrollback

def ofCapacity (capacity : Nat) : Scrollback := { capacity := max capacity 1 }

def size (s : Scrollback) : Nat := s.spans.length

def isEmpty (s : Scrollback) : Bool := s.spans.isEmpty

/-- Keep a span.  If that is one too many, the oldest span is dropped and handed
back. -/
def append (s : Scrollback) (span : Span) : Scrollback × Option Span :=
  let spans := s.spans ++ [span]
  if s.capacity < spans.length then ({ s with spans := spans.tail }, spans.head?)
  else ({ s with spans }, none)

def clear (s : Scrollback) : Scrollback := { s with spans := [] }

def newest? (s : Scrollback) : Option Span := s.spans.getLast?

@[simp] theorem capacity_append (s : Scrollback) (span : Span) :
    (s.append span).1.capacity = s.capacity := by
  simp only [append]
  split <;> rfl

/-- What was dropped, then what is kept: nothing else was touched. -/
theorem evicted_append_spans (s : Scrollback) (span : Span) :
    (s.append span).2.toList ++ (s.append span).1.spans = s.spans ++ [span] := by
  simp only [append]
  split
  · cases h : s.spans ++ [span] with
    | nil => simp at h
    | cons first rest => simp
  · simp

/-- A span is dropped exactly when the scrollback was full. -/
theorem isSome_evicted_iff (s : Scrollback) (span : Span) :
    (s.append span).2.isSome ↔ s.capacity ≤ s.size := by
  simp only [append, size, List.length_append, List.length_singleton]
  split
  · rename_i full
    cases h : s.spans ++ [span] with
    | nil => simp at h
    | cons first rest =>
        simp only [List.head?_cons, Option.isSome_some, true_iff]
        omega
  · simp only [Option.isSome_none, Bool.false_eq_true, false_iff]
    omega

end Scrollback

end GlyphConsole
