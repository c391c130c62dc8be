import Mathlib.Data.List.DropRight
import GlyphConsole.Console.Scrollback

/-!
# GlyphConsole.Proofs.Retention — what a scrollback keeps and what it hands back

A `Ledger` is a scrollback with its books: the spans it was given since it was last cleared,
and the spans it handed back meanwhile.  The books are `Balanced` if what was handed back,
followed by what is kept, is what was given, and if as much is kept as there is room for.
Nothing more has to be known of a ledger: how many spans are kept says which ones they are
(`Balanced.spans_eq`), which one is the newest (`Balanced.newest?_eq`), and what the next one
pushes out (`Balanced.isSome_evicted_iff`).

An entry keeps the books balanced (`Balanced.enter`), so any run of entries does.
-/

namespace GlyphConsole

set_option autoImplicit false

namespace Scrollback

/-! ## One span more -/

/-- Something that is done to a scrollback. -/
inductive Entry where
  | append (span : Span)
  | clear
deriving DecidableEq

theorem size_append {s : Scrollback} (within : s.size ≤ s.capacity) (span : Span) :
    (s.append span).1.size = min s.capacity (s.size + 1) := by
  have grown : (s.spans ++ [span]).length = s.size + 1 := by
    rw [List.length_append, List.length_singleton]
    rfl
  unfold append
  dsimp only
  split
  · rename_i full
    show (s.spans ++ [span]).tail.length = _
    rw [List.length_tail]
    omega
  · show (s.spans ++ [span]).length = _
    omega

/-- What is handed back was the oldest span, if there was one. -/
theorem head?_of_evicted {s : Scrollback} (held : s.spans ≠ []) {span dropped : Span}
    (back : (s.append span).2 = some dropped) : s.spans.head? = some dropped := by
  have whole := s.evicted_append_spans span
  rw [back, Option.toList_some, List.singleton_append] at whole
  rw [← List.head?_append_of_ne_nil s.spans held, ← whole, List.head?_cons]

/-! ## The books -/

/-- A scrollback and its books. -/
structure Ledger where
  store : Scrollback
  /-- The spans appended since the store was last cleared. -/
  appended : List Span := []
  /-- The spans that it handed back since then. -/
  evicted : List Span := []
deriving DecidableEq

namespace Ledger

def enter (l : Ledger) : Entry → Ledger
  | .append span =>
      let done := l.store.append span
      { store := done.1
        appended := l.appended ++ [span]
        evicted := l.evicted ++ done.2.toList }
  | .clear => { store := l.store.clear }

def enterAll (l : Ledger) (entries : List Entry) : Ledger := entries.foldl enter l

/-- Nothing is lost, and with room for `n` spans no more are handed back than must be. -/
structure Balanced (l : Ledger) (n : Nat) : Prop where
  capacity : l.store.capacity = n
  conserved : l.evicted ++ l.store.spans = l.appended
  size : l.store.size = min n l.appended.length

theorem balanced_new (capacity : Nat) :
    ({ store := ofCapacity capacity } : Ledger).Balanced (max capacity 1) := by
  refine ⟨rfl, rfl, ?_⟩
  rw [List.length_nil, Nat.min_zero]
  rfl

namespace Balanced

variable {l : Ledger} {n : Nat}

theorem within (balanced : l.Balanced n) : l.store.size ≤ l.store.capacity := by
  rw [balanced.capacity, balanced.size]
  exact Nat.min_le_left _ _

theorem enter (balanced : l.Balanced n) (entry : Entry) : (l.enter entry).Balanced n := by
  cases entry with
  | append span =>
      constructor
      · exact (capacity_append _ _).trans balanced.capacity
      · show l.evicted ++ (l.store.append span).2.toList ++ (l.store.append span).1.spans =
          l.appended ++ [span]
        rw [List.append_assoc, evicted_append_spans, ← List.append_assoc, balanced.conserved]
      · show (l.store.append span).1.size = min n (l.appended ++ [span]).length
        have before := balanced.size
        rw [size_append balanced.within, balanced.capacity, List.length_append,
          List.length_singleton]
        omega
  | clear =>
      refine ⟨balanced.capacity, rfl, ?_⟩
      show ([] : List Span).length = min n ([] : List Span).length
      rw [List.length_nil, Nat.min_zero]

theorem enterAll (balanced : l.Balanced n) (entries : List Entry) :
    (l.enterAll entries).Balanced n := by
  induction entries generalizing l with
  | nil => exact balanced
  | cons entry rest ih => exact ih (balanced.enter entry)

/-! ## What balanced books say -/

/-- The spans that are kept are the newest ones. -/
theorem spans_eq (balanced : l.Balanced n) : l.store.spans = l.appended.rtake n := by
  have count : l.evicted.length + l.store.size = l.appended.length := by
    rw [← balanced.conserved, List.length_append]
    rfl
  have size := balanced.size
  have handed : l.evicted.length = l.appended.length - n := by omega
  rw [List.rtake, ← handed, ← balanced.conserved, List.drop_left]

/-- The newest span that is kept is the last one appended. -/
theorem newest?_eq (balanced : l.Balanced n) (room : 0 < n) :
    l.store.newest? = l.appended.getLast? := by
  unfold newest?
  cases kept : l.store.spans with
  | nil =>
      have size : 0 = min n l.appended.length := by
        rw [← balanced.size, Scrollback.size, kept, List.length_nil]
      have empty : l.appended = [] := List.eq_nil_of_length_eq_zero (by omega)
      rw [empty]
  | cons oldest rest =>
      rw [← balanced.conserved, kept, List.getLast?_append_of_ne_nil _ (List.cons_ne_nil _ _)]

/-- One span more pushes another out exactly if there is no room left. -/
theorem isSome_evicted_iff (balanced : l.Balanced n) (span : Span) :
    (l.store.append span).2.isSome ↔ l.store.size = n := by
  have size := balanced.size
  rw [Scrollback.isSome_evicted_iff, balanced.capacity]
  omega

end Balanced

end Ledger

/-- **What was handed back, then what is kept, is all that was given.**  Let any spans be
appended to a new scrollback, and let it be cleared any number of times between.  With a
capacity of `n`, where zero counts as one, these hold at every moment, the spans being the ones
appended since the scrollback was last cleared:

* the spans that were handed back, followed by the spans that are kept, are all of them, in the
  order in which they were appended;
* the spans that are kept are the newest ones, `n` of them or all that there are, so never more
  than `n`, and the newest span is the last one appended;
* appending a span hands one back exactly if `n` are kept, and that is the oldest of these. -/
theorem evicted_then_kept (capacity : Nat) (entries : List Entry) :
    let n := max capacity 1
    let l := Ledger.enterAll { store := ofCapacity capacity } entries
    l.evicted ++ l.store.spans = l.appended ∧
    l.store.spans = l.appended.rtake n ∧
    l.store.size = min n l.appended.length ∧
    l.store.size ≤ n ∧
    l.store.newest? = l.appended.getLast? ∧
    ∀ span, ((l.store.append span).2.isSome ↔ l.store.size = n) ∧
      ∀ oldest, (l.store.append span).2 = some oldest → l.store.spans.head? = some oldest := by
  intro n l
  have room : 0 < n := Nat.le_max_right _ _
  have balanced : l.Balanced n := (Ledger.balanced_new capacity).enterAll entries
  have within : l.store.size ≤ n := balanced.capacity ▸ balanced.within
  refine ⟨balanced.conserved, balanced.spans_eq, balanced.size, within,
    balanced.newest?_eq room, ?_⟩
  intro span
  refine ⟨balanced.isSome_evicted_iff span, ?_⟩
  intro oldest back
  have full : l.store.size = n :=
    (balanced.isSome_evicted_iff span).1 (Option.isSome_of_eq_some back)
  have held : 0 < l.store.size := by
    rw [full]
    exact room
  exact head?_of_evicted (List.ne_nil_of_length_pos held) back

/-- With no room at all there is still room for one, and a clear hands nothing back. -/
example :
    let a : Span := ⟨"a", .white, .origin⟩
    let b : Span := ⟨"bb", .white, .origin⟩
    Ledger.enterAll { store := ofCapacity 0 } [.append a, .clear, .append b, .append a] =
      { store := { spans := [a], capacity := 1 }, appended := [b, a], evicted := [b] } := by
  decide +kernel

end Scrollback

end GlyphConsole
