import GlyphConsole.Memory

/-!
# GlyphConsole.Keyboard.Queue — raw scancodes between the interrupt and the shell

The keyboard interrupt cannot wait, so it leaves raw bytes in a `ScancodeQueue`, a
ring of fixed size.  Two bytes are answers of the keyboard and not keys; they are
never queued.  Any other byte that finds the ring full is lost, and the queue
remembers that until somebody asks.

`toList` is the view: the bytes that wait, oldest first.  It is `size` bytes long,
read from `head` onwards around the ring.  A byte that is popped comes off its front
(`toList_pop`).
-/

namespace GlyphConsole

set_option autoImplicit false

/-- A ring of raw scancodes. -/
structure ScancodeQueue where
  slots : Vector UInt8 128 := Vector.replicate 128 0
  /-- Where the oldest byte stands. -/
  head : Fin 128 := 0
  /-- Where the next byte goes. -/
  tail : Fin 128 := 0
  size : Nat := 0
  /-- A byte was lost since this was last asked. -/
  dropped : Bool := false

namespace ScancodeQueue

def capacity : Nat := 128

def empty : ScancodeQueue := {}

def isEmpty (q : ScancodeQueue) : Bool := q.size == 0

/-- The byte acknowledges a command, or asks for it again. -/
def isAnswer (byte : UInt8) : Bool := byte == 0xFA || byte == 0xFE

/-- Queue a byte, unless it is an answer or the ring is full. -/
def push (q : ScancodeQueue) (byte : UInt8) : ScancodeQueue :=
  if isAnswer byte then q
  else if q.size = capacity then { q with dropped := true }
  else
    { q with
      slots := q.slots.set q.tail.val byte q.tail.isLt
      tail := q.tail + 1
      size := q.size + 1 }

/-- Take the oldest byte. -/
def pop (q : ScancodeQueue) : ScancodeQueue × Option UInt8 :=
  if q.size = 0 then (q, none)
  else ({ q with head := q.head + 1, size := q.size - 1 }, some q.slots[q.head])

/-- Take the oldest byte so many times. -/
def popMany (q : ScancodeQueue) : Nat → ScancodeQueue × List (Option UInt8)
  | 0 => (q, [])
  | n + 1 =>
      let popped := q.pop
      let after := popped.1.popMany n
      (after.1, popped.2 :: after.2)

/-- Take the oldest byte so many times, if the answers can be kept. -/
def popMany? (q : ScancodeQueue) (n : Nat) : Except Fault (ScancodeQueue × List (Option UInt8)) :=
  (Memory.reserveAnswers n).map fun _ => q.popMany n

/-- Whether a byte was lost since the last time; asking forgets it. -/
def takeDropped (q : ScancodeQueue) : ScancodeQueue × Bool :=
  ({ q with dropped := false }, q.dropped)

/-- The bytes that wait, oldest first. -/
def toList (q : ScancodeQueue) : List UInt8 :=
  (List.range q.size).map fun i => q.slots[q.head + Fin.ofNat 128 i]

@[simp] theorem length_toList (q : ScancodeQueue) : q.toList.length = q.size := by
  simp [toList]

theorem pop_eq_none_iff (q : ScancodeQueue) : q.pop.2 = none ↔ q.size = 0 := by
  unfold pop
  split <;> simp_all

theorem size_pop_lt {q : ScancodeQueue} {byte : UInt8} (popped : q.pop.2 = some byte) :
    q.pop.1.size < q.size := by
  unfold pop at *
  split at popped
  · simp at popped
  · rename_i waiting
    simp only [waiting, if_false]
    omega

@[simp] theorem size_takeDropped (q : ScancodeQueue) : q.takeDropped.1.size = q.size := rfl

/-! ## Slots -/

variable {q : ScancodeQueue}

/-- The slot of the byte that has `i` bytes in front of it. -/
def slot (q : ScancodeQueue) (i : Nat) : Fin 128 := q.head + Fin.ofNat 128 i

/-- The ring with one byte more at its tail. -/
def store (q : ScancodeQueue) (byte : UInt8) : ScancodeQueue :=
  { q with
    slots := q.slots.set q.tail.val byte q.tail.isLt
    tail := q.tail + 1
    size := q.size + 1 }

theorem val_slot (q : ScancodeQueue) (i : Nat) : (q.slot i).val = (q.head.val + i) % 128 := by
  simp only [slot, Fin.val_add, Fin.val_ofNat]
  omega

theorem toList_eq (q : ScancodeQueue) :
    q.toList = (List.range q.size).map fun i => q.slots[q.slot i] := rfl

theorem pop_of_empty (empty : q.size = 0) : q.pop = (q, none) := by
  simp [pop, empty]

theorem pop_of_waiting (waiting : q.size ≠ 0) :
    q.pop = ({ q with head := q.head + 1, size := q.size - 1 }, some q.slots[q.head]) := by
  simp [pop, waiting]

/-- The byte that is popped was the first of the queue. -/
theorem toList_pop (waiting : q.size ≠ 0) : q.toList = q.slots[q.head] :: q.pop.1.toList := by
  obtain ⟨n, size⟩ := Nat.exists_eq_succ_of_ne_zero waiting
  have first : q.slot 0 = q.head := by
    apply Fin.ext
    have small := q.head.isLt
    rw [val_slot]
    omega
  have shifted : ∀ i, q.pop.1.slot i = q.slot (i + 1) := by
    intro i
    apply Fin.ext
    rw [pop_of_waiting waiting, val_slot, val_slot]
    simp only [Fin.val_add, Fin.val_one]
    omega
  have slots : q.pop.1.slots = q.slots := by rw [pop_of_waiting waiting]
  have left : q.pop.1.size = n := by
    rw [pop_of_waiting waiting]
    dsimp only
    omega
  rw [toList_eq, toList_eq, size, left, slots, List.range_succ_eq_map, List.map_cons, List.map_map]
  simp only [Function.comp_def, shifted, first]

end ScancodeQueue

end GlyphConsole
