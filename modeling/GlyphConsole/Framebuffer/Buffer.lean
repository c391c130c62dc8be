import GlyphConsole.Memory

/-!
# GlyphConsole.Framebuffer.Buffer — runs of bytes in a buffer

A `Buffer` is a piece of memory.  Pixels are short runs of bytes at computed places in
it: `Buffer.write` puts a run down, `Buffer.read` takes one up, and `Buffer.copy`
carries one over from another buffer.  None changes the size of the buffer, and each
is described byte by byte through the view `get?` (`get?_write`, `get?_copy`).

A run that does not fit is not written at all; `Buffer.read` answers `none` for it.
-/

namespace GlyphConsole

set_option autoImplicit false

/-- Bytes that a surface is made of. -/
structure Buffer where
  bytes : Array UInt8
  size_lt : bytes.size < Memory.limit
deriving DecidableEq

namespace Buffer

def size (buffer : Buffer) : Nat := buffer.bytes.size

def get? (buffer : Buffer) (i : Nat) : Option UInt8 := buffer.bytes[i]?

/-- The bytes of a pattern over and over, or zeros if there is none. -/
def repeated (length : Nat) (pattern : Array UInt8) : Array UInt8 :=
  if pattern.isEmpty then Array.replicate length 0
  else Array.ofFn fun i : Fin length => pattern.getD (i.val % pattern.size) 0

theorem size_repeated (length : Nat) (pattern : Array UInt8) :
    (repeated length pattern).size = length := by
  unfold repeated
  split <;> simp

/-- A new buffer that repeats a pattern. -/
def filled (length : Nat) (pattern : Array UInt8) : Except Fault Buffer :=
  match granted : Memory.reserve length with
  | .ok () =>
      .ok ⟨repeated length pattern, by
        rw [size_repeated]
        exact (Memory.reserve_eq_ok_iff length).1 granted⟩
  | .error fault => .error fault

/-- The bytes from `first` on and before `past`, as far as there are any. -/
def slice (buffer : Buffer) (first past : Nat) : Buffer :=
  ⟨buffer.bytes.extract first past, by
    have bound := buffer.size_lt
    rw [Array.size_extract]
    omega⟩

/-- Put one byte down; nothing happens past the end. -/
def set (buffer : Buffer) (i : Nat) (byte : UInt8) : Buffer :=
  ⟨buffer.bytes.setIfInBounds i byte, by
    rw [Array.size_setIfInBounds]
    exact buffer.size_lt⟩

/-- Put bytes down from `offset` on, as far as the buffer reaches. -/
def put (buffer : Buffer) (offset : Nat) : List UInt8 → Buffer
  | [] => buffer
  | byte :: rest => put (buffer.set offset byte) (offset + 1) rest

/-- Put a run of bytes down, if all of it fits. -/
def write (buffer : Buffer) (offset : Nat) (bytes : List UInt8) : Buffer :=
  if offset + bytes.length ≤ buffer.size then put buffer offset bytes else buffer

/-- The run of `length` bytes from `offset` on, if the buffer holds all of it. -/
def read (buffer : Buffer) (offset length : Nat) : Option (List UInt8) :=
  if offset + length ≤ buffer.size then
    some (buffer.bytes.extract offset (offset + length)).toList
  else none

/-- Carry `length` bytes from `offset` on over from `source`. -/
def copy (source : Buffer) (offset length : Nat) (target : Buffer) : Buffer :=
  match length with
  | 0 => target
  | length + 1 =>
      copy source (offset + 1) length (target.set offset ((source.get? offset).getD 0))

/-! ## Sizes -/

@[simp] theorem size_set (buffer : Buffer) (i : Nat) (byte : UInt8) :
    (buffer.set i byte).size = buffer.size := Array.size_setIfInBounds

@[simp] theorem size_put (buffer : Buffer) (offset : Nat) (bytes : List UInt8) :
    (put buffer offset bytes).size = buffer.size := by
  induction bytes generalizing buffer offset with
  | nil => rfl
  | cons byte rest ih => simp [put, ih]

@[simp] theorem size_write (buffer : Buffer) (offset : Nat) (bytes : List UInt8) :
    (write buffer offset bytes).size = buffer.size := by
  unfold write
  split <;> simp

@[simp] theorem size_copy (source : Buffer) (offset length : Nat) (target : Buffer) :
    (copy source offset length target).size = target.size := by
  induction length generalizing offset target with
  | zero => rfl
  | succ length ih => simp [copy, ih]

/-! ## Byte by byte -/

theorem get?_eq_some_of_lt {buffer : Buffer} {i : Nat} (inside : i < buffer.bytes.size) :
    buffer.get? i = some buffer.bytes[i] :=
  Array.getElem?_eq_getElem inside

theorem get?_set (buffer : Buffer) (i j : Nat) (byte : UInt8) :
    (buffer.set i byte).get? j = if j = i ∧ i < buffer.size then some byte else buffer.get? j := by
  simp only [set, get?, size, Array.getElem?_setIfInBounds]
  by_cases same : j = i
  · subst same
    by_cases inside : j < buffer.bytes.size
    · simp [inside]
    · simp [inside]
  · simp [same, Ne.symm same]

theorem get?_put (buffer : Buffer) (offset : Nat) (bytes : List UInt8) (i : Nat)
    (fits : offset + bytes.length ≤ buffer.size) :
    (put buffer offset bytes).get? i =
      if offset ≤ i ∧ i < offset + bytes.length then bytes[i - offset]? else buffer.get? i := by
  induction bytes generalizing buffer offset with
  | nil =>
      have outside : ¬ (offset ≤ i ∧ i < offset + 0) := by omega
      simp only [put, List.length_nil, outside, if_false]
  | cons byte rest ih =>
      simp only [List.length_cons] at fits
      rw [put, ih _ _ (by simp only [size_set]; omega), get?_set]
      by_cases later : offset + 1 ≤ i ∧ i < offset + 1 + rest.length
      · have inside : offset ≤ i ∧ i < offset + (rest.length + 1) := by omega
        have step : i - offset = (i - (offset + 1)) + 1 := by omega
        simp only [later, and_self, if_true, List.length_cons, inside, step,
          List.getElem?_cons_succ]
      · by_cases first : i = offset
        · subst first
          have inside : i ≤ i ∧ i < i + (rest.length + 1) := by omega
          have bound : i < buffer.size := by omega
          simp only [later, if_false, List.length_cons, inside, and_self, if_true, bound,
            Nat.sub_self, List.getElem?_cons_zero]
        · have outside : ¬ (offset ≤ i ∧ i < offset + (rest.length + 1)) := by omega
          simp only [later, if_false, List.length_cons, outside, first, false_and]

/-- A written run stands where it was put, and nothing else changed. -/
theorem get?_write (buffer : Buffer) (offset : Nat) (bytes : List UInt8) (i : Nat) :
    (write buffer offset bytes).get? i =
      if offset + bytes.length ≤ buffer.size ∧ offset ≤ i ∧ i < offset + bytes.length then
        bytes[i - offset]?
      else buffer.get? i := by
  by_cases fits : offset + bytes.length ≤ buffer.size
  · simp only [write, fits, if_true, get?_put buffer offset bytes i fits, true_and]
  · simp only [write, fits, if_false, false_and]

/-- A copied run agrees with its source, and nothing else changed. -/
theorem get?_copy (source : Buffer) (offset length : Nat) (target : Buffer) (i : Nat)
    (inSource : offset + length ≤ source.size) (inTarget : offset + length ≤ target.size) :
    (copy source offset length target).get? i =
      if offset ≤ i ∧ i < offset + length then source.get? i else target.get? i := by
  induction length generalizing offset target with
  | zero =>
      have outside : ¬ (offset ≤ i ∧ i < offset + 0) := by omega
      simp only [copy, outside, if_false]
  | succ length ih =>
      rw [copy, ih _ _ (by omega) (by simp only [size_set]; omega), get?_set]
      by_cases later : offset + 1 ≤ i ∧ i < offset + 1 + length
      · have inside : offset ≤ i ∧ i < offset + (length + 1) := by omega
        simp only [later, and_self, if_true, inside]
      · by_cases first : i = offset
        · subst first
          have inside : i ≤ i ∧ i < i + (length + 1) := by omega
          have here : i < source.size := by omega
          have there : i < target.size := by omega
          simp only [later, if_false, inside, and_self, if_true, there,
            get?_eq_some_of_lt here, Option.getD_some]
        · have outside : ¬ (offset ≤ i ∧ i < offset + (length + 1)) := by omega
          simp only [later, if_false, outside, first, false_and]

end Buffer

end GlyphConsole
