import GlyphConsole.Framebuffer.Basic

/-!
# GlyphConsole.Proofs.Raster — painting and presenting, byte by byte

Where rows do not overlap, every byte of a buffer belongs to one pixel: the one in column
`Layout.columnOf` and row `Layout.rowOf`, of which it is byte `i % bytesPerPixel`.  The
bytes of a run of pixels in a row are exactly those whose pixel lies in the run
(`Layout.run_iff`), so what a loop over pixels does to the buffer is said in one line for
each loop:

* painting a rectangle changes the bytes of the pixels in it, to the encoded color
  (`Framebuffer.get?_painted`);
* presenting a rectangle carries the bytes of the pixels in it over
  (`Framebuffer.presentRows_eq`).
-/

namespace GlyphConsole

set_option autoImplicit false

/-- The pixel lies in the rectangle. -/
def Rect.Has (r : Rect) (x y : Nat) : Prop :=
  (r.left ≤ x ∧ x < r.right) ∧ r.top ≤ y ∧ y < r.bottom

instance (r : Rect) (x y : Nat) : Decidable (r.Has x y) := inferInstanceAs (Decidable (_ ∧ _))

/-- A run whose bytes are known one by one is read as a whole. -/
theorem Buffer.read_eq_some {b : Buffer} {offset : Nat} {bytes : List UInt8}
    (fits : offset + bytes.length ≤ b.size)
    (same : ∀ k, k < bytes.length → b.get? (offset + k) = bytes[k]?) :
    b.read offset bytes.length = some bytes := by
  have bound : offset + bytes.length ≤ b.bytes.size := fits
  rw [read, if_pos fits, Option.some.injEq]
  refine List.ext_getElem? fun k => ?_
  rw [Array.getElem?_toList, Array.getElem?_extract, Nat.min_eq_left bound,
    Nat.add_sub_cancel_left]
  by_cases inside : k < bytes.length
  · rw [if_pos inside]
    exact same k inside
  · rw [if_neg inside, List.getElem?_eq_none (Nat.le_of_not_lt inside)]

namespace Layout

variable {l : Layout}

/-- The column of the pixel that a byte belongs to. -/
def columnOf (l : Layout) (i : Nat) : Nat := i / l.bytesPerPixel % l.stride

/-- The row of the pixel that a byte belongs to. -/
def rowOf (l : Layout) (i : Nat) : Nat := i / l.bytesPerPixel / l.stride

/-- Rows do not overlap, and the buffer holds all of them. -/
structure Holds (l : Layout) (b : Buffer) : Prop where
  supported : l.format.supports l.bytesPerPixel = true
  width_le : l.width ≤ l.stride
  length_le : l.byteLength ≤ b.size

theorem Holds.of_size {b b' : Buffer} (holds : l.Holds b) (same : b'.size = b.size) : l.Holds b' :=
  ⟨holds.supported, holds.width_le, same ▸ holds.length_le⟩

/-- The rectangle has pixels, and all of them are on the surface. -/
structure Spans (l : Layout) (r : Rect) : Prop where
  left_lt : r.left < r.right
  right_le : r.right ≤ l.width
  top_lt : r.top < r.bottom
  bottom_le : r.bottom ≤ l.height

theorem bytesPerPixel_pos (supported : l.format.supports l.bytesPerPixel = true) :
    0 < l.bytesPerPixel := by
  rcases PixelFormat.supports_cases supported with ⟨-, h | h⟩ | ⟨-, h | h⟩ | ⟨-, h⟩ <;> omega

/-- Numbers that lie between two columns of one row, in terms of division. -/
theorem row_major_iff {stride left right y q : Nat} (fits : right ≤ stride) :
    (y * stride + left ≤ q ∧ q < y * stride + right) ↔
      (left ≤ q % stride ∧ q % stride < right) ∧ q / stride = y := by
  have whole := Nat.div_add_mod q stride
  constructor
  · rintro ⟨low, high⟩
    have row : q / stride = y := by
      refine Nat.div_eq_of_lt_le (Nat.le_trans (Nat.le_add_right _ _) low) ?_
      rw [Nat.succ_mul]
      omega
    rw [row, Nat.mul_comm] at whole
    exact ⟨⟨by omega, by omega⟩, row⟩
  · rintro ⟨⟨low, high⟩, rfl⟩
    rw [Nat.mul_comm] at whole
    exact ⟨by omega, by omega⟩

/-- The bytes of a run of pixels in one row. -/
theorem run_iff {left right : Nat} (pos : 0 < l.bytesPerPixel) (fits : right ≤ l.stride)
    (nonempty : left ≤ right) (y i : Nat) :
    (l.offset left y ≤ i ∧ i < l.offset left y + (right - left) * l.bytesPerPixel) ↔
      (left ≤ l.columnOf i ∧ l.columnOf i < right) ∧ l.rowOf i = y := by
  have reach : l.offset left y + (right - left) * l.bytesPerPixel =
      (y * l.stride + right) * l.bytesPerPixel := by
    rw [offset, ← Nat.add_mul]
    congr 1
    omega
  rw [reach, offset, ← Nat.le_div_iff_mul_le pos, ← Nat.div_lt_iff_lt_mul pos]
  exact row_major_iff fits

/-- The bytes of one pixel. -/
theorem pixel_iff {x y i : Nat} (pos : 0 < l.bytesPerPixel) (fits : x < l.stride) :
    (l.offset x y ≤ i ∧ i < l.offset x y + l.bytesPerPixel) ↔ l.columnOf i = x ∧ l.rowOf i = y := by
  have next : x + 1 ≤ l.stride := fits
  have run := run_iff pos next (Nat.le_add_right x 1) y i
  rw [Nat.add_sub_cancel_left, Nat.one_mul] at run
  rw [run]
  constructor
  · rintro ⟨⟨low, high⟩, row⟩
    exact ⟨by omega, row⟩
  · rintro ⟨rfl, row⟩
    exact ⟨⟨Nat.le_refl _, Nat.lt_succ_self _⟩, row⟩

/-- Pixels on the surface have their bytes inside the layout. -/
theorem run_le_byteLength {right y : Nat} (fits : right ≤ l.stride) (inside : y < l.height) :
    (y * l.stride + right) * l.bytesPerPixel ≤ l.byteLength := by
  refine Nat.mul_le_mul_right _ ?_
  have rows : (y + 1) * l.stride ≤ l.height * l.stride := Nat.mul_le_mul_right _ inside
  rw [Nat.succ_mul] at rows
  rw [Nat.mul_comm l.stride]
  omega

theorem pixel_le_byteLength {x y : Nat} (column : x < l.stride) (inside : y < l.height) :
    l.offset x y + l.bytesPerPixel ≤ l.byteLength := by
  have next : x + 1 ≤ l.stride := column
  have reach := run_le_byteLength next inside
  rw [← Nat.add_assoc, Nat.succ_mul] at reach
  exact reach

/-- On a buffer that holds the surface, the bytes of every pixel have numbers. -/
theorem Holds.addresses {b : Buffer} (holds : l.Holds b) {x y : Nat} (column : x < l.width)
    (row : y < l.height) : l.Addresses x y := by
  have inStride := Nat.lt_of_lt_of_le column holds.width_le
  have fits := Nat.le_trans (pixel_le_byteLength inStride row) holds.length_le
  have small := b.size_lt
  simp only [Memory.limit] at small
  show _ < 0x10000000000000000
  exact Nat.lt_of_le_of_lt fits (Nat.lt_trans small (by decide))

/-- The place of a byte among the bytes of its pixel. -/
theorem sub_offset_of_pixel {x y i : Nat} (column : l.columnOf i = x) (row : l.rowOf i = y) :
    i - l.offset x y = i % l.bytesPerPixel := by
  have pixel := Nat.div_add_mod (i / l.bytesPerPixel) l.stride
  have byte := Nat.div_add_mod i l.bytesPerPixel
  have start : l.offset x y = l.bytesPerPixel * (i / l.bytesPerPixel) := by
    rw [← column, ← row, offset, columnOf, rowOf, Nat.mul_comm _ l.stride, pixel, Nat.mul_comm]
  rw [start]
  omega

/-- The bytes of a pixel, counted from its first. -/
theorem offset_add {x y k : Nat} (column : x < l.stride) (inPixel : k < l.bytesPerPixel) :
    l.columnOf (l.offset x y + k) = x ∧ l.rowOf (l.offset x y + k) = y ∧
      (l.offset x y + k) % l.bytesPerPixel = k := by
  have pos : 0 < l.bytesPerPixel := Nat.lt_of_le_of_lt (Nat.zero_le k) inPixel
  obtain ⟨ownColumn, ownRow⟩ :=
    (pixel_iff (y := y) pos column).1 ⟨Nat.le_add_right _ k, Nat.add_lt_add_left inPixel _⟩
  have place := sub_offset_of_pixel ownColumn ownRow
  rw [Nat.add_sub_cancel_left] at place
  exact ⟨ownColumn, ownRow, place.symm⟩

end Layout

namespace Framebuffer

variable {l : Layout} {b : Buffer}

/-! ## Painting -/

theorem size_plot (l : Layout) (b : Buffer) (x y : Nat) (color : Color) :
    (plot l b x y color).size = b.size := Buffer.size_write _ _ _

/-- Painting a pixel changes the bytes of that pixel. -/
theorem get?_plot (holds : l.Holds b) {x y : Nat} (column : x < l.width) (row : y < l.height)
    (color : Color) (i : Nat) :
    (plot l b x y color).get? i =
      if l.columnOf i = x ∧ l.rowOf i = y then
        (l.format.encode l.bytesPerPixel color)[i % l.bytesPerPixel]?
      else b.get? i := by
  have pos := Layout.bytesPerPixel_pos holds.supported
  have inStride := Nat.lt_of_lt_of_le column holds.width_le
  have inside := Nat.le_trans (Layout.pixel_le_byteLength inStride row) holds.length_le
  rw [plot, Buffer.get?_write, PixelFormat.length_encode holds.supported]
  simp only [inside, true_and, Layout.pixel_iff pos inStride]
  split
  · rename_i own
    rw [Layout.sub_offset_of_pixel own.1 own.2]
  · rfl

theorem size_plots (l : Layout) (b : Buffer) (left count y : Nat) (shade : Nat → Nat → Color) :
    ((List.range' left count).foldl (fun b x => plot l b x y (shade x y)) b).size = b.size := by
  induction count generalizing left b with
  | zero => rfl
  | succ count ih => rw [List.range'_succ, List.foldl_cons, ih, size_plot]

/-- Painting a run of pixels in one row changes the bytes of those pixels. -/
theorem get?_plots (holds : l.Holds b) {left count y : Nat} (columns : left + count ≤ l.width)
    (row : y < l.height) (shade : Nat → Nat → Color) (i : Nat) :
    ((List.range' left count).foldl (fun b x => plot l b x y (shade x y)) b).get? i =
      if (left ≤ l.columnOf i ∧ l.columnOf i < left + count) ∧ l.rowOf i = y then
        (l.format.encode l.bytesPerPixel (shade (l.columnOf i) y))[i % l.bytesPerPixel]?
      else b.get? i := by
  induction count generalizing left b with
  | zero =>
      have nowhere : ¬ ((left ≤ l.columnOf i ∧ l.columnOf i < left + 0) ∧ l.rowOf i = y) := by omega
      rw [if_neg nowhere]
      rfl
  | succ count ih =>
      have column : left < l.width := by omega
      rw [List.range'_succ, List.foldl_cons, ih (holds.of_size (size_plot l b left y _)) (by omega),
        get?_plot holds column row]
      by_cases later : (left + 1 ≤ l.columnOf i ∧ l.columnOf i < left + 1 + count) ∧ l.rowOf i = y
      · have now : (left ≤ l.columnOf i ∧ l.columnOf i < left + (count + 1)) ∧ l.rowOf i = y := by
          omega
        rw [if_pos later, if_pos now]
      · rw [if_neg later]
        by_cases first : l.columnOf i = left ∧ l.rowOf i = y
        · have now : (left ≤ l.columnOf i ∧ l.columnOf i < left + (count + 1)) ∧ l.rowOf i = y := by
            omega
          rw [if_pos first, if_pos now, first.1]
        · have never :
              ¬ ((left ≤ l.columnOf i ∧ l.columnOf i < left + (count + 1)) ∧ l.rowOf i = y) := by
            omega
          rw [if_neg first, if_neg never]

theorem size_plotRow (l : Layout) (r : Rect) (shade : Nat → Nat → Color) (b : Buffer) (y : Nat) :
    (plotRow l r shade b y).size = b.size :=
  size_plots l b _ _ y shade

theorem plots_of_reach_le (supported : l.format.supports l.bytesPerPixel = true)
    {left count y : Nat} (beyond : b.size / l.bytesPerPixel - y * l.stride ≤ left)
    (shade : Nat → Nat → Color) :
    (List.range' left count).foldl (fun b x => plot l b x y (shade x y)) b = b := by
  induction count generalizing left with
  | zero => rfl
  | succ count ih =>
      rw [List.range'_succ, List.foldl_cons, plot_of_reach_le supported beyond, ih (by omega)]

/-- What is left out of a row behind the end of the buffer would not have been painted. -/
theorem plotRow_eq_plots (supported : l.format.supports l.bytesPerPixel = true) (r : Rect)
    (shade : Nat → Nat → Color) (b : Buffer) (y : Nat) :
    plotRow l r shade b y =
      (List.range' r.left (r.right - r.left)).foldl (fun b x => plot l b x y (shade x y)) b := by
  let reach := b.size / l.bytesPerPixel - y * l.stride
  by_cases whole : r.right ≤ reach
  · rw [plotRow, Nat.min_eq_left whole]
  · have kept : r.right - r.left = (reach - r.left) + (r.right - max r.left reach) := by omega
    rw [plotRow, Nat.min_eq_right (Nat.le_of_not_le whole), kept, ← List.range'_append,
      List.foldl_append]
    refine (plots_of_reach_le supported ?_ shade).symm
    rw [size_plots]
    omega

theorem get?_plotRow (holds : l.Holds b) {r : Rect} (spans : l.Spans r) {y : Nat}
    (row : y < l.height) (shade : Nat → Nat → Color) (i : Nat) :
    (plotRow l r shade b y).get? i =
      if (r.left ≤ l.columnOf i ∧ l.columnOf i < r.right) ∧ l.rowOf i = y then
        (l.format.encode l.bytesPerPixel (shade (l.columnOf i) y))[i % l.bytesPerPixel]?
      else b.get? i := by
  have nonempty := spans.left_lt
  have inside := spans.right_le
  have count : r.left + (r.right - r.left) = r.right := by omega
  have columns : r.left + (r.right - r.left) ≤ l.width := by omega
  have painted := get?_plots holds columns row shade i
  rw [count] at painted
  rw [plotRow_eq_plots holds.supported]
  exact painted

theorem size_plotRows (l : Layout) (r : Rect) (shade : Nat → Nat → Color) (b : Buffer)
    (top count : Nat) : ((List.range' top count).foldl (plotRow l r shade) b).size = b.size := by
  induction count generalizing top b with
  | zero => rfl
  | succ count ih => rw [List.range'_succ, List.foldl_cons, ih, size_plotRow]

theorem get?_plotRows (holds : l.Holds b) {r : Rect} (spans : l.Spans r) {top count : Nat}
    (rows : top + count ≤ l.height) (shade : Nat → Nat → Color) (i : Nat) :
    ((List.range' top count).foldl (plotRow l r shade) b).get? i =
      if (r.left ≤ l.columnOf i ∧ l.columnOf i < r.right) ∧
          top ≤ l.rowOf i ∧ l.rowOf i < top + count then
        (l.format.encode l.bytesPerPixel (shade (l.columnOf i) (l.rowOf i)))[i % l.bytesPerPixel]?
      else b.get? i := by
  induction count generalizing top b with
  | zero =>
      have nowhere : ¬ ((r.left ≤ l.columnOf i ∧ l.columnOf i < r.right) ∧
          top ≤ l.rowOf i ∧ l.rowOf i < top + 0) := by omega
      rw [if_neg nowhere]
      rfl
  | succ count ih =>
      have row : top < l.height := by omega
      rw [List.range'_succ, List.foldl_cons,
        ih (holds.of_size (size_plotRow l r shade b top)) (by omega),
        get?_plotRow holds spans row]
      by_cases columns : r.left ≤ l.columnOf i ∧ l.columnOf i < r.right
      · simp only [columns, and_self, true_and]
        by_cases later : top + 1 ≤ l.rowOf i ∧ l.rowOf i < top + 1 + count
        · have now : top ≤ l.rowOf i ∧ l.rowOf i < top + (count + 1) := by omega
          rw [if_pos later, if_pos now]
        · rw [if_neg later]
          by_cases first : l.rowOf i = top
          · have now : top ≤ l.rowOf i ∧ l.rowOf i < top + (count + 1) := by omega
            rw [if_pos first, if_pos now, first]
          · have never : ¬ (top ≤ l.rowOf i ∧ l.rowOf i < top + (count + 1)) := by omega
            rw [if_neg first, if_neg never]
      · simp only [columns, false_and, if_false]

/-- Painting a rectangle changes the bytes of its pixels. -/
theorem get?_painted {fb : Framebuffer} (holds : fb.layout.Holds fb.back) {r : Rect}
    (spans : fb.layout.Spans r) (shade : Nat → Nat → Color) (i : Nat) :
    (fb.painted r shade).back.get? i =
      if r.Has (fb.layout.columnOf i) (fb.layout.rowOf i) then
        (fb.layout.format.encode fb.layout.bytesPerPixel
          (shade (fb.layout.columnOf i) (fb.layout.rowOf i)))[i % fb.layout.bytesPerPixel]?
      else fb.back.get? i := by
  have nonempty := spans.top_lt
  have inside := spans.bottom_le
  have count : r.top + (r.bottom - r.top) = r.bottom := by omega
  have rows : r.top + (r.bottom - r.top) ≤ fb.layout.height := by omega
  have painted := get?_plotRows holds spans rows shade i
  rw [count] at painted
  exact painted

theorem size_painted (fb : Framebuffer) (r : Rect) (shade : Nat → Nat → Color) :
    (fb.painted r shade).back.size = fb.back.size :=
  size_plotRows _ _ _ _ _ _

/-- Painting on the surface is never a fault. -/
theorem paint_eq {fb : Framebuffer} (holds : fb.layout.Holds fb.back) {r : Rect}
    (spans : fb.layout.Spans r) (shade : Nat → Nat → Color) :
    fb.paint r shade = .ok (fb.painted r shade) := by
  have width := spans.left_lt
  have height := spans.top_lt
  have right := spans.right_le
  have bottom := spans.bottom_le
  have nonempty : ¬ r.IsEmpty := by
    unfold Rect.IsEmpty
    omega
  have addressed : fb.layout.Addresses (r.right - 1) (r.bottom - 1) :=
    holds.addresses (by omega) (by omega)
  rw [paint, if_neg nonempty, if_pos addressed]

/-! ## Presenting -/

/-- Presenting a row carries over the bytes of its pixels. -/
theorem presentRow_eq {fb : Framebuffer} (holds : fb.layout.Holds fb.back) {front : Buffer}
    (shown : fb.layout.Holds front) {r : Rect} (spans : fb.layout.Spans r) {y : Nat}
    (row : y < fb.layout.height) :
    ∃ after, fb.presentRow r front y = .ok after ∧ after.size = front.size ∧
      ∀ i, after.get? i =
        if (r.left ≤ fb.layout.columnOf i ∧ fb.layout.columnOf i < r.right) ∧
            fb.layout.rowOf i = y then
          fb.back.get? i
        else front.get? i := by
  have pos := Layout.bytesPerPixel_pos holds.supported
  have fits := Nat.le_trans spans.right_le holds.width_le
  have nonempty := Nat.le_of_lt spans.left_lt
  have reach : fb.layout.offset r.left y + (r.right - r.left) * fb.layout.bytesPerPixel ≤
      fb.layout.byteLength := by
    have run := Layout.run_le_byteLength fits row
    rw [Layout.offset, ← Nat.add_mul, Nat.add_assoc, Nat.add_sub_cancel' nonempty]
    exact run
  have inFront := Nat.le_trans reach shown.length_le
  have inBack := Nat.le_trans reach holds.length_le
  refine ⟨_, if_pos ⟨inFront, inBack⟩, Buffer.size_copy _ _ _ _, fun i => ?_⟩
  simp only [rowSpan, Buffer.get?_copy _ _ _ _ _ inBack inFront,
    Layout.run_iff pos fits nonempty]

/-- Presenting rows carries over the bytes of their pixels. -/
theorem presentRows_eq {fb : Framebuffer} (holds : fb.layout.Holds fb.back) {r : Rect}
    (spans : fb.layout.Spans r) {y count : Nat} {front : Buffer} (shown : fb.layout.Holds front)
    (rows : y + count ≤ fb.layout.height) :
    ∃ after, fb.presentRows r y count front = .ok after ∧ after.size = front.size ∧
      ∀ i, after.get? i =
        if (r.left ≤ fb.layout.columnOf i ∧ fb.layout.columnOf i < r.right) ∧
            y ≤ fb.layout.rowOf i ∧ fb.layout.rowOf i < y + count then
          fb.back.get? i
        else front.get? i := by
  induction count generalizing y front with
  | zero =>
      refine ⟨front, rfl, rfl, fun i => ?_⟩
      rw [if_neg (by omega)]
  | succ count ih =>
      obtain ⟨first, presented, size, bytes⟩ :=
        presentRow_eq holds shown spans (y := y) (by omega)
      obtain ⟨after, rest, restSize, restBytes⟩ :=
        ih (y := y + 1) (shown.of_size size) (by omega)
      refine ⟨after, ?_, restSize.trans size, fun i => ?_⟩
      · simp only [presentRows, presented, rest]
      · rw [restBytes, bytes]
        by_cases columns : r.left ≤ fb.layout.columnOf i ∧ fb.layout.columnOf i < r.right
        · simp only [columns, and_self, true_and]
          by_cases later : y + 1 ≤ fb.layout.rowOf i ∧ fb.layout.rowOf i < y + 1 + count
          · rw [if_pos later, if_pos (by omega)]
          · rw [if_neg later]
            by_cases now : fb.layout.rowOf i = y
            · rw [if_pos now, if_pos (by omega)]
            · rw [if_neg now, if_neg (by omega)]
        · simp only [columns, false_and, if_false]

end Framebuffer

end GlyphConsole
