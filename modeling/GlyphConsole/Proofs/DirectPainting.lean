import GlyphConsole.Proofs.Mirror

/-!
# GlyphConsole.Proofs.DirectPainting — a framebuffer against one that paints at once

A `Painter` has one buffer, and every call puts the bytes of the pixels that it paints there
at once, one pixel after the other.  It also notes which color each pixel was painted in last
(`colors`), and no byte of its buffer is anything but a byte of the color noted for its pixel,
or what it was in the beginning (`Records.bytes`).

A framebuffer `Lags` behind a painter that is given the same calls: its back buffer has the
painter's bytes on the surface, and its front buffer has them wherever nothing is dirty.
Painting keeps that, since what is painted becomes dirty (`Lags.painted`), and so does a cell
that is not wholly on the surface, which neither paints (`Lags.paintCell`).  Presenting copies
what is dirty, after which the front buffer is the painter's (`Lags.present`).
-/

namespace GlyphConsole

set_option autoImplicit false

/-- Buffers that agree on every byte are equal. -/
theorem Buffer.ext_get? {a b : Buffer} (same : ∀ i, a.get? i = b.get? i) : a = b := by
  obtain ⟨bytes, _⟩ := a
  obtain ⟨bytes', _⟩ := b
  obtain rfl : bytes = bytes' := Array.ext_getElem? same
  rfl

/-- The pixels of a rectangle, row by row. -/
def Rect.pixels (r : Rect) : List (Nat × Nat) :=
  (List.range' r.top (r.bottom - r.top)).flatMap fun y =>
    (List.range' r.left (r.right - r.left)).map fun x => (x, y)

theorem Rect.mem_pixels {r : Rect} {x y : Nat} : (x, y) ∈ r.pixels ↔ r.Has x y := by
  simp only [pixels, Has, List.mem_flatMap, List.mem_map, List.mem_range'_1, Prod.mk.injEq]
  constructor
  · rintro ⟨_, rows, _, columns, rfl, rfl⟩
    omega
  · rintro ⟨columns, rows⟩
    exact ⟨y, by omega, x, by omega, rfl, rfl⟩

theorem Rect.lt_of_mem_pixels {r : Rect} : ∀ q ∈ r.pixels, q.1 < r.right ∧ q.2 < r.bottom := by
  rintro ⟨x, y⟩ member
  obtain ⟨⟨-, right⟩, -, bottom⟩ := mem_pixels.1 member
  exact ⟨right, bottom⟩

/-- The bytes behind the last row belong to no pixel of the surface. -/
theorem Layout.off_surface {l : Layout} (supported : l.format.supports l.bytesPerPixel = true)
    (padded : l.width ≤ l.stride) {i : Nat} (past : l.byteLength ≤ i) :
    l.width ≤ l.columnOf i ∨ l.height ≤ l.rowOf i := by
  have pos := bytesPerPixel_pos supported
  by_cases flat : l.stride = 0
  · exact .inl (by omega)
  · refine .inr ?_
    rw [rowOf, Nat.le_div_iff_mul_le (Nat.pos_of_ne_zero flat), Nat.le_div_iff_mul_le pos,
      Nat.mul_comm l.height]
    exact past

/-! ## Painting at once -/

/-- A surface of pixels that shows every call as soon as it is made. -/
structure Painter where
  font : Font
  layout : Layout
  front : Buffer
  /-- The color of the last clear, behind every glyph. -/
  background : Color := .black
  /-- The color that a pixel was painted in last, if it was painted. -/
  colors : Nat → Nat → Option Color := fun _ _ => none

namespace Painter

variable {p : Painter} {initial : Buffer}

/-- Paint one pixel. -/
def dot (p : Painter) (color : Color) (x y : Nat) : Painter :=
  { p with
    front := p.front.put (p.layout.offset x y)
      (p.layout.format.encode p.layout.bytesPerPixel color)
    colors := fun column row =>
      if column = x ∧ row = y then some color else p.colors column row }

/-- Paint pixels in turn. -/
def dots (p : Painter) (shade : Nat → Nat → Color) (pixels : List (Nat × Nat)) : Painter :=
  pixels.foldl (fun p q => p.dot (shade q.1 q.2) q.1 q.2) p

/-- Paint the pixels of a cell, shaded by their place in it, if the cell is wholly on the
surface. -/
def paintCell (p : Painter) (c : Cell) (shade : Nat → Nat → Color) : Painter :=
  if (c.column + 1) * 8 ≤ p.layout.width ∧ (c.row + 1) * 16 ≤ p.layout.height then
    p.dots (fun x y => shade (x - c.column * 8) (y - c.row * 16)) (Framebuffer.pixelsOf c).pixels
  else p

def apply (p : Painter) : DrawCall → Painter
  | .glyph c char color =>
      p.paintCell c fun column row =>
        if p.font.litInCell char column row then color else p.background
  | .fill c color => p.paintCell c fun _ _ => color
  | .clear color =>
      { p with background := color }.dots (fun _ _ => color)
        (Rect.pixels ⟨0, 0, p.layout.width, p.layout.height⟩)
  | .present => p

/-- The painter after a list of calls. -/
def run (p : Painter) (calls : Array DrawCall) : Painter := calls.foldl apply p

@[simp] theorem dots_nil (p : Painter) (shade : Nat → Nat → Color) : p.dots shade [] = p := rfl

@[simp] theorem dots_cons (p : Painter) (shade : Nat → Nat → Color) (q : Nat × Nat)
    (rest : List (Nat × Nat)) :
    p.dots shade (q :: rest) = (p.dot (shade q.1 q.2) q.1 q.2).dots shade rest := rfl

/-- What painting one pixel keeps, painting pixels in turn keeps. -/
theorem dots_kept {α : Type} (field : Painter → α)
    (kept : ∀ (p : Painter) (color : Color) (x y : Nat), field (p.dot color x y) = field p)
    (p : Painter) (shade : Nat → Nat → Color) (pixels : List (Nat × Nat)) :
    field (p.dots shade pixels) = field p := by
  induction pixels generalizing p with
  | nil => rfl
  | cons q rest ih => exact (ih _).trans (kept p _ _ _)

@[simp] theorem font_dots (p : Painter) (shade : Nat → Nat → Color)
    (pixels : List (Nat × Nat)) : (p.dots shade pixels).font = p.font :=
  dots_kept Painter.font (fun _ _ _ _ => rfl) p shade pixels

@[simp] theorem layout_dots (p : Painter) (shade : Nat → Nat → Color)
    (pixels : List (Nat × Nat)) : (p.dots shade pixels).layout = p.layout :=
  dots_kept Painter.layout (fun _ _ _ _ => rfl) p shade pixels

@[simp] theorem background_dots (p : Painter) (shade : Nat → Nat → Color)
    (pixels : List (Nat × Nat)) : (p.dots shade pixels).background = p.background :=
  dots_kept Painter.background (fun _ _ _ _ => rfl) p shade pixels

@[simp] theorem size_dots (p : Painter) (shade : Nat → Nat → Color)
    (pixels : List (Nat × Nat)) : (p.dots shade pixels).front.size = p.front.size :=
  dots_kept (fun p => p.front.size) (fun _ _ _ _ => Buffer.size_put _ _ _) p shade pixels

/-- Painting one pixel changes the bytes of that pixel. -/
theorem get?_dot (holds : p.layout.Holds p.front) {x y : Nat} (column : x < p.layout.width)
    (row : y < p.layout.height) (color : Color) (i : Nat) :
    (p.dot color x y).front.get? i =
      if p.layout.columnOf i = x ∧ p.layout.rowOf i = y then
        (p.layout.format.encode p.layout.bytesPerPixel color)[i % p.layout.bytesPerPixel]?
      else p.front.get? i := by
  have inStride := Nat.lt_of_lt_of_le column holds.width_le
  have fits := Nat.le_trans (Layout.pixel_le_byteLength inStride row) holds.length_le
  rw [← PixelFormat.length_encode holds.supported color] at fits
  rw [← Framebuffer.get?_plot holds column row, Framebuffer.plot, Buffer.write, if_pos fits]
  rfl

/-- Painting pixels changes the bytes of those pixels. -/
theorem get?_dots (holds : p.layout.Holds p.front) {pixels : List (Nat × Nat)}
    (inside : ∀ q ∈ pixels, q.1 < p.layout.width ∧ q.2 < p.layout.height)
    (shade : Nat → Nat → Color) (i : Nat) :
    (p.dots shade pixels).front.get? i =
      if (p.layout.columnOf i, p.layout.rowOf i) ∈ pixels then
        (p.layout.format.encode p.layout.bytesPerPixel
          (shade (p.layout.columnOf i) (p.layout.rowOf i)))[i % p.layout.bytesPerPixel]?
      else p.front.get? i := by
  induction pixels generalizing p with
  | nil => simp
  | cons q rest ih =>
      obtain ⟨column, row⟩ := inside q List.mem_cons_self
      have later := ih (p := p.dot (shade q.1 q.2) q.1 q.2) (holds.of_size (Buffer.size_put _ _ _))
        fun other member => inside other (List.mem_cons_of_mem q member)
      have first := get?_dot holds column row (shade q.1 q.2) i
      rw [dots_cons, later, first]
      show (if (p.layout.columnOf i, p.layout.rowOf i) ∈ rest then _ else _) = _
      by_cases again : (p.layout.columnOf i, p.layout.rowOf i) ∈ rest
      · rw [if_pos again, if_pos (List.mem_cons_of_mem q again)]
        rfl
      · by_cases here : p.layout.columnOf i = q.1 ∧ p.layout.rowOf i = q.2
        · have own : (p.layout.columnOf i, p.layout.rowOf i) ∈ q :: rest := by
            rw [here.1, here.2]
            exact List.mem_cons_self
          rw [if_neg again, if_pos here, if_pos own, here.1, here.2]
        · have other : (p.layout.columnOf i, p.layout.rowOf i) ∉ q :: rest := by
            simp only [List.mem_cons, Prod.ext_iff, not_or]
            exact ⟨here, again⟩
          rw [if_neg again, if_neg here, if_neg other]

/-! ## What the painter shows -/

/-- Only pixels of the surface have been painted, and every byte is one of the color that its
pixel was painted in last, or what it was. -/
structure Records (p : Painter) (initial : Buffer) : Prop where
  holds : p.layout.Holds p.front
  inside : ∀ x y color, p.colors x y = some color → x < p.layout.width ∧ y < p.layout.height
  bytes : ∀ i, p.front.get? i =
    match p.colors (p.layout.columnOf i) (p.layout.rowOf i) with
    | some color =>
        (p.layout.format.encode p.layout.bytesPerPixel color)[i % p.layout.bytesPerPixel]?
    | none => initial.get? i

namespace Records

theorem dot (records : p.Records initial) {x y : Nat} (column : x < p.layout.width)
    (row : y < p.layout.height) (color : Color) : (p.dot color x y).Records initial := by
  refine ⟨records.holds.of_size (Buffer.size_put _ _ _), ?_, ?_⟩
  · intro x' y' color' painted
    simp only [Painter.dot] at painted
    split at painted
    · rename_i here
      rw [here.1, here.2]
      exact ⟨column, row⟩
    · exact records.inside x' y' color' painted
  · intro i
    rw [get?_dot records.holds column row]
    simp only [Painter.dot]
    split
    · rfl
    · exact records.bytes i

theorem dots (records : p.Records initial) {pixels : List (Nat × Nat)}
    (inside : ∀ q ∈ pixels, q.1 < p.layout.width ∧ q.2 < p.layout.height)
    (shade : Nat → Nat → Color) : (p.dots shade pixels).Records initial := by
  induction pixels generalizing p with
  | nil => exact records
  | cons q rest ih =>
      obtain ⟨column, row⟩ := inside q List.mem_cons_self
      exact ih (records.dot column row _) fun other member =>
        inside other (List.mem_cons_of_mem q member)

end Records

end Painter

/-! ## Cells -/

/-- If words can hold where the cell begins on a surface, they can hold where it ends. -/
def Cell.Addressed (c : Cell) : Prop :=
  Word.Fits (c.column * 8) → Word.Fits (c.row * 16) →
    Word.Fits (c.column * 8 + 8) ∧ Word.Fits (c.row * 16 + 16)

/-- The arithmetic on the cell of the call, if it has one, has an answer. -/
def DrawCall.Addressed : DrawCall → Prop
  | .glyph c _ _ | .fill c _ => c.Addressed
  | .clear _ | .present => True

namespace Framebuffer

theorem contains_iff {l : Layout} {c : Cell} :
    (⟨l.width / 8, l.height / 16⟩ : Grid).Contains c ↔
      (c.column + 1) * 8 ≤ l.width ∧ (c.row + 1) * 16 ≤ l.height := by
  unfold Grid.Contains
  dsimp only
  omega

/-- A cell that is not wholly on the surface is left out, wherever it is. -/
theorem cellRect?_of_outside {l : Layout} {c : Cell} (addressed : c.Addressed)
    (outside : ¬((c.column + 1) * 8 ≤ l.width ∧ (c.row + 1) * 16 ≤ l.height)) :
    cellRect? l c = .ok none := by
  show (if Word.Fits (c.column * 8) ∧ Word.Fits (c.row * 16) then
    if ¬ Word.Fits (c.column * 8 + 8) then _
    else if l.width < c.column * 8 + 8 then _
    else if ¬ Word.Fits (c.row * 16 + 16) then _
    else if l.height < c.row * 16 + 16 then _ else _ else _) = _
  by_cases begins : Word.Fits (c.column * 8) ∧ Word.Fits (c.row * 16)
  · obtain ⟨right, below⟩ := addressed begins.1 begins.2
    rw [if_pos begins, if_neg (not_not_intro right)]
    by_cases wide : l.width < c.column * 8 + 8
    · rw [if_pos wide]
    · have high : l.height < c.row * 16 + 16 := by omega
      rw [if_neg wide, if_neg (not_not_intro below), if_pos high]
  · rw [if_neg begins]

/-- Wherever a cell is, its pixels are painted if all of them are on the surface, and none
otherwise. -/
theorem cellRect?_of_addressed {l : Layout} {b : Buffer} (holds : l.Holds b) {c : Cell}
    (addressed : c.Addressed) :
    cellRect? l c =
      .ok (if (c.column + 1) * 8 ≤ l.width ∧ (c.row + 1) * 16 ≤ l.height then some (pixelsOf c)
        else none) := by
  by_cases inside : (c.column + 1) * 8 ≤ l.width ∧ (c.row + 1) * 16 ≤ l.height
  · rw [if_pos inside]
    exact cellRect?_eq (contains_iff.2 inside) (small_of_holds holds (by omega) (by omega))
  · rw [if_neg inside]
    exact cellRect?_of_outside addressed inside

theorem inside_of_spans {l : Layout} {r : Rect} (spans : l.Spans r) :
    ∀ q ∈ r.pixels, q.1 < l.width ∧ q.2 < l.height := by
  intro q member
  obtain ⟨right, bottom⟩ := Rect.lt_of_mem_pixels q member
  exact ⟨Nat.lt_of_lt_of_le right spans.right_le, Nat.lt_of_lt_of_le bottom spans.bottom_le⟩

/-- The whole surface has no pixels, or is a rectangle on itself. -/
theorem spans_or_pixels_eq_nil (l : Layout) :
    l.Spans ⟨0, 0, l.width, l.height⟩ ∨
      (⟨0, 0, l.width, l.height⟩ : Rect).IsEmpty ∧
        (⟨0, 0, l.width, l.height⟩ : Rect).pixels = [] := by
  by_cases empty : l.width = 0 ∨ l.height = 0
  · refine .inr ⟨by unfold Rect.IsEmpty; dsimp only; omega, ?_⟩
    rw [List.eq_nil_iff_forall_not_mem]
    intro q member
    obtain ⟨right, bottom⟩ := Rect.lt_of_mem_pixels q member
    dsimp only at right bottom
    omega
  · exact .inl ⟨show 0 < l.width by omega, Nat.le_refl _, show 0 < l.height by omega, Nat.le_refl _⟩

end Framebuffer

namespace Painter

variable {p : Painter} {initial : Buffer}

theorem Records.paintCell (records : p.Records initial) (c : Cell) (shade : Nat → Nat → Color) :
    (p.paintCell c shade).Records initial := by
  unfold Painter.paintCell
  split
  · rename_i inside
    have spans := Framebuffer.spans_pixelsOf (Framebuffer.contains_iff.2 inside)
    exact records.dots (Framebuffer.inside_of_spans spans) _
  · exact records

/-- Every call goes on noting what it paints. -/
theorem Records.apply (records : p.Records initial) (call : DrawCall) :
    (p.apply call).Records initial := by
  cases call with
  | glyph c char color =>
      rw [Painter.apply]
      exact records.paintCell c _
  | fill c color =>
      rw [Painter.apply]
      exact records.paintCell c _
  | clear color =>
      have recolored : ({ p with background := color } : Painter).Records initial :=
        ⟨records.holds, records.inside, records.bytes⟩
      rw [Painter.apply]
      exact recolored.dots Rect.lt_of_mem_pixels _
  | present => exact records

theorem records_run (records : p.Records initial) (calls : Array DrawCall) :
    (p.run calls).Records initial := by
  unfold run
  exact Array.foldl_induction (fun _ (q : Painter) => q.Records initial) records
    fun _ q kept => kept.apply _

end Painter

namespace Framebuffer

variable {fb : Framebuffer} {p : Painter}

/-! ## Behind the painter -/

/-- The back buffer has the painter's bytes on the surface, and the front buffer has them
wherever nothing is dirty. -/
structure Lags (fb : Framebuffer) (p : Painter) : Prop where
  font_eq : p.font = fb.font
  layout_eq : p.layout = fb.layout
  background_eq : p.background = fb.background
  size_eq : p.front.size = fb.front.size
  back_holds : fb.layout.Holds fb.back
  front_holds : fb.layout.Holds fb.front
  dirty_on : ∀ r, fb.dirty = some r → fb.layout.Spans r
  back_eq : ∀ i, fb.layout.columnOf i < fb.layout.width → fb.layout.rowOf i < fb.layout.height →
    fb.back.get? i = p.front.get? i
  front_eq : ∀ i, ¬ Rect.Covers fb.dirty (fb.layout.columnOf i) (fb.layout.rowOf i) →
    fb.front.get? i = p.front.get? i

namespace Lags

theorem painter_holds (lags : fb.Lags p) : p.layout.Holds p.front := by
  rw [lags.layout_eq]
  exact lags.front_holds.of_size lags.size_eq

/-- What is painted is dirty. -/
theorem painted (lags : fb.Lags p) {r : Rect} (spans : fb.layout.Spans r)
    (shade : Nat → Nat → Color) : (fb.painted r shade).Lags (p.dots shade r.pixels) := by
  have layout := lags.layout_eq
  have inside := inside_of_spans spans
  rw [← layout] at inside
  have bytes : ∀ i, (p.dots shade r.pixels).front.get? i =
      if r.Has (fb.layout.columnOf i) (fb.layout.rowOf i) then
        (fb.layout.format.encode fb.layout.bytesPerPixel
          (shade (fb.layout.columnOf i) (fb.layout.rowOf i)))[i % fb.layout.bytesPerPixel]?
      else p.front.get? i := by
    intro i
    rw [Painter.get?_dots lags.painter_holds inside, layout]
    simp only [Rect.mem_pixels]
  refine ⟨?_, ?_, ?_, ?_, lags.back_holds.of_size (size_painted fb r shade), lags.front_holds,
    Layout.Spans.cover lags.dirty_on spans, ?_, ?_⟩
  · rw [Painter.font_dots]
    exact lags.font_eq
  · rw [Painter.layout_dots]
    exact layout
  · rw [Painter.background_dots]
    exact lags.background_eq
  · rw [Painter.size_dots]
    exact lags.size_eq
  · intro i column row
    rw [get?_painted lags.back_holds spans, bytes]
    split
    · rfl
    · exact lags.back_eq i column row
  · intro i clean
    have covered := mt Rect.covers_cover clean
    have outside : ¬ r.Has (fb.layout.columnOf i) (fb.layout.rowOf i) := mt .inr covered
    rw [bytes, if_neg outside]
    exact lags.front_eq i (mt .inl covered)

/-- A cell is painted on both sides or on neither. -/
theorem paintCell (lags : fb.Lags p) {c : Cell} (addressed : c.Addressed)
    (shade : Rect → Nat → Nat → Color) (shade' : Nat → Nat → Color)
    (same : shade (pixelsOf c) = fun x y => shade' (x - c.column * 8) (y - c.row * 16)) :
    ∃ after, fb.paintCell c shade = .ok after ∧ after.front = fb.front ∧
      after.layout = fb.layout ∧ after.Lags (p.paintCell c shade') := by
  unfold Framebuffer.paintCell Painter.paintCell
  rw [cellRect?_of_addressed lags.back_holds addressed, lags.layout_eq]
  by_cases inside : (c.column + 1) * 8 ≤ fb.layout.width ∧ (c.row + 1) * 16 ≤ fb.layout.height
  · have spans := spans_pixelsOf (contains_iff.2 inside)
    rw [if_pos inside, if_pos inside, ← same]
    exact ⟨_, paint_eq lags.back_holds spans _, rfl, rfl, lags.painted spans _⟩
  · rw [if_neg inside, if_neg inside]
    exact ⟨fb, rfl, rfl, rfl, lags⟩

theorem clear (lags : fb.Lags p) (color : Color) :
    ∃ after, fb.clear color = .ok after ∧ after.front = fb.front ∧ after.layout = fb.layout ∧
      after.Lags (p.apply (.clear color)) := by
  have recolored : ({ fb with background := color } : Framebuffer).Lags
      { p with background := color } :=
    ⟨lags.font_eq, lags.layout_eq, rfl, lags.size_eq, lags.back_holds, lags.front_holds,
      lags.dirty_on, lags.back_eq, lags.front_eq⟩
  have whole : p.layout.width = fb.layout.width ∧ p.layout.height = fb.layout.height := by
    rw [lags.layout_eq]
    exact ⟨rfl, rfl⟩
  rw [Framebuffer.clear, Painter.apply, whole.1, whole.2]
  rcases spans_or_pixels_eq_nil fb.layout with spans | ⟨empty, nothing⟩
  · exact ⟨_, paint_eq recolored.back_holds spans _, rfl, rfl, recolored.painted spans _⟩
  · rw [nothing, paint, if_pos empty, Painter.dots_nil]
    exact ⟨_, rfl, rfl, rfl, recolored⟩

/-- Presenting makes the front buffer the painter's. -/
theorem present (lags : fb.Lags p) :
    ∃ after, fb.present = .ok after ∧ after.front = p.front ∧ after.layout = fb.layout ∧
      after.Lags p := by
  cases changed : fb.dirty with
  | none =>
      have clean : ∀ x y, ¬ Rect.Covers fb.dirty x y := by
        rintro x y ⟨_, some, -⟩
        exact (Option.some_ne_none _).symm (changed.symm.trans some)
      refine ⟨fb, ?_, Buffer.ext_get? fun i => lags.front_eq i (clean _ _), rfl, lags⟩
      simp only [Framebuffer.present, changed]
  | some r =>
      have spans := lags.dirty_on r changed
      have nonempty := spans.top_lt
      have bottom := spans.bottom_le
      have rows : r.top + (r.bottom - r.top) ≤ fb.layout.height := by omega
      have count : r.top + (r.bottom - r.top) = r.bottom := by omega
      obtain ⟨front, copied, size, bytes⟩ :=
        presentRows_eq lags.back_holds spans lags.front_holds rows
      rw [count] at bytes
      -- A dirty byte is on the surface, where the back buffer is the painter's.
      have same : front = p.front := by
        refine Buffer.ext_get? fun i => ?_
        rw [bytes]
        split
        · rename_i has
          exact lags.back_eq i (Nat.lt_of_lt_of_le has.1.2 spans.right_le)
            (Nat.lt_of_lt_of_le has.2.2 bottom)
        · rename_i clean
          refine lags.front_eq i ?_
          rintro ⟨s, some, has⟩
          obtain rfl := Option.some.inj (changed.symm.trans some)
          exact clean has
      refine ⟨{ fb with front, dirty := none }, ?_, same, rfl, ?_⟩
      · simp only [Framebuffer.present, changed, copied]
      · exact ⟨lags.font_eq, lags.layout_eq, lags.background_eq, lags.size_eq.trans size.symm,
          lags.back_holds, lags.front_holds.of_size size, fun _ marked => (by cases marked),
          lags.back_eq, fun i _ => by rw [same]⟩

/-- Every call goes the same way on the framebuffer and with the painter, and only presenting
touches the front buffer. -/
theorem apply (lags : fb.Lags p) {call : DrawCall} (addressed : call.Addressed) :
    ∃ after, fb.apply call = .ok after ∧ (call ≠ .present → after.front = fb.front) ∧
      after.layout = fb.layout ∧ after.Lags (p.apply call) := by
  cases call with
  | glyph c char color =>
      obtain ⟨after, drawn, front, layout, still⟩ := lags.paintCell addressed
        (fun r x y =>
          if fb.font.litInCell char (x - r.left) (y - r.top) then color else fb.background)
        (fun column row => if p.font.litInCell char column row then color else p.background)
        (by rw [lags.font_eq, lags.background_eq]; rfl)
      exact ⟨after, drawn, fun _ => front, layout, still⟩
  | fill c color =>
      obtain ⟨after, drawn, front, layout, still⟩ :=
        lags.paintCell addressed (fun _ _ _ => color) (fun _ _ => color) rfl
      exact ⟨after, drawn, fun _ => front, layout, still⟩
  | clear color =>
      obtain ⟨after, drawn, front, layout, still⟩ := lags.clear color
      exact ⟨after, drawn, fun _ => front, layout, still⟩
  | present =>
      obtain ⟨after, shown, -, layout, still⟩ := lags.present
      exact ⟨after, shown, fun other => absurd rfl other, layout, still⟩

end Lags

/-! ## Runs -/

/-- Calls go the same way on the framebuffer and with the painter, and only those that present
touch the front buffer. -/
theorem Lags.run (lags : fb.Lags p) {calls : Array DrawCall}
    (addressed : ∀ call ∈ calls, call.Addressed) :
    ∃ after, fb.run calls = .ok after ∧
      ((∀ call ∈ calls, call ≠ .present) → after.front = fb.front) ∧
      after.layout = fb.layout ∧ after.Lags (p.run calls) := by
  obtain ⟨calls⟩ := calls
  induction calls generalizing fb p with
  | nil => exact ⟨fb, rfl, fun _ => rfl, rfl, lags⟩
  | cons call rest ih =>
      obtain ⟨first, applied, front, layout, behind⟩ :=
        lags.apply (addressed call (List.mem_toArray.2 List.mem_cons_self))
      obtain ⟨after, ran, restFront, restLayout, still⟩ := ih behind fun other member =>
        addressed other (List.mem_toArray.2 (List.mem_cons_of_mem _ (List.mem_toArray.1 member)))
      refine ⟨after, ?_, fun hidden => ?_, restLayout.trans layout, ?_⟩
      · rw [run_cons, applied]
        exact ran
      · refine (restFront fun other member => ?_).trans
          (front (hidden call (List.mem_toArray.2 List.mem_cons_self)))
        exact hidden other
          (List.mem_toArray.2 (List.mem_cons_of_mem _ (List.mem_toArray.1 member)))
      · simp only [Painter.run, List.foldl_toArray, List.foldl_cons] at still ⊢
        exact still

/-- A framebuffer begins with the bytes it is attached to, on both sides. -/
theorem lags_of_attach {font : Font} {l : Layout} {buffer : Buffer}
    (attached : attach font buffer l = .ok fb) (padded : l.width ≤ l.stride) :
    fb.Lags { font, layout := l, front := buffer } ∧
      ({ font, layout := l, front := buffer } : Painter).Records buffer := by
  obtain ⟨rfl, front, back⟩ := holds_of_attach attached padded
  refine ⟨⟨rfl, rfl, rfl, rfl, back, front, nofun, ?_, fun i _ => rfl⟩,
    ⟨front, nofun, fun i => rfl⟩⟩
  intro i column row
  have inside : i < l.byteLength := by
    refine Nat.lt_of_not_le fun past => ?_
    rcases Layout.off_surface front.supported padded past with right | below
    · exact absurd column (Nat.not_lt.2 right)
    · exact absurd row (Nat.not_lt.2 below)
  have bound : l.byteLength ≤ buffer.bytes.size := front.length_le
  show (buffer.bytes.extract 0 l.byteLength)[i]? = buffer.bytes[i]?
  rw [Array.getElem?_extract, Nat.min_eq_left bound, Nat.sub_zero, if_pos inside, Nat.zero_add]

/-- Bytes that belong to no pixel of the surface are what they were in the beginning. -/
theorem Lags.get?_off_surface (lags : fb.Lags p) {initial : Buffer} (records : p.Records initial)
    {i : Nat}
    (off : fb.layout.width ≤ fb.layout.columnOf i ∨ fb.layout.height ≤ fb.layout.rowOf i) :
    fb.front.get? i = initial.get? i := by
  have clean : ¬ Rect.Covers fb.dirty (fb.layout.columnOf i) (fb.layout.rowOf i) := by
    rintro ⟨r, dirty, has⟩
    have spans := lags.dirty_on r dirty
    have right := Nat.lt_of_lt_of_le has.1.2 spans.right_le
    have bottom := Nat.lt_of_lt_of_le has.2.2 spans.bottom_le
    omega
  have bytes := records.bytes i
  rw [lags.layout_eq] at bytes
  rw [lags.front_eq i clean, bytes]
  cases painted : p.colors (fb.layout.columnOf i) (fb.layout.rowOf i) with
  | none => rfl
  | some color =>
      have inside := records.inside _ _ _ painted
      rw [lags.layout_eq] at inside
      omega

/-- **Painting behind the screen is painting on it, a little later.**  Whatever is drawn on a
framebuffer whose rows do not overlap, in whatever cells, nothing is a fault; presenting makes
every byte of the front buffer the one that painting at once would have put there, so a pixel
that was painted shows the color it was painted in last, and its fourth byte, if it has one, is
full; until then the front buffer does not change; and the bytes that belong to no pixel of the
surface never do. -/
theorem present_paints {font : Font} {l : Layout} {buffer : Buffer} {fb : Framebuffer}
    (attached : attach font buffer l = .ok fb) (padded : l.width ≤ l.stride)
    (calls : Array DrawCall) (addressed : ∀ call ∈ calls, call.Addressed) :
    let painter := ({ font, layout := l, front := buffer } : Painter).run calls
    ∃ drawn, fb.run calls = .ok drawn ∧
      (∃ after, drawn.present = .ok after ∧ after.front = painter.front ∧
        ∀ x y color, painter.colors x y = some color →
          (∃ shown, after.pixel x y = .ok shown ∧ shown.word.toNat =
            if l.format = .gray then color.luma.toNat * 0x10101
            else color.word.toNat % 0x1000000) ∧
          (l.bytesPerPixel = 4 →
            after.front.get? ((y * l.stride + x) * 4 + 3) = some 0xFF)) ∧
      (∀ more : Array DrawCall, (∀ call ∈ more, call.Addressed ∧ call ≠ .present) →
        ∃ later, drawn.run more = .ok later ∧ later.front = drawn.front) ∧
      (∀ i, l.width ≤ l.columnOf i ∨ l.byteLength ≤ i → drawn.front.get? i = buffer.get? i) := by
  intro painter
  obtain ⟨begun, recorded⟩ := lags_of_attach attached padded
  obtain ⟨drawn, ran, -, layout, lags⟩ := begun.run addressed
  have same : drawn.layout = l := layout.trans begun.layout_eq.symm
  have records : painter.Records buffer := Painter.records_run recorded calls
  have supported := recorded.holds.supported
  refine ⟨drawn, ran, ?_, ?_, ?_⟩
  · obtain ⟨after, shown, front, kept, still⟩ := lags.present
    have layoutAfter : after.layout = l := kept.trans same
    refine ⟨after, shown, front, fun x y color painted => ?_⟩
    obtain ⟨column, row⟩ := records.inside x y color painted
    rw [still.layout_eq] at column row
    have bytes : ∀ i, after.layout.columnOf i = x → after.layout.rowOf i = y →
        after.front.get? i =
          (after.layout.format.encode after.layout.bytesPerPixel color)[
            i % after.layout.bytesPerPixel]? := by
      intro i ownColumn ownRow
      have recorded := records.bytes i
      rw [still.layout_eq, ownColumn, ownRow, painted] at recorded
      rw [front]
      exact recorded
    refine ⟨⟨l.format.readBack color, ?_, PixelFormat.word_readBack supported color⟩,
      fun four => ?_⟩
    · rw [← layoutAfter]
      exact pixel_of_bytes still.front_holds column row bytes
    · have inStride := Nat.lt_of_lt_of_le column still.front_holds.width_le
      rw [layoutAfter] at bytes inStride
      have inPixel : 3 < l.bytesPerPixel := by omega
      obtain ⟨ownColumn, ownRow, place⟩ := Layout.offset_add (y := y) inStride inPixel
      have byte := bytes _ ownColumn ownRow
      rw [place, Layout.offset, four] at byte
      rw [four] at supported
      exact byte.trans (PixelFormat.encode_fourth supported color)
  · intro more hidden
    obtain ⟨later, ranMore, front, -, -⟩ := lags.run fun call member => (hidden call member).1
    exact ⟨later, ranMore, front fun call member => (hidden call member).2⟩
  · intro i off
    refine lags.get?_off_surface records ?_
    rw [same]
    rcases off with right | past
    · exact .inl right
    · exact Layout.off_surface supported padded past

/-- A letter in the first of two cells, and a cell beside the surface, on gray pixels with one
byte of padding a row and some behind the last row. -/
theorem present_paints_small :
    ∃ (buffer : Buffer) (fb : Framebuffer),
      attach .twoGlyphs buffer ⟨16, 16, 17, 1, .gray⟩ = .ok fb ∧ 16 ≤ 17 ∧
        (∀ call ∈ (#[.glyph ⟨0, 0⟩ 'A' .pureGreen, .fill ⟨2, 0⟩ .white] : Array DrawCall),
          call.Addressed) ∧
        ∃ drawn, fb.run #[.glyph ⟨0, 0⟩ 'A' .pureGreen, .fill ⟨2, 0⟩ .white] = .ok drawn ∧
          drawn.front.get? 16 = some 7 ∧
          ∃ after, drawn.present = .ok after ∧
            ∃ shown, after.pixel 2 2 = .ok shown ∧ shown.word.toNat = 0x959595 := by
  obtain ⟨buffer, made⟩ : ∃ buffer : Buffer,
      buffer = ⟨.replicate 300 7, by rw [Array.size_replicate]; decide⟩ := ⟨_, rfl⟩
  have holds : (⟨16, 16, 17, 1, .gray⟩ : Layout).byteLength ≤ buffer.size := by
    rw [made]
    decide +kernel
  have attached := attach_eq .twoGlyphs (l := ⟨16, 16, 17, 1, .gray⟩) rfl holds
  have addressed : ∀ call ∈ (#[.glyph ⟨0, 0⟩ 'A' .pureGreen, .fill ⟨2, 0⟩ .white] :
      Array DrawCall), call.Addressed := by
    intro call member
    simp only [List.mem_toArray, List.mem_cons, List.not_mem_nil, or_false] at member
    rcases member with rfl | rfl
    · exact fun _ _ => ⟨by decide, by decide⟩
    · exact fun _ _ => ⟨by decide, by decide⟩
  obtain ⟨drawn, ran, ⟨after, presented, -, pixels⟩, -, untouched⟩ :=
    present_paints attached (by decide) _ addressed
  have painted : (Painter.run
      { font := .twoGlyphs, layout := ⟨16, 16, 17, 1, .gray⟩, front := buffer }
      #[.glyph ⟨0, 0⟩ 'A' .pureGreen, .fill ⟨2, 0⟩ .white]).colors 2 2 = some .pureGreen := by
    rw [made]
    decide +kernel
  have padding : drawn.front.get? 16 = some 7 := by
    rw [untouched 16 (.inl (by decide)), made]
    decide +kernel
  exact ⟨buffer, _, attached, by decide, addressed, drawn, ran, padding, after, presented,
    (pixels 2 2 .pureGreen painted).1⟩

end Framebuffer

end GlyphConsole
