import GlyphConsole.Proofs.DirectPainting

/-!
# GlyphConsole.Proofs.RowsFit — which layouts can be presented

Painting and reading look at the end of the buffer pixel by pixel, and a pixel that does not
fit is left out.  Presenting copies a row as a whole, and does not look.  When rows are not
shorter than the surface is wide, every row of every rectangle on it ends inside the buffer.
When they are shorter, the last row of the surface begins early enough to fit, but ends behind
the bytes that the layout covers (`presentRows_of_short`), and these are all the bytes that
the back buffer has.

A layout is accepted without a look at this.  So the surfaces on which nothing is ever a fault
are those whose rows fit, and those that have no rows (`faultless_if_rows_fit`).
-/

namespace GlyphConsole

set_option autoImplicit false

/-- If rows are shorter than the surface is wide, the last one ends behind the layout. -/
theorem Layout.byteLength_lt_of_short {l : Layout}
    (supported : l.format.supports l.bytesPerPixel = true) (short : l.stride < l.width)
    (rows : l.height ≠ 0) :
    l.byteLength < l.offset 0 (l.height - 1) + l.width * l.bytesPerPixel := by
  have pos := bytesPerPixel_pos supported
  obtain ⟨last, height⟩ := Nat.exists_eq_succ_of_ne_zero rows
  have pixels : l.stride * l.height < last * l.stride + l.width := by
    rw [height, Nat.mul_succ, Nat.mul_comm]
    omega
  calc l.byteLength < (last * l.stride + l.width) * l.bytesPerPixel :=
        Nat.mul_lt_mul_of_pos_right pixels pos
    _ = l.offset 0 (l.height - 1) + l.width * l.bytesPerPixel := by
        rw [offset, height, Nat.add_mul]
        rfl

namespace Framebuffer

variable {fb : Framebuffer}

/-! ## Rows that do not fit -/

theorem presentRow_of_short {r : Rect} {y : Nat} (front : Buffer)
    (past : fb.back.size <
      fb.layout.offset r.left y + (r.right - r.left) * fb.layout.bytesPerPixel) :
    fb.presentRow r front y = .error .outOfBuffer := by
  apply if_neg
  rintro ⟨-, fits⟩
  exact Nat.not_le.2 past fits

theorem eq_outOfBuffer_of_presentRow {r : Rect} {front : Buffer} {y : Nat} {fault : Fault}
    (failed : fb.presentRow r front y = .error fault) : fault = .outOfBuffer := by
  simp only [presentRow] at failed
  split at failed
  · cases failed
  · cases failed
    rfl

/-- Copying rows of which one ends behind the back buffer is a fault. -/
theorem presentRows_of_short {r : Rect} {row count y : Nat} (front : Buffer)
    (above : y ≤ row) (below : row < y + count)
    (past : fb.back.size <
      fb.layout.offset r.left row + (r.right - r.left) * fb.layout.bytesPerPixel) :
    fb.presentRows r y count front = .error .outOfBuffer := by
  induction count generalizing y front with
  | zero => omega
  | succ count ih =>
      unfold presentRows
      cases copied : fb.presentRow r front y with
      | error fault => rw [eq_outOfBuffer_of_presentRow copied]
      | ok next =>
          have other : y ≠ row := by
            rintro rfl
            rw [presentRow_of_short front past] at copied
            cases copied
          exact ih next (by omega) (by omega)

theorem present_of_short {r : Rect} {row : Nat} (dirty : fb.dirty = some r) (above : r.top ≤ row)
    (below : row < r.bottom)
    (past : fb.back.size <
      fb.layout.offset r.left row + (r.right - r.left) * fb.layout.bytesPerPixel) :
    fb.present = .error .outOfBuffer := by
  simp only [present, dirty]
  rw [presentRows_of_short fb.front above (by omega) past]

theorem not_isEmpty_whole {width height : Nat} (wide : 0 < width) (high : 0 < height) :
    ¬(⟨0, 0, width, height⟩ : Rect).IsEmpty := by
  rintro (narrow | flat)
  · exact absurd wide (Nat.not_lt.2 narrow)
  · exact absurd high (Nat.not_lt.2 flat)

theorem clear_of_addresses (wide : 0 < fb.layout.width) (high : 0 < fb.layout.height)
    (addressed : fb.layout.Addresses (fb.layout.width - 1) (fb.layout.height - 1))
    (color : Color) :
    fb.clear color =
      .ok ({ fb with background := color }.painted ⟨0, 0, fb.layout.width, fb.layout.height⟩
        fun _ _ => color) := by
  rw [clear, paint, if_neg (not_isEmpty_whole wide high)]
  exact if_pos addressed

/-- On a surface with rows shorter than it is wide, presenting after a clear is a fault. -/
theorem run_clear_present {font : Font} {l : Layout} {buffer : Buffer}
    (attached : attach font buffer l = .ok fb)
    (addressed : l.Addresses (l.width - 1) (l.height - 1)) (short : l.stride < l.width)
    (rows : l.height ≠ 0) (color : Color) :
    fb.run #[.clear color, .present] = .error .outOfBuffer := by
  obtain ⟨made, supported, -, size⟩ := eq_of_attach attached
  obtain rfl : fb.layout = l := congrArg Framebuffer.layout made
  have back : fb.back.size = fb.layout.byteLength :=
    (congrArg (fun fb => fb.back.size) made).trans size
  have clean : fb.dirty = none := congrArg Framebuffer.dirty made
  have high := Nat.pos_of_ne_zero rows
  have wide := Nat.zero_lt_of_lt short
  let whole : Rect := ⟨0, 0, fb.layout.width, fb.layout.height⟩
  have nonempty : ¬whole.IsEmpty := not_isEmpty_whole wide high
  let drawn : Framebuffer := { fb with background := color }.painted whole fun _ _ => color
  have cleared : fb.clear color = .ok drawn := clear_of_addresses wide high addressed color
  have dirty : drawn.dirty = some whole := by
    simp [drawn, painted, clean, Rect.cover, nonempty]
  have past : drawn.back.size <
      drawn.layout.offset whole.left (fb.layout.height - 1) +
        (whole.right - whole.left) * drawn.layout.bytesPerPixel := by
    rw [size_painted, back]
    exact Layout.byteLength_lt_of_short supported short rows
  have failed : drawn.present = .error .outOfBuffer :=
    present_of_short dirty (Nat.zero_le _) (Nat.sub_lt high Nat.one_pos) past
  rw [run_cons, apply, cleared]
  show drawn.present.bind _ = _
  rw [failed]
  rfl

/-! ## A surface without rows -/

theorem paintCell_of_flat (flat : fb.layout.height = 0) {c : Cell} (addressed : c.Addressed)
    (shade : Rect → Nat → Nat → Color) : fb.paintCell c shade = .ok fb := by
  rw [paintCell, cellRect?_of_outside addressed (by omega)]

/-- On a surface without rows no call does anything that shows. -/
theorem apply_of_flat (flat : fb.layout.height = 0) (clean : fb.dirty = none) {call : DrawCall}
    (addressed : call.Addressed) :
    ∃ after, fb.apply call = .ok after ∧ after.layout = fb.layout ∧ after.dirty = none := by
  cases call with
  | glyph c char color => exact ⟨fb, paintCell_of_flat flat addressed _, rfl, clean⟩
  | fill c color => exact ⟨fb, paintCell_of_flat flat addressed _, rfl, clean⟩
  | clear color =>
      have empty : (⟨0, 0, fb.layout.width, fb.layout.height⟩ : Rect).IsEmpty :=
        .inr (Nat.le_of_eq flat)
      refine ⟨{ fb with background := color }, ?_, rfl, clean⟩
      rw [apply, clear, paint]
      exact if_pos empty
  | present =>
      refine ⟨fb, ?_, rfl, clean⟩
      simp only [apply, present, clean]

theorem run_of_flat (flat : fb.layout.height = 0) (clean : fb.dirty = none)
    {calls : Array DrawCall} (addressed : ∀ call ∈ calls, call.Addressed) :
    ∃ after, fb.run calls = .ok after ∧ after.layout = fb.layout := by
  obtain ⟨calls⟩ := calls
  induction calls generalizing fb with
  | nil => exact ⟨fb, rfl, rfl⟩
  | cons call rest ih =>
      obtain ⟨first, applied, layout, still⟩ :=
        apply_of_flat flat clean (addressed call (List.mem_toArray.2 List.mem_cons_self))
      rw [← layout] at flat
      obtain ⟨after, ran, restLayout⟩ := ih flat still fun other member =>
        addressed other (List.mem_toArray.2 (List.mem_cons_of_mem _ (List.mem_toArray.1 member)))
      refine ⟨after, ?_, restLayout.trans layout⟩
      rw [run_cons, applied]
      exact ran

/-! ## The outcome -/

/-- Reading a pixel is no fault if the last pixel of the surface has an address. -/
theorem pixel_of_addresses (addressed : fb.layout.Addresses (fb.layout.width - 1)
    (fb.layout.height - 1)) (x y : Nat) : ∃ color, fb.pixel x y = .ok color := by
  by_cases inside : x < fb.layout.width ∧ y < fb.layout.height
  · have own : fb.layout.Addresses x y := addressed.mono (by omega) (by omega)
    rw [pixel, if_pos inside, if_pos own]
    cases fb.front.read (fb.layout.offset x y) fb.layout.bytesPerPixel with
    | none => exact ⟨_, rfl⟩
    | some bytes => exact ⟨_, rfl⟩
  · exact ⟨.black, if_neg inside⟩

/-- **A layout can be presented if its rows fit.**  On an accepted layout in which the last
pixel has an address, and whose rows are at least as long as the surface is wide, or are none,
no run of calls is a fault and every pixel can be read after it.  But if there are rows and
they are shorter than the surface is wide, the layout is accepted all the same, and presenting
what a clear has painted leaves the buffer. -/
theorem faultless_if_rows_fit {font : Font} {l : Layout} {buffer : Buffer} {fb : Framebuffer}
    (attached : attach font buffer l = .ok fb)
    (addressed : l.Addresses (l.width - 1) (l.height - 1)) :
    (l.width ≤ l.stride ∨ l.height = 0 →
      ∀ calls : Array DrawCall, (∀ call ∈ calls, call.Addressed) →
        ∃ after, fb.run calls = .ok after ∧ ∀ x y, ∃ color, after.pixel x y = .ok color) ∧
    (l.stride < l.width → l.height ≠ 0 →
      ∀ color, fb.run #[.clear color, .present] = .error .outOfBuffer) := by
  constructor
  · intro fit calls inCells
    have made := (eq_of_attach attached).1
    have layout : fb.layout = l := congrArg Framebuffer.layout made
    have clean : fb.dirty = none := congrArg Framebuffer.dirty made
    have ran : ∃ after, fb.run calls = .ok after ∧ after.layout = fb.layout := by
      rcases fit with padded | flat
      · obtain ⟨after, ran, -, same, -⟩ := (lags_of_attach attached padded).1.run inCells
        exact ⟨after, ran, same⟩
      · rw [← layout] at flat
        exact run_of_flat flat clean inCells
    obtain ⟨after, ran, same⟩ := ran
    refine ⟨after, ran, pixel_of_addresses ?_⟩
    rw [same, layout]
    exact addressed
  · exact run_clear_present attached addressed

/-- Sixteen columns on rows of eight pixels, in a buffer of just the bytes that are asked
for. -/
theorem attach_short (font : Font) :
    ∃ (buffer : Buffer) (fb : Framebuffer), attach font buffer ⟨16, 16, 8, 4, .bgr⟩ = .ok fb := by
  obtain ⟨buffer, size⟩ : ∃ buffer : Buffer, buffer.size = 512 :=
    ⟨⟨.replicate 512 0, by rw [Array.size_replicate]; decide⟩, Array.size_replicate⟩
  have holds : (⟨16, 16, 8, 4, .bgr⟩ : Layout).byteLength ≤ buffer.size := by
    rw [size]
    decide
  exact ⟨buffer, _, attach_eq font rfl holds⟩

theorem faultless_if_rows_fit_short :
    ∃ (buffer : Buffer) (fb : Framebuffer),
      attach .twoGlyphs buffer ⟨16, 16, 8, 4, .bgr⟩ = .ok fb ∧
      (⟨16, 16, 8, 4, .bgr⟩ : Layout).Addresses 15 15 ∧ 8 < 16 ∧ 16 ≠ 0 ∧
      fb.run #[.clear .white, .present] = .error .outOfBuffer := by
  obtain ⟨buffer, fb, attached⟩ := attach_short .twoGlyphs
  have addressed : (⟨16, 16, 8, 4, .bgr⟩ : Layout).Addresses 15 15 := by decide
  exact ⟨buffer, fb, attached, addressed, by decide, by decide,
    (faultless_if_rows_fit attached addressed).2 (by decide) (by decide) .white⟩

/-- Not every layout that is accepted can be presented. -/
theorem accepted_not_presentable :
    ¬∀ (font : Font) (l : Layout) (buffer : Buffer) (fb : Framebuffer),
      attach font buffer l = .ok fb → l.Addresses (l.width - 1) (l.height - 1) →
        ∀ calls : Array DrawCall, (∀ call ∈ calls, call.Addressed) →
          fb.run calls ≠ .error .outOfBuffer := by
  intro claimed
  obtain ⟨buffer, fb, attached⟩ := attach_short .twoGlyphs
  have addressed : (⟨16, 16, 8, 4, .bgr⟩ : Layout).Addresses 15 15 := by decide
  refine claimed _ _ buffer fb attached addressed #[.clear ⟨0xFF⟩, .present] ?_
    (run_clear_present attached addressed (by decide) (by decide) ⟨0xFF⟩)
  intro call member
  simp only [List.mem_toArray, List.mem_cons, List.not_mem_nil, or_false] at member
  rcases member with rfl | rfl <;> exact trivial

end Framebuffer

end GlyphConsole
