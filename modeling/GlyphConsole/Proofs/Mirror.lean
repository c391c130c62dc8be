import GlyphConsole.Picture
import GlyphConsole.Proofs.Calls
import GlyphConsole.Proofs.Raster

/-!
# GlyphConsole.Proofs.Mirror — the framebuffer shows the picture

A picture has a color at every pixel (`Picture.colorAt`): in a cell of eight by sixteen
pixels what the font says, in the margins the background.  A framebuffer `Mirrors` a
picture if the bytes of its back buffer are the encoded colors of the picture, and so are
those of the front buffer where nothing is dirty.

Clearing makes any framebuffer mirror (`Sound.clear`), painting a cell and presenting keep
it (`Mirrors.paintCell`, `Mirrors.present`), and none of them is a fault.  Every operation
of a console ends with a `present`, so in the end nothing is dirty and the front buffer
shows the picture.
-/

namespace GlyphConsole

set_option autoImplicit false

/-- The bitmap is the one to draw for the character. -/
inductive Font.Draws (font : Font) (c : Char) : Font.Bitmap → Prop where
  | own {bitmap : Bitmap} (found : font.find? c = some bitmap) : font.Draws c bitmap
  | standIn {bitmap : Bitmap} (missing : font.find? c = none)
      (found : font.find? '?' = some bitmap) : font.Draws c bitmap
  | nothing (missing : font.find? c = none) (noStandIn : font.find? '?' = none) :
      font.Draws c #v[0, 0, 0, 0, 0, 0, 0, 0]

theorem Font.draws_bitmap (font : Font) (c : Char) : font.Draws c (font.bitmap c) := by
  unfold Font.bitmap
  cases own : font.find? c with
  | some bitmap => exact .own own
  | none =>
      cases standIn : font.find? '?' with
      | some bitmap => exact .standIn own standIn
      | none => exact .nothing own standIn

theorem Font.Draws.eq_bitmap {font : Font} {c : Char} {bitmap : Bitmap}
    (draws : font.Draws c bitmap) : bitmap = font.bitmap c := by
  unfold Font.bitmap
  cases draws with
  | own found => rw [found]; rfl
  | standIn missing found => rw [missing, found]; rfl
  | nothing missing noStandIn => rw [missing, noStandIn]; rfl

/-- The color of a pixel in a cell. -/
def Shown.pixel (shown : Shown) (font : Font) (background : Color) (column row : Nat) : Color :=
  match shown with
  | .filled color => color
  | .glyph char color => if font.litInCell char column row then color else background

/-- The color of a pixel of the picture, in cells of eight by sixteen pixels. -/
def Picture.colorAt (picture : Picture) (font : Font) (background : Color) (x y : Nat) : Color :=
  match picture.get? ⟨x / 8, y / 16⟩ with
  | some shown => shown.pixel font background (x % 8) (y % 16)
  | none => background

/-- The color that is read where a color was painted. -/
def PixelFormat.readBack (format : PixelFormat) (color : Color) : Color :=
  match format with
  | .rgb | .bgr => .ofChannels color.red color.green color.blue
  | .gray => .ofChannels color.luma color.luma color.luma
  | .other .. => .black

theorem PixelFormat.decode_encode {format : PixelFormat} {width : Nat}
    (supported : format.supports width = true) (color : Color) :
    format.decode (format.encode width color) = format.readBack color := by
  cases format with
  | rgb => exact decode_encode_rgb supported color
  | bgr => exact decode_encode_bgr supported color
  | gray =>
      obtain rfl : width = 1 := of_decide_eq_true supported
      exact decode_encode_gray color
  | other red green blue => exact absurd supported Bool.false_ne_true

/-- A color is read back without its top byte, or as the gray of its brightness. -/
theorem PixelFormat.word_readBack {format : PixelFormat} {width : Nat}
    (supported : format.supports width = true) (color : Color) :
    (format.readBack color).word.toNat =
      if format = .gray then color.luma.toNat * 0x10101 else color.word.toNat % 0x1000000 := by
  have channels : (Color.ofChannels color.red color.green color.blue).word.toNat =
      color.word.toNat % 0x1000000 := by
    rw [Color.word_ofChannels]
    simp only [Color.red, Color.green, Color.blue, UInt8.toNat_ofNat']
    omega
  rcases supports_cases supported with ⟨rfl, -⟩ | ⟨rfl, -⟩ | ⟨rfl, -⟩
  · rw [if_neg (by decide)]
    exact channels
  · rw [if_neg (by decide)]
    exact channels
  · rw [if_pos rfl, readBack, Color.word_ofChannels]
    omega

namespace Picture

theorem colorAt_set {picture : Picture} {c : Cell} (inside : picture.grid.Contains c)
    (shown : Shown) (font : Font) (background : Color) (x y : Nat) :
    colorAt (picture.set c shown) font background x y =
      if x / 8 = c.column ∧ y / 16 = c.row then shown.pixel font background (x % 8) (y % 16)
      else picture.colorAt font background x y := by
  have here : (⟨x / 8, y / 16⟩ : Cell) = c ↔ x / 8 = c.column ∧ y / 16 = c.row := by
    cases c
    simp only [Cell.mk.injEq]
  unfold colorAt
  rw [Cells.get?_set]
  by_cases place : x / 8 = c.column ∧ y / 16 = c.row
  · rw [if_pos ⟨here.2 place, inside⟩, if_pos place]
  · rw [if_neg fun both => place (here.1 both.1), if_neg place]

theorem colorAt_clear (picture : Picture) (font : Font) (color : Color) (x y : Nat) :
    (picture.apply (.clear color)).colorAt font color x y = color := by
  unfold colorAt
  rw [get?_apply_clear]
  split
  · rename_i filled
    split at filled
    · obtain rfl := Option.some.inj filled
      rfl
    · exact nomatch filled
  · rfl

end Picture

namespace Rect

/-- The pixel lies in the rectangle that has changed. -/
def Covers (changed : Option Rect) (x y : Nat) : Prop := ∃ r, changed = some r ∧ r.Has x y

/-- What has changed goes on to be covered, and what is added is covered too. -/
theorem covers_cover {changed : Option Rect} {r : Rect} {x y : Nat}
    (either : Covers changed x y ∨ r.Has x y) : Covers (cover changed r) x y := by
  unfold cover
  split
  · rename_i empty
    rcases either with before | ⟨columns, rows⟩
    · exact before
    · unfold IsEmpty at empty
      omega
  · cases changed with
    | none =>
        rcases either with ⟨_, missing, -⟩ | added
        · exact nomatch missing
        · exact ⟨r, rfl, added⟩
    | some before =>
        refine ⟨before.hull r, rfl, ?_⟩
        rcases either with ⟨_, same, columns, rows⟩ | ⟨columns, rows⟩
        · obtain rfl := Option.some.inj same
          unfold Has hull
          dsimp only
          omega
        · unfold Has hull
          dsimp only
          omega

end Rect

theorem Layout.Spans.hull {l : Layout} {r s : Rect} (first : l.Spans r) (second : l.Spans s) :
    l.Spans (r.hull s) := by
  obtain ⟨left, right, top, bottom⟩ := first
  obtain ⟨left', right', top', bottom'⟩ := second
  refine ⟨?_, ?_, ?_, ?_⟩ <;>
    · unfold Rect.hull
      dsimp only
      omega

theorem Layout.Spans.cover {l : Layout} {changed : Option Rect} {r : Rect}
    (before : ∀ s, changed = some s → l.Spans s) (added : l.Spans r) :
    ∀ s, Rect.cover changed r = some s → l.Spans s := by
  intro s covered
  unfold Rect.cover at covered
  split at covered
  · exact before s covered
  · cases changed with
    | none =>
        obtain rfl := Option.some.inj covered
        exact added
    | some first =>
        obtain rfl := Option.some.inj covered
        exact (before first rfl).hull added

namespace Framebuffer

variable {fb : Framebuffer} {picture : Picture} {font : Font} {background : Color}

/-! ## Cells of the surface -/

theorem fit?_eq {l : Layout} (wide : 8 ≤ l.width) (high : 16 ≤ l.height) :
    Grid.fit? l.extent cell = some ⟨l.width / 8, l.height / 16⟩ := by
  have columns : ¬ l.width / 8 = 0 := by omega
  have rows : ¬ l.height / 16 = 0 := by omega
  show (if _ then none else if l.width / 8 = 0 ∨ l.height / 16 = 0 then none else _) = _
  rw [if_neg (by decide), if_neg (by omega)]
  rfl

/-- The pixels of a cell. -/
def pixelsOf (c : Cell) : Rect := ⟨c.column * 8, c.row * 16, c.column * 8 + 8, c.row * 16 + 16⟩

theorem has_pixelsOf (c : Cell) (x y : Nat) :
    (pixelsOf c).Has x y ↔ x / 8 = c.column ∧ y / 16 = c.row := by
  unfold Rect.Has pixelsOf
  dsimp only
  omega

/-- Cells of the grid lie on the surface. -/
theorem spans_pixelsOf {l : Layout} {c : Cell}
    (inside : (⟨l.width / 8, l.height / 16⟩ : Grid).Contains c) : l.Spans (pixelsOf c) := by
  obtain ⟨column, row⟩ := inside
  dsimp only at column row
  refine ⟨?_, ?_, ?_, ?_⟩ <;>
    · unfold pixelsOf
      dsimp only
      omega

theorem cellRect?_eq {l : Layout} {c : Cell}
    (inside : (⟨l.width / 8, l.height / 16⟩ : Grid).Contains c)
    (small : l.width < 0x8000000000000000 ∧ l.height < 0x8000000000000000) :
    cellRect? l c = .ok (some (pixelsOf c)) := by
  obtain ⟨column, row⟩ := inside
  dsimp only at column row
  have fits : Word.Fits (c.column * 8) ∧ Word.Fits (c.row * 16) := by
    unfold Word.Fits
    omega
  have fitsRight : ¬ ¬ Word.Fits (c.column * 8 + 8) := by
    unfold Word.Fits
    omega
  have fitsBelow : ¬ ¬ Word.Fits (c.row * 16 + 16) := by
    unfold Word.Fits
    omega
  have right : ¬ l.width < c.column * 8 + 8 := by omega
  have bottom : ¬ l.height < c.row * 16 + 16 := by omega
  show (if Word.Fits (c.column * 8) ∧ Word.Fits (c.row * 16) then
    if ¬ Word.Fits (c.column * 8 + 8) then _
    else if l.width < c.column * 8 + 8 then _
    else if ¬ Word.Fits (c.row * 16 + 16) then _
    else if l.height < c.row * 16 + 16 then _ else _ else _) = _
  rw [if_pos fits, if_neg fitsRight, if_neg right, if_neg fitsBelow, if_neg bottom]
  rfl

/-! ## Mirroring a picture -/

/-- Both buffers hold every pixel, and what is dirty is on the surface. -/
structure Sound (fb : Framebuffer) : Prop where
  wide : 8 ≤ fb.layout.width
  high : 16 ≤ fb.layout.height
  back_holds : fb.layout.Holds fb.back
  front_holds : fb.layout.Holds fb.front
  dirty_on : ∀ r, fb.dirty = some r → fb.layout.Spans r

/-- The back buffer has the colors of the picture in a font and over a background, and the
front buffer has those of the back buffer where nothing is dirty. -/
structure Mirrors (font : Font) (background : Color) (fb : Framebuffer) (picture : Picture) : Prop
    extends Sound fb where
  font_eq : fb.font = font
  background_eq : fb.background = background
  grid_eq : picture.grid = ⟨fb.layout.width / 8, fb.layout.height / 16⟩
  painted : ∀ i, fb.layout.columnOf i < fb.layout.width → fb.layout.rowOf i < fb.layout.height →
    fb.back.get? i =
      (fb.layout.format.encode fb.layout.bytesPerPixel
        (picture.colorAt font background (fb.layout.columnOf i) (fb.layout.rowOf i)))[
          i % fb.layout.bytesPerPixel]?
  shown : ∀ i, fb.layout.columnOf i < fb.layout.width → fb.layout.rowOf i < fb.layout.height →
    ¬ Rect.Covers fb.dirty (fb.layout.columnOf i) (fb.layout.rowOf i) →
      fb.front.get? i = fb.back.get? i

/-- A layout whose pixels are all in memory is small enough for all arithmetic on it. -/
theorem pixels_lt {l : Layout} {b : Buffer} (holds : l.Holds b) :
    l.width * l.height < 0x800000000000 := by
  have pos := Layout.bytesPerPixel_pos holds.supported
  have rows : l.width * l.height ≤ l.stride * l.height := Nat.mul_le_mul_right _ holds.width_le
  have bytes : l.stride * l.height ≤ l.byteLength := Nat.le_mul_of_pos_right _ pos
  have length := holds.length_le
  have limit := b.size_lt
  simp only [Memory.limit] at limit
  unfold Buffer.size at length
  omega

theorem small_of_holds {l : Layout} {b : Buffer} (holds : l.Holds b) (wide : 0 < l.width)
    (high : 0 < l.height) : l.width < 0x8000000000000000 ∧ l.height < 0x8000000000000000 := by
  have pixels := pixels_lt holds
  have columns := Nat.le_mul_of_pos_right l.width high
  have rows := Nat.le_mul_of_pos_left l.height wide
  omega

theorem Sound.small (sound : fb.Sound) :
    fb.layout.width < 0x8000000000000000 ∧ fb.layout.height < 0x8000000000000000 :=
  small_of_holds sound.back_holds (Nat.lt_of_lt_of_le (by decide) sound.wide)
    (Nat.lt_of_lt_of_le (by decide) sound.high)

theorem Sound.painted (sound : fb.Sound) {r : Rect} (spans : fb.layout.Spans r)
    (shade : Nat → Nat → Color) : (fb.painted r shade).Sound :=
  ⟨sound.wide, sound.high, sound.back_holds.of_size (size_painted fb r shade), sound.front_holds,
    Layout.Spans.cover sound.dirty_on spans⟩

/-- Painting mirrors a picture that differs from the one before in the rectangle. -/
theorem Mirrors.painted_of (mirrors : Mirrors font background fb picture) {r : Rect}
    (spans : fb.layout.Spans r) {shade : Nat → Nat → Color} {after : Picture}
    (sized : after.grid = picture.grid)
    (color : ∀ x y, after.colorAt font background x y =
      if r.Has x y then shade x y else picture.colorAt font background x y) :
    Mirrors font background (fb.painted r shade) after := by
  refine ⟨mirrors.toSound.painted spans shade, mirrors.font_eq, mirrors.background_eq,
    sized.trans mirrors.grid_eq, ?_, ?_⟩
  · intro i column row
    have before := mirrors.painted i column row
    rw [get?_painted mirrors.back_holds spans, color]
    show _ = (fb.layout.format.encode fb.layout.bytesPerPixel
      (if r.Has (fb.layout.columnOf i) (fb.layout.rowOf i) then _ else _))[_]?
    split
    · rfl
    · exact before
  · intro i column row clean
    have covered := mt Rect.covers_cover clean
    have outside : ¬ r.Has (fb.layout.columnOf i) (fb.layout.rowOf i) := mt .inr covered
    rw [get?_painted mirrors.back_holds spans, if_neg outside]
    exact mirrors.shown i column row (mt .inl covered)

/-- Showing something in a cell of the grid paints its pixels. -/
theorem Mirrors.paintCell (mirrors : Mirrors font background fb picture) {c : Cell}
    (inside : picture.grid.Contains c) (shown : Shown) {shade : Rect → Nat → Nat → Color}
    (shades : ∀ x y, (pixelsOf c).Has x y →
      shade (pixelsOf c) x y = shown.pixel font background (x % 8) (y % 16)) :
    ∃ after, fb.paintCell c shade = .ok after ∧ after.layout = fb.layout ∧
      Mirrors font background after (picture.set c shown) := by
  have onGrid := mirrors.grid_eq ▸ inside
  have spans := spans_pixelsOf onGrid
  refine ⟨fb.painted (pixelsOf c) (shade (pixelsOf c)), ?_, rfl, ?_⟩
  · unfold Framebuffer.paintCell
    rw [cellRect?_eq onGrid mirrors.small]
    exact paint_eq mirrors.back_holds spans _
  · refine mirrors.painted_of spans (Cells.grid_set _ _ _) fun x y => ?_
    rw [Picture.colorAt_set inside]
    by_cases place : x / 8 = c.column ∧ y / 16 = c.row
    · have has := (has_pixelsOf c x y).2 place
      rw [if_pos place, if_pos has, shades x y has]
    · rw [if_neg place, if_neg (mt (has_pixelsOf c x y).1 place)]

/-- Clearing makes every framebuffer mirror a cleared picture. -/
theorem Sound.clear (sound : fb.Sound)
    (grid : picture.grid = ⟨fb.layout.width / 8, fb.layout.height / 16⟩) (color : Color) :
    ∃ after, fb.apply (.clear color) = .ok after ∧ after.layout = fb.layout ∧
      Mirrors fb.font color after (picture.apply (.clear color)) := by
  let whole : Rect := ⟨0, 0, fb.layout.width, fb.layout.height⟩
  have wide := sound.wide
  have high := sound.high
  have spans : fb.layout.Spans whole :=
    ⟨show 0 < fb.layout.width by omega, Nat.le_refl _, show 0 < fb.layout.height by omega,
      Nat.le_refl _⟩
  have recolored : ({ fb with background := color } : Framebuffer).Sound :=
    ⟨wide, high, sound.back_holds, sound.front_holds, sound.dirty_on⟩
  have everywhere : ∀ i, fb.layout.columnOf i < fb.layout.width →
      fb.layout.rowOf i < fb.layout.height →
        whole.Has (fb.layout.columnOf i) (fb.layout.rowOf i) := fun i column row =>
    ⟨⟨Nat.zero_le _, column⟩, Nat.zero_le _, row⟩
  refine ⟨({ fb with background := color } : Framebuffer).painted whole fun _ _ => color,
    paint_eq recolored.back_holds spans _, rfl, ?_⟩
  refine ⟨recolored.painted spans _, rfl, rfl, grid, ?_, ?_⟩
  · intro i column row
    have painted := get?_painted recolored.back_holds spans (fun _ _ => color) i
    rw [if_pos (everywhere i column row)] at painted
    rw [painted, Picture.colorAt_clear]
    rfl
  · intro i column row clean
    exact absurd (Rect.covers_cover (.inr (everywhere i column row))) clean

/-- Presenting shows what is dirty. -/
theorem Mirrors.present (mirrors : Mirrors font background fb picture) :
    ∃ after, fb.present = .ok after ∧ after.layout = fb.layout ∧ after.dirty = none ∧
      Mirrors font background after picture := by
  cases changed : fb.dirty with
  | none =>
      refine ⟨fb, ?_, rfl, changed, mirrors⟩
      simp only [Framebuffer.present, changed]
  | some r =>
      have spans := mirrors.dirty_on r changed
      have nonempty := spans.top_lt
      have bottom := spans.bottom_le
      have rows : r.top + (r.bottom - r.top) ≤ fb.layout.height := by omega
      obtain ⟨front, copied, size, bytes⟩ :=
        presentRows_eq mirrors.back_holds spans mirrors.front_holds rows
      have count : r.top + (r.bottom - r.top) = r.bottom := by omega
      rw [count] at bytes
      refine ⟨{ fb with front, dirty := none }, ?_, rfl, rfl, ?_⟩
      · simp only [Framebuffer.present, changed, copied]
      -- A byte outside the dirty rows was the same on both sides before.
      · refine ⟨⟨mirrors.wide, mirrors.high, mirrors.back_holds,
          mirrors.front_holds.of_size size, nofun⟩, mirrors.font_eq, mirrors.background_eq,
          mirrors.grid_eq, mirrors.painted, fun i column row _ => ?_⟩
        show front.get? i = fb.back.get? i
        rw [bytes]
        split
        · rfl
        · rename_i clean
          refine mirrors.shown i column row ?_
          rintro ⟨s, same, has⟩
          obtain rfl := Option.some.inj (changed.symm.trans same)
          exact clean has

/-- A call that paints does to the framebuffer what it does to the picture. -/
theorem Mirrors.apply (mirrors : Mirrors font background fb picture) {call : DrawCall}
    (paints : call.Paints picture.grid background) :
    ∃ after, fb.apply call = .ok after ∧ after.layout = fb.layout ∧
      Mirrors font background after (picture.apply call) := by
  cases call with
  | glyph c char color =>
      refine mirrors.paintCell paints (.glyph char color) fun x y has => ?_
      obtain ⟨column, row⟩ := (has_pixelsOf c x y).1 has
      have inCell : x - (pixelsOf c).left = x % 8 ∧ y - (pixelsOf c).top = y % 16 := by
        unfold pixelsOf
        dsimp only
        omega
      rw [inCell.1, inCell.2, mirrors.font_eq, mirrors.background_eq]
      rfl
  | fill c color => exact mirrors.paintCell paints (.filled color) fun _ _ _ => rfl
  | clear color =>
      obtain rfl : color = background := paints
      obtain rfl := mirrors.font_eq
      exact mirrors.toSound.clear mirrors.grid_eq color
  | present => exact paints.elim

/-! ## Whole operations -/

theorem run_append (fb : Framebuffer) (first second : Array DrawCall) :
    fb.run (first ++ second) = (fb.run first).bind fun after => after.run second :=
  Array.foldlM_append

theorem run_push (fb : Framebuffer) (calls : Array DrawCall) (call : DrawCall) :
    fb.run (calls.push call) = (fb.run calls).bind fun after => after.apply call :=
  Array.foldlM_push

theorem run_cons (fb : Framebuffer) (call : DrawCall) (rest : List DrawCall) :
    fb.run (call :: rest).toArray = (fb.apply call).bind fun after => after.run rest.toArray := by
  simp only [run, List.foldlM_toArray, List.foldlM_cons]
  rfl

/-- Calls that paint go the same way on the framebuffer and on the picture. -/
theorem Mirrors.run (mirrors : Mirrors font background fb picture) {calls : Array DrawCall}
    (paints : ∀ call ∈ calls, call.Paints picture.grid background) :
    ∃ after, fb.run calls = .ok after ∧ after.layout = fb.layout ∧
      Mirrors font background after (picture.run calls) := by
  obtain ⟨calls⟩ := calls
  induction calls generalizing fb picture with
  | nil => exact ⟨fb, rfl, rfl, mirrors⟩
  | cons call rest ih =>
      obtain ⟨first, applied, layout, mirrorsFirst⟩ :=
        mirrors.apply (paints call (List.mem_toArray.2 List.mem_cons_self))
      obtain ⟨after, ran, restLayout, mirrorsAfter⟩ := ih mirrorsFirst fun other member => by
        rw [Picture.grid_apply]
        exact paints other (List.mem_toArray.2 (List.mem_cons_of_mem _ (List.mem_toArray.1 member)))
      refine ⟨after, ?_, restLayout.trans layout, ?_⟩
      · rw [run_cons, applied]
        exact ran
      · simp only [Picture.run, List.foldl_toArray, List.foldl_cons] at mirrorsAfter ⊢
        exact mirrorsAfter

/-- The calls of an operation show the picture. -/
theorem Mirrors.presents (mirrors : Mirrors font background fb picture) {calls : Array DrawCall}
    (presents : Presents picture.grid background calls) :
    ∃ after, fb.run calls = .ok after ∧ after.layout = fb.layout ∧ after.dirty = none ∧
      Mirrors font background after (picture.run calls) := by
  obtain ⟨body, paints, rfl⟩ := presents
  obtain ⟨painted, ran, layout, mirrorsPainted⟩ := mirrors.run paints
  obtain ⟨after, presented, afterLayout, clean, mirrorsAfter⟩ := mirrorsPainted.present
  refine ⟨after, ?_, afterLayout.trans layout, clean, ?_⟩
  · rw [run_push, ran]
    exact presented
  · rw [Picture.run_push]
    exact mirrorsAfter

/-- A pixel on the surface is read as the color that its bytes encode. -/
theorem pixel_of_bytes (holds : fb.layout.Holds fb.front) {x y : Nat} {color : Color}
    (column : x < fb.layout.width) (row : y < fb.layout.height)
    (painted : ∀ i, fb.layout.columnOf i = x → fb.layout.rowOf i = y → fb.front.get? i =
      (fb.layout.format.encode fb.layout.bytesPerPixel color)[i % fb.layout.bytesPerPixel]?) :
    fb.pixel x y = .ok (fb.layout.format.readBack color) := by
  have inStride := Nat.lt_of_lt_of_le column holds.width_le
  have fits := Nat.le_trans (Layout.pixel_le_byteLength inStride row) holds.length_le
  have addressed := holds.addresses column row
  have length := PixelFormat.length_encode holds.supported color
  have bytes : fb.front.read (fb.layout.offset x y) fb.layout.bytesPerPixel =
      some (fb.layout.format.encode fb.layout.bytesPerPixel color) := by
    rw [← length] at fits
    have read := Buffer.read_eq_some fits fun k inPixel => by
      rw [length] at inPixel
      obtain ⟨ownColumn, ownRow, place⟩ := Layout.offset_add (y := y) inStride inPixel
      rw [painted _ ownColumn ownRow, place]
    rw [length] at read
    exact read
  rw [pixel, if_pos ⟨column, row⟩, if_pos addressed, bytes]
  exact congrArg Except.ok (PixelFormat.decode_encode holds.supported _)

/-- A framebuffer that mirrors, with nothing dirty, shows the color of every pixel. -/
theorem Mirrors.pixel_eq (mirrors : Mirrors font background fb picture) (clean : fb.dirty = none)
    {x y : Nat} (column : x < fb.layout.width) (row : y < fb.layout.height) :
    fb.pixel x y = .ok (fb.layout.format.readBack (picture.colorAt font background x y)) := by
  refine pixel_of_bytes mirrors.front_holds column row ?_
  intro i ownColumn ownRow
  subst ownColumn ownRow
  have unchanged : ¬ Rect.Covers fb.dirty (fb.layout.columnOf i) (fb.layout.rowOf i) := by
    rintro ⟨_, changed, -⟩
    exact (Option.some_ne_none _).symm (clean.symm.trans changed)
  rw [mirrors.shown i column row unchanged, mirrors.painted i column row]

theorem attach_eq (font : Font) {l : Layout} {buffer : Buffer}
    (supported : l.format.supports l.bytesPerPixel = true) (holds : l.byteLength ≤ buffer.size) :
    attach font buffer l =
      .ok { font, layout := l, front := buffer, back := buffer.slice 0 l.byteLength } := by
  unfold attach
  rw [(Layout.check_eq_ok_iff l buffer.size).2 ⟨supported, holds⟩]

/-- A framebuffer that was attached shows the bytes it was attached to, and draws on a copy of
those that the layout covers. -/
theorem eq_of_attach {l : Layout} {buffer : Buffer} (attached : attach font buffer l = .ok fb) :
    fb = { font, layout := l, front := buffer, back := buffer.slice 0 l.byteLength } ∧
      l.format.supports l.bytesPerPixel = true ∧ l.byteLength ≤ buffer.size ∧
      (buffer.slice 0 l.byteLength).size = l.byteLength := by
  unfold attach at attached
  split at attached
  · rename_i checked
    obtain ⟨supported, length⟩ := (Layout.check_eq_ok_iff l buffer.size).1 checked
    have inBuffer : l.byteLength ≤ buffer.bytes.size := length
    have size : (buffer.slice 0 l.byteLength).size = l.byteLength := by
      show (buffer.bytes.extract 0 l.byteLength).size = _
      rw [Array.size_extract, Nat.min_eq_left inBuffer, Nat.sub_zero]
    exact ⟨(Except.ok.inj attached).symm, supported, length, size⟩
  · exact nomatch attached

/-- If its rows do not overlap, both buffers hold the surface. -/
theorem holds_of_attach {l : Layout} {buffer : Buffer} (attached : attach font buffer l = .ok fb)
    (padded : l.width ≤ l.stride) :
    fb = { font, layout := l, front := buffer, back := buffer.slice 0 l.byteLength } ∧
      l.Holds buffer ∧ l.Holds (buffer.slice 0 l.byteLength) := by
  obtain ⟨eq, supported, length, size⟩ := eq_of_attach attached
  exact ⟨eq, ⟨supported, padded, length⟩, ⟨supported, padded, Nat.le_of_eq size.symm⟩⟩

/-- A framebuffer that was attached is sound. -/
theorem sound_of_attach {l : Layout} {buffer : Buffer} (attached : attach font buffer l = .ok fb)
    (wide : 8 ≤ l.width) (high : 16 ≤ l.height) (padded : l.width ≤ l.stride) :
    fb.Sound ∧ fb.font = font ∧ fb.layout = l := by
  obtain ⟨rfl, front, back⟩ := holds_of_attach attached padded
  exact ⟨⟨wide, high, back, front, nofun⟩, rfl, rfl⟩

end Framebuffer

namespace Console

open Framebuffer (Mirrors)

variable {con : Console} {font : Font} {fb : Framebuffer} {picture : Picture}

/-- A run of a console that mirrors goes on to mirror, and leaves nothing dirty. -/
theorem mirrors_run (regular : con.viewport.Regular) (grid : picture.grid = con.grid)
    (mirrors : Mirrors font con.config.background fb picture) (clean : fb.dirty = none)
    (actions : List Action) :
    ∃ after, fb.run (con.run actions).2.draws = .ok after ∧ after.layout = fb.layout ∧
      after.dirty = none ∧
      Mirrors font con.config.background after (picture.run (con.run actions).2.draws) := by
  induction actions generalizing con fb picture with
  | nil => exact ⟨fb, rfl, rfl, clean, mirrors⟩
  | cons action rest ih =>
      obtain ⟨done, ran, layout, cleanDone, mirrorsDone⟩ : ∃ after,
          fb.run (con.act action).1.2.draws = .ok after ∧ after.layout = fb.layout ∧
          after.dirty = none ∧ Mirrors font con.config.background after
            (picture.run (con.act action).1.2.draws) := by
        have draws := draws_act regular.toAligned action
        split at draws
        · rw [draws]
          exact ⟨fb, rfl, rfl, clean, mirrors⟩
        · rw [← grid] at draws
          exact mirrors.presents draws
      have same : (picture.run (con.act action).1.2.draws).grid = (con.act action).1.1.grid := by
        rw [Picture.grid_run, grid]
        exact (grid_act regular.usable action).symm
      rw [← config_act con action] at mirrorsDone
      obtain ⟨after, restRan, restLayout, cleanAfter, mirrorsAfter⟩ :=
        ih (regular_act regular action) same mirrorsDone cleanDone
      refine ⟨after, ?_, restLayout.trans layout, cleanAfter, ?_⟩
      · rw [run_cons, Output.draws_append, Framebuffer.run_append, ran]
        exact restRan
      · rw [run_cons, Output.draws_append, Picture.run_append, ← config_act con action]
        exact mirrorsAfter

/-- A console can be created on every sound framebuffer, which then mirrors its picture. -/
theorem mirrors_start (sound : fb.Sound) (config : ConsoleConfig)
    (picture : Picture) (grid : picture.grid = ⟨fb.layout.width / 8, fb.layout.height / 16⟩) :
    create fb.layout.extent Framebuffer.cell config =
        .ok (start ⟨fb.layout.width / 8, fb.layout.height / 16⟩ config) ∧
      (⟨fb.layout.width / 8, fb.layout.height / 16⟩ : Grid).Usable ∧
      ∃ after, fb.run (start ⟨fb.layout.width / 8, fb.layout.height / 16⟩ config).2.draws =
          .ok after ∧ after.layout = fb.layout ∧ after.dirty = none ∧
        Mirrors fb.font config.background after
          (picture.run (start ⟨fb.layout.width / 8, fb.layout.height / 16⟩ config).2.draws) := by
  have fits := Framebuffer.fit?_eq sound.wide sound.high
  have small : (⟨fb.layout.width / 8, fb.layout.height / 16⟩ : Grid).size < 0x100000000000 := by
    have pixels := Framebuffer.pixels_lt sound.back_holds
    have columns : fb.layout.width / 8 * 8 * (fb.layout.height / 16) ≤
        fb.layout.width * fb.layout.height :=
      Nat.mul_le_mul (Nat.div_mul_le_self _ _) (Nat.div_le_self _ _)
    rw [Nat.mul_right_comm] at columns
    show fb.layout.width / 8 * (fb.layout.height / 16) < 0x100000000000
    omega
  have usable := Grid.Usable.of_fit? fits small
  refine ⟨create_eq_ok_iff.2 ⟨_, fits, small, rfl⟩, usable, ?_⟩
  obtain ⟨cleared, ran, layout, mirrors⟩ := sound.clear grid config.background
  have presents : Presents (picture.apply (.clear config.background)).grid config.background
      #[.fill ⟨0, 0⟩ config.cursorColor, .present] := by
    refine ⟨#[.fill ⟨0, 0⟩ config.cursorColor], fun call member => ?_, rfl⟩
    rw [Picture.grid_apply, grid]
    obtain rfl : call = .fill ⟨0, 0⟩ config.cursorColor := by
      simpa only [List.mem_toArray, List.mem_singleton] using member
    exact ⟨usable.columns_pos, usable.rows_pos⟩
  obtain ⟨after, rest, restLayout, clean, mirrorsAfter⟩ := mirrors.presents presents
  refine ⟨after, ?_, restLayout.trans layout, clean, ?_⟩
  · rw [draws_start usable, Framebuffer.run_cons, ran]
    exact rest
  · rw [draws_start usable]
    exact mirrorsAfter

/-- **A console on a framebuffer shows what it draws.**  On every framebuffer that is
accepted, holds a cell, and has rows that do not overlap, whatever its font and its bytes
were, a console can be created, none of its calls is ever a fault, and after the creation
and after every operation every pixel shows the color that the recorded picture gives it,
without its top byte or as the gray of its brightness.  That is the color of a filled cell;
in the cell of a glyph the color of the glyph where its bitmap has a bit, and the
background elsewhere; and the background outside of the cells. -/
theorem framebuffer_shows_picture {font : Font} {l : Layout} {buffer : Buffer} {fb : Framebuffer}
    (attached : Framebuffer.attach font buffer l = .ok fb) (wide : 8 ≤ l.width)
    (high : 16 ≤ l.height) (padded : l.width ≤ l.stride) (config : ConsoleConfig) :
    ∃ con out, create l.extent Framebuffer.cell config = .ok (con, out) ∧
      con.grid = ⟨l.width / 8, l.height / 16⟩ ∧
      ∀ actions : List Action,
        let draws := out.draws ++ (con.run actions).2.draws
        let picture := (Picture.blank ⟨l.width / 8, l.height / 16⟩).run draws
        ∃ after, fb.run draws = .ok after ∧ ∀ x y, x < l.width → y < l.height →
          ∃ color shown, after.pixel x y = .ok shown ∧
            (shown.word.toNat = if l.format = .gray then color.luma.toNat * 0x10101
              else color.word.toNat % 0x1000000) ∧
            match picture.get? ⟨x / 8, y / 16⟩ with
            | some (.filled own) => color = own
            | some (.glyph char own) =>
                ∃ bitmap : Font.Bitmap, font.Draws char bitmap ∧
                  color = if bitmap[y % 16 / 2].toNat.testBit (x % 8) then own
                    else config.background
            | none => color = config.background := by
  obtain ⟨sound, rfl, rfl⟩ := Framebuffer.sound_of_attach attached wide high padded
  obtain ⟨created, usable, begun, ran, layout, clean, mirrors⟩ :=
    mirrors_start sound config (.blank ⟨fb.layout.width / 8, fb.layout.height / 16⟩) rfl
  have origin := congrArg Viewport.grid
    (viewport_start ⟨fb.layout.width / 8, fb.layout.height / 16⟩ config)
  refine ⟨(start ⟨fb.layout.width / 8, fb.layout.height / 16⟩ config).1,
    (start ⟨fb.layout.width / 8, fb.layout.height / 16⟩ config).2, created, origin,
    fun actions => ?_⟩
  intro draws picture
  obtain ⟨after, restRan, restLayout, restClean, mirrorsAfter⟩ :=
    mirrors_run (regular_start usable config) ((Picture.grid_run _ _).trans origin.symm)
      mirrors clean actions
  refine ⟨after, ?_, fun x y column row => ?_⟩
  · rw [Framebuffer.run_append, ran]
    exact restRan
  · have same := restLayout.trans layout
    have shows := mirrorsAfter.pixel_eq restClean (x := x) (y := y) (same ▸ column) (same ▸ row)
    rw [same, ← Picture.run_append] at shows
    have supported := sound.front_holds.supported
    refine ⟨_, _, shows, PixelFormat.word_readBack supported _, ?_⟩
    unfold Picture.colorAt
    cases cell : picture.get? ⟨x / 8, y / 16⟩ with
    | none => rfl
    | some shown =>
        cases shown with
        | filled own => rfl
        | glyph char own =>
            refine ⟨fb.font.bitmap char, fb.font.draws_bitmap char, ?_⟩
            have inCell : y % 16 < 16 := Nat.mod_lt _ (by decide)
            rw [← fb.font.litInCell_of_lt char (x % 8) inCell]
            rfl

/-- A letter and its neighbor that the font does not have, in the first two of three cells, on
gray pixels with one byte of padding a row. -/
theorem framebuffer_shows_picture_small :
    ∃ (buffer : Buffer) (fb : Framebuffer),
      Framebuffer.attach .twoGlyphs buffer ⟨24, 16, 25, 1, .gray⟩ = .ok fb ∧
        8 ≤ 24 ∧ 16 ≤ 16 ∧ 24 ≤ 25 ∧
        ∃ after, fb.run ((start ⟨3, 1⟩ {}).2.draws ++
            ((start ⟨3, 1⟩ {}).1.run [.write "Aé" .pureGreen]).2.draws) = .ok after ∧
          (∃ shown, after.pixel 2 2 = .ok shown ∧ shown.word.toNat = 0x959595) ∧
          (∃ shown, after.pixel 5 2 = .ok shown ∧ shown.word.toNat = 0x000000) ∧
          ∃ shown, after.pixel 9 1 = .ok shown ∧ shown.word.toNat = 0x959595 := by
  obtain ⟨buffer, size⟩ : ∃ buffer : Buffer, buffer.size = 400 :=
    ⟨⟨.replicate 400 7, by rw [Array.size_replicate]; decide⟩, Array.size_replicate⟩
  have holds : (⟨24, 16, 25, 1, .gray⟩ : Layout).byteLength ≤ buffer.size := by
    rw [size]
    decide
  have attached := Framebuffer.attach_eq .twoGlyphs (l := ⟨24, 16, 25, 1, .gray⟩) rfl holds
  obtain ⟨con, out, created, -, shows⟩ :=
    framebuffer_shows_picture attached (by decide) (by decide) (by decide) {}
  have started : create ⟨24, 16⟩ Framebuffer.cell {} =
      .ok ((start ⟨3, 1⟩ {}).1, (start ⟨3, 1⟩ {}).2) :=
    create_eq_ok_iff.2 ⟨⟨3, 1⟩, by decide, by decide, rfl⟩
  obtain ⟨rfl, rfl⟩ := Prod.mk.inj (Except.ok.inj (created.symm.trans started))
  obtain ⟨after, ran, pixels⟩ := shows [.write "Aé" .pureGreen]
  have glyphs : ∀ x y char, x < 24 → y < 16 →
      ((Picture.blank ⟨3, 1⟩).run ((start ⟨3, 1⟩ {}).2.draws ++
        ((start ⟨3, 1⟩ {}).1.run [.write "Aé" .pureGreen]).2.draws)).get? ⟨x / 8, y / 16⟩ =
          some (.glyph char .pureGreen) →
      ∃ shown, after.pixel x y = .ok shown ∧ shown.word.toNat =
        (if Font.twoGlyphs.litInCell char (x % 8) (y % 16) then Color.pureGreen
          else .black).luma.toNat * 0x10101 := by
    intro x y char column row cell
    obtain ⟨color, shown, read, gray, shades⟩ := pixels x y column row
    simp only [Nat.reduceDiv, cell] at shades
    obtain ⟨bitmap, draws, rfl⟩ := shades
    obtain rfl := draws.eq_bitmap
    refine ⟨shown, read, ?_⟩
    rw [Font.litInCell_of_lt _ _ _ (Nat.mod_lt y (by decide))]
    exact gray
  refine ⟨buffer, _, attached, by decide, by decide, by decide, after, ran, ?_, ?_, ?_⟩
  · obtain ⟨shown, read, gray⟩ := glyphs 2 2 'A' (by decide) (by decide) (by decide +kernel)
    exact ⟨shown, read, gray.trans (by decide +kernel)⟩
  · obtain ⟨shown, read, gray⟩ := glyphs 5 2 'A' (by decide) (by decide) (by decide +kernel)
    exact ⟨shown, read, gray.trans (by decide +kernel)⟩
  · obtain ⟨shown, read, gray⟩ := glyphs 9 1 'é' (by decide) (by decide) (by decide +kernel)
    exact ⟨shown, read, gray.trans (by decide +kernel)⟩

end Console

end GlyphConsole
