import GlyphConsole.Draw
import GlyphConsole.Fault
import GlyphConsole.Font
import GlyphConsole.Framebuffer.Buffer
import GlyphConsole.Framebuffer.Layout

/-!
# GlyphConsole.Framebuffer.Basic — drawing on bytes

A `Framebuffer` is a surface made of pixels.  It draws on a `back` buffer and shows
the `front` one; `present` copies over what has changed since the last time.  What has
changed is remembered as one rectangle, the smallest around everything painted.

Cells are eight by sixteen pixels.  `paint` is the only way to change a pixel: it gives
every pixel of a rectangle the color that a shade says, row by row.  A filled cell has
one shade, a glyph is shaded by the font over the color of the last `clear`.  A cell
that is not wholly inside the surface is not painted.

Pixels are found by arithmetic on words, so painting or reading a pixel whose bytes
have no numbers is a fault.  On a surface whose rows do not overlap no pixel is that
far away.

`present` copies row by row, from the left to the right edge of the rectangle.  Where
rows are shorter than the width of the surface the last of them may reach past the
end of the buffer, and that is a fault.
-/

namespace GlyphConsole

set_option autoImplicit false

/-- The pixels with `left ≤ x < right` and `top ≤ y < bottom`. -/
structure Rect where
  left : Nat
  top : Nat
  right : Nat
  bottom : Nat
deriving DecidableEq, Inhabited

namespace Rect

def IsEmpty (r : Rect) : Prop := r.right ≤ r.left ∨ r.bottom ≤ r.top

instance (r : Rect) : Decidable r.IsEmpty := inferInstanceAs (Decidable (_ ∨ _))

/-- The smallest rectangle around two. -/
def hull (r s : Rect) : Rect :=
  ⟨min r.left s.left, min r.top s.top, max r.right s.right, max r.bottom s.bottom⟩

/-- Add a rectangle to what has changed; an empty one adds nothing. -/
def cover (changed : Option Rect) (r : Rect) : Option Rect :=
  if r.IsEmpty then changed
  else
    match changed with
    | some before => some (before.hull r)
    | none => some r

end Rect

/-- A surface of pixels in memory. -/
structure Framebuffer where
  font : Font
  layout : Layout
  front : Buffer
  back : Buffer
  /-- The color of the last clear, behind every glyph. -/
  background : Color := .black
  /-- What has been painted and not presented. -/
  dirty : Option Rect := none

namespace Framebuffer

/-- The size of a cell in pixels. -/
def cell : Extent := ⟨Font.width, Font.height * Font.rowRepeat⟩

/-- A framebuffer over existing bytes, which it begins by showing. -/
def attach (font : Font) (buffer : Buffer) (layout : Layout) : Except SurfaceError Framebuffer :=
  match layout.check buffer.size with
  | .ok () => .ok { font, layout, front := buffer, back := buffer.slice 0 layout.byteLength }
  | .error e => .error e

/-- A framebuffer over new bytes that repeat a pattern.  A layout that is refused is
refused before the bytes are made. -/
def create (font : Font) (length : Nat) (pattern : Array UInt8) (layout : Layout) :
    Except SetupFailure Framebuffer :=
  match Memory.reserve length, layout.check length with
  | .error fault, _ => .error (.stopped fault)
  | .ok (), .error e => .error (.refused e)
  | .ok (), .ok () =>
      match Buffer.filled length pattern with
      | .ok buffer => (attach font buffer layout).mapError .refused
      | .error fault => .error (.stopped fault)

/-- The framebuffer that the boot loader hands over, if it does. -/
def ofBoot : Option (Except SetupFailure Framebuffer) → Except SetupFailure Framebuffer
  | some handed => handed
  | none => .error (.refused .noFramebuffer)

/-- A framebuffer of its own, without padding. -/
def scratch (font : Font) (width height : Nat) : Except SetupFailure Framebuffer :=
  let layout : Layout := { width, height, stride := width, bytesPerPixel := 4, format := .bgr }
  create font layout.byteLength #[] layout

/-! ## Painting the back buffer -/

/-- The bytes of the back buffer with one pixel painted. -/
def plot (l : Layout) (back : Buffer) (x y : Nat) (color : Color) : Buffer :=
  back.write (l.offset x y) (l.format.encode l.bytesPerPixel color)

/-- A pixel that the buffer does not reach is not painted. -/
theorem plot_of_reach_le {l : Layout} {back : Buffer} {x y : Nat}
    (supported : l.format.supports l.bytesPerPixel = true)
    (beyond : back.size / l.bytesPerPixel - y * l.stride ≤ x) (color : Color) :
    plot l back x y color = back := by
  have length := PixelFormat.length_encode supported color
  have pos : 0 < l.bytesPerPixel := by
    rcases PixelFormat.supports_cases supported with ⟨-, h | h⟩ | ⟨-, h | h⟩ | ⟨-, h⟩ <;> omega
  have past : ¬ l.offset x y + l.bytesPerPixel ≤ back.size := by
    intro inside
    have whole : (y * l.stride + x + 1) * l.bytesPerPixel ≤ back.size := by
      rw [Nat.succ_mul]
      exact inside
    have reached := (Nat.le_div_iff_mul_le pos).2 whole
    omega
  simp only [plot, Buffer.write, length, past, if_false]

/-- One row of a rectangle, as far as the buffer reaches. -/
def plotRow (l : Layout) (r : Rect) (shade : Nat → Nat → Color) (back : Buffer) (y : Nat) :
    Buffer :=
  let reach := back.size / l.bytesPerPixel - y * l.stride
  (List.range' r.left (min r.right reach - r.left)).foldl
    (fun back x => plot l back x y (shade x y)) back

/-- The framebuffer with every pixel of a rectangle in the color that `shade` says. -/
def painted (fb : Framebuffer) (r : Rect) (shade : Nat → Nat → Color) : Framebuffer :=
  { fb with
    back := (List.range' r.top (r.bottom - r.top)).foldl (plotRow fb.layout r shade) fb.back
    dirty := Rect.cover fb.dirty r }

/-- Paint a rectangle.  If the bytes of its last pixel have numbers, all of them have. -/
def paint (fb : Framebuffer) (r : Rect) (shade : Nat → Nat → Color) : Except Fault Framebuffer :=
  if r.IsEmpty then .ok fb
  else if fb.layout.Addresses (r.right - 1) (r.bottom - 1) then .ok (fb.painted r shade)
  else .error .overflow

/-- The pixels of a cell, if all of them are on the surface.  A cell that begins past
the end of all words is not on it; one that ends there is a fault. -/
def cellRect? (l : Layout) (c : Cell) : Except Fault (Option Rect) :=
  let x := c.column * cell.width
  let y := c.row * cell.height
  if Word.Fits x ∧ Word.Fits y then
    if ¬ Word.Fits (x + cell.width) then .error .overflow
    else if l.width < x + cell.width then .ok none
    else if ¬ Word.Fits (y + cell.height) then .error .overflow
    else if l.height < y + cell.height then .ok none
    else .ok (some ⟨x, y, x + cell.width, y + cell.height⟩)
  else .ok none

/-- Paint the pixels of a cell, if all of them are on the surface. -/
def paintCell (fb : Framebuffer) (c : Cell) (shade : Rect → Nat → Nat → Color) :
    Except Fault Framebuffer :=
  match cellRect? fb.layout c with
  | .ok (some r) => fb.paint r (shade r)
  | .ok none => .ok fb
  | .error fault => .error fault

/-- Fill a cell with one color. -/
def fillCell (fb : Framebuffer) (c : Cell) (color : Color) : Except Fault Framebuffer :=
  fb.paintCell c fun _ _ _ => color

/-- Draw a glyph over a cell. -/
def drawGlyph (fb : Framebuffer) (c : Cell) (char : Char) (color : Color) :
    Except Fault Framebuffer :=
  fb.paintCell c fun r x y =>
    if fb.font.litInCell char (x - r.left) (y - r.top) then color else fb.background

/-- Fill the whole surface, and put the color behind the glyphs to come. -/
def clear (fb : Framebuffer) (color : Color) : Except Fault Framebuffer :=
  { fb with background := color }.paint ⟨0, 0, fb.layout.width, fb.layout.height⟩ fun _ _ => color

/-! ## Presenting -/

/-- The bytes of one row of a rectangle: where they begin and how many there are. -/
def rowSpan (l : Layout) (r : Rect) (y : Nat) : Nat × Nat :=
  (l.offset r.left y, (r.right - r.left) * l.bytesPerPixel)

/-- Copy one row of the back buffer to the front. -/
def presentRow (fb : Framebuffer) (r : Rect) (front : Buffer) (y : Nat) : Except Fault Buffer :=
  let row := rowSpan fb.layout r y
  if row.1 + row.2 ≤ front.size ∧ row.1 + row.2 ≤ fb.back.size then
    .ok (Buffer.copy fb.back row.1 row.2 front)
  else .error .outOfBuffer

/-- Copy so many rows of the back buffer to the front, from row `y` on. -/
def presentRows (fb : Framebuffer) (r : Rect) (y : Nat) : Nat → Buffer → Except Fault Buffer
  | 0, front => .ok front
  | count + 1, front =>
      match fb.presentRow r front y with
      | .ok front => fb.presentRows r (y + 1) count front
      | .error fault => .error fault

/-- Show what has been painted. -/
def present (fb : Framebuffer) : Except Fault Framebuffer :=
  match fb.dirty with
  | some r =>
      match fb.presentRows r r.top (r.bottom - r.top) fb.front with
      | .ok front => .ok { fb with front, dirty := none }
      | .error fault => .error fault
  | none => .ok fb

/-- The color that the surface shows at a pixel; black outside of it. -/
def pixel (fb : Framebuffer) (x y : Nat) : Except Fault Color :=
  if x < fb.layout.width ∧ y < fb.layout.height then
    if fb.layout.Addresses x y then
      match fb.front.read (fb.layout.offset x y) fb.layout.bytesPerPixel with
      | some bytes => .ok (fb.layout.format.decode bytes)
      | none => .ok .black
    else .error .overflow
  else .ok .black

/-! ## As a surface -/

def apply (fb : Framebuffer) : DrawCall → Except Fault Framebuffer
  | .glyph c char color => fb.drawGlyph c char color
  | .fill c color => fb.fillCell c color
  | .clear color => fb.clear color
  | .present => fb.present

/-- The framebuffer after a list of calls. -/
def run (fb : Framebuffer) (calls : Array DrawCall) : Except Fault Framebuffer :=
  calls.foldlM apply fb

end Framebuffer

end GlyphConsole
