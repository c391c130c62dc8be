import GlyphConsole.Framebuffer.Pixel
import GlyphConsole.Grid
import GlyphConsole.SurfaceError
import GlyphConsole.Word

/-!
# GlyphConsole.Framebuffer.Layout — where the pixels are

A `Layout` describes a framebuffer: its size in pixels, the number of pixels from one
row to the next (the stride, which may leave padding at the end of a row), and the
format and width of a pixel.  The pixel in column `x` and row `y` begins at byte
`offset x y`; its bytes can be told apart only if words can hold their numbers
(`Addresses`).

A layout is accepted for a buffer if the console can draw its pixels and the buffer
holds as many bytes as `byteLength` asks for; the format is looked at first.
-/

namespace GlyphConsole

set_option autoImplicit false

/-- The shape of a framebuffer. -/
structure Layout where
  width : Nat
  height : Nat
  /-- Pixels from one row to the next. -/
  stride : Nat
  bytesPerPixel : Nat
  format : PixelFormat
deriving DecidableEq, Inhabited

namespace Layout

def extent (l : Layout) : Extent := ⟨l.width, l.height⟩

/-- The bytes that the layout covers. -/
def byteLength (l : Layout) : Nat := l.stride * l.height * l.bytesPerPixel

/-- Where the bytes of a pixel begin. -/
def offset (l : Layout) (x y : Nat) : Nat := (y * l.stride + x) * l.bytesPerPixel

/-- Words can hold the numbers of a pixel's bytes and of the byte after them. -/
def Addresses (l : Layout) (x y : Nat) : Prop := Word.Fits (l.offset x y + l.bytesPerPixel)

instance (l : Layout) (x y : Nat) : Decidable (l.Addresses x y) :=
  inferInstanceAs (Decidable (Word.Fits _))

/-- Refuse a layout that cannot be drawn on with a buffer of so many bytes. -/
def check (l : Layout) (bytes : Nat) : Except SurfaceError Unit :=
  if l.format.supports l.bytesPerPixel then
    if bytes < l.byteLength then .error (.bufferTooShort l.byteLength bytes) else .ok ()
  else .error (.unsupportedFormat l.format l.bytesPerPixel)

/-- If one pixel's bytes have numbers, so have those of the pixels above and to the left. -/
theorem Addresses.mono {l : Layout} {x y x' y' : Nat} (last : l.Addresses x y) (hx : x' ≤ x)
    (hy : y' ≤ y) : l.Addresses x' y' := by
  have offsets : l.offset x' y' ≤ l.offset x y :=
    Nat.mul_le_mul_right _ (Nat.add_le_add (Nat.mul_le_mul_right _ hy) hx)
  exact Nat.lt_of_le_of_lt (Nat.add_le_add_right offsets _) last

theorem check_eq_ok_iff (l : Layout) (bytes : Nat) :
    l.check bytes = .ok () ↔
      l.format.supports l.bytesPerPixel = true ∧ l.byteLength ≤ bytes := by
  unfold check
  split
  · rename_i supported
    split
    · simp only [reduceCtorEq, supported, true_and, false_iff]
      omega
    · simp only [supported, true_and, true_iff]
      omega
  · rename_i unsupported
    simp [unsupported]

end Layout

end GlyphConsole
