import GlyphConsole.Color

/-!
# GlyphConsole.Framebuffer.Pixel — pixels as bytes

A framebuffer stores a pixel in one of five encodings: red or blue first, in three
or four bytes, or one byte of brightness.  `PixelFormat.encode` writes a color and
`PixelFormat.decode` reads one back; the fourth byte is always 255 and is never
read.  Every other pair of format and width is unsupported: it has no bytes and
reads as black.

Supported widths are exactly the lengths written (`length_encode`).  A color in
three channels is read back without its top byte (`decode_encode_rgb`,
`decode_encode_bgr`), a brightness as the gray of that level (`decode_encode_gray`).
-/

namespace GlyphConsole

set_option autoImplicit false

/-- The order of the channels in memory. -/
inductive PixelFormat where
  | rgb
  | bgr
  | gray
  /-- A layout given by the bit positions of its channels, which is not drawn on. -/
  | other (red green blue : Nat)
deriving DecidableEq, Inhabited

namespace PixelFormat

def describe : PixelFormat → String
  | .rgb => "Rgb"
  | .bgr => "Bgr"
  | .gray => "U8"
  | .other red green blue =>
      "Unknown \x7b red_position: " ++ toString red ++ ", green_position: " ++ toString green ++
        ", blue_position: " ++ toString blue ++ " \x7d"

/-- The console can draw on pixels of this format and width. -/
def supports : PixelFormat → Nat → Bool
  | .rgb, width => width = 3 ∨ width = 4
  | .bgr, width => width = 3 ∨ width = 4
  | .gray, width => width = 1
  | .other .., _ => false

/-- The bytes of a color, in memory order. -/
def encode (format : PixelFormat) (width : Nat) (c : Color) : List UInt8 :=
  match format, width with
  | .rgb, 4 => [c.red, c.green, c.blue, 255]
  | .rgb, 3 => [c.red, c.green, c.blue]
  | .bgr, 4 => [c.blue, c.green, c.red, 255]
  | .bgr, 3 => [c.blue, c.green, c.red]
  | .gray, 1 => [c.luma]
  | _, _ => []

/-- The color that bytes in memory order stand for. -/
def decode (format : PixelFormat) (bytes : List UInt8) : Color :=
  match format, bytes with
  | .rgb, [r, g, b, _] => .ofChannels r g b
  | .rgb, [r, g, b] => .ofChannels r g b
  | .bgr, [b, g, r, _] => .ofChannels r g b
  | .bgr, [b, g, r] => .ofChannels r g b
  | .gray, [v] => .ofChannels v v v
  | _, _ => .black

theorem supports_cases {format : PixelFormat} {width : Nat} (ok : format.supports width = true) :
    (format = .rgb ∧ (width = 3 ∨ width = 4)) ∨ (format = .bgr ∧ (width = 3 ∨ width = 4)) ∨
      (format = .gray ∧ width = 1) := by
  cases format <;> simp_all [supports]

theorem length_encode {format : PixelFormat} {width : Nat} (ok : format.supports width = true)
    (c : Color) : (format.encode width c).length = width := by
  rcases supports_cases ok with ⟨rfl, rfl | rfl⟩ | ⟨rfl, rfl | rfl⟩ | ⟨rfl, rfl⟩ <;> rfl

/-- No color reaches the fourth byte of a pixel. -/
theorem encode_fourth {format : PixelFormat} (ok : format.supports 4 = true) (c : Color) :
    (format.encode 4 c)[3]? = some 0xFF := by
  rcases supports_cases ok with ⟨rfl, -⟩ | ⟨rfl, -⟩ | ⟨-, narrow⟩
  · rfl
  · rfl
  · exact absurd narrow (by decide)

theorem decode_encode_rgb {width : Nat} (ok : PixelFormat.rgb.supports width = true) (c : Color) :
    decode .rgb (encode .rgb width c) = .ofChannels c.red c.green c.blue := by
  rcases supports_cases ok with ⟨-, rfl | rfl⟩ | ⟨h, -⟩ | ⟨h, -⟩
  · rfl
  · rfl
  · exact absurd h (by decide)
  · exact absurd h (by decide)

theorem decode_encode_bgr {width : Nat} (ok : PixelFormat.bgr.supports width = true) (c : Color) :
    decode .bgr (encode .bgr width c) = .ofChannels c.red c.green c.blue := by
  rcases supports_cases ok with ⟨h, -⟩ | ⟨-, rfl | rfl⟩ | ⟨h, -⟩
  · exact absurd h (by decide)
  · rfl
  · rfl
  · exact absurd h (by decide)

theorem decode_encode_gray (c : Color) :
    decode .gray (encode .gray 1 c) = .ofChannels c.luma c.luma c.luma := rfl

end PixelFormat

end GlyphConsole
