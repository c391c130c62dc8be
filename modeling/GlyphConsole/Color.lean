/-!
# GlyphConsole.Color — packed colors and their channels

A `Color` is a 32-bit word `0xRRGGBB`.  The three low bytes are the channels
`red`, `green` and `blue`; the top byte is carried along and no channel reads
it, so two colors that differ there look the same.

One-byte pixels show the `luma` of a color.  Its weights 77, 150 and 29 sum to
256, so the result is a byte without clipping, white is 255 and every gray keeps its
level up to rounding.

`ofChannels` packs three bytes; the channels of a packed color are those bytes
(`red_ofChannels`, `green_ofChannels`, `blue_ofChannels`).
-/

namespace GlyphConsole

set_option autoImplicit false

/-- A color `0xRRGGBB`, in a word whose top byte has no meaning. -/
structure Color where
  word : UInt32
deriving DecidableEq, Inhabited

namespace Color

def red (c : Color) : UInt8 := UInt8.ofNat (c.word.toNat / 65536)

def green (c : Color) : UInt8 := UInt8.ofNat (c.word.toNat / 256)

def blue (c : Color) : UInt8 := UInt8.ofNat c.word.toNat

/-- The brightness of a color as the eye weighs its channels. -/
def luma (c : Color) : UInt8 :=
  UInt8.ofNat ((c.red.toNat * 77 + c.green.toNat * 150 + c.blue.toNat * 29) / 256)

/-- The color with the given channels and an empty top byte. -/
def ofChannels (r g b : UInt8) : Color :=
  ⟨UInt32.ofNat (r.toNat * 65536 + g.toNat * 256 + b.toNat)⟩

theorem word_ofChannels (r g b : UInt8) :
    (ofChannels r g b).word.toNat = r.toNat * 65536 + g.toNat * 256 + b.toNat := by
  have hr := r.toNat_lt
  have hg := g.toNat_lt
  have hb := b.toNat_lt
  simp only [ofChannels, UInt32.toNat_ofNat']
  omega

@[simp] theorem red_ofChannels (r g b : UInt8) : (ofChannels r g b).red = r := by
  have hr := r.toNat_lt
  have hg := g.toNat_lt
  have hb := b.toNat_lt
  apply UInt8.toNat.inj
  simp only [red, word_ofChannels, UInt8.toNat_ofNat']
  omega

@[simp] theorem green_ofChannels (r g b : UInt8) : (ofChannels r g b).green = g := by
  have hg := g.toNat_lt
  have hb := b.toNat_lt
  apply UInt8.toNat.inj
  simp only [green, word_ofChannels, UInt8.toNat_ofNat']
  omega

@[simp] theorem blue_ofChannels (r g b : UInt8) : (ofChannels r g b).blue = b := by
  have hb := b.toNat_lt
  apply UInt8.toNat.inj
  simp only [blue, word_ofChannels, UInt8.toNat_ofNat']
  omega

/-! ## The palette of the console and its shell -/

def black : Color := ⟨0x000000⟩
def white : Color := ⟨0xFFFFFF⟩
def pureRed : Color := ⟨0xFF0000⟩
def pureGreen : Color := ⟨0x00FF00⟩
def yellow : Color := ⟨0xFFFF00⟩
def cyan : Color := ⟨0x00FFFF⟩
def magenta : Color := ⟨0xFF00FF⟩
def teal : Color := ⟨0x3BD6C6⟩

end Color

end GlyphConsole
