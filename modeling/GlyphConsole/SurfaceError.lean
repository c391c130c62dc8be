import GlyphConsole.Fault
import GlyphConsole.Framebuffer.Pixel
import GlyphConsole.Grid

/-!
# GlyphConsole.SurfaceError — why there is no console

A console needs a surface that holds at least one cell, and a framebuffer needs
pixels the console can draw and as many bytes as its layout says.  Each way to
fall short is a constructor of `SurfaceError`, which carries the figures that its
`message` reports.

Setting up may also stop for want of memory.  A `SetupFailure` is one or the other.
-/

namespace GlyphConsole

set_option autoImplicit false

/-- Why a surface, or a console on it, could not be set up. -/
inductive SurfaceError where
  | noFramebuffer
  | unsupportedFormat (format : PixelFormat) (bytesPerPixel : Nat)
  | tooSmall (surface cell : Extent)
  | bufferTooShort (expected actual : Nat)
deriving DecidableEq, Inhabited

def SurfaceError.message : SurfaceError → String
  | .noFramebuffer => "bootloader did not provide a framebuffer"
  | .unsupportedFormat format bytesPerPixel =>
      "unsupported pixel format " ++ format.describe ++ " (" ++ toString bytesPerPixel ++
        " bytes per pixel)"
  | .tooSmall surface cell =>
      "surface of " ++ toString surface.width ++ "x" ++ toString surface.height ++
        " px cannot hold a " ++ toString cell.width ++ "x" ++ toString cell.height ++ " cell"
  | .bufferTooShort expected actual =>
      "framebuffer holds " ++ toString actual ++ " bytes, layout needs " ++ toString expected

/-- Why setting up a surface or a console came to nothing. -/
inductive SetupFailure where
  | refused (error : SurfaceError)
  | stopped (fault : Fault)
deriving DecidableEq, Inhabited

end GlyphConsole
